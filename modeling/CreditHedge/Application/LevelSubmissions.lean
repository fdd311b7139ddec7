import CreditHedge.Application.TriggerStretches

/-!
# At most one entry per level

A coordinator's life: calls of `on_trigger` are made, each runs its stretches, and between any two
stretches others may run theirs, the gate may open or close, and a submission may raise. What
keeps a level from being entered twice is a latch that is set before the await; what keeps a
blocked crossing from being caught up on later is that the level is disarmed before it is looked
at.

`Session` is such a life with its history. Each call keeps what it has looked at, and `noted` has
the calls whose prices became the previous one, in that order; so the move a call saw is two
neighbours in it (`Descends`). `CallSound` is what holds of one call: what it has looked at and what
it has left are the levels its move came down on, in ladder order, and each submission passed the
risk gate with the earlier ones counted in. `Invariant` adds the latch and the segment.

That a loop of the tasks themselves goes through the states of a session is in `TriggerLoops`.
-/

set_option autoImplicit false

namespace CreditHedge

/-! ## Submissions -/

structure Submission where
  level : HedgeLevel
  gate : Except Failure Bool
  request : PlaceOrderRequest
  proposal : TradeProposal

/-- The submission a look has come to, if it has. -/
def Look.submission? (look : Look) : Option Submission :=
  match look.verdict with
  | .ok (.submit request proposal) =>
    some { level := look.level, gate := look.gate, request, proposal }
  | _ => none

def Look.Blocked (look : Look) : Prop := ∃ reasons, look.verdict = .ok (.blocked reasons)

def submissions (looks : List Look) : List Submission := looks.filterMap Look.submission?

@[simp] theorem submissions_nil : submissions [] = [] := rfl

@[simp] theorem submissions_append (looks looks' : List Look) :
    submissions (looks ++ looks') = submissions looks ++ submissions looks' :=
  List.filterMap_append

theorem submissions_cons_none {look : Look} (h : look.submission? = none) (looks : List Look) :
    submissions (look :: looks) = submissions looks :=
  List.filterMap_cons_none h

theorem mem_submissions {looks : List Look} {sub : Submission} :
    sub ∈ submissions looks ↔ ∃ look ∈ looks, look.submission? = some sub :=
  List.mem_filterMap

/-- A submission is one of its look's level. -/
theorem Look.of_submission? {look : Look} {sub : Submission} (h : look.submission? = some sub) :
    sub.level = look.level ∧ look.verdict = .ok (.submit sub.request sub.proposal) := by
  unfold submission? at h
  split at h
  · rename_i request proposal hverdict
    obtain rfl := Option.some.inj h
    exact ⟨rfl, hverdict⟩
  · exact absurd h (by simp)

theorem submissions_sublist (looks : List Look) :
    ((submissions looks).map Submission.level).Sublist (looks.map Look.level) := by
  induction looks with
  | nil => exact .slnil
  | cons look looks ih =>
    cases hsub : look.submission? with
    | none =>
      rw [submissions_cons_none hsub]
      exact ih.cons _
    | some sub =>
      rw [submissions, List.filterMap_cons_some hsub, List.map_cons, List.map_cons,
        (Look.of_submission? hsub).1]
      exact ih.cons_cons _

/-- The risk state with the entries submitted counted in. -/
def RiskState.spent (riskState : RiskState) (submitted : List Submission) : RiskState :=
  submitted.foldl (fun state sub => state.afterEntry sub.proposal) riskState

/-! ## Sessions -/

structure TriggerCall extends Trigger where
  progress : Progress := .called
  looks : List Look := []

structure Session where
  memory : Memory
  calls : List TriggerCall := []
  /-- The calls whose prices have become the previous price, by number, and their events. -/
  noted : List (ℕ × TriggerPriceEvent) := []

/-- What happens next. -/
inductive SessionMove where
  /-- Others change the attributes that are theirs. -/
  | outside (killSwitch : Option KillSwitchState) (oneLevel : OneLevelState)
  | call (t : Trigger)
  /-- A call runs its first stretch, or the one after its submission has returned. -/
  | goOn (i : ℕ)
  /-- The submission of a call raises. -/
  | raise (i : ℕ)

namespace Session

/-- A call that has run a stretch. -/
def enter (s : Session) (i : ℕ) (call : TriggerCall) (stretch : Stretch) : Session where
  memory := stretch.memory
  calls :=
    s.calls.set i
      { call with progress := stretch.progress, looks := call.looks ++ stretch.looks }
  noted := if stretch.noted then s.noted ++ [(i, call.event)] else s.noted

variable (c : MultiLevelCoordinator)

def goOn (s : Session) (i : ℕ) : Session :=
  match s.calls[i]? with
  | none => s
  | some call =>
    match call.progress with
    | .called => s.enter i call (c.first call.toTrigger s.memory)
    | .submitting _ _ rest riskState => s.enter i call (c.sweep rest riskState s.memory)
    | .over => s

def raise (s : Session) (i : ℕ) : Session :=
  match s.calls[i]? with
  | none => s
  | some call =>
    match call.progress with
    | .submitting _ _ _ _ => { s with calls := s.calls.set i { call with progress := .over } }
    | _ => s

def move (s : Session) : SessionMove → Session
  | .outside killSwitch oneLevel => { s with memory := { s.memory with killSwitch, oneLevel } }
  | .call t => { s with calls := s.calls ++ [{ toTrigger := t }] }
  | .goOn i => s.goOn c i
  | .raise i => s.raise i

def run (s : Session) (moves : List SessionMove) : Session := moves.foldl (move c) s

/-- A new coordinator, whatever the rest of the process is like. -/
def start (killSwitch : Option KillSwitchState) (oneLevel : OneLevelState) : Session where
  memory := { killSwitch, oneLevel }

end Session

/-- The event of a call took over from one of the same connection that was above the entry, and is
    itself at the entry or below. -/
def Descends (noted : List (ℕ × TriggerPriceEvent)) (i : ℕ) (level : HedgeLevel) : Prop :=
  ∃ before previous event after, noted = before ++ previous :: (i, event) :: after ∧
    previous.2.connectionGeneration = event.connectionGeneration ∧
    level.entryPrice < previous.2.observedPrice ∧ event.observedPrice ≤ level.entryPrice

theorem Descends.append {noted : List (ℕ × TriggerPriceEvent)} {i : ℕ} {level : HedgeLevel}
    (h : Descends noted i level) (more : List (ℕ × TriggerPriceEvent)) :
    Descends (noted ++ more) i level := by
  obtain ⟨before, previous, event, after, rfl, hmove⟩ := h
  exact ⟨before, previous, event, after ++ more, by simp, hmove⟩

/-- Ladder order: the next level is entered at a price that is not higher. -/
def HedgeLevel.Above (level level' : HedgeLevel) : Prop :=
  level.levelId < level'.levelId ∧ level'.entryPrice ≤ level.entryPrice

/-! ## What an offer comes to -/

/-- What is submitted is a proposal that the risk gate has approved as it is. -/
theorem offerEntry_approved {instrument : InstrumentSpec} {position : PutCreditSpreadPosition}
    {limits : RiskLimits} {level : HedgeLevel} {recoveryDebt : ℚ} {symbol orderLinkId : String}
    {riskState : RiskState} {request : PlaceOrderRequest} {proposal : TradeProposal}
    (h : offerEntry instrument position limits level recoveryDebt symbol orderLinkId riskState =
      .ok (.submit request proposal)) :
    (RiskEngine.evaluate proposal riskState limits).approved = true ∧
      proposal.opensNewLevel = true ∧ request.quantity = proposal.quantity := by
  simp only [offerEntry, bind_eq_ok] at h
  obtain ⟨quantized, -, h⟩ := h
  split at h
  · exact absurd (Except.ok.inj h) (by simp)
  · rw [bind_eq_ok] at h
    obtain ⟨proposal', hproposal, h⟩ := h
    split at h
    · exact absurd (Except.ok.inj h) (by simp)
    · rename_i happroved
      split at h
      · exact absurd h (by simp [throw, throwThe, MonadExceptOf.throw])
      · rw [bind_eq_ok] at h
        obtain ⟨request', hrequest, h⟩ := h
        obtain ⟨rfl, rfl⟩ := EntryOffer.submit.inj (Except.ok.inj h)
        have hfields := PlaceOrderRequest.create_eq_ok.mp hrequest
        refine ⟨Bool.not_eq_false _ ▸ happroved,
          TradeProposal.opensNewLevel_of_create hproposal, ?_⟩
        rw [hfields, (TradeProposal.of_create hproposal).1]
        rfl

namespace MultiLevelCoordinator

variable {c : MultiLevelCoordinator}

/-- A level is submitted behind an open gate, if it was not before, and with the approval of the
    risk gate. -/
theorem offer_submit {memory : Memory} {riskState : RiskState} {level : HedgeLevel}
    {request : PlaceOrderRequest} {proposal : TradeProposal}
    (h : c.offer memory riskState level = .ok (.submit request proposal)) :
    memory.gateAllows c.hasEntryGate = .ok true ∧
      memory.multiLevel.submittedOrderIds level.levelId = none ∧
      (RiskEngine.evaluate proposal riskState c.riskLimits).approved = true ∧
      proposal.opensNewLevel = true ∧ request.quantity = proposal.quantity := by
  unfold offer at h
  rw [bind_eq_ok] at h
  obtain ⟨allowed, hgate, h⟩ := h
  split at h
  · exact absurd (Except.ok.inj h) (by simp)
  · rename_i hallowed
    dsimp only at h
    split at h
    · exact absurd (Except.ok.inj h) (by simp)
    · rename_i hreasons
      have htrue : allowed = true := by simpa using hallowed
      refine ⟨htrue ▸ hgate, ?_, offerEntry_approved h⟩
      by_contra hsome
      refine hreasons ?_
      rw [preflightReasons, if_pos (Option.isSome_iff_ne_none.mpr hsome)]
      simp

end MultiLevelCoordinator

/-! ## What a stretch comes to -/

/-- A submission as it has to be, of a call with this risk state. -/
structure Submission.Granted (c : MultiLevelCoordinator) (riskState : RiskState)
    (sub : Submission) : Prop where
  gate : sub.gate = .ok true
  approved : (RiskEngine.evaluate sub.proposal riskState c.riskLimits).approved = true
  opens : sub.proposal.opensNewLevel = true
  whole : sub.request.quantity = sub.proposal.quantity

namespace MultiLevelCoordinator

variable {c : MultiLevelCoordinator}

/-- A stretch of the loop ends with the call, or with a submission, which is its only one. -/
inductive Swept (c : MultiLevelCoordinator) (riskState : RiskState) (memory : Memory)
    (stretch : Stretch) : Prop
  | over (hnone : submissions stretch.looks = []) (hover : stretch.progress = .over)
      (hids : stretch.memory.multiLevel.submittedOrderIds = memory.multiLevel.submittedOrderIds)
  | submitted (sub : Submission) (rest : List HedgeLevel)
      (hone : submissions stretch.looks = [sub])
      (hprogress : stretch.progress =
        .submitting sub.level sub.request rest (riskState.afterEntry sub.proposal))
      (hfree : memory.multiLevel.submittedOrderIds sub.level.levelId = none)
      (hids : stretch.memory.multiLevel.submittedOrderIds =
        Function.update memory.multiLevel.submittedOrderIds sub.level.levelId
          (some sub.request.orderLinkId))
      (hgranted : sub.Granted c riskState)

theorem Swept.ne_called {riskState : RiskState} {memory : Memory} {stretch : Stretch}
    (h : c.Swept riskState memory stretch) : stretch.progress ≠ .called := by
  cases h with
  | «over» _ hover _ => simp [hover]
  | submitted _ _ _ hprogress _ _ _ => simp [hprogress]

theorem swept_sweep (crossed : List HedgeLevel) (riskState : RiskState) (memory : Memory) :
    c.Swept riskState memory (c.sweep crossed riskState memory) := by
  induction crossed generalizing memory with
  | nil => exact .over rfl rfl rfl
  | cons level rest ih =>
    unfold sweep
    dsimp only
    split
    · rename_i failure hoffer
      exact .over (by simp [submissions, Look.submission?, hoffer]) rfl rfl
    · rename_i reasons hoffer
      -- The look adds no submission, and disarming leaves the latch alone.
      have hlook : Look.submission?
          { level, gate := (disarm level memory).gateAllows c.hasEntryGate
            verdict := c.offer (disarm level memory) riskState level } = none := by
        simp [Look.submission?, hoffer]
      cases ih (disarm level memory) with
      | «over» hnone hover hids =>
        refine .over ?_ hover hids
        rwa [submissions_cons_none hlook]
      | submitted sub rest' hone hprogress hfree hids hgranted =>
        refine .submitted sub rest' ?_ hprogress hfree hids hgranted
        rwa [submissions_cons_none hlook]
    · rename_i request proposal hoffer
      obtain ⟨hgate, hfree, happroved, hopens, hwhole⟩ := offer_submit hoffer
      exact .submitted
        { level, gate := (disarm level memory).gateAllows c.hasEntryGate, request, proposal }
        rest (by simp [submissions, Look.submission?, hoffer]) rfl hfree rfl
        ⟨hgate, happroved, hopens, hwhole⟩

/-- The levels it has looked at are the first ones, and those it has left come next. -/
theorem sweep_leads (crossed : List HedgeLevel) (riskState : RiskState) (memory : Memory) :
    (c.sweep crossed riskState memory).looks.map Look.level ++
      (c.sweep crossed riskState memory).progress.rest <+: crossed := by
  induction crossed generalizing memory with
  | nil => exact List.prefix_rfl
  | cons level rest ih =>
    unfold sweep
    dsimp only
    split
    · exact List.prefix_append [level] rest
    · exact (List.prefix_cons_inj level).mpr (ih (disarm level memory))
    · exact List.prefix_rfl

/-- The segment is not touched by the loop. -/
theorem sweep_segment (crossed : List HedgeLevel) (riskState : RiskState) (memory : Memory) :
    (c.sweep crossed riskState memory).memory.multiLevel.previousPrice =
        memory.multiLevel.previousPrice ∧
      (c.sweep crossed riskState memory).memory.multiLevel.connectionGeneration =
        memory.multiLevel.connectionGeneration ∧
      (c.sweep crossed riskState memory).noted = false := by
  induction crossed generalizing memory with
  | nil => exact ⟨rfl, rfl, rfl⟩
  | cons level rest ih =>
    unfold sweep
    dsimp only
    split
    · exact ⟨rfl, rfl, rfl⟩
    · exact ih (disarm level memory)
    · exact ⟨rfl, rfl, rfl⟩

/-- The first stretch of a call takes no notice of its price, or starts a segment with it, or goes
    over the levels the price comes down on. -/
inductive Began (c : MultiLevelCoordinator) (t : Trigger) (memory : Memory) :
    Stretch → Prop
  | ignored : Began c t memory { memory, looks := [], progress := .over }
  | reset (m : Memory)
      (hids : m.multiLevel.submittedOrderIds = memory.multiLevel.submittedOrderIds)
      (hprice : m.multiLevel.previousPrice = some t.event.observedPrice)
      (hgeneration : m.multiLevel.connectionGeneration = some t.event.connectionGeneration) :
      Began c t memory { memory := m, looks := [], progress := .over, noted := true }
  | swept (previous : ℚ) (crossed : List HedgeLevel) (m : Memory)
      (hprevious : memory.multiLevel.previousPrice = some previous)
      (hsame : memory.multiLevel.connectionGeneration = some t.event.connectionGeneration)
      (hlevels : crossed.Sublist c.levels)
      (hcrossed : ∀ level ∈ crossed,
        level.entryPrice < previous ∧ t.event.observedPrice ≤ level.entryPrice)
      (hids : m.multiLevel.submittedOrderIds = memory.multiLevel.submittedOrderIds)
      (hprice : m.multiLevel.previousPrice = some t.event.observedPrice)
      (hgeneration : m.multiLevel.connectionGeneration = some t.event.connectionGeneration) :
      Began c t memory { c.sweep crossed t.riskState m with noted := true }

theorem began_first (t : Trigger) (memory : Memory) : c.Began t memory (c.first t memory) := by
  have hreset : c.Began t memory
      { memory := { memory with multiLevel := c.resetSegment t.event memory.multiLevel }
        looks := []
        progress := .over
        noted := true } := .reset _ rfl rfl rfl
  unfold first
  dsimp only
  split_ifs
  · exact .ignored
  · exact .ignored
  · exact .ignored
  · cases hsame : memory.multiLevel.connectionGeneration with
    | none => exact hreset
    | some generation =>
      dsimp only
      split_ifs with hstale hnewer
      · exact .ignored
      · exact hreset
      · have heq : generation = t.event.connectionGeneration :=
          le_antisymm (not_lt.mp hstale) (not_lt.mp hnewer)
        unfold firstInSegment
        cases hprevious : memory.multiLevel.previousPrice with
        | none => exact .ignored
        | some previous =>
          refine .swept previous _ _ hprevious (heq ▸ hsame) List.filter_sublist ?_ rfl rfl
            (heq ▸ hsame)
          intro level hlevel
          have hcrossing := (List.mem_filter.mp hlevel).2
          simp only [Bool.and_eq_true, decide_eq_true_eq] at hcrossing
          exact ⟨hcrossing.1.2, hcrossing.2⟩

theorem Swept.congr {riskState : RiskState} {m memory : Memory} {stretch : Stretch}
    (h : c.Swept riskState m stretch)
    (hids : m.multiLevel.submittedOrderIds = memory.multiLevel.submittedOrderIds) (noted : Bool) :
    c.Swept riskState memory { stretch with noted } := by
  cases h with
  | «over» hnone hover hids' => exact .over hnone hover (hids'.trans hids)
  | submitted sub rest hone hprogress hfree hids' hgranted =>
    exact .submitted sub rest hone hprogress (hids ▸ hfree) (hids ▸ hids') hgranted

theorem Began.ended {t : Trigger} {memory : Memory} {stretch : Stretch}
    (h : c.Began t memory stretch) : c.Swept t.riskState memory stretch := by
  cases h with
  | ignored => exact .over rfl rfl rfl
  | reset m hids _ _ => exact .over rfl rfl hids
  | swept previous crossed m _ _ _ _ hids _ _ =>
    exact (c.swept_sweep crossed t.riskState m).congr hids true

/-- The ladder is in ladder order. -/
theorem levels_above (c : MultiLevelCoordinator) : c.levels.Pairwise HedgeLevel.Above := by
  have hids : c.levels.Pairwise fun level level' => level.levelId < level'.levelId := by
    rw [← List.pairwise_map, c.levelIds_eq]
    exact List.pairwise_lt_range'
  exact hids.and (List.pairwise_map.mp c.entryPrices_sorted)

end MultiLevelCoordinator

/-! ## One call -/

/-- What holds of a call of this number, of what it has looked at and what it has left: these are
    levels its move came down on, in ladder order, and each submission was granted with those
    before it counted in. -/
structure CallSound (c : MultiLevelCoordinator) (noted : List (ℕ × TriggerPriceEvent)) (i : ℕ)
    (passed : RiskState) (looks : List Look) (rest : List HedgeLevel) : Prop where
  ordered : (looks.map Look.level ++ rest).Pairwise HedgeLevel.Above
  crossed : ∀ level ∈ looks.map Look.level ++ rest, level ∈ c.levels ∧ Descends noted i level
  granted : ∀ earlier sub later, submissions looks = earlier ++ sub :: later →
    sub.Granted c (passed.spent earlier)

namespace CallSound

variable {c : MultiLevelCoordinator} {noted : List (ℕ × TriggerPriceEvent)} {i : ℕ}
  {passed : RiskState} {looks : List Look} {rest : List HedgeLevel}

theorem nothing : CallSound c noted i passed [] [] where
  ordered := .nil
  crossed := by simp
  granted := by simp

theorem append (h : CallSound c noted i passed looks rest) (more : List (ℕ × TriggerPriceEvent)) :
    CallSound c (noted ++ more) i passed looks rest where
  ordered := h.ordered
  crossed level hlevel := ⟨(h.crossed level hlevel).1, (h.crossed level hlevel).2.append more⟩
  granted := h.granted

/-- A call that raises has nothing left. -/
theorem drop (h : CallSound c noted i passed looks rest) : CallSound c noted i passed looks [] where
  ordered := by
    rw [List.append_nil]
    exact (List.pairwise_append.mp h.ordered).1
  crossed level hlevel := by
    rw [List.append_nil] at hlevel
    exact h.crossed level (List.mem_append_left _ hlevel)
  granted := h.granted

/-- The loop goes on over what is left. -/
theorem sweep (h : CallSound c noted i passed looks rest) (memory : Memory) :
    CallSound c noted i passed
      (looks ++ (c.sweep rest (passed.spent (submissions looks)) memory).looks)
      (c.sweep rest (passed.spent (submissions looks)) memory).progress.rest := by
  have hprefix := c.sweep_leads rest (passed.spent (submissions looks)) memory
  have hswept := c.swept_sweep rest (passed.spent (submissions looks)) memory
  generalize c.sweep rest (passed.spent (submissions looks)) memory = stretch at hprefix hswept
  have hsublist : ((looks ++ stretch.looks).map Look.level ++ stretch.progress.rest).Sublist
      (looks.map Look.level ++ rest) := by
    rw [List.map_append, List.append_assoc]
    exact (List.Sublist.refl _).append hprefix.sublist
  refine
    { ordered := h.ordered.sublist hsublist
      crossed := fun level hlevel => h.crossed level (hsublist.subset hlevel)
      granted := ?_ }
  intro earlier sub later heq
  rw [submissions_append] at heq
  cases hswept with
  | «over» hnone _ _ =>
    rw [hnone, List.append_nil] at heq
    exact h.granted earlier sub later heq
  | submitted sub' _ hone _ _ _ hgranted =>
    rw [hone] at heq
    -- The submission looked for is an earlier one, or the one just made.
    rcases List.append_eq_append_iff.mp heq with ⟨mid, hearlier, hmid⟩ | ⟨mid, hlooks, hmid⟩
    · cases mid with
      | nil =>
        obtain ⟨rfl, -⟩ := List.cons.inj hmid
        rw [hearlier, List.append_nil]
        exact hgranted
      | cons sub'' mid => exact absurd (congrArg List.length hmid) (by simp)
    · cases mid with
      | nil =>
        obtain ⟨rfl, -⟩ := List.cons.inj hmid
        rw [List.append_nil] at hlooks
        exact hlooks ▸ hgranted
      | cons sub'' mid =>
        obtain ⟨rfl, -⟩ := List.cons.inj hmid
        exact h.granted earlier sub mid hlooks

end CallSound

/-! ## A whole session -/

/-- A call that was only made has looked at nothing, and one that submits an entry goes on with
    that entry counted in. -/
def TriggerCall.Standing (call : TriggerCall) : Prop :=
  match call.progress with
  | .called => call.looks = []
  | .submitting _ _ _ riskState => riskState = call.riskState.spent (submissions call.looks)
  | .over => True

/-- The last event noted is the one the coordinator remembers. -/
def AtSegment (noted : List (ℕ × TriggerPriceEvent)) (s : MultiLevelState) : Prop :=
  match noted.getLast? with
  | none => s.connectionGeneration = none
  | some (_, event) =>
    s.connectionGeneration = some event.connectionGeneration ∧
      s.previousPrice = some event.observedPrice

theorem atSegment_append (noted : List (ℕ × TriggerPriceEvent)) (i : ℕ)
    {event : TriggerPriceEvent} {s : MultiLevelState}
    (hgeneration : s.connectionGeneration = some event.connectionGeneration)
    (hprice : s.previousPrice = some event.observedPrice) :
    AtSegment (noted ++ [(i, event)]) s := by
  unfold AtSegment
  rw [List.getLast?_concat]
  exact ⟨hgeneration, hprice⟩

theorem AtSegment.congr {noted : List (ℕ × TriggerPriceEvent)} {s s' : MultiLevelState}
    (h : AtSegment noted s) (hprice : s'.previousPrice = s.previousPrice)
    (hgeneration : s'.connectionGeneration = s.connectionGeneration) : AtSegment noted s' := by
  unfold AtSegment at h ⊢
  rwa [hprice, hgeneration]

theorem perm_flatMap_set {α β : Type} {f : α → List β} {l : List α} {i : ℕ} {a a' : α}
    {new : List β} (hi : l[i]? = some a) (hf : f a' = f a ++ new) :
    ((l.set i a').flatMap f).Perm (new ++ l.flatMap f) := by
  induction l generalizing i with
  | nil => simp at hi
  | cons x xs ih =>
    cases i with
    | zero =>
      obtain rfl : x = a := by simpa using hi
      simpa [hf] using List.perm_append_comm_assoc (f x) new (xs.flatMap f)
    | succ i =>
      have htail := (ih (by simpa using hi)).append_left (f x)
      simpa using htail.trans (List.perm_append_comm_assoc (f x) new (xs.flatMap f))

namespace Session

def submissions (s : Session) : List Submission :=
  s.calls.flatMap fun call => CreditHedge.submissions call.looks

structure Invariant (c : MultiLevelCoordinator) (s : Session) : Prop where
  segment : AtSegment s.noted s.memory.multiLevel
  noted_nodup : (s.noted.map Prod.fst).Nodup
  noted_calls : ∀ i event, (i, event) ∈ s.noted →
    ∃ call, s.calls[i]? = some call ∧ call.event = event ∧ call.progress ≠ .called
  latched : ∀ sub ∈ s.submissions,
    s.memory.multiLevel.submittedOrderIds sub.level.levelId ≠ none
  once : (s.submissions.map fun sub => sub.level.levelId).Nodup
  sound : ∀ i call, s.calls[i]? = some call →
    CallSound c s.noted i call.riskState call.looks call.progress.rest ∧ call.Standing

variable {c : MultiLevelCoordinator} {s : Session}

theorem invariant_start (killSwitch : Option KillSwitchState) (oneLevel : OneLevelState) :
    (start killSwitch oneLevel).Invariant c where
  segment := rfl
  noted_nodup := .nil
  noted_calls := by simp [start]
  latched := by simp [start, submissions]
  once := .nil
  sound := by simp [start]

/-- What a stretch adds to the submissions. -/
theorem submissions_enter {i : ℕ} {call : TriggerCall} (hi : s.calls[i]? = some call)
    (stretch : Stretch) :
    (s.enter i call stretch).submissions.Perm
      (CreditHedge.submissions stretch.looks ++ s.submissions) :=
  perm_flatMap_set hi (submissions_append call.looks stretch.looks)

/-- The others' calls are as they were. -/
theorem getElem?_enter {i j : ℕ} {call call' : TriggerCall} {stretch : Stretch}
    (hi : s.calls[i]? = some call) (hj : (s.enter i call stretch).calls[j]? = some call') :
    (j = i ∧ call' = { call with
        progress := stretch.progress, looks := call.looks ++ stretch.looks }) ∨
      (j ≠ i ∧ s.calls[j]? = some call') := by
  have hlt : i < s.calls.length := (List.getElem?_eq_some_iff.mp hi).1
  simp only [enter] at hj
  by_cases hji : j = i
  · subst hji
    rw [List.getElem?_set_self hlt] at hj
    exact .inl ⟨rfl, (Option.some.inj hj).symm⟩
  · rw [List.getElem?_set_ne (Ne.symm hji)] at hj
    exact .inr ⟨hji, hj⟩

/-- A stretch keeps the invariant if it goes on where its call stands, and notes its event only if
    it is the first one. -/
theorem Invariant.enter (h : s.Invariant c) {i : ℕ} {call : TriggerCall}
    (hi : s.calls[i]? = some call) {stretch : Stretch}
    (hswept : c.Swept (call.riskState.spent (CreditHedge.submissions call.looks)) s.memory stretch)
    (hsegment : AtSegment (s.enter i call stretch).noted stretch.memory.multiLevel)
    (hfirst : stretch.noted = true → call.progress = .called)
    (hsound : CallSound c (s.enter i call stretch).noted i call.riskState
      (call.looks ++ stretch.looks) stretch.progress.rest) :
    (s.enter i call stretch).Invariant c := by
  have hlt : i < s.calls.length := (List.getElem?_eq_some_iff.mp hi).1
  have hperm := submissions_enter hi stretch
  constructor
  · exact hsegment
  · simp only [Session.enter]
    split
    · rename_i hnoted
      rw [List.map_append, List.map_singleton, ← List.concat_eq_append]
      refine List.Nodup.concat ?_ h.noted_nodup
      -- A call that is in its first stretch has not been noted.
      intro hmem
      obtain ⟨⟨j, event⟩, hentry, rfl⟩ := List.mem_map.mp hmem
      obtain ⟨call', hcall', -, hnot⟩ := h.noted_calls j event hentry
      obtain rfl : call = call' := Option.some.inj (hi.symm.trans hcall')
      exact hnot (hfirst hnoted)
    · exact h.noted_nodup
  · intro j event hentry
    have hold : (j, event) ∈ s.noted ∨ j = i ∧ event = call.event := by
      simp only [Session.enter] at hentry
      split at hentry
      · simpa using hentry
      · exact .inl hentry
    by_cases hji : j = i
    · subst hji
      refine ⟨_, List.getElem?_set_self hlt, ?_, hswept.ne_called⟩
      rcases hold with hold | ⟨-, rfl⟩
      · obtain ⟨call', hcall', hevent, -⟩ := h.noted_calls j event hold
        obtain rfl : call = call' := Option.some.inj (hi.symm.trans hcall')
        exact hevent
      · rfl
    · obtain ⟨call', hcall', hevent, hnot⟩ :=
        h.noted_calls j event (hold.resolve_right fun heq => hji heq.1)
      refine ⟨call', ?_, hevent, hnot⟩
      simpa only [Session.enter, List.getElem?_set_ne (Ne.symm hji)] using hcall'
  · intro sub hsub
    have hsub' := hperm.mem_iff.mp hsub
    cases hswept with
    | «over» hnone _ hids =>
      rw [hnone, List.nil_append] at hsub'
      exact hids ▸ h.latched sub hsub'
    | submitted sub' _ hone _ _ hids _ =>
      change stretch.memory.multiLevel.submittedOrderIds sub.level.levelId ≠ none
      rw [hids]
      by_cases heq : sub.level.levelId = sub'.level.levelId
      · rw [heq, Function.update_self]
        simp
      · rw [Function.update_of_ne heq]
        rw [hone] at hsub'
        rcases List.mem_cons.mp hsub' with rfl | hsub'
        · exact absurd rfl heq
        · exact h.latched sub hsub'
  · refine (hperm.map _).nodup_iff.mpr ?_
    cases hswept with
    | «over» hnone _ _ =>
      rw [hnone]
      exact h.once
    | submitted sub _ hone _ hfree _ _ =>
      rw [hone]
      refine List.nodup_cons.mpr ⟨fun hmem => ?_, h.once⟩
      -- The latch of this level would have been set.
      obtain ⟨sub', hsub', heq⟩ := List.mem_map.mp hmem
      exact h.latched sub' hsub' (heq ▸ hfree)
  · intro j call' hj
    rcases getElem?_enter hi hj with ⟨rfl, rfl⟩ | ⟨hji, hj⟩
    · refine ⟨hsound, ?_⟩
      cases hswept with
      | «over» _ hover _ => simp [TriggerCall.Standing, hover]
      | submitted sub rest hone hprogress _ _ _ =>
        simp [TriggerCall.Standing, hprogress, hone, RiskState.spent]
    · obtain ⟨hsound', hstanding⟩ := h.sound j call' hj
      refine ⟨?_, hstanding⟩
      simp only [Session.enter]
      split
      · exact hsound'.append _
      · exact hsound'

/-- The first stretch of a call. -/
theorem Invariant.begin (h : s.Invariant c) {i : ℕ} {call : TriggerCall}
    (hi : s.calls[i]? = some call) (hcalled : call.progress = .called) :
    (s.enter i call (c.first call.toTrigger s.memory)).Invariant c := by
  have hlooks : call.looks = [] := by
    have hstanding := (h.sound i call hi).2
    rwa [TriggerCall.Standing, hcalled] at hstanding
  have hbegan := c.began_first call.toTrigger s.memory
  have hended := hbegan.ended
  generalize c.first call.toTrigger s.memory = stretch at hbegan hended
  refine h.enter hi (by simpa [hlooks, RiskState.spent] using hended) ?_ (fun _ => hcalled) ?_
  · cases hbegan with
    | ignored => exact h.segment
    | reset m _ hprice hgeneration => exact atSegment_append _ _ hgeneration hprice
    | swept previous crossed m _ _ _ _ _ hprice hgeneration =>
      obtain ⟨hprice', hgeneration', -⟩ := c.sweep_segment crossed call.riskState m
      exact atSegment_append _ _ (hgeneration'.trans hgeneration) (hprice'.trans hprice)
  · rw [hlooks, List.nil_append]
    cases hbegan with
    | ignored => exact .nothing
    | reset m _ _ _ => exact .nothing
    | swept previous crossed m hprevious hsame hlevels hcrossed _ _ _ =>
      have hdescends : ∀ level ∈ crossed, Descends (s.noted ++ [(i, call.event)]) i level := by
        intro level hlevel
        have hsegment := h.segment
        unfold AtSegment at hsegment
        rcases List.eq_nil_or_concat s.noted with hnil | ⟨before, last, hlast⟩
        · rw [hnil] at hsegment
          exact absurd (hsegment.symm.trans hsame) (by simp)
        · rw [List.concat_eq_append] at hlast
          rw [hlast, List.getLast?_concat] at hsegment
          obtain ⟨hgeneration, hprice⟩ := hsegment
          refine ⟨before, last, call.event, [], by rw [hlast]; simp, ?_, ?_, ?_⟩
          · exact Option.some.inj (hgeneration.symm.trans hsame)
          · rw [Option.some.inj (hprice.symm.trans hprevious)]
            exact (hcrossed level hlevel).1
          · exact (hcrossed level hlevel).2
      have hsound : CallSound c (s.noted ++ [(i, call.event)]) i call.riskState [] crossed :=
        { ordered := c.levels_above.sublist hlevels
          crossed := fun level hlevel => ⟨hlevels.subset hlevel, hdescends level hlevel⟩
          granted := by simp }
      exact hsound.sweep m

/-- A stretch after a submission. -/
theorem Invariant.resume (h : s.Invariant c) {i : ℕ} {call : TriggerCall}
    (hi : s.calls[i]? = some call) {level : HedgeLevel} {request : PlaceOrderRequest}
    {rest : List HedgeLevel} {riskState : RiskState}
    (hsubmitting : call.progress = .submitting level request rest riskState) :
    (s.enter i call (c.sweep rest riskState s.memory)).Invariant c := by
  obtain ⟨hsound, hstanding⟩ := h.sound i call hi
  rw [TriggerCall.Standing, hsubmitting] at hstanding
  rw [hsubmitting] at hsound
  obtain ⟨hprice, hgeneration, hnoted⟩ := c.sweep_segment rest riskState s.memory
  have hkept : (s.enter i call (c.sweep rest riskState s.memory)).noted = s.noted := by
    simp [Session.enter, hnoted]
  refine h.enter hi (hstanding ▸ c.swept_sweep rest riskState s.memory) ?_ ?_ ?_
  · rw [hkept]
    exact h.segment.congr hprice hgeneration
  · simp [hnoted]
  · rw [hkept]
    subst hstanding
    exact hsound.sweep s.memory

theorem Invariant.raise (h : s.Invariant c) (i : ℕ) : (s.raise i).Invariant c := by
  unfold Session.raise
  cases hi : s.calls[i]? with
  | none => exact h
  | some call =>
    dsimp only
    split
    · rename_i level request rest riskState hsubmitting
      -- It is a stretch that looks at nothing and leaves nothing.
      have hsame : ({ s with calls := s.calls.set i { call with progress := .over } } : Session) =
          s.enter i call { memory := s.memory, looks := [], progress := .over } := by
        simp [Session.enter]
      rw [hsame]
      refine h.enter hi (.over rfl rfl rfl) h.segment (by simp) ?_
      rw [List.append_nil]
      exact (h.sound i call hi).1.drop
    · exact h

theorem Invariant.call (h : s.Invariant c) (t : Trigger) :
    ({ s with calls := s.calls ++ [{ toTrigger := t }] } : Session).Invariant c := by
  have hnone : ({ s with calls := s.calls ++ [{ toTrigger := t }] } : Session).submissions =
      s.submissions := by
    simp [Session.submissions]
  constructor
  · exact h.segment
  · exact h.noted_nodup
  · intro i event hentry
    obtain ⟨call, hi, hcall⟩ := h.noted_calls i event hentry
    have hlt : i < s.calls.length := (List.getElem?_eq_some_iff.mp hi).1
    exact ⟨call, by rwa [List.getElem?_append_left hlt], hcall⟩
  · rw [hnone]
    exact h.latched
  · rw [hnone]
    exact h.once
  · intro i call hi
    rw [List.getElem?_append] at hi
    split at hi
    · exact h.sound i call hi
    · obtain rfl := List.mem_singleton.mp (List.mem_of_getElem? hi)
      exact ⟨.nothing, rfl⟩

/-- Whatever happens next keeps the invariant. -/
theorem invariant_move (h : s.Invariant c) (m : SessionMove) : (s.move c m).Invariant c := by
  cases m with
  | outside killSwitch oneLevel =>
    exact ⟨h.segment, h.noted_nodup, h.noted_calls, h.latched, h.once, h.sound⟩
  | call t => exact h.call t
  | goOn i =>
    change (s.goOn c i).Invariant c
    unfold Session.goOn
    cases hi : s.calls[i]? with
    | none => exact h
    | some call =>
      dsimp only
      split
      · rename_i hcalled
        exact h.begin hi hcalled
      · rename_i level request rest riskState hsubmitting
        exact h.resume hi hsubmitting
      · exact h
  | raise i => exact h.raise i

theorem invariant_run (h : s.Invariant c) (moves : List SessionMove) :
    (s.run c moves).Invariant c := by
  induction moves generalizing s with
  | nil => exact h
  | cons m moves ih => exact ih (invariant_move h m)

end Session

/-! ## The laws -/

/-- A call that was made with this risk state may have submitted these entries. -/
structure RiskLimits.Cover (limits : RiskLimits) (passed : RiskState)
    (submitted : List Submission) : Prop where
  quantity : passed.currentPerpQuantity + (submitted.map fun sub => sub.request.quantity).sum ≤
    limits.maximumPerpQuantity
  notional : passed.currentPerpNotional + (submitted.map fun sub => sub.proposal.notional).sum ≤
    limits.maximumPerpNotional
  levels : passed.activeLevels + submitted.length ≤ limits.maximumActiveLevels
  requests : passed.orderRequestsLastMinute + submitted.length ≤
    limits.maximumOrderRequestsPerMinute

/-- What the entries submitted so far have added to the risk state. -/
theorem RiskState.spent_counts (passed : RiskState) (submitted : List Submission) :
    (passed.spent submitted).currentPerpQuantity =
        passed.currentPerpQuantity + (submitted.map fun sub => sub.proposal.quantity).sum ∧
      (passed.spent submitted).currentPerpNotional =
        passed.currentPerpNotional + (submitted.map fun sub => sub.proposal.notional).sum ∧
      (passed.spent submitted).activeLevels = passed.activeLevels + submitted.length ∧
      (passed.spent submitted).orderRequestsLastMinute =
        passed.orderRequestsLastMinute + submitted.length := by
  induction submitted generalizing passed with
  | nil => simp [RiskState.spent]
  | cons sub submitted ih =>
    obtain ⟨hquantity, hnotional, hlevels, hrequests⟩ := ih (passed.afterEntry sub.proposal)
    have hcons : passed.spent (sub :: submitted) =
        (passed.afterEntry sub.proposal).spent submitted := rfl
    rw [hcons, hquantity, hnotional, hlevels, hrequests]
    simp only [RiskState.afterEntry, List.map_cons, List.sum_cons, List.length_cons]
    exact ⟨by ring, by ring, by ring, by ring⟩

/-- The limits that an approval holds the state after the entry to. -/
theorem RiskEngine.limits_of_approved {proposal : TradeProposal} {state : RiskState}
    {limits : RiskLimits} (h : (RiskEngine.evaluate proposal state limits).approved = true) :
    state.currentPerpQuantity + proposal.quantity ≤ limits.maximumPerpQuantity ∧
      state.currentPerpNotional + proposal.notional ≤ limits.maximumPerpNotional ∧
      (proposal.opensNewLevel = true → state.activeLevels < limits.maximumActiveLevels) ∧
      state.orderRequestsLastMinute < limits.maximumOrderRequestsPerMinute := by
  have hnil : RiskEngine.reasons proposal state limits = [] := by
    simpa only [RiskEngine.evaluate, List.isEmpty_iff] using h
  simp only [RiskEngine.reasons, List.append_eq_nil_iff, reportIf_eq_nil, not_and, not_lt,
    not_le] at hnil
  obtain ⟨⟨⟨⟨⟨⟨⟨⟨⟨⟨⟨⟨⟨hquantity, hnotional⟩, -⟩, -⟩, -⟩, -⟩, -⟩, -⟩, -⟩, hlevels⟩,
    hrequests⟩, -⟩, -⟩, -⟩ := hnil
  exact ⟨hquantity, hnotional, hlevels, hrequests⟩

/-- A submission that is granted leaves room for itself. -/
theorem Submission.Granted.cover {c : MultiLevelCoordinator} {passed : RiskState}
    {earlier : List Submission} {sub : Submission} (h : sub.Granted c (passed.spent earlier))
    (hwhole : ∀ sub' ∈ earlier, sub'.request.quantity = sub'.proposal.quantity) :
    c.riskLimits.Cover passed (earlier ++ [sub]) := by
  obtain ⟨hquantity, hnotional, hlevels, hrequests⟩ := passed.spent_counts earlier
  obtain ⟨hquantity', hnotional', hlevels', hrequests'⟩ := RiskEngine.limits_of_approved h.approved
  have hearlier : (earlier.map fun sub' => sub'.request.quantity) =
      earlier.map fun sub' => sub'.proposal.quantity := List.map_congr_left hwhole
  constructor
  · rw [List.map_append, List.sum_append, hearlier, List.map_singleton, List.sum_singleton,
      h.whole, ← add_assoc, ← hquantity]
    exact hquantity'
  · rw [List.map_append, List.sum_append, List.map_singleton, List.sum_singleton, ← add_assoc,
      ← hnotional]
    exact hnotional'
  · have hroom := hlevels' h.opens
    rw [hlevels] at hroom
    rwa [List.length_append, List.length_singleton, ← add_assoc]
  · rw [hrequests] at hrequests'
    rwa [List.length_append, List.length_singleton, ← add_assoc]

namespace Session

/-- The laws of a coordinator's life. -/
structure Lawful (c : MultiLevelCoordinator) (s : Session) : Prop where
  /-- No level is submitted twice. -/
  once : (s.submissions.map fun sub => sub.level.levelId).Nodup
  /-- The moves of two calls are two moves. -/
  apart : (s.noted.map Prod.fst).Nodup
  noted : ∀ i event, (i, event) ∈ s.noted → ∃ call, s.calls[i]? = some call ∧ call.event = event
  /-- A submission belongs to its call's move, and the gate was open. -/
  moved : ∀ i call, s.calls[i]? = some call → ∀ sub ∈ CreditHedge.submissions call.looks,
    sub.level ∈ c.levels ∧ Descends s.noted i sub.level ∧ sub.gate = .ok true
  /-- A crossing that was blocked is nobody's submission. -/
  consumed : ∀ i call, s.calls[i]? = some call → ∀ look ∈ call.looks, look.Blocked →
    Descends s.noted i look.level ∧
      ∀ j call', s.calls[j]? = some call' → ∀ sub ∈ CreditHedge.submissions call'.looks,
        sub.level.levelId = look.level.levelId → j ≠ i
  /-- A call submits in the order of the ladder. -/
  descending : ∀ call ∈ s.calls, (CreditHedge.submissions call.looks).Pairwise fun sub sub' =>
    sub.level.Above sub'.level
  /-- A call stays within the limits with each of its submissions. -/
  within : ∀ call ∈ s.calls, ∀ earlier sub later,
    CreditHedge.submissions call.looks = earlier ++ sub :: later →
    c.riskLimits.Cover call.riskState (earlier ++ [sub])

/-- **A level is entered at most once, on a crossing of its own.** However the calls, the gate and
    the submissions interleave, no level is submitted twice; what is submitted was crossed within
    one connection, behind an open gate; a crossing that was blocked stays consumed; and a call
    submits down the ladder, within the limits. -/
theorem level_submissions (c : MultiLevelCoordinator) (killSwitch : Option KillSwitchState)
    (oneLevel : OneLevelState) (moves : List SessionMove) :
    ((start killSwitch oneLevel).run c moves).Lawful c := by
  have h : ((start killSwitch oneLevel).run c moves).Invariant c :=
    invariant_run (invariant_start killSwitch oneLevel) moves
  generalize (start killSwitch oneLevel).run c moves = s at h
  have hgranted : ∀ (i : ℕ) (call : TriggerCall), s.calls[i]? = some call →
      ∀ sub ∈ CreditHedge.submissions call.looks,
        ∃ earlier, sub.Granted c (call.riskState.spent earlier) := by
    intro i call hi sub hsub
    obtain ⟨earlier, later, heq⟩ := List.append_of_mem hsub
    exact ⟨earlier, (h.sound i call hi).1.granted earlier sub later heq⟩
  constructor
  · exact h.once
  · exact h.noted_nodup
  · intro i event hentry
    obtain ⟨call, hi, hevent, -⟩ := h.noted_calls i event hentry
    exact ⟨call, hi, hevent⟩
  · intro i call hi sub hsub
    obtain ⟨look, hlook, hsubmitted⟩ := mem_submissions.mp hsub
    obtain ⟨earlier, hsubgranted⟩ := hgranted i call hi sub hsub
    obtain ⟨hlevel, hdescends⟩ := (h.sound i call hi).1.crossed look.level
      (List.mem_append_left _ (List.mem_map_of_mem hlook))
    rw [(Look.of_submission? hsubmitted).1]
    exact ⟨hlevel, hdescends, hsubgranted.gate⟩
  · intro i call hi look hlook hblocked
    have hsound := (h.sound i call hi).1
    refine ⟨(hsound.crossed look.level
      (List.mem_append_left _ (List.mem_map_of_mem hlook))).2, ?_⟩
    rintro j call' hj sub hsub hlevel rfl
    -- In one call the two looks would be one, and a look has one verdict.
    obtain rfl : call = call' := Option.some.inj (hi.symm.trans hj)
    obtain ⟨look', hlook', hsubmitted⟩ := mem_submissions.mp hsub
    obtain ⟨hsame, hverdict⟩ := Look.of_submission? hsubmitted
    obtain ⟨reasons, hreasons⟩ := hblocked
    have hids : (call.looks.map fun look => look.level.levelId).Nodup :=
      List.pairwise_map.mpr ((List.pairwise_map.mp (List.pairwise_append.mp hsound.ordered).1).imp
        fun hab => ne_of_lt hab.1)
    have heq : look' = look :=
      List.inj_on_of_nodup_map hids hlook' hlook (by rw [← hsame]; exact hlevel)
    rw [heq, hreasons] at hverdict
    exact absurd hverdict (by simp)
  · intro call hcall
    obtain ⟨i, hi⟩ := List.mem_iff_getElem?.mp hcall
    have hordered := (List.pairwise_append.mp (h.sound i call hi).1.ordered).1
    exact List.pairwise_map.mp (hordered.sublist (submissions_sublist call.looks))
  · intro call hcall earlier sub later heq
    obtain ⟨i, hi⟩ := List.mem_iff_getElem?.mp hcall
    refine ((h.sound i call hi).1.granted earlier sub later heq).cover fun sub' hsub' => ?_
    obtain ⟨earlier', hgranted'⟩ := hgranted i call hi sub' (by simp [heq, hsub'])
    exact hgranted'.whole

end Session

end CreditHedge
