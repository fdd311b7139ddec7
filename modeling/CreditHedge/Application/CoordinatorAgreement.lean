import CreditHedge.Application.LevelSubmissions
import CreditHedge.Application.MarketOrders

/-!
# The two coordinators agree

Over a ladder of one level the multi-level coordinator does what the one-level coordinator does:
it submits at the same events, the same quantity, and what one of them blocks the other blocks
too. They do not come to it the same way. The latch is a flag here and a dictionary there; one
looks at the latch before the gate and the other after it; and the one reports the confirmed
recovery debt to the rounding where the other reports none.

The debt does not decide (`recalculateQuantizedRisk_debt`), so two offers agree when neither
coordinator has submitted (`offers_agree`). The order of the checks does not matter either, since
a coordinator that has submitted is never armed again. That is what `StatesAlike` keeps: it relates
the attributes of the two and survives every first stretch (`agree_first`). After its first stretch
a call touches no attribute, whatever becomes of its submission (`memory_of_runs_onTrigger`,
`memory_of_runs_ladder`).
-/

set_option autoImplicit false

namespace CreditHedge

/-! ## The one-level coordinator -/

namespace OneLevelCoordinator

variable (c : OneLevelCoordinator)

/-- The first stretch, from a crossing on. -/
def firstCrossed (orderLinkId : String) (riskState : RiskState) (memory : Memory) : Stretch :=
  let look : Look :=
    { level := c.level
      gate := memory.gateAllows c.hasEntryGate
      verdict := c.offer memory orderLinkId riskState }
  match look.verdict with
  | .error _ => { memory, looks := [look], progress := .over, noted := true }
  | .ok (.blocked _) => { memory, looks := [look], progress := .over, noted := true }
  | .ok (.submit request _) =>
    { memory := { memory with oneLevel := { memory.oneLevel with submitted := true } }
      looks := [look]
      progress := .submitting c.level request [] riskState
      noted := true }

/-- A price in the current segment. -/
def firstInSegment (orderLinkId : String) (t : Trigger) (memory : Memory) : Stretch :=
  match memory.oneLevel.previousPrice with
  | none => { memory, looks := [], progress := .over }
  | some previousPrice =>
    let s := memory.oneLevel
    let currentPrice := t.event.observedPrice
    let armed := s.entryArmed || (c.level.entryPrice ≤ currentPrice ∧ s.submitted = false)
    let seen := { s with entryArmed := armed, previousPrice := some currentPrice }
    if armed ∧ previousPrice > c.level.entryPrice ∧ currentPrice ≤ c.level.entryPrice then
      c.firstCrossed orderLinkId t.riskState
        { memory with oneLevel := { seen with entryArmed := false } }
    else
      { memory := { memory with oneLevel := seen }
        looks := []
        progress := .over
        noted := true }

/-- The first stretch of a call. -/
def first (orderLinkId : String) (t : Trigger) (memory : Memory) : Stretch :=
  let ignored : Stretch := { memory, looks := [], progress := .over }
  let reset : Stretch :=
    { memory := { memory with oneLevel := c.resetSegment t.event memory.oneLevel }
      looks := []
      progress := .over
      noted := true }
  if t.event.symbol ≠ c.instrument.symbol then ignored
  else if t.event.source ≠ .lastTrade then ignored
  else if t.marketHealth.tradingAllowed = false then ignored
  else
    match memory.oneLevel.connectionGeneration with
    | none => reset
    | some generation =>
      if t.event.connectionGeneration < generation then ignored
      else if generation < t.event.connectionGeneration then reset
      else c.firstInSegment orderLinkId t memory

/-- The task of a call that has run its first stretch. It returns after its one submission. -/
inductive Follows : Progress → Task OneLevelTriggerResult → Prop
  | submitting (level : HedgeLevel) (request : PlaceOrderRequest) (riskState : RiskState) :
      Follows (.submitting level request [] riskState)
        (onPorts (OneLevelEntryService.submitEntry request) >>= fun snapshot =>
          pure
            { triggered := true
              reasons := []
              snapshot := some snapshot
              request := some request })
  | over (outcome : Except Failure OneLevelTriggerResult) : Follows .over (.done outcome)

variable {c}

theorem follows_firstCrossed (orderLinkId : String) (riskState : RiskState) (memory : Memory) :
    (c.crossed orderLinkId riskState memory).1 =
        (c.firstCrossed orderLinkId riskState memory).memory ∧
      Follows (c.firstCrossed orderLinkId riskState memory).progress
        (c.crossed orderLinkId riskState memory).2 := by
  unfold crossed firstCrossed
  dsimp only
  cases c.offer memory orderLinkId riskState with
  | error failure => exact ⟨rfl, .over _⟩
  | ok offer =>
    cases offer with
    | blocked reasons => exact ⟨rfl, .over _⟩
    | submit request proposal => exact ⟨rfl, .submitting _ _ _⟩

/-- A call that is answered once has run its first stretch. -/
theorem follows_first (orderLinkId : String) (t : Trigger) (a : ProcessAnswers) (p : Process) :
    ((c.onTrigger orderLinkId t.event t.marketHealth t.riskState).advance
        Process.handle a p).2.memory = (c.first orderLinkId t p.memory).memory ∧
      Follows (c.first orderLinkId t p.memory).progress
        ((c.onTrigger orderLinkId t.event t.marketHealth t.riskState).advance
          Process.handle a p).1 := by
  unfold onTrigger first
  split_ifs
  · exact ⟨rfl, .over _⟩
  · exact ⟨rfl, .over _⟩
  · exact ⟨rfl, .over _⟩
  · change (c.observe orderLinkId t.event t.riskState p.memory).1 = _ ∧
      Follows _ (c.observe orderLinkId t.event t.riskState p.memory).2
    unfold observe
    dsimp only
    cases p.memory.oneLevel.connectionGeneration with
    | none => exact ⟨rfl, .over _⟩
    | some generation =>
      dsimp only
      split_ifs
      · exact ⟨rfl, .over _⟩
      · exact ⟨rfl, .over _⟩
      · unfold inSegment firstInSegment
        cases p.memory.oneLevel.previousPrice with
        | none => exact ⟨rfl, .over _⟩
        | some previousPrice =>
          dsimp only
          split_ifs
          · exact follows_firstCrossed _ _ _
          · exact ⟨rfl, .over _⟩

/-- Whatever becomes of the submission, it touches no attribute. -/
theorem Follows.memory_of_runs {progress : Progress} {task : Task OneLevelTriggerResult}
    (h : Follows progress task) {p p' : Process} {outcome : Except Failure OneLevelTriggerResult}
    (hruns : Coroutine.Runs Process.handle task p outcome p') : p'.memory = p.memory := by
  cases h with
  | «over» outcome' =>
    obtain ⟨-, rfl⟩ := Coroutine.runs_done.mp hruns
    rfl
  | submitting level request riskState =>
    rcases Coroutine.runs_bind.mp hruns with
      ⟨snapshot, p₁, hsubmit, hreturn⟩ | ⟨failure, hsubmit, -⟩
    · obtain ⟨-, rfl⟩ := Coroutine.runs_done.mp hreturn
      exact memory_of_runs_onPorts hsubmit
    · exact memory_of_runs_onPorts hsubmit

/-- A call leaves the attributes as its first stretch did. -/
theorem memory_of_runs_onTrigger {orderLinkId : String} {t : Trigger} {p p' : Process}
    {outcome : Except Failure OneLevelTriggerResult}
    (h : Coroutine.Runs Process.handle
      (c.onTrigger orderLinkId t.event t.marketHealth t.riskState) p outcome p') :
    p'.memory = (c.first orderLinkId t p.memory).memory := by
  obtain ⟨a, h⟩ := Coroutine.runs_advance.mp h
  obtain ⟨hmemory, hfollows⟩ := c.follows_first orderLinkId t a p
  rw [← hmemory]
  exact hfollows.memory_of_runs h

/-- The multi-level coordinator over the one level. Its factory is an object of the owner's;
    `orderLinkId` is what it returns if it is asked. -/
def ladder (c : OneLevelCoordinator) (orderLinkId : String) : MultiLevelCoordinator where
  optionPosition := c.optionPosition
  levels := [c.level]
  instrument := c.instrument
  riskLimits := c.riskLimits
  orderLinkIdFactory _ _ := orderLinkId
  hasEntryGate := c.hasEntryGate
  levels_ne_nil := List.cons_ne_nil _ _
  levelIds_eq := by simp [c.levelId_eq]
  entryPrices_sorted := List.pairwise_singleton _ _
  ethusdt_linear := c.ethusdt_linear

/-- After its one submission a call over the ladder has no level left. -/
theorem rest_first_ladder (orderLinkId : String) (t : Trigger) (memory : Memory) :
    ((c.ladder orderLinkId).first t memory).progress.rest = [] := by
  have hbegan := (c.ladder orderLinkId).began_first t memory
  have hended := hbegan.ended
  generalize (c.ladder orderLinkId).first t memory = stretch at hbegan hended
  cases hended with
  | «over» _ hover _ =>
    rw [hover]
    rfl
  | submitted sub rest hone _ _ _ _ =>
    have hlooks : stretch.looks ≠ [] := by
      intro hnil
      rw [hnil] at hone
      exact absurd hone (by simp)
    cases hbegan with
    | ignored => exact absurd rfl hlooks
    | reset _ _ _ _ => exact absurd rfl hlooks
    | swept _ crossed m _ _ hlevels _ _ _ _ =>
      have hprefix := ((c.ladder orderLinkId).sweep_leads crossed t.riskState m).length_le
      have hlength : crossed.length ≤ 1 := hlevels.length_le
      have hpos := List.length_pos_iff.mpr hlooks
      simp only [List.length_append, List.length_map] at hprefix
      refine List.length_eq_zero_iff.mp ?_
      dsimp only at hpos ⊢
      omega

/-- So does a call over the ladder. -/
theorem memory_of_runs_ladder {orderLinkId : String} {t : Trigger} {p p' : Process}
    {outcome : Except Failure MultiLevelTriggerResult}
    (h : Coroutine.Runs Process.handle
      ((c.ladder orderLinkId).onTrigger t.event t.marketHealth t.riskState) p outcome p') :
    p'.memory = ((c.ladder orderLinkId).first t p.memory).memory := by
  obtain ⟨a, h⟩ := Coroutine.runs_advance.mp h
  obtain ⟨hmemory, hfollows⟩ := (c.ladder orderLinkId).follows_first t a p
  have hrest := c.rest_first_ladder orderLinkId t p.memory
  have hcalled := ((c.ladder orderLinkId).began_first t p.memory).ended.ne_called
  rw [← hmemory]
  generalize ((c.ladder orderLinkId).first t p.memory).progress = progress at hfollows hrest hcalled
  generalize ((c.ladder orderLinkId).onTrigger t.event t.marketHealth t.riskState).advance
    Process.handle a p = next at h hfollows
  obtain ⟨task, p₁⟩ := next
  cases hfollows with
  | called => exact absurd rfl hcalled
  | «over» outcome' =>
    obtain ⟨-, rfl⟩ := Coroutine.runs_done.mp h
    rfl
  | submitting entries blocked hcomes =>
    obtain rfl : _ = [] := hrest
    rcases Coroutine.runs_bind.mp h with ⟨snapshot, p₂, hsubmit, hreturn⟩ | ⟨failure, hsubmit, -⟩
    · obtain ⟨-, rfl⟩ := Coroutine.runs_done.mp (runs_sync.mp hreturn)
      exact memory_of_runs_onPorts hsubmit
    · exact memory_of_runs_onPorts hsubmit

end OneLevelCoordinator

/-! ## Two offers -/

/-- Both submit, and the same quantity; or both are blocked; or both raise. -/
inductive VerdictsAgree : Except Failure EntryOffer → Except Failure EntryOffer → Prop
  | submit {request request' : PlaceOrderRequest} {proposal proposal' : TradeProposal}
      (hquantity : request.quantity = request'.quantity) :
      VerdictsAgree (.ok (.submit request proposal)) (.ok (.submit request' proposal'))
  | blocked (reasons reasons' : List String) :
      VerdictsAgree (.ok (.blocked reasons)) (.ok (.blocked reasons'))
  | raise (failure failure' : Failure) : VerdictsAgree (.error failure) (.error failure')

/-- Of its id, a request asks only that it is one of the strategy's own. -/
theorem create_marketEntryFields_congr {symbol orderLinkId orderLinkId' : String} {quantity : ℚ}
    (halike : IsOwnOrderLinkId orderLinkId ↔ IsOwnOrderLinkId orderLinkId')
    {request : PlaceOrderRequest}
    (h : PlaceOrderRequest.create (marketEntryFields symbol quantity orderLinkId) = .ok request) :
    ∃ request', PlaceOrderRequest.create (marketEntryFields symbol quantity orderLinkId') =
      .ok request' ∧ request.quantity = request'.quantity := by
  have hfields := PlaceOrderRequest.create_eq_ok.mp h
  have hchecks : (marketEntryFields symbol quantity orderLinkId).check = .ok () ↔
      (marketEntryFields symbol quantity orderLinkId').check = .ok () := by
    simp only [PlaceOrderFields.check, PlaceOrderFields.checkTrigger, marketEntryFields,
      bind_unit_eq_ok, requireOwnOrderLinkId_eq_ok, halike]
    exact Iff.rfl
  have hchecked := hchecks.mp (hfields ▸ request.checked)
  exact ⟨⟨_, hchecked⟩, PlaceOrderRequest.create_eq_ok.mpr rfl, by rw [hfields]; rfl⟩

/-- An order with a price can be priced, whatever debt there is. -/
theorem exists_recalculateQuantizedRisk {validation : OrderValidationResult}
    {instrument : InstrumentSpec} {entrySide : OrderSide} {takeProfitPrice stopPrice recoveryDebt
    maximumNotional maximumProjectedStopLoss price : ℚ}
    (hprice : validation.normalizedPrice = some price) (hdebt : 0 ≤ recoveryDebt) :
    ∃ result, recalculateQuantizedRisk validation instrument entrySide takeProfitPrice stopPrice
      recoveryDebt maximumNotional maximumProjectedStopLoss = .ok result := by
  unfold recalculateQuantizedRisk
  simp only [hprice, if_neg (not_lt.mpr hdebt)]
  exact ⟨_, rfl⟩

/-- **A debt that is reported and one that is not lead to the same entry.** -/
theorem offerEntry_agree (instrument : InstrumentSpec) (position : PutCreditSpreadPosition)
    (limits : RiskLimits) (level : HedgeLevel) (symbol : String) (riskState : RiskState)
    {recoveryDebt : ℚ} (hdebt : 0 ≤ recoveryDebt) {orderLinkId orderLinkId' : String}
    (halike : IsOwnOrderLinkId orderLinkId ↔ IsOwnOrderLinkId orderLinkId') :
    VerdictsAgree
      (offerEntry instrument position limits level recoveryDebt symbol orderLinkId riskState)
      (offerEntry instrument position limits level 0 symbol orderLinkId' riskState) := by
  obtain ⟨quantized, hquantized⟩ : ∃ quantized, recalculateQuantizedRisk
      (normalizeAndValidateOrder instrument .sell position.matchedQuantity
        (some level.entryPrice) false none .passive) instrument .sell level.tpPrice level.stopPrice
      recoveryDebt limits.maximumPerpNotional limits.maximumProjectedStopLoss = .ok quantized :=
    exists_recalculateQuantizedRisk (normalizedPrice_limit _ _) hdebt
  obtain ⟨debtless, hdebtless, haccepted, hquantity, hprice, hnotional, hloss⟩ :=
    recalculateQuantizedRisk_debt hquantized
  unfold offerEntry
  simp only [hquantized, hdebtless, bind, Except.bind, haccepted, hquantity, hprice, hnotional,
    hloss]
  split_ifs
  · exact .blocked _ _
  · cases TradeProposal.create symbol .sell quantized.quantity quantized.entryPrice
        quantized.notional quantized.projectedStopLoss true with
    | error failure => exact .raise _ _
    | ok proposal =>
      dsimp only
      split_ifs
      · exact .blocked _ _
      · exact .raise _ _
      · cases hrequest : PlaceOrderRequest.create
            (marketEntryFields symbol quantized.quantity orderLinkId) with
        | ok request =>
          obtain ⟨request', hrequest', hsame⟩ := create_marketEntryFields_congr halike hrequest
          rw [hrequest']
          exact .submit hsame
        | error failure =>
          cases hrequest' : PlaceOrderRequest.create
              (marketEntryFields symbol quantized.quantity orderLinkId') with
          | ok request' =>
            obtain ⟨request, hok, -⟩ := create_marketEntryFields_congr halike.symm hrequest'
            exact absurd (hrequest.symm.trans hok) (by simp)
          | error failure' => exact .raise _ _

/-! ## One event -/

/-- The attributes of the two coordinators tell the same. One that has submitted is not armed. -/
structure StatesAlike (one : OneLevelState) (ladder : MultiLevelState) : Prop where
  price : ladder.previousPrice = one.previousPrice
  generation : ladder.connectionGeneration = one.connectionGeneration
  armed : ladder.armed 1 = one.entryArmed
  latch : (ladder.submittedOrderIds 1).isNone = !one.submitted
  spent : one.submitted = true → one.entryArmed = false

/-- A level that a price has armed, or finds armed, has not been submitted. -/
theorem StatesAlike.unspent {one : OneLevelState} {ladder : MultiLevelState}
    (h : StatesAlike one ladder) {reached : Prop} [Decidable reached]
    (harmed : (one.entryArmed || decide (reached ∧ one.submitted = false)) = true) :
    one.submitted = false := by
  by_contra hsubmitted
  rw [Bool.not_eq_false] at hsubmitted
  simp [h.spent hsubmitted, hsubmitted] at harmed

theorem statesAlike_start : StatesAlike {} {} := ⟨rfl, rfl, rfl, rfl, fun _ => rfl⟩

/-- What the first stretches of the two come to: they have looked at their level both or neither,
    and to the same end; they submit the same quantity; and a level that was looked at is
    disarmed. -/
structure StretchesAgree (one ladder : Stretch) : Prop where
  alike : StatesAlike one.memory.oneLevel ladder.memory.multiLevel
  verdicts : List.Forall₂ VerdictsAgree (one.looks.map Look.verdict)
    (ladder.looks.map Look.verdict)
  submits : one.progress.request?.map (fun request => request.quantity) =
    ladder.progress.request?.map fun request => request.quantity
  consumed : one.looks ≠ [] →
    one.memory.oneLevel.entryArmed = false ∧ ladder.memory.multiLevel.armed 1 = false

namespace OneLevelCoordinator

variable {c : OneLevelCoordinator} {one ladder : Memory}

/-- The conditions to be armed by a price. -/
theorem flags_ladder (orderLinkId : String) (s : MultiLevelState) (price : ℚ) :
    (c.ladder orderLinkId).flags (MultiLevelCoordinator.reaches s price) 1 =
      (decide (c.level.entryPrice ≤ price) && (s.submittedOrderIds 1).isNone) := by
  simp [MultiLevelCoordinator.flags, MultiLevelCoordinator.reaches, ladder, c.levelId_eq]

/-- Two offers, of coordinators that have not submitted, behind the same gate. -/
theorem offers_agree (riskState : RiskState) {orderLinkId orderLinkId' : String}
    (halike : IsOwnOrderLinkId orderLinkId ↔ IsOwnOrderLinkId orderLinkId')
    (hgate : ladder.killSwitch = one.killSwitch) (hone : one.oneLevel.submitted = false)
    (hladder : ladder.multiLevel.submittedOrderIds 1 = none) :
    VerdictsAgree (c.offer one orderLinkId riskState)
      ((c.ladder orderLinkId').offer ladder riskState c.level) := by
  have hallows : ladder.gateAllows (c.ladder orderLinkId').hasEntryGate =
      one.gateAllows c.hasEntryGate := by
    simp only [Memory.gateAllows, Memory.entriesAllowed, hgate, OneLevelCoordinator.ladder]
  unfold offer preflight MultiLevelCoordinator.offer MultiLevelCoordinator.preflightReasons
  rw [hallows, hone, c.levelId_eq, hladder]
  simp only [bind, Except.bind, Bool.false_eq_true, if_false, Option.isSome_none]
  cases one.gateAllows c.hasEntryGate with
  | error failure => exact .raise _ _
  | ok allowed =>
    cases allowed with
    | false => exact .blocked _ _
    | true =>
      by_cases hready : c.level.state = .ready
      · by_cases hopen : c.optionPosition.state = .open
        · have hagree := offerEntry_agree c.instrument c.optionPosition c.riskLimits c.level
            c.instrument.symbol riskState riskState.confirmedRecoveryDebt_nonneg halike
          nth_rewrite 2 [c.ethusdt_linear.2] at hagree
          simpa [hready, hopen, OneLevelCoordinator.ladder, pure, Except.pure] using hagree
        · simpa [hready, hopen, OneLevelCoordinator.ladder, pure, Except.pure] using
            VerdictsAgree.blocked _ _
      · simpa [hready, pure, Except.pure] using VerdictsAgree.blocked _ _

/-- Both look at their level. -/
theorem agree_crossed (riskState : RiskState) {orderLinkId orderLinkId' : String}
    (halike : IsOwnOrderLinkId orderLinkId ↔ IsOwnOrderLinkId orderLinkId')
    (hgate : ladder.killSwitch = one.killSwitch)
    (hprice : ladder.multiLevel.previousPrice = one.oneLevel.previousPrice)
    (hgeneration : ladder.multiLevel.connectionGeneration = one.oneLevel.connectionGeneration)
    (hunarmed : one.oneLevel.entryArmed = false) (hone : one.oneLevel.submitted = false)
    (hladder : ladder.multiLevel.submittedOrderIds 1 = none) (noted : Bool) :
    StretchesAgree (c.firstCrossed orderLinkId riskState one)
      { (c.ladder orderLinkId').sweep [c.level] riskState ladder with noted } := by
  have hverdict : VerdictsAgree (c.offer one orderLinkId riskState)
      ((c.ladder orderLinkId').offer (MultiLevelCoordinator.disarm c.level ladder) riskState
        c.level) := by
    apply c.offers_agree riskState halike
    · exact hgate
    · exact hone
    · exact hladder
  unfold firstCrossed MultiLevelCoordinator.sweep
  dsimp only
  generalize c.offer one orderLinkId riskState = offered at hverdict ⊢
  generalize (c.ladder orderLinkId').offer (MultiLevelCoordinator.disarm c.level ladder) riskState
    c.level = offered' at hverdict ⊢
  have hdisarmed : (MultiLevelCoordinator.disarm c.level ladder).multiLevel.armed 1 = false := by
    simp [MultiLevelCoordinator.disarm, c.levelId_eq]
  cases hverdict with
  | submit hquantity =>
    refine ⟨⟨hprice, hgeneration, hdisarmed.trans hunarmed.symm, ?_, fun _ => hunarmed⟩,
      .cons (.submit hquantity) .nil, congrArg some hquantity, fun _ => ⟨hunarmed, hdisarmed⟩⟩
    simp [MultiLevelCoordinator.noteSubmitted, c.levelId_eq]
  | blocked reasons reasons' =>
    exact ⟨⟨hprice, hgeneration, hdisarmed.trans hunarmed.symm, by
        simp [MultiLevelCoordinator.sweep, MultiLevelCoordinator.disarm, hladder, hone],
        fun _ => hunarmed⟩, .cons (.blocked _ _) .nil, rfl, fun _ => ⟨hunarmed, hdisarmed⟩⟩
  | raise failure failure' =>
    exact ⟨⟨hprice, hgeneration, hdisarmed.trans hunarmed.symm, by
        simp [MultiLevelCoordinator.disarm, hladder, hone],
        fun _ => hunarmed⟩, .cons (.raise _ _) .nil, rfl, fun _ => ⟨hunarmed, hdisarmed⟩⟩

/-- A price in the current segment. -/
theorem agree_inSegment (t : Trigger) {orderLinkId orderLinkId' : String}
    (hids : IsOwnOrderLinkId orderLinkId ↔ IsOwnOrderLinkId orderLinkId')
    (hgate : ladder.killSwitch = one.killSwitch) (h : StatesAlike one.oneLevel ladder.multiLevel) :
    StretchesAgree (c.firstInSegment orderLinkId t one)
      ((c.ladder orderLinkId').firstInSegment t ladder) := by
  unfold firstInSegment MultiLevelCoordinator.firstInSegment
  rw [h.price]
  cases one.oneLevel.previousPrice with
  | none => exact ⟨h, .nil, rfl, fun hlooks => absurd rfl hlooks⟩
  | some previous =>
    dsimp only
    have hunspent : (one.oneLevel.entryArmed || decide (c.level.entryPrice ≤ t.event.observedPrice ∧
        one.oneLevel.submitted = false)) = true → one.oneLevel.submitted = false := h.unspent
    generalize harmed : (one.oneLevel.entryArmed ||
      decide (c.level.entryPrice ≤ t.event.observedPrice ∧ one.oneLevel.submitted = false)) =
        armed at hunspent
    have hladder : ((c.ladder orderLinkId').arm t.event.observedPrice ladder.multiLevel).armed 1 =
        armed := by
      rw [← harmed]
      simp [MultiLevelCoordinator.arm, flags_ladder, h.armed, h.latch]
    have hcrossings : (c.ladder orderLinkId').crossings
        ((c.ladder orderLinkId').arm t.event.observedPrice ladder.multiLevel) previous
          t.event.observedPrice =
        if armed ∧ previous > c.level.entryPrice ∧ t.event.observedPrice ≤ c.level.entryPrice then
          [c.level] else [] := by
      unfold MultiLevelCoordinator.crossings
      rw [show (c.ladder orderLinkId').levels = [c.level] from rfl]
      simp only [List.filter_cons, List.filter_nil, c.levelId_eq, hladder, Bool.and_eq_true,
        decide_eq_true_eq, and_assoc]
    rw [hcrossings]
    split_ifs with hcrossed
    · have hone := hunspent hcrossed.1
      have hnone : ladder.multiLevel.submittedOrderIds 1 = none := by
        simpa [hone] using h.latch
      apply agree_crossed t.riskState hids
      · exact hgate
      · rfl
      · exact h.generation
      · rfl
      · exact hone
      · exact hnone
    · refine ⟨⟨rfl, h.generation, hladder, h.latch, fun hsubmitted => ?_⟩, .nil, rfl,
        fun hlooks => absurd rfl hlooks⟩
      by_contra harmed'
      have hone := hunspent (Bool.not_eq_false _ ▸ harmed')
      exact absurd (hone.symm.trans hsubmitted) (by simp)

/-- An event, and what each of the two coordinators makes of it. -/
theorem agree_first (t : Trigger) {orderLinkId orderLinkId' : String}
    (hids : IsOwnOrderLinkId orderLinkId ↔ IsOwnOrderLinkId orderLinkId')
    (hgate : ladder.killSwitch = one.killSwitch) (h : StatesAlike one.oneLevel ladder.multiLevel) :
    StretchesAgree (c.first orderLinkId t one) ((c.ladder orderLinkId').first t ladder) := by
  have hignored : StretchesAgree { memory := one, looks := [], progress := .over }
      { memory := ladder, looks := [], progress := .over } :=
    ⟨h, .nil, rfl, fun hlooks => absurd rfl hlooks⟩
  have hreset : StretchesAgree
      { memory := { one with oneLevel := c.resetSegment t.event one.oneLevel }
        looks := [], progress := .over, noted := true }
      { memory := { ladder with
          multiLevel := (c.ladder orderLinkId').resetSegment t.event ladder.multiLevel }
        looks := [], progress := .over, noted := true } := by
    refine ⟨⟨rfl, rfl, ?_, h.latch, ?_⟩, .nil, rfl, fun hlooks => absurd rfl hlooks⟩
    · simp [MultiLevelCoordinator.resetSegment, resetSegment, flags_ladder, h.latch,
        Bool.and_comm]
    · intro hsubmitted
      have hspent : one.oneLevel.submitted = true := hsubmitted
      simp [resetSegment, hspent]
  unfold first MultiLevelCoordinator.first
  simp only [show (c.ladder orderLinkId').instrument = c.instrument from rfl, h.generation]
  split_ifs
  · exact hignored
  · exact hignored
  · exact hignored
  · cases one.oneLevel.connectionGeneration with
    | none => exact hreset
    | some generation =>
      dsimp only
      split_ifs
      · exact hignored
      · exact hreset
      · exact agree_inSegment t hids hgate h

end OneLevelCoordinator

/-! ## Any sequence of events -/

/-- An event that both coordinators are told, with what the gate says then and what the id
    factories return if they are asked: both an id of the strategy's own, or neither. -/
structure SharedEvent extends Trigger where
  killSwitch : Option KillSwitchState
  orderLinkId : String
  levelOrderLinkId : String
  alike : IsOwnOrderLinkId orderLinkId ↔ IsOwnOrderLinkId levelOrderLinkId

/-- What an event came to. -/
structure SharedOutcome where
  one : Stretch
  ladder : Stretch

namespace OneLevelCoordinator

/-- The two coordinators are told the events in turn, each from the attributes it was left with. -/
def told (c : OneLevelCoordinator) : List SharedEvent → Memory → Memory → List SharedOutcome
  | [], _, _ => []
  | event :: events, one, ladder =>
    let now : SharedOutcome :=
      { one := c.first event.orderLinkId event.toTrigger { one with killSwitch := event.killSwitch }
        ladder := (c.ladder event.levelOrderLinkId).first event.toTrigger
          { ladder with killSwitch := event.killSwitch } }
    now :: c.told events now.one.memory now.ladder.memory

theorem agree_told (c : OneLevelCoordinator) (events : List SharedEvent) {one ladder : Memory}
    (h : StatesAlike one.oneLevel ladder.multiLevel) :
    ∀ now ∈ c.told events one ladder, StretchesAgree now.one now.ladder := by
  induction events generalizing one ladder with
  | nil => exact fun now hnow => absurd hnow (by simp [told])
  | cons event events ih =>
    have hfirst : StretchesAgree
        (c.first event.orderLinkId event.toTrigger { one with killSwitch := event.killSwitch })
        ((c.ladder event.levelOrderLinkId).first event.toTrigger
          { ladder with killSwitch := event.killSwitch }) :=
      c.agree_first event.toTrigger event.alike rfl h
    intro now hnow
    rcases List.mem_cons.mp hnow with rfl | hnow
    · exact hfirst
    · exact ih hfirst.alike now hnow

/-- **The one-level coordinator and the ladder of one level agree.** Told the same events, they
    submit at the same ones and the same quantity, and what one blocks is blocked by the other and
    consumed by both. -/
theorem coordinators_agree (c : OneLevelCoordinator) (events : List SharedEvent) :
    ∀ now ∈ c.told events {} {}, StretchesAgree now.one now.ladder :=
  c.agree_told events statesAlike_start

/-- A last trade at this price, in a calm and healthy market. -/
def sharedTrade (price : ℚ) : SharedEvent where
  event := tradeAt price
  marketHealth := healthyMarket
  riskState := calmState
  killSwitch := none
  orderLinkId := "ECH-A-C0001-L01-ENTRY-A01-0000"
  levelOrderLinkId := "ECH-A-C0001-L01-ENTRY-A01-0001"
  alike :=
    have hown : requireOwnOrderLinkId "ECH-A-C0001-L01-ENTRY-A01-0000" = .ok () := by
      decide +kernel
    have hown' : requireOwnOrderLinkId "ECH-A-C0001-L01-ENTRY-A01-0001" = .ok () := by
      decide +kernel
    iff_of_true (requireOwnOrderLinkId_eq_ok.mp hown) (requireOwnOrderLinkId_eq_ok.mp hown')

theorem fourHundred_pos : (0 : ℚ) < 400 := by norm_num

/-- A price above the level and one below it: both coordinators submit the four hundred. -/
theorem coordinators_agree_crossing :
    ∃ now ∈ (coordinatorOf 400 fourHundred_pos).told [sharedTrade 2010, sharedTrade 1999] {} {},
      now.one.progress.request?.map (fun request => request.quantity) = some 400 ∧
        now.ladder.progress.request?.map (fun request => request.quantity) = some 400 := by
  have hone : ∃ now ∈ (coordinatorOf 400 fourHundred_pos).told
      [sharedTrade 2010, sharedTrade 1999] {} {},
        now.one.progress.request?.map (fun request => request.quantity) = some 400 := by
    decide +kernel
  obtain ⟨now, hnow, hquantity⟩ := hone
  exact ⟨now, hnow, hquantity, (coordinators_agree _ _ now hnow).submits.symm.trans hquantity⟩

end OneLevelCoordinator

end CreditHedge
