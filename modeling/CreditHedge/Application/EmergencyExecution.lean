import CreditHedge.Application.KillSwitch
import CreditHedge.Lib.Monitors
import Mathlib.Data.List.Induction

/-!
# What an emergency does

`EmergencyKillSwitchExecutor.execute`, watched call by call. The exchange may answer what it likes,
late or not at all, and the other tasks of the process may do what they like in between; so nothing
is assumed of an answer. `EmergencyWatch` is what an onlooker learns from the calls, and
`EmergencyWatch.Allows` the calls he expects: first the switch, then the notification, then the two
cancellations, and then rounds. A round places at most one order, under the round's own client id,
persisted before it is sent, and the order closes the short that the last report shows and nothing
else. The executor returns only after a report without a position that no order has followed, and
a reconciliation that succeeded after that report.
-/

set_option autoImplicit false

namespace CreditHedge

inductive EmergencyPhase where
  | activating
  | notifying
  | cancellingLinear
  | cancellingOptions
  | closing
  deriving DecidableEq, Repr

/-- What the calls so far have shown. -/
structure EmergencyWatch where
  phase : EmergencyPhase := .activating
  /-- The last report of the positions, if no order was sent since. -/
  reported : Option (List ExchangePosition) := none
  /-- The order that was persisted and not sent yet. -/
  intent : Option PlaceOrderRequest := none
  /-- The order of this round. -/
  placed : Option PlaceOrderRequest := none
  /-- How many orders were sent. -/
  orders : ℕ := 0
  /-- How many rounds were reconciled. -/
  rounds : ℕ := 0
  /-- The last report was reconciled since. -/
  reconciled : Bool := false

/-- The order buys back the one short that is reported, and the report shows nothing else. -/
structure ClosesReported (positions : List ExchangePosition) (request : PlaceOrderRequest) :
    Prop where
  short : ∃ position, positions.filter (fun position => 0 < position.quantity) = [position] ∧
    position.category = .linear ∧ position.symbol = "ETHUSDT" ∧ position.side = some .sell ∧
    request.quantity = position.quantity
  buys : request.category = .linear ∧ request.symbol = "ETHUSDT" ∧ request.side = .buy ∧
    request.orderType = .market
  reduceOnly : request.reduceOnly = true

namespace EmergencyWatch

variable (orderLinkIdFactory : ℕ → String) (maximumAttempts : ℕ)

def next (s : EmergencyWatch) :
    (call : ProcessCall) → Except Failure call.Result → EmergencyWatch
  | .saveKillSwitch _ _, .ok _ => { s with phase := .notifying }
  | .sendNotification _, .ok _ => { s with phase := .cancellingLinear }
  | .cancelAll .linear _, .ok _ => { s with phase := .cancellingOptions }
  | .cancelAll .option _, .ok _ => { s with phase := .closing }
  | .port (.getPositions _ _), .ok positions =>
    { s with reported := some positions, reconciled := false }
  | .persistOrderIntent request _, .ok _ => { s with intent := some request }
  | .port (.placeOrder request), _ =>
    { s with
      reported := none
      intent := none
      placed := some request
      orders := s.orders + 1
      reconciled := false }
  | .reconcile, .ok reconciled =>
    { s with rounds := s.rounds + 1, intent := none, placed := none, reconciled }
  | _, _ => s

/-- An order that may go out in this round. -/
structure MayClose (s : EmergencyWatch) (request : PlaceOrderRequest) : Prop where
  closing : s.phase = .closing
  unplaced : s.placed = none
  left : s.rounds < maximumAttempts
  orderLinkId : request.orderLinkId = orderLinkIdFactory (s.rounds + 1)
  closes : ∃ positions, s.reported = some positions ∧ ClosesReported positions request

/-- The calls that may come here. -/
def Allows (s : EmergencyWatch) : ProcessCall → Prop
  | .sync _ => True
  | .port .clock => True
  | .saveKillSwitch state _ => s.phase = .activating ∧ state.mode = .emergencyFlatten
  | .sendNotification _ => s.phase = .notifying
  | .cancelAll category symbol =>
    (s.phase = .cancellingLinear ∧ category = .linear ∧ symbol = some "ETHUSDT") ∨
      (s.phase = .cancellingOptions ∧ category = .option ∧ symbol = none)
  | .port (.getPositions category symbol) =>
    s.phase = .closing ∧ s.rounds < maximumAttempts ∧ category = .linear ∧ symbol = "ETHUSDT"
  | .persistOrderIntent request _ => s.MayClose orderLinkIdFactory maximumAttempts request
  | .port (.placeOrder request) =>
    s.intent = some request ∧ s.MayClose orderLinkIdFactory maximumAttempts request
  | .port (.getOrderByLinkId category symbol orderLinkId) =>
    ∃ request, s.placed = some request ∧ category = request.category ∧
      symbol = request.symbol ∧ orderLinkId = request.orderLinkId
  | .port (.recordAcknowledgement _) => s.placed ≠ none
  | .reconcile => s.phase = .closing ∧ s.rounds < maximumAttempts
  | _ => False

/-- The last report shows no position, no order has gone out since, and it was reconciled. -/
structure ConfirmedFlat (s : EmergencyWatch) : Prop where
  reconciled : s.reconciled = true
  flat : ∃ positions, s.reported = some positions ∧ ∀ position ∈ positions, position.quantity ≤ 0

/-- Of what the executor returns, every word is true. -/
def Ended : Except Failure EmergencyKillSwitchResult → EmergencyWatch → Prop
  | .ok result, s => s.ConfirmedFlat ∧ result.positionConfirmedFlat = true ∧
      result.reconciliationSucceeded = true ∧ result.attempts = s.rounds ∧
      s.rounds ≤ maximumAttempts
  | .error _, _ => True

def monitor : Coroutine.Monitor Failure ProcessCall ProcessCall.Result EmergencyWatch where
  allows := Allows orderLinkIdFactory maximumAttempts
  next := next

/-- At most one order a round. -/
structure OneARound (s : EmergencyWatch) : Prop where
  orders_le : s.orders ≤ s.rounds + if s.placed.isSome then 1 else 0
  rounds_le : s.rounds + (if s.placed.isSome then 1 else 0) ≤ maximumAttempts

variable {orderLinkIdFactory maximumAttempts} {s : EmergencyWatch}

theorem OneARound.next {call : ProcessCall} {answer : Except Failure call.Result}
    (hallows : s.Allows orderLinkIdFactory maximumAttempts call)
    (h : s.OneARound maximumAttempts) : (s.next call answer).OneARound maximumAttempts := by
  obtain ⟨horders, hrounds⟩ := h
  cases call with
  | port call =>
    cases call with
    | placeOrder request =>
      obtain ⟨-, hmay⟩ := hallows
      have hleft := hmay.left
      rw [hmay.unplaced] at horders
      refine ⟨?_, ?_⟩
      · simpa [EmergencyWatch.next] using horders
      · simpa [EmergencyWatch.next] using Nat.succ_le_of_lt hleft
    | getPositions category symbol =>
      cases answer with
      | ok positions => exact ⟨horders, hrounds⟩
      | error failure => exact ⟨horders, hrounds⟩
    | _ => exact ⟨horders, hrounds⟩
  | reconcile =>
    cases answer with
    | ok reconciled =>
      refine ⟨?_, ?_⟩
      · simp only [EmergencyWatch.next, Option.isSome_none, Bool.false_eq_true, if_false, add_zero]
        split at horders <;> omega
      · simpa [EmergencyWatch.next] using Nat.succ_le_of_lt hallows.2
    | error failure => exact ⟨horders, hrounds⟩
  | cancelAll category symbol => cases category <;> cases answer <;> exact ⟨horders, hrounds⟩
  | _ => cases answer <;> exact ⟨horders, hrounds⟩

end EmergencyWatch

/-! ## The executor, call by call -/

open Coroutine EmergencyWatch EmergencyFlattenService

section Executor

variable {orderLinkIdFactory : ℕ → String} {maximumAttempts : ℕ} {s : EmergencyWatch} {α : Type}
  {post : Except Failure α → EmergencyWatch → Prop}

/-- A stretch without awaits shows nothing. -/
theorem heeds_sync {stretch : Memory → Memory × Task α}
    (h : ∀ memory, Heeds (monitor orderLinkIdFactory maximumAttempts) post (stretch memory).2 s)
    (herror : ∀ failure, post (.error failure) s) :
    Heeds (monitor orderLinkIdFactory maximumAttempts) post (sync stretch) s := by
  refine ⟨trivial, fun answer => ?_⟩
  cases answer with
  | ok memory => exact h memory
  | error failure => exact herror failure

/-- The switch is saved before anything else. -/
theorem heeds_activate {reason requestedBy : String}
    {post : Except Failure KillSwitchState → EmergencyWatch → Prop} (hphase : s.phase = .activating)
    (hok : ∀ state, post (.ok state) { s with phase := .notifying })
    (herror : ∀ failure s', post (.error failure) s') :
    Heeds (monitor orderLinkIdFactory maximumAttempts) post
      (KillSwitchController.activate .emergencyFlatten reason requestedBy) s := by
  unfold KillSwitchController.activate
  rw [if_neg (by decide)]
  refine heeds_sync (fun memory => ?_) fun failure => herror failure s
  cases memory.killSwitch with
  | none => exact herror _ s
  | some current =>
    dsimp only
    split
    · exact herror _ s
    · unfold KillSwitchController.saveState
      refine .call_bind trivial (fun changedAt => ?_) fun failure => herror failure _
      refine .lift_bind (fun updated hupdated => ?_) fun failure => herror failure _
      refine .call_bind ⟨hphase, KillSwitchState.mode_of_create hupdated⟩ (fun _ => ?_)
        fun failure => herror failure _
      exact heeds_sync (fun memory => hok updated) fun failure => herror failure _

theorem heeds_confirmFlattened {post : Except Failure Bool → EmergencyWatch → Prop}
    (hphase : s.phase = .closing) (hleft : s.rounds < maximumAttempts)
    (hok : ∀ positions, post (.ok (positions.all fun position => decide (position.quantity ≤ 0)))
      { s with reported := some positions, reconciled := false })
    (herror : ∀ failure s', post (.error failure) s') :
    Heeds (monitor orderLinkIdFactory maximumAttempts) post confirmFlattened s := by
  refine .call_bind ⟨hphase, hleft, rfl, rfl⟩ (fun positions => ?_) fun failure => herror failure _
  exact hok positions

/-- The one short of a report is what the order for it closes. -/
theorem closesReported_of_provenShort {positions : List ExchangePosition}
    {position : ExchangePosition} {orderLinkId : String} {request : PlaceOrderRequest}
    (hproven : provenShort positions = .ok position)
    (hrequest : PlaceOrderRequest.create (flattenFields position.quantity orderLinkId) =
      .ok request) : ClosesReported positions request ∧ request.orderLinkId = orderLinkId := by
  have hfields := PlaceOrderRequest.create_eq_ok.mp hrequest
  unfold provenShort at hproven
  split at hproven
  · rename_i found hfound
    split at hproven
    · exact absurd hproven (by simp [throw, throwThe, MonadExceptOf.throw])
    · rename_i hshort
      obtain rfl : found = position := Except.ok.inj hproven
      simp only [not_or, not_not] at hshort
      refine ⟨⟨⟨found, hfound, hshort.1, hshort.2.1, hshort.2.2, by rw [hfields]; rfl⟩, ?_, ?_⟩,
        by rw [hfields]; rfl⟩
      · rw [hfields]
        exact ⟨rfl, rfl, rfl, rfl⟩
      · rw [hfields]
        rfl
  · exact absurd hproven (by simp [throw, throwThe, MonadExceptOf.throw])

/-- A round that is under way and has sent nothing. -/
structure InRound (maximumAttempts : ℕ) (s : EmergencyWatch) : Prop where
  phase : s.phase = .closing
  placed : s.placed = none
  left : s.rounds < maximumAttempts

/-- An order is looked up, and acknowledged, if it was sent. -/
theorem heeds_placeClose {request : PlaceOrderRequest}
    {post : Except Failure OrderRequestAck → EmergencyWatch → Prop}
    (hintent : s.intent = some request)
    (hmay : s.MayClose orderLinkIdFactory maximumAttempts request)
    (hok : ∀ acknowledgement,
      post (.ok acknowledgement) (s.next (.port (.placeOrder request)) (.ok acknowledgement)))
    (herror : ∀ failure s', post (.error failure) s') :
    Heeds (monitor orderLinkIdFactory maximumAttempts) post (placeClose request) s := by
  refine Heeds.tryCatch ⟨⟨hintent, hmay⟩, fun answer => ?_⟩
  cases answer with
  | ok acknowledgement => exact hok acknowledgement
  | error failure =>
    refine heeds_done.mpr ?_
    dsimp only
    split
    · refine .call_bind ⟨request, rfl, rfl, rfl, rfl⟩ (fun found => ?_)
        fun failure => herror failure _
      cases found with
      | none => exact herror _ _
      | some discovered =>
        refine .call_bind trivial (fun acknowledgedAt => ?_) fun failure => herror failure _
        cases hcreate : OrderRequestAck.create .place discovered.orderId discovered.orderLinkId
          acknowledgedAt with
        | ok acknowledgement => exact hok acknowledgement
        | error failure => exact herror failure _
    · exact herror _ _

theorem heeds_flattenShort {attempt : ℕ}
    {post : Except Failure FlattenResult → EmergencyWatch → Prop}
    (hround : InRound maximumAttempts s) (hattempt : attempt = s.rounds + 1)
    (hok : ∀ result s', s'.phase = .closing → s'.rounds = s.rounds → post (.ok result) s')
    (herror : ∀ failure s', post (.error failure) s') :
    Heeds (monitor orderLinkIdFactory maximumAttempts) post
      (flattenShort (orderLinkIdFactory attempt)) s := by
  obtain ⟨hphase, hplaced, hleft⟩ := hround
  refine .call_bind ⟨hphase, hleft, rfl, rfl⟩ (fun positions => ?_) fun failure => herror failure _
  refine .lift_bind (fun position hposition => ?_) fun failure => herror failure _
  refine .lift_bind (fun request hrequest => ?_) fun failure => herror failure _
  obtain ⟨hcloses, horderLinkId⟩ := closesReported_of_provenShort hposition hrequest
  rw [hattempt] at horderLinkId
  refine .call_bind trivial (fun persistedAt => ?_) fun failure => herror failure _
  refine .call_bind ⟨hphase, hplaced, hleft, horderLinkId, positions, rfl, hcloses⟩ (fun _ => ?_)
    fun failure => herror failure _
  refine .bind (heeds_placeClose rfl
    ⟨hphase, hplaced, hleft, horderLinkId, positions, rfl, hcloses⟩ (fun acknowledgement => ?_)
    fun failure s' => herror failure s')
  refine .call_bind (Option.some_ne_none _) (fun _ => ?_) fun failure => herror failure _
  exact hok _ _ hphase rfl

/-- The look at the position, and the close if there is one: what is said to be flat was reported
    so, and no order has been sent since. -/
theorem heeds_flattenIfOpen {attempt : ℕ} {post : Except Failure Bool → EmergencyWatch → Prop}
    (hround : InRound maximumAttempts s) (hattempt : attempt = s.rounds + 1)
    (hok : ∀ flat s', s'.phase = .closing → s'.rounds = s.rounds →
      (flat = true → ∃ positions, s'.reported = some positions ∧
        ∀ position ∈ positions, position.quantity ≤ 0) → post (.ok flat) s')
    (herror : ∀ failure s', post (.error failure) s') :
    Heeds (monitor orderLinkIdFactory maximumAttempts) post
      (EmergencyKillSwitchExecutor.flattenIfOpen (orderLinkIdFactory attempt)) s := by
  have hflat : ∀ positions : List ExchangePosition,
      (positions.all fun position => decide (position.quantity ≤ 0)) = true →
      ∀ position ∈ positions, position.quantity ≤ 0 := by
    intro positions hall position hmem
    exact of_decide_eq_true (List.all_eq_true.mp hall position hmem)
  unfold EmergencyKillSwitchExecutor.flattenIfOpen
  refine .bind (heeds_confirmFlattened hround.phase hround.left (fun positions => ?_)
    fun failure s' => herror failure s')
  dsimp only
  split
  · rename_i hall
    exact hok true _ hround.phase rfl fun _ => ⟨positions, rfl, hflat positions hall⟩
  · refine .bind (heeds_flattenShort ⟨hround.phase, hround.placed, hround.left⟩ hattempt
      (fun _ s' hphase hrounds => ?_) fun failure s' => herror failure s')
    refine heeds_confirmFlattened hphase (hrounds ▸ hround.left) (fun positions' => ?_)
      fun failure s' => herror failure s'
    exact hok _ _ hphase hrounds fun hall => ⟨positions', rfl, hflat positions' hall⟩

/-- The loop, by induction on the attempts that are left. -/
theorem heeds_attempts : ∀ (left attempt : ℕ) (s : EmergencyWatch), s.phase = .closing →
    s.placed = none → attempt = s.rounds + 1 → s.rounds + left = maximumAttempts →
    Heeds (monitor orderLinkIdFactory maximumAttempts) (EmergencyWatch.Ended maximumAttempts)
      (EmergencyKillSwitchExecutor.attempts orderLinkIdFactory left attempt) s
  | 0, _, _, _, _, _, _ => trivial
  | left + 1, attempt, s, hphase, hplaced, hattempt, hleft => by
    have hlt : s.rounds < maximumAttempts := by omega
    unfold EmergencyKillSwitchExecutor.attempts
    refine .bind (heeds_flattenIfOpen ⟨hphase, hplaced, hlt⟩ hattempt
      (fun flat s' hphase' hrounds hflat => ?_) fun _ _ => trivial)
    refine .call_bind ⟨hphase', hrounds ▸ hlt⟩ (fun reconciled => ?_) fun _ => trivial
    split
    · rename_i hverified
      rw [Bool.and_eq_true] at hverified
      refine ⟨⟨hverified.2, hflat hverified.1⟩, rfl, rfl, ?_, ?_⟩
      · rw [hattempt, ← hrounds]
        rfl
      · exact Nat.succ_le_of_lt (hrounds ▸ hlt)
    · refine heeds_attempts left (attempt + 1) _ hphase' rfl ?_ ?_
      · rw [hattempt, ← hrounds]
        rfl
      · refine Eq.trans ?_ hleft
        rw [← hrounds]
        exact Nat.add_right_comm _ 1 left

theorem heeds_execute (orderLinkIdFactory : ℕ → String) (maximumAttempts : ℕ)
    (reason requestedBy : String) :
    Heeds (monitor orderLinkIdFactory maximumAttempts) (EmergencyWatch.Ended maximumAttempts)
      (EmergencyKillSwitchExecutor.execute orderLinkIdFactory maximumAttempts reason requestedBy)
      {} := by
  refine .bind (heeds_activate rfl (fun _ => ?_) fun _ _ => trivial)
  refine .call_bind rfl (fun _ => ?_) fun _ => trivial
  refine .call_bind (Or.inl ⟨rfl, rfl, rfl⟩) (fun _ => ?_) fun _ => trivial
  refine .call_bind (Or.inr ⟨rfl, rfl, rfl⟩) (fun _ => ?_) fun _ => trivial
  exact heeds_attempts maximumAttempts 1 _ rfl rfl rfl (Nat.zero_add _)

end Executor

/-! ## Histories -/

abbrev ProcessHistory := List (Answered Failure ProcessCall ProcessCall.Result)

/-- What an onlooker knows after these calls and answers. -/
def EmergencyWatch.seen (history : ProcessHistory) : EmergencyWatch :=
  history.foldl (fun s answered => s.next answered.op answered.answer) {}

/-- The order a call sends. -/
def ProcessCall.order? : ProcessCall → Option PlaceOrderRequest
  | .port (.placeOrder request) => some request
  | _ => none

/-- The orders that were sent. -/
def ordersIn (history : ProcessHistory) : List PlaceOrderRequest :=
  history.filterMap fun answered => answered.op.order?

theorem EmergencyWatch.orders_next (s : EmergencyWatch) (call : ProcessCall)
    (answer : Except Failure call.Result) :
    (s.next call answer).orders = s.orders + call.order?.toList.length := by
  cases call with
  | port call => cases call <;> cases answer <;> rfl
  | cancelAll category symbol => cases category <;> cases answer <;> rfl
  | _ => cases answer <;> rfl

theorem EmergencyWatch.orders_seen (history : ProcessHistory) :
    (seen history).orders = (ordersIn history).length := by
  induction history using List.reverseRecOn with
  | nil => rfl
  | append_singleton history answered ih =>
    unfold seen ordersIn at ih ⊢
    rw [List.foldl_append, List.filterMap_append, List.length_append, ← ih]
    refine (orders_next _ _ _).trans (congrArg (_ + ·) ?_)
    cases horder : answered.op.order? <;> simp [horder]

/-- **What an emergency does**, whatever it is answered and whatever else goes on. At each of its
    calls it makes one that may come there; what it returns is true; and it sends at most one order
    an attempt. -/
theorem emergency_execution (orderLinkIdFactory : ℕ → String) (maximumAttempts : ℕ)
    (reason requestedBy : String) {history : ProcessHistory} {t : Task EmergencyKillSwitchResult}
    (h : Comes (EmergencyKillSwitchExecutor.execute orderLinkIdFactory maximumAttempts reason
      requestedBy) history t) :
    (∀ call resume, t = .call call resume →
      (seen history).Allows orderLinkIdFactory maximumAttempts call) ∧
    (∀ outcome, t = .done outcome → EmergencyWatch.Ended maximumAttempts outcome (seen history)) ∧
    (ordersIn history).length ≤ maximumAttempts := by
  have hstart := heeds_execute orderLinkIdFactory maximumAttempts reason requestedBy
  have hthere : Heeds (monitor orderLinkIdFactory maximumAttempts)
      (EmergencyWatch.Ended maximumAttempts) t (seen history) := hstart.comes h
  have hone : (seen history).OneARound maximumAttempts :=
    hstart.keeps (fun _ _ _ hallows hs => hs.next hallows) ⟨Nat.zero_le _, Nat.zero_le _⟩ h
  refine ⟨?_, ?_, ?_⟩
  · rintro call resume rfl
    exact hthere.1
  · rintro outcome rfl
    exact hthere
  · rw [← orders_seen]
    exact hone.orders_le.trans hone.rounds_le

/-! ### A short that is closed at the first attempt -/

def reportedShort : ExchangePosition where
  category := .linear
  symbol := "ETHUSDT"
  side := some .sell
  quantity := 1 / 10
  averagePrice := some 2000
  markPrice := some 1990
  unrealizedPnl := 1
  updatedAt := 0
  positionIdx := 0

/-- An exchange that does what it is asked, and reports these positions. -/
def obliging (positions : List ExchangePosition) :
    (call : ProcessCall) → Unit → Except Failure call.Result × Unit
  | .sync _, w => (.ok { killSwitch := KillSwitchState.create .running "initial state" "system" 0 1
      |>.toOption }, w)
  | .port .clock, w => (.ok 0, w)
  | .port (.getPositions _ _), w => (.ok positions, w)
  | .port (.placeOrder request), w => (OrderRequestAck.create .place "1" request.orderLinkId 0, w)
  | .port (.recordAcknowledgement _), w => (.ok (), w)
  | .port _, w => (.error (.exchangeError "not asked"), w)
  | .reconcile, w => (.ok true, w)
  | .saveKillSwitch _ _, w => (.ok (), w)
  | .sendNotification _, w => (.ok (), w)
  | .cancelAll _ _, w => (.ok (), w)
  | .persistOrderIntent _ _, w => (.ok (), w)

/-- The short is there until its order is acknowledged. -/
def closedAtOnce : Task EmergencyKillSwitchResult × Unit :=
  advances obliging (List.replicate 13 [reportedShort] ++ List.replicate 2 [])
    (EmergencyKillSwitchExecutor.execute (fun _ => "ECH-A-C0001-L01-EC-A01-0000") 1
      "loss limit" "operator") ()

theorem emergency_execution_closedAtOnce :
    ∃ history : ProcessHistory, EmergencyWatch.Ended 1 (.ok
        { attempts := 1, positionConfirmedFlat := true, reconciliationSucceeded := true })
        (seen history) ∧ (ordersIn history).length ≤ 1 := by
  have hend : closedAtOnce.1.returned? = some
      { attempts := 1, positionConfirmedFlat := true, reconciliationSucceeded := true } := by
    decide +kernel
  obtain ⟨history, h⟩ := exists_comes_advances obliging
    (List.replicate 13 [reportedShort] ++ List.replicate 2 [])
    (EmergencyKillSwitchExecutor.execute (fun _ => "ECH-A-C0001-L01-EC-A01-0000") 1
      "loss limit" "operator") ()
  obtain ⟨-, hended, horders⟩ := emergency_execution _ _ _ _ h
  exact ⟨history, hended _ (returned?_eq_some.mp hend), horders⟩

end CreditHedge
