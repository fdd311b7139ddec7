import CreditHedge.Backtesting.SimulatedExchange

/-!
# What an operation does to the simulated exchange

Every operation, also one that raises half-way, is a chain of a few kinds of moves
(`moves_perform`): an order is accepted, changed or filled, the funding is paid, the queue is
emptied, or nothing happens that the accounts, the orders or the executions could tell. What is
claimed of all runs is then shown move by move, and the operations are looked at only here.

Two kinds of move are subject to conditions that a run may be asked to meet.
-/

set_option autoImplicit false

namespace CreditHedge

/-! ## The financial part of the log -/

def SimulatedPayload.isFinancial : SimulatedPayload → Bool
  | .fundingApplied .. | .execution .. => true
  | _ => false

namespace SimulatedExchange

variable {σ : Type}

/-- The payloads that a replay reads. -/
def ledger (events : List SimulatedEvent) : List SimulatedPayload :=
  (events.map fun event => event.payload).filter SimulatedPayload.isFinancial

theorem ledger_record (s : SimulatedExchange σ) (payload : SimulatedPayload) :
    ledger (s.record payload).eventLog =
      ledger s.eventLog ++ if payload.isFinancial then [payload] else [] := by
  simp only [ledger, record, List.map_append, List.filter_append]
  cases hfinancial : payload.isFinancial <;> simp [hfinancial]

theorem ledger_record_financial (s : SimulatedExchange σ) {payload : SimulatedPayload}
    (h : payload.isFinancial = true) :
    ledger (s.record payload).eventLog = ledger s.eventLog ++ [payload] := by
  rw [ledger_record, h, if_pos rfl]

def notionalOf (e : ExecutionUpdate) : ℚ := e.price * e.quantity

/-! ## Moves -/

/-- Nothing happens to the accounts, the orders or the executions. -/
structure Quiet (s s' : SimulatedExchange σ) : Prop where
  walletBalance : s'.walletBalance = s.walletBalance
  orders : s'.orders = s.orders
  executions : s'.executions = s.executions
  deliveryQueue : s'.deliveryQueue = s.deliveryQueue
  accounts : s'.accounts = s.accounts
  ledger : ledger s'.eventLog = ledger s.eventLog
  executionSequence : s.executionSequence ≤ s'.executionSequence
  nowMs : s.nowMs ≤ s'.nowMs

theorem Quiet.refl (s : SimulatedExchange σ) : Quiet s s :=
  ⟨rfl, rfl, rfl, rfl, rfl, rfl, le_rfl, le_rfl⟩

theorem Quiet.trans {s s' s'' : SimulatedExchange σ} (h : Quiet s s') (h' : Quiet s' s'') :
    Quiet s s'' where
  walletBalance := h'.walletBalance.trans h.walletBalance
  orders := h'.orders.trans h.orders
  executions := h'.executions.trans h.executions
  deliveryQueue := h'.deliveryQueue.trans h.deliveryQueue
  accounts := h'.accounts.trans h.accounts
  ledger := h'.ledger.trans h.ledger
  executionSequence := h.executionSequence.trans h'.executionSequence
  nowMs := h.nowMs.trans h'.nowMs

/-- The execution is one that this order is filled by now. -/
structure IsFillOf (s : SimulatedExchange σ) (order : SimulatedOrder) (execution : ExecutionUpdate)
    (role : ClientOrderRole) : Prop where
  row : order ∈ s.orders.rows
  active : order.status.isActive = true
  orderLinkId : execution.orderLinkId = order.request.orderLinkId
  side : execution.side = order.request.side
  hasRole : HasRole execution.orderLinkId role
  within : execution.quantity ≤ order.request.quantity - order.filledQuantity
  reduceOnly : order.request.reduceOnly = true →
    execution.quantity ≤ s.accounts.positionQuantity
  fee : 0 ≤ execution.fee
  executionId : execution.executionId =
    String.ofList ("SIM-EXEC-".toList ++ zeroPadded 6 (s.executionSequence + 1))

/-- What may become of an order other than a fill. -/
inductive Change (amendable : SimulatedOrder → PlaceOrderRequest → Prop) (nowMs : ℤ)
    (order : SimulatedOrder) : SimulatedOrder → Prop
  | cancelled : order.status.isActive = true → Change amendable nowMs order (order.cancelled nowMs)
  | planned : Change amendable nowMs order { order with partialDone := true }
  | amended (request : AmendOrderRequest) (amended : PlaceOrderRequest) :
      order.status.isActive = true → amendedRequest order request = .ok amended →
      amendable order amended →
      Change amendable nowMs order
        { order with
          request := amended
          updatedMs := nowMs }

/-- What a run may be asked to meet: what an active order is amended to, and whether the executions
    are drained. -/
structure Conditions where
  amendable : SimulatedOrder → PlaceOrderRequest → Prop := fun _ _ => True
  draining : Prop := True

theorem amendedRequest_eq_ok {order : SimulatedOrder} {request : AmendOrderRequest}
    {amended : PlaceOrderRequest} (h : amendedRequest order request = .ok amended) :
    amended.toPlaceOrderFields =
      { order.request.toPlaceOrderFields with
        quantity := request.quantity.getD order.request.quantity
        price := request.price.or order.request.price
        triggerPrice := request.triggerPrice.or order.request.triggerPrice } :=
  PlaceOrderRequest.create_eq_ok.mp h

/-- An order keeps its id, its side and its being reduce-only. -/
theorem Change.keeps {amendable : SimulatedOrder → PlaceOrderRequest → Prop} {nowMs : ℤ}
    {order order' : SimulatedOrder} (h : Change amendable nowMs order order') :
    order'.request.orderLinkId = order.request.orderLinkId ∧
      order'.request.side = order.request.side ∧
      order'.request.reduceOnly = order.request.reduceOnly := by
  cases h with
  | cancelled _ => exact ⟨rfl, rfl, rfl⟩
  | planned => exact ⟨rfl, rfl, rfl⟩
  | amended request amended _ hamended _ =>
    dsimp only
    rw [amendedRequest_eq_ok hamended]
    exact ⟨rfl, rfl, rfl⟩

variable (sim : Simulator σ) (conditions : Conditions)

inductive Move : SimulatedExchange σ → SimulatedExchange σ → Prop
  | quiet {s s' : SimulatedExchange σ} : Quiet s s' → Move s s'
  | accept (s : SimulatedExchange σ) (request : PlaceOrderRequest) (partialPlanned : Bool) :
      s.orders.find request.orderLinkId = none →
      Move s (s.putOrder (s.acceptedOrder sim request partialPlanned))
  | change (s : SimulatedExchange σ) {order order' : SimulatedOrder} :
      order ∈ s.orders.rows → Change conditions.amendable s.nowMs order order' →
        Move s (s.putOrder order')
  | fill (s : SimulatedExchange σ) {order : SimulatedOrder} {execution : ExecutionUpdate}
      {role : ClientOrderRole} (rng : σ) (firstAvailable : ℚ) (duplicated : Bool) :
      IsFillOf s order execution role →
      Move s
        ({ s with
            executionSequence := s.executionSequence + 1
            rng }.settleFill order execution firstAvailable role duplicated)
  | fund (s : SimulatedExchange σ) (rate : ℚ) :
      Move s
        ({ s with
            accounts :=
              { s.accounts with
                funding := s.accounts.funding +
                  s.accounts.positionQuantity * s.marketPrice * rate } }.record
          (.fundingApplied rate (s.accounts.positionQuantity * s.marketPrice * rate)))
  | drain (s : SimulatedExchange σ) : conditions.draining → Move s { s with deliveryQueue := [] }

/-- The program goes along moves. -/
abbrev MovesAlong {α : Type} (post : α → SimulatedExchange σ → Prop) (t : SimTask σ α)
    (s : SimulatedExchange σ) : Prop :=
  t.Moves (Move sim conditions) post s

/-! ## Quiet steps -/

variable {sim conditions} {s s' : SimulatedExchange σ}

theorem steps_quiet (h : Quiet s s') :
    Relation.ReflTransGen (Move sim conditions) s s' :=
  .single (.quiet h)

theorem quiet_record {payload : SimulatedPayload} (h : payload.isFinancial = false) :
    Quiet s (s.record payload) where
  walletBalance := rfl
  orders := rfl
  executions := rfl
  deliveryQueue := rfl
  accounts := rfl
  ledger := by rw [ledger_record, h, if_neg (by simp), List.append_nil]
  executionSequence := le_rfl
  nowMs := le_rfl

/-- Quiet changes, and a record of them. -/
theorem Quiet.record {payload : SimulatedPayload} (h : Quiet s s')
    (hpayload : payload.isFinancial = false) : Quiet s (s'.record payload) :=
  h.trans (quiet_record hpayload)

theorem quiet_updateProtectionState (s : SimulatedExchange σ) :
    Quiet s s.updateProtectionState := by
  unfold updateProtectionState
  dsimp only
  split
  · exact ⟨rfl, rfl, rfl, rfl, rfl, rfl, le_rfl, le_rfl⟩
  · split
    · exact ⟨rfl, rfl, rfl, rfl, rfl, rfl, le_rfl, le_rfl⟩
    · exact .refl s

/-- The protection state is about the clock, and does not move it. -/
theorem updateProtectionState_keeps (s : SimulatedExchange σ) :
    s.updateProtectionState.executionSequence = s.executionSequence ∧
      s.updateProtectionState.nowMs = s.nowMs := by
  unfold updateProtectionState
  dsimp only
  split
  · exact ⟨rfl, rfl⟩
  · split <;> exact ⟨rfl, rfl⟩

theorem moves_draw (probability : ℚ) :
    MovesAlong sim conditions (fun _ s' => Quiet s s') (draw sim probability) s := by
  have hquiet : Quiet s { s with rng := (sim.draw probability s.rng).2 } :=
    ⟨rfl, rfl, rfl, rfl, rfl, rfl, le_rfl, le_rfl⟩
  exact .get (.set (steps_quiet hquiet) (.pure hquiet))

theorem moves_checkpoint (name : String) :
    MovesAlong sim conditions (fun _ s' => Quiet s s') (checkpoint name) s := by
  refine .get ?_
  cases s.faultInjector with
  | none => exact .pure (.refl s)
  | some injector =>
    have hquiet : Quiet s { s with faultInjector := some (injector.checkpoint name).2 } :=
      ⟨rfl, rfl, rfl, rfl, rfl, rfl, le_rfl, le_rfl⟩
    refine .set (steps_quiet hquiet) ?_
    cases (injector.checkpoint name).1 with
    | ok u => exact .pure hquiet
    | error failure => exact .throw failure

/-- What a settled fill leaves. -/
structure FillResult (s s' : SimulatedExchange σ) (order : SimulatedOrder) (e : ExecutionUpdate)
    (role : ClientOrderRole) (duplicated : Bool) : Prop where
  walletBalance : s'.walletBalance = s.walletBalance
  orders : s'.orders = s.orders.upsert (order.filledBy e s.nowMs)
  executions : s'.executions = s.executions ++ [e]
  deliveryQueue : s'.deliveryQueue = s.deliveryQueue ++ if duplicated then [e, e] else [e]
  accounts : s'.accounts = applyPosition s.accounts e role
  ledger : ledger s'.eventLog = ledger s.eventLog ++ [executionPayload e role]
  executionSequence : s'.executionSequence = s.executionSequence + 1
  nowMs : s'.nowMs = s.nowMs

theorem fillResult (s : SimulatedExchange σ) (rng : σ) (order : SimulatedOrder)
    (e : ExecutionUpdate) (firstAvailable : ℚ) (role : ClientOrderRole) (duplicated : Bool) :
    FillResult s
      ({ s with
          executionSequence := s.executionSequence + 1
          rng }.settleFill order e firstAvailable role duplicated) order e role duplicated := by
  have hprotected := quiet_updateProtectionState
    ({ s with
        executionSequence := s.executionSequence + 1
        rng }.takeFill order e role duplicated)
  refine ⟨?_, ?_, ?_, ?_, ?_, ?_, ?_, ?_⟩
  · exact hprotected.walletBalance
  · exact hprotected.orders
  · exact hprotected.executions
  · exact hprotected.deliveryQueue
  · exact hprotected.accounts
  · exact (ledger_record_financial _ rfl).trans
      (congrArg (fun payloads => payloads ++ [executionPayload e role]) hprotected.ledger)
  · exact (updateProtectionState_keeps _).1
  · exact (updateProtectionState_keeps _).2

/-! ## Fills -/

theorem le_of_le_remainingQuantity {order : SimulatedOrder} {q : ℚ}
    (h : q ≤ s.remainingQuantity order) : q ≤ order.request.quantity - order.filledQuantity ∧
      (order.request.reduceOnly = true → q ≤ s.accounts.positionQuantity) := by
  unfold remainingQuantity at h
  dsimp only at h
  split at h
  · exact ⟨h.trans (min_le_left _ _), fun _ => h.trans (min_le_right _ _)⟩
  · rename_i hnot
    exact ⟨h, fun hreduceOnly => absurd hreduceOnly hnot⟩

theorem planFill_le {order : SimulatedOrder} {fillQuantity : ℚ} {isPartial : Bool}
    (h : s.planFill sim order = some (fillQuantity, isPartial)) :
    fillQuantity ≤ s.remainingQuantity order := by
  unfold planFill at h
  dsimp only at h
  split at h
  · exact absurd h (by simp)
  · split at h
    · rename_i hpartial
      obtain ⟨rfl, -⟩ := Prod.mk.inj (Option.some.inj h)
      exact hpartial.2.2.2.le
    · obtain ⟨rfl, -⟩ := Prod.mk.inj (Option.some.inj h)
      exact le_rfl

/-- The rates of a configuration are not negative. -/
theorem feeRate_nonneg (sim : Simulator σ) :
    0 ≤ sim.config.makerFeeRate ∧ 0 ≤ sim.config.takerFeeRate := by
  have h := sim.config.checked
  simp only [ExecutionModelFields.check, bind_unit_eq_ok, checkNotNegative, refuseIf_eq_ok,
    not_lt] at h
  exact ⟨h.2.2.2.2.2.2.2.2.2.2.1, h.2.2.2.2.2.2.2.2.2.2.2.1⟩

theorem executionPrice_eq_ok {request : PlaceOrderRequest} {price : ℚ × ℚ × ClientOrderRole}
    (h : s.executionPrice sim request = .ok price) : HasRole request.orderLinkId price.2.2 := by
  simp only [executionPrice, bind_eq_ok] at h
  obtain ⟨id, hid, h⟩ := h
  obtain rfl := Except.ok.inj h
  exact ⟨id, hid, rfl⟩

/-- The fee of a fill at a positive price. -/
theorem fee_nonneg {order : SimulatedOrder} {fillPrice fillQuantity : ℚ}
    (h : (s.fillFields sim order fillPrice fillQuantity).check = .ok ()) :
    0 ≤ (s.fillFields sim order fillPrice fillQuantity).fee := by
  have hprice := (ExecutionUpdate.mk _ h).price_pos
  have hquantity := (ExecutionUpdate.mk _ h).quantity_pos
  obtain ⟨hmaker, htaker⟩ := feeRate_nonneg sim
  refine mul_nonneg (mul_nonneg hprice.le hquantity.le) ?_
  split <;> assumption

theorem moves_executeFill {order : SimulatedOrder} {fillQuantity : ℚ}
    (hrow : order ∈ s.orders.rows) (hactive : order.status.isActive = true)
    (hwithin : fillQuantity ≤ s.remainingQuantity order) :
    MovesAlong sim conditions (fun _ _ => True) (executeFill sim order fillQuantity)
      s := by
  refine .get (.lift fun price hprice => ?_)
  have hrole := executionPrice_eq_ok hprice
  obtain ⟨firstAvailable, fillPrice, role⟩ := price
  have hsequence : Quiet s { s with executionSequence := s.executionSequence + 1 } :=
    ⟨rfl, rfl, rfl, rfl, rfl, rfl, Nat.le_succ _, le_rfl⟩
  dsimp only
  cases hexecution : build ExecutionFields.check ExecutionUpdate.mk
      ({ s with executionSequence := s.executionSequence + 1 }.fillFields sim order fillPrice
        fillQuantity) with
  | error failure => exact .set (steps_quiet hsequence) (.throw failure)
  | ok execution =>
    -- The sequence number and the fill are one move.
    obtain ⟨hchecked, rfl⟩ := build_eq_ok.mp hexecution
    obtain ⟨hquantity, hreduceOnly⟩ := le_of_le_remainingQuantity hwithin
    exact ⟨.single (.fill s _ firstAvailable _
      { row := hrow
        active := hactive
        orderLinkId := rfl
        side := rfl
        hasRole := hrole
        within := hquantity
        reduceOnly := hreduceOnly
        fee := fee_nonneg hchecked
        executionId := rfl }), fun _ _ => trivial⟩

/-- The planned partial fill changes nothing about the order but that it is done. -/
theorem startPartial_steps {order : SimulatedOrder} (hrow : order ∈ s.orders.rows)
    (isPartial : Bool) :
    Relation.ReflTransGen (Move sim conditions) s (s.startPartial order isPartial).2 ∧
      (s.startPartial order isPartial).1 ∈ (s.startPartial order isPartial).2.orders.rows ∧
      (s.startPartial order isPartial).1.status = order.status ∧
      (s.startPartial order isPartial).2.remainingQuantity (s.startPartial order isPartial).1 =
        s.remainingQuantity order := by
  cases isPartial with
  | false => exact ⟨.refl, hrow, rfl, rfl⟩
  | true =>
    refine ⟨?_, KeyedTable.mem_upsert.mpr (.inl rfl), rfl, rfl⟩
    have hchange : Move sim conditions s (s.putOrder { order with partialDone := true }) :=
      .change s hrow .planned
    exact .tail (.single hchange)
      (.quiet ⟨rfl, rfl, rfl, rfl, rfl, rfl, le_rfl, le_rfl⟩)

theorem moves_fillOrder {order : SimulatedOrder} (hrow : order ∈ s.orders.rows)
    (hactive : order.status.isActive = true) :
    MovesAlong sim conditions (fun _ _ => True) (fillOrder sim order) s := by
  refine .get ?_
  cases hplan : s.planFill sim order with
  | none => exact .set_last (.single (.change s hrow (.cancelled hactive))) trivial
  | some plan =>
    obtain ⟨fillQuantity, isPartial⟩ := plan
    obtain ⟨hsteps, hrow', hstatus, hremaining⟩ :
        Relation.ReflTransGen (Move sim conditions) s _ ∧ _ :=
      startPartial_steps hrow isPartial
    refine .set hsteps (moves_executeFill hrow' ?_ ?_)
    · exact (congrArg SimulatedStatus.isActive hstatus).trans hactive
    · exact (planFill_le hplan).trans hremaining.ge

/-! ## Processing -/

theorem moves_processOrder (orderLinkId : String) :
    MovesAlong sim conditions (fun _ _ => True) (processOrder sim orderLinkId) s := by
  refine .get ?_
  cases hfind : s.orders.find orderLinkId with
  | none => exact .pure trivial
  | some order =>
    have hrow := (KeyedTable.find_eq_some.mp hfind).1
    dsimp only
    split
    · exact .pure trivial
    · rename_i hdue
      have hactive : order.status.isActive = true := by
        by_contra hnot
        exact hdue (.inl hnot)
      refine .lift fun isEligible _ => ?_
      split
      · exact moves_fillOrder hrow hactive
      · split
        · exact .set_last (.single (.change s hrow (.cancelled hactive))) trivial
        · exact .pure trivial

theorem moves_processEach (orderLinkIds : List String) :
    MovesAlong sim conditions (fun _ _ => True) (processEach sim orderLinkIds) s := by
  induction orderLinkIds generalizing s with
  | nil => exact .pure trivial
  | cons orderLinkId orderLinkIds ih =>
    exact (moves_processOrder orderLinkId).bind fun _ _ _ _ => ih

theorem moves_advanceTime (elapsedMs : ℤ) :
    MovesAlong sim conditions (fun _ _ => True) (advanceTime sim elapsedMs) s := by
  unfold advanceTime
  split
  · exact .throw _
  · rename_i hforward
    refine .get (.set (steps_quiet ?_) (.get (moves_processEach _)))
    exact ⟨rfl, rfl, rfl, rfl, rfl, rfl, le_rfl, le_add_of_nonneg_right (not_lt.mp hforward)⟩

/-! ## Operations -/

theorem moves_publishMarketEvents :
    MovesAlong sim conditions (fun _ _ => True) (publishMarketEvents sim) s := by
  refine .get ?_
  split
  · exact .pure trivial
  · refine .set (steps_quiet ⟨rfl, rfl, rfl, rfl, rfl, rfl, le_rfl, le_rfl⟩) ?_
    refine .lift fun events _ => ?_
    exact .set_last (steps_quiet ⟨rfl, rfl, rfl, rfl, rfl, rfl, le_rfl, le_rfl⟩) trivial

theorem moves_advanceMarket (price : ℚ) (elapsedMs : ℤ) :
    MovesAlong sim conditions (fun _ _ => True) (advanceMarket sim price elapsedMs) s := by
  unfold advanceMarket
  split
  · exact .throw _
  · refine .get (.set (steps_quiet ⟨rfl, rfl, rfl, rfl, rfl, rfl, le_rfl, le_rfl⟩) ?_)
    exact moves_publishMarketEvents.bind fun _ _ _ _ => moves_advanceTime elapsedMs

theorem moves_setPublicConnected (connected : Bool) :
    MovesAlong sim conditions (fun _ _ => True) (setPublicConnected connected) s := by
  refine .get ?_
  split
  · exact .pure trivial
  · exact .set_last (steps_quiet
      (.record ⟨rfl, rfl, rfl, rfl, rfl, rfl, le_rfl, le_rfl⟩ rfl)) trivial

theorem moves_drainExecutionEvents (hdraining : conditions.draining) :
    MovesAlong sim conditions (fun _ _ => True) (drainExecutionEvents sim) s := by
  refine .get ?_
  split
  · exact .pure trivial
  · refine .set (.single (.drain s hdraining)) ?_
    split
    · exact .pure trivial
    · refine (moves_draw _).bind fun drawn s' _ _ => ?_
      split
      · exact .get (.set (steps_quiet (quiet_record rfl)) (.pure trivial))
      · exact .pure trivial

theorem moves_placeOrder (request : PlaceOrderRequest) :
    MovesAlong sim conditions (fun _ _ => True) (placeOrder sim request) s := by
  refine (moves_checkpoint _).bind fun _ s₁ _ _ => ?_
  refine .get (.lift fun _ _ => .lift fun _ hnew => ?_)
  rw [refuseIf_eq_ok, Bool.not_eq_true, Option.isSome_eq_false_iff,
    Option.isNone_iff_eq_none] at hnew
  refine (moves_draw _).bind fun rejected s₂ _ hquiet₂ => ?_
  split
  · exact .get (.set (steps_quiet
      (.record ⟨rfl, rfl, rfl, rfl, rfl, rfl, le_rfl, le_rfl⟩ rfl)) (.throw _))
  refine .get (.set (steps_quiet ⟨rfl, rfl, rfl, rfl, rfl, rfl, le_rfl, le_rfl⟩) ?_)
  refine (moves_draw _).bind fun partialPlanned s₃ _ hquiet₃ => .get ?_
  have haccepted : Relation.ReflTransGen (Move sim conditions) s₃
      (s₃.accept (s₃.acceptedOrder sim request partialPlanned)) := by
    have hfresh : s₃.orders.find request.orderLinkId = none := by
      rw [hquiet₃.orders]
      exact (congrArg (fun orders => KeyedTable.find orders request.orderLinkId)
        hquiet₂.orders).trans hnew
    refine .head (.accept s₃ request partialPlanned hfresh) (steps_quiet ?_)
    exact (quiet_updateProtectionState _).record rfl
  refine .set haccepted ((moves_checkpoint _).bind fun _ s₄ _ _ => ?_)
  refine (moves_advanceTime _).bind fun _ s₅ _ _ => ?_
  refine (moves_draw _).bind fun uncertain s₆ _ _ => ?_
  split
  · exact .get (.set (steps_quiet (quiet_record rfl)) (.throw _))
  · refine .get ?_
    rw [← bind_pure (liftM (OrderRequestAck.create _ _ _ _))]
    exact .lift fun _ _ => .pure trivial

theorem requiredOrder_eq_ok {orderLinkId : String} {order : SimulatedOrder}
    (h : s.requiredOrder orderLinkId = .ok order) : s.orders.find orderLinkId = some order := by
  unfold requiredOrder at h
  split at h
  · exact absurd h (by simp)
  · rename_i found hfound
    rw [hfound, Except.ok.inj h]

theorem moves_amendOrder {request : AmendOrderRequest}
    (hamendable : ∀ order ∈ s.orders.find request.orderLinkId, order.status.isActive = true →
      ∀ amended, amendedRequest order request = .ok amended →
        conditions.amendable order amended) :
    MovesAlong sim conditions (fun _ _ => True) (amendOrder sim request) s := by
  refine .get (.lift fun order hrequired => .lift fun _ hactive => .lift fun amended hamended => ?_)
  rw [refuseIf_eq_ok, not_not] at hactive
  have hfind := requiredOrder_eq_ok hrequired
  have hchange : Change conditions.amendable s.nowMs order _ :=
    .amended request amended hactive hamended (hamendable order hfind hactive amended hamended)
  refine .set (.head (.change s (KeyedTable.find_eq_some.mp hfind).1 hchange)
    (steps_quiet (quiet_record rfl))) ?_
  rw [← bind_pure (liftM (OrderRequestAck.create _ _ _ _))]
  exact .lift fun _ _ => .pure trivial

theorem steps_cancelIfActive {order : SimulatedOrder} (hrow : order ∈ s.orders.rows) :
    Relation.ReflTransGen (Move sim conditions) s (s.cancelIfActive order) := by
  unfold cancelIfActive
  split
  · rename_i hactive
    exact .single (.change s hrow (.cancelled hactive))
  · exact .refl

theorem moves_cancelOrder {request : CancelOrderRequest} :
    MovesAlong sim conditions (fun _ _ => True) (cancelOrder sim request) s := by
  refine .get (.lift fun order hrequired => ?_)
  have hrow := (KeyedTable.find_eq_some.mp (requiredOrder_eq_ok hrequired)).1
  refine .set (.tail (steps_cancelIfActive hrow)
    (.quiet ((quiet_updateProtectionState _).record rfl))) ?_
  rw [← bind_pure (liftM (OrderRequestAck.create _ _ _ _))]
  exact .lift fun _ _ => .pure trivial

/-- The orders that are still to be looked at are as they were. -/
theorem steps_cancelEach (category : Category) (symbol : Option String)
    (orders : List SimulatedOrder) (hnodup : (orders.map SimulatedOrder.orderLinkId).Nodup)
    (hrows : ∀ order ∈ orders, order ∈ s.orders.rows) :
    Relation.ReflTransGen (Move sim conditions) s
      (cancelEach category symbol orders s) := by
  induction orders generalizing s with
  | nil => exact .refl
  | cons order orders ih =>
    obtain ⟨hrow, hrest⟩ := List.forall_mem_cons.mp hrows
    obtain ⟨hother, hnodup⟩ := List.nodup_cons.mp hnodup
    unfold cancelEach
    split
    · refine (steps_cancelIfActive hrow).trans (ih hnodup fun o ho => ?_)
      unfold cancelIfActive
      split
      · refine KeyedTable.mem_upsert.mpr (.inr ⟨hrest o ho, fun hkey => hother ?_⟩)
        rw [show order.orderLinkId = (order.cancelled s.nowMs).orderLinkId from rfl, ← hkey]
        exact List.mem_map_of_mem ho
      · exact hrest o ho
    · exact ih hnodup hrest

theorem moves_cancelAll (category : Category) (symbol : Option String) :
    MovesAlong sim conditions (fun _ _ => True) (cancelAll category symbol) s := by
  refine .get (.set_last (.tail ?_ (.quiet ((quiet_updateProtectionState _).record rfl))) trivial)
  exact steps_cancelEach category symbol s.orders.rows s.orders.nodup fun _ h => h

theorem moves_registerTriggerPrice (orderLinkId : String) (price : ℚ) :
    MovesAlong sim conditions (fun _ _ => True)
      (registerTriggerPrice orderLinkId price) s :=
  .get (.set_last (steps_quiet ⟨rfl, rfl, rfl, rfl, rfl, rfl, le_rfl, le_rfl⟩) trivial)

theorem moves_setPrivateConnected (connected : Bool) :
    MovesAlong sim conditions (fun _ _ => True) (setPrivateConnected connected) s :=
  .get (.set_last (steps_quiet (.record ⟨rfl, rfl, rfl, rfl, rfl, rfl, le_rfl, le_rfl⟩ rfl))
    trivial)

theorem moves_applyFunding (rate : ℚ) :
    MovesAlong sim conditions (fun _ _ => True) (applyFunding rate) s :=
  .get (.set (.single (.fund s rate)) (.pure trivial))

/-- What the conditions say about one operation. -/
def Meets (conditions : Conditions) (s : SimulatedExchange σ) : SimulatedOperation → Prop
  | .amendOrder request => ∀ order ∈ s.orders.find request.orderLinkId,
      order.status.isActive = true → ∀ amended, amendedRequest order request = .ok amended →
        conditions.amendable order amended
  | .drainExecutionEvents => conditions.draining
  | _ => True

/-- **Every operation goes along moves**, wherever it raises; and only a drain hands out
    executions. -/
theorem moves_perform {operation : SimulatedOperation} (h : Meets conditions s operation) :
    MovesAlong sim conditions
      (fun executions _ => operation ≠ .drainExecutionEvents → executions = [])
      (perform sim operation) s := by
  cases operation with
  | registerTriggerPrice orderLinkId price =>
    exact (moves_registerTriggerPrice orderLinkId price).bind fun _ _ _ _ => .pure fun _ => rfl
  | advanceTime elapsedMs =>
    exact (moves_advanceTime elapsedMs).bind fun _ _ _ _ => .pure fun _ => rfl
  | advanceMarket price elapsedMs =>
    exact (moves_advanceMarket price elapsedMs).bind fun _ _ _ _ => .pure fun _ => rfl
  | setPrivateConnected connected =>
    exact (moves_setPrivateConnected connected).bind fun _ _ _ _ => .pure fun _ => rfl
  | setPublicConnected connected =>
    exact (moves_setPublicConnected connected).bind fun _ _ _ _ => .pure fun _ => rfl
  | drainExecutionEvents =>
    exact (moves_drainExecutionEvents h).imp fun _ _ _ hnot => absurd rfl hnot
  | applyFunding rate => exact (moves_applyFunding rate).bind fun _ _ _ _ => .pure fun _ => rfl
  | placeOrder request => exact (moves_placeOrder request).bind fun _ _ _ _ => .pure fun _ => rfl
  | amendOrder request => exact (moves_amendOrder h).bind fun _ _ _ _ => .pure fun _ => rfl
  | cancelOrder request => exact moves_cancelOrder.bind fun _ _ _ _ => .pure fun _ => rfl
  | cancelAll category symbol =>
    exact (moves_cancelAll category symbol).bind fun _ _ _ _ => .pure fun _ => rfl

/-- Every operation of the run meets the conditions where it is performed. -/
def MeetsAlong (sim : Simulator σ) (conditions : Conditions) :
    SimulatedExchange σ → List SimulatedOperation → Prop
  | _, [] => True
  | s, operation :: operations =>
    Meets conditions s operation ∧ MeetsAlong sim conditions (s.after sim operation) operations

/-- **What every move keeps holds throughout every run.** -/
theorem kept_afterAll {I : SimulatedExchange σ → Prop}
    (hmove : ∀ s s', Move sim conditions s s' → I s → I s')
    {operations : List SimulatedOperation} (h : I s)
    (hmeets : MeetsAlong sim conditions s operations) : I (s.afterAll sim operations) := by
  induction operations generalizing s with
  | nil => exact h
  | cons operation operations ih =>
    exact ih ((moves_perform hmeets.1).preserves hmove h) hmeets.2

theorem meetsAlong_append {operations operations' : List SimulatedOperation}
    (h : MeetsAlong sim conditions s (operations ++ operations')) :
    MeetsAlong sim conditions s operations := by
  induction operations generalizing s with
  | nil => exact trivial
  | cons operation operations ih => exact ⟨h.1, ih h.2⟩

theorem meetsAlong_any (s : SimulatedExchange σ) (operations : List SimulatedOperation) :
    MeetsAlong sim {} s operations := by
  induction operations generalizing s with
  | nil => exact trivial
  | cons operation operations ih =>
    refine ⟨?_, ih _⟩
    cases operation <;> simp [Meets]

end SimulatedExchange

end CreditHedge
