import CreditHedge.Backtesting.SimulatedMoves
import Mathlib.Algebra.Order.BigOperators.Group.List
import Mathlib.Algebra.Order.Field.Rat
import Mathlib.Tactic.Linarith
import Mathlib.Tactic.NormNum

/-!
# The simulated orders

An order keeps what it has been filled by beside its request, and the queries build a checked report
of the two. The fills, the cancellations and the clock all keep a report possible. An amendment
replaces the request and looks at nothing else: it may ask for less than has been filled already,
and from then on the queries raise; or for exactly as much, and the order never becomes `Filled`.
These are the only ways (`orders_wellFormed_iff`).
-/

set_option autoImplicit false

namespace CreditHedge

namespace SimulatedExchange

variable {σ : Type}

/-! ## What is asked of the orders -/

def fillsOf (es : List ExecutionUpdate) (orderLinkId : String) : List ExecutionUpdate :=
  es.filter fun e => e.orderLinkId = orderLinkId

structure WellFormed (sim : Simulator σ) (s : SimulatedExchange σ) : Prop where
  filledQuantity : ∀ order ∈ s.orders.rows,
    order.filledQuantity = totalQuantity (fillsOf s.executions order.orderLinkId)
  within : ∀ order ∈ s.orders.rows, order.filledQuantity ≤ order.request.quantity
  filled : ∀ order ∈ s.orders.rows,
    order.status = .filled ↔ order.filledQuantity = order.request.quantity
  openOrders : ∀ category symbol, ∃ orders, s.getOpenOrders sim category symbol = .ok orders
  orderHistory : ∀ category symbol, ∃ orders, s.getOrderHistory sim category symbol = .ok orders
  orderByLinkId : ∀ category symbol orderLinkId,
    ∃ order, s.getOrderByLinkId sim category symbol orderLinkId = .ok order

/-- An amendment asks for more than has been filled. -/
def amendsAboveFill : Conditions where
  amendable order amended := order.filledQuantity < amended.quantity

/-! ## The invariant -/

/-- An order, the executions so far and the clock. -/
structure Tidy (es : List ExecutionUpdate) (nowMs : ℤ) (order : SimulatedOrder) : Prop where
  filledQuantity : order.filledQuantity = totalQuantity (fillsOf es order.orderLinkId)
  fillNotional : order.fillNotional = ((fillsOf es order.orderLinkId).map notionalOf).sum
  filled : order.status = .filled → order.filledQuantity = order.request.quantity
  unfilled : order.status ≠ .filled → order.filledQuantity < order.request.quantity
  orderId : ¬ isBlank order.orderId = true
  created : order.createdMs ≤ order.updatedMs
  updated : order.updatedMs ≤ nowMs

theorem Tidy.le {es : List ExecutionUpdate} {nowMs nowMs' : ℤ} {order : SimulatedOrder}
    (h : Tidy es nowMs order) (hle : nowMs ≤ nowMs') : Tidy es nowMs' order :=
  { h with updated := h.updated.trans hle }

theorem Tidy.within {es : List ExecutionUpdate} {nowMs : ℤ} {order : SimulatedOrder}
    (h : Tidy es nowMs order) : order.filledQuantity ≤ order.request.quantity := by
  by_cases hfilled : order.status = .filled
  · exact (h.filled hfilled).le
  · exact (h.unfilled hfilled).le

structure Orderly (s : SimulatedExchange σ) : Prop where
  tidy : ∀ order ∈ s.orders.rows, Tidy s.executions s.nowMs order
  known : ∀ e ∈ s.executions, ∃ order ∈ s.orders.rows, order.orderLinkId = e.orderLinkId

/-! ## A tidy order can be reported -/

theorem notional_pos {es : List ExecutionUpdate} (h : 0 < totalQuantity es) :
    0 < (es.map notionalOf).sum := by
  refine List.sum_pos _ (fun x hx => ?_) ?_
  · obtain ⟨e, -, rfl⟩ := List.mem_map.mp hx
    exact mul_pos e.price_pos e.quantity_pos
  · rintro hnil
    rw [List.map_eq_nil_iff.mp hnil] at h
    exact absurd h (by simp [totalQuantity])

/-- The checks of a request that its report makes again. -/
theorem request_checks (request : PlaceOrderRequest) :
    requireText request.symbol "symbol" = .ok () ∧ 0 < request.quantity ∧
      (¬ ∃ p ∈ request.price, p ≤ 0) ∧ request.checkTrigger = .ok () ∧
      ¬ (request.positionIdx ≠ 0 ∧ request.positionIdx ≠ 1 ∧ request.positionIdx ≠ 2) := by
  have h := request.checked
  simp only [PlaceOrderFields.check, bind_unit_eq_ok, refuseIf_eq_ok, not_le] at h
  obtain ⟨hsymbol, -, hquantity, -, -, hprice, htrigger, -, hindex⟩ := h
  refine ⟨hsymbol, hquantity, ?_, htrigger, hindex⟩
  push Not
  simpa using hprice

theorem status_text (status : SimulatedStatus) :
    requireText status.text "order status" = .ok () := by
  cases status <;> decide

/-- What a request says about its trigger, its report may say too. -/
theorem reportTrigger_ok {request : PlaceOrderFields} {report : ExchangeOrder}
    (h : request.checkTrigger = .ok ()) (hprice : report.triggerPrice = request.triggerPrice)
    (hby : report.triggerBy = request.triggerBy)
    (hdirection : report.triggerDirection = request.triggerDirection) :
    report.checkTrigger = .ok () := by
  unfold PlaceOrderFields.checkTrigger at h
  unfold ExchangeOrder.checkTrigger
  rw [hprice, hby, hdirection]
  cases htrigger : request.triggerPrice with
  | none =>
    simp only [htrigger, refuseIf_eq_ok] at h ⊢
    exact fun hset => h hset.symm
  | some triggerPrice =>
    simp only [htrigger, bind_unit_eq_ok, refuseIf_eq_ok] at h ⊢
    exact ⟨h.1, h.2.2, h.2.1⟩

theorem averagePrice_pos {es : List ExecutionUpdate} {nowMs : ℤ} {order : SimulatedOrder}
    (h : Tidy es nowMs order) (hfilled : order.filledQuantity ≠ 0) :
    0 < order.fillNotional / order.filledQuantity := by
  have hpositive : 0 < order.filledQuantity := by
    refine lt_of_le_of_ne ?_ hfilled.symm
    rw [h.filledQuantity]
    exact totalQuantity_nonneg _
  refine div_pos ?_ hpositive
  rw [h.fillNotional]
  rw [h.filledQuantity] at hpositive
  exact notional_pos hpositive

theorem exchangeOrder_ok (sim : Simulator σ) {es : List ExecutionUpdate} {nowMs : ℤ}
    {order : SimulatedOrder} (h : Tidy es nowMs order) :
    ∃ report, exchangeOrder sim order = .ok report := by
  obtain ⟨hsymbol, hquantity, hprice, htrigger, hindex⟩ := request_checks order.request
  have hnumbers : checkOrderNumbers order.request.price order.request.quantity order.filledQuantity
      (if order.filledQuantity = 0 then none else
        some (order.fillNotional / order.filledQuantity)) = .ok () := by
    simp only [checkOrderNumbers, bind_unit_eq_ok, refuseIf_eq_ok, not_not, not_le]
    refine ⟨hprice, hquantity, ⟨?_, h.within⟩, ?_⟩
    · rw [h.filledQuantity]
      exact totalQuantity_nonneg _
    · rintro ⟨average, haverage, hnot⟩
      split at haverage
      · exact absurd haverage (by simp)
      · rename_i hfilled
        obtain rfl := Option.some.inj haverage
        exact absurd (averagePrice_pos h hfilled) (not_lt.mpr hnot)
  unfold exchangeOrder ExchangeOrder.create
  refine ⟨_, bind_unit_eq_ok.mpr ⟨?_, rfl⟩⟩
  simp only [ExchangeOrder.check, bind_unit_eq_ok]
  refine ⟨?_, hsymbol, status_text _, ?_, hnumbers, ?_, ?_, ?_⟩
  · simpa [requireText] using h.orderId
  · exact requireExchangeOrderLinkId_of_isOwn order.request.isOwn
  · exact reportTrigger_ok htrigger rfl rfl rfl
  · simpa [refuseIf_eq_ok] using hindex
  · rw [refuseIf_eq_ok, not_lt]
    have hcreated := h.created
    change sim.startTime + 1000 * order.createdMs ≤ sim.startTime + 1000 * order.updatedMs
    linarith

theorem Orderly.wellFormed {s : SimulatedExchange σ} (sim : Simulator σ) (h : Orderly s) :
    WellFormed sim s := by
  have hreport : ∀ order ∈ s.orders.rows, ∃ report, exchangeOrder sim order = .ok report :=
    fun order hrow => exchangeOrder_ok sim (h.tidy order hrow)
  refine ⟨?_, ?_, ?_, ?_, ?_, ?_⟩
  · exact fun order hrow => (h.tidy order hrow).filledQuantity
  · exact fun order hrow => (h.tidy order hrow).within
  · intro order hrow
    refine ⟨(h.tidy order hrow).filled, fun hfull => ?_⟩
    by_contra hnot
    exact ((h.tidy order hrow).unfilled hnot).ne hfull
  · exact fun _ _ => exists_mapM_ok fun order ho => hreport order (List.mem_filter.mp ho).1
  · exact fun _ _ => exists_mapM_ok fun order ho => hreport order (List.mem_filter.mp ho).1
  · intro category symbol orderLinkId
    unfold getOrderByLinkId
    cases hfind : s.orders.find orderLinkId with
    | none => exact ⟨none, rfl⟩
    | some order =>
      obtain ⟨report, hmade⟩ := hreport order (KeyedTable.find_eq_some.mp hfind).1
      dsimp only
      split
      · exact ⟨none, rfl⟩
      · exact ⟨some report, by rw [hmade]; rfl⟩

/-! ## Moves -/

variable {sim : Simulator σ} {conditions : Conditions} {s s' : SimulatedExchange σ}

theorem orderly_create {initialPrice walletBalance : ℚ} {seed : σ}
    {faultInjector : Option FaultInjector}
    (h : create sim initialPrice seed walletBalance faultInjector = .ok s) : Orderly s := by
  simp only [create, bind_unit_eq_ok] at h
  obtain ⟨-, -, h⟩ := h
  obtain rfl := Except.ok.inj h
  exact ⟨fun _ hrow => absurd hrow List.not_mem_nil, fun _ he => absurd he List.not_mem_nil⟩

/-- Nothing happens to the orders. -/
theorem Orderly.congr (h : Orderly s) (horders : s'.orders = s.orders)
    (hexecutions : s'.executions = s.executions) (hnow : s.nowMs ≤ s'.nowMs) : Orderly s' := by
  refine ⟨?_, ?_⟩ <;> rw [horders, hexecutions]
  · exact fun order hrow => (h.tidy order hrow).le hnow
  · exact h.known

/-- One order is written, the others are as they were. -/
theorem Orderly.putOrder (h : Orderly s) {order : SimulatedOrder}
    (horder : Tidy s.executions s.nowMs order) : Orderly (s.putOrder order) := by
  refine ⟨fun o ho => ?_, fun e he => ?_⟩
  · rcases KeyedTable.mem_upsert.mp ho with rfl | ⟨ho, -⟩
    · exact horder
    · exact h.tidy o ho
  · obtain ⟨o, ho, hid⟩ := h.known e he
    by_cases hkey : o.orderLinkId = order.orderLinkId
    · exact ⟨order, KeyedTable.mem_upsert.mpr (.inl rfl), hkey.symm.trans hid⟩
    · exact ⟨o, KeyedTable.mem_upsert.mpr (.inr ⟨ho, hkey⟩), hid⟩

/-- A new order has no executions. -/
theorem tidy_acceptedOrder (h : Orderly s) {request : PlaceOrderRequest} (partialPlanned : Bool)
    (hnew : s.orders.find request.orderLinkId = none) :
    Tidy s.executions s.nowMs (s.acceptedOrder sim request partialPlanned) := by
  have hnone : fillsOf s.executions request.orderLinkId = [] := by
    refine List.filter_eq_nil_iff.mpr fun e he hid => ?_
    obtain ⟨o, ho, hkey⟩ := h.known e he
    exact KeyedTable.find_eq_none.mp hnew o ho (hkey.trans (of_decide_eq_true hid))
  have hfills : fillsOf s.executions (s.acceptedOrder sim request partialPlanned).orderLinkId = [] :=
    hnone
  refine ⟨?_, ?_, ?_, ?_, ?_, le_rfl, le_rfl⟩
  · rw [hfills]
    rfl
  · rw [hfills]
    rfl
  · intro hstatus
    change (if request.triggerPrice ≠ none then SimulatedStatus.untriggered else .new) = _
      at hstatus
    split at hstatus <;> exact absurd hstatus (by simp)
  · exact fun _ => request.quantity_pos
  · intro hblank
    have hletter := List.all_eq_true.mp hblank 'S' (by simp [acceptedOrder])
    exact absurd hletter (by decide)

theorem ne_filled_of_isActive {status : SimulatedStatus} (h : status.isActive = true) :
    status ≠ .filled := by
  rintro rfl
  exact absurd h (by decide)

theorem tidy_change {order order' : SimulatedOrder} (h : Tidy s.executions s.nowMs order)
    (hchange : Change amendsAboveFill.amendable s.nowMs order order') :
    Tidy s.executions s.nowMs order' := by
  cases hchange with
  | cancelled hactive =>
    have hunfilled := h.unfilled (ne_filled_of_isActive hactive)
    refine ⟨h.filledQuantity, h.fillNotional, fun hfilled => ?_, fun _ => hunfilled, h.orderId,
      h.created.trans h.updated, le_rfl⟩
    exact absurd hfilled (by simp [SimulatedOrder.cancelled])
  | planned =>
    exact ⟨h.filledQuantity, h.fillNotional, h.filled, h.unfilled, h.orderId, h.created, h.updated⟩
  | amended request amended hactive hamended habove =>
    have hid : amended.orderLinkId = order.request.orderLinkId := by
      rw [amendedRequest_eq_ok hamended]
    refine ⟨?_, ?_, fun hfilled => ?_, fun _ => habove, h.orderId, h.created.trans h.updated,
      le_rfl⟩
    · exact h.filledQuantity.trans (by rw [SimulatedOrder.orderLinkId, ← hid]; rfl)
    · exact h.fillNotional.trans (by rw [SimulatedOrder.orderLinkId, ← hid]; rfl)
    · exact absurd hfilled (ne_filled_of_isActive hactive)

theorem fillsOf_append (es : List ExecutionUpdate) (e : ExecutionUpdate) (orderLinkId : String) :
    fillsOf (es ++ [e]) orderLinkId =
      fillsOf es orderLinkId ++ if e.orderLinkId = orderLinkId then [e] else [] := by
  unfold fillsOf
  rw [List.filter_append]
  by_cases h : e.orderLinkId = orderLinkId <;> simp [h]

/-- The order that is filled. -/
theorem tidy_filledBy {order : SimulatedOrder} {e : ExecutionUpdate} {role : ClientOrderRole}
    (h : Tidy s.executions s.nowMs order) (hfill : IsFillOf s order e role) :
    Tidy (s.executions ++ [e]) s.nowMs (order.filledBy e s.nowMs) := by
  have hfills : fillsOf (s.executions ++ [e]) (order.filledBy e s.nowMs).orderLinkId =
      fillsOf s.executions order.orderLinkId ++ [e] := by
    rw [fillsOf_append]
    exact congrArg _ (if_pos hfill.orderLinkId)
  have hwithin := hfill.within
  refine ⟨?_, ?_, ?_, ?_, h.orderId, h.created.trans h.updated, le_rfl⟩
  · rw [hfills, totalQuantity_append, ← h.filledQuantity]
    simp [SimulatedOrder.filledBy, totalQuantity]
  · rw [hfills, List.map_append, List.sum_append, ← h.fillNotional]
    simp [SimulatedOrder.filledBy, notionalOf]
  · intro hfilled
    by_contra hnot
    have hstatus : (order.filledBy e s.nowMs).status = .partiallyFilled := if_neg hnot
    exact absurd (hstatus.symm.trans hfilled) (by simp)
  · intro hunfilled
    refine lt_of_le_of_ne ?_ fun hfull => hunfilled (if_pos hfull)
    change order.filledQuantity + e.quantity ≤ order.request.quantity
    linarith

/-- An order that is not filled. -/
theorem Tidy.other {es : List ExecutionUpdate} {nowMs : ℤ} {order : SimulatedOrder}
    {e : ExecutionUpdate} (h : Tidy es nowMs order) (hother : e.orderLinkId ≠ order.orderLinkId) :
    Tidy (es ++ [e]) nowMs order := by
  have hfills : fillsOf (es ++ [e]) order.orderLinkId = fillsOf es order.orderLinkId := by
    rw [fillsOf_append, if_neg hother, List.append_nil]
  refine ⟨?_, ?_, h.filled, h.unfilled, h.orderId, h.created, h.updated⟩ <;> rw [hfills]
  · exact h.filledQuantity
  · exact h.fillNotional

theorem orderly_fill {order : SimulatedOrder} {e : ExecutionUpdate} {role : ClientOrderRole}
    {duplicated : Bool} (h : Orderly s) (hfill : IsFillOf s order e role)
    (hresult : FillResult s s' order e role duplicated) : Orderly s' := by
  refine ⟨?_, ?_⟩ <;> rw [hresult.orders, hresult.executions]
  · rw [hresult.nowMs]
    intro o ho
    rcases KeyedTable.mem_upsert.mp ho with rfl | ⟨ho, hkey⟩
    · exact tidy_filledBy (h.tidy order hfill.row) hfill
    · refine (h.tidy o ho).other fun hid => hkey ?_
      exact hid.symm.trans hfill.orderLinkId
  · intro e' he'
    rcases List.mem_append.mp he' with he' | he'
    · obtain ⟨o, ho, hid⟩ := h.known e' he'
      by_cases hkey : o.orderLinkId = (order.filledBy e s.nowMs).orderLinkId
      · exact ⟨_, KeyedTable.mem_upsert.mpr (.inl rfl), hkey.symm.trans hid⟩
      · exact ⟨o, KeyedTable.mem_upsert.mpr (.inr ⟨ho, hkey⟩), hid⟩
    · obtain rfl := List.mem_singleton.mp he'
      exact ⟨_, KeyedTable.mem_upsert.mpr (.inl rfl), hfill.orderLinkId.symm⟩

theorem orderly_move (hmove : Move sim amendsAboveFill s s') (h : Orderly s) : Orderly s' := by
  cases hmove with
  | quiet hquiet => exact h.congr hquiet.orders hquiet.executions hquiet.nowMs
  | accept request partialPlanned hnew => exact h.putOrder (tidy_acceptedOrder h partialPlanned hnew)
  | change hrow hchange => exact h.putOrder (tidy_change (h.tidy _ hrow) hchange)
  | drain _ => exact h.congr rfl rfl le_rfl
  | fund rate => exact ⟨h.tidy, h.known⟩
  | @fill order execution role rng firstAvailable duplicated hfill =>
    exact orderly_fill h hfill (fillResult s rng order execution firstAvailable role duplicated)

/-! ## Amendments that go wrong -/

/-- An active order has been amended, whatever the acknowledgement does. -/
theorem amended_mem (sim : Simulator σ) {request : AmendOrderRequest} {order : SimulatedOrder}
    {amended : PlaceOrderRequest} (hfind : s.orders.find request.orderLinkId = some order)
    (hactive : order.status.isActive = true) (hamended : amendedRequest order request = .ok amended) :
    { order with
      request := amended
      updatedMs := s.nowMs } ∈ (s.after sim (.amendOrder request)).orders.rows := by
  have hrequired : s.requiredOrder request.orderLinkId = .ok order := by
    unfold requiredOrder
    rw [hfind]
  have hallowed : refuseIf (¬ order.status.isActive)
      "only active simulated orders can be amended" = .ok () := by
    rw [refuseIf_eq_ok, not_not]
    exact hactive
  unfold after perform amendOrder
  simp only [Stateful.run_bind, Stateful.run_get, Stateful.run_lift, hrequired, hallowed, hamended,
    Stateful.run_set]
  -- Whether or not the acknowledgement can be made, the order has been written.
  cases OrderRequestAck.create .amend order.orderId request.orderLinkId (timestamp sim s.nowMs) <;>
    exact KeyedTable.mem_upsert.mpr (.inl rfl)

theorem meets_of_wellFormed {operation : SimulatedOperation}
    (h : WellFormed sim (s.after sim operation)) : Meets amendsAboveFill s operation := by
  cases operation with
  | amendOrder request =>
    intro order hfind hactive amended hamended
    have hmem := amended_mem sim hfind hactive hamended
    refine lt_of_le_of_ne (h.within _ hmem) fun hfull => ?_
    exact ne_filled_of_isActive hactive ((h.filled _ hmem).mpr hfull)
  | drainExecutionEvents => exact trivial
  | _ => exact trivial

theorem meetsAlong_of_wellFormed {operations : List SimulatedOperation}
    (h : ∀ reached, reached <+: operations → WellFormed sim (s.afterAll sim reached)) :
    MeetsAlong sim amendsAboveFill s operations := by
  induction operations generalizing s with
  | nil => exact trivial
  | cons operation operations ih =>
    refine ⟨meets_of_wellFormed (h [operation] ⟨operations, rfl⟩), ih fun reached hreached => ?_⟩
    exact h (operation :: reached) (List.cons_prefix_cons.mpr ⟨rfl, hreached⟩)

/-- **The orders are well formed in every state of a run exactly when every active order that is
    amended is amended to more than it has been filled by.** -/
theorem orders_wellFormed_iff (sim : Simulator σ) {initialPrice walletBalance : ℚ} {seed : σ}
    {faultInjector : Option FaultInjector}
    (hcreate : create sim initialPrice seed walletBalance faultInjector = .ok s)
    (operations : List SimulatedOperation) :
    (∀ reached, reached <+: operations → WellFormed sim (s.afterAll sim reached)) ↔
      MeetsAlong sim amendsAboveFill s operations := by
  refine ⟨meetsAlong_of_wellFormed, fun hmeets reached hreached => ?_⟩
  obtain ⟨rest, rfl⟩ := hreached
  have horderly : Orderly (s.afterAll sim reached) :=
    kept_afterAll (fun _ _ => orderly_move) (orderly_create hcreate) (meetsAlong_append hmeets)
  exact horderly.wellFormed sim

/-! ## One exchange -/

/-- An exchange that fills the first half of an order at once. -/
def halvingExchange : Simulator Unit where
  instrument := ethPerp
  config :=
    { promptExchange.config with
      partialFillProbability := 1
      checked := by decide +kernel }
  startTime := 0
  draw := fun probability _ => (probability = 1, ())
  marketHash := fun _ _ _ => "0"

def amendment (quantity : ℚ) : AmendOrderFields where
  category := .linear
  symbol := "ETHUSDT"
  orderLinkId := "ECH-A-C0001-L01-ENTRY-A01-0000"
  quantity := some quantity

/-- A sale of one unit, and an amendment of its quantity. -/
def amendedSale (quantity : ℚ) (h : (amendment quantity).check = .ok ()) :
    List SimulatedOperation :=
  [.placeOrder ⟨unitOrder .sell "ECH-A-C0001-L01-ENTRY-A01-0000", check_unitSale⟩,
    .amendOrder ⟨amendment quantity, h⟩]

/-- Half of the order has been filled, so it may be amended to three quarters. -/
theorem orders_wellFormed_iff_threeQuarters :
    create halvingExchange 2000 () 100000 none = .ok openedExchange ∧
      ∀ reached, reached <+: amendedSale (3 / 4) (by decide +kernel) →
        WellFormed halvingExchange (openedExchange.afterAll halvingExchange reached) := by
  have hcreate : create halvingExchange 2000 () 100000 none = .ok openedExchange := rfl
  refine ⟨hcreate, (orders_wellFormed_iff halvingExchange hcreate _).mpr ⟨trivial, ?_, trivial⟩⟩
  intro order hfind _ amended hamended
  have hhalf : ((openedExchange.after halvingExchange (.placeOrder
      ⟨unitOrder .sell "ECH-A-C0001-L01-ENTRY-A01-0000", check_unitSale⟩)).orders.find
        "ECH-A-C0001-L01-ENTRY-A01-0000").map (fun order => order.filledQuantity) =
          some (1 / 2) := by
    decide +kernel
  have hfound := congrArg (Option.map fun order : SimulatedOrder => order.filledQuantity) hfind
  have hfilled : order.filledQuantity = 1 / 2 := Option.some.inj (hfound.symm.trans hhalf)
  have hquantity : amended.quantity = 3 / 4 := by
    rw [amendedRequest_eq_ok hamended]
    rfl
  change order.filledQuantity < amended.quantity
  rw [hfilled, hquantity]
  norm_num

/-- After an amendment to one quarter the open orders cannot be reported. -/
theorem amended_below_fill :
    create halvingExchange 2000 () 100000 none = .ok openedExchange ∧
      (openedExchange.afterAll halvingExchange
        (amendedSale (1 / 4) (by decide +kernel))).getOpenOrders halvingExchange .linear none =
          .error (.valueError "cumulative filled quantity must be within order quantity") ∧
      ¬ WellFormed halvingExchange (openedExchange.afterAll halvingExchange
        (amendedSale (1 / 4) (by decide +kernel))) := by
  have hraises : (openedExchange.afterAll halvingExchange
      (amendedSale (1 / 4) (by decide +kernel))).getOpenOrders halvingExchange .linear none =
        .error (.valueError "cumulative filled quantity must be within order quantity") := by
    decide +kernel
  refine ⟨rfl, hraises, fun h => ?_⟩
  obtain ⟨orders, horders⟩ := h.openOrders .linear none
  exact absurd (hraises.symm.trans horders) (by simp)

end SimulatedExchange

end CreditHedge
