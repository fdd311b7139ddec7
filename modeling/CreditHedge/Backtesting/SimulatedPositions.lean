import CreditHedge.Backtesting.SimulatedMoves
import CreditHedge.Lib.AverageCost
import Mathlib.Algebra.BigOperators.Group.List.Basic
import Mathlib.Algebra.Order.Field.Rat
import Mathlib.Tactic.Linarith
import Mathlib.Tactic.Ring

/-!
# The simulated position

The position, its average price and its profit are updated at every fill and never recomputed; the
history of the executions is kept beside them. As long as every Buy is reduce-only the two always
agree: a Buy never takes more than is there, also when several orders are filled in one pass, since
each of them is measured when its turn comes.

The delivery queue is a second copy of the history, with duplicates, that a drain hands out in
either order. Nothing is lost in between.
-/

set_option autoImplicit false

namespace CreditHedge

namespace SimulatedExchange

/-! ## Sums over the history -/

/-- The sum over the executions on one side. -/
def sideTotal (side : OrderSide) (f : ExecutionUpdate → ℚ) (es : List ExecutionUpdate) : ℚ :=
  ((es.filter fun e => e.side = side).map f).sum

theorem sideTotal_append (side : OrderSide) (f : ExecutionUpdate → ℚ) (es : List ExecutionUpdate)
    (e : ExecutionUpdate) :
    sideTotal side f (es ++ [e]) = sideTotal side f es + if e.side = side then f e else 0 := by
  unfold sideTotal
  rw [List.filter_append, List.map_append, List.sum_append]
  by_cases h : e.side = side <;> simp [h]

/-! ## The numbers of the executions -/

/-- `f"SIM-EXEC-{n:06d}"`. -/
def executionIdOf (n : ℕ) : String := String.ofList ("SIM-EXEC-".toList ++ zeroPadded 6 n)

theorem executionIdOf_injective {n m : ℕ} (h : executionIdOf n = executionIdOf m) : n = m := by
  have hdigits := List.append_cancel_left (String.ofList_injective h)
  rw [← ofDigitChars_zeroPadded 6 n, hdigits, ofDigitChars_zeroPadded]

/-! ## The book -/

/-- The accounts as an average-cost book. -/
def bookOf (a : HedgeAccounts) : AverageCost ℚ where
  quantity := a.positionQuantity
  average := a.positionAveragePrice
  realized := a.realizedPnl

theorem bookOf_sell (a : HedgeAccounts) {e : ExecutionUpdate} (role : ClientOrderRole)
    (h : e.side = .sell) :
    bookOf (applyPosition a e role) = (bookOf a).sell e.price e.quantity := by
  unfold applyPosition
  rw [h]
  rfl

theorem bookOf_buy (a : HedgeAccounts) {e : ExecutionUpdate} (role : ClientOrderRole)
    (h : e.side = .buy) (hwithin : e.quantity ≤ a.positionQuantity) :
    bookOf (applyPosition a e role) = (bookOf a).buyBack e.price e.quantity := by
  unfold applyPosition
  rw [h]
  dsimp only
  rw [min_eq_left hwithin]
  rfl

/-- Every fee is an entry fee or an exit fee. -/
theorem fees_applyPosition (a : HedgeAccounts) (e : ExecutionUpdate) (role : ClientOrderRole) :
    (applyPosition a e role).entryFees + (applyPosition a e role).exitFees =
      a.entryFees + a.exitFees + e.fee := by
  unfold applyPosition
  cases e.side <;> dsimp only <;> ring

/-- The book is what the history makes it. -/
structure Booked (b : AverageCost ℚ) (es : List ExecutionUpdate) : Prop where
  quantity : b.quantity =
    sideTotal .sell (fun e => e.quantity) es - sideTotal .buy (fun e => e.quantity) es
  nonneg : 0 ≤ b.quantity
  cash : b.cash = sideTotal .sell notionalOf es - sideTotal .buy notionalOf es

theorem Booked.sell {b : AverageCost ℚ} {es : List ExecutionUpdate} {e : ExecutionUpdate}
    (h : Booked b es) (hside : e.side = .sell) :
    Booked (b.sell e.price e.quantity) (es ++ [e]) := by
  have hpositive : 0 < b.quantity + e.quantity := add_pos_of_nonneg_of_pos h.nonneg e.quantity_pos
  refine ⟨?_, hpositive.le, ?_⟩
  · have hquantity := h.quantity
    rw [sideTotal_append, sideTotal_append, if_pos hside, if_neg (by simp [hside])]
    change b.quantity + e.quantity = _
    linarith
  · have hcash := h.cash
    rw [b.cash_sell hpositive.ne', sideTotal_append, sideTotal_append, if_pos hside,
      if_neg (by simp [hside]), hcash]
    unfold notionalOf
    ring

theorem Booked.buyBack {b : AverageCost ℚ} {es : List ExecutionUpdate} {e : ExecutionUpdate}
    (h : Booked b es) (hside : e.side = .buy) (hwithin : e.quantity ≤ b.quantity) :
    Booked (b.buyBack e.price e.quantity) (es ++ [e]) := by
  refine ⟨?_, sub_nonneg.mpr hwithin, ?_⟩
  · have hquantity := h.quantity
    rw [sideTotal_append, sideTotal_append, if_neg (by simp [hside]), if_pos hside]
    change b.quantity - e.quantity = _
    linarith
  · have hcash := h.cash
    rw [b.cash_buyBack, sideTotal_append, sideTotal_append, if_neg (by simp [hside]), if_pos hside,
      hcash]
    unfold notionalOf
    ring

/-! ## The invariant -/

variable {σ : Type}

/-- Every Buy order of the exchange is reduce-only. No order is ever forgotten, so this is about
    the whole run so far. -/
def BuysReduceOnly (s : SimulatedExchange σ) : Prop :=
  ∀ order ∈ s.orders.rows, order.request.side = .buy → order.request.reduceOnly = true

structure Balanced (walletBalance : ℚ) (s : SimulatedExchange σ) : Prop where
  booked : Booked (bookOf s.accounts) s.executions
  walletBalance : s.walletBalance = walletBalance
  fees : s.accounts.entryFees + s.accounts.exitFees = (s.executions.map fun e => e.fee).sum
  numbered : ∀ e ∈ s.executions, ∃ n ≤ s.executionSequence, e.executionId = executionIdOf n
  nodup : (s.executions.map fun e => e.executionId).Nodup

variable {sim : Simulator σ} {conditions : Conditions} {s s' : SimulatedExchange σ}

theorem balanced_create {initialPrice walletBalance : ℚ} {seed : σ}
    {faultInjector : Option FaultInjector}
    (h : create sim initialPrice seed walletBalance faultInjector = .ok s) :
    Balanced walletBalance s := by
  simp only [create, bind_unit_eq_ok] at h
  obtain ⟨-, -, h⟩ := h
  obtain rfl := Except.ok.inj h
  refine ⟨⟨?_, le_rfl, ?_⟩, rfl, ?_, ?_, List.nodup_nil⟩
  · simp [bookOf, sideTotal]
  · simp [bookOf, AverageCost.cash, sideTotal]
  · simp
  · simp

/-- Moves that touch neither the accounts nor the history. -/
theorem Balanced.congr {walletBalance : ℚ} (h : Balanced walletBalance s)
    (haccounts : s'.accounts = s.accounts) (hexecutions : s'.executions = s.executions)
    (hwallet : s'.walletBalance = s.walletBalance)
    (hsequence : s.executionSequence ≤ s'.executionSequence) : Balanced walletBalance s' := by
  refine ⟨?_, hwallet.trans h.walletBalance, ?_, ?_, ?_⟩
  · rw [haccounts, hexecutions]
    exact h.booked
  · rw [haccounts, hexecutions]
    exact h.fees
  · rw [hexecutions]
    intro e he
    obtain ⟨n, hn, hid⟩ := h.numbered e he
    exact ⟨n, hn.trans hsequence, hid⟩
  · rw [hexecutions]
    exact h.nodup

theorem balanced_fill {walletBalance : ℚ} {order : SimulatedOrder} {e : ExecutionUpdate}
    {role : ClientOrderRole} {duplicated : Bool} (hbuys : BuysReduceOnly s)
    (h : Balanced walletBalance s) (hfill : IsFillOf s order e role)
    (hresult : FillResult s s' order e role duplicated) : Balanced walletBalance s' := by
  refine ⟨?_, hresult.walletBalance.trans h.walletBalance, ?_, ?_, ?_⟩
  · rw [hresult.accounts, hresult.executions]
    cases hside : e.side with
    | sell =>
      rw [bookOf_sell _ _ hside]
      exact h.booked.sell hside
    | buy =>
      -- The Buy is reduce-only, so it has been measured against the position.
      have hwithin : e.quantity ≤ s.accounts.positionQuantity :=
        hfill.reduceOnly (hbuys order hfill.row (hfill.side.symm.trans hside))
      rw [bookOf_buy _ _ hside hwithin]
      exact h.booked.buyBack hside hwithin
  · rw [hresult.accounts, hresult.executions, fees_applyPosition, h.fees]
    simp
  · rw [hresult.executions, hresult.executionSequence]
    intro e' he'
    rcases List.mem_append.mp he' with he' | he'
    · obtain ⟨n, hn, hid⟩ := h.numbered e' he'
      exact ⟨n, hn.trans (Nat.le_succ _), hid⟩
    · obtain rfl := List.mem_singleton.mp he'
      exact ⟨s.executionSequence + 1, le_rfl, hfill.executionId⟩
  · rw [hresult.executions, List.map_append, List.map_singleton]
    refine List.nodup_append.mpr ⟨h.nodup, List.nodup_singleton _, fun id hid id' hid' => ?_⟩
    obtain ⟨e', he', rfl⟩ := List.mem_map.mp hid
    obtain rfl := List.mem_singleton.mp hid'
    obtain ⟨n, hn, hid⟩ := h.numbered e' he'
    intro heq
    -- The new number is above all that have been given.
    have hnumber : n = s.executionSequence + 1 :=
      executionIdOf_injective (hid.symm.trans (heq.trans hfill.executionId))
    omega

/-- An order that takes the place of one with its side and flag, or of none. -/
theorem buysReduceOnly_of_upsert {order' : SimulatedOrder}
    (horders : s'.orders = s.orders.upsert order')
    (hsame : ∀ order ∈ s.orders.rows, order.orderLinkId = order'.orderLinkId →
      order'.request.side = order.request.side ∧
        order'.request.reduceOnly = order.request.reduceOnly)
    (h : BuysReduceOnly s') : BuysReduceOnly s := by
  intro order hrow hbuy
  by_cases hkey : order.orderLinkId = order'.orderLinkId
  · obtain ⟨hside, hreduceOnly⟩ := hsame order hrow hkey
    rw [← hreduceOnly]
    refine h order' ?_ (hside.trans hbuy)
    rw [horders]
    exact KeyedTable.mem_upsert.mpr (.inl rfl)
  · refine h order ?_ hbuy
    rw [horders]
    exact KeyedTable.mem_upsert.mpr (.inr ⟨hrow, hkey⟩)

/-- If every Buy is reduce-only after a move, it was before. -/
theorem buysReduceOnly_of_move (hmove : Move sim conditions s s') (h : BuysReduceOnly s') :
    BuysReduceOnly s := by
  cases hmove with
  | quiet hquiet =>
    unfold BuysReduceOnly at h
    rwa [hquiet.orders] at h
  | accept request partialPlanned hnew =>
    refine buysReduceOnly_of_upsert rfl (fun order hrow hkey => ?_) h
    exact absurd hkey (KeyedTable.find_eq_none.mp hnew order hrow)
  | @change order order' hrow hchange =>
    obtain ⟨hid, hkept⟩ := hchange.keeps
    refine buysReduceOnly_of_upsert rfl (fun o ho hkey => ?_) h
    obtain rfl := KeyedTable.eq_of_key ho hrow (hkey.trans hid)
    exact hkept
  | drain _ => exact h
  | fund rate => exact h
  | @fill order execution role rng firstAvailable duplicated hfill =>
    have hresult := fillResult s rng order execution firstAvailable role duplicated
    refine buysReduceOnly_of_upsert hresult.orders (fun o ho hkey => ?_) h
    obtain rfl := KeyedTable.eq_of_key ho hfill.row hkey
    exact ⟨rfl, rfl⟩

theorem balanced_move {walletBalance : ℚ} (hmove : Move sim conditions s s')
    (h : BuysReduceOnly s → Balanced walletBalance s) (hbuys : BuysReduceOnly s') :
    Balanced walletBalance s' := by
  have hbefore := buysReduceOnly_of_move hmove hbuys
  cases hmove with
  | quiet hquiet =>
    exact (h hbefore).congr hquiet.accounts hquiet.executions hquiet.walletBalance
      hquiet.executionSequence
  | accept request partialPlanned _ => exact (h hbefore).congr rfl rfl rfl le_rfl
  | change _ _ => exact (h hbefore).congr rfl rfl rfl le_rfl
  | drain _ => exact (h hbefore).congr rfl rfl rfl le_rfl
  | fund rate =>
    obtain ⟨hbooked, hwallet, hfees, hnumbered, hnodup⟩ := h hbefore
    exact ⟨hbooked, hwallet, hfees, hnumbered, hnodup⟩
  | @fill order execution role rng firstAvailable duplicated hfill =>
    exact balanced_fill hbefore (h hbefore) hfill
      (fillResult s rng order execution firstAvailable role duplicated)

/-! ## Delivery -/

/-- What has been handed out and what is queued is the history. -/
def Delivered (handed : List ExecutionUpdate) (s : SimulatedExchange σ) : Prop :=
  ∀ e, (e ∈ handed ∨ e ∈ s.deliveryQueue) ↔ e ∈ s.executions

/-- Nothing leaves the queue but through a drain. -/
theorem delivered_move {handed : List ExecutionUpdate} (hdraining : ¬ conditions.draining)
    (hmove : Move sim conditions s s') (h : Delivered handed s) : Delivered handed s' := by
  cases hmove with
  | quiet hquiet =>
    intro e
    rw [hquiet.deliveryQueue, hquiet.executions]
    exact h e
  | accept request partialPlanned _ => exact h
  | change _ _ => exact h
  | fund rate => exact h
  | drain hdrains => exact absurd hdrains hdraining
  | @fill order execution role rng firstAvailable duplicated _ =>
    have hresult := fillResult s rng order execution firstAvailable role duplicated
    intro e
    have hnew : e ∈ (if duplicated then [execution, execution] else [execution]) ↔
        e = execution := by
      cases duplicated <;> simp
    rw [hresult.deliveryQueue, hresult.executions, List.mem_append, List.mem_append, hnew,
      List.mem_singleton, ← or_assoc, h e]

theorem run_draw (probability : ℚ) (s : SimulatedExchange σ) :
    Stateful.run (draw sim probability) s =
      (.ok (sim.draw probability s.rng).1, { s with rng := (sim.draw probability s.rng).2 }) := rfl

/-- A drain hands out what is queued, or nothing. -/
theorem run_drainExecutionEvents (sim : Simulator σ) (s : SimulatedExchange σ) :
    ∃ events s', Stateful.run (drainExecutionEvents sim) s = (.ok events, s') ∧
      s'.executions = s.executions ∧
      ∀ e, (e ∈ events ∨ e ∈ s'.deliveryQueue) ↔ e ∈ s.deliveryQueue := by
  unfold drainExecutionEvents
  rw [Stateful.run_bind, Stateful.run_get]
  dsimp only
  by_cases hconnected : s.privateConnected = true
  · rw [if_neg (by simp [hconnected]), Stateful.run_bind, Stateful.run_set]
    dsimp only
    by_cases hempty : s.deliveryQueue = []
    · rw [if_pos hempty]
      exact ⟨[], _, rfl, rfl, by simp [hempty]⟩
    · rw [if_neg hempty]
      rw [Stateful.run_bind, run_draw]
      dsimp only
      split
      · exact ⟨s.deliveryQueue.reverse, _, rfl, rfl, by simp [record]⟩
      · exact ⟨s.deliveryQueue, _, rfl, rfl, by simp⟩
  · rw [if_pos hconnected]
    exact ⟨[], s, rfl, rfl, by simp⟩

theorem delivered_after {handed : List ExecutionUpdate} (h : Delivered handed s)
    (operation : SimulatedOperation) :
    Delivered (handed ++ s.handedOut sim operation) (s.after sim operation) := by
  by_cases hdrain : operation = .drainExecutionEvents
  · obtain ⟨events, s', hrun, hexecutions, hevents⟩ := run_drainExecutionEvents sim s
    have hhanded : s.handedOut sim operation = events := by
      unfold handedOut
      rw [hdrain, perform, hrun]
    have hafter : s.after sim operation = s' := by
      unfold after
      rw [hdrain, perform, hrun]
    intro e
    rw [hhanded, hafter, hexecutions, List.mem_append, or_assoc, hevents e]
    exact h e
  · have hmoves : MovesAlong sim { draining := False } _ (perform sim operation) s :=
      moves_perform (by
        cases operation with
        | drainExecutionEvents => exact absurd rfl hdrain
        | _ => simp [Meets])
    have hhanded : s.handedOut sim operation = [] := by
      unfold handedOut
      split
      · rename_i events hrun
        exact hmoves.returns events hrun hdrain
      · rfl
    rw [hhanded, List.append_nil]
    exact hmoves.preserves (fun _ _ => delivered_move (fun hfalse => hfalse)) h

theorem delivered_afterAll {handed : List ExecutionUpdate} (h : Delivered handed s)
    (operations : List SimulatedOperation) :
    Delivered (handed ++ s.drained sim operations) (s.afterAll sim operations) := by
  induction operations generalizing s handed with
  | nil =>
    rw [drained, List.append_nil]
    exact h
  | cons operation operations ih =>
    rw [drained, ← List.append_assoc]
    exact ih (delivered_after h operation)

/-! ## Conservation -/

/-- What the position, the accounts and the deliveries say after a run. -/
structure PositionConserved (walletBalance : ℚ) (handed : List ExecutionUpdate)
    (s : SimulatedExchange σ) : Prop where
  positionQuantity : s.accounts.positionQuantity =
    sideTotal .sell (fun e => e.quantity) s.executions -
      sideTotal .buy (fun e => e.quantity) s.executions
  nonneg : 0 ≤ s.accounts.positionQuantity
  realizedPnl : s.accounts.realizedPnl =
    sideTotal .sell notionalOf s.executions - sideTotal .buy notionalOf s.executions -
      s.accounts.positionAveragePrice * s.accounts.positionQuantity
  equity : s.equity =
    walletBalance + s.accounts.realizedPnl + s.accounts.funding -
      (s.executions.map fun e => e.fee).sum
  executionIds : (s.executions.map fun e => e.executionId).Nodup
  delivered : ∀ e, e ∈ handed ++ s.deliveryQueue ↔ e ∈ s.executions

instance (s : SimulatedExchange σ) : Decidable (BuysReduceOnly s) :=
  inferInstanceAs (Decidable (∀ order ∈ s.orders.rows, _))

/-- A sale, its repurchase, and both handed out. -/
def settledSale : List SimulatedOperation :=
  boughtBack "ECH-A-C0001-L01-TP-A01-0000" check_takeProfit ++ [.drainExecutionEvents]

end SimulatedExchange

end CreditHedge
