import CreditHedge.Application.StartupReconciliation
import Mathlib.Algebra.BigOperators.Group.List.Basic

/-!
# What a cleared start guarantees

The comparison's purpose, stated without it: no confirmed fill without a protection, no open
protection without its stop on the exchange, and no short on the exchange that the protections do
not account for (`Safe`). Trading is cleared over an unsafe state in exactly one way: an entry in
`RECONCILING` with a fill and no protection row.
-/

set_option autoImplicit false

namespace CreditHedge

/-- The ETHUSDT perpetual position of the exchange, counted as a short. -/
def exchangeShort (positions : List ExchangePosition) : ℚ :=
  ((nonzeroPerps positions).map fun p =>
    if p.side = some .sell then p.quantity else -p.quantity).sum

/-- No fill is unprotected, no protection lacks its stop, and the short is what is protected. -/
structure Safe (localState : LocalExecutionRecoveryState) (exchange : PrivateAccountSnapshot) :
    Prop where
  fills : ∀ entry ∈ localState.entrySnapshots.rows, entry.state ≠ .error →
    0 < entry.filledQuantity → IsProtected localState entry
  stops : ∀ p ∈ localState.protectionSnapshots.rows, 0 < p.openQuantity →
    ∃ stop ∈ exchange.openOrders, ∃ intent ∈ localState.orderIntents.rows,
      stop.orderLinkId = p.stopOrderLinkId ∧ intent.orderLinkId = p.stopOrderLinkId ∧
        stop.side = intent.side ∧ stop.quantity = intent.quantity ∧
        stop.triggerPrice = intent.triggerPrice ∧ stop.triggerBy = intent.triggerBy ∧
        stop.triggerDirection = intent.triggerDirection ∧ stop.reduceOnly = intent.reduceOnly
  short : exchangeShort exchange.positions =
    (localState.protectionSnapshots.rows.map fun p => p.openQuantity).sum

variable {strategyInstance : String} {cycleNumber : ℕ}
  {localState : LocalExecutionRecoveryState} {exchange : PrivateAccountSnapshot}

/-- A position list that passes for a short of some quantity is a short of that quantity. -/
theorem exchangeShort_of_isShortOf {positions : List ExchangePosition} {quantity : ℚ}
    (h : isShortOf quantity (nonzeroPerps positions) = true) :
    exchangeShort positions = quantity := by
  unfold exchangeShort
  unfold isShortOf at h
  split at h
  · rename_i hzero
    rw [List.isEmpty_iff.mp h, hzero]
    rfl
  · cases hp : nonzeroPerps positions with
    | nil => rw [hp] at h; exact absurd h (by simp)
    | cons p ps =>
      rw [hp] at h
      cases ps with
      | nil =>
        simp only [Bool.and_eq_true, decide_eq_true_eq] at h
        simp [h.1, h.2]
      | cons _ _ => exact absurd h (by simp)

theorem Visible.exists_stop {orderLinkId : String}
    (h : Visible localState exchange orderLinkId) :
    ∃ stop ∈ exchange.openOrders, ∃ intent ∈ localState.orderIntents.rows,
      stop.orderLinkId = orderLinkId ∧ intent.orderLinkId = orderLinkId ∧
        orderMatchesIntent stop intent = true := by
  obtain ⟨stop, hstop, hpersisted⟩ := h
  obtain ⟨intent, hintent, hmatch⟩ := (Option.any_eq_true ..).mp hpersisted
  obtain ⟨hmem, hid⟩ := orderOf_eq_some hstop
  obtain ⟨hmem', hid'⟩ := KeyedTable.find_eq_some.mp hintent
  exact ⟨stop, hmem, intent, hmem', hid, hid', hmatch⟩

/-- If no entry was exempted, nothing but the protections counts towards the expected short. -/
theorem Cleared.expectedPerpQuantity_eq (h : Cleared localState exchange)
    (hreconciling : ∀ entry ∈ localState.entrySnapshots.rows, entry.state = .reconciling →
      0 < entry.filledQuantity → IsProtected localState entry) :
    expectedPerpQuantity localState =
      (localState.protectionSnapshots.rows.map fun p => p.openQuantity).sum := by
  unfold expectedPerpQuantity
  rw [add_eq_left]
  refine List.sum_eq_zero fun quantity hq => ?_
  obtain ⟨entry, hentry, rfl⟩ := List.mem_map.mp hq
  simp only [List.mem_filter, decide_eq_true_eq] at hentry
  obtain ⟨hmem, hunprotected, hstate⟩ := hentry
  by_contra hne
  have hfilled : 0 < entry.filledQuantity := lt_of_le_of_ne entry.filled_nonneg (Ne.symm hne)
  by_cases hr : entry.state = .reconciling
  · exact hunprotected (hreconciling entry hmem hr hfilled)
  · exact hunprotected (h.fills entry hmem hfilled (by simp [hr, hstate]))

theorem Cleared.safe (h : Cleared localState exchange)
    (hreconciling : ∀ entry ∈ localState.entrySnapshots.rows, entry.state = .reconciling →
      0 < entry.filledQuantity → IsProtected localState entry) :
    Safe localState exchange where
  fills := fun entry hentry hstate hfilled => by
    by_cases hr : entry.state = .reconciling
    · exact hreconciling entry hentry hr hfilled
    · exact h.fills entry hentry hfilled (by simp [hr, hstate])
  stops := fun p hp hopen => by
    obtain ⟨stop, hstop, intent, hintent, hid, hid', hmatch⟩ :=
      (h.exits p hp hopen.ne').1.exists_stop
    unfold orderMatchesIntent at hmatch
    simp only [Bool.and_eq_true, decide_eq_true_eq] at hmatch
    obtain ⟨⟨⟨⟨⟨⟨⟨⟨⟨⟨⟨⟨-, -⟩, hside⟩, -⟩, -⟩, hquantity⟩, hreduce⟩, htrigger⟩, hby⟩,
      hdirection⟩, -⟩, -⟩, -⟩ :=
      hmatch
    exact ⟨stop, hstop, intent, hintent, hid, hid', hside, hquantity, htrigger, hby, hdirection,
      hreduce⟩
  short := by
    rw [exchangeShort_of_isShortOf h.perp, h.expectedPerpQuantity_eq hreconciling]

/-- **When a cleared start is a safe one.** If the comparison allows trading, the state is safe
    exactly when every filled entry in `RECONCILING` has a protection row. -/
theorem safe_iff_of_tradingAllowed {report : ReconciliationReport}
    (h : evaluateStartupReconciliation strategyInstance cycleNumber localState exchange =
      .ok report)
    (hallowed : report.tradingAllowed = true) :
    Safe localState exchange ↔
      ∀ entry ∈ localState.entrySnapshots.rows, entry.state = .reconciling →
        0 < entry.filledQuantity → IsProtected localState entry := by
  constructor
  · intro hsafe entry hentry hstate hfilled
    exact hsafe.fills entry hentry (by rw [hstate]; decide) hfilled
  · intro hreconciling
    exact ((tradingAllowed_iff h).mp hallowed).safe hreconciling

/-! ## A start on either side of the gap -/

/-- The request that opened one unit. -/
def entryRequest : PlaceOrderRequest where
  category := .linear
  symbol := "ETHUSDT"
  side := .sell
  orderType := .market
  quantity := 1
  orderLinkId := "ECH-A-C0001-L01-ENTRY-A01-0000"
  timeInForce := .ioc
  checked := by decide +kernel

/-- Its fill, at 2000. -/
def entryFill : ExecutionUpdate where
  executionId := "fill-1"
  orderId := "order-1"
  orderLinkId := "ECH-A-C0001-L01-ENTRY-A01-0000"
  symbol := "ETHUSDT"
  side := .sell
  price := 2000
  quantity := 1
  fee := 0
  isMaker := none
  executedAt := 0
  checked := by decide +kernel

/-- The entry, filled, in a state that may hold a fill. -/
def filledEntry (state : LiveExecutionState)
    (hstate : state = .activeUnprotected ∨ state = .reconciling) : EntryExecutionSnapshot where
  orderLinkId := "ECH-A-C0001-L01-ENTRY-A01-0000"
  state := state
  targetQuantity := 1
  entryOrderId := some "order-1"
  filledQuantity := 1
  entryNotional := 2000
  entryFees := 0
  version := 4
  updatedAt := 0
  checked := by rcases hstate with rfl | rfl <;> decide +kernel

/-- The request of its stop. -/
def stopRequest : PlaceOrderRequest where
  category := .linear
  symbol := "ETHUSDT"
  side := .buy
  orderType := .market
  quantity := 1
  orderLinkId := "ECH-A-C0001-L01-STOP-A01-0000"
  timeInForce := .ioc
  reduceOnly := true
  triggerPrice := some 2010
  triggerDirection := some 1
  triggerBy := some .lastPrice
  closeOnTrigger := true
  checked := by decide +kernel

/-- The stop as the exchange shows it. -/
def stopOrder : ExchangeOrder where
  category := .linear
  orderId := "order-2"
  orderLinkId := "ECH-A-C0001-L01-STOP-A01-0000"
  symbol := "ETHUSDT"
  status := "Untriggered"
  side := .buy
  orderType := .market
  price := none
  quantity := 1
  cumulativeFilledQuantity := 0
  averagePrice := none
  reduceOnly := true
  createdAt := 0
  updatedAt := 0
  triggerPrice := some 2010
  triggerBy := some .lastPrice
  triggerDirection := some 1
  timeInForce := some .ioc
  positionIdx := some 0
  closeOnTrigger := true

/-- The protection it confirmed. -/
def stopProtection : ProtectionSnapshot where
  entryOrderLinkId := "ECH-A-C0001-L01-ENTRY-A01-0000"
  state := .activeProtected
  entryQuantity := 1
  openQuantity := 1
  averageEntryPrice := 2000
  entryFees := 0
  stopOrderLinkId := "ECH-A-C0001-L01-STOP-A01-0000"
  stopOrderId := some "order-2"
  stopTriggerPrice := 2010
  tpOrderLinkId := none
  tpOrderId := none
  tpPrice := none
  tpFilledQuantity := 0
  stopFilledQuantity := 0
  exitNotional := 0
  exitFees := 0
  confirmedRecoveryDebt := 0
  pendingTerminalState := none
  version := 2
  updatedAt := 0
  checked := by decide +kernel

/-- The exchange holds the one unit short, and shows these orders. -/
def shortOne (openOrders : List ExchangeOrder) : PrivateAccountSnapshot where
  openOrders
  recentOrders := []
  executions := [entryFill]
  positions :=
    [{ category := .linear, symbol := "ETHUSDT", side := some .sell, quantity := 1
       averagePrice := some 2000, markPrice := none, unrealizedPnl := 0, updatedAt := 0 }]

theorem active_or_reconciling : LiveExecutionState.activeUnprotected = .activeUnprotected ∨
    LiveExecutionState.activeUnprotected = .reconciling :=
  .inl rfl

theorem nodup_filledEntry :
    ([filledEntry .activeUnprotected active_or_reconciling].map fun s => s.orderLinkId).Nodup := by
  decide +kernel

theorem nodup_entryFill : ([entryFill].map fun e => e.executionId).Nodup := by decide +kernel

/-- A restart after the stop of the only level was confirmed. -/
def protectedStart : LocalExecutionRecoveryState where
  orderIntents := ⟨[entryRequest, stopRequest], by decide +kernel⟩
  entrySnapshots := ⟨[filledEntry .activeUnprotected active_or_reconciling], nodup_filledEntry⟩
  protectionSnapshots := ⟨[stopProtection], by decide +kernel⟩
  expectedOptionPositions := []
  executions := ⟨[entryFill], nodup_entryFill⟩

/-- A restart after a position mismatch had put the entry into `RECONCILING`, before its stop. -/
def reconcilingStart : LocalExecutionRecoveryState where
  orderIntents := ⟨[entryRequest], by decide +kernel⟩
  entrySnapshots := ⟨[filledEntry .reconciling (.inr rfl)], by decide +kernel⟩
  protectionSnapshots := .empty
  expectedOptionPositions := []
  executions := ⟨[entryFill], nodup_entryFill⟩

/-- The report of a comparison that found nothing. -/
def clearedReport : ReconciliationReport where
  status := .matched
  differences := []
  repairActions := []
  tradingAllowed := true

/-- The first restart is cleared, and safe. -/
theorem safe_iff_of_tradingAllowed_protectedStart : Safe protectedStart (shortOne [stopOrder]) :=
  have h : evaluateStartupReconciliation "A" 1 protectedStart (shortOne [stopOrder]) =
      .ok clearedReport := by decide +kernel
  (safe_iff_of_tradingAllowed h rfl).mpr (by decide +kernel)

/-- The exchange holds a short of one, nothing protects it, and the comparison clears trading. -/
theorem clears_unprotected :
    evaluateStartupReconciliation "A" 1 reconcilingStart (shortOne []) = .ok clearedReport ∧
      clearedReport.tradingAllowed = true ∧ ¬ Safe reconcilingStart (shortOne []) := by
  refine ⟨by decide +kernel, rfl, fun hsafe => ?_⟩
  have hfill := hsafe.fills _ (List.mem_singleton.mpr rfl) (by decide) (by decide +kernel)
  exact absurd hfill (by decide +kernel)

end CreditHedge
