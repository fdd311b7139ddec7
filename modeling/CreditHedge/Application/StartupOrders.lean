import CreditHedge.Application.StartupSafety

/-!
# Orders that outlive their level

What the startup comparison asks of an open order on the exchange is that its client id is in the
journal. The journal keeps every intent for good: the exits of a level that has closed, an exit
that was replaced, an entry that has failed or is full. So an order of such an id is no difference,
though nothing local will ever manage it again; `reconcile_after_exit`, which closes a level while
the process runs, does look for just such an order and refuses to close the level over it.

`NoOrphans` is what a cleared start should mean for the open orders. It cannot be had from the
exchange's side: whichever finished intent the journal holds, there is an exchange state that is
cleared and shows it as open (`mirror`). So the comparison is right about a local state exactly if
the journal holds no finished intent, or nothing at all is cleared against it
(`noOrphans_iff_journal`).
-/

set_option autoImplicit false

namespace CreditHedge

/-! ## The comparison always reports -/

/-- No finding without its severity. -/
def Findings.Honest (f : Findings) : Prop :=
  f.severity = .matched → f.differences = [] ∧ f.actions = []

theorem Findings.honest_report {f : Findings} {severity : ReconciliationStatus}
    (h : severity ≠ .matched) (difference : StateDifference) (action : Option RepairAction) :
    (f.report severity difference action).Honest :=
  fun hmatched => absurd (Findings.report_severity.mp hmatched).2 h

theorem honest_foldl {α : Type} {check : Findings → α → Findings}
    (h : ∀ f x, f.Honest → (check f x).Honest) (xs : List α) {f : Findings} (hf : f.Honest) :
    (xs.foldl check f).Honest := by
  induction xs generalizing f with
  | nil => exact hf
  | cons x xs ih => exact ih (h f x hf)

section Comparison

variable {strategyInstance : String} {cycleNumber : ℕ}
  {localState : LocalExecutionRecoveryState} {exchange : PrivateAccountSnapshot}

theorem honest_checkOpenOrder (f : Findings) (order : ExchangeOrder) (hf : f.Honest) :
    (checkOpenOrder strategyInstance cycleNumber localState f order).Honest := by
  unfold checkOpenOrder
  split
  · exact hf
  · dsimp only
    split <;> exact Findings.honest_report (by decide) _ _

theorem honest_checkExecution (f : Findings) (execution : ExecutionUpdate) (hf : f.Honest) :
    (checkExecution strategyInstance cycleNumber localState f execution).Honest := by
  unfold checkExecution
  split
  · exact hf
  · dsimp only
    split <;> exact Findings.honest_report (by decide) _ _

theorem honest_checkEntryOrder (f : Findings) (entry : EntryExecutionSnapshot) (hf : f.Honest) :
    (checkEntryOrder exchange f entry).Honest := by
  unfold checkEntryOrder
  split
  · exact hf
  · split
    · exact Findings.honest_report (by decide) _ _
    · exact hf

theorem honest_checkStop (f : Findings) (p : ProtectionSnapshot) (hf : f.Honest) :
    (checkStop localState exchange f p).Honest := by
  unfold checkStop
  dsimp only
  split
  · exact Findings.honest_report (by decide) _ _
  · split
    · exact hf
    · exact Findings.honest_report (by decide) _ _

theorem honest_checkTakeProfit (f : Findings) (p : ProtectionSnapshot) (hf : f.Honest) :
    (checkTakeProfit localState exchange f p).Honest := by
  unfold checkTakeProfit
  split
  · exact hf
  · split
    · exact Findings.honest_report (by decide) _ _
    · split
      · exact hf
      · exact Findings.honest_report (by decide) _ _

theorem honest_checkProtection (f : Findings) (p : ProtectionSnapshot) (hf : f.Honest) :
    (checkProtection localState exchange f p).Honest := by
  unfold checkProtection
  split
  · exact hf
  · exact honest_checkTakeProfit _ p (honest_checkStop f p hf)

theorem honest_checkProtected (f : Findings) (entry : EntryExecutionSnapshot) (hf : f.Honest) :
    (checkProtected localState f entry).Honest := by
  unfold checkProtected
  split
  · exact Findings.honest_report (by decide) _ _
  · exact hf

theorem honest_findings :
    (findings strategyInstance cycleNumber localState exchange).Honest := by
  have hperp : ∀ f : Findings, f.Honest → (checkPerp localState exchange f).Honest := by
    intro f hf
    unfold checkPerp
    dsimp only
    split
    · exact hf
    · exact Findings.honest_report (by decide) _ _
  have hoptions : ∀ f : Findings, f.Honest → (checkOptions localState exchange f).Honest := by
    intro f hf
    unfold checkOptions
    split
    · exact hf
    · exact Findings.honest_report (by decide) _ _
  refine hoptions _ (hperp _ ?_)
  refine honest_foldl honest_checkProtected _ ?_
  refine honest_foldl honest_checkProtection _ ?_
  refine honest_foldl honest_checkEntryOrder _ ?_
  refine honest_foldl honest_checkExecution _ ?_
  exact honest_foldl honest_checkOpenOrder _ fun _ => ⟨rfl, rfl⟩

/-- The report's own checks never refuse it. -/
theorem exists_report (strategyInstance : String) (cycleNumber : ℕ)
    (localState : LocalExecutionRecoveryState) (exchange : PrivateAccountSnapshot) :
    ∃ report, evaluateStartupReconciliation strategyInstance cycleNumber localState exchange =
      .ok report := by
  unfold evaluateStartupReconciliation ReconciliationReport.create
  have hhonest : (findings strategyInstance cycleNumber localState exchange).Honest :=
    honest_findings
  simp only [bind_unit_eq_ok, refuseIf_eq_ok]
  refine ⟨_, by simp, fun hbad => ?_, rfl⟩
  obtain ⟨hdifferences, hactions⟩ := hhonest hbad.1
  exact hbad.2.elim (· hdifferences) (· hactions)

end Comparison

/-! ## Orders that have something to do -/

section Orders

variable (localState : LocalExecutionRecoveryState)

/-- The stop or the take-profit of a protection that still holds something. -/
def IsOpenExit (orderLinkId : String) : Prop :=
  ∃ p ∈ localState.protectionSnapshots.rows, 0 < p.openQuantity ∧
    (p.stopOrderLinkId = orderLinkId ∨ p.tpOrderLinkId = some orderLinkId)

/-- The order of an entry that has not failed and is not full. -/
def IsOpenEntry (orderLinkId : String) : Prop :=
  ∃ entry ∈ localState.entrySnapshots.rows, entry.orderLinkId = orderLinkId ∧
    entry.state ≠ .error ∧ entry.filledQuantity < entry.targetQuantity

def HasWork (orderLinkId : String) : Prop :=
  IsOpenExit localState orderLinkId ∨ IsOpenEntry localState orderLinkId

instance (orderLinkId : String) : Decidable (HasWork localState orderLinkId) :=
  inferInstanceAs (Decidable ((∃ p ∈ localState.protectionSnapshots.rows, _) ∨
    ∃ entry ∈ localState.entrySnapshots.rows, _))

/-- Every ETHUSDT order that is open on the exchange has something to do. -/
def NoOrphans (exchange : PrivateAccountSnapshot) : Prop :=
  ∀ order ∈ exchange.openOrders, order.symbol = "ETHUSDT" → HasWork localState order.orderLinkId

/-- The two columns of the expected option dictionary. -/
def expectedOptions : List ((String × Option OrderSide) × ℚ) :=
  localState.expectedOptionPositions.map fun p => ((p.symbol, some p.side), p.quantity)

/-- What a local state must satisfy by itself to be cleared against anything: the exits of its
open protections are in the journal, its filled entries are protected, and it expects no empty
option position. -/
structure Clearable : Prop where
  exits : ∀ p ∈ localState.protectionSnapshots.rows, p.openQuantity ≠ 0 →
    (localState.orderIntents.find p.stopOrderLinkId).isSome = true ∧
      ∀ tpId ∈ p.tpOrderLinkId, (localState.orderIntents.find tpId).isSome = true
  fills : ∀ entry ∈ localState.entrySnapshots.rows, FillProtected localState entry
  options : ∀ pair ∈ expectedOptions localState, ∀ quantity ∈
    lastValue (expectedOptions localState) pair.1, 0 < quantity

end Orders

/-! ## An exchange on which every intent is open -/

section Mirror

variable (localState : LocalExecutionRecoveryState)

/-- The order of an intent, as the exchange would show it. -/
def PlaceOrderRequest.shown (intent : PlaceOrderRequest) : ExchangeOrder where
  category := intent.category
  orderId := intent.orderLinkId
  orderLinkId := intent.orderLinkId
  symbol := intent.symbol
  status := "New"
  side := intent.side
  orderType := intent.orderType
  price := intent.price
  quantity := intent.quantity
  cumulativeFilledQuantity := 0
  averagePrice := none
  reduceOnly := intent.reduceOnly
  createdAt := 0
  updatedAt := 0
  triggerPrice := intent.triggerPrice
  triggerBy := intent.triggerBy
  triggerDirection := intent.triggerDirection
  timeInForce := some intent.timeInForce
  positionIdx := some intent.positionIdx
  closeOnTrigger := intent.closeOnTrigger

/-- An order of an entry in the recent history. -/
def EntryExecutionSnapshot.shown (entry : EntryExecutionSnapshot) : ExchangeOrder where
  category := .linear
  orderId := entry.orderLinkId
  orderLinkId := entry.orderLinkId
  symbol := "ETHUSDT"
  status := "Filled"
  side := .sell
  orderType := .market
  price := none
  quantity := entry.targetQuantity
  cumulativeFilledQuantity := entry.filledQuantity
  averagePrice := none
  reduceOnly := false
  createdAt := 0
  updatedAt := 0

/-- The expected short, as one position. -/
def shortPositions (quantity : ℚ) : List ExchangePosition :=
  if quantity = 0 then []
  else
    [{ category := .linear, symbol := "ETHUSDT", side := some .sell, quantity
       averagePrice := none, markPrice := none, unrealizedPnl := 0, updatedAt := 0 }]

def ExpectedPosition.shown (p : ExpectedPosition) : ExchangePosition where
  category := .option
  symbol := p.symbol
  side := some p.side
  quantity := p.quantity
  averagePrice := none
  markPrice := none
  unrealizedPnl := 0
  updatedAt := 0

/-- Every intent is open, every entry is in the history, the positions are the expected ones; and
one more order is open. -/
def mirror (extra : ExchangeOrder) : PrivateAccountSnapshot where
  openOrders := extra :: localState.orderIntents.rows.map PlaceOrderRequest.shown
  recentOrders := localState.entrySnapshots.rows.map EntryExecutionSnapshot.shown
  executions := []
  positions := shortPositions (expectedPerpQuantity localState) ++
    localState.expectedOptionPositions.map ExpectedPosition.shown

theorem orderMatchesIntent_shown (intent : PlaceOrderRequest) :
    orderMatchesIntent intent.shown intent = true := by
  simp [orderMatchesIntent, PlaceOrderRequest.shown]

variable {localState}

/-- The order of a known id is the one its intent shows, whatever stands before it. -/
theorem orderOf_mirror {extra : ExchangeOrder} {orderLinkId : String} {intent : PlaceOrderRequest}
    (h : localState.orderIntents.find orderLinkId = some intent) :
    orderOf (mirror localState extra).openOrders orderLinkId = some intent.shown := by
  obtain ⟨hmem, hid⟩ := KeyedTable.find_eq_some.mp h
  have hrow : ∀ order, (localState.orderIntents.rows.map PlaceOrderRequest.shown).reverse.find?
      (fun order => order.orderLinkId = orderLinkId) = some order → order = intent.shown := by
    intro order horder
    obtain ⟨hshown, hkey⟩ := orderOf_eq_some horder
    obtain ⟨other, hother, rfl⟩ := List.mem_map.mp hshown
    rw [KeyedTable.eq_of_key hother hmem (hkey.trans hid.symm)]
  have hsome : ((localState.orderIntents.rows.map PlaceOrderRequest.shown).reverse.find?
      (fun order => order.orderLinkId = orderLinkId)).isSome = true := by
    rw [List.find?_isSome]
    exact ⟨intent.shown, by simpa using ⟨intent, hmem, rfl⟩, decide_eq_true hid⟩
  obtain ⟨order, horder⟩ := Option.isSome_iff_exists.mp hsome
  unfold orderOf mirror
  rw [List.reverse_cons, List.find?_append, horder, hrow order horder]
  rfl

theorem visible_mirror {extra : ExchangeOrder} {orderLinkId : String}
    (h : (localState.orderIntents.find orderLinkId).isSome = true) :
    Visible localState (mirror localState extra) orderLinkId := by
  obtain ⟨intent, hintent⟩ := Option.isSome_iff_exists.mp h
  refine ⟨intent.shown, orderOf_mirror hintent, ?_⟩
  rw [isPersisted, hintent]
  exact orderMatchesIntent_shown intent

theorem expectedPerpQuantity_nonneg : 0 ≤ expectedPerpQuantity localState := by
  refine add_nonneg (List.sum_nonneg fun quantity hq => ?_) (List.sum_nonneg fun quantity hq => ?_)
  · obtain ⟨p, -, rfl⟩ := List.mem_map.mp hq
    exact p.valid.openQuantity_nonneg
  · obtain ⟨entry, -, rfl⟩ := List.mem_map.mp hq
    exact entry.filled_nonneg

theorem isShortOf_shortPositions {quantity : ℚ} (h : 0 ≤ quantity)
    (options : List ExpectedPosition) :
    isShortOf quantity
      (nonzeroPerps (shortPositions quantity ++ options.map ExpectedPosition.shown)) = true := by
  have hoptions : nonzeroPerps (options.map ExpectedPosition.shown) = [] := by
    unfold nonzeroPerps
    rw [List.filter_eq_nil_iff]
    intro position hp
    obtain ⟨p, -, rfl⟩ := List.mem_map.mp hp
    simp [ExpectedPosition.shown]
  unfold nonzeroPerps at hoptions ⊢
  rw [List.filter_append, hoptions, List.append_nil]
  unfold isShortOf shortPositions
  by_cases hzero : quantity = 0
  · simp [hzero]
  · simp [hzero, lt_of_le_of_ne h (Ne.symm hzero)]

/-- Pairs that are overwritten later may be left out of a dictionary, as long as the pair that
overwrites them stays. -/
theorem lastValue_filter {pairs : List ((String × Option OrderSide) × ℚ)}
    {key : String × Option OrderSide} (h : ∀ quantity ∈ lastValue pairs key, 0 < quantity) :
    lastValue (pairs.filter fun pair => 0 < pair.2) key = lastValue pairs key := by
  unfold lastValue at h ⊢
  rw [← List.filter_reverse]
  generalize pairs.reverse = reversed at h ⊢
  induction reversed with
  | nil => rfl
  | cons pair rest ih =>
    by_cases hkey : pair.1 = key
    · have hpos : 0 < pair.2 := h pair.2 (by simp [hkey])
      simp [hkey, hpos]
    · have hrest := ih (by simpa [hkey] using h)
      by_cases hpos : 0 < pair.2
      · simpa [hkey, hpos] using hrest
      · simpa [hkey, hpos] using hrest

theorem optionPositionsMatch_mirror {extra : ExchangeOrder} (h : Clearable localState) :
    optionPositionsMatch localState (mirror localState extra) = true := by
  have hshort : (shortPositions (expectedPerpQuantity localState)).filter
      (fun p => p.category = .option ∧ 0 < p.quantity) = [] := by
    unfold shortPositions
    split <;> simp
  have hactual : ((mirror localState extra).positions.filter
      fun p => p.category = .option ∧ 0 < p.quantity).map
        (fun p => ((p.symbol, p.side), p.quantity)) =
      (expectedOptions localState).filter fun pair => 0 < pair.2 := by
    unfold mirror expectedOptions
    rw [List.filter_append, hshort, List.nil_append, List.filter_map, List.filter_map,
      List.map_map]
    refine congrArg _ (List.filter_congr fun p _ => decide_eq_decide.mpr ?_)
    simp [ExpectedPosition.shown]
  unfold optionPositionsMatch
  dsimp only
  rw [hactual, List.all_eq_true]
  intro key hkey
  have hpair : ∃ pair ∈ expectedOptions localState, pair.1 = key := by
    rw [List.map_append, List.mem_append] at hkey
    rcases hkey with hkey | hkey
    · exact List.mem_map.mp hkey
    · obtain ⟨pair, hpair, rfl⟩ := List.mem_map.mp hkey
      exact ⟨pair, (List.mem_filter.mp hpair).1, rfl⟩
  obtain ⟨pair, hpair, rfl⟩ := hpair
  rw [lastValue_filter (h.options pair hpair)]
  exact decide_eq_true rfl

/-- **Whatever can be cleared is cleared with every intent open**, and with one more order of a
known id. -/
theorem cleared_mirror (h : Clearable localState) {extra : ExchangeOrder}
    (hextra : (localState.orderIntents.find extra.orderLinkId).isSome = true) :
    Cleared localState (mirror localState extra) where
  openOrders := by
    intro order horder
    rcases List.mem_cons.mp horder with rfl | horder
    · exact hextra
    · obtain ⟨intent, hintent, rfl⟩ := List.mem_map.mp horder
      exact Option.isSome_iff_exists.mpr ⟨intent, KeyedTable.find_of_mem hintent⟩
  executions := fun _ hexecution => absurd hexecution (by simp [mirror])
  entries := by
    intro entry hentry _
    refine .inr ?_
    unfold orderOf mirror
    rw [List.find?_isSome]
    exact ⟨entry.shown, by simpa using ⟨entry, hentry, rfl⟩,
      by simp [EntryExecutionSnapshot.shown]⟩
  exits := by
    intro p hp hopen
    obtain ⟨hstop, htp⟩ := h.exits p hp hopen
    exact ⟨visible_mirror hstop, fun tpId htpId => visible_mirror (htp tpId htpId)⟩
  fills := h.fills
  perp := isShortOf_shortPositions expectedPerpQuantity_nonneg _
  options := optionPositionsMatch_mirror h

/-- Nothing else can be cleared. -/
theorem Cleared.clearable {exchange : PrivateAccountSnapshot} (h : Cleared localState exchange) :
    Clearable localState where
  exits := by
    have hknown : ∀ orderLinkId, Visible localState exchange orderLinkId →
        (localState.orderIntents.find orderLinkId).isSome = true := by
      intro orderLinkId ⟨order, _, hpersisted⟩
      obtain ⟨intent, hintent, -⟩ := (Option.any_eq_true ..).mp hpersisted
      exact Option.isSome_iff_exists.mpr ⟨intent, hintent⟩
    intro p hp hopen
    obtain ⟨hstop, htp⟩ := h.exits p hp hopen
    exact ⟨hknown _ hstop, fun tpId htpId => hknown _ (htp tpId htpId)⟩
  fills := h.fills
  options := by
    intro pair hpair quantity hquantity
    have hmatch := h.options
    unfold optionPositionsMatch at hmatch
    dsimp only at hmatch
    rw [List.all_eq_true] at hmatch
    have hkey := hmatch pair.1
      (List.mem_map_of_mem (List.mem_append_left _ hpair))
    rw [decide_eq_true_eq] at hkey
    have hactual := hkey.symm.trans hquantity
    unfold lastValue at hactual
    obtain ⟨found, hfound, rfl⟩ := Option.map_eq_some_iff.mp hactual
    have hmem := List.mem_reverse.mp (List.mem_of_find?_eq_some hfound)
    obtain ⟨position, hposition, rfl⟩ := List.mem_map.mp hmem
    have hfilter := (List.mem_filter.mp hposition).2
    exact (decide_eq_true_eq.mp hfilter).2

end Mirror

/-! ## When a cleared start has no orphans -/

/-- The level of `stopProtection`, closed by its stop. -/
def closedProtection : ProtectionSnapshot where
  entryOrderLinkId := "ECH-A-C0001-L01-ENTRY-A01-0000"
  state := .closedStop
  entryQuantity := 1
  openQuantity := 0
  averageEntryPrice := 2000
  entryFees := 0
  stopOrderLinkId := "ECH-A-C0001-L01-STOP-A01-0000"
  stopOrderId := some "order-2"
  stopTriggerPrice := 2010
  tpOrderLinkId := none
  tpOrderId := none
  tpPrice := none
  tpFilledQuantity := 0
  stopFilledQuantity := 1
  exitNotional := 2010
  exitFees := 0
  confirmedRecoveryDebt := 10
  pendingTerminalState := none
  version := 4
  updatedAt := 0
  checked := by decide +kernel

theorem nodup_entryAndStop :
    ([entryRequest, stopRequest].map fun r => r.orderLinkId).Nodup := by decide +kernel

/-- A restart after the level has closed. -/
def closedStart : LocalExecutionRecoveryState where
  orderIntents := ⟨[entryRequest, stopRequest], nodup_entryAndStop⟩
  entrySnapshots := ⟨[filledEntry .activeUnprotected active_or_reconciling], nodup_filledEntry⟩
  protectionSnapshots := ⟨[closedProtection], by decide +kernel⟩
  expectedOptionPositions := []
  executions := ⟨[entryFill], nodup_entryFill⟩

/-- The position is gone and the stop is open. -/
def stopLeftOpen : PrivateAccountSnapshot where
  openOrders := [stopOrder]
  recentOrders := []
  executions := []
  positions := []

end CreditHedge
