import CreditHedge.Domain.ExitAccounting

/-!
# The life of one level

An entry from its intent to its last fill, and the protection of what it has opened, through every
reducer of `domain/live_execution.py` and `domain/protected_execution.py` in any order. The fills
are kept beside the snapshot, so that what the snapshot has accumulated can be said of them.

The three types on the way do not agree about fees. An execution may carry a negative one, a rebate,
and the entry adds it up as it is; the protection refuses a sum below zero, of the entry's fees and
of its own. So a rebate can leave a position that cannot be protected, or an exit that cannot be
booked (`bookable_iff`).
-/

set_option autoImplicit false

namespace CreditHedge

/-! ## The entry -/

/-- An entry that was made from an intent for this request, and its fills. -/
inductive EntryLife (request : PlaceOrderRequest) :
    EntryExecutionSnapshot → List ExecutionUpdate → Prop
  | intent {entry : EntryExecutionSnapshot} (persistedAt : Time) :
      EntryExecutionSnapshot.forIntent request persistedAt = .ok entry → EntryLife request entry []
  | transition {entry entry' : EntryExecutionSnapshot} {executions : List ExecutionUpdate}
      (state : LiveExecutionState) (updatedAt : Time) (entryOrderId : Option String) :
      EntryLife request entry executions →
      transitionEntrySnapshot entry state updatedAt entryOrderId = .ok entry' →
      EntryLife request entry' executions
  | fill {entry entry' : EntryExecutionSnapshot} {executions : List ExecutionUpdate}
      (execution : ExecutionUpdate) (updatedAt : Time) :
      EntryLife request entry executions →
      applyEntryExecution entry execution updatedAt = .ok entry' →
      EntryLife request entry' (executions ++ [execution])
  | finalize {entry entry' : EntryExecutionSnapshot} {executions : List ExecutionUpdate}
      (updatedAt : Time) :
      EntryLife request entry executions → finalizePartialEntry entry updatedAt = .ok entry' →
      EntryLife request entry' executions

/-- The entry fees are the fees of its fills. -/
theorem EntryLife.totals {request : PlaceOrderRequest} {entry : EntryExecutionSnapshot}
    {executions : List ExecutionUpdate} (h : EntryLife request entry executions) :
    entry.orderLinkId = request.orderLinkId ∧
      entry.entryFees = (executions.map fun e => e.fee).sum := by
  induction h with
  | intent persistedAt h =>
    simp only [EntryExecutionSnapshot.forIntent, bind_unit_eq_ok,
      EntryExecutionSnapshot.create_eq_ok] at h
    rw [h.2]
    exact ⟨rfl, rfl⟩
  | transition _ _ _ _ h ih =>
    have hfills := fills_of_transition h
    exact ⟨hfills.orderLinkId.trans ih.1, by rw [hfills.entryFees, ih.2, add_zero]⟩
  | fill execution _ _ h ih =>
    obtain ⟨-, hfills⟩ := fills_of_applyEntryExecution h
    refine ⟨hfills.orderLinkId.trans ih.1, ?_⟩
    rw [hfills.entryFees, ih.2, List.map_append, List.sum_append, List.map_singleton,
      List.sum_singleton]
  | finalize _ _ h ih =>
    have hfills := fills_of_finalize h
    exact ⟨hfills.orderLinkId.trans ih.1, by rw [hfills.entryFees, ih.2, add_zero]⟩

/-! ## The protection -/

/-- A reducer that books no fill. -/
inductive Rearranges (p p' : ProtectionSnapshot) : Prop
  | confirmStop (orderId : String) (updatedAt : Time) :
      confirmStop p orderId updatedAt = .ok p' → Rearranges p p'
  | replaceStop (orderLinkId : String) (triggerPrice : ℚ) (updatedAt : Time) :
      replaceStopIntent p orderLinkId triggerPrice updatedAt = .ok p' → Rearranges p p'
  | takeProfitIntent (orderLinkId : String) (price : ℚ) (updatedAt : Time) :
      addTakeProfitIntent p orderLinkId price updatedAt = .ok p' → Rearranges p p'
  | confirmTakeProfit (orderId : String) (updatedAt : Time) :
      confirmTakeProfit p orderId updatedAt = .ok p' → Rearranges p p'
  | reconciling (updatedAt : Time) :
      markProtectionReconciling p updatedAt = .ok p' → Rearranges p p'
  | reconciled (updatedAt : Time) :
      confirmExitReconciliation p updatedAt = .ok p' → Rearranges p p'

/-- A protection of this entry, and its fills. -/
inductive ProtectionLife (entry : EntryExecutionSnapshot) :
    ProtectionSnapshot → List ExitFill → Prop
  | stopIntent {p : ProtectionSnapshot} (stopOrderLinkId : String) (stopTriggerPrice : ℚ)
      (persistedAt : Time) :
      ProtectionSnapshot.forStopIntent entry stopOrderLinkId stopTriggerPrice persistedAt = .ok p →
      ProtectionLife entry p []
  | rearranged {p p' : ProtectionSnapshot} {fills : List ExitFill} :
      ProtectionLife entry p fills → Rearranges p p' → ProtectionLife entry p' fills
  | fill {p p' : ProtectionSnapshot} {fills : List ExitFill} (fill : ExitFill) :
      ProtectionLife entry p fills → fill.apply p = .ok p' →
      ProtectionLife entry p' (fills ++ [fill])

/-- What a rearrangement leaves alone. -/
structure SameBooks (p p' : ProtectionSnapshot) : Prop where
  entryQuantity : p'.entryQuantity = p.entryQuantity
  averageEntryPrice : p'.averageEntryPrice = p.averageEntryPrice
  entryFees : p'.entryFees = p.entryFees
  tpFilled : p'.tpFilledQuantity = p.tpFilledQuantity
  stopFilled : p'.stopFilledQuantity = p.stopFilledQuantity
  notional : p'.exitNotional = p.exitNotional
  fees : p'.exitFees = p.exitFees
  debt : p'.confirmedRecoveryDebt = p.confirmedRecoveryDebt

theorem Rearranges.sameBooks {p p' : ProtectionSnapshot} (h : Rearranges p p') :
    SameBooks p p' := by
  cases h with
  | confirmStop orderId updatedAt h =>
    rw [CreditHedge.confirmStop, ProtectionSnapshot.create_eq_ok] at h
    constructor <;> rw [h]
  | replaceStop orderLinkId triggerPrice updatedAt h =>
    simp only [replaceStopIntent, bind_unit_eq_ok, ProtectionSnapshot.create_eq_ok] at h
    constructor <;> rw [h.2.2]
  | takeProfitIntent orderLinkId price updatedAt h =>
    simp only [addTakeProfitIntent, bind_unit_eq_ok, ProtectionSnapshot.create_eq_ok] at h
    constructor <;> rw [h.2.2]
  | confirmTakeProfit orderId updatedAt h =>
    simp only [CreditHedge.confirmTakeProfit, bind_unit_eq_ok, ProtectionSnapshot.create_eq_ok] at h
    constructor <;> rw [h.2]
  | reconciling updatedAt h =>
    unfold markProtectionReconciling at h
    split at h
    · obtain rfl := Except.ok.inj h
      constructor <;> rfl
    · rw [ProtectionSnapshot.create_eq_ok] at h
      constructor <;> rw [h]
  | reconciled updatedAt h =>
    unfold confirmExitReconciliation at h
    split at h
    · rw [ProtectionSnapshot.create_eq_ok] at h
      constructor <;> rw [h]
    · exact absurd h (by simp)

/-- The exit fees are the fees of the fills. -/
theorem ProtectionLife.exitFees {entry : EntryExecutionSnapshot} {p : ProtectionSnapshot}
    {fills : List ExitFill} (h : ProtectionLife entry p fills) :
    p.exitFees = (fills.map ExitFill.fee).sum := by
  induction h with
  | stopIntent stopOrderLinkId stopTriggerPrice persistedAt h =>
    exact (FreshlyBuilt.stopIntent _ _ _ h).unfilled.fees
  | rearranged _ h ih => rw [h.sameBooks.fees, ih]
  | fill fill _ h ih =>
    rw [(books_step h).fees, ih, List.map_append, List.sum_append]

/-! ## What can be protected and booked -/

/-- An entry that is active has been filled at a price. -/
theorem averageEntryPrice_of_active {entry : EntryExecutionSnapshot}
    (hactive : entry.state = .activeUnprotected) :
    0 < entry.filledQuantity ∧ ∃ price, entry.averageEntryPrice = some price ∧ 0 < price := by
  have h := entry.checked
  simp only [EntryFields.check, bind_unit_eq_ok, refuseIf_eq_ok, not_and, not_le] at h
  have hfilled : 0 < entry.filledQuantity := h.2.2.2.2.2.2.2.2.2.2.1 hactive
  have hprice : entry.averageEntryPrice = some (entry.entryNotional / entry.filledQuantity) :=
    if_neg hfilled.ne'
  exact ⟨hfilled, _, hprice, (entry.averageEntryPrice_pos hprice).1⟩

/-- The record of a stop intent. -/
def stopIntentFields (entry : EntryExecutionSnapshot) (averagePrice : ℚ)
    (stopOrderLinkId : String) (stopTriggerPrice : ℚ) (persistedAt : Time) : ProtectionFields where
  entryOrderLinkId := entry.orderLinkId
  state := .activeUnprotected
  entryQuantity := entry.filledQuantity
  openQuantity := entry.filledQuantity
  averageEntryPrice := averagePrice
  entryFees := entry.entryFees
  stopOrderLinkId
  stopOrderId := none
  stopTriggerPrice
  tpOrderLinkId := none
  tpOrderId := none
  tpPrice := none
  tpFilledQuantity := 0
  stopFilledQuantity := 0
  exitNotional := 0
  exitFees := 0
  confirmedRecoveryDebt := 0
  pendingTerminalState := none
  version := 1
  updatedAt := persistedAt

/-- **Which active entries can be protected.** -/
theorem forStopIntent_ok_iff {entry : EntryExecutionSnapshot}
    (hactive : entry.state = .activeUnprotected) {stopOrderLinkId : String}
    (hstop : HasRole stopOrderLinkId .hedgeStop) {stopTriggerPrice : ℚ}
    (htrigger : 0 < stopTriggerPrice) (persistedAt : Time) :
    (∃ p, ProtectionSnapshot.forStopIntent entry stopOrderLinkId stopTriggerPrice persistedAt =
        .ok p) ↔ HasRole entry.orderLinkId .hedgeEntry ∧ 0 ≤ entry.entryFees := by
  obtain ⟨hfilled, price, hprice, hpositive⟩ := averageEntryPrice_of_active hactive
  have hintent : ∀ p,
      ProtectionSnapshot.forStopIntent entry stopOrderLinkId stopTriggerPrice persistedAt = .ok p ↔
        ProtectionSnapshot.create
          (stopIntentFields entry price stopOrderLinkId stopTriggerPrice persistedAt) = .ok p := by
    intro p
    unfold ProtectionSnapshot.forStopIntent
    rw [bind_unit_eq_ok, refuseIf_eq_ok, hprice]
    dsimp only
    rw [bind_unit_eq_ok, refuseIf_eq_ok]
    exact ⟨fun h => h.2.2, fun h => ⟨not_not.mpr hactive, not_le.mpr hfilled, h⟩⟩
  simp only [hintent]
  rw [ProtectionSnapshot.exists_create_iff]
  constructor
  · exact fun h => ⟨h.entryRole, h.entryFees_nonneg⟩
  · rintro ⟨hrole, hfees⟩
    exact
      { entryRole := hrole, stopRole := hstop, tpRole := by simp [stopIntentFields]
        state_mem := show LiveExecutionState.activeUnprotected ∈ protectionStates by decide
        entryQuantity_pos := hfilled, averageEntryPrice_pos := hpositive
        openQuantity_nonneg := hfilled.le, openQuantity_le := le_rfl
        entryFees_nonneg := hfees, tpFilled_nonneg := le_rfl, stopFilled_nonneg := le_rfl
        exitNotional_nonneg := le_rfl, exitFees_nonneg := le_rfl, debt_nonneg := le_rfl
        balanced := by simp [stopIntentFields, ProtectionFields.closedQuantity]
        unfilled := fun _ => rfl
        filled := by simp [stopIntentFields, ProtectionFields.closedQuantity]
        stopTriggerPrice_pos := htrigger
        stopOrderId_text := by simp [stopIntentFields]
        tpOrderId_text := by simp [stopIntentFields]
        tp_absent := fun _ => ⟨rfl, rfl⟩
        tp_present := fun h => absurd rfl h
        protected_stop := by simp [stopIntentFields]
        pending_mem := by simp [stopIntentFields]
        cancelPending := by simp [stopIntentFields]
        closed := by simp [stopIntentFields]
        version_pos := Nat.one_pos }

/-- The fill is one of this protection, and what it closes is still open. -/
def ClosesWithin (p : ProtectionSnapshot) : ExitFill → Prop
  | .exit execution _ => BelongsTo p execution ∧ execution.quantity ≤ p.openQuantity
  | .emergency execution _ allocated =>
    ClosesFor p execution ∧ (execution.symbol = "ETHUSDT" ∧ execution.side = .buy) ∧
      (0 < allocated.getD execution.quantity ∧
        allocated.getD execution.quantity ≤ execution.quantity) ∧
      allocated.getD execution.quantity ≤ p.openQuantity

/-- **Which fills can be booked.** -/
theorem apply_ok_iff {p : ProtectionSnapshot} {fill : ExitFill} (hwithin : ClosesWithin p fill) :
    (∃ p', fill.apply p = .ok p') ↔ 0 ≤ p.exitFees + fill.fee := by
  cases fill with
  | exit execution updatedAt =>
    constructor
    · rintro ⟨p', happly⟩
      exact (applyExitExecution_eq_ok_iff.mp happly).2.2.1
    · intro hfees
      obtain ⟨p', happly, -⟩ := applyExitExecution_ok updatedAt hwithin.1 hwithin.2 hfees
      exact ⟨p', happly⟩
  | emergency execution updatedAt allocated =>
    obtain ⟨hcloses, hbuys, hquantity, hopen⟩ := hwithin
    have hsome : ∀ p',
        (ExitFill.emergency execution updatedAt allocated).apply p = .ok p' ↔
          applyEmergencyExitExecution p execution updatedAt
            (some (allocated.getD execution.quantity)) = .ok p' := fun _ => Iff.rfl
    simp only [hsome, applyEmergencyExitExecution_eq_ok_iff]
    constructor
    · rintro ⟨p', -, -, -, -, hfees, -⟩
      exact hfees
    · intro hfees
      obtain ⟨p', hmade⟩ := ProtectionSnapshot.exists_create_iff.mpr
        ((emergencyFields_valid_iff updatedAt hquantity.1 hopen).mpr hfees)
      exact ⟨p', hcloses, hbuys, hquantity, hopen, hfees, ProtectionSnapshot.create_eq_ok.mp hmade⟩

/-- **An active entry can be protected exactly if it is a hedge entry and its fees do not add up to
    a rebate; a fill can be booked exactly if the fees of the exits, up to and with it, do not.** -/
theorem bookable_iff {request : PlaceOrderRequest} {entry : EntryExecutionSnapshot}
    {executions : List ExecutionUpdate} (hentry : EntryLife request entry executions)
    (hactive : entry.state = .activeUnprotected) :
    (∀ stopOrderLinkId stopTriggerPrice persistedAt, HasRole stopOrderLinkId .hedgeStop →
      0 < stopTriggerPrice →
        ((∃ p, ProtectionSnapshot.forStopIntent entry stopOrderLinkId stopTriggerPrice
            persistedAt = .ok p) ↔
          HasRole request.orderLinkId .hedgeEntry ∧ 0 ≤ (executions.map fun e => e.fee).sum)) ∧
      ∀ p fills fill, ProtectionLife entry p fills → ClosesWithin p fill →
        ((∃ p', fill.apply p = .ok p') ↔ 0 ≤ ((fills ++ [fill]).map ExitFill.fee).sum) := by
  obtain ⟨hlinkId, hfees⟩ := hentry.totals
  constructor
  · intro stopOrderLinkId stopTriggerPrice persistedAt hstop htrigger
    rw [← hlinkId, ← hfees]
    exact forStopIntent_ok_iff hactive hstop htrigger persistedAt
  · intro p fills fill hlife hwithin
    rw [List.map_append, List.sum_append, List.map_singleton, List.sum_singleton, ← hlife.exitFees]
    exact apply_ok_iff hwithin

/-! One unit sold in one fill. -/

def saleRequest : PlaceOrderRequest :=
  ⟨{ category := .linear
     symbol := "ETHUSDT"
     side := .sell
     orderType := .market
     quantity := 1
     orderLinkId := "ECH-A-C0001-L01-ENTRY-A01-0000" }, by decide +kernel⟩

def saleFields (fee : ℚ) : ExecutionFields where
  executionId := "sale"
  orderId := "entry-order"
  orderLinkId := "ECH-A-C0001-L01-ENTRY-A01-0000"
  symbol := "ETHUSDT"
  side := .sell
  price := 2000
  quantity := 1
  fee
  isMaker := some false
  executedAt := 0

/-- The entry after a sale. -/
def sold (sale : ExecutionUpdate) : Except Failure EntryExecutionSnapshot := do
  let intended ← EntryExecutionSnapshot.forIntent saleRequest 0
  applyEntryExecution intended sale 0

theorem entryLife_sold {sale : ExecutionUpdate} {entry : EntryExecutionSnapshot}
    (h : sold sale = .ok entry) : EntryLife saleRequest entry [sale] := by
  simp only [sold, bind_eq_ok] at h
  obtain ⟨intended, hintended, hfilled⟩ := h
  exact .fill sale 0 (.intent 0 hintended) hfilled

/-- The entry of a sale for a tenth. -/
def soldForTenth : EntryExecutionSnapshot :=
  ⟨{ soldUnit with
     version := 2 }, by decide +kernel⟩

theorem bookable_iff_sold :
    ∃ p, ProtectionSnapshot.forStopIntent soldForTenth "ECH-A-C0001-L01-STOP-A01-0000" 2010 0 =
      .ok p := by
  have hsold : sold ⟨saleFields (1 / 10), by decide +kernel⟩ = .ok soldForTenth := by
    decide +kernel
  obtain ⟨hprotect, -⟩ := bookable_iff (entryLife_sold hsold) rfl
  refine (hprotect "ECH-A-C0001-L01-STOP-A01-0000" 2010 0 ?_ ?_).mpr ?_ <;> decide +kernel

/-- A sale with a rebate of a tenth. -/
def soldForRebate : EntryExecutionSnapshot :=
  ⟨{ soldUnit with
     entryFees := -1 / 10
     version := 2 }, by decide +kernel⟩

/-- A rebate on the entry leaves a position without a stop. -/
theorem rebate_unprotectable :
    EntryLife saleRequest soldForRebate [⟨saleFields (-1 / 10), by decide +kernel⟩] ∧
      soldForRebate.state = .activeUnprotected ∧
      HasRole "ECH-A-C0001-L01-STOP-A01-0000" .hedgeStop ∧
      ProtectionSnapshot.forStopIntent soldForRebate "ECH-A-C0001-L01-STOP-A01-0000" 2010 0 =
        .error (.valueError "entry fees cannot be negative") := by
  have hsold : sold ⟨saleFields (-1 / 10), by decide +kernel⟩ = .ok soldForRebate := by
    decide +kernel
  exact ⟨entryLife_sold hsold, rfl, by decide +kernel, by decide +kernel⟩

end CreditHedge
