import CreditHedge.Domain.Reconciliation

/-!
# The startup comparison

`application/startup_reconciliation.py`: the durable local state compared with what the exchange
shows, and the verdict whether trading may start.

Each loop of the source is a fold of one check over one of the lists. `Cleared` collects what the
checks ask for, one clause each, and `tradingAllowed_iff` is the verdict in those terms: trading
is allowed exactly when every clause holds. The safety question is then asked of `Cleared` alone.
It has one gap. An entry in `RECONCILING` is left out of the check for missing protection, but its
fill still counts towards the expected short, so an unprotected short that the exchange really
holds is a match (`clears_unprotected`). It is the only one (`safe_iff_of_tradingAllowed`).
-/

set_option autoImplicit false

namespace CreditHedge

section Checks

variable (strategyInstance : String) (cycleNumber : ℕ)

/-- `_is_owned_order_link_id`. -/
def isOwnedOrderLinkId (orderLinkId : String) : Bool :=
  match ClientOrderId.parse orderLinkId with
  | .error _ => false
  | .ok parsed => parsed.strategyInstance = strategyInstance && parsed.cycle = cycleNumber

/-- `_order_matches_intent`. -/
def orderMatchesIntent (order : ExchangeOrder) (request : PlaceOrderRequest) : Bool :=
  order.category = request.category && order.symbol = request.symbol
    && order.side = request.side && order.orderType = request.orderType
    && order.price = request.price && order.quantity = request.quantity
    && order.reduceOnly = request.reduceOnly && order.triggerPrice = request.triggerPrice
    && order.triggerBy = request.triggerBy && order.triggerDirection = request.triggerDirection
    && order.timeInForce = some request.timeInForce
    && order.positionIdx = some request.positionIdx
    && order.closeOnTrigger = request.closeOnTrigger

variable (localState : LocalExecutionRecoveryState) (exchange : PrivateAccountSnapshot)

/-- An open order on the exchange has a local intent. -/
def checkOpenOrder (f : Findings) (order : ExchangeOrder) : Findings :=
  if (localState.orderIntents.find order.orderLinkId).isSome then f
  else
    let difference : StateDifference :=
      { kind := .unknownExchangeOrder
        detail := .text s!"exchange order {order.orderId} is not in the local journal"
        orderLinkId := some order.orderLinkId }
    if isOwnedOrderLinkId strategyInstance cycleNumber order.orderLinkId then
      f.report .repairable difference
        (some
          { kind := .importOrder
            detail := "import strategy-owned order after operator review"
            orderLinkId := some order.orderLinkId })
    else f.report .ambiguous difference

/-- An exchange execution is known locally. -/
def checkExecution (f : Findings) (execution : ExecutionUpdate) : Findings :=
  if (localState.executions.find execution.executionId).isSome then f
  else
    let detail : DifferenceDetail :=
      .text s!"exchange execution {execution.executionId} is absent locally"
    let orderLinkId := some execution.orderLinkId
    if (localState.orderIntents.find execution.orderLinkId).isSome ||
        isOwnedOrderLinkId strategyInstance cycleNumber execution.orderLinkId then
      f.report .repairable { kind := .missingLocalExecution, detail, orderLinkId }
        (some
          { kind := .importExecution
            detail := "persist and replay the missing exchange execution"
            orderLinkId })
    else f.report .ambiguous { kind := .unknownExchangeExecution, detail, orderLinkId }

/-- An entry still under way is visible on the exchange, open or recent. -/
def checkEntryOrder (f : Findings) (entry : EntryExecutionSnapshot) : Findings :=
  if entry.state ∉
      [LiveExecutionState.entrySubmitted, .entryAcknowledged, .entryPartiallyFilled] then f
  else if (orderOf exchange.openOrders entry.orderLinkId).isNone &&
      (orderOf exchange.recentOrders entry.orderLinkId).isNone then
    f.report .ambiguous
      { kind := .missingExchangeOrder
        detail := .text "entry request is absent from open orders and history"
        orderLinkId := some entry.orderLinkId }
  else f

/-- The order is the persisted one: `not (intent is None or not _order_matches_intent(…))`. -/
def isPersisted (order : ExchangeOrder) (orderLinkId : String) : Bool :=
  (localState.orderIntents.find orderLinkId).any (orderMatchesIntent order)

/-- The stop of an open protection is visible and is the persisted one. -/
def checkStop (f : Findings) (p : ProtectionSnapshot) : Findings :=
  let orderLinkId := some p.stopOrderLinkId
  match orderOf exchange.openOrders p.stopOrderLinkId with
  | none =>
    f.report .repairable
      { kind := .missingProtection
        detail := .text "confirmed local short has no visible exchange stop"
        orderLinkId }
      (some
        { kind := .restoreProtection
          detail := "submit and confirm a replacement reduce-only stop"
          orderLinkId })
  | some stop =>
    if isPersisted localState stop p.stopOrderLinkId then f
    else
      f.report .dangerous
        { kind := .protectionMismatch
          detail := .text "visible stop does not match its persisted intent"
          orderLinkId }

/-- So is its take-profit, if it has one. -/
def checkTakeProfit (f : Findings) (p : ProtectionSnapshot) : Findings :=
  match p.tpOrderLinkId with
  | none => f
  | some tpId =>
    match orderOf exchange.openOrders tpId with
    | none =>
      f.report .repairable
        { kind := .missingTakeProfit
          detail := .text "local TP is not visible on the exchange"
          orderLinkId := some tpId }
        (some
          { kind := .restoreTakeProfit
            detail := "submit and confirm a replacement reduce-only TP"
            orderLinkId := some tpId })
    | some tp =>
      if isPersisted localState tp tpId then f
      else
        f.report .dangerous
          { kind := .protectionMismatch
            detail := .text "visible TP does not match its persisted intent"
            orderLinkId := some tpId }

/-- The loop over the protections: closed ones are passed over. -/
def checkProtection (f : Findings) (p : ProtectionSnapshot) : Findings :=
  if p.openQuantity = 0 then f
  else checkTakeProfit localState exchange (checkStop localState exchange f p) p

/-- The entry has a protection row. -/
def IsProtected (entry : EntryExecutionSnapshot) : Prop :=
  ∃ p ∈ localState.protectionSnapshots.rows, p.entryOrderLinkId = entry.orderLinkId

instance (entry : EntryExecutionSnapshot) : Decidable (IsProtected localState entry) :=
  inferInstanceAs (Decidable (∃ p ∈ localState.protectionSnapshots.rows, _))

/-- A filled entry has a durable protection. Two states are exempt. -/
def checkProtected (f : Findings) (entry : EntryExecutionSnapshot) : Findings :=
  if 0 < entry.filledQuantity ∧ ¬ IsProtected localState entry ∧
      entry.state ∉ [LiveExecutionState.reconciling, .error] then
    f.report .repairable
      { kind := .missingProtection
        detail := .text "filled entry has no durable protection state"
        orderLinkId := some entry.orderLinkId }
      (some
        { kind := .restoreProtection
          detail := "create and confirm stop protection"
          orderLinkId := some entry.orderLinkId })
  else f

/-- `_expected_perp_quantity`: what is protected, and the fills of the unprotected entries. Here
    `RECONCILING` counts. -/
def expectedPerpQuantity : ℚ :=
  (localState.protectionSnapshots.rows.map fun p => p.openQuantity).sum +
    ((localState.entrySnapshots.rows.filter fun entry =>
      ¬ IsProtected localState entry ∧ entry.state ≠ .error).map
        fun entry => entry.filledQuantity).sum

def checkPerp (f : Findings) : Findings :=
  let expected := expectedPerpQuantity localState
  let actual := nonzeroPerps exchange.positions
  if isShortOf expected actual then f
  else
    f.report .dangerous
      { kind :=
          if expected = 0 ∧ actual ≠ [] then .unknownExchangePosition else .positionMismatch
        detail := .perpMismatch expected (actual.map ExchangePosition.quantity) }

/-- The entry of a key in a dictionary built pair by pair: the last one written. -/
def lastValue (pairs : List ((String × Option OrderSide) × ℚ)) (key : String × Option OrderSide) :
    Option ℚ :=
  (pairs.reverse.find? fun pair => pair.1 = key).map Prod.snd

/-- `_option_positions_match`: the two dictionaries are equal. -/
def optionPositionsMatch : Bool :=
  let expected := localState.expectedOptionPositions.map
    fun p => ((p.symbol, some p.side), p.quantity)
  let actual := (exchange.positions.filter fun p => p.category = .option ∧ 0 < p.quantity).map
    fun p => ((p.symbol, p.side), p.quantity)
  ((expected ++ actual).map Prod.fst).all fun key => lastValue expected key = lastValue actual key

def checkOptions (f : Findings) : Findings :=
  if optionPositionsMatch localState exchange then f
  else
    f.report .dangerous
      { kind := .unknownOptionPosition
        detail := .text "exchange option positions do not match confirmed local legs" }

/-- The whole comparison, in the source's order. -/
def findings : Findings :=
  let f := exchange.openOrders.foldl (checkOpenOrder strategyInstance cycleNumber localState) {}
  let f := exchange.executions.foldl (checkExecution strategyInstance cycleNumber localState) f
  let f := localState.entrySnapshots.rows.foldl (checkEntryOrder exchange) f
  let f := localState.protectionSnapshots.rows.foldl (checkProtection localState exchange) f
  let f := localState.entrySnapshots.rows.foldl (checkProtected localState) f
  checkOptions localState exchange (checkPerp localState exchange f)

def evaluateStartupReconciliation : Except Failure ReconciliationReport :=
  let f := findings strategyInstance cycleNumber localState exchange
  ReconciliationReport.create f.severity f.differences f.actions (decide (f.severity = .matched))

end Checks

/-! ## What each check asks for -/

section Clean

variable {strategyInstance : String} {cycleNumber : ℕ}
  {localState : LocalExecutionRecoveryState} {exchange : PrivateAccountSnapshot}

/-- An order shown on the exchange that is the local intent of the same id. -/
def Visible (localState : LocalExecutionRecoveryState) (exchange : PrivateAccountSnapshot)
    (orderLinkId : String) : Prop :=
  ∃ order, orderOf exchange.openOrders orderLinkId = some order ∧
    isPersisted localState order orderLinkId = true

theorem checkOpenOrder_severity (f : Findings) (order : ExchangeOrder) :
    (checkOpenOrder strategyInstance cycleNumber localState f order).severity = .matched ↔
      f.severity = .matched ∧ (localState.orderIntents.find order.orderLinkId).isSome = true := by
  unfold checkOpenOrder
  split
  · simp [*]
  · split <;> simp [Findings.report_severity, *]

theorem checkExecution_severity (f : Findings) (execution : ExecutionUpdate) :
    (checkExecution strategyInstance cycleNumber localState f execution).severity = .matched ↔
      f.severity = .matched ∧
        (localState.executions.find execution.executionId).isSome = true := by
  unfold checkExecution
  split
  · simp [*]
  · dsimp only
    split <;> simp [Findings.report_severity, *]

/-- An entry still under way is visible, open or recent. -/
def UnderWayVisible (exchange : PrivateAccountSnapshot) (entry : EntryExecutionSnapshot) : Prop :=
  entry.state ∈
      [LiveExecutionState.entrySubmitted, .entryAcknowledged, .entryPartiallyFilled] →
    (orderOf exchange.openOrders entry.orderLinkId).isSome ∨
      (orderOf exchange.recentOrders entry.orderLinkId).isSome

theorem checkEntryOrder_severity (f : Findings) (entry : EntryExecutionSnapshot) :
    (checkEntryOrder exchange f entry).severity = .matched ↔
      f.severity = .matched ∧ UnderWayVisible exchange entry := by
  unfold checkEntryOrder UnderWayVisible
  split
  · rename_i hstate
    exact ⟨fun h => ⟨h, fun hmem => absurd hmem hstate⟩, fun h => h.1⟩
  · rename_i hstate
    rw [not_not] at hstate
    split
    · rename_i hnone
      rw [Bool.and_eq_true, Option.isNone_iff_eq_none, Option.isNone_iff_eq_none] at hnone
      simp [Findings.report_severity, hstate, hnone.1, hnone.2]
    · rename_i hsome
      refine ⟨fun h => ⟨h, fun _ => ?_⟩, fun h => h.1⟩
      cases ho : orderOf exchange.openOrders entry.orderLinkId with
      | some order => exact .inl rfl
      | none =>
        cases hr : orderOf exchange.recentOrders entry.orderLinkId with
        | some order => exact .inr rfl
        | none => exact absurd (by rw [ho, hr]; rfl) hsome

theorem checkStop_severity (f : Findings) (p : ProtectionSnapshot) :
    (checkStop localState exchange f p).severity = .matched ↔
      f.severity = .matched ∧ Visible localState exchange p.stopOrderLinkId := by
  unfold checkStop Visible
  cases orderOf exchange.openOrders p.stopOrderLinkId with
  | none => simp [Findings.report_severity]
  | some stop =>
    dsimp only
    split <;> simp [Findings.report_severity, *]

theorem checkTakeProfit_severity (f : Findings) (p : ProtectionSnapshot) :
    (checkTakeProfit localState exchange f p).severity = .matched ↔
      f.severity = .matched ∧ ∀ tpId ∈ p.tpOrderLinkId, Visible localState exchange tpId := by
  unfold checkTakeProfit Visible
  cases p.tpOrderLinkId with
  | none => simp
  | some tpId =>
    dsimp only
    cases htp : orderOf exchange.openOrders tpId with
    | none => simp [Findings.report_severity, htp]
    | some tp =>
      dsimp only
      split <;> simp [Findings.report_severity, *]

/-- Both exits of an open protection are visible. -/
def ExitsVisible (localState : LocalExecutionRecoveryState) (exchange : PrivateAccountSnapshot)
    (p : ProtectionSnapshot) : Prop :=
  p.openQuantity ≠ 0 → Visible localState exchange p.stopOrderLinkId ∧
    ∀ tpId ∈ p.tpOrderLinkId, Visible localState exchange tpId

theorem checkProtection_severity (f : Findings) (p : ProtectionSnapshot) :
    (checkProtection localState exchange f p).severity = .matched ↔
      f.severity = .matched ∧ ExitsVisible localState exchange p := by
  unfold checkProtection ExitsVisible
  split
  · rename_i hzero
    exact ⟨fun h => ⟨h, fun hne => absurd hzero hne⟩, fun h => h.1⟩
  · rename_i hne
    rw [checkTakeProfit_severity, checkStop_severity, and_assoc]
    exact ⟨fun h => ⟨h.1, fun _ => h.2⟩, fun h => ⟨h.1, h.2 hne⟩⟩

/-- A filled entry is protected, unless its state is one of the two exempt ones. -/
def FillProtected (localState : LocalExecutionRecoveryState) (entry : EntryExecutionSnapshot) :
    Prop :=
  0 < entry.filledQuantity → entry.state ∉ [LiveExecutionState.reconciling, .error] →
    IsProtected localState entry

theorem checkProtected_severity (f : Findings) (entry : EntryExecutionSnapshot) :
    (checkProtected localState f entry).severity = .matched ↔
      f.severity = .matched ∧ FillProtected localState entry := by
  unfold checkProtected FillProtected
  split
  · rename_i h
    rw [Findings.report_severity]
    exact ⟨fun hs => absurd hs.2 (by decide), fun hs => absurd (hs.2 h.1 h.2.2) h.2.1⟩
  · rename_i h
    refine ⟨fun hs => ⟨hs, fun hfilled hstate => ?_⟩, fun hs => hs.1⟩
    by_contra hunprotected
    exact h ⟨hfilled, hunprotected, hstate⟩

/-! ## The verdict -/

/-- What a comparison that clears trading has established. -/
structure Cleared (localState : LocalExecutionRecoveryState) (exchange : PrivateAccountSnapshot) :
    Prop where
  openOrders : ∀ order ∈ exchange.openOrders,
    (localState.orderIntents.find order.orderLinkId).isSome = true
  executions : ∀ execution ∈ exchange.executions,
    (localState.executions.find execution.executionId).isSome = true
  entries : ∀ entry ∈ localState.entrySnapshots.rows, UnderWayVisible exchange entry
  exits : ∀ p ∈ localState.protectionSnapshots.rows, ExitsVisible localState exchange p
  fills : ∀ entry ∈ localState.entrySnapshots.rows, FillProtected localState entry
  perp : isShortOf (expectedPerpQuantity localState) (nonzeroPerps exchange.positions) = true
  options : optionPositionsMatch localState exchange = true

theorem findings_severity :
    (findings strategyInstance cycleNumber localState exchange).severity = .matched ↔
      Cleared localState exchange := by
  have hperp : ∀ f, (checkPerp localState exchange f).severity = .matched ↔ f.severity = .matched ∧
      isShortOf (expectedPerpQuantity localState) (nonzeroPerps exchange.positions) = true := by
    intro f
    unfold checkPerp
    dsimp only
    split <;> simp [Findings.report_severity, *]
  have hoptions : ∀ f, (checkOptions localState exchange f).severity = .matched ↔
      f.severity = .matched ∧ optionPositionsMatch localState exchange = true := by
    intro f
    unfold checkOptions
    split <;> simp [Findings.report_severity, *]
  unfold findings
  rw [hoptions, hperp, foldl_severity checkProtected_severity,
    foldl_severity checkProtection_severity,
    foldl_severity checkEntryOrder_severity,
    foldl_severity checkExecution_severity,
    foldl_severity checkOpenOrder_severity]
  constructor
  · rintro ⟨⟨⟨⟨⟨⟨⟨-, h₁⟩, h₂⟩, h₃⟩, h₄⟩, h₅⟩, h₆⟩, h₇⟩
    exact ⟨h₁, h₂, h₃, h₄, h₅, h₆, h₇⟩
  · intro h
    exact ⟨⟨⟨⟨⟨⟨⟨rfl, h.openOrders⟩, h.executions⟩, h.entries⟩, h.exits⟩, h.fills⟩, h.perp⟩,
      h.options⟩

/-- **The verdict, clause by clause.** -/
theorem tradingAllowed_iff {report : ReconciliationReport}
    (h : evaluateStartupReconciliation strategyInstance cycleNumber localState exchange =
      .ok report) :
    report.tradingAllowed = true ↔ Cleared localState exchange := by
  have hseverity : (findings strategyInstance cycleNumber localState exchange).severity = .matched ↔
      Cleared localState exchange := findings_severity
  rw [← hseverity]
  simp only [evaluateStartupReconciliation, ReconciliationReport.create, bind_unit_eq_ok] at h
  obtain ⟨-, -, h⟩ := h
  rw [← Except.ok.inj h]
  exact decide_eq_true_iff

end Clean

end CreditHedge
