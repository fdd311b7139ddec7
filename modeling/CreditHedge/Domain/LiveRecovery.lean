import CreditHedge.Core.VirtualLevels
import CreditHedge.Domain.Risk
import Mathlib.Tactic.Linarith

/-!
# Recovery debt

`domain/live_recovery.py`: the confirmed debt of one level and where it is, allocated to an open
recovery hedge or remaining, and the plan of the hedge that is to earn it back.

The constructor's checks are the fields of `RecoveryDebtState`. Each reducer is written so that
the record it returns satisfies them, which is the proof that the source's `replace` never raises
there; what a reducer itself refuses is its `Except`.
-/

set_option autoImplicit false

namespace CreditHedge

structure RecoveryDebtState where
  projectedDebt : ℚ
  confirmedDebt : ℚ
  allocatedDebt : ℚ
  remainingDebt : ℚ
  projectedDebt_nonneg : 0 ≤ projectedDebt
  confirmedDebt_nonneg : 0 ≤ confirmedDebt
  allocatedDebt_nonneg : 0 ≤ allocatedDebt
  remainingDebt_nonneg : 0 ≤ remainingDebt
  balanced : confirmedDebt = allocatedDebt + remainingDebt
  deriving DecidableEq

structure RecoveryDebtSnapshot where
  levelId : ℕ
  debt : RecoveryDebtState
  version : ℕ
  updatedAt : Time
  levelId_pos : 0 < levelId
  version_pos : 0 < version
  deriving DecidableEq

/-- `RecoveryDebtState.empty`. -/
def RecoveryDebtState.empty (projectedDebt : ℚ) : Except Failure RecoveryDebtState :=
  if h : projectedDebt < 0 then .error (.valueError "projected debt cannot be negative")
  else
    .ok
      { projectedDebt
        confirmedDebt := 0
        allocatedDebt := 0
        remainingDebt := 0
        projectedDebt_nonneg := nonneg_of_not_neg h
        confirmedDebt_nonneg := zero_nonneg
        allocatedDebt_nonneg := zero_nonneg
        remainingDebt_nonneg := zero_nonneg
        balanced := (add_zero 0).symm }

/-- `replace(state, projected_debt=…)`. -/
def RecoveryDebtState.withProjectedDebt (state : RecoveryDebtState) (projectedDebt : ℚ) :
    Except Failure RecoveryDebtState :=
  if h : projectedDebt < 0 then .error (.valueError "projected debt cannot be negative")
  else .ok { state with projectedDebt, projectedDebt_nonneg := nonneg_of_not_neg h }

/-- `add_confirmed_stop_debt`. -/
def addConfirmedStopDebt (state : RecoveryDebtState) (actualStopDebt : ℚ) :
    Except Failure RecoveryDebtState :=
  if h : actualStopDebt < 0 then .error (.valueError "actual stop debt cannot be negative")
  else
    .ok
      { state with
        confirmedDebt := state.confirmedDebt + actualStopDebt
        remainingDebt := state.remainingDebt + actualStopDebt
        confirmedDebt_nonneg := add_nonneg state.confirmedDebt_nonneg (not_lt.mp h)
        remainingDebt_nonneg := add_nonneg state.remainingDebt_nonneg (not_lt.mp h)
        balanced := by
          have := state.balanced
          linarith }

/-- `allocate_confirmed_debt`: all that remains goes to the hedge about to be opened. -/
def allocateConfirmedDebt (state : RecoveryDebtState) : Except Failure RecoveryDebtState :=
  if h : state.allocatedDebt ≠ 0 then
    .error (.valueError "recovery debt is already allocated to an active hedge")
  else
    .ok
      { state with
        allocatedDebt := state.remainingDebt
        remainingDebt := 0
        allocatedDebt_nonneg := state.remainingDebt_nonneg
        remainingDebt_nonneg := zero_nonneg
        balanced := by
          have := state.balanced
          rw [not_ne_iff.mp h] at this
          linarith }

/-- `release_allocated_debt`. -/
def releaseAllocatedDebt (state : RecoveryDebtState) : RecoveryDebtState :=
  if state.allocatedDebt = 0 then state
  else
    { state with
      allocatedDebt := 0
      remainingDebt := state.remainingDebt + state.allocatedDebt
      allocatedDebt_nonneg := zero_nonneg
      remainingDebt_nonneg := add_nonneg state.remainingDebt_nonneg state.allocatedDebt_nonneg
      balanced := by
        have := state.balanced
        linarith }

/-- `paid` in `settle_recovery_take_profit`: the profit above the zone's budget, up to what was
    allocated. -/
def paidDebt (state : RecoveryDebtState) (realizedTakeProfit zoneBudget : ℚ) : ℚ :=
  min (max (realizedTakeProfit - zoneBudget) 0) state.allocatedDebt

theorem paidDebt_le_allocated (state : RecoveryDebtState) (realizedTakeProfit zoneBudget : ℚ) :
    paidDebt state realizedTakeProfit zoneBudget ≤ state.allocatedDebt :=
  min_le_right _ _

/-- `settle_recovery_take_profit`: what the allocation did not earn remains. -/
def settleRecoveryTakeProfit (state : RecoveryDebtState) (realizedTakeProfit zoneBudget : ℚ) :
    Except Failure RecoveryDebtState :=
  if state.allocatedDebt = 0 then
    .error (.valueError "recovery TP requires explicitly allocated debt")
  else if zoneBudget < 0 then .error (.valueError "zone budget cannot be negative")
  else
    let paid := paidDebt state realizedTakeProfit zoneBudget
    have hpaid : paid ≤ state.allocatedDebt := paidDebt_le_allocated ..
    have hremaining : 0 ≤ state.remainingDebt + (state.allocatedDebt - paid) :=
      add_nonneg state.remainingDebt_nonneg (sub_nonneg.mpr hpaid)
    have hbalanced : state.confirmedDebt - paid =
        0 + (state.remainingDebt + (state.allocatedDebt - paid)) := by
      have := state.balanced
      linarith
    .ok
      { state with
        confirmedDebt := state.confirmedDebt - paid
        allocatedDebt := 0
        remainingDebt := state.remainingDebt + (state.allocatedDebt - paid)
        confirmedDebt_nonneg := by rw [hbalanced, zero_add]; exact hremaining
        allocatedDebt_nonneg := zero_nonneg
        remainingDebt_nonneg := hremaining
        balanced := hbalanced }

/-- `RecoveryDebtSnapshot.__post_init__`, of a first version. -/
def RecoveryDebtSnapshot.first (levelId : ℕ) (debt : RecoveryDebtState) (updatedAt : Time) :
    Except Failure RecoveryDebtSnapshot :=
  if h : levelId = 0 then .error (.valueError "level ID must be positive")
  else
    .ok
      { levelId, debt
        version := 1
        updatedAt
        levelId_pos := Nat.pos_of_ne_zero h
        version_pos := Nat.one_pos }

theorem RecoveryDebtSnapshot.first_eq_ok {levelId : ℕ} {debt : RecoveryDebtState}
    {updatedAt : Time} {snapshot : RecoveryDebtSnapshot}
    (h : first levelId debt updatedAt = .ok snapshot) :
    snapshot.levelId = levelId ∧ snapshot.debt = debt := by
  unfold first at h
  split at h
  · exact absurd h (by simp)
  · obtain rfl := Except.ok.inj h
    exact ⟨rfl, rfl⟩

/-- `replace(snapshot, debt=…, version=snapshot.version + 1, updated_at=…)`. -/
def RecoveryDebtSnapshot.updated (snapshot : RecoveryDebtSnapshot) (debt : RecoveryDebtState)
    (updatedAt : Time) : RecoveryDebtSnapshot :=
  { snapshot with
    debt
    version := snapshot.version + 1
    updatedAt
    version_pos := Nat.succ_pos _ }

inductive LockedLevelAction where
  | closeOptionStrategy
  deriving DecidableEq, Repr

structure RecoveryEntryPlan where
  approved : Bool
  rawDesiredQuantity : ℚ
  entryPrice : ℚ
  quantity : Option ℚ
  expectedTakeProfit : ℚ
  allocatedDebt : ℚ
  reasons : List String
  lockedAction : Option LockedLevelAction
  deriving DecidableEq, Repr

/-! ## The planner -/

namespace SameLevelRecoveryPlanner

/-- `rounded_up`: the lot that covers the zone budget and the confirmed debt at the take-profit. -/
def plannedQuantity (instrument : InstrumentSpec) (level : HedgeLevel) (debt : RecoveryDebtState) :
    ℚ :=
  ceilToStep ((level.optionBudget + debt.confirmedDebt) / level.tpDistance)
    instrument.lotSizeFilter.qtyStep

/-- The risk gate is asked only about a plan that has no complaint against it yet. -/
def vetoes (errors : List String) (quantized : QuantizedRiskResult) (riskState : RiskState)
    (limits : RiskLimits) : Except Failure (List String) :=
  if errors = [] then do
    let proposal ← TradeProposal.create "ETHUSDT" .sell quantized.quantity quantized.entryPrice
      quantized.notional quantized.projectedStopLoss true
    pure (RiskEngine.evaluate proposal riskState limits).reasons
  else pure []

def plan (level : HedgeLevel) (debt : RecoveryDebtState) (instrument : InstrumentSpec)
    (riskState : RiskState) (limits : RiskLimits) : Except Failure RecoveryEntryPlan := do
  refuseIf (debt.allocatedDebt ≠ 0) "cannot plan while recovery debt is already allocated"
  refuseIf (riskState.confirmedRecoveryDebt < debt.confirmedDebt)
    "risk state underreports the level recovery debt"
  refuseIf (instrument.category ≠ .linear ∨ instrument.symbol ≠ "ETHUSDT")
    "recovery requires ETHUSDT linear"
  refuseIf (level.tpDistance ≤ 0) "recovery level requires positive TP distance"
  let validation := normalizeAndValidateOrder instrument .sell
    (plannedQuantity instrument level debt) (some level.entryPrice) false none .passive
  let quantized ← recalculateQuantizedRisk validation instrument .sell level.tpPrice
    level.stopPrice debt.confirmedDebt limits.maximumPerpNotional limits.maximumProjectedStopLoss
  let errors := quantized.errors ++
    reportIf (quantized.tpProfit < level.optionBudget + debt.confirmedDebt)
      "quantized TP profit does not cover zone budget and confirmed debt"
  let reasons := errors ++ (← vetoes errors quantized riskState limits)
  let approved := reasons.isEmpty
  pure
    { approved
      rawDesiredQuantity := (level.optionBudget + debt.confirmedDebt) / level.tpDistance
      entryPrice := quantized.entryPrice
      quantity := if approved then some quantized.quantity else none
      expectedTakeProfit := quantized.tpProfit
      allocatedDebt := if approved then debt.confirmedDebt else 0
      reasons
      lockedAction := if approved then none else some .closeOptionStrategy }

/-- The quantity of a plan is the lot it was planned at, and admitted as that of a limit order at
    the rounded entry price. -/
theorem admits_of_plan {level : HedgeLevel} {debt : RecoveryDebtState}
    {instrument : InstrumentSpec} {riskState : RiskState} {limits : RiskLimits}
    {result : RecoveryEntryPlan} (h : plan level debt instrument riskState limits = .ok result)
    {quantity : ℚ} (hquantity : result.quantity = some quantity) :
    quantity = plannedQuantity instrument level debt ∧
      instrument.Admits false quantity
        (quantizeLimitPrice level.entryPrice instrument.priceFilter.tickSize .sell .passive) := by
  simp only [plan, bind_unit_eq_ok, refuseIf_eq_ok] at h
  obtain ⟨-, -, -, -, h⟩ := h
  simp only [bind_eq_ok] at h
  obtain ⟨quantized, hquantized, vetoes, -, hresult⟩ := h
  obtain rfl := Except.ok.inj hresult
  obtain ⟨-, hq, herrors, -⟩ := recalculateQuantizedRisk_ok hquantized
  simp only [List.isEmpty_iff, List.append_eq_nil_iff, Option.ite_none_right_eq_some,
    Option.some.injEq] at hquantity
  obtain ⟨hnone, rfl⟩ := hquantity
  have hgrid : floorToStep (plannedQuantity instrument level debt)
      instrument.lotSizeFilter.qtyStep = plannedQuantity instrument level debt :=
    floorToStep_ceilToStep instrument.lotSizeFilter.qtyStep_pos _
  have hquantity : quantized.quantity = plannedQuantity instrument level debt := hq.trans hgrid
  refine ⟨hquantity, ?_⟩
  have hadmits := admits_of_accepted_limit (herrors hnone.1.1)
  rwa [hgrid, ← hquantity] at hadmits

end SameLevelRecoveryPlanner

/-- What an allocation leaves: nothing remaining, everything confirmed allocated. -/
theorem allocateConfirmedDebt_eq_ok {state allocated : RecoveryDebtState}
    (h : allocateConfirmedDebt state = .ok allocated) :
    allocated.allocatedDebt = state.confirmedDebt ∧ allocated.remainingDebt = 0 ∧
      allocated.confirmedDebt = state.confirmedDebt := by
  unfold allocateConfirmedDebt at h
  split at h
  · exact absurd h (by simp)
  · rename_i hzero
    obtain rfl := Except.ok.inj h
    have := state.balanced
    rw [not_ne_iff.mp hzero, zero_add] at this
    exact ⟨this.symm, rfl, rfl⟩

end CreditHedge
