import CreditHedge.Domain.LiveRecovery
import Mathlib.Tactic.NormNum

/-!
# What a recovery plan promises

`SameLevelRecoveryPlanner.plan` rounds four numbers in three functions: the quantity up to a lot,
the entry up to a tick, the take-profit down and the stop up. All four roundings are on the side
of the hedge, so the order as rounded still earns the zone budget and the debt, and the planner's
own check that it does never decides.

The exception is a requirement that is negative, which no generated level has: there the wider
take-profit makes a negative quantity worse, and the check complains. It never complains alone,
since such a quantity is below any minimum.
-/

set_option autoImplicit false

namespace CreditHedge

namespace SameLevelRecoveryPlanner

section Order

variable (level : HedgeLevel) (debt : RecoveryDebtState) (instrument : InstrumentSpec)
  (limits : RiskLimits)

/-- `required_profit`. -/
def requiredProfit : ℚ := level.optionBudget + debt.confirmedDebt

/-- The entry price as rounded. -/
def plannedEntry : ℚ :=
  quantizeLimitPrice level.entryPrice instrument.priceFilter.tickSize .sell .passive

/-- The take-profit as rounded: a buy that rests. -/
def plannedTakeProfit : ℚ :=
  quantizeLimitPrice level.tpPrice instrument.priceFilter.tickSize .buy .passive

/-- The stop as rounded: a buy that crosses. -/
def plannedStop : ℚ :=
  quantizeLimitPrice level.stopPrice instrument.priceFilter.tickSize .buy .aggressive

/-- The order as the instrument's rules see it. -/
def plannedOrder : OrderValidationResult :=
  normalizeAndValidateOrder instrument .sell (plannedQuantity instrument level debt)
    (some level.entryPrice) false none .passive

/-- What the planner asks of the rounded order before it asks the risk gate. -/
structure Fits : Prop where
  rules : (plannedOrder level debt instrument).errors = []
  profitable : plannedTakeProfit level instrument < plannedEntry level instrument
  adverse : plannedEntry level instrument < plannedStop level instrument
  notional : plannedEntry level instrument * plannedQuantity instrument level debt ≤
    limits.maximumPerpNotional
  stopLoss : (plannedStop level instrument - plannedEntry level instrument) *
    plannedQuantity instrument level debt ≤ limits.maximumProjectedStopLoss

end Order

section Rounding

variable (level : HedgeLevel) (debt : RecoveryDebtState) (instrument : InstrumentSpec)

theorem entryPrice_le_plannedEntry : level.entryPrice ≤ plannedEntry level instrument := by
  unfold plannedEntry quantizeLimitPrice
  rw [if_pos (by decide)]
  exact le_ceilToStep instrument.priceFilter.tickSize_pos

theorem plannedTakeProfit_le_tpPrice : plannedTakeProfit level instrument ≤ level.tpPrice := by
  unfold plannedTakeProfit quantizeLimitPrice
  rw [if_neg (by decide)]
  exact floorToStep_le instrument.priceFilter.tickSize_pos

/-- Rounding the prices only widens the distance to the take-profit. -/
theorem tpDistance_le : level.tpDistance ≤
    plannedEntry level instrument - plannedTakeProfit level instrument := by
  have hentry := entryPrice_le_plannedEntry level instrument
  have htp := plannedTakeProfit_le_tpPrice level instrument
  unfold HedgeLevel.tpDistance
  linarith

theorem exists_lots : ∃ lots : ℤ, plannedQuantity instrument level debt =
    lots * instrument.lotSizeFilter.qtyStep :=
  ⟨_, rfl⟩

theorem le_plannedQuantity :
    requiredProfit level debt / level.tpDistance ≤ plannedQuantity instrument level debt :=
  le_ceilToStep instrument.lotSizeFilter.qtyStep_pos

theorem plannedQuantity_lt : plannedQuantity instrument level debt <
    requiredProfit level debt / level.tpDistance + instrument.lotSizeFilter.qtyStep :=
  ceilToStep_lt_add instrument.lotSizeFilter.qtyStep_pos

@[simp] theorem plannedOrder_quantity : (plannedOrder level debt instrument).normalizedQuantity =
    plannedQuantity instrument level debt :=
  floorToStep_ceilToStep instrument.lotSizeFilter.qtyStep_pos _

@[simp] theorem plannedOrder_price : (plannedOrder level debt instrument).normalizedPrice =
    some (plannedEntry level instrument) :=
  rfl

variable {level debt instrument}

theorem minOrderQty_le (h : (plannedOrder level debt instrument).errors = []) :
    instrument.lotSizeFilter.minOrderQty ≤ plannedQuantity instrument level debt := by
  have hadmits := (admits_of_accepted_limit h).minimum
  rwa [show floorToStep _ _ = _ from plannedOrder_quantity level debt instrument] at hadmits

/-- **The requirement is met after rounding**: the quantity is not below what the exact distance
    needs, and the rounded distance is not below the exact one. -/
theorem requiredProfit_le (instrument : InstrumentSpec) (hdistance : 0 < level.tpDistance)
    (hrequired : 0 ≤ requiredProfit level debt) :
    requiredProfit level debt ≤
      (plannedEntry level instrument - plannedTakeProfit level instrument) *
        plannedQuantity instrument level debt := by
  have hraw : 0 ≤ requiredProfit level debt / level.tpDistance := div_nonneg hrequired hdistance.le
  calc requiredProfit level debt
      = level.tpDistance * (requiredProfit level debt / level.tpDistance) :=
        (mul_div_cancel₀ _ hdistance.ne').symm
    _ ≤ (plannedEntry level instrument - plannedTakeProfit level instrument) *
          plannedQuantity instrument level debt :=
        mul_le_mul (tpDistance_le level instrument) (le_plannedQuantity level debt instrument) hraw
          (hdistance.le.trans (tpDistance_le level instrument))

/-- A negative requirement rounds up to at most no lot. -/
theorem plannedQuantity_nonpos (instrument : InstrumentSpec) (hdistance : 0 < level.tpDistance)
    (hrequired : requiredProfit level debt < 0) : plannedQuantity instrument level debt ≤ 0 := by
  have hstep := instrument.lotSizeFilter.qtyStep_pos
  have hraw : requiredProfit level debt / level.tpDistance / instrument.lotSizeFilter.qtyStep ≤ 0 :=
    div_nonpos_of_nonpos_of_nonneg (div_nonpos_of_nonpos_of_nonneg hrequired.le hdistance.le)
      hstep.le
  have hlots : (⌈requiredProfit level debt / level.tpDistance /
      instrument.lotSizeFilter.qtyStep⌉ : ℤ) ≤ 0 := Int.ceil_le.mpr (by exact_mod_cast hraw)
  exact mul_nonpos_of_nonpos_of_nonneg (by exact_mod_cast hlots) hstep.le

end Rounding

/-! ## The rounded order, judged -/

/-- The planner's own complaint. -/
def shortfall : String := "quantized TP profit does not cover zone budget and confirmed debt"

section Judging

variable (level : HedgeLevel) (debt : RecoveryDebtState) (instrument : InstrumentSpec)
  (limits : RiskLimits)

def profitPerUnit : ℚ :=
  max (plannedEntry level instrument - plannedTakeProfit level instrument) 0 *
    instrument.contractMultiplier

def plannedNotional : ℚ :=
  plannedEntry level instrument * plannedQuantity instrument level debt *
    instrument.contractMultiplier

def plannedStopLoss : ℚ :=
  max (plannedStop level instrument - plannedEntry level instrument) 0 *
    instrument.contractMultiplier * plannedQuantity instrument level debt

/-- The complaints about the rounded order, before the planner's own. -/
def plannedErrors : List String :=
  (plannedOrder level debt instrument).errors ++
    reportIf (plannedEntry level instrument - plannedTakeProfit level instrument ≤ 0)
      "normalized take profit is not profitable" ++
    reportIf (plannedStop level instrument - plannedEntry level instrument ≤ 0)
      "normalized stop is not adverse" ++
    reportIf (0 < debt.confirmedDebt ∧ profitPerUnit level instrument = 0)
      "recovery profit per unit is zero" ++
    reportIf (limits.maximumPerpNotional < plannedNotional level debt instrument)
      "normalized notional exceeds risk limit" ++
    reportIf (limits.maximumProjectedStopLoss < plannedStopLoss level debt instrument)
      "normalized stop loss exceeds risk limit"

/-- The risk of the rounded order can always be computed. -/
theorem exists_quantized : ∃ quantized,
    recalculateQuantizedRisk (plannedOrder level debt instrument) instrument .sell level.tpPrice
        level.stopPrice debt.confirmedDebt limits.maximumPerpNotional
        limits.maximumProjectedStopLoss = .ok quantized ∧
      quantized.quantity = plannedQuantity instrument level debt ∧
      quantized.entryPrice = plannedEntry level instrument ∧
      quantized.notional = plannedNotional level debt instrument ∧
      quantized.tpProfit =
        profitPerUnit level instrument * plannedQuantity instrument level debt ∧
      quantized.projectedStopLoss = plannedStopLoss level debt instrument ∧
      quantized.errors = plannedErrors level debt instrument limits := by
  have hquantity := plannedOrder_quantity level debt instrument
  unfold recalculateQuantizedRisk
  simp only [plannedOrder_price, if_neg (not_lt.mpr debt.confirmedDebt_nonneg), hquantity,
    reduceCtorEq, if_false]
  exact ⟨_, rfl, rfl, rfl, rfl, rfl, rfl, rfl⟩

variable {level debt instrument limits}

/-- The rules' complaints are among them. -/
theorem mem_plannedErrors {message : String}
    (h : message ∈ (plannedOrder level debt instrument).errors) :
    message ∈ plannedErrors level debt instrument limits := by
  unfold plannedErrors
  simp only [List.mem_append]
  exact .inl (.inl (.inl (.inl (.inl h))))

theorem plannedStopLoss_eq (hmultiplier : instrument.contractMultiplier = 1)
    (hadverse : plannedEntry level instrument < plannedStop level instrument) :
    plannedStopLoss level debt instrument =
      (plannedStop level instrument - plannedEntry level instrument) *
        plannedQuantity instrument level debt := by
  rw [plannedStopLoss, hmultiplier, mul_one, max_eq_left (sub_nonneg.mpr hadverse.le)]

/-- There is no complaint about an order that fits. A debt with no profit to pay it is an order
    whose take-profit is not profitable. -/
theorem plannedErrors_eq_nil (hmultiplier : instrument.contractMultiplier = 1) :
    plannedErrors level debt instrument limits = [] ↔ Fits level debt instrument limits := by
  simp only [plannedErrors, List.append_eq_nil_iff, reportIf_eq_nil, not_le, not_lt, sub_pos]
  have hnotional : plannedNotional level debt instrument =
      plannedEntry level instrument * plannedQuantity instrument level debt := by
    rw [plannedNotional, hmultiplier, mul_one]
  constructor
  · rintro ⟨⟨⟨⟨⟨hrules, hprofit⟩, hadverse⟩, -⟩, hmax⟩, hloss⟩
    exact ⟨hrules, hprofit, hadverse, hnotional ▸ hmax,
      plannedStopLoss_eq hmultiplier hadverse ▸ hloss⟩
  · intro h
    refine ⟨⟨⟨⟨⟨h.rules, h.profitable⟩, h.adverse⟩, ?_⟩, hnotional ▸ h.notional⟩,
      plannedStopLoss_eq hmultiplier h.adverse ▸ h.stopLoss⟩
    rintro ⟨-, hzero⟩
    rw [profitPerUnit, hmultiplier, mul_one, max_eq_left (sub_pos.mpr h.profitable).le] at hzero
    exact (sub_pos.mpr h.profitable).ne' hzero

theorem profitPerUnit_eq (hmultiplier : instrument.contractMultiplier = 1)
    (hdistance : 0 < level.tpDistance) : profitPerUnit level instrument =
      plannedEntry level instrument - plannedTakeProfit level instrument := by
  rw [profitPerUnit, hmultiplier, mul_one, max_eq_left (hdistance.le.trans (tpDistance_le ..))]

/-- An order that fits is not short of its requirement: of a negative one neither, since its
    quantity is one that the rules admit. -/
theorem Fits.covers (h : Fits level debt instrument limits)
    (hmultiplier : instrument.contractMultiplier = 1) (hdistance : 0 < level.tpDistance) :
    requiredProfit level debt ≤
      profitPerUnit level instrument * plannedQuantity instrument level debt := by
  rw [profitPerUnit_eq hmultiplier hdistance]
  by_cases hrequired : 0 ≤ requiredProfit level debt
  · exact requiredProfit_le instrument hdistance hrequired
  · have hquantity := plannedQuantity_nonpos instrument hdistance
      (not_le.mp hrequired)
    have hminimum := minOrderQty_le h.rules
    have := instrument.lotSizeFilter.minOrderQty_pos
    linarith

/-- The rules' complaints never are the planner's. -/
theorem shortfall_notMem_rules : shortfall ∉ (plannedOrder level debt instrument).errors := by
  intro h
  simp only [plannedOrder, normalizeAndValidateOrder, List.mem_append] at h
  obtain ((((h | h) | h) | h) | h) := h
  · simp [shortfall] at h
  · simp [shortfall] at h
  · simp [shortfall, LotSizeFilter.errors] at h
  · simp [shortfall, PriceFilter.errors] at h
  · simp only [Bool.false_eq_true, false_and, if_false, Option.map_some,
      InstrumentSpec.notionalErrors] at h
    cases hminimum : instrument.lotSizeFilter.minNotional with
    | none => simp [hminimum] at h
    | some minNotional => simp [hminimum, shortfall] at h

theorem shortfall_notMem_plannedErrors :
    shortfall ∉ plannedErrors level debt instrument limits := by
  intro h
  simp only [plannedErrors, List.mem_append] at h
  obtain (((((h | h) | h) | h) | h) | h) := h
  · exact shortfall_notMem_rules h
  all_goals simp [shortfall] at h

/-- The risk gate's reasons never are the planner's. -/
theorem shortfall_notMem_reasons {proposal : TradeProposal} {state : RiskState} :
    shortfall ∉ RiskEngine.reasons proposal state limits := by
  intro h
  simp [RiskEngine.reasons, shortfall] at h

end Judging

/-! ## The plan -/

section Planning

variable {level : HedgeLevel} {debt : RecoveryDebtState} {instrument : InstrumentSpec}
  {riskState : RiskState} {limits : RiskLimits}

/-- The risk gate approves the rounded order as it is. -/
def GateApproves (level : HedgeLevel) (debt : RecoveryDebtState) (instrument : InstrumentSpec)
    (riskState : RiskState) (limits : RiskLimits) : Prop :=
  ∃ proposal, TradeProposal.create "ETHUSDT" .sell (plannedQuantity instrument level debt)
      (plannedEntry level instrument) (plannedNotional level debt instrument)
      (plannedStopLoss level debt instrument) true = .ok proposal ∧
    (RiskEngine.evaluate proposal riskState limits).approved = true ∧
    (RiskEngine.evaluate proposal riskState limits).approvedQuantity =
      some (plannedQuantity instrument level debt)

/-- The planner's complaints before the risk gate's. -/
def plannerErrors (level : HedgeLevel) (debt : RecoveryDebtState) (instrument : InstrumentSpec)
    (limits : RiskLimits) : List String :=
  plannedErrors level debt instrument limits ++
    reportIf (profitPerUnit level instrument * plannedQuantity instrument level debt <
      requiredProfit level debt) shortfall

/-- The plan that is made of the risk gate's reasons. -/
def planOf (level : HedgeLevel) (debt : RecoveryDebtState) (instrument : InstrumentSpec)
    (limits : RiskLimits) (vetoes : List String) : RecoveryEntryPlan :=
  let reasons := plannerErrors level debt instrument limits ++ vetoes
  { approved := reasons.isEmpty
    rawDesiredQuantity := requiredProfit level debt / level.tpDistance
    entryPrice := plannedEntry level instrument
    quantity := if reasons.isEmpty then some (plannedQuantity instrument level debt) else none
    expectedTakeProfit := profitPerUnit level instrument * plannedQuantity instrument level debt
    allocatedDebt := if reasons.isEmpty then debt.confirmedDebt else 0
    reasons
    lockedAction := if reasons.isEmpty then none else some .closeOptionStrategy }

/-- The reasons of the risk gate, which is asked about an order without complaints only. -/
def gateReasons (level : HedgeLevel) (debt : RecoveryDebtState) (instrument : InstrumentSpec)
    (riskState : RiskState) (limits : RiskLimits) : Except Failure (List String) :=
  if plannerErrors level debt instrument limits = [] then
    (TradeProposal.create "ETHUSDT" .sell (plannedQuantity instrument level debt)
      (plannedEntry level instrument) (plannedNotional level debt instrument)
      (plannedStopLoss level debt instrument) true).map fun proposal =>
        (RiskEngine.evaluate proposal riskState limits).reasons
  else .ok []

/-- **The planner in closed form.** -/
theorem plan_eq (hallocated : debt.allocatedDebt = 0)
    (hreported : debt.confirmedDebt ≤ riskState.confirmedRecoveryDebt)
    (hcategory : instrument.category = .linear) (hsymbol : instrument.symbol = "ETHUSDT")
    (hdistance : 0 < level.tpDistance) :
    plan level debt instrument riskState limits =
      (gateReasons level debt instrument riskState limits).map
        (planOf level debt instrument limits) := by
  obtain ⟨quantized, hquantized, hquantity, hentry, hnotional, hprofit, hloss, herrors⟩ :=
    exists_quantized level debt instrument limits
  -- the gate is asked about the planned amounts, whatever else the quantized risk holds
  have hvetoes : vetoes (plannerErrors level debt instrument limits) quantized riskState limits =
      gateReasons level debt instrument riskState limits := by
    unfold vetoes gateReasons
    rw [hquantity, hentry, hnotional, hloss]
    split
    · cases TradeProposal.create _ _ _ _ _ _ _ <;> rfl
    · rfl
  unfold plan
  simp only [refuseIf, hallocated, hcategory, hsymbol, ne_eq, not_true_eq_false, or_self,
    not_lt.mpr hreported, not_le.mpr hdistance, if_false]
  change (recalculateQuantizedRisk (plannedOrder level debt instrument) _ _ _ _ _ _ _ >>= _) = _
  rw [hquantized]
  change ((vetoes (_ ++ reportIf (quantized.tpProfit < _) _) _ _ _) >>= _) = _
  rw [hprofit, herrors]
  change (vetoes (plannerErrors level debt instrument limits) _ _ _ >>= _) = _
  rw [hvetoes]
  cases gateReasons level debt instrument riskState limits with
  | error failure => rfl
  | ok reasons =>
    rw [hentry, hquantity]
    rfl

theorem plannerErrors_eq_nil (hmultiplier : instrument.contractMultiplier = 1)
    (hdistance : 0 < level.tpDistance) :
    plannerErrors level debt instrument limits = [] ↔ Fits level debt instrument limits := by
  simp only [plannerErrors, List.append_eq_nil_iff, reportIf_eq_nil, not_lt,
    plannedErrors_eq_nil hmultiplier]
  exact ⟨And.left, fun h => ⟨h, h.covers hmultiplier hdistance⟩⟩

/-- What the reasons of the risk gate are, where it has any say. -/
theorem gateReasons_eq_ok {vetoes : List String} :
    gateReasons level debt instrument riskState limits = .ok vetoes ↔
      (plannerErrors level debt instrument limits = [] ∧
        ∃ proposal, TradeProposal.create "ETHUSDT" .sell (plannedQuantity instrument level debt)
            (plannedEntry level instrument) (plannedNotional level debt instrument)
            (plannedStopLoss level debt instrument) true = .ok proposal ∧
          vetoes = RiskEngine.reasons proposal riskState limits) ∨
      plannerErrors level debt instrument limits ≠ [] ∧ vetoes = [] := by
  unfold gateReasons
  by_cases herrors : plannerErrors level debt instrument limits = []
  · rw [if_pos herrors]
    cases TradeProposal.create _ _ _ _ _ _ _ with
    | error failure => simp [Except.map, herrors]
    | ok proposal =>
      simp only [Except.map, RiskEngine.evaluate_reasons, Except.ok.injEq, herrors, true_and,
        ne_eq, not_true_eq_false, false_and, or_false, exists_eq_left']
      exact eq_comm
  · rw [if_neg herrors]
    simp only [Except.ok.injEq, herrors, false_and, ne_eq, not_false_eq_true, true_and, false_or]
    exact eq_comm

/-- **An approved plan**: the rounded order fits and the gate approves it. -/
theorem approved_planOf (hmultiplier : instrument.contractMultiplier = 1)
    (hdistance : 0 < level.tpDistance) {vetoes : List String}
    (h : gateReasons level debt instrument riskState limits = .ok vetoes) :
    (planOf level debt instrument limits vetoes).approved = true ↔
      Fits level debt instrument limits ∧
        GateApproves level debt instrument riskState limits := by
  simp only [planOf, List.isEmpty_iff, List.append_eq_nil_iff,
    plannerErrors_eq_nil hmultiplier hdistance]
  refine and_congr_right fun hfits => ?_
  obtain ⟨-, proposal, hcreate, rfl⟩ | ⟨herrors, -⟩ := gateReasons_eq_ok.mp h
  · constructor
    · intro hnone
      have happroved := RiskEngine.approved_iff.mpr hnone
      refine ⟨proposal, hcreate, happroved, ?_⟩
      rw [RiskEngine.approvedQuantity_of_approved happroved, (TradeProposal.of_create hcreate).1]
    · rintro ⟨proposal', hcreate', happroved, -⟩
      obtain rfl : proposal = proposal' := Except.ok.inj (hcreate.symm.trans hcreate')
      exact RiskEngine.approved_iff.mp happroved
  · exact absurd ((plannerErrors_eq_nil hmultiplier hdistance).mpr hfits) herrors

/-- **The planner's own complaint is never the only one**: it is made of a negative requirement,
    and then the quantity is below any minimum too. -/
theorem shortfall_mem_planOf (hmultiplier : instrument.contractMultiplier = 1)
    (hdistance : 0 < level.tpDistance) {vetoes : List String}
    (h : gateReasons level debt instrument riskState limits = .ok vetoes)
    (hmem : shortfall ∈ (planOf level debt instrument limits vetoes).reasons) :
    requiredProfit level debt < 0 ∧ "quantity is below instrument minimum" ∈
      (planOf level debt instrument limits vetoes).reasons := by
  have hshort : profitPerUnit level instrument * plannedQuantity instrument level debt <
      requiredProfit level debt := by
    simp only [planOf, plannerErrors, List.mem_append, mem_reportIf, and_true] at hmem
    obtain (hmem | hmem) | hmem := hmem
    · exact absurd hmem shortfall_notMem_plannedErrors
    · exact hmem
    · obtain ⟨-, proposal, -, rfl⟩ | ⟨-, rfl⟩ := gateReasons_eq_ok.mp h
      · exact absurd hmem shortfall_notMem_reasons
      · exact absurd hmem List.not_mem_nil
  -- rounding up covers every profit that is not negative, so only a negative one falls short
  have hnegative : requiredProfit level debt < 0 := by
    by_contra hrequired
    have hcovers := requiredProfit_le instrument hdistance (not_lt.mp hrequired)
    rw [← profitPerUnit_eq hmultiplier hdistance] at hcovers
    exact absurd hshort (not_lt.mpr hcovers)
  refine ⟨hnegative, ?_⟩
  have hbelow : plannedQuantity instrument level debt < instrument.lotSizeFilter.minOrderQty :=
    (plannedQuantity_nonpos instrument hdistance hnegative).trans_lt
      instrument.lotSizeFilter.minOrderQty_pos
  have hgrid := plannedOrder_quantity level debt instrument
  -- a quantity that is not positive is below every minimum, and the instrument says so
  have hrules : "quantity is below instrument minimum" ∈
      (plannedOrder level debt instrument).errors := by
    simp only [plannedOrder, normalizeAndValidateOrder, List.mem_append, LotSizeFilter.errors]
    exact .inl (.inl (.inr (.inl (mem_reportIf.mpr ⟨hgrid.trans_lt hbelow, rfl⟩))))
  simp only [planOf, plannerErrors, List.mem_append]
  exact .inl (.inl (mem_plannedErrors hrules))

/-- The one thing the planner cannot propose: an order at a price that is not positive. -/
theorem exists_gateReasons (debt : RecoveryDebtState) (riskState : RiskState) (limits : RiskLimits)
    (hmultiplier : instrument.contractMultiplier = 1)
    (hdistance : 0 < level.tpDistance) :
    (∃ vetoes, gateReasons level debt instrument riskState limits = .ok vetoes) ∨
      Fits level debt instrument limits ∧ plannedEntry level instrument ≤ 0 ∧
        gateReasons level debt instrument riskState limits =
          .error (.valueError "price must be positive") := by
  unfold gateReasons
  split
  · rename_i herrors
    have hfits := (plannerErrors_eq_nil hmultiplier hdistance).mp herrors
    have hquantity : 0 < plannedQuantity instrument level debt :=
      instrument.lotSizeFilter.minOrderQty_pos.trans_le (minOrderQty_le hfits.rules)
    have hloss : 0 ≤ plannedStopLoss level debt instrument := by
      rw [plannedStopLoss_eq hmultiplier hfits.adverse]
      exact mul_nonneg (sub_pos.mpr hfits.adverse).le hquantity.le
    unfold TradeProposal.create
    rw [dif_neg (by decide), dif_neg (not_le.mpr hquantity)]
    by_cases hprice : plannedEntry level instrument ≤ 0
    · rw [dif_pos hprice]
      exact .inr ⟨hfits, hprice, rfl⟩
    · have hnotional : 0 < plannedNotional level debt instrument := by
        rw [plannedNotional, hmultiplier, mul_one]
        exact mul_pos (not_le.mp hprice) hquantity
      rw [dif_neg hprice, dif_neg (not_le.mpr hnotional), dif_neg (not_lt.mpr hloss)]
      exact .inl ⟨_, rfl⟩
  · exact .inl ⟨[], rfl⟩

/-- **What a plan promises**, of an ETHUSDT contract with multiplier 1 and a debt of which nothing is
    allocated. Where the requirement is not negative, the take-profit as rounded covers
    it; the planner's own complaint is never what a rejection is about. The planner raises only
    where the risk state underreports the debt, or the order it would propose has no positive
    price. -/
theorem recovery_plan (level : HedgeLevel) (debt : RecoveryDebtState)
    (instrument : InstrumentSpec) (riskState : RiskState) (limits : RiskLimits)
    (hdistance : 0 < level.tpDistance) (hallocated : debt.allocatedDebt = 0)
    (hcategory : instrument.category = .linear) (hsymbol : instrument.symbol = "ETHUSDT")
    (hmultiplier : instrument.contractMultiplier = 1) :
    (∀ result, plan level debt instrument riskState limits = .ok result →
      (0 ≤ requiredProfit level debt → requiredProfit level debt ≤ result.expectedTakeProfit ∧
        shortfall ∉ result.reasons) ∧
      (shortfall ∈ result.reasons → "quantity is below instrument minimum" ∈ result.reasons) ∧
      result.rawDesiredQuantity = requiredProfit level debt / level.tpDistance ∧
      (result.approved = true ↔ Fits level debt instrument limits ∧
        GateApproves level debt instrument riskState limits) ∧
      (∃ lots : ℤ, plannedQuantity instrument level debt =
        lots * instrument.lotSizeFilter.qtyStep) ∧
      result.rawDesiredQuantity ≤ plannedQuantity instrument level debt ∧
      plannedQuantity instrument level debt <
        result.rawDesiredQuantity + instrument.lotSizeFilter.qtyStep ∧
      (result.approved = true →
        result.quantity = some (plannedQuantity instrument level debt) ∧
        result.entryPrice = plannedEntry level instrument ∧
        result.allocatedDebt = debt.confirmedDebt)) ∧
    ((∃ result, plan level debt instrument riskState limits = .ok result) ∨
      riskState.confirmedRecoveryDebt < debt.confirmedDebt ∨
      Fits level debt instrument limits ∧ plannedEntry level instrument ≤ 0) := by
  by_cases hreported : debt.confirmedDebt ≤ riskState.confirmedRecoveryDebt
  swap
  · -- a debt the risk state does not report is refused before anything is planned
    have hraises : ∀ result, plan level debt instrument riskState limits ≠ .ok result := by
      intro result h
      simp only [plan, bind_unit_eq_ok, refuseIf_eq_ok] at h
      exact hreported (not_lt.mp h.2.1)
    exact ⟨fun result h => absurd h (hraises result), .inr (.inl (not_le.mp hreported))⟩
  rw [plan_eq hallocated hreported hcategory hsymbol hdistance]
  constructor
  · intro result h
    obtain ⟨vetoes, hvetoes, rfl⟩ : ∃ vetoes,
        gateReasons level debt instrument riskState limits = .ok vetoes ∧
          planOf level debt instrument limits vetoes = result := by
      cases hgate : gateReasons level debt instrument riskState limits with
      | error failure => rw [hgate] at h; cases h
      | ok vetoes => rw [hgate] at h; exact ⟨vetoes, rfl, Except.ok.inj h⟩
    have hshort := shortfall_mem_planOf hmultiplier hdistance hvetoes
    refine ⟨fun hrequired => ⟨?_, fun hmem => ?_⟩, fun hmem => (hshort hmem).2, rfl,
      approved_planOf hmultiplier hdistance hvetoes, exists_lots .., le_plannedQuantity ..,
      plannedQuantity_lt .., fun happroved => ⟨if_pos happroved, rfl, if_pos happroved⟩⟩
    · have hcovers := requiredProfit_le instrument hdistance hrequired
      rwa [← profitPerUnit_eq hmultiplier hdistance] at hcovers
    · exact absurd (hshort hmem).1 (not_lt.mpr hrequired)
  · obtain ⟨vetoes, hvetoes⟩ | ⟨hfits, hprice, -⟩ :=
      exists_gateReasons debt riskState limits hmultiplier hdistance
    · exact .inl ⟨planOf level debt instrument limits vetoes, by rw [hvetoes]; rfl⟩
    · exact .inr (.inr ⟨hfits, hprice⟩)

/-- A level between the ticks on both sides, one cent deep. -/
def offGridLevel (optionBudget : ℚ) : HedgeLevel where
  levelId := 1
  entryPrice := 100 + 1 / 200
  tpPrice := 100 - 1 / 200
  stopPrice := 101
  optionBudget

/-- A confirmed debt of which nothing is allocated. -/
def owed (amount : ℚ) (h : 0 ≤ amount) : RecoveryDebtState where
  projectedDebt := 0
  confirmedDebt := amount
  allocatedDebt := 0
  remainingDebt := amount
  projectedDebt_nonneg := zero_nonneg
  confirmedDebt_nonneg := h
  allocatedDebt_nonneg := zero_nonneg
  remainingDebt_nonneg := h
  balanced := (zero_add amount).symm

theorem recovery_plan_offGrid :
    ∃ result, plan (offGridLevel 1) (owed 0 le_rfl) ethPerp calmState wideLimits = .ok result ∧
      1 ≤ result.expectedTakeProfit ∧ shortfall ∉ result.reasons := by
  obtain ⟨hplans, hreturns⟩ := recovery_plan (offGridLevel 1) (owed 0 le_rfl) ethPerp calmState
    wideLimits (by decide +kernel) rfl rfl rfl rfl
  obtain ⟨result, hresult⟩ | hunder | ⟨-, hprice⟩ := hreturns
  · obtain ⟨hcovers, hshort⟩ := (hplans result hresult).1 (by decide +kernel)
    exact ⟨result, hresult, (by decide +kernel : (1 : ℚ) ≤ _).trans hcovers, hshort⟩
  · exact absurd hunder (by decide +kernel)
  · exact absurd hprice (by decide +kernel)

/-- **A negative option budget** can be missed: a hundred lots short, at twice the distance. -/
theorem negative_budget_missed :
    ¬ ∀ (level : HedgeLevel) (debt : RecoveryDebtState) (instrument : InstrumentSpec)
      (riskState : RiskState) (limits : RiskLimits) (result : RecoveryEntryPlan),
      0 < level.tpDistance → debt.allocatedDebt = 0 → instrument.category = .linear →
      instrument.symbol = "ETHUSDT" → instrument.status = "Trading" →
      instrument.contractMultiplier = 1 →
      plan level debt instrument riskState limits = .ok result →
      level.optionBudget + debt.confirmedDebt ≤ result.expectedTakeProfit := by
  intro h
  have hplan : plan (offGridLevel (-1)) (owed 0 le_rfl) ethPerp calmState wideLimits = _ :=
    plan_eq rfl (by decide +kernel) rfl rfl (by decide +kernel)
  have hgate : gateReasons (offGridLevel (-1)) (owed 0 le_rfl) ethPerp calmState wideLimits =
      .ok [] := if_neg (by decide +kernel)
  rw [hgate] at hplan
  have hcovers := h _ _ _ _ _ _ (by decide +kernel) rfl rfl rfl rfl rfl hplan
  exact absurd hcovers (by decide +kernel)

end Planning

end SameLevelRecoveryPlanner

end CreditHedge
