import CreditHedge.Domain.Execution
import CreditHedge.Lib.Rounding
import Mathlib.Data.Rat.Floor

/-!
# Instruments and order rules

The filters of `domain/instruments.py`, and all of `domain/instrument_rules.py`: directed rounding
onto the tick and lot grids, the check of an order against an instrument's filters, and the risk
of the order as rounded.

A `Decimal` is a rational, so `value / step` is exact and the grid points are the true multiples
of the step. `side` and `price_policy` are enumerations; the checks that only refuse another
string are gone.
-/

set_option autoImplicit false

namespace CreditHedge

/-! ## Instruments -/

structure PriceFilter where
  tickSize : ℚ
  minPrice : Option ℚ
  maxPrice : Option ℚ
  tickSize_pos : 0 < tickSize
  minPrice_nonneg : ∀ price ∈ minPrice, 0 ≤ price
  maxPrice_pos : ∀ price ∈ maxPrice, 0 < price
  minPrice_le_maxPrice : ∀ low ∈ minPrice, ∀ high ∈ maxPrice, low ≤ high

structure LotSizeFilter where
  qtyStep : ℚ
  minOrderQty : ℚ
  maxOrderQty : ℚ
  maxMarketOrderQty : Option ℚ
  minNotional : Option ℚ
  qtyStep_pos : 0 < qtyStep
  minOrderQty_pos : 0 < minOrderQty
  minOrderQty_le_maxOrderQty : minOrderQty ≤ maxOrderQty
  maxMarketOrderQty_pos : ∀ quantity ∈ maxMarketOrderQty, 0 < quantity
  minNotional_pos : ∀ notional ∈ minNotional, 0 < notional

/-- `InstrumentSpec`, without the coins and the delivery time, which no modelled function reads. -/
structure InstrumentSpec where
  symbol : String
  category : Category
  status : String
  priceFilter : PriceFilter
  lotSizeFilter : LotSizeFilter
  contractMultiplier : ℚ
  contractMultiplier_pos : 0 < contractMultiplier

/-- An ETH perpetual, for the concrete runs: its market orders are capped below its limit orders. -/
def ethPerp : InstrumentSpec where
  symbol := "ETHUSDT"
  category := .linear
  status := "Trading"
  priceFilter :=
    { tickSize := 1 / 100
      minPrice := none
      maxPrice := none
      tickSize_pos := by decide +kernel
      minPrice_nonneg := by decide +kernel
      maxPrice_pos := by decide +kernel
      minPrice_le_maxPrice := by decide +kernel }
  lotSizeFilter :=
    { qtyStep := 1 / 100
      minOrderQty := 1 / 100
      maxOrderQty := 1000
      maxMarketOrderQty := some 500
      minNotional := some 5
      qtyStep_pos := by decide +kernel
      minOrderQty_pos := by decide +kernel
      minOrderQty_le_maxOrderQty := by decide +kernel
      maxMarketOrderQty_pos := by decide +kernel
      minNotional_pos := by decide +kernel }
  contractMultiplier := 1
  contractMultiplier_pos := by decide +kernel

/-! ## Grids -/

inductive PriceQuantizationPolicy where
  | passive
  | aggressive
  deriving DecidableEq, Repr

def floorToStep (value step : ℚ) : ℚ := ⌊value / step⌋ * step

def ceilToStep (value step : ℚ) : ℚ := ⌈value / step⌉ * step

def quantizeLimitPrice (value tickSize : ℚ) (side : OrderSide)
    (policy : PriceQuantizationPolicy) : ℚ :=
  if (side = .sell) = (policy = .passive) then ceilToStep value tickSize
  else floorToStep value tickSize

/-- The two roundings are the ones into the multiples of the step. -/
theorem floorToStep_roundsDown {step : ℚ} (hstep : 0 < step) :
    RoundsDown (grid step) fun value => floorToStep value step :=
  roundsDown_floor hstep

theorem ceilToStep_roundsUp {step : ℚ} (hstep : 0 < step) :
    RoundsUp (grid step) fun value => ceilToStep value step :=
  roundsUp_ceil hstep

/-- A quantity that is on the grid stays where it is. -/
@[simp] theorem floorToStep_mul {step : ℚ} (h : 0 < step) (n : ℤ) :
    floorToStep (n * step) step = n * step :=
  (floorToStep_roundsDown h).eq_of_mem ⟨n, rfl⟩

theorem floorToStep_floorToStep {step : ℚ} (h : 0 < step) (value : ℚ) :
    floorToStep (floorToStep value step) step = floorToStep value step :=
  floorToStep_mul h _

theorem floorToStep_ceilToStep {step : ℚ} (h : 0 < step) (value : ℚ) :
    floorToStep (ceilToStep value step) step = ceilToStep value step :=
  floorToStep_mul h _

theorem floorToStep_nonneg {value step : ℚ} (hstep : 0 < step) (h : 0 ≤ value) :
    0 ≤ floorToStep value step :=
  (floorToStep_roundsDown hstep).le_round ⟨0, by simp⟩ h

theorem le_ceilToStep {value step : ℚ} (hstep : 0 < step) : value ≤ ceilToStep value step :=
  (ceilToStep_roundsUp hstep).le value

theorem ceilToStep_lt_add {value step : ℚ} (hstep : 0 < step) :
    ceilToStep value step < value + step :=
  sub_lt_iff_lt_add.mp (ceil_mul_sub_lt hstep value)

theorem floorToStep_le {value step : ℚ} (hstep : 0 < step) : floorToStep value step ≤ value :=
  (floorToStep_roundsDown hstep).le value

theorem quantizeLimitPrice_nonneg {value tickSize : ℚ} (htick : 0 < tickSize) (h : 0 ≤ value)
    (side : OrderSide) (policy : PriceQuantizationPolicy) :
    0 ≤ quantizeLimitPrice value tickSize side policy := by
  unfold quantizeLimitPrice
  split
  · exact h.trans (le_ceilToStep htick)
  · exact floorToStep_nonneg htick h

/-! ## Validating an order

The source collects its complaints in a list, in a fixed order, and accepts if there are none.
`reportIf` is one `if …: errors.append(…)`. -/

/-- `if condition: errors.append(message)`. -/
def reportIf (condition : Prop) [Decidable condition] (message : String) : List String :=
  if condition then [message] else []

@[simp] theorem reportIf_eq_nil {condition : Prop} [Decidable condition] {message : String} :
    reportIf condition message = [] ↔ ¬ condition := by
  unfold reportIf
  split <;> simp [*]

@[simp] theorem mem_reportIf {condition : Prop} [Decidable condition] {message m : String} :
    m ∈ reportIf condition message ↔ condition ∧ m = message := by
  unfold reportIf
  split <;> simp [*]

structure OrderValidationResult where
  accepted : Bool
  normalizedPrice : Option ℚ
  normalizedQuantity : ℚ
  errors : List String
  warnings : List String
  deriving DecidableEq, Repr

/-- The limits of the price filter. -/
def PriceFilter.errors (filter : PriceFilter) (price : ℚ) : List String :=
  reportIf (∃ low ∈ filter.minPrice, price < low) "price is below instrument minimum" ++
    reportIf (∃ high ∈ filter.maxPrice, high < price) "price exceeds instrument maximum"

/-- `quantity_maximum`: a market order has a maximum of its own, if the instrument states one. -/
def LotSizeFilter.quantityMaximum (filter : LotSizeFilter) (isMarket : Bool) : ℚ :=
  if isMarket then filter.maxMarketOrderQty.getD filter.maxOrderQty else filter.maxOrderQty

/-- The limits on a quantity, in the order the source checks them. -/
def LotSizeFilter.errors (filter : LotSizeFilter) (isMarket : Bool) (quantity : ℚ) :
    List String :=
  reportIf (quantity < filter.minOrderQty) "quantity is below instrument minimum" ++
    reportIf (filter.quantityMaximum isMarket < quantity) "quantity exceeds instrument maximum"

/-- The minimum notional, which needs a price to be checked at. -/
def InstrumentSpec.notionalErrors (instrument : InstrumentSpec) (quantity : ℚ)
    (notionalPrice : Option ℚ) : List String :=
  match instrument.lotSizeFilter.minNotional, notionalPrice with
  | none, _ => []
  | some _, none => ["reference price is required for minimum notional"]
  | some minNotional, some price =>
    reportIf (quantity * price * instrument.contractMultiplier < minNotional)
      "notional is below instrument minimum"

def normalizeAndValidateOrder (instrument : InstrumentSpec) (side : OrderSide) (quantity : ℚ)
    (price : Option ℚ) (isMarket : Bool) (referencePrice : Option ℚ)
    (pricePolicy : PriceQuantizationPolicy) : OrderValidationResult :=
  let normalizedQuantity := floorToStep quantity instrument.lotSizeFilter.qtyStep
  let normalizedPrice :=
    if isMarket then none
    else price.map (quantizeLimitPrice · instrument.priceFilter.tickSize side pricePolicy)
  let notionalPrice :=
    if isMarket ∧ referencePrice.isSome then referencePrice else normalizedPrice
  let errors :=
    reportIf (isMarket = false ∧ price = none) "limit order requires price" ++
      reportIf (instrument.status ≠ "Trading") "instrument is not Trading" ++
      instrument.lotSizeFilter.errors isMarket normalizedQuantity ++
      (match normalizedPrice with
        | none => []
        | some price => instrument.priceFilter.errors price) ++
      instrument.notionalErrors normalizedQuantity notionalPrice
  let warnings :=
    reportIf (normalizedQuantity ≠ quantity) "quantity rounded down to instrument step" ++
      if isMarket then reportIf (price ≠ none) "price ignored for market order"
      else reportIf (normalizedPrice ≠ price) "price rounded to instrument tick"
  { accepted := errors.isEmpty
    normalizedPrice
    normalizedQuantity
    errors
    warnings }

section Validation

variable {instrument : InstrumentSpec} {side : OrderSide} {quantity : ℚ}
  {pricePolicy : PriceQuantizationPolicy}

@[simp] theorem normalizedQuantity_eq (price : Option ℚ) (isMarket : Bool)
    (referencePrice : Option ℚ) :
    (normalizeAndValidateOrder instrument side quantity price isMarket referencePrice
      pricePolicy).normalizedQuantity = floorToStep quantity instrument.lotSizeFilter.qtyStep :=
  rfl

@[simp] theorem normalizedPrice_limit (price : ℚ) (referencePrice : Option ℚ) :
    (normalizeAndValidateOrder instrument side quantity (some price) false referencePrice
      pricePolicy).normalizedPrice =
      some (quantizeLimitPrice price instrument.priceFilter.tickSize side pricePolicy) :=
  rfl

/-- What the rules ask of a quantity whose notional is taken at `price`, whatever the order's
    type. -/
structure InstrumentSpec.Admits (instrument : InstrumentSpec) (isMarket : Bool)
    (quantity price : ℚ) : Prop where
  trading : instrument.status = "Trading"
  minimum : instrument.lotSizeFilter.minOrderQty ≤ quantity
  maximum : quantity ≤ instrument.lotSizeFilter.quantityMaximum isMarket
  notional : ∀ minNotional ∈ instrument.lotSizeFilter.minNotional,
    minNotional ≤ quantity * price * instrument.contractMultiplier

theorem LotSizeFilter.errors_eq_nil {filter : LotSizeFilter} {isMarket : Bool} :
    filter.errors isMarket quantity = [] ↔
      filter.minOrderQty ≤ quantity ∧ quantity ≤ filter.quantityMaximum isMarket := by
  simp only [LotSizeFilter.errors, List.append_eq_nil_iff, reportIf_eq_nil, not_lt]

theorem InstrumentSpec.notionalErrors_eq_nil {price : ℚ} :
    instrument.notionalErrors quantity (some price) = [] ↔
      ∀ minNotional ∈ instrument.lotSizeFilter.minNotional,
        minNotional ≤ quantity * price * instrument.contractMultiplier := by
  unfold InstrumentSpec.notionalErrors
  cases instrument.lotSizeFilter.minNotional with
  | none => simp
  | some minNotional => simp

/-- A market order is accepted when its rounded quantity is admitted as a market quantity. -/
theorem accepted_market_iff {referencePrice : ℚ} :
    (normalizeAndValidateOrder instrument side quantity none true (some referencePrice)
      pricePolicy).accepted = true ↔
      instrument.Admits true (floorToStep quantity instrument.lotSizeFilter.qtyStep)
        referencePrice := by
  simp only [normalizeAndValidateOrder, List.isEmpty_iff, List.append_eq_nil_iff,
    reportIf_eq_nil, if_true, LotSizeFilter.errors_eq_nil, Option.isSome_some, and_self,
    InstrumentSpec.notionalErrors_eq_nil]
  constructor
  · rintro ⟨⟨⟨⟨-, hstatus⟩, hmin, hmax⟩, -⟩, hnotional⟩
    exact ⟨not_not.mp hstatus, hmin, hmax, hnotional⟩
  · intro h
    exact ⟨⟨⟨⟨by simp, not_not.mpr h.trading⟩, h.minimum, h.maximum⟩, trivial⟩, h.notional⟩

/-- A limit order that is accepted is admitted as a limit quantity, at its rounded price. -/
theorem admits_of_accepted_limit {price : ℚ} {referencePrice : Option ℚ}
    (h : (normalizeAndValidateOrder instrument side quantity (some price) false referencePrice
      pricePolicy).errors = []) :
    instrument.Admits false (floorToStep quantity instrument.lotSizeFilter.qtyStep)
      (quantizeLimitPrice price instrument.priceFilter.tickSize side pricePolicy) := by
  simp only [normalizeAndValidateOrder, List.append_eq_nil_iff, reportIf_eq_nil,
    LotSizeFilter.errors_eq_nil, Bool.false_eq_true, false_and, if_false, Option.map_some,
    InstrumentSpec.notionalErrors_eq_nil] at h
  obtain ⟨⟨⟨⟨-, hstatus⟩, hmin, hmax⟩, -⟩, hnotional⟩ := h
  exact ⟨not_not.mp hstatus, hmin, hmax, hnotional⟩

/-- The two maxima are what separates the two kinds of order. -/
theorem InstrumentSpec.Admits.market_iff {price : ℚ} (h : instrument.Admits false quantity price) :
    instrument.Admits true quantity price ↔
      quantity ≤ instrument.lotSizeFilter.quantityMaximum true :=
  ⟨fun h' => h'.maximum, fun hmax => ⟨h.trading, h.minimum, hmax, h.notional⟩⟩

end Validation

/-! ## The risk of the rounded order -/

structure QuantizedRiskResult where
  accepted : Bool
  quantity : ℚ
  entryPrice : ℚ
  takeProfitPrice : ℚ
  stopPrice : ℚ
  notional : ℚ
  tpProfit : ℚ
  projectedStopLoss : ℚ
  recoveryQuantity : ℚ
  recoveryProfit : ℚ
  errors : List String
  deriving DecidableEq, Repr

/-- The side that closes an entry. -/
def OrderSide.exit : OrderSide → OrderSide
  | .buy => .sell
  | .sell => .buy

def recalculateQuantizedRisk (validation : OrderValidationResult) (instrument : InstrumentSpec)
    (entrySide : OrderSide) (takeProfitPrice stopPrice recoveryDebt maximumNotional
    maximumProjectedStopLoss : ℚ) : Except Failure QuantizedRiskResult :=
  match validation.normalizedPrice with
  | none => .error (.valueError "normalized entry price is required for risk calculation")
  | some entryPrice =>
    if recoveryDebt < 0 then .error (.valueError "recovery debt cannot be negative")
    else
      let tickSize := instrument.priceFilter.tickSize
      let normalizedTp := quantizeLimitPrice takeProfitPrice tickSize entrySide.exit .passive
      let normalizedStop := quantizeLimitPrice stopPrice tickSize entrySide.exit .aggressive
      let quantity := validation.normalizedQuantity
      let multiplier := instrument.contractMultiplier
      let notional := entryPrice * quantity * multiplier
      let profitDistance :=
        if entrySide = .buy then normalizedTp - entryPrice else entryPrice - normalizedTp
      let stopDistance :=
        if entrySide = .buy then entryPrice - normalizedStop else normalizedStop - entryPrice
      let profitPerUnit := max profitDistance 0 * multiplier
      let projectedStopLoss := max stopDistance 0 * multiplier * quantity
      let recoveryQuantity :=
        if 0 < recoveryDebt ∧ profitPerUnit ≠ 0 then
          ceilToStep (recoveryDebt / profitPerUnit) instrument.lotSizeFilter.qtyStep
        else 0
      let errors :=
        validation.errors ++
          reportIf (profitDistance ≤ 0) "normalized take profit is not profitable" ++
          reportIf (stopDistance ≤ 0) "normalized stop is not adverse" ++
          reportIf (0 < recoveryDebt ∧ profitPerUnit = 0) "recovery profit per unit is zero" ++
          reportIf (maximumNotional < notional) "normalized notional exceeds risk limit" ++
          reportIf (maximumProjectedStopLoss < projectedStopLoss)
            "normalized stop loss exceeds risk limit"
      .ok
        { accepted := errors.isEmpty
          quantity
          entryPrice
          takeProfitPrice := normalizedTp
          stopPrice := normalizedStop
          notional
          tpProfit := profitPerUnit * quantity
          projectedStopLoss
          recoveryQuantity
          recoveryProfit := recoveryQuantity * profitPerUnit
          errors }

/-- The result is about the order that was validated, and keeps its complaints. -/
theorem recalculateQuantizedRisk_ok {validation : OrderValidationResult}
    {instrument : InstrumentSpec} {entrySide : OrderSide} {takeProfitPrice stopPrice recoveryDebt
    maximumNotional maximumProjectedStopLoss : ℚ} {result : QuantizedRiskResult}
    (h : recalculateQuantizedRisk validation instrument entrySide takeProfitPrice stopPrice
      recoveryDebt maximumNotional maximumProjectedStopLoss = .ok result) :
    validation.normalizedPrice = some result.entryPrice ∧
      result.quantity = validation.normalizedQuantity ∧
      (result.errors = [] → validation.errors = []) ∧
      (result.accepted = true ↔ result.errors = []) := by
  unfold recalculateQuantizedRisk at h
  split at h
  · exact absurd h (by simp)
  · rename_i entryPrice hprice
    split at h
    · exact absurd h (by simp)
    · obtain rfl := Except.ok.inj h
      refine ⟨hprice, rfl, fun herrors => ?_, List.isEmpty_iff⟩
      simp only [List.append_eq_nil_iff] at herrors
      exact herrors.1.1.1.1.1

/-- The notional of the rounded order. -/
theorem notional_of_recalculateQuantizedRisk {validation : OrderValidationResult}
    {instrument : InstrumentSpec} {entrySide : OrderSide} {takeProfitPrice stopPrice recoveryDebt
    maximumNotional maximumProjectedStopLoss : ℚ} {result : QuantizedRiskResult}
    (h : recalculateQuantizedRisk validation instrument entrySide takeProfitPrice stopPrice
      recoveryDebt maximumNotional maximumProjectedStopLoss = .ok result) :
    result.notional = result.entryPrice * result.quantity * instrument.contractMultiplier := by
  unfold recalculateQuantizedRisk at h
  split at h
  · exact absurd h (by simp)
  · split at h
    · exact absurd h (by simp)
    · obtain rfl := Except.ok.inj h
      rfl

/-- **The debt is reported on and does not decide**: an order is accepted with a debt exactly if
    it is without one. A debt that cannot be recovered is one whose take profit is not profitable,
    and that is refused anyway. -/
theorem recalculateQuantizedRisk_debt {validation : OrderValidationResult}
    {instrument : InstrumentSpec} {entrySide : OrderSide} {takeProfitPrice stopPrice recoveryDebt
    maximumNotional maximumProjectedStopLoss : ℚ} {result : QuantizedRiskResult}
    (h : recalculateQuantizedRisk validation instrument entrySide takeProfitPrice stopPrice
      recoveryDebt maximumNotional maximumProjectedStopLoss = .ok result) :
    ∃ debtless, recalculateQuantizedRisk validation instrument entrySide takeProfitPrice stopPrice
        0 maximumNotional maximumProjectedStopLoss = .ok debtless ∧
      debtless.accepted = result.accepted ∧ debtless.quantity = result.quantity ∧
      debtless.entryPrice = result.entryPrice ∧ debtless.notional = result.notional ∧
      debtless.projectedStopLoss = result.projectedStopLoss := by
  unfold recalculateQuantizedRisk at h ⊢
  split at h
  · exact absurd h (by simp)
  · split at h
    · exact absurd h (by simp)
    · obtain rfl := Except.ok.inj h
      refine ⟨_, if_neg (lt_irrefl 0), ?_, rfl, rfl, rfl, rfl⟩
      dsimp only
      rw [Bool.eq_iff_iff, List.isEmpty_iff, List.isEmpty_iff]
      simp only [List.append_eq_nil_iff, reportIf_eq_nil, lt_irrefl, false_and, not_false_eq_true,
        and_true, not_le]
      constructor
      · rintro ⟨⟨⟨⟨hvalid, hprofit⟩, hstop⟩, hnotional⟩, hloss⟩
        refine ⟨⟨⟨⟨⟨hvalid, hprofit⟩, hstop⟩, ?_⟩, hnotional⟩, hloss⟩
        rintro ⟨-, hzero⟩
        rw [max_eq_left hprofit.le] at hzero
        exact (mul_pos hprofit instrument.contractMultiplier_pos).ne' hzero
      · rintro ⟨⟨⟨⟨⟨hvalid, hprofit⟩, hstop⟩, -⟩, hnotional⟩, hloss⟩
        exact ⟨⟨⟨⟨hvalid, hprofit⟩, hstop⟩, hnotional⟩, hloss⟩

end CreditHedge
