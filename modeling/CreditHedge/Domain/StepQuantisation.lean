import CreditHedge.Domain.InstrumentRules

/-!
# What the quantisation promises

`floor_to_step` and `ceil_to_step` round into the multiples of the step, one down and one up
(`floorToStep_roundsDown`, `ceilToStep_roundsUp`), and everything said of them here follows.
`quantize_limit_price` chooses between the two with one comparison, so there are two cases and not
four: an order is rounded up when it sells passively or buys aggressively.
-/

set_option autoImplicit false

namespace CreditHedge

section Steps

variable {step : ℚ}

/-- The two roundings of a value enclose it, less than a step away. -/
structure Encloses (step value : ℚ) : Prop where
  floor_mem : floorToStep value step ∈ grid step
  floor_le : floorToStep value step ≤ value
  lt_floor_add : value < floorToStep value step + step
  ceil_mem : ceilToStep value step ∈ grid step
  sub_lt_ceil : ceilToStep value step - step < value
  le_ceil : value ≤ ceilToStep value step

theorem encloses (hstep : 0 < step) (value : ℚ) : Encloses step value where
  floor_mem := (floorToStep_roundsDown hstep).mem value
  floor_le := (floorToStep_roundsDown hstep).le value
  lt_floor_add := lt_floor_mul_add hstep value
  ceil_mem := (ceilToStep_roundsUp hstep).mem value
  sub_lt_ceil := ceil_mul_sub_lt hstep value
  le_ceil := (ceilToStep_roundsUp hstep).le value

end Steps

/-! ## Limit prices -/

/-- The roundings that go up. -/
def roundsPriceUp : OrderSide → PriceQuantizationPolicy → Bool
  | .sell, .passive | .buy, .aggressive => true
  | .sell, .aggressive | .buy, .passive => false

theorem quantizeLimitPrice_eq (value tickSize : ℚ) (side : OrderSide)
    (policy : PriceQuantizationPolicy) :
    quantizeLimitPrice value tickSize side policy =
      if roundsPriceUp side policy then ceilToStep value tickSize
      else floorToStep value tickSize := by
  cases side <;> cases policy <;> rfl

section Prices

variable {tickSize : ℚ}

theorem quantizeLimitPrice_mem (htick : 0 < tickSize) (value : ℚ) (side : OrderSide)
    (policy : PriceQuantizationPolicy) :
    quantizeLimitPrice value tickSize side policy ∈ grid tickSize := by
  rw [quantizeLimitPrice_eq]
  split
  · exact (ceilToStep_roundsUp htick).mem value
  · exact (floorToStep_roundsDown htick).mem value

theorem le_quantizeLimitPrice (htick : 0 < tickSize) (value : ℚ) {side : OrderSide}
    {policy : PriceQuantizationPolicy} (h : roundsPriceUp side policy = true) :
    value ≤ quantizeLimitPrice value tickSize side policy := by
  rw [quantizeLimitPrice_eq, if_pos h]
  exact (ceilToStep_roundsUp htick).le value

theorem quantizeLimitPrice_le (htick : 0 < tickSize) (value : ℚ) {side : OrderSide}
    {policy : PriceQuantizationPolicy} (h : roundsPriceUp side policy = false) :
    quantizeLimitPrice value tickSize side policy ≤ value := by
  rw [quantizeLimitPrice_eq, if_neg (by simp [h])]
  exact (floorToStep_roundsDown htick).le value

end Prices

/-- What the roundings to a step promise: a value is enclosed by its two, both are idempotent and
    monotone, and a limit price never moves against its side and policy. -/
structure Directed (step : ℚ) : Prop where
  encloses (value : ℚ) : Encloses step value
  floor_floor (value : ℚ) :
    floorToStep (floorToStep value step) step = floorToStep value step
  ceil_ceil (value : ℚ) : ceilToStep (ceilToStep value step) step = ceilToStep value step
  floor_mono : Monotone fun value => floorToStep value step
  ceil_mono : Monotone fun value => ceilToStep value step
  sell_passive (value : ℚ) : value ≤ quantizeLimitPrice value step .sell .passive
  buy_passive (value : ℚ) : quantizeLimitPrice value step .buy .passive ≤ value
  sell_aggressive (value : ℚ) : quantizeLimitPrice value step .sell .aggressive ≤ value
  buy_aggressive (value : ℚ) : value ≤ quantizeLimitPrice value step .buy .aggressive

theorem directed {step : ℚ} (hstep : 0 < step) : Directed step where
  encloses := CreditHedge.encloses hstep
  floor_floor value := (floorToStep_roundsDown hstep).eq_of_mem ((encloses hstep value).floor_mem)
  ceil_ceil value := (ceilToStep_roundsUp hstep).eq_of_mem ((encloses hstep value).ceil_mem)
  floor_mono := (floorToStep_roundsDown hstep).monotone
  ceil_mono := (ceilToStep_roundsUp hstep).monotone
  sell_passive value := le_quantizeLimitPrice hstep value rfl
  buy_passive value := quantizeLimitPrice_le hstep value rfl
  sell_aggressive value := quantizeLimitPrice_le hstep value rfl
  buy_aggressive value := le_quantizeLimitPrice hstep value rfl

end CreditHedge
