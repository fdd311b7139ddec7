import Mathlib.Algebra.Order.Field.Rat
import Mathlib.Tactic.Linarith
import Mathlib.Tactic.Ring
import Mathlib.Tactic.FieldSimp
import CreditHedge.Failure

/-!
# The put credit spread

`core/credit_spread.py`: a same-expiry ETH put credit spread, evaluated at its terminal value.

The source computes in `Decimal`; here every price, quantity and amount is a rational, that is,
the source's arithmetic with no digit ever rounded away. The constructor's checks are the fields
of the structure: a `CreditSpread` that the source would refuse to build cannot be written down.
-/

set_option autoImplicit false

namespace CreditHedge

structure CreditSpread where
  spot : ℚ
  shortPutStrike : ℚ
  longPutStrike : ℚ
  optionQuantity : ℚ
  premiumCredit : ℚ
  spot_pos : 0 < spot
  strikes_lt : longPutStrike < shortPutStrike
  longPutStrike_pos : 0 < longPutStrike
  optionQuantity_pos : 0 < optionQuantity
  premiumCredit_nonneg : 0 ≤ premiumCredit
  premiumCredit_le : premiumCredit ≤ (shortPutStrike - longPutStrike) * optionQuantity

namespace CreditSpread

/-- `CreditSpread.__init__`: the checks in the source's order, each with its own message. -/
def create (spot shortPutStrike longPutStrike optionQuantity premiumCredit : ℚ) :
    Except Failure CreditSpread :=
  if hs : spot ≤ 0 then .error (.valueError "spot must be positive")
  else if hk : shortPutStrike ≤ longPutStrike then
    .error (.valueError "short put strike must be above long put strike")
  else if hl : longPutStrike ≤ 0 then .error (.valueError "long put strike must be positive")
  else if hq : optionQuantity ≤ 0 then .error (.valueError "option quantity must be positive")
  else if hp : premiumCredit < 0 then
    .error (.valueError "premium credit cannot be negative")
  else if hm : premiumCredit > (shortPutStrike - longPutStrike) * optionQuantity then
    .error (.valueError "premium credit cannot exceed total spread width")
  else
    .ok
      { spot, shortPutStrike, longPutStrike, optionQuantity, premiumCredit
        spot_pos := pos_of_not_nonpos hs
        strikes_lt := not_le.mp hk
        longPutStrike_pos := pos_of_not_nonpos hl
        optionQuantity_pos := pos_of_not_nonpos hq
        premiumCredit_nonneg := nonneg_of_not_neg hp
        premiumCredit_le := not_lt.mp hm }

variable (spread : CreditSpread)

/-- Signed terminal-value P&L at `price`. -/
def expiryPnl (price : ℚ) : ℚ :=
  let shortIntrinsic := max (spread.shortPutStrike - price) 0
  let longIntrinsic := max (spread.longPutStrike - price) 0
  spread.premiumCredit - spread.optionQuantity * shortIntrinsic
    + spread.optionQuantity * longIntrinsic

/-- The premium retained above the short strike. -/
def maxProfit : ℚ := spread.premiumCredit

/-- The positive maximum-loss magnitude. -/
def maxLoss : ℚ :=
  let spreadWidth := spread.shortPutStrike - spread.longPutStrike
  spread.optionQuantity * spreadWidth - spread.premiumCredit

/-! ## The three pieces of the payoff -/

theorem expiryPnl_of_ge_short {price : ℚ} (h : spread.shortPutStrike ≤ price) :
    spread.expiryPnl price = spread.premiumCredit := by
  have hl := spread.strikes_lt
  simp only [expiryPnl]
  rw [max_eq_right (by linarith), max_eq_right (by linarith)]
  ring

theorem expiryPnl_of_between {price : ℚ} (hl : spread.longPutStrike ≤ price)
    (hs : price ≤ spread.shortPutStrike) :
    spread.expiryPnl price =
      spread.premiumCredit - spread.optionQuantity * (spread.shortPutStrike - price) := by
  simp only [expiryPnl]
  rw [max_eq_left (by linarith), max_eq_right (by linarith)]
  ring

theorem expiryPnl_of_le_long {price : ℚ} (h : price ≤ spread.longPutStrike) :
    spread.expiryPnl price =
      spread.premiumCredit
        - spread.optionQuantity * (spread.shortPutStrike - spread.longPutStrike) := by
  have hl := spread.strikes_lt
  simp only [expiryPnl]
  rw [max_eq_left (by linarith), max_eq_left (by linarith)]
  ring

/-- Above a level `x` of the loss region the spread has lost at most what it has lost at `x`. -/
theorem le_expiryPnl {price x : ℚ} (hx : x ≤ price) (hl : spread.longPutStrike ≤ x)
    (hs : x ≤ spread.shortPutStrike) :
    spread.premiumCredit - spread.optionQuantity * (spread.shortPutStrike - x)
      ≤ spread.expiryPnl price := by
  have hq := spread.optionQuantity_pos
  rcases le_total price spread.shortPutStrike with h | h
  · rw [spread.expiryPnl_of_between (hl.trans hx) h]
    nlinarith
  · rw [spread.expiryPnl_of_ge_short h]
    nlinarith

/-- The spread never loses more than `maxLoss`. -/
theorem neg_maxLoss_le_expiryPnl (price : ℚ) : -spread.maxLoss ≤ spread.expiryPnl price := by
  have hk := spread.strikes_lt
  simp only [maxLoss]
  rcases le_total price spread.longPutStrike with h | h
  · rw [spread.expiryPnl_of_le_long h]
    linarith
  · have := spread.le_expiryPnl h le_rfl hk.le
    linarith

end CreditSpread
end CreditHedge
