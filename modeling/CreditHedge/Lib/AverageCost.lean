import Mathlib.Algebra.Field.Basic
import Mathlib.Tactic.Ring

/-!
# Average-cost books

A short position that is sold into at any price and bought back in parts is kept by three numbers:
its quantity, the average price it was sold at, and the profit realized so far. The average is
recomputed at every sale and untouched by a repurchase.

What makes the three numbers a book is that nothing is lost between them: the cash taken in is
always what has been realized and what the open position was sold for (`cash_sell`,
`cash_buyBack`).
-/

set_option autoImplicit false

structure AverageCost (K : Type) where
  quantity : K
  average : K
  realized : K

namespace AverageCost

variable {K : Type} [Field K] (b : AverageCost K)

/-- What the sales have brought less what the repurchases have cost. -/
def cash : K := b.realized + b.average * b.quantity

def sell (price quantity : K) : AverageCost K where
  quantity := b.quantity + quantity
  average := (b.average * b.quantity + price * quantity) / (b.quantity + quantity)
  realized := b.realized

def buyBack [DecidableEq K] (price quantity : K) : AverageCost K where
  quantity := b.quantity - quantity
  average := if b.quantity - quantity = 0 then 0 else b.average
  realized := b.realized + (b.average - price) * quantity

theorem cash_sell {price quantity : K} (h : b.quantity + quantity ≠ 0) :
    (b.sell price quantity).cash = b.cash + price * quantity := by
  unfold cash sell
  dsimp only
  rw [div_mul_cancel₀ _ h, add_assoc]

/-- A flat position has no average, and none is needed. -/
theorem cash_buyBack [DecidableEq K] (price quantity : K) :
    (b.buyBack price quantity).cash = b.cash - price * quantity := by
  unfold cash buyBack
  dsimp only
  split
  · rename_i hflat
    rw [hflat, eq_of_sub_eq_zero hflat]
    ring
  · ring

end AverageCost
