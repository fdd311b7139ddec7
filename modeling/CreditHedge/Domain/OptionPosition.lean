import CreditHedge.Domain.Execution

/-!
# The option position

The part of `domain/option_position.py` the entry paths read: how much of the put spread is filled
on both legs, and the position's state. A position that says `OPEN` has the quantity to show for
it, which is one of the constructor's checks and a field here.
-/

set_option autoImplicit false

namespace CreditHedge

inductive OptionPositionState where
  | planned
  | longProtectionPending
  | longProtectionFilled
  | shortPremiumPending
  | open
  | partiallyOpen
  | closing
  | closed
  | error
  deriving DecidableEq, Repr

structure OptionLegPosition where
  requestedQuantity : ℚ
  filledQuantity : ℚ
  requestedQuantity_pos : 0 < requestedQuantity
  filledQuantity_nonneg : 0 ≤ filledQuantity
  filledQuantity_le : filledQuantity ≤ requestedQuantity

structure PutCreditSpreadPosition where
  shortPut : OptionLegPosition
  longPut : OptionLegPosition
  state : OptionPositionState
  /-- `_validate_protection`: no naked short. -/
  protected_short : shortPut.filledQuantity ≤ longPut.filledQuantity
  open_matched : state = .open →
    0 < min shortPut.filledQuantity longPut.filledQuantity ∧
      shortPut.filledQuantity = longPut.filledQuantity

def PutCreditSpreadPosition.matchedQuantity (position : PutCreditSpreadPosition) : ℚ :=
  min position.shortPut.filledQuantity position.longPut.filledQuantity

end CreditHedge
