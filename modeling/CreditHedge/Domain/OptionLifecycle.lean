import CreditHedge.Failure
import Mathlib.Algebra.Order.Field.Rat

/-!
# When a part of a spread is enough

The completion policy of `domain/option_lifecycle.py`: how much of both legs has to be filled, and
how far from what was expected the credit may be, for an option entry to count as complete. What is
done with an unmatched long is read by no entry path and is left out.
-/

set_option autoImplicit false

namespace CreditHedge

structure OptionEntryPolicyFields where
  maxLegWaitSeconds : ℚ
  allowPartialSpread : Bool
  minimumMatchedQuantity : ℚ
  maximumCreditDeviation : ℚ
  deriving DecidableEq, Repr

/-- `OptionEntryPolicy.__post_init__`. -/
def OptionEntryPolicyFields.check (f : OptionEntryPolicyFields) : Except Failure Unit := do
  refuseIf (f.maxLegWaitSeconds ≤ 0) "max leg wait seconds must be positive"
  refuseIf (f.minimumMatchedQuantity ≤ 0) "minimum matched quantity must be positive"
  refuseIf (f.maximumCreditDeviation < 0) "maximum credit deviation cannot be negative"

structure OptionEntryPolicy extends OptionEntryPolicyFields where
  checked : toOptionEntryPolicyFields.check = .ok ()
  deriving DecidableEq

namespace OptionEntryPolicy

variable (policy : OptionEntryPolicy)

def acceptsCompletion (requestedQuantity matchedQuantity creditDeviation : ℚ) :
    Except Failure Bool := do
  refuseIf (requestedQuantity ≤ 0) "requested quantity must be positive"
  refuseIf (matchedQuantity < 0 ∨ requestedQuantity < matchedQuantity)
    "matched quantity must be between zero and requested"
  refuseIf (creditDeviation < 0) "credit deviation cannot be negative"
  if matchedQuantity < policy.minimumMatchedQuantity then pure false
  else if policy.maximumCreditDeviation < creditDeviation then pure false
  else pure (policy.allowPartialSpread || matchedQuantity = requestedQuantity)

end OptionEntryPolicy

end CreditHedge
