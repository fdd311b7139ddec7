import CreditHedge.Domain.LiveOptionExecution

/-!
# The position of a put spread

`OptionLegPosition` and `PutCreditSpreadPosition` of `domain/option_position.py`, as built from the
totals of two legs. The tuple of fills a leg can carry besides is empty wherever the modelled code
builds one, so what is checked against it is left out, and no opening time is derived from it.

The entry paths read a position only for its matched quantity and its state, which is
`PutCreditSpreadPosition` of the model; `PutCreditSpread.toPosition` is the way there.
-/

set_option autoImplicit false

namespace CreditHedge

inductive OptionType where
  | put
  | call
  deriving DecidableEq, Repr

inductive LegSide where
  | long
  | short
  deriving DecidableEq, Repr

/-! ## Contracts and legs -/

structure OptionContractFields where
  symbol : String
  baseCoin : String
  quoteCoin : String
  settleCoin : String
  optionType : OptionType
  strike : ℚ
  expiryTimeUtc : Time
  contractMultiplier : ℚ
  deriving DecidableEq, Repr

/-- `OptionContract.__post_init__`. -/
def OptionContractFields.check (f : OptionContractFields) : Except Failure Unit := do
  requireText f.symbol "symbol"
  requireText f.baseCoin "base_coin"
  requireText f.quoteCoin "quote_coin"
  requireText f.settleCoin "settle_coin"
  refuseIf (f.strike ≤ 0) "strike must be positive"
  refuseIf (f.contractMultiplier ≤ 0) "contract multiplier must be positive"

structure OptionContract extends OptionContractFields where
  checked : toOptionContractFields.check = .ok ()
  deriving DecidableEq

def OptionContract.create : OptionContractFields → Except Failure OptionContract :=
  build OptionContractFields.check OptionContract.mk

structure OptionLegFields where
  contract : OptionContract
  side : LegSide
  requestedQuantity : ℚ
  filledQuantity : ℚ
  averageEntryPrice : ℚ
  feesPaid : ℚ
  deriving DecidableEq

namespace OptionLegFields

variable (f : OptionLegFields)

/-- `OptionLegPosition.__post_init__`. -/
def check : Except Failure Unit := do
  refuseIf (f.requestedQuantity ≤ 0) "requested quantity must be positive"
  refuseIf (¬ (0 ≤ f.filledQuantity ∧ f.filledQuantity ≤ f.requestedQuantity))
    "filled quantity must be between zero and requested"
  refuseIf (f.feesPaid < 0) "fees paid cannot be negative"
  refuseIf (f.filledQuantity = 0 ∧ f.averageEntryPrice ≠ 0)
    "unfilled leg must have zero average entry price"
  refuseIf (0 < f.filledQuantity ∧ f.averageEntryPrice ≤ 0)
    "filled leg must have a positive average entry price"

/-- What the checks of a leg come to. -/
structure Valid : Prop where
  requested_pos : 0 < f.requestedQuantity
  filled_nonneg : 0 ≤ f.filledQuantity
  filled_le : f.filledQuantity ≤ f.requestedQuantity
  fees_nonneg : 0 ≤ f.feesPaid
  unfilled : f.filledQuantity = 0 → f.averageEntryPrice = 0
  filled : 0 < f.filledQuantity → 0 < f.averageEntryPrice

variable {f}

theorem check_eq_ok : f.check = .ok () ↔ f.Valid := by
  simp only [check, bind_unit_eq_ok, refuseIf_eq_ok, not_le, not_lt, not_not]
  constructor
  · rintro ⟨hrequested, ⟨hnonneg, hle⟩, hfees, hunfilled, hfilled⟩
    exact ⟨hrequested, hnonneg, hle, hfees, fun h => not_not.mp fun hne => hunfilled ⟨h, hne⟩,
      fun h => not_le.mp fun hle => hfilled ⟨h, hle⟩⟩
  · intro h
    exact ⟨h.requested_pos, ⟨h.filled_nonneg, h.filled_le⟩, h.fees_nonneg,
      fun hzero => hzero.2 (h.unfilled hzero.1),
      fun hpos => absurd (h.filled hpos.1) (not_lt.mpr hpos.2)⟩

end OptionLegFields

structure OptionLeg extends OptionLegFields where
  checked : toOptionLegFields.check = .ok ()
  deriving DecidableEq

namespace OptionLeg

def create : OptionLegFields → Except Failure OptionLeg :=
  build OptionLegFields.check OptionLeg.mk

theorem valid (leg : OptionLeg) : leg.toOptionLegFields.Valid :=
  OptionLegFields.check_eq_ok.mp leg.checked

/-- The quantities of a leg. -/
def toPosition (leg : OptionLeg) : OptionLegPosition where
  requestedQuantity := leg.requestedQuantity
  filledQuantity := leg.filledQuantity
  requestedQuantity_pos := leg.valid.requested_pos
  filledQuantity_nonneg := leg.valid.filled_nonneg
  filledQuantity_le := leg.valid.filled_le

end OptionLeg

/-! ## The spread -/

structure PutCreditSpreadFields where
  shortPut : OptionLeg
  longPut : OptionLeg
  state : OptionPositionState
  openedTimeUtc : Option Time
  deriving DecidableEq

namespace PutCreditSpreadFields

variable (f : PutCreditSpreadFields)

def matchedQuantity : ℚ := min f.shortPut.filledQuantity f.longPut.filledQuantity

def hasNakedShort : Bool := f.longPut.filledQuantity < f.shortPut.filledQuantity

def shortProceeds : ℚ :=
  f.shortPut.averageEntryPrice * f.shortPut.filledQuantity * f.shortPut.contract.contractMultiplier

def longCost : ℚ :=
  f.longPut.averageEntryPrice * f.longPut.filledQuantity * f.longPut.contract.contractMultiplier

def totalEntryFees : ℚ := f.shortPut.feesPaid + f.longPut.feesPaid

def actualNetCredit : ℚ := f.shortProceeds - f.longCost - f.totalEntryFees

/-- `_validate_contracts`. -/
def validateContracts : Except Failure Unit := do
  let short := f.shortPut.contract
  let long := f.longPut.contract
  refuseIf (f.shortPut.side ≠ .short ∨ f.longPut.side ≠ .long)
    "credit spread requires short and long leg sides"
  refuseIf (short.optionType ≠ .put ∨ long.optionType ≠ .put) "credit spread legs must both be puts"
  refuseIf
    ((short.baseCoin, short.quoteCoin, short.settleCoin) ≠
      (long.baseCoin, long.quoteCoin, long.settleCoin))
    "credit spread legs must use the same coins"
  refuseIf (short.expiryTimeUtc ≠ long.expiryTimeUtc)
    "credit spread legs must have the same expiry"
  refuseIf (short.contractMultiplier ≠ long.contractMultiplier)
    "credit spread legs must have the same multiplier"
  refuseIf (short.strike ≤ long.strike) "short put strike must be above long put strike"

/-- `_validate_protection`. -/
def validateProtection : Except Failure Unit :=
  refuseIf (f.hasNakedShort = true) "short fill would create naked short option exposure"

/-- `_validate_state`. -/
def validateState : Except Failure Unit :=
  match f.state with
  | .planned =>
    refuseIf (f.shortPut.filledQuantity ≠ 0 ∨ f.longPut.filledQuantity ≠ 0)
      "PLANNED position cannot contain fills"
  | .longProtectionPending =>
    refuseIf (f.shortPut.filledQuantity ≠ 0) "short cannot fill while long protection is pending"
  | .longProtectionFilled => do
    refuseIf (f.longPut.filledQuantity ≤ 0) "state requires confirmed protective long"
    refuseIf (f.shortPut.filledQuantity ≠ 0) "short cannot fill before premium submission"
  | .shortPremiumPending =>
    refuseIf (f.longPut.filledQuantity ≤ 0) "state requires confirmed protective long"
  | .open => do
    refuseIf (f.matchedQuantity ≤ 0) "OPEN requires confirmed matched quantity"
    refuseIf (f.shortPut.filledQuantity ≠ f.longPut.filledQuantity)
      "OPEN requires equal confirmed leg quantities"
    refuseIf (f.actualNetCredit ≤ 0) "OPEN requires positive actual net credit"
  | .partiallyOpen => do
    refuseIf (f.matchedQuantity ≤ 0) "PARTIALLY_OPEN requires confirmed matched quantity"
    refuseIf (f.shortPut.filledQuantity = f.longPut.filledQuantity)
      "equal filled quantities must use OPEN state"
  | .closing | .closed | .error => .ok ()

/-- `PutCreditSpreadPosition.__post_init__`. -/
def check : Except Failure Unit := do
  f.validateContracts
  f.validateProtection
  f.validateState

/-- The terms that the legs of a spread have in common. -/
structure SameTerms (short long : OptionContractFields) : Prop where
  puts : short.optionType = .put ∧ long.optionType = .put
  baseCoin : short.baseCoin = long.baseCoin
  quoteCoin : short.quoteCoin = long.quoteCoin
  settleCoin : short.settleCoin = long.settleCoin
  expiry : short.expiryTimeUtc = long.expiryTimeUtc
  multiplier : short.contractMultiplier = long.contractMultiplier
  strikes : long.strike < short.strike

variable {f}

theorem validateContracts_eq_ok {u : Unit} : f.validateContracts = .ok u ↔
    (f.shortPut.side = .short ∧ f.longPut.side = .long) ∧
      SameTerms f.shortPut.contract.toOptionContractFields
        f.longPut.contract.toOptionContractFields := by
  simp only [validateContracts, bind_unit_eq_ok, refuseIf_eq_ok, not_or, not_not, not_le,
    Prod.mk.injEq]
  constructor
  · rintro ⟨hsides, hputs, ⟨hbase, hquote, hsettle⟩, hexpiry, hmultiplier, hstrikes⟩
    exact ⟨hsides, hputs, hbase, hquote, hsettle, hexpiry, hmultiplier, hstrikes⟩
  · rintro ⟨hsides, h⟩
    exact ⟨hsides, h.puts, ⟨h.baseCoin, h.quoteCoin, h.settleCoin⟩, h.expiry, h.multiplier,
      h.strikes⟩

theorem validateProtection_eq_ok {u : Unit} : f.validateProtection = .ok u ↔
    f.shortPut.filledQuantity ≤ f.longPut.filledQuantity := by
  simp [validateProtection, hasNakedShort]

theorem validateState_open {u : Unit} (h : f.state = .open) : f.validateState = .ok u ↔
    0 < f.matchedQuantity ∧ f.shortPut.filledQuantity = f.longPut.filledQuantity ∧
      0 < f.actualNetCredit := by
  unfold validateState
  rw [h]
  simp only [bind_unit_eq_ok, refuseIf_eq_ok, not_le, not_not]

theorem validateState_partiallyOpen {u : Unit} (h : f.state = .partiallyOpen) :
    f.validateState = .ok u ↔
      0 < f.matchedQuantity ∧ f.shortPut.filledQuantity ≠ f.longPut.filledQuantity := by
  unfold validateState
  rw [h]
  simp only [bind_unit_eq_ok, refuseIf_eq_ok, not_le]

end PutCreditSpreadFields

structure PutCreditSpread extends PutCreditSpreadFields where
  checked : toPutCreditSpreadFields.check = .ok ()
  deriving DecidableEq

namespace PutCreditSpread

def create : PutCreditSpreadFields → Except Failure PutCreditSpread :=
  build PutCreditSpreadFields.check PutCreditSpread.mk

theorem create_eq_ok {f : PutCreditSpreadFields} {position : PutCreditSpread} :
    create f = .ok position ↔ position.toPutCreditSpreadFields = f := by
  refine build_eq_ok.trans ⟨?_, ?_⟩
  · rintro ⟨_, rfl⟩
    rfl
  · rintro rfl
    exact ⟨position.checked, rfl⟩

theorem exists_create_iff {f : PutCreditSpreadFields} :
    (∃ position, create f = .ok position) ↔ f.check = .ok () := by
  constructor
  · rintro ⟨position, h⟩
    exact create_eq_ok.mp h ▸ position.checked
  · intro h
    exact ⟨⟨f, h⟩, create_eq_ok.mpr rfl⟩

/-- What the entry paths read of a position. -/
def toPosition (position : PutCreditSpread) : PutCreditSpreadPosition where
  shortPut := position.shortPut.toPosition
  longPut := position.longPut.toPosition
  state := position.state
  protected_short := by
    have h := position.checked
    simp only [PutCreditSpreadFields.check, bind_unit_eq_ok] at h
    exact PutCreditSpreadFields.validateProtection_eq_ok.mp h.2.1
  open_matched hopen := by
    have h := position.checked
    simp only [PutCreditSpreadFields.check, bind_unit_eq_ok] at h
    obtain ⟨hmatched, hequal, -⟩ := (PutCreditSpreadFields.validateState_open hopen).mp h.2.2
    exact ⟨hmatched, hequal⟩

theorem toPosition_matchedQuantity (position : PutCreditSpread) :
    position.toPosition.matchedQuantity = position.matchedQuantity := rfl

end PutCreditSpread

end CreditHedge
