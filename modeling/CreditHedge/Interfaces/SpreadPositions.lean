import CreditHedge.Domain.InstrumentRules
import CreditHedge.Domain.PutCreditSpread
import CreditHedge.Infrastructure.BybitPayloads

/-!
# The position of an executed spread

`_put_spread_position` of `interfaces/demo_runner.py`: the position that risk is measured on, built
from the snapshot the executions have left (`domain/live_option_execution.py`) and the instruments
the exchange lists.

The two records have their own notions of credit. A snapshot values the matched quantity only, and
charges the long's fees pro rata; a position has paid for everything that was filled. They have
their own notions of `PARTIALLY_OPEN` too: short of what was requested, or with unequal legs. For an
open spread all of this is the same (`putSpreadPosition_open`); for a partially open one it never is
(`putSpreadPosition_partiallyOpen`).
-/

set_option autoImplicit false

namespace CreditHedge

/-! ## Reachable snapshots -/

/-- The snapshots that the reducers come to. -/
inductive OptionReached : OptionSpreadExecutionSnapshot → Prop
  | longIntent {s : OptionSpreadExecutionSnapshot} (request : PlaceOrderRequest)
      (cycleId shortSymbol : String) (expiryTimeUtc : Time) (expectedNetCredit : ℚ)
      (persistedAt : Time) :
      OptionSpreadExecutionSnapshot.forLongIntent request cycleId shortSymbol expiryTimeUtc
        expectedNetCredit persistedAt = .ok s → OptionReached s
  | acknowledged {s s' : OptionSpreadExecutionSnapshot} (acknowledgement : OrderRequestAck)
      (updatedAt : Time) : OptionReached s →
      acknowledgeOptionOrder s acknowledgement updatedAt = .ok s' → OptionReached s'
  | executed {s s' : OptionSpreadExecutionSnapshot} (execution : ExecutionUpdate)
      (updatedAt : Time) : OptionReached s →
      applyOptionExecution s execution updatedAt = .ok s' → OptionReached s'
  | longFinalized {s s' : OptionSpreadExecutionSnapshot} (policy : OptionEntryPolicy)
      (updatedAt : Time) : OptionReached s →
      finalizeProtectiveLong s policy updatedAt = .ok s' → OptionReached s'
  | shortStarted {s s' : OptionSpreadExecutionSnapshot} (request : PlaceOrderRequest)
      (updatedAt : Time) : OptionReached s →
      startShortPremium s request updatedAt = .ok s' → OptionReached s'
  | shortFinalized {s s' : OptionSpreadExecutionSnapshot} (policy : OptionEntryPolicy)
      (updatedAt : Time) : OptionReached s →
      finalizeShortPremium s policy updatedAt = .ok s' → OptionReached s'
  | failed {s s' : OptionSpreadExecutionSnapshot} (updatedAt : Time) : OptionReached s →
      markOptionExecutionError s updatedAt = .ok s' → OptionReached s'

section Reached

variable {s s' : OptionSpreadExecutionSnapshot} {updatedAt : Time}

theorem OptionSpreadFields.matchedQuantity_eq (s : OptionSpreadExecutionSnapshot) :
    s.matchedQuantity = s.shortFilledQuantity := min_eq_right s.valid.short_le

/-- A spread is taken for complete only if its short is filled. -/
theorem short_pos_of_finalized {policy : OptionEntryPolicy}
    (h : finalizeShortPremium s policy updatedAt = .ok s') (hstate : s'.state = .partiallyOpen) :
    0 < s'.shortFilledQuantity := by
  simp only [finalizeShortPremium, bind_eq_ok, OptionSpreadExecutionSnapshot.create_eq_ok] at h
  obtain ⟨accepted, haccepts, h⟩ := h
  have hsame : s'.shortFilledQuantity = s.shortFilledQuantity := by rw [h]
  rw [hsame]
  cases accepted with
  | false =>
    have herror : s'.state = .error := by rw [h]; rfl
    exact absurd (herror.symm.trans hstate) (by simp)
  | true =>
    by_cases hcredit : 0 < s.actualNetCredit
    · refine lt_of_le_of_ne s.valid.short_nonneg fun hzero => ?_
      -- without a short there is no credit
      have hnone : s.actualNetCredit = 0 :=
        if_pos ((OptionSpreadFields.matchedQuantity_eq s).trans hzero.symm)
      exact absurd hcredit (by rw [hnone]; exact lt_irrefl 0)
    · have hrefuses : acceptsSpread s policy = .ok false := if_neg hcredit
      exact absurd (hrefuses.symm.trans haccepts) (by simp)

/-- **A partially open spread has a short**, whatever is filled afterwards. -/
theorem OptionReached.short_pos (h : OptionReached s) (hstate : s.state = .partiallyOpen) :
    0 < s.shortFilledQuantity := by
  induction h with
  | longIntent request cycleId shortSymbol expiryTimeUtc expectedNetCredit persistedAt h =>
    simp only [OptionSpreadExecutionSnapshot.forLongIntent, bind_unit_eq_ok,
      OptionSpreadExecutionSnapshot.create_eq_ok] at h
    rw [h.2] at hstate
    cases hstate
  | acknowledged acknowledgement updatedAt _ h ih =>
    obtain ⟨hrevises, hsame, -⟩ := acknowledgeOptionOrder_eq_ok h
    rw [hrevises.shortFilledQuantity, add_zero]
    exact ih (hsame ▸ hstate)
  | executed execution updatedAt _ h ih =>
    obtain ⟨hsame, -, hfill⟩ := applyOptionExecution_eq_ok h
    -- a fill leaves the state, and adds to one of the legs
    have hbefore := ih (hsame ▸ hstate)
    rcases hfill with ⟨-, hrevises, -⟩ | ⟨-, -, hrevises, -⟩
    · rw [hrevises.shortFilledQuantity, add_zero]
      exact hbefore
    · rw [hrevises.shortFilledQuantity]
      exact add_pos hbefore execution.quantity_pos
  | longFinalized policy updatedAt _ h ih =>
    -- no state a long ends in is this one
    obtain ⟨-, -, hfinal | herror⟩ := finalizeProtectiveLong_eq_ok h
    · exact absurd (hfinal.symm.trans hstate) (by simp)
    · exact absurd (herror.symm.trans hstate) (by simp)
  | shortStarted request updatedAt _ h ih =>
    obtain ⟨-, -, hpending, -⟩ := startShortPremium_eq_ok h
    exact absurd (hpending.symm.trans hstate) (by simp)
  | shortFinalized policy updatedAt _ h ih => exact short_pos_of_finalized h hstate
  | failed updatedAt _ h ih =>
    obtain ⟨herror, -⟩ := markOptionExecutionError_eq_ok h
    exact absurd (herror.symm.trans hstate) (by simp)

end Reached

/-! ## The position of a snapshot -/

/-- An instrument with the terms that option contracts are made of. -/
structure OptionListing extends InstrumentSpec where
  baseCoin : String
  quoteCoin : String
  settleCoin : String
  deliveryTimeUtc : Option Time

/-- `_strike`: the third part of the symbol. -/
def strike (symbol : String) : Except Failure DecimalReading :=
  match (symbol.toList.splitOn '-')[2]? with
  | none => .error (.valueError ("invalid option symbol: " ++ symbol))
  | some part =>
    match decimalOfText (String.ofList part) with
    | .invalid => .error .invalidOperation
    | reading => .ok reading

/-- `_required_delivery`. -/
def requiredDelivery (instrument : OptionListing) : Except Failure Time :=
  match instrument.deliveryTimeUtc with
  | none => .error (.demoMutationRefused "option instrument has no delivery time")
  | some time => .ok time

/-- `contract` of `_put_spread_position`. -/
def contract (instrument : OptionListing) : Except Failure OptionContract := do
  let reading ← strike instrument.symbol
  let expiryTimeUtc ← requiredDelivery instrument
  match reading with
  | .finite strike =>
    OptionContract.create
      { symbol := instrument.symbol
        baseCoin := instrument.baseCoin
        quoteCoin := instrument.quoteCoin
        settleCoin := instrument.settleCoin
        optionType := .put
        strike
        expiryTimeUtc
        contractMultiplier := instrument.contractMultiplier }
  | _ => .error (.valueError "strike must be a finite Decimal")

/-- `by_symbol.get(symbol)`: the last instrument of a symbol is the one the dictionary keeps. -/
def bySymbol (instruments : List OptionListing) (symbol : String) : Option OptionListing :=
  instruments.reverse.find? fun instrument => instrument.symbol = symbol

def putSpreadPosition (snapshot : OptionSpreadExecutionSnapshot)
    (instruments : List OptionListing) : Except Failure PutCreditSpread :=
  match bySymbol instruments snapshot.longSymbol, bySymbol instruments snapshot.shortSymbol with
  | some longInstrument, some shortInstrument => do
    let shortContract ← contract shortInstrument
    let shortPut ← OptionLeg.create
      { contract := shortContract
        side := .short
        requestedQuantity := snapshot.requestedQuantity
        filledQuantity := snapshot.shortFilledQuantity
        averageEntryPrice := snapshot.shortAveragePrice
        feesPaid := snapshot.shortFees }
    let longContract ← contract longInstrument
    let longPut ← OptionLeg.create
      { contract := longContract
        side := .long
        requestedQuantity := snapshot.requestedQuantity
        filledQuantity := snapshot.longFilledQuantity
        averageEntryPrice := snapshot.longAveragePrice
        feesPaid := snapshot.longFees }
    PutCreditSpread.create
      { shortPut, longPut, state := snapshot.state, openedTimeUtc := snapshot.openedTimeUtc }
  | _, _ => .error (.demoMutationRefused "open option instruments are unavailable")

/-- `OptionSpreadExecutionSnapshot.has_naked_short`. -/
def OptionSpreadFields.hasNakedShort (f : OptionSpreadFields) : Bool :=
  f.longFilledQuantity < f.shortFilledQuantity

/-- What the unmatched part of the long has cost, and its share of the fees. -/
def OptionSpreadFields.unmatchedCost (f : OptionSpreadFields) : ℚ :=
  f.longAveragePrice * (f.longFilledQuantity - f.matchedQuantity) +
    f.longFees * (f.longFilledQuantity - f.matchedQuantity) / f.longFilledQuantity

/-- The exchange lists both legs, as a put spread on one coin with multiplier 1. -/
structure ListsSpread (snapshot : OptionSpreadExecutionSnapshot) (instruments : List OptionListing)
    (shortContract longContract : OptionContract) : Prop where
  short : ∃ instrument, bySymbol instruments snapshot.shortSymbol = some instrument ∧
    contract instrument = .ok shortContract
  long : ∃ instrument, bySymbol instruments snapshot.longSymbol = some instrument ∧
    contract instrument = .ok longContract
  terms : PutCreditSpreadFields.SameTerms shortContract.toOptionContractFields
    longContract.toOptionContractFields
  multiplier : shortContract.contractMultiplier = 1

/-! ## The two notions of credit -/

section Credit

open OptionSpreadFields

variable {s : OptionSpreadExecutionSnapshot} {instruments : List OptionListing}
  {shortContract longContract : OptionContract}

/-- The legs that the snapshot's totals make. -/
def shortLegOf (s : OptionSpreadFields) (contract : OptionContract) : OptionLegFields where
  contract
  side := .short
  requestedQuantity := s.requestedQuantity
  filledQuantity := s.shortFilledQuantity
  averageEntryPrice := s.shortAveragePrice
  feesPaid := s.shortFees

def longLegOf (s : OptionSpreadFields) (contract : OptionContract) : OptionLegFields where
  contract
  side := .long
  requestedQuantity := s.requestedQuantity
  filledQuantity := s.longFilledQuantity
  averageEntryPrice := s.longAveragePrice
  feesPaid := s.longFees

theorem shortLegOf_valid (s : OptionSpreadExecutionSnapshot) (contract : OptionContract) :
    (shortLegOf s.toOptionSpreadFields contract).Valid where
  requested_pos := s.valid.requested_pos
  filled_nonneg := s.valid.short_nonneg
  filled_le := s.valid.short_le.trans s.valid.long_le
  fees_nonneg := s.valid.shortLeg.fees_nonneg
  unfilled hzero := if_pos hzero
  filled hpos := by
    have haverage : s.shortAveragePrice = s.shortNotional / s.shortFilledQuantity :=
      if_neg hpos.ne'
    show 0 < s.shortAveragePrice
    rw [haverage]
    exact div_pos (s.valid.shortLeg.filled hpos) hpos

theorem longLegOf_valid (s : OptionSpreadExecutionSnapshot) (contract : OptionContract) :
    (longLegOf s.toOptionSpreadFields contract).Valid where
  requested_pos := s.valid.requested_pos
  filled_nonneg := s.valid.long_nonneg
  filled_le := s.valid.long_le
  fees_nonneg := s.valid.longLeg.fees_nonneg
  unfilled hzero := if_pos hzero
  filled hpos := by
    have haverage : s.longAveragePrice = s.longNotional / s.longFilledQuantity := if_neg hpos.ne'
    show 0 < s.longAveragePrice
    rw [haverage]
    exact div_pos (s.valid.longLeg.filled hpos) hpos

/-- What is built, before the checks of the spread. -/
theorem putSpreadPosition_eq (h : ListsSpread s instruments shortContract longContract) :
    ∃ shortPut longPut : OptionLeg,
      shortPut.toOptionLegFields = shortLegOf s.toOptionSpreadFields shortContract ∧
      longPut.toOptionLegFields = longLegOf s.toOptionSpreadFields longContract ∧
      putSpreadPosition s instruments = PutCreditSpread.create
        { shortPut, longPut, state := s.state, openedTimeUtc := s.openedTimeUtc } := by
  obtain ⟨shortInstrument, hshort, hshortContract⟩ := h.short
  obtain ⟨longInstrument, hlong, hlongContract⟩ := h.long
  have hshortLeg := OptionLegFields.check_eq_ok.mpr (shortLegOf_valid s shortContract)
  have hlongLeg := OptionLegFields.check_eq_ok.mpr (longLegOf_valid s longContract)
  refine ⟨⟨_, hshortLeg⟩, ⟨_, hlongLeg⟩, rfl, rfl, ?_⟩
  have hshortCreate : OptionLeg.create (shortLegOf s.toOptionSpreadFields shortContract) =
      .ok ⟨_, hshortLeg⟩ := build_eq_ok.mpr ⟨hshortLeg, rfl⟩
  have hlongCreate : OptionLeg.create (longLegOf s.toOptionSpreadFields longContract) =
      .ok ⟨_, hlongLeg⟩ := build_eq_ok.mpr ⟨hlongLeg, rfl⟩
  unfold putSpreadPosition
  rw [hshort, hlong]
  dsimp only
  unfold shortLegOf at hshortCreate
  unfold longLegOf at hlongCreate
  rw [hshortContract, hlongContract]
  show (OptionLeg.create _ >>= _) = _
  rw [hshortCreate]
  show (OptionLeg.create _ >>= _) = _
  rw [hlongCreate]
  rfl

/-- **The credit of the position** is that of the snapshot less what the unmatched long has cost. -/
theorem actualNetCredit_eq {f : PutCreditSpreadFields}
    (hshort : f.shortPut.toOptionLegFields = shortLegOf s.toOptionSpreadFields shortContract)
    (hlong : f.longPut.toOptionLegFields = longLegOf s.toOptionSpreadFields longContract)
    (hmultipliers : shortContract.contractMultiplier = 1 ∧ longContract.contractMultiplier = 1)
    (hpos : 0 < s.shortFilledQuantity) :
    f.actualNetCredit = s.actualNetCredit - s.unmatchedCost := by
  have hmatched := matchedQuantity_eq s
  have hlongPos : 0 < s.longFilledQuantity := hpos.trans_le s.valid.short_le
  have hcredit : s.actualNetCredit = s.shortAveragePrice * s.shortFilledQuantity -
      s.longAveragePrice * s.shortFilledQuantity -
      s.longFees * s.shortFilledQuantity / s.longFilledQuantity - s.shortFees := by
    have hunfold : s.actualNetCredit = s.shortAveragePrice * s.matchedQuantity -
        s.longAveragePrice * s.matchedQuantity -
        s.longFees * s.matchedQuantity / s.longFilledQuantity -
        s.shortFees * s.matchedQuantity / s.shortFilledQuantity :=
      if_neg (hmatched.symm ▸ hpos.ne')
    rw [hunfold, hmatched, mul_div_assoc s.shortFees, div_self hpos.ne', mul_one]
  have hposition : f.actualNetCredit = s.shortAveragePrice * s.shortFilledQuantity * 1 -
      s.longAveragePrice * s.longFilledQuantity * 1 - (s.shortFees + s.longFees) := by
    unfold PutCreditSpreadFields.actualNetCredit PutCreditSpreadFields.shortProceeds
      PutCreditSpreadFields.longCost PutCreditSpreadFields.totalEntryFees
    rw [hshort, hlong, ← hmultipliers.1]
    show _ - s.longAveragePrice * s.longFilledQuantity * longContract.contractMultiplier - _ = _
    rw [hmultipliers.2, ← hmultipliers.1]
    rfl
  rw [hposition, hcredit, OptionSpreadFields.unmatchedCost, hmatched]
  field_simp
  ring

end Credit

/-! ## Where the two records agree -/

/-- The quantities of a position are those of the snapshot. -/
structure SameQuantities (position : PutCreditSpread) (s : OptionSpreadExecutionSnapshot) :
    Prop where
  «matched» : position.matchedQuantity = s.matchedQuantity
  naked : position.hasNakedShort = s.hasNakedShort

section Agreement

open OptionSpreadFields

variable {s : OptionSpreadExecutionSnapshot} {instruments : List OptionListing}
  {shortContract longContract : OptionContract} {f : PutCreditSpreadFields}

/-- The legs are a protected spread of the snapshot's quantities. -/
theorem legs_fit (h : ListsSpread s instruments shortContract longContract)
    (hshort : f.shortPut.toOptionLegFields = shortLegOf s.toOptionSpreadFields shortContract)
    (hlong : f.longPut.toOptionLegFields = longLegOf s.toOptionSpreadFields longContract) :
    f.validateContracts = .ok () ∧ f.validateProtection = .ok () ∧
      f.matchedQuantity = s.matchedQuantity ∧ f.hasNakedShort = s.hasNakedShort := by
  have hshortFilled : f.shortPut.filledQuantity = s.shortFilledQuantity := by rw [hshort]; rfl
  have hlongFilled : f.longPut.filledQuantity = s.longFilledQuantity := by rw [hlong]; rfl
  refine ⟨?_, ?_, ?_, ?_⟩
  · refine PutCreditSpreadFields.validateContracts_eq_ok.mpr ⟨?_, ?_⟩
    · rw [hshort, hlong]
      exact ⟨rfl, rfl⟩
    · rw [hshort, hlong]
      exact h.terms
  · rw [PutCreditSpreadFields.validateProtection_eq_ok, hshortFilled, hlongFilled]
    exact s.valid.short_le
  · rw [PutCreditSpreadFields.matchedQuantity, hshortFilled, hlongFilled]
    exact min_comm _ _
  · rw [PutCreditSpreadFields.hasNakedShort, hshortFilled, hlongFilled]
    rfl

/-- **An open spread has the position it says it has.** -/
theorem putSpreadPosition_open (h : ListsSpread s instruments shortContract longContract)
    (hstate : s.state = .open) :
    ∃ position, putSpreadPosition s instruments = .ok position ∧ SameQuantities position s ∧
      position.actualNetCredit = s.actualNetCredit := by
  obtain ⟨shortPut, longPut, hshort, hlong, hput⟩ := putSpreadPosition_eq h
  let f : PutCreditSpreadFields :=
    { shortPut, longPut, state := s.state, openedTimeUtc := s.openedTimeUtc }
  obtain ⟨hcontracts, hprotection, hmatched, hnaked⟩ : _ ∧ _ ∧ f.matchedQuantity = _ ∧ _ :=
    legs_fit h hshort hlong
  obtain ⟨hlongFull, hshortFull, hcreditPos, -⟩ := s.valid.open hstate
  have hpos : 0 < s.shortFilledQuantity := hshortFull ▸ s.valid.requested_pos
  -- both legs are filled as requested, so nothing is unmatched
  have hnothing : s.unmatchedCost = 0 := by
    unfold unmatchedCost
    rw [matchedQuantity_eq, hlongFull, hshortFull, sub_self]
    simp
  have hcredit : f.actualNetCredit = s.actualNetCredit := by
    rw [actualNetCredit_eq hshort hlong ⟨h.multiplier, h.terms.multiplier ▸ h.multiplier⟩ hpos,
      hnothing, sub_zero]
  have hvalid : f.validateState = .ok () := by
    refine (PutCreditSpreadFields.validateState_open hstate).mpr ⟨?_, ?_, ?_⟩
    · rw [hmatched, matchedQuantity_eq]
      exact hpos
    · show shortPut.filledQuantity = longPut.filledQuantity
      rw [hshort, hlong]
      exact hshortFull.trans hlongFull.symm
    · rw [hcredit]
      exact hcreditPos
  have hcheck : f.check = .ok () := by
    simp only [PutCreditSpreadFields.check, bind_unit_eq_ok]
    exact ⟨hcontracts, hprotection, hvalid⟩
  exact ⟨⟨f, hcheck⟩, hput.trans (PutCreditSpread.create_eq_ok.mpr rfl), ⟨hmatched, hnaked⟩,
    hcredit⟩

/-- **A partially open spread** has a position exactly if its legs are unequal. The position has then
    cost more than the snapshot's credit says. -/
theorem putSpreadPosition_partiallyOpen (hreached : OptionReached s)
    (h : ListsSpread s instruments shortContract longContract)
    (hstate : s.state = .partiallyOpen) :
    ((∃ position, putSpreadPosition s instruments = .ok position) ↔
        s.shortFilledQuantity ≠ s.longFilledQuantity) ∧
      ∀ position, putSpreadPosition s instruments = .ok position → SameQuantities position s ∧
        position.actualNetCredit = s.actualNetCredit - s.unmatchedCost ∧ 0 < s.unmatchedCost := by
  obtain ⟨shortPut, longPut, hshort, hlong, hput⟩ := putSpreadPosition_eq h
  let f : PutCreditSpreadFields :=
    { shortPut, longPut, state := s.state, openedTimeUtc := s.openedTimeUtc }
  obtain ⟨hcontracts, hprotection, hmatched, hnaked⟩ : _ ∧ _ ∧ f.matchedQuantity = _ ∧ _ :=
    legs_fit h hshort hlong
  have hpos := hreached.short_pos hstate
  have hexists : (∃ position, putSpreadPosition s instruments = .ok position) ↔
      s.shortFilledQuantity ≠ s.longFilledQuantity := by
    rw [hput, PutCreditSpread.exists_create_iff]
    simp only [PutCreditSpreadFields.check, bind_unit_eq_ok]
    have hshortFilled : shortPut.filledQuantity = s.shortFilledQuantity := by rw [hshort]; rfl
    have hlongFilled : longPut.filledQuantity = s.longFilledQuantity := by rw [hlong]; rfl
    constructor
    · rintro ⟨-, -, hvalid⟩
      have hunequal := ((PutCreditSpreadFields.validateState_partiallyOpen hstate).mp hvalid).2
      rwa [← hshortFilled, ← hlongFilled]
    · intro hunequal
      refine ⟨hcontracts, hprotection, ?_⟩
      refine (PutCreditSpreadFields.validateState_partiallyOpen hstate).mpr ⟨?_, ?_⟩
      · rw [hmatched, matchedQuantity_eq]
        exact hpos
      · rwa [← hshortFilled, ← hlongFilled] at hunequal
  refine ⟨hexists, fun position hposition => ?_⟩
  have hfields : position.toPutCreditSpreadFields = f :=
    PutCreditSpread.create_eq_ok.mp (hput.symm.trans hposition)
  refine ⟨⟨by rw [hfields, hmatched], by rw [hfields, hnaked]⟩, ?_, ?_⟩
  · rw [hfields]
    exact actualNetCredit_eq hshort hlong ⟨h.multiplier, h.terms.multiplier ▸ h.multiplier⟩ hpos
  · have hlongPos : 0 < s.longFilledQuantity := hpos.trans_le s.valid.short_le
    -- the position exists, so the legs are unequal, and the longer one is the long
    have hless : s.shortFilledQuantity < s.longFilledQuantity :=
      lt_of_le_of_ne s.valid.short_le (hexists.mp ⟨position, hposition⟩)
    have haverage : 0 < s.longAveragePrice :=
      (longLegOf_valid s longContract).filled hlongPos
    unfold unmatchedCost
    rw [matchedQuantity_eq]
    have hunmatched := sub_pos.mpr hless
    have hfees := s.valid.longLeg.fees_nonneg
    exact add_pos_of_pos_of_nonneg (mul_pos haverage hunmatched)
      (div_nonneg (mul_nonneg hfees hunmatched.le) hlongPos.le)

/-- **The two records of a spread**: one view of an open spread, and two of a partially open one. -/
theorem putSpreadPosition_agrees (hreached : OptionReached s)
    (h : ListsSpread s instruments shortContract longContract) :
    (s.state = .open → ∃ position, putSpreadPosition s instruments = .ok position ∧
      SameQuantities position s ∧ position.actualNetCredit = s.actualNetCredit) ∧
    (s.state = .partiallyOpen →
      ((∃ position, putSpreadPosition s instruments = .ok position) ↔
        s.shortFilledQuantity ≠ s.longFilledQuantity) ∧
      ∀ position, putSpreadPosition s instruments = .ok position → SameQuantities position s ∧
        position.actualNetCredit = s.actualNetCredit - s.unmatchedCost ∧ 0 < s.unmatchedCost) :=
  ⟨putSpreadPosition_open h, putSpreadPosition_partiallyOpen hreached h⟩

end Agreement

/-! ## Spreads of two puts, filled in part -/

def longPutSymbol : String := "ETH-27MAR26-1800-P"

def shortPutSymbol : String := "ETH-27MAR26-2000-P"

/-- A put as the exchange lists it. -/
def listedPut (symbol settleCoin : String) : OptionListing where
  toInstrumentSpec := { ethPerp with symbol, category := .option }
  baseCoin := "ETH"
  quoteCoin := "USDT"
  settleCoin
  deliveryTimeUtc := some 100

/-- Both puts, the short one settled in this coin. -/
def listedPuts (settleCoin : String) : List OptionListing :=
  [listedPut longPutSymbol "USDT", listedPut shortPutSymbol settleCoin]

def putOrder (symbol orderLinkId : String) (side : OrderSide) (quantity price : ℚ) :
    PlaceOrderFields where
  category := .option
  symbol
  side
  orderType := .limit
  quantity
  orderLinkId
  price := some price
  timeInForce := .ioc

def putFill (order : PlaceOrderFields) (quantity price : ℚ) : Except Failure ExecutionUpdate :=
  build ExecutionFields.check ExecutionUpdate.mk
    { executionId := "fill-" ++ order.orderLinkId
      orderId := "order-" ++ order.orderLinkId
      orderLinkId := order.orderLinkId
      symbol := order.symbol
      side := order.side
      price
      quantity
      fee := 1
      isMaker := none
      executedAt := 1 }

def lenientPolicy : OptionEntryPolicy where
  maxLegWaitSeconds := 15
  allowPartialSpread := true
  minimumMatchedQuantity := 1
  maximumCreditDeviation := 100
  checked := by decide +kernel

def longOrder : PlaceOrderFields :=
  putOrder longPutSymbol "ECH-A-C0001-L00-OL-A01-0000" .buy 2 30

def shortOrder (quantity : ℚ) : PlaceOrderFields :=
  putOrder shortPutSymbol "ECH-A-C0001-L00-OS-A01-0000" .sell quantity 70

/-- Two are asked for; this much is filled of the long, and then this much of the short. -/
def filledSpread (longFill shortFill : ℚ) : Except Failure OptionSpreadExecutionSnapshot := do
  let long ← PlaceOrderRequest.create longOrder
  let s ← OptionSpreadExecutionSnapshot.forLongIntent long "C0001" shortPutSymbol 100 70 0
  let e ← putFill longOrder longFill 30
  let s ← applyOptionExecution s e 1
  let s ← finalizeProtectiveLong s lenientPolicy 2
  let short ← PlaceOrderRequest.create (shortOrder longFill)
  let s ← startShortPremium s short 3
  let e ← putFill (shortOrder longFill) shortFill 70
  let s ← applyOptionExecution s e 4
  finalizeShortPremium s lenientPolicy 5

theorem eq_ok_of_toOption {ε α : Type} {x : Except ε α} {a : α}
    (h : x.toOption = some a) : x = .ok a := by
  cases x with
  | ok b => exact congrArg _ (Option.some.inj h)
  | error e => cases h

theorem reached_filledSpread {longFill shortFill : ℚ} {s : OptionSpreadExecutionSnapshot}
    (h : filledSpread longFill shortFill = .ok s) : OptionReached s := by
  simp only [filledSpread, bind_eq_ok] at h
  obtain ⟨long, -, s₁, h₁, e₁, -, s₂, h₂, s₃, h₃, short, -, s₄, h₄, e₂, -, s₅, h₅, h⟩ := h
  exact .shortFinalized _ _ (.executed _ _ (.shortStarted _ _ (.longFinalized _ _
    (.executed _ _ (.longIntent _ _ _ _ _ _ h₁) h₂) h₃) h₄) h₅) h

def putContract (symbol : String) (strike : ℚ) : OptionContractFields where
  symbol
  baseCoin := "ETH"
  quoteCoin := "USDT"
  settleCoin := "USDT"
  optionType := .put
  strike
  expiryTimeUtc := 100
  contractMultiplier := 1

def longPutContract : OptionContract := ⟨putContract longPutSymbol 1800, by decide +kernel⟩

def shortPutContract : OptionContract := ⟨putContract shortPutSymbol 2000, by decide +kernel⟩

/-- The puts listed in one coin are a spread. -/
theorem listsSpread_listedPuts {s : OptionSpreadExecutionSnapshot}
    (hlong : s.longSymbol = longPutSymbol) (hshort : s.shortSymbol = shortPutSymbol) :
    ListsSpread s (listedPuts "USDT") shortPutContract longPutContract where
  short := ⟨listedPut shortPutSymbol "USDT", by rw [hshort]; rfl, by decide +kernel⟩
  long := ⟨listedPut longPutSymbol "USDT", by rw [hlong]; rfl, by decide +kernel⟩
  terms := ⟨⟨rfl, rfl⟩, rfl, rfl, rfl, rfl, rfl, by decide +kernel⟩
  multiplier := rfl

/-- Both legs filled whole. -/
theorem exists_filledWhole :
    ∃ s, OptionReached s ∧ s.state = .open ∧ s.longSymbol = longPutSymbol ∧
      s.shortSymbol = shortPutSymbol ∧ putSpreadPosition s (listedPuts "USDC") =
        .error (.valueError "credit spread legs must use the same coins") := by
  have hruns : ((filledSpread 2 2).toOption.any fun s =>
      decide (s.state = .open ∧ s.longSymbol = longPutSymbol ∧ s.shortSymbol = shortPutSymbol ∧
        putSpreadPosition s (listedPuts "USDC") =
          .error (.valueError "credit spread legs must use the same coins"))) = true := by
    decide +kernel
  obtain ⟨s, hs, hrun⟩ := (Option.any_eq_true ..).mp hruns
  exact ⟨s, reached_filledSpread (eq_ok_of_toOption hs), of_decide_eq_true hrun⟩

/-- Listed in one coin, the position has the credit of the snapshot. -/
theorem putSpreadPosition_agrees_filledWhole :
    ∃ s position, OptionReached s ∧ s.state = .open ∧
      putSpreadPosition s (listedPuts "USDT") = .ok position ∧ SameQuantities position s ∧
      position.actualNetCredit = s.actualNetCredit := by
  obtain ⟨s, hreached, hopen, hlong, hshort, -⟩ := exists_filledWhole
  obtain ⟨position, hposition, hsame, hcredit⟩ :=
    (putSpreadPosition_agrees hreached (listsSpread_listedPuts hlong hshort)).1 hopen
  exact ⟨s, position, hreached, hopen, hposition, hsame, hcredit⟩

/-- **Spreads without the position they say they have.** Two puts are asked for. With the long filled
    whole and one short, the snapshot says a credit of 38.5 and the position one of 8; with one long
    and one short, there is no position at all. Nor is there one of an open spread whose legs settle
    in different coins. -/
theorem partial_spreads_disagree :
    (∃ s position, OptionReached s ∧ s.state = .partiallyOpen ∧
      putSpreadPosition s (listedPuts "USDT") = .ok position ∧ s.actualNetCredit = 77 / 2 ∧
      position.actualNetCredit = 8) ∧
    (∃ s, OptionReached s ∧ s.state = .partiallyOpen ∧
      putSpreadPosition s (listedPuts "USDT") =
        .error (.valueError "equal filled quantities must use OPEN state")) ∧
    ∃ s, OptionReached s ∧ s.state = .open ∧
      putSpreadPosition s (listedPuts "USDC") =
        .error (.valueError "credit spread legs must use the same coins") := by
  refine ⟨?_, ?_, ?_⟩
  · have hruns : ((filledSpread 2 1).toOption.any fun s =>
        (putSpreadPosition s (listedPuts "USDT")).toOption.any fun position =>
          decide (s.state = .partiallyOpen ∧ s.actualNetCredit = 77 / 2 ∧
            position.actualNetCredit = 8)) = true := by decide +kernel
    obtain ⟨s, hs, hrun⟩ := (Option.any_eq_true ..).mp hruns
    obtain ⟨position, hposition, hrun⟩ := (Option.any_eq_true ..).mp hrun
    obtain ⟨hstate, hcredit, hcredit'⟩ := of_decide_eq_true hrun
    exact ⟨s, position, reached_filledSpread (eq_ok_of_toOption hs), hstate,
      eq_ok_of_toOption hposition, hcredit, hcredit'⟩
  · have hruns : ((filledSpread 1 1).toOption.any fun s =>
        decide (s.state = .partiallyOpen ∧ putSpreadPosition s (listedPuts "USDT") =
          .error (.valueError "equal filled quantities must use OPEN state"))) = true := by
      decide +kernel
    obtain ⟨s, hs, hrun⟩ := (Option.any_eq_true ..).mp hruns
    obtain ⟨hstate, hrefused⟩ := of_decide_eq_true hrun
    exact ⟨s, reached_filledSpread (eq_ok_of_toOption hs), hstate, hrefused⟩
  · obtain ⟨s, hreached, hopen, -, -, hrefused⟩ := exists_filledWhole
    exact ⟨s, hreached, hopen, hrefused⟩

end CreditHedge
