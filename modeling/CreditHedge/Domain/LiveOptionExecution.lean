import CreditHedge.Domain.Execution
import CreditHedge.Domain.OptionLifecycle
import CreditHedge.Domain.OptionPosition
import Mathlib.Tactic.Linarith

/-!
# An option spread on the exchange

`domain/live_option_execution.py`: the persistable state of one option spread, opened with the
protective long first, and its pure reducers.

The constructor's checks run again on every `replace`, so each reducer goes through
`OptionSpreadExecutionSnapshot.create`. `OptionSpreadFields.Valid` names what the checks come to.
-/

set_option autoImplicit false

namespace CreditHedge

structure OptionSpreadFields where
  cycleId : String
  state : OptionPositionState
  longSymbol : String
  shortSymbol : String
  expiryTimeUtc : Time
  requestedQuantity : ℚ
  expectedNetCredit : ℚ
  longOrderLinkId : String
  shortOrderLinkId : Option String
  longOrderId : Option String
  shortOrderId : Option String
  longFilledQuantity : ℚ
  shortFilledQuantity : ℚ
  longNotional : ℚ
  shortNotional : ℚ
  longFees : ℚ
  shortFees : ℚ
  openedTimeUtc : Option Time
  version : ℕ
  updatedAt : Time
  deriving DecidableEq, Repr

namespace OptionSpreadFields

variable (f : OptionSpreadFields)

def matchedQuantity : ℚ := min f.longFilledQuantity f.shortFilledQuantity

def longAveragePrice : ℚ :=
  if f.longFilledQuantity = 0 then 0 else f.longNotional / f.longFilledQuantity

def shortAveragePrice : ℚ :=
  if f.shortFilledQuantity = 0 then 0 else f.shortNotional / f.shortFilledQuantity

def actualNetCredit : ℚ :=
  let «matched» := f.matchedQuantity
  if «matched» = 0 then 0
  else
    let longFee := f.longFees * «matched» / f.longFilledQuantity
    let shortFee := f.shortFees * «matched» / f.shortFilledQuantity
    f.shortAveragePrice * «matched» - f.longAveragePrice * «matched» - longFee - shortFee

/-- The role check of a short id, if there is one. -/
def checkShortRole : Except Failure Unit :=
  match f.shortOrderLinkId with
  | none => .ok ()
  | some id => requireRole id .optionShort

/-- The checks of one leg's cash amounts. -/
def checkLeg (name : String) (quantity notional fees : ℚ) : Except Failure Unit := do
  refuseIf (notional < 0 ∨ fees < 0) (name ++ " notional and fees cannot be negative")
  refuseIf (quantity = 0 ∧ (notional ≠ 0 ∨ fees ≠ 0))
    ("unfilled " ++ name ++ " leg cannot have cash amounts")
  refuseIf (0 < quantity ∧ notional ≤ 0) ("filled " ++ name ++ " leg requires positive notional")

/-- `OptionSpreadExecutionSnapshot.__post_init__`. -/
def check : Except Failure Unit := do
  requireText f.cycleId "option cycle ID"
  requireText f.longSymbol "long symbol"
  requireText f.shortSymbol "short symbol"
  refuseIf (f.longSymbol = f.shortSymbol) "option leg symbols must differ"
  requireRole f.longOrderLinkId .optionLong
  f.checkShortRole
  refuseIf (f.requestedQuantity ≤ 0) "requested quantity must be positive"
  refuseIf (f.expectedNetCredit ≤ 0) "expected net credit must be positive"
  refuseIf (¬ (0 ≤ f.longFilledQuantity ∧ f.longFilledQuantity ≤ f.requestedQuantity))
    "long filled quantity is outside the request"
  refuseIf (¬ (0 ≤ f.shortFilledQuantity ∧ f.shortFilledQuantity ≤ f.longFilledQuantity))
    "short filled quantity cannot exceed protective long"
  checkLeg "long" f.longFilledQuantity f.longNotional f.longFees
  checkLeg "short" f.shortFilledQuantity f.shortNotional f.shortFees
  refuseIf (∃ id ∈ f.longOrderId, isBlank id) "long exchange order ID cannot be empty"
  refuseIf (∃ id ∈ f.shortOrderId, isBlank id) "short exchange order ID cannot be empty"
  refuseIf (f.shortOrderId ≠ none ∧ f.shortOrderLinkId = none)
    "short exchange order requires a client order ID"
  refuseIf
    (f.state = .open ∧
      (f.longFilledQuantity ≠ f.requestedQuantity ∨
        f.shortFilledQuantity ≠ f.requestedQuantity ∨ f.actualNetCredit ≤ 0 ∨
        f.openedTimeUtc = none))
    "OPEN requires equal full fills and positive credit"
  refuseIf (f.version = 0) "option snapshot version must be positive"

/-- The cash amounts of a leg fit its fill. -/
structure ValidLeg (quantity notional fees : ℚ) : Prop where
  notional_nonneg : 0 ≤ notional
  fees_nonneg : 0 ≤ fees
  unfilled : quantity = 0 → notional = 0 ∧ fees = 0
  filled : 0 < quantity → 0 < notional

theorem checkLeg_eq_ok {name : String} {quantity notional fees : ℚ} {u : Unit} :
    checkLeg name quantity notional fees = .ok u ↔ ValidLeg quantity notional fees := by
  simp only [checkLeg, bind_unit_eq_ok, refuseIf_eq_ok, not_or, not_lt, not_and, not_le]
  constructor
  · rintro ⟨⟨hnotional, hfees⟩, hunfilled, hfilled⟩
    exact ⟨hnotional, hfees, fun h => ⟨not_not.mp (hunfilled h).1, not_not.mp (hunfilled h).2⟩,
      hfilled⟩
  · rintro ⟨hnotional, hfees, hunfilled, hfilled⟩
    exact ⟨⟨hnotional, hfees⟩, fun h => ⟨not_not.mpr (hunfilled h).1, not_not.mpr (hunfilled h).2⟩,
      hfilled⟩

theorem checkShortRole_eq_ok {u : Unit} :
    f.checkShortRole = .ok u ↔ ∀ id ∈ f.shortOrderLinkId, HasRole id .optionShort := by
  unfold checkShortRole
  cases f.shortOrderLinkId <;> simp [requireRole_eq_ok]

/-- Open, as the constructor demands it. -/
structure FullyOpen : Prop where
  long : f.longFilledQuantity = f.requestedQuantity
  short : f.shortFilledQuantity = f.requestedQuantity
  credit : 0 < f.actualNetCredit
  opened : f.openedTimeUtc ≠ none

/-- What the checks of the constructor come to. -/
structure Valid : Prop where
  cycleId_text : ¬ isBlank f.cycleId = true
  longSymbol_text : ¬ isBlank f.longSymbol = true
  shortSymbol_text : ¬ isBlank f.shortSymbol = true
  symbols_ne : f.longSymbol ≠ f.shortSymbol
  longRole : HasRole f.longOrderLinkId .optionLong
  shortRole : ∀ id ∈ f.shortOrderLinkId, HasRole id .optionShort
  requested_pos : 0 < f.requestedQuantity
  credit_pos : 0 < f.expectedNetCredit
  long_nonneg : 0 ≤ f.longFilledQuantity
  long_le : f.longFilledQuantity ≤ f.requestedQuantity
  short_nonneg : 0 ≤ f.shortFilledQuantity
  short_le : f.shortFilledQuantity ≤ f.longFilledQuantity
  longLeg : ValidLeg f.longFilledQuantity f.longNotional f.longFees
  shortLeg : ValidLeg f.shortFilledQuantity f.shortNotional f.shortFees
  longOrderId_text : ∀ id ∈ f.longOrderId, ¬ isBlank id = true
  shortOrderId_text : ∀ id ∈ f.shortOrderId, ¬ isBlank id = true
  shortOrderId_link : f.shortOrderId ≠ none → f.shortOrderLinkId ≠ none
  «open» : f.state = .open → f.FullyOpen
  version_pos : 0 < f.version

variable {f}

theorem check_eq_ok : f.check = .ok () ↔ f.Valid := by
  simp only [check, bind_unit_eq_ok, requireText, requireRole_eq_ok, checkShortRole_eq_ok,
    checkLeg_eq_ok, refuseIf_eq_ok]
  constructor
  · rintro ⟨h₁, h₂, h₃, h₄, h₅, h₆, h₇, h₈, h₉, h₁₀, h₁₁, h₁₂, h₁₃, h₁₄, h₁₅, h₁₆, h₁₇⟩
    rw [not_not] at h₉ h₁₀
    exact
      { cycleId_text := h₁, longSymbol_text := h₂, shortSymbol_text := h₃, symbols_ne := h₄
        longRole := h₅, shortRole := h₆
        requested_pos := not_le.mp h₇, credit_pos := not_le.mp h₈
        long_nonneg := h₉.1, long_le := h₉.2, short_nonneg := h₁₀.1, short_le := h₁₀.2
        longLeg := h₁₁, shortLeg := h₁₂
        longOrderId_text := fun id hid hb => h₁₃ ⟨id, hid, hb⟩
        shortOrderId_text := fun id hid hb => h₁₄ ⟨id, hid, hb⟩
        shortOrderId_link := fun hsome hnone => h₁₅ ⟨hsome, hnone⟩
        «open» := fun h => by
          have hfully := not_and.mp h₁₆ h
          rw [not_or, not_or, not_or, not_not, not_not, not_le] at hfully
          exact ⟨hfully.1, hfully.2.1, hfully.2.2.1, hfully.2.2.2⟩
        version_pos := Nat.pos_of_ne_zero h₁₇ }
  · intro h
    refine ⟨h.cycleId_text, h.longSymbol_text, h.shortSymbol_text, h.symbols_ne, h.longRole,
      h.shortRole, not_le.mpr h.requested_pos, not_le.mpr h.credit_pos,
      not_not.mpr ⟨h.long_nonneg, h.long_le⟩, not_not.mpr ⟨h.short_nonneg, h.short_le⟩,
      h.longLeg, h.shortLeg, ?_, ?_, ?_, ?_, h.version_pos.ne'⟩
    · rintro ⟨id, hid, hb⟩
      exact h.longOrderId_text id hid hb
    · rintro ⟨id, hid, hb⟩
      exact h.shortOrderId_text id hid hb
    · rintro ⟨hsome, hnone⟩
      exact h.shortOrderId_link hsome hnone
    · rintro ⟨hstate, hlong | hshort | hcredit | hopened⟩
      · exact hlong (h.open hstate).long
      · exact hshort (h.open hstate).short
      · exact absurd (h.open hstate).credit (not_lt.mpr hcredit)
      · exact (h.open hstate).opened hopened

end OptionSpreadFields

structure OptionSpreadExecutionSnapshot extends OptionSpreadFields where
  checked : toOptionSpreadFields.check = .ok ()
  deriving DecidableEq

namespace OptionSpreadExecutionSnapshot

def create : OptionSpreadFields → Except Failure OptionSpreadExecutionSnapshot :=
  build OptionSpreadFields.check OptionSpreadExecutionSnapshot.mk

theorem create_eq_ok {f : OptionSpreadFields} {s : OptionSpreadExecutionSnapshot} :
    create f = .ok s ↔ s.toOptionSpreadFields = f := by
  refine build_eq_ok.trans ⟨?_, ?_⟩
  · rintro ⟨_, rfl⟩
    rfl
  · rintro rfl
    exact ⟨s.checked, rfl⟩

theorem create_of_valid {f : OptionSpreadFields} (h : f.Valid) :
    ∃ s, create f = .ok s ∧ s.toOptionSpreadFields = f :=
  ⟨⟨f, OptionSpreadFields.check_eq_ok.mpr h⟩, create_eq_ok.mpr rfl, rfl⟩

theorem valid (s : OptionSpreadExecutionSnapshot) : s.toOptionSpreadFields.Valid :=
  OptionSpreadFields.check_eq_ok.mp s.checked

/-- `OptionSpreadExecutionSnapshot.for_long_intent`. -/
def forLongIntent (request : PlaceOrderRequest) (cycleId shortSymbol : String)
    (expiryTimeUtc : Time) (expectedNetCredit : ℚ) (persistedAt : Time) :
    Except Failure OptionSpreadExecutionSnapshot := do
  refuseIf (request.category ≠ .option ∨ request.side ≠ .buy ∨ request.reduceOnly)
    "first option intent must buy protective long"
  create
    { cycleId
      state := .longProtectionPending
      longSymbol := request.symbol
      shortSymbol
      expiryTimeUtc
      requestedQuantity := request.quantity
      expectedNetCredit
      longOrderLinkId := request.orderLinkId
      shortOrderLinkId := none
      longOrderId := none
      shortOrderId := none
      longFilledQuantity := 0
      shortFilledQuantity := 0
      longNotional := 0
      shortNotional := 0
      longFees := 0
      shortFees := 0
      openedTimeUtc := none
      version := 1
      updatedAt := persistedAt }

end OptionSpreadExecutionSnapshot

/-! ## The reducers -/

section Reducers

variable (snapshot : OptionSpreadExecutionSnapshot)

def acknowledgeOptionOrder (acknowledgement : OrderRequestAck) (updatedAt : Time) :
    Except Failure OptionSpreadExecutionSnapshot :=
  if acknowledgement.orderLinkId = snapshot.longOrderLinkId then
    OptionSpreadExecutionSnapshot.create
      { snapshot.toOptionSpreadFields with
        longOrderId := some acknowledgement.orderId
        version := snapshot.version + 1
        updatedAt }
  else if some acknowledgement.orderLinkId = snapshot.shortOrderLinkId then
    OptionSpreadExecutionSnapshot.create
      { snapshot.toOptionSpreadFields with
        shortOrderId := some acknowledgement.orderId
        version := snapshot.version + 1
        updatedAt }
  else .error (.valueError "acknowledgement does not belong to the option spread")

def applyOptionExecution (execution : ExecutionUpdate) (updatedAt : Time) :
    Except Failure OptionSpreadExecutionSnapshot :=
  if execution.orderLinkId = snapshot.longOrderLinkId then do
    refuseIf (execution.symbol ≠ snapshot.longSymbol ∨ execution.side ≠ .buy)
      "protective long execution does not match its intent"
    refuseIf (snapshot.longOrderId ≠ none ∧ snapshot.longOrderId ≠ some execution.orderId)
      "protective long exchange order ID differs"
    OptionSpreadExecutionSnapshot.create
      { snapshot.toOptionSpreadFields with
        longOrderId := some execution.orderId
        longFilledQuantity := snapshot.longFilledQuantity + execution.quantity
        longNotional := snapshot.longNotional + execution.price * execution.quantity
        longFees := snapshot.longFees + execution.fee
        version := snapshot.version + 1
        updatedAt }
  else if some execution.orderLinkId = snapshot.shortOrderLinkId then do
    refuseIf (execution.symbol ≠ snapshot.shortSymbol ∨ execution.side ≠ .sell)
      "short premium execution does not match its intent"
    refuseIf (snapshot.shortOrderId ≠ none ∧ snapshot.shortOrderId ≠ some execution.orderId)
      "short premium exchange order ID differs"
    OptionSpreadExecutionSnapshot.create
      { snapshot.toOptionSpreadFields with
        shortOrderId := some execution.orderId
        shortFilledQuantity := snapshot.shortFilledQuantity + execution.quantity
        shortNotional := snapshot.shortNotional + execution.price * execution.quantity
        shortFees := snapshot.shortFees + execution.fee
        version := snapshot.version + 1
        updatedAt }
  else .error (.valueError "execution does not belong to the option spread")

def finalizeProtectiveLong (policy : OptionEntryPolicy) (updatedAt : Time) :
    Except Failure OptionSpreadExecutionSnapshot :=
  let acceptable := policy.minimumMatchedQuantity ≤ snapshot.longFilledQuantity ∧
    (policy.allowPartialSpread ∨ snapshot.longFilledQuantity = snapshot.requestedQuantity)
  OptionSpreadExecutionSnapshot.create
    { snapshot.toOptionSpreadFields with
      state := if acceptable then .longProtectionFilled else .error
      version := snapshot.version + 1
      updatedAt }

def startShortPremium (request : PlaceOrderRequest) (updatedAt : Time) :
    Except Failure OptionSpreadExecutionSnapshot := do
  refuseIf (snapshot.state ≠ .longProtectionFilled)
    "short premium requires confirmed protective long"
  refuseIf
    (request.category ≠ .option ∨ request.symbol ≠ snapshot.shortSymbol ∨ request.side ≠ .sell ∨
      request.reduceOnly ∨ request.quantity ≠ snapshot.longFilledQuantity)
    "short premium intent exceeds confirmed protection"
  OptionSpreadExecutionSnapshot.create
    { snapshot.toOptionSpreadFields with
      state := .shortPremiumPending
      shortOrderLinkId := some request.orderLinkId
      version := snapshot.version + 1
      updatedAt }

/-- `accepted` of `finalize_short_premium`. -/
def acceptsSpread (policy : OptionEntryPolicy) : Except Failure Bool :=
  let expectedForMatch :=
    snapshot.expectedNetCredit * snapshot.matchedQuantity / snapshot.requestedQuantity
  let deviation := |snapshot.actualNetCredit - expectedForMatch|
  if 0 < snapshot.actualNetCredit then
    policy.acceptsCompletion snapshot.requestedQuantity snapshot.matchedQuantity deviation
  else pure false

def finalizeShortPremium (policy : OptionEntryPolicy) (updatedAt : Time) :
    Except Failure OptionSpreadExecutionSnapshot := do
  let accepted ← acceptsSpread snapshot policy
  OptionSpreadExecutionSnapshot.create
    { snapshot.toOptionSpreadFields with
      state :=
        if accepted then
          if snapshot.matchedQuantity = snapshot.requestedQuantity then .open else .partiallyOpen
        else .error
      openedTimeUtc := if accepted then some updatedAt else snapshot.openedTimeUtc
      version := snapshot.version + 1
      updatedAt }

/-- `mark_option_execution_error`. -/
def markOptionExecutionError (updatedAt : Time) : Except Failure OptionSpreadExecutionSnapshot :=
  if snapshot.state = .error then .ok snapshot
  else
    OptionSpreadExecutionSnapshot.create
      { snapshot.toOptionSpreadFields with
        state := .error
        version := snapshot.version + 1
        updatedAt }

end Reducers

/-! ## What they do -/

/-- What every reducer makes of a snapshot: the same spread one version on, with so much more filled
    of its legs. -/
structure Revises (snapshot s : OptionSpreadExecutionSnapshot) (longFill shortFill : ℚ) :
    Prop where
  cycleId : s.cycleId = snapshot.cycleId
  version : s.version = snapshot.version + 1
  longSymbol : s.longSymbol = snapshot.longSymbol
  shortSymbol : s.shortSymbol = snapshot.shortSymbol
  requestedQuantity : s.requestedQuantity = snapshot.requestedQuantity
  longOrderLinkId : s.longOrderLinkId = snapshot.longOrderLinkId
  longFilledQuantity : s.longFilledQuantity = snapshot.longFilledQuantity + longFill
  shortFilledQuantity : s.shortFilledQuantity = snapshot.shortFilledQuantity + shortFill

/-- The orders of the spread are those it had. -/
structure SameOrders (snapshot s : OptionSpreadExecutionSnapshot) : Prop where
  shortOrderLinkId : s.shortOrderLinkId = snapshot.shortOrderLinkId
  longOrderId : s.longOrderId = snapshot.longOrderId
  shortOrderId : s.shortOrderId = snapshot.shortOrderId

section Specifications

variable {snapshot s : OptionSpreadExecutionSnapshot} {updatedAt : Time}

theorem acknowledgeOptionOrder_eq_ok {acknowledgement : OrderRequestAck}
    (h : acknowledgeOptionOrder snapshot acknowledgement updatedAt = .ok s) :
    Revises snapshot s 0 0 ∧ s.state = snapshot.state ∧
      s.shortOrderLinkId = snapshot.shortOrderLinkId ∧
      ((acknowledgement.orderLinkId = snapshot.longOrderLinkId ∧
          s.longOrderId = some acknowledgement.orderId ∧
          s.shortOrderId = snapshot.shortOrderId) ∨
        (some acknowledgement.orderLinkId = snapshot.shortOrderLinkId ∧
          s.shortOrderId = some acknowledgement.orderId ∧
          s.longOrderId = snapshot.longOrderId)) := by
  unfold acknowledgeOptionOrder at h
  split at h
  · rename_i hlong
    rw [OptionSpreadExecutionSnapshot.create_eq_ok] at h
    refine ⟨by constructor <;> simp [h], by rw [h], by rw [h], .inl ⟨hlong, by rw [h], by rw [h]⟩⟩
  · split at h
    · rename_i hshort
      rw [OptionSpreadExecutionSnapshot.create_eq_ok] at h
      refine ⟨by constructor <;> simp [h], by rw [h], by rw [h],
        .inr ⟨hshort, by rw [h], by rw [h]⟩⟩
    · exact absurd h (by simp)

/-- An acknowledgement of the long with an order id is taken. -/
theorem acknowledges_long {acknowledgement : OrderRequestAck}
    (hlink : acknowledgement.orderLinkId = snapshot.longOrderLinkId)
    (htext : ¬ isBlank acknowledgement.orderId = true) (updatedAt : Time) :
    ∃ s, acknowledgeOptionOrder snapshot acknowledgement updatedAt = .ok s := by
  obtain ⟨s, hs, -⟩ := OptionSpreadExecutionSnapshot.create_of_valid (f :=
    { snapshot.toOptionSpreadFields with
      longOrderId := some acknowledgement.orderId
      version := snapshot.version + 1
      updatedAt })
    { snapshot.valid with
      longOrderId_text := fun id h => Option.some.inj h ▸ htext
      «open» := fun h => ⟨(snapshot.valid.open h).long, (snapshot.valid.open h).short,
        (snapshot.valid.open h).credit, (snapshot.valid.open h).opened⟩
      version_pos := Nat.succ_pos _ }
  exact ⟨s, by rw [acknowledgeOptionOrder, if_pos hlink, hs]⟩

theorem applyOptionExecution_eq_ok {e : ExecutionUpdate}
    (h : applyOptionExecution snapshot e updatedAt = .ok s) :
    s.state = snapshot.state ∧ s.shortOrderLinkId = snapshot.shortOrderLinkId ∧
      ((e.orderLinkId = snapshot.longOrderLinkId ∧ Revises snapshot s e.quantity 0 ∧
          s.longOrderId = some e.orderId ∧ s.shortOrderId = snapshot.shortOrderId) ∨
        (e.orderLinkId ≠ snapshot.longOrderLinkId ∧
          some e.orderLinkId = snapshot.shortOrderLinkId ∧ Revises snapshot s 0 e.quantity ∧
          s.shortOrderId = some e.orderId ∧ s.longOrderId = snapshot.longOrderId)) := by
  unfold applyOptionExecution at h
  split at h
  · rename_i hlong
    simp only [bind_unit_eq_ok, OptionSpreadExecutionSnapshot.create_eq_ok] at h
    obtain ⟨-, -, h⟩ := h
    exact ⟨by rw [h], by rw [h], .inl ⟨hlong, by constructor <;> simp [h], by rw [h], by rw [h]⟩⟩
  · rename_i hlong
    split at h
    · rename_i hshort
      simp only [bind_unit_eq_ok, OptionSpreadExecutionSnapshot.create_eq_ok] at h
      obtain ⟨-, -, h⟩ := h
      exact ⟨by rw [h], by rw [h],
        .inr ⟨hlong, hshort, by constructor <;> simp [h], by rw [h], by rw [h]⟩⟩
    · exact absurd h (by simp)

theorem finalizeProtectiveLong_eq_ok {policy : OptionEntryPolicy}
    (h : finalizeProtectiveLong snapshot policy updatedAt = .ok s) :
    Revises snapshot s 0 0 ∧ SameOrders snapshot s ∧
      (s.state = .longProtectionFilled ∨ s.state = .error) := by
  rw [finalizeProtectiveLong, OptionSpreadExecutionSnapshot.create_eq_ok] at h
  refine ⟨by constructor <;> simp [h], by constructor <;> simp [h], ?_⟩
  rw [h]
  dsimp only
  split
  · exact .inl rfl
  · exact .inr rfl

theorem startShortPremium_eq_ok {request : PlaceOrderRequest}
    (h : startShortPremium snapshot request updatedAt = .ok s) :
    Revises snapshot s 0 0 ∧ snapshot.state = .longProtectionFilled ∧
      s.state = .shortPremiumPending ∧ s.shortOrderLinkId = some request.orderLinkId ∧
      s.longOrderId = snapshot.longOrderId ∧ s.shortOrderId = snapshot.shortOrderId ∧
      request.symbol = snapshot.shortSymbol ∧ request.side = .sell ∧
      request.quantity = snapshot.longFilledQuantity := by
  simp only [startShortPremium, bind_unit_eq_ok, refuseIf_eq_ok, not_not, not_or,
    OptionSpreadExecutionSnapshot.create_eq_ok] at h
  obtain ⟨hstate, ⟨-, hsymbol, hside, -, hquantity⟩, h⟩ := h
  exact ⟨by constructor <;> simp [h], hstate, by rw [h], by rw [h], by rw [h], by rw [h], hsymbol,
    hside, hquantity⟩

theorem finalizeShortPremium_eq_ok {policy : OptionEntryPolicy}
    (h : finalizeShortPremium snapshot policy updatedAt = .ok s) :
    Revises snapshot s 0 0 ∧ SameOrders snapshot s ∧ s.state ≠ .longProtectionFilled := by
  simp only [finalizeShortPremium, bind_eq_ok, OptionSpreadExecutionSnapshot.create_eq_ok] at h
  obtain ⟨accepted, -, h⟩ := h
  refine ⟨by constructor <;> simp [h], by constructor <;> simp [h], ?_⟩
  rw [h]
  dsimp only
  split
  · split <;> simp
  · simp

theorem markOptionExecutionError_eq_ok
    (h : markOptionExecutionError snapshot updatedAt = .ok s) :
    s.state = .error ∧
      ((snapshot.state = .error ∧ s = snapshot) ∨
        (snapshot.state ≠ .error ∧ Revises snapshot s 0 0 ∧ SameOrders snapshot s)) := by
  unfold markOptionExecutionError at h
  split at h
  · rename_i hstate
    obtain rfl := Except.ok.inj h
    exact ⟨hstate, .inl ⟨hstate, rfl⟩⟩
  · rename_i hstate
    rw [OptionSpreadExecutionSnapshot.create_eq_ok] at h
    exact ⟨by rw [h], .inr ⟨hstate, by constructor <;> simp [h], by constructor <;> simp [h]⟩⟩

end Specifications

/-! ## Which executions are accepted -/

section Accepting

variable {snapshot : OptionSpreadExecutionSnapshot} {e : ExecutionUpdate}

theorem OptionSpreadFields.ValidLeg.add {quantity notional fees : ℚ}
    (h : OptionSpreadFields.ValidLeg quantity notional fees) (hquantity : 0 ≤ quantity)
    (e : ExecutionUpdate) (hfee : 0 ≤ e.fee) :
    OptionSpreadFields.ValidLeg (quantity + e.quantity) (notional + e.price * e.quantity)
      (fees + e.fee) := by
  have hcash : 0 < e.price * e.quantity := mul_pos e.price_pos e.quantity_pos
  have hfill := e.quantity_pos
  refine ⟨add_nonneg h.notional_nonneg hcash.le, add_nonneg h.fees_nonneg hfee, fun hzero => ?_,
    fun _ => add_pos_of_nonneg_of_pos h.notional_nonneg hcash⟩
  linarith

/-- An execution of the long leg that fits what is left of the request. -/
theorem accepts_longExecution (hlink : e.orderLinkId = snapshot.longOrderLinkId)
    (hsymbol : e.symbol = snapshot.longSymbol) (hside : e.side = .buy) (hfee : 0 ≤ e.fee)
    (hid : ∀ id ∈ snapshot.longOrderId, id = e.orderId)
    (hfits : snapshot.longFilledQuantity + e.quantity ≤ snapshot.requestedQuantity)
    (updatedAt : Time) : ∃ s, applyOptionExecution snapshot e updatedAt = .ok s := by
  have hv := snapshot.valid
  have hfill := e.quantity_pos
  obtain ⟨s, hs, -⟩ := OptionSpreadExecutionSnapshot.create_of_valid (f :=
    { snapshot.toOptionSpreadFields with
      longOrderId := some e.orderId
      longFilledQuantity := snapshot.longFilledQuantity + e.quantity
      longNotional := snapshot.longNotional + e.price * e.quantity
      longFees := snapshot.longFees + e.fee
      version := snapshot.version + 1
      updatedAt })
    { hv with
      long_nonneg := add_nonneg hv.long_nonneg hfill.le
      long_le := hfits
      short_le := hv.short_le.trans (le_add_of_nonneg_right hfill.le)
      longLeg := hv.longLeg.add hv.long_nonneg e hfee
      longOrderId_text := fun id h => Option.some.inj h ▸ e.orderId_text
      «open» := fun hopen => by
        have hlong := (hv.open hopen).long
        linarith
      version_pos := Nat.succ_pos _ }
  refine ⟨s, ?_⟩
  unfold applyOptionExecution
  rw [if_pos hlink]
  simp only [bind_unit_eq_ok, refuseIf_eq_ok, not_or, not_not, not_and]
  refine ⟨⟨hsymbol, hside⟩, fun hsome => ?_, hs⟩
  obtain ⟨id, hid'⟩ := Option.ne_none_iff_exists'.mp hsome
  rw [hid', hid id hid']

/-- An execution of the short leg that fits what protects it. -/
theorem accepts_shortExecution (hlink : some e.orderLinkId = snapshot.shortOrderLinkId)
    (hother : e.orderLinkId ≠ snapshot.longOrderLinkId)
    (hsymbol : e.symbol = snapshot.shortSymbol) (hside : e.side = .sell) (hfee : 0 ≤ e.fee)
    (hid : ∀ id ∈ snapshot.shortOrderId, id = e.orderId)
    (hfits : snapshot.shortFilledQuantity + e.quantity ≤ snapshot.longFilledQuantity)
    (updatedAt : Time) : ∃ s, applyOptionExecution snapshot e updatedAt = .ok s := by
  have hv := snapshot.valid
  have hfill := e.quantity_pos
  obtain ⟨s, hs, -⟩ := OptionSpreadExecutionSnapshot.create_of_valid (f :=
    { snapshot.toOptionSpreadFields with
      shortOrderId := some e.orderId
      shortFilledQuantity := snapshot.shortFilledQuantity + e.quantity
      shortNotional := snapshot.shortNotional + e.price * e.quantity
      shortFees := snapshot.shortFees + e.fee
      version := snapshot.version + 1
      updatedAt })
    { hv with
      short_nonneg := add_nonneg hv.short_nonneg hfill.le
      short_le := hfits
      shortLeg := hv.shortLeg.add hv.short_nonneg e hfee
      shortOrderId_text := fun id h => Option.some.inj h ▸ e.orderId_text
      shortOrderId_link := fun _ => by
        show snapshot.shortOrderLinkId ≠ none
        rw [← hlink]
        simp
      «open» := fun hopen => by
        have hlong := (hv.open hopen).long
        have hshort := (hv.open hopen).short
        linarith
      version_pos := Nat.succ_pos _ }
  refine ⟨s, ?_⟩
  unfold applyOptionExecution
  rw [if_neg hother, if_pos hlink]
  simp only [bind_unit_eq_ok, refuseIf_eq_ok, not_or, not_not, not_and]
  refine ⟨⟨hsymbol, hside⟩, fun hsome => ?_, hs⟩
  obtain ⟨id, hid'⟩ := Option.ne_none_iff_exists'.mp hsome
  rw [hid', hid id hid']

end Accepting

end CreditHedge
