import CreditHedge.Domain.Execution
import Mathlib.Tactic.Linarith

/-!
# One entry on the exchange

`domain/live_execution.py`: the persistable state of one hedge entry and its pure reducers.

The constructor's checks run again on every `replace`, so a reducer can fail on the record it
would produce. `EntryFields` is the bare record, `EntryExecutionSnapshot` a record the checks
accepted; every reducer goes through `EntryExecutionSnapshot.create`, as every `replace` of the
source goes through `__post_init__`.
-/

set_option autoImplicit false

namespace CreditHedge

structure EntryFields where
  orderLinkId : String
  state : LiveExecutionState
  targetQuantity : ℚ
  entryOrderId : Option String
  filledQuantity : ℚ
  entryNotional : ℚ
  entryFees : ℚ
  version : ℕ
  updatedAt : Time
  deriving DecidableEq, Repr

/-- `_ENTRY_STATES`. -/
def entryStates : List LiveExecutionState :=
  [.entryRequestPersisted, .entrySubmitted, .entryAcknowledged, .entryPartiallyFilled,
    .activeUnprotected, .reconciling, .error]

/-- `EntryExecutionSnapshot.__post_init__`. -/
def EntryFields.check (f : EntryFields) : Except Failure Unit := do
  requireOwnOrderLinkId f.orderLinkId
  refuseIf (f.state ∉ entryStates) "state is not valid for one-level entry execution"
  refuseIf (f.targetQuantity ≤ 0) "target quantity must be positive"
  refuseIf (¬ (0 ≤ f.filledQuantity ∧ f.filledQuantity ≤ f.targetQuantity))
    "filled quantity must be between zero and target"
  refuseIf (f.entryNotional < 0) "entry notional cannot be negative"
  refuseIf (f.filledQuantity = 0 ∧ f.entryNotional ≠ 0) "unfilled entry must have zero notional"
  refuseIf (0 < f.filledQuantity ∧ f.entryNotional ≤ 0)
    "filled entry must have positive notional"
  refuseIf (∃ id ∈ f.entryOrderId, isBlank id) "entry order ID cannot be empty"
  refuseIf
    (f.state ∈ [LiveExecutionState.entryAcknowledged, .entryPartiallyFilled, .activeUnprotected] ∧
      f.entryOrderId = none)
    "state requires an exchange order ID"
  refuseIf
    (f.state = .entryPartiallyFilled ∧
      ¬ (0 < f.filledQuantity ∧ f.filledQuantity < f.targetQuantity))
    "partial-fill state requires a partial quantity"
  refuseIf (f.state = .activeUnprotected ∧ f.filledQuantity ≤ 0)
    "active entry requires confirmed filled quantity"
  refuseIf (f.version = 0) "snapshot version must be positive"

structure EntryExecutionSnapshot extends EntryFields where
  checked : toEntryFields.check = .ok ()
  deriving DecidableEq

namespace EntryExecutionSnapshot

def create : EntryFields → Except Failure EntryExecutionSnapshot :=
  build EntryFields.check EntryExecutionSnapshot.mk

theorem create_eq_ok {f : EntryFields} {s : EntryExecutionSnapshot} :
    create f = .ok s ↔ s.toEntryFields = f := by
  refine build_eq_ok.trans ⟨?_, ?_⟩
  · rintro ⟨_, rfl⟩
    rfl
  · rintro rfl
    exact ⟨s.checked, rfl⟩

theorem create_of_check {f : EntryFields} (h : f.check = .ok ()) :
    ∃ s, create f = .ok s ∧ s.toEntryFields = f :=
  ⟨⟨f, h⟩, create_eq_ok.mpr rfl, rfl⟩

variable (snapshot : EntryExecutionSnapshot)

def averageEntryPrice : Option ℚ :=
  if snapshot.filledQuantity = 0 then none
  else some (snapshot.entryNotional / snapshot.filledQuantity)

/-- `EntryExecutionSnapshot.for_intent`. -/
def forIntent (request : PlaceOrderRequest) (persistedAt : Time) :
    Except Failure EntryExecutionSnapshot := do
  refuseIf
    (request.category ≠ .linear ∨ request.symbol ≠ "ETHUSDT" ∨ request.side ≠ .sell ∨
      request.reduceOnly)
    "entry intent must open a short ETHUSDT linear position"
  create
    { orderLinkId := request.orderLinkId
      state := .entryRequestPersisted
      targetQuantity := request.quantity
      entryOrderId := none
      filledQuantity := 0
      entryNotional := 0
      entryFees := 0
      version := 1
      updatedAt := persistedAt }

theorem filled_nonneg : 0 ≤ snapshot.filledQuantity := by
  have h := snapshot.checked
  simp only [EntryFields.check, bind_unit_eq_ok, refuseIf_eq_ok, not_not] at h
  exact h.2.2.2.1.1

theorem filled_le_target : snapshot.filledQuantity ≤ snapshot.targetQuantity := by
  have h := snapshot.checked
  simp only [EntryFields.check, bind_unit_eq_ok, refuseIf_eq_ok, not_not] at h
  exact h.2.2.2.1.2

theorem averageEntryPrice_pos {price : ℚ} (h : snapshot.averageEntryPrice = some price) :
    0 < price ∧ 0 < snapshot.filledQuantity := by
  have hchecked := snapshot.checked
  simp only [EntryFields.check, bind_unit_eq_ok, refuseIf_eq_ok, not_not, not_and, not_le]
    at hchecked
  unfold averageEntryPrice at h
  split at h
  · exact absurd h (by simp)
  · rename_i hne
    have hfilled : 0 < snapshot.filledQuantity :=
      lt_of_le_of_ne snapshot.filled_nonneg (Ne.symm hne)
    obtain rfl := Option.some.inj h
    exact ⟨div_pos (hchecked.2.2.2.2.2.2.1 hfilled) hfilled, hfilled⟩

end EntryExecutionSnapshot

/-! ## The reducers -/

def transitionEntrySnapshot (snapshot : EntryExecutionSnapshot) (state : LiveExecutionState)
    (updatedAt : Time) (entryOrderId : Option String := none) :
    Except Failure EntryExecutionSnapshot :=
  EntryExecutionSnapshot.create
    { snapshot.toEntryFields with
      state
      entryOrderId := if entryOrderId = none then snapshot.entryOrderId else entryOrderId
      version := snapshot.version + 1
      updatedAt }

def applyEntryExecution (snapshot : EntryExecutionSnapshot) (execution : ExecutionUpdate)
    (updatedAt : Time) : Except Failure EntryExecutionSnapshot := do
  refuseIf (execution.orderLinkId ≠ snapshot.orderLinkId)
    "execution client ID does not match entry snapshot"
  refuseIf (execution.symbol ≠ "ETHUSDT" ∨ execution.side ≠ .sell)
    "entry execution must be an ETHUSDT Sell"
  refuseIf (snapshot.entryOrderId ≠ none ∧ some execution.orderId ≠ snapshot.entryOrderId)
    "execution order ID does not match entry snapshot"
  let filled := snapshot.filledQuantity + execution.quantity
  refuseIf (snapshot.targetQuantity < filled) "entry executions exceed target quantity"
  EntryExecutionSnapshot.create
    { snapshot.toEntryFields with
      state :=
        if filled = snapshot.targetQuantity then .activeUnprotected else .entryPartiallyFilled
      entryOrderId := some execution.orderId
      filledQuantity := filled
      entryNotional := snapshot.entryNotional + execution.price * execution.quantity
      entryFees := snapshot.entryFees + execution.fee
      version := snapshot.version + 1
      updatedAt }

/-- The part that was filled is accepted as the whole, once the order has ended. -/
def finalizePartialEntry (snapshot : EntryExecutionSnapshot) (updatedAt : Time) :
    Except Failure EntryExecutionSnapshot := do
  refuseIf (snapshot.state ≠ .entryPartiallyFilled)
    "partial finalization requires ENTRY_PARTIALLY_FILLED"
  EntryExecutionSnapshot.create
    { snapshot.toEntryFields with
      state := .activeUnprotected
      version := snapshot.version + 1
      updatedAt }

def entryPositionMatches (snapshot : EntryExecutionSnapshot) (positions : List ExchangePosition) :
    Bool :=
  isShortOf snapshot.filledQuantity (nonzeroPerps positions)

/-- What every reducer makes of a snapshot, as far as its fills go: the same entry one version on,
    with a fill of this quantity, notional and fee more. -/
structure Fills (snapshot s : EntryExecutionSnapshot) (quantity notional fee : ℚ) : Prop where
  orderLinkId : s.orderLinkId = snapshot.orderLinkId
  version : s.version = snapshot.version + 1
  targetQuantity : s.targetQuantity = snapshot.targetQuantity
  filledQuantity : s.filledQuantity = snapshot.filledQuantity + quantity
  entryNotional : s.entryNotional = snapshot.entryNotional + notional
  entryFees : s.entryFees = snapshot.entryFees + fee

section Reducers

variable {snapshot s : EntryExecutionSnapshot} {updatedAt : Time}

theorem fills_of_transition {state : LiveExecutionState} {entryOrderId : Option String}
    (h : transitionEntrySnapshot snapshot state updatedAt entryOrderId = .ok s) :
    Fills snapshot s 0 0 0 := by
  rw [transitionEntrySnapshot, EntryExecutionSnapshot.create_eq_ok] at h
  constructor <;> simp [h]

theorem fills_of_finalize (h : finalizePartialEntry snapshot updatedAt = .ok s) :
    Fills snapshot s 0 0 0 := by
  simp only [finalizePartialEntry, bind_unit_eq_ok, EntryExecutionSnapshot.create_eq_ok] at h
  obtain ⟨-, h⟩ := h
  constructor <;> simp [h]

theorem fills_of_applyEntryExecution {e : ExecutionUpdate}
    (h : applyEntryExecution snapshot e updatedAt = .ok s) :
    e.orderLinkId = snapshot.orderLinkId ∧
      Fills snapshot s e.quantity (e.price * e.quantity) e.fee := by
  simp only [applyEntryExecution, bind_unit_eq_ok, refuseIf_eq_ok, not_not,
    EntryExecutionSnapshot.create_eq_ok] at h
  obtain ⟨hlink, -, -, -, h⟩ := h
  exact ⟨hlink, by constructor <;> simp [h]⟩

end Reducers

/-- The key and the version of what a transition writes are determined by what it was given. -/
theorem transitionEntrySnapshot_eq_ok {snapshot s : EntryExecutionSnapshot}
    {state : LiveExecutionState} {updatedAt : Time} {entryOrderId : Option String}
    (h : transitionEntrySnapshot snapshot state updatedAt entryOrderId = .ok s) :
    s.orderLinkId = snapshot.orderLinkId ∧ s.version = snapshot.version + 1 ∧
      s.state = state ∧ s.filledQuantity = snapshot.filledQuantity := by
  rw [transitionEntrySnapshot, EntryExecutionSnapshot.create_eq_ok] at h
  rw [h]
  exact ⟨rfl, rfl, rfl, rfl⟩

/-- A submission can go into any of its states, once there is an order id for an acknowledgement. -/
theorem transitionEntrySnapshot_total (snapshot : EntryExecutionSnapshot) (updatedAt : Time)
    {state : LiveExecutionState} {entryOrderId : Option String}
    (hstate : state ∈ [LiveExecutionState.entrySubmitted, .entryAcknowledged, .reconciling, .error])
    (hid : ∀ id ∈ entryOrderId, ¬ isBlank id = true)
    (hack : state = .entryAcknowledged → entryOrderId ≠ none) :
    ∃ s, transitionEntrySnapshot snapshot state updatedAt entryOrderId = .ok s := by
  have hchecked := snapshot.checked
  simp only [EntryFields.check, bind_unit_eq_ok, refuseIf_eq_ok, requireOwnOrderLinkId_eq_ok]
    at hchecked
  obtain ⟨hown, -, htarget, hfilled, hnotional, hunfilled, hpos, horder, -, -, -, -⟩ := hchecked
  have horder' : ¬ ∃ id ∈ if entryOrderId = none then snapshot.entryOrderId else entryOrderId,
      isBlank id = true := by
    split
    · exact horder
    · rintro ⟨id, hmem, hblank⟩
      exact hid id hmem hblank
  have hcheck : EntryFields.check
      { snapshot.toEntryFields with
        state, entryOrderId := if entryOrderId = none then snapshot.entryOrderId else entryOrderId,
        version := snapshot.version + 1, updatedAt } = .ok () := by
    simp only [EntryFields.check, bind_unit_eq_ok, refuseIf_eq_ok, requireOwnOrderLinkId_eq_ok]
    refine ⟨hown, ?_, htarget, hfilled, hnotional, hunfilled, hpos, horder', ?_, ?_, ?_, by simp⟩
    · simp only [List.mem_cons, List.not_mem_nil, or_false] at hstate
      rcases hstate with rfl | rfl | rfl | rfl <;> decide
    · rintro ⟨hmem, hnone⟩
      have hacknowledged : state = .entryAcknowledged := by
        simp only [List.mem_cons, List.not_mem_nil, or_false] at hstate hmem
        rcases hstate with rfl | rfl | rfl | rfl <;> simp_all
      rw [if_neg (hack hacknowledged)] at hnone
      exact hack hacknowledged hnone
    · rintro ⟨rfl, -⟩
      exact absurd hstate (by decide)
    · rintro ⟨rfl, -⟩
      exact absurd hstate (by decide)
  obtain ⟨s, hs, -⟩ := EntryExecutionSnapshot.create_of_check hcheck
  exact ⟨s, hs⟩

end CreditHedge
