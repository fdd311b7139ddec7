import CreditHedge.Domain.LiveExecution
import Mathlib.Tactic.Ring

/-!
# Protection and exits

`domain/protected_execution.py`: the reducer for the exchange-hosted stop and take-profit of one
level, and for the fills that close it.

`ProtectionFields.Valid` names what the constructor's twenty-odd checks come to; the reducers are
then described once, by what they do to a valid snapshot: which executions `applyExitExecution`
accepts and what it returns (`applyExitExecution_eq_ok_iff`), and the same for an emergency close
(`applyEmergencyExitExecution_eq_ok_iff`). Nothing above this file looks at a check again.
-/

set_option autoImplicit false

namespace CreditHedge

structure ProtectionFields where
  entryOrderLinkId : String
  state : LiveExecutionState
  entryQuantity : ℚ
  openQuantity : ℚ
  averageEntryPrice : ℚ
  entryFees : ℚ
  stopOrderLinkId : String
  stopOrderId : Option String
  stopTriggerPrice : ℚ
  tpOrderLinkId : Option String
  tpOrderId : Option String
  tpPrice : Option ℚ
  tpFilledQuantity : ℚ
  stopFilledQuantity : ℚ
  exitNotional : ℚ
  exitFees : ℚ
  confirmedRecoveryDebt : ℚ
  pendingTerminalState : Option LiveExecutionState
  version : ℕ
  updatedAt : Time
  deriving DecidableEq, Repr

/-- `_PROTECTION_STATES`. -/
def protectionStates : List LiveExecutionState :=
  [.activeUnprotected, .activeProtected, .exitPartiallyFilled, .cancelPending, .closedTp,
    .closedStop, .reconciling, .error]

namespace ProtectionFields

variable (f : ProtectionFields)

def closedQuantity : ℚ := f.tpFilledQuantity + f.stopFilledQuantity

/-- The role check of a take-profit id, if there is one. -/
def checkTpRole : Except Failure Unit :=
  match f.tpOrderLinkId with
  | none => .ok ()
  | some id => requireRole id .hedgeTp

/-- The checks of the TP details. -/
def checkTp : Except Failure Unit :=
  match f.tpOrderLinkId with
  | none =>
    refuseIf (f.tpOrderId ≠ none ∨ f.tpPrice ≠ none) "TP details require a TP client order ID"
  | some _ =>
    refuseIf (¬ ∃ price ∈ f.tpPrice, 0 < price) "TP intent requires a positive price"

/-- `ProtectionSnapshot.__post_init__`. -/
def check : Except Failure Unit := do
  requireRole f.entryOrderLinkId .hedgeEntry
  requireRole f.stopOrderLinkId .hedgeStop
  f.checkTpRole
  refuseIf (f.state ∉ protectionStates) "state is not valid for protection execution"
  refuseIf (f.entryQuantity ≤ 0 ∨ f.averageEntryPrice ≤ 0)
    "entry quantity and average price must be positive"
  refuseIf (¬ (0 ≤ f.openQuantity ∧ f.openQuantity ≤ f.entryQuantity))
    "open quantity must be within entry quantity"
  refuseIf (f.entryFees < 0) "entry fees cannot be negative"
  refuseIf (f.tpFilledQuantity < 0) "tp filled quantity cannot be negative"
  refuseIf (f.stopFilledQuantity < 0) "stop filled quantity cannot be negative"
  refuseIf (f.exitNotional < 0) "exit notional cannot be negative"
  refuseIf (f.exitFees < 0) "exit fees cannot be negative"
  refuseIf (f.confirmedRecoveryDebt < 0) "confirmed recovery debt cannot be negative"
  refuseIf (f.closedQuantity + f.openQuantity ≠ f.entryQuantity)
    "open and closed quantities must equal entry quantity"
  refuseIf (f.closedQuantity = 0 ∧ f.exitNotional ≠ 0) "unfilled exits must have zero notional"
  refuseIf (0 < f.closedQuantity ∧ f.exitNotional ≤ 0) "filled exits must have positive notional"
  refuseIf (f.stopTriggerPrice ≤ 0) "stop trigger price must be positive"
  refuseIf (∃ id ∈ f.stopOrderId, isBlank id) "stop order ID cannot be empty"
  refuseIf (∃ id ∈ f.tpOrderId, isBlank id) "TP order ID cannot be empty"
  f.checkTp
  refuseIf (f.state = .activeProtected ∧ f.stopOrderId = none)
    "protected state requires a confirmed stop"
  refuseIf (f.pendingTerminalState ∉ [none, some .closedTp, some .closedStop])
    "pending terminal state must be CLOSED_TP or CLOSED_STOP"
  refuseIf
    (f.state = .cancelPending ∧ (f.openQuantity ≠ 0 ∨ f.pendingTerminalState = none))
    "cancel pending requires a closed local position"
  refuseIf
    ((f.state = .closedTp ∨ f.state = .closedStop) ∧
      (f.openQuantity ≠ 0 ∨ f.pendingTerminalState ≠ none))
    "closed state requires zero open quantity"
  refuseIf (f.version = 0) "snapshot version must be positive"

/-- What the checks of the constructor come to. -/
structure Valid : Prop where
  entryRole : HasRole f.entryOrderLinkId .hedgeEntry
  stopRole : HasRole f.stopOrderLinkId .hedgeStop
  tpRole : ∀ id ∈ f.tpOrderLinkId, HasRole id .hedgeTp
  state_mem : f.state ∈ protectionStates
  entryQuantity_pos : 0 < f.entryQuantity
  averageEntryPrice_pos : 0 < f.averageEntryPrice
  openQuantity_nonneg : 0 ≤ f.openQuantity
  openQuantity_le : f.openQuantity ≤ f.entryQuantity
  entryFees_nonneg : 0 ≤ f.entryFees
  tpFilled_nonneg : 0 ≤ f.tpFilledQuantity
  stopFilled_nonneg : 0 ≤ f.stopFilledQuantity
  exitNotional_nonneg : 0 ≤ f.exitNotional
  exitFees_nonneg : 0 ≤ f.exitFees
  debt_nonneg : 0 ≤ f.confirmedRecoveryDebt
  balanced : f.closedQuantity + f.openQuantity = f.entryQuantity
  unfilled : f.closedQuantity = 0 → f.exitNotional = 0
  filled : 0 < f.closedQuantity → 0 < f.exitNotional
  stopTriggerPrice_pos : 0 < f.stopTriggerPrice
  stopOrderId_text : ∀ id ∈ f.stopOrderId, ¬ isBlank id = true
  tpOrderId_text : ∀ id ∈ f.tpOrderId, ¬ isBlank id = true
  tp_absent : f.tpOrderLinkId = none → f.tpOrderId = none ∧ f.tpPrice = none
  tp_present : f.tpOrderLinkId ≠ none → ∃ price ∈ f.tpPrice, 0 < price
  protected_stop : f.state = .activeProtected → f.stopOrderId ≠ none
  pending_mem : f.pendingTerminalState ∈ [none, some .closedTp, some .closedStop]
  cancelPending : f.state = .cancelPending → f.openQuantity = 0 ∧ f.pendingTerminalState ≠ none
  closed : f.state = .closedTp ∨ f.state = .closedStop →
    f.openQuantity = 0 ∧ f.pendingTerminalState = none
  version_pos : 0 < f.version

variable {f}

theorem checkTp_eq_ok {u : Unit} : f.checkTp = .ok u ↔
    (f.tpOrderLinkId = none → f.tpOrderId = none ∧ f.tpPrice = none) ∧
      (f.tpOrderLinkId ≠ none → ∃ price ∈ f.tpPrice, 0 < price) := by
  unfold checkTp
  cases f.tpOrderLinkId <;> simp

theorem checkTpRole_eq_ok {u : Unit} :
    f.checkTpRole = .ok u ↔ ∀ id ∈ f.tpOrderLinkId, HasRole id .hedgeTp := by
  unfold checkTpRole
  cases f.tpOrderLinkId <;> simp [requireRole_eq_ok]

theorem check_eq_ok : f.check = .ok () ↔ f.Valid := by
  constructor
  · intro h
    simp only [check, bind_unit_eq_ok, requireRole_eq_ok, checkTpRole_eq_ok, refuseIf_eq_ok,
      checkTp_eq_ok] at h
    obtain ⟨h₁, h₂, h₃, h₄, h₅, h₆, h₇, h₈, h₉, h₁₀, h₁₁, h₁₂, h₁₃, h₁₄, h₁₅, h₁₆, h₁₇, h₁₈, h₁₉,
      h₂₀, h₂₁, h₂₂, h₂₃, h₂₄⟩ := h
    rw [not_or, not_le, not_le] at h₅
    rw [not_not] at h₄ h₆ h₁₃ h₂₁
    rw [not_lt] at h₇ h₈ h₉ h₁₀ h₁₁ h₁₂
    exact
      { entryRole := h₁, stopRole := h₂, tpRole := h₃, state_mem := h₄
        entryQuantity_pos := h₅.1, averageEntryPrice_pos := h₅.2
        openQuantity_nonneg := h₆.1, openQuantity_le := h₆.2
        entryFees_nonneg := h₇, tpFilled_nonneg := h₈, stopFilled_nonneg := h₉
        exitNotional_nonneg := h₁₀, exitFees_nonneg := h₁₁, debt_nonneg := h₁₂
        balanced := h₁₃
        unfilled := fun h => not_not.mp fun hne => h₁₄ ⟨h, hne⟩
        filled := fun h => not_le.mp fun hle => h₁₅ ⟨h, hle⟩
        stopTriggerPrice_pos := not_le.mp h₁₆
        stopOrderId_text := fun id hid hb => h₁₇ ⟨id, hid, hb⟩
        tpOrderId_text := fun id hid hb => h₁₈ ⟨id, hid, hb⟩
        tp_absent := h₁₉.1, tp_present := h₁₉.2
        protected_stop := fun h hn => h₂₀ ⟨h, hn⟩
        pending_mem := h₂₁
        cancelPending := fun h => by
          obtain ⟨hopen, hpending⟩ := not_or.mp fun hor => h₂₂ ⟨h, hor⟩
          exact ⟨not_not.mp hopen, hpending⟩
        closed := fun h => by
          obtain ⟨hopen, hpending⟩ := not_or.mp fun hor => h₂₃ ⟨h, hor⟩
          exact ⟨not_not.mp hopen, not_not.mp hpending⟩
        version_pos := Nat.pos_of_ne_zero h₂₄ }
  · intro h
    simp only [check, bind_unit_eq_ok, requireRole_eq_ok, checkTpRole_eq_ok, refuseIf_eq_ok,
      checkTp_eq_ok]
    refine ⟨h.entryRole, h.stopRole, h.tpRole, not_not.mpr h.state_mem, ?_,
      not_not.mpr ⟨h.openQuantity_nonneg, h.openQuantity_le⟩, not_lt.mpr h.entryFees_nonneg,
      not_lt.mpr h.tpFilled_nonneg, not_lt.mpr h.stopFilled_nonneg,
      not_lt.mpr h.exitNotional_nonneg, not_lt.mpr h.exitFees_nonneg, not_lt.mpr h.debt_nonneg,
      not_not.mpr h.balanced, ?_, ?_, not_le.mpr h.stopTriggerPrice_pos, ?_, ?_,
      ⟨h.tp_absent, h.tp_present⟩, ?_, not_not.mpr h.pending_mem, ?_, ?_, h.version_pos.ne'⟩
    · exact not_or.mpr ⟨not_le.mpr h.entryQuantity_pos, not_le.mpr h.averageEntryPrice_pos⟩
    · exact fun hu => hu.2 (h.unfilled hu.1)
    · exact fun hu => absurd (h.filled hu.1) (not_lt.mpr hu.2)
    · exact fun ⟨id, hid, hb⟩ => h.stopOrderId_text id hid hb
    · exact fun ⟨id, hid, hb⟩ => h.tpOrderId_text id hid hb
    · exact fun hu => h.protected_stop hu.1 hu.2
    · rintro ⟨hs, hopen | hnone⟩
      · exact hopen (h.cancelPending hs).1
      · exact (h.cancelPending hs).2 hnone
    · rintro ⟨hs, hopen | hsome⟩
      · exact hopen (h.closed hs).1
      · exact hsome (h.closed hs).2

end ProtectionFields

structure ProtectionSnapshot extends ProtectionFields where
  checked : toProtectionFields.check = .ok ()
  deriving DecidableEq

namespace ProtectionSnapshot

def create : ProtectionFields → Except Failure ProtectionSnapshot :=
  build ProtectionFields.check ProtectionSnapshot.mk

theorem create_eq_ok {f : ProtectionFields} {s : ProtectionSnapshot} :
    create f = .ok s ↔ s.toProtectionFields = f := by
  refine build_eq_ok.trans ⟨?_, ?_⟩
  · rintro ⟨_, rfl⟩
    rfl
  · rintro rfl
    exact ⟨s.checked, rfl⟩

theorem exists_create_iff {f : ProtectionFields} :
    (∃ s, create f = .ok s) ↔ f.Valid := by
  rw [← ProtectionFields.check_eq_ok]
  constructor
  · rintro ⟨s, hs⟩
    rw [create_eq_ok] at hs
    rw [← hs]
    exact s.checked
  · intro h
    exact ⟨⟨f, h⟩, create_eq_ok.mpr rfl⟩

theorem valid (snapshot : ProtectionSnapshot) : snapshot.toProtectionFields.Valid :=
  ProtectionFields.check_eq_ok.mp snapshot.checked

/-- `realized_pnl`: what the closed part has earned, with its share of the entry fees. -/
def realizedPnl (snapshot : ProtectionSnapshot) : ℚ :=
  let closedQuantity := snapshot.tpFilledQuantity + snapshot.stopFilledQuantity
  let allocatedEntryFees := snapshot.entryFees * closedQuantity / snapshot.entryQuantity
  snapshot.averageEntryPrice * closedQuantity - snapshot.exitNotional - allocatedEntryFees
    - snapshot.exitFees

/-- `ProtectionSnapshot.for_stop_intent`. -/
def forStopIntent (entry : EntryExecutionSnapshot) (stopOrderLinkId : String)
    (stopTriggerPrice : ℚ) (persistedAt : Time) : Except Failure ProtectionSnapshot := do
  refuseIf (entry.state ≠ .activeUnprotected)
    "stop protection requires ACTIVE_UNPROTECTED entry"
  match entry.averageEntryPrice with
  | none => throw (.valueError "stop protection requires confirmed entry executions")
  | some averagePrice => do
    refuseIf (entry.filledQuantity ≤ 0) "stop protection requires confirmed entry executions"
    create
      { entryOrderLinkId := entry.orderLinkId
        state := .activeUnprotected
        entryQuantity := entry.filledQuantity
        openQuantity := entry.filledQuantity
        averageEntryPrice := averagePrice
        entryFees := entry.entryFees
        stopOrderLinkId
        stopOrderId := none
        stopTriggerPrice
        tpOrderLinkId := none
        tpOrderId := none
        tpPrice := none
        tpFilledQuantity := 0
        stopFilledQuantity := 0
        exitNotional := 0
        exitFees := 0
        confirmedRecoveryDebt := 0
        pendingTerminalState := none
        version := 1
        updatedAt := persistedAt }

end ProtectionSnapshot

/-! ## Comparing with the exchange -/

/-- `aggregate_protection_position_matches`. -/
def aggregateProtectionPositionMatches (snapshots : List ProtectionSnapshot)
    (positions : List ExchangePosition) : Bool :=
  isShortOf (snapshots.map fun snapshot => snapshot.openQuantity).sum (nonzeroPerps positions)

/-! ## Installing the exits -/

section Installing

variable (snapshot : ProtectionSnapshot)

def confirmStop (orderId : String) (updatedAt : Time) : Except Failure ProtectionSnapshot :=
  ProtectionSnapshot.create
    { snapshot.toProtectionFields with
      state := .activeProtected
      stopOrderId := some orderId
      version := snapshot.version + 1
      updatedAt }

def replaceStopIntent (orderLinkId : String) (triggerPrice : ℚ) (updatedAt : Time) :
    Except Failure ProtectionSnapshot := do
  refuseIf (snapshot.openQuantity ≤ 0) "replacement stop requires confirmed open quantity"
  refuseIf (snapshot.state ∉ [.activeProtected, .exitPartiallyFilled, .reconciling])
    "snapshot state does not allow replacement protection"
  ProtectionSnapshot.create
    { snapshot.toProtectionFields with
      state := .activeUnprotected
      stopOrderLinkId := orderLinkId
      stopOrderId := none
      stopTriggerPrice := triggerPrice
      version := snapshot.version + 1
      updatedAt }

def addTakeProfitIntent (orderLinkId : String) (price : ℚ) (updatedAt : Time) :
    Except Failure ProtectionSnapshot := do
  refuseIf (snapshot.state ≠ .activeProtected) "TP requires confirmed stop protection"
  refuseIf (snapshot.tpOrderLinkId ≠ none) "TP intent already exists"
  ProtectionSnapshot.create
    { snapshot.toProtectionFields with
      tpOrderLinkId := some orderLinkId
      tpPrice := some price
      version := snapshot.version + 1
      updatedAt }

def confirmTakeProfit (orderId : String) (updatedAt : Time) :
    Except Failure ProtectionSnapshot := do
  refuseIf (snapshot.tpOrderLinkId = none) "TP confirmation requires a persisted intent"
  ProtectionSnapshot.create
    { snapshot.toProtectionFields with
      tpOrderId := some orderId
      version := snapshot.version + 1
      updatedAt }

def markProtectionReconciling (updatedAt : Time) : Except Failure ProtectionSnapshot :=
  if snapshot.state = .reconciling then .ok snapshot
  else
    ProtectionSnapshot.create
      { snapshot.toProtectionFields with
        state := .reconciling
        version := snapshot.version + 1
        updatedAt }

end Installing

/-! ## Exit fills -/

section Exits

variable (snapshot : ProtectionSnapshot) (execution : ExecutionUpdate)

/-- The debt a stop fill of this size confirms. -/
def stopDebt (quantity fee : ℚ) : ℚ :=
  max
    ((execution.price - snapshot.averageEntryPrice) * quantity
      + snapshot.entryFees * quantity / snapshot.entryQuantity + fee)
    0

/-- The record `apply_exit_execution` hands to `replace`. -/
def exitFields (updatedAt : Time) : ProtectionFields :=
  let isStop := execution.orderLinkId = snapshot.stopOrderLinkId
  let openQuantity := snapshot.openQuantity - execution.quantity
  let stopFilled :=
    if isStop then snapshot.stopFilledQuantity + execution.quantity
    else snapshot.stopFilledQuantity
  { snapshot.toProtectionFields with
    state := if openQuantity = 0 then .cancelPending else .exitPartiallyFilled
    openQuantity
    tpFilledQuantity :=
      if isStop then snapshot.tpFilledQuantity
      else snapshot.tpFilledQuantity + execution.quantity
    stopFilledQuantity := stopFilled
    exitNotional := snapshot.exitNotional + execution.price * execution.quantity
    exitFees := snapshot.exitFees + execution.fee
    confirmedRecoveryDebt :=
      if isStop then
        snapshot.confirmedRecoveryDebt
          + stopDebt snapshot execution execution.quantity execution.fee
      else snapshot.confirmedRecoveryDebt
    pendingTerminalState :=
      if openQuantity = 0 then
        some (if 0 < stopFilled then .closedStop else .closedTp)
      else none
    version := snapshot.version + 1
    updatedAt }

def applyExitExecution (updatedAt : Time) : Except Failure ProtectionSnapshot := do
  refuseIf (execution.symbol ≠ "ETHUSDT" ∨ execution.side ≠ .buy)
    "protective execution must be an ETHUSDT Buy"
  refuseIf
    (execution.orderLinkId ≠ snapshot.stopOrderLinkId ∧
      some execution.orderLinkId ≠ snapshot.tpOrderLinkId)
    "execution does not belong to a protective exit"
  let expectedOrderId :=
    if execution.orderLinkId = snapshot.stopOrderLinkId then snapshot.stopOrderId
    else snapshot.tpOrderId
  refuseIf (expectedOrderId ≠ none ∧ some execution.orderId ≠ expectedOrderId)
    "execution order ID does not match protective exit"
  refuseIf (snapshot.openQuantity < execution.quantity)
    "exit execution exceeds confirmed open quantity"
  ProtectionSnapshot.create (exitFields snapshot execution updatedAt)

/-- The record `apply_emergency_exit_execution` hands to `replace`. -/
def emergencyFields (quantity : ℚ) (updatedAt : Time) : ProtectionFields :=
  let allocatedExitFee := execution.fee * quantity / execution.quantity
  { snapshot.toProtectionFields with
    state := .error
    openQuantity := snapshot.openQuantity - quantity
    stopFilledQuantity := snapshot.stopFilledQuantity + quantity
    exitNotional := snapshot.exitNotional + execution.price * quantity
    exitFees := snapshot.exitFees + allocatedExitFee
    confirmedRecoveryDebt :=
      snapshot.confirmedRecoveryDebt + stopDebt snapshot execution quantity allocatedExitFee
    pendingTerminalState := none
    version := snapshot.version + 1
    updatedAt }

def applyEmergencyExitExecution (updatedAt : Time) (allocatedQuantity : Option ℚ := none) :
    Except Failure ProtectionSnapshot := do
  let entryId ← ClientOrderId.parse snapshot.entryOrderLinkId
  let closeId ← ClientOrderId.parse execution.orderLinkId
  refuseIf
    (closeId.role ≠ .emergencyClose ∨ closeId.strategyInstance ≠ entryId.strategyInstance ∨
      closeId.cycle ≠ entryId.cycle)
    "emergency execution does not belong to this level"
  refuseIf (execution.symbol ≠ "ETHUSDT" ∨ execution.side ≠ .buy)
    "emergency execution must buy ETHUSDT"
  let quantity := allocatedQuantity.getD execution.quantity
  refuseIf (quantity ≤ 0 ∨ execution.quantity < quantity)
    "emergency allocation is outside the execution"
  refuseIf (snapshot.openQuantity < quantity)
    "emergency execution exceeds confirmed open quantity"
  ProtectionSnapshot.create (emergencyFields snapshot execution quantity updatedAt)

def confirmExitReconciliation (updatedAt : Time) : Except Failure ProtectionSnapshot :=
  match snapshot.state, snapshot.pendingTerminalState with
  | .cancelPending, some terminal =>
    ProtectionSnapshot.create
      { snapshot.toProtectionFields with
        state := terminal
        pendingTerminalState := none
        version := snapshot.version + 1
        updatedAt }
  | _, _ => .error (.valueError "exit reconciliation requires CANCEL_PENDING state")

variable {snapshot execution} {updatedAt : Time}

/-- **When an exit fill is accepted by the constructor.** A fill within the open quantity keeps
    every clause of `Valid` except that the fees must not become negative. -/
theorem exitFields_valid_iff (updatedAt : Time) (hq : execution.quantity ≤ snapshot.openQuantity) :
    (exitFields snapshot execution updatedAt).Valid ↔ 0 ≤ snapshot.exitFees + execution.fee := by
  have h := snapshot.valid
  have hpos := execution.quantity_pos
  have hnotional : 0 < execution.price * execution.quantity := mul_pos execution.price_pos hpos
  have hclosed : (exitFields snapshot execution updatedAt).closedQuantity =
      snapshot.closedQuantity + execution.quantity := by
    unfold exitFields ProtectionFields.closedQuantity
    dsimp only
    split <;> ring
  have hclosed_nonneg : 0 ≤ snapshot.closedQuantity :=
    add_nonneg h.tpFilled_nonneg h.stopFilled_nonneg
  have hdebt : 0 ≤ stopDebt snapshot execution execution.quantity execution.fee := le_max_right _ _
  constructor
  · intro hv
    exact hv.exitFees_nonneg
  · intro hfees
    have hnotional' : 0 < snapshot.exitNotional + execution.price * execution.quantity :=
      add_pos_of_nonneg_of_pos h.exitNotional_nonneg hnotional
    exact
      { entryRole := h.entryRole, stopRole := h.stopRole, tpRole := h.tpRole
        state_mem := by unfold exitFields; dsimp only; split <;> decide
        entryQuantity_pos := h.entryQuantity_pos
        averageEntryPrice_pos := h.averageEntryPrice_pos
        openQuantity_nonneg := sub_nonneg.mpr hq
        openQuantity_le := (sub_le_self _ hpos.le).trans h.openQuantity_le
        entryFees_nonneg := h.entryFees_nonneg
        tpFilled_nonneg := by
          have := h.tpFilled_nonneg
          unfold exitFields; dsimp only; split <;> linarith
        stopFilled_nonneg := by
          have := h.stopFilled_nonneg
          unfold exitFields; dsimp only; split <;> linarith
        exitNotional_nonneg := hnotional'.le
        exitFees_nonneg := hfees
        debt_nonneg := by
          have := h.debt_nonneg
          unfold exitFields; dsimp only; split <;> linarith
        balanced := by
          rw [hclosed]
          have := h.balanced
          unfold exitFields; dsimp only; linarith
        unfilled := fun hzero => absurd hzero (by rw [hclosed]; linarith)
        filled := fun _ => hnotional'
        stopTriggerPrice_pos := h.stopTriggerPrice_pos
        stopOrderId_text := h.stopOrderId_text, tpOrderId_text := h.tpOrderId_text
        tp_absent := h.tp_absent, tp_present := h.tp_present
        protected_stop := fun hs => by
          unfold exitFields at hs; dsimp only at hs; split at hs <;> exact absurd hs (by decide)
        pending_mem := by
          unfold exitFields; dsimp only; split
          · split <;> split <;> decide
          · decide
        cancelPending := fun hs => by
          unfold exitFields at hs ⊢; dsimp only at hs ⊢
          split at hs
          · rename_i hzero
            exact ⟨hzero, by simp [hzero]⟩
          · exact absurd hs (by decide)
        closed := fun hs => by
          unfold exitFields at hs; dsimp only at hs
          split at hs <;> exact absurd hs (by decide)
        version_pos := Nat.succ_pos _ }

/-- The execution is one of this protection's own exits, as far as its identity goes. -/
structure BelongsTo (snapshot : ProtectionSnapshot) (execution : ExecutionUpdate) : Prop where
  symbol : execution.symbol = "ETHUSDT"
  side : execution.side = .buy
  exit : execution.orderLinkId = snapshot.stopOrderLinkId ∨
    some execution.orderLinkId = snapshot.tpOrderLinkId
  orderId : ∀ expected,
    (if execution.orderLinkId = snapshot.stopOrderLinkId then snapshot.stopOrderId
      else snapshot.tpOrderId) = some expected → execution.orderId = expected

instance : Decidable (BelongsTo snapshot execution) :=
  decidable_of_iff
    ((execution.symbol = "ETHUSDT" ∧ execution.side = .buy) ∧
      (execution.orderLinkId = snapshot.stopOrderLinkId ∨
        some execution.orderLinkId = snapshot.tpOrderLinkId) ∧
      ∀ expected ∈ (if execution.orderLinkId = snapshot.stopOrderLinkId then snapshot.stopOrderId
        else snapshot.tpOrderId), execution.orderId = expected)
    ⟨fun ⟨⟨h₁, h₂⟩, h₃, h₄⟩ => ⟨h₁, h₂, h₃, h₄⟩, fun h => ⟨⟨h.1, h.2⟩, h.3, h.4⟩⟩

/-- **Which exit fills are accepted, and what becomes of them.** -/
theorem applyExitExecution_eq_ok_iff {s : ProtectionSnapshot} :
    applyExitExecution snapshot execution updatedAt = .ok s ↔
      BelongsTo snapshot execution ∧ execution.quantity ≤ snapshot.openQuantity ∧
        0 ≤ snapshot.exitFees + execution.fee ∧
        s.toProtectionFields = exitFields snapshot execution updatedAt := by
  simp only [applyExitExecution, bind_unit_eq_ok, refuseIf_eq_ok, not_lt,
    ProtectionSnapshot.create_eq_ok]
  constructor
  · rintro ⟨hbuy, hexit, hid, hq, hs⟩
    rw [not_or, not_not, not_not] at hbuy
    refine ⟨⟨hbuy.1, hbuy.2, by tauto, fun expected he => ?_⟩, hq, ?_, hs⟩
    · rw [he] at hid
      simpa using hid
    · rw [← exitFields_valid_iff updatedAt hq, ← hs]
      exact s.valid
  · rintro ⟨hb, hq, -, hs⟩
    refine ⟨?_, ?_, ?_, hq, hs⟩
    · simp [hb.symbol, hb.side]
    · have := hb.exit
      tauto
    · rintro ⟨hne, hne'⟩
      obtain ⟨expected, he⟩ := Option.ne_none_iff_exists'.mp hne
      exact hne' (by rw [he, hb.orderId expected he])

theorem applyExitExecution_ok (updatedAt : Time) (hb : BelongsTo snapshot execution)
    (hq : execution.quantity ≤ snapshot.openQuantity)
    (hfees : 0 ≤ snapshot.exitFees + execution.fee) :
    ∃ s, applyExitExecution snapshot execution updatedAt = .ok s ∧
      s.toProtectionFields = exitFields snapshot execution updatedAt := by
  obtain ⟨s, hs⟩ :=
    ProtectionSnapshot.exists_create_iff.mpr ((exitFields_valid_iff updatedAt hq).mpr hfees)
  have hs' := ProtectionSnapshot.create_eq_ok.mp hs
  exact ⟨s, applyExitExecution_eq_ok_iff.mpr ⟨hb, hq, hfees, hs'⟩, hs'⟩

/-- The same for an emergency close: its share of the fee is the only thing that can be refused. -/
theorem emergencyFields_valid_iff (updatedAt : Time) {quantity : ℚ} (hpos : 0 < quantity)
    (hq : quantity ≤ snapshot.openQuantity) :
    (emergencyFields snapshot execution quantity updatedAt).Valid ↔
      0 ≤ snapshot.exitFees + execution.fee * quantity / execution.quantity := by
  have h := snapshot.valid
  have hnotional : 0 < execution.price * quantity := mul_pos execution.price_pos hpos
  have hclosed : (emergencyFields snapshot execution quantity updatedAt).closedQuantity =
      snapshot.closedQuantity + quantity := by
    unfold emergencyFields ProtectionFields.closedQuantity
    ring
  have hclosed_nonneg : 0 ≤ snapshot.closedQuantity :=
    add_nonneg h.tpFilled_nonneg h.stopFilled_nonneg
  constructor
  · intro hv
    exact hv.exitFees_nonneg
  · intro hfees
    have hnotional' : 0 < snapshot.exitNotional + execution.price * quantity :=
      add_pos_of_nonneg_of_pos h.exitNotional_nonneg hnotional
    exact
      { entryRole := h.entryRole, stopRole := h.stopRole, tpRole := h.tpRole
        state_mem := show LiveExecutionState.error ∈ protectionStates by decide
        entryQuantity_pos := h.entryQuantity_pos
        averageEntryPrice_pos := h.averageEntryPrice_pos
        openQuantity_nonneg := sub_nonneg.mpr hq
        openQuantity_le := (sub_le_self _ hpos.le).trans h.openQuantity_le
        entryFees_nonneg := h.entryFees_nonneg
        tpFilled_nonneg := h.tpFilled_nonneg
        stopFilled_nonneg := add_nonneg h.stopFilled_nonneg hpos.le
        exitNotional_nonneg := hnotional'.le
        exitFees_nonneg := hfees
        debt_nonneg := add_nonneg h.debt_nonneg (le_max_right _ _)
        balanced := by
          rw [hclosed]
          have := h.balanced
          unfold emergencyFields; dsimp only; linarith
        unfilled := fun hzero => absurd hzero (by rw [hclosed]; linarith)
        filled := fun _ => hnotional'
        stopTriggerPrice_pos := h.stopTriggerPrice_pos
        stopOrderId_text := h.stopOrderId_text, tpOrderId_text := h.tpOrderId_text
        tp_absent := h.tp_absent, tp_present := h.tp_present
        protected_stop := fun hs => absurd hs (show LiveExecutionState.error ≠ _ by decide)
        pending_mem := show (none : Option LiveExecutionState) ∈ _ by decide
        cancelPending := fun hs => absurd hs (show LiveExecutionState.error ≠ _ by decide)
        closed := fun hs => by
          rcases hs with hs | hs <;>
            exact absurd hs (show LiveExecutionState.error ≠ _ by decide)
        version_pos := Nat.succ_pos _ }

/-- The emergency close is one of the cycle this protection was opened in. -/
def ClosesFor (snapshot : ProtectionSnapshot) (execution : ExecutionUpdate) : Prop :=
  ∃ entryId closeId, ClientOrderId.parse snapshot.entryOrderLinkId = .ok entryId ∧
    ClientOrderId.parse execution.orderLinkId = .ok closeId ∧ closeId.role = .emergencyClose ∧
    closeId.strategyInstance = entryId.strategyInstance ∧ closeId.cycle = entryId.cycle

/-- **Which emergency fills are accepted, and what becomes of them.** -/
theorem applyEmergencyExitExecution_eq_ok_iff {quantity : ℚ} {s : ProtectionSnapshot} :
    applyEmergencyExitExecution snapshot execution updatedAt (some quantity) = .ok s ↔
      ClosesFor snapshot execution ∧ (execution.symbol = "ETHUSDT" ∧ execution.side = .buy) ∧
        (0 < quantity ∧ quantity ≤ execution.quantity) ∧ quantity ≤ snapshot.openQuantity ∧
        0 ≤ snapshot.exitFees + execution.fee * quantity / execution.quantity ∧
        s.toProtectionFields = emergencyFields snapshot execution quantity updatedAt := by
  simp only [applyEmergencyExitExecution, bind_eq_ok, refuseIf_eq_ok, exists_const, not_lt,
    not_le, not_or, not_not, ProtectionSnapshot.create_eq_ok, Option.getD_some]
  constructor
  · rintro ⟨entryId, hentry, closeId, hclose, ⟨hrole, hinstance, hcycle⟩, hbuy, hq, hopen, hs⟩
    refine ⟨⟨entryId, closeId, hentry, hclose, hrole, hinstance, hcycle⟩, hbuy, hq, hopen, ?_, hs⟩
    rw [← emergencyFields_valid_iff updatedAt hq.1 hopen, ← hs]
    exact s.valid
  · rintro ⟨⟨entryId, closeId, hentry, hclose, hrole, hinstance, hcycle⟩, hbuy, hq, hopen, -, hs⟩
    exact ⟨entryId, hentry, closeId, hclose, ⟨hrole, hinstance, hcycle⟩, hbuy, hq, hopen, hs⟩

end Exits

end CreditHedge
