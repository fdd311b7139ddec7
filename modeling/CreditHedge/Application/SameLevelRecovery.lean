import CreditHedge.Application.OneLevelEntry
import CreditHedge.Core.VirtualLevels

/-!
# Same-level recovery

`application/same_level_recovery.py`: the debt of a stopped level is recorded, allocated to a new
hedge of the same level that is then sent, and settled from what the hedge earns.

The allocation is written before the order is sent, so that a crash in between leaves the debt
allocated. What happens to it when the submission raises is `submitOrRelease`: an uncertain
outcome keeps it, any other exception gives it back.

The planner the service is constructed with is a parameter, already applied to the instrument,
the risk state and the limits of the call; nothing below depends on how it decides.
-/

set_option autoImplicit false

namespace CreditHedge

structure RecoverySubmission where
  plan : RecoveryEntryPlan
  entrySnapshot : Option EntryExecutionSnapshot
  debtSnapshot : RecoveryDebtSnapshot

/-- The calls of the methods that record debt: the ports', and the insert of a level's first
    record. -/
inductive RecoveryCall where
  | port (call : Call)
  | persistRecoveryDebtSnapshot (snapshot : RecoveryDebtSnapshot)

abbrev RecoveryCall.Result : RecoveryCall → Type
  | .port call => call.Result
  | .persistRecoveryDebtSnapshot _ => Unit

abbrev RecoveryMethod := Coroutine Failure RecoveryCall RecoveryCall.Result

def RecoveryCall.handle (a : Answers) :
    (call : RecoveryCall) → World → Except Failure call.Result × World
  | .port call, w => CreditHedge.handle a call w
  | .persistRecoveryDebtSnapshot snapshot, w => w.write (w.store.persistRecoveryDebtSnapshot snapshot)

/-- `await self._store.method(…)`. -/
abbrev awaitRecovery (call : RecoveryCall) : RecoveryMethod call.Result := .perform call

/-- `planner.plan`, of a level and its debt. -/
abbrev RecoveryPlanner := HedgeLevel → RecoveryDebtState → Except Failure RecoveryEntryPlan

namespace SameLevelRecoveryService

open OneLevelEntryService

/-- The plan after the kill switch. -/
def blockedByKillSwitch (plan : RecoveryEntryPlan) : RecoveryEntryPlan :=
  { plan with
    approved := false
    quantity := none
    allocatedDebt := 0
    reasons := plan.reasons ++ ["kill switch blocks new entries"]
    lockedAction := none }

/-- The entry gate has a say in approved plans only, if there is one. -/
def applyEntryGate (hasEntryGate : Bool) (plan : RecoveryEntryPlan) : Service RecoveryEntryPlan :=
  if plan.approved && hasEntryGate then do
    if ← awaitCall .entriesAllowed then pure plan else pure (blockedByKillSwitch plan)
  else pure plan

/-- The recovery order. -/
def recoveryFields (quantity : ℚ) (orderLinkId : String) : PlaceOrderFields where
  category := .linear
  symbol := "ETHUSDT"
  side := .sell
  orderType := .market
  quantity
  orderLinkId
  timeInForce := .ioc
  reduceOnly := false
  positionIdx := 0

/-- `try: submit_persisted_entry(…)`, with its `except UncertainOrderOutcomeError: raise` and its
    `except Exception`, which releases the debt. -/
def submitOrRelease (request : PlaceOrderRequest) (persistedEntry : EntryExecutionSnapshot)
    (allocated : RecoveryDebtSnapshot) : Service EntryExecutionSnapshot :=
  tryCatch (submitPersistedEntry request persistedEntry) fun failure =>
    match failure with
    | .uncertainOrderOutcome _ => throw failure
    | _ => do
      let updatedAt ← awaitCall .clock
      let released := allocated.updated (releaseAllocatedDebt allocated.debt) updatedAt
      awaitCall (.transitionRecoveryDebtSnapshot allocated.version released)
      throw failure

/-- An approved plan of this quantity, carried out. -/
def allocateAndSubmit (orderLinkId : String) (debtSnapshot : RecoveryDebtSnapshot)
    (plan : RecoveryEntryPlan) (quantity : ℚ) : Service RecoverySubmission := do
  let request ← PlaceOrderRequest.create (recoveryFields quantity orderLinkId)
  let persistedEntry ← persistEntryIntent request
  let debt ← allocateConfirmedDebt debtSnapshot.debt
  let updatedAt ← awaitCall .clock
  let allocated := debtSnapshot.updated debt updatedAt
  awaitCall (.transitionRecoveryDebtSnapshot debtSnapshot.version allocated)
  let entrySnapshot ← submitOrRelease request persistedEntry allocated
  pure { plan, entrySnapshot := some entrySnapshot, debtSnapshot := allocated }

def submitRecovery (planner : RecoveryPlanner) (hasEntryGate : Bool) (level : HedgeLevel)
    (orderLinkId : String) : Service RecoverySubmission := do
  match ← awaitCall (.loadRecoveryDebtSnapshot level.levelId) with
  | none => throw (.valueError "recovery debt snapshot does not exist")
  | some debtSnapshot => do
    let planned ← planner level debtSnapshot.debt
    let plan ← applyEntryGate hasEntryGate planned
    match plan.approved, plan.quantity with
    | true, some quantity => allocateAndSubmit orderLinkId debtSnapshot plan quantity
    | _, _ => pure { plan, entrySnapshot := none, debtSnapshot }

/-- The last step of `submit_recovery`, by its plan. -/
def submitPlan (orderLinkId : String) (debtSnapshot : RecoveryDebtSnapshot)
    (plan : RecoveryEntryPlan) : Service RecoverySubmission :=
  match plan.approved, plan.quantity with
  | true, some quantity => allocateAndSubmit orderLinkId debtSnapshot plan quantity
  | _, _ => pure { plan, entrySnapshot := none, debtSnapshot }

/-! ## Recording and settling

The three methods that keep the level's books. A first record of a level is inserted, which no
other method of the services does; `RecoveryCall` adds that call to the ports. -/

/-- `replace(current, debt=…)`, written over the row it was made from. -/
def transitionDebt (current : RecoveryDebtSnapshot) (debt : RecoveryDebtState) :
    RecoveryMethod RecoveryDebtSnapshot := do
  let updatedAt ← awaitRecovery (.port .clock)
  let updated := current.updated debt updatedAt
  awaitRecovery (.port (.transitionRecoveryDebtSnapshot current.version updated))
  pure updated

def recordConfirmedStopDebt (levelId : ℕ) (actualStopDebt projectedDebt : ℚ) :
    RecoveryMethod RecoveryDebtSnapshot := do
  match ← awaitRecovery (.port (.loadRecoveryDebtSnapshot levelId)) with
  | none => do
    let empty ← RecoveryDebtState.empty projectedDebt
    let debt ← addConfirmedStopDebt empty actualStopDebt
    let updatedAt ← awaitRecovery (.port .clock)
    let snapshot ← RecoveryDebtSnapshot.first levelId debt updatedAt
    awaitRecovery (.persistRecoveryDebtSnapshot snapshot)
    pure snapshot
  | some current => do
    let debtWithProjection ← current.debt.withProjectedDebt projectedDebt
    let debt ← addConfirmedStopDebt debtWithProjection actualStopDebt
    transitionDebt current debt

def settleTakeProfit (levelId : ℕ) (realizedTakeProfit zoneBudget : ℚ) :
    RecoveryMethod RecoveryDebtSnapshot := do
  match ← awaitRecovery (.port (.loadRecoveryDebtSnapshot levelId)) with
  | none => throw (.valueError "recovery debt snapshot does not exist")
  | some current => do
    let debt ← settleRecoveryTakeProfit current.debt realizedTakeProfit zoneBudget
    transitionDebt current debt

def recordRecoveryStopDebt (levelId : ℕ) (actualStopDebt projectedDebt : ℚ) :
    RecoveryMethod RecoveryDebtSnapshot := do
  match ← awaitRecovery (.port (.loadRecoveryDebtSnapshot levelId)) with
  | none => throw (.valueError "recovery debt snapshot does not exist")
  | some current => do
    if current.debt.allocatedDebt = 0 then
      throw (.valueError "recovery stop requires explicitly allocated debt")
    let released := releaseAllocatedDebt current.debt
    let releasedWithProjection ← released.withProjectedDebt projectedDebt
    let debt ← addConfirmedStopDebt releasedWithProjection actualStopDebt
    transitionDebt current debt

/-- The calls of a recovery after its gate are those of the submission of its order. -/
theorem calls_allocateAndSubmit (orderLinkId : String) (debtSnapshot : RecoveryDebtSnapshot)
    (plan : RecoveryEntryPlan) (quantity : ℚ) :
    (allocateAndSubmit orderLinkId debtSnapshot plan quantity).Calls fun call =>
      ∃ request : PlaceOrderRequest,
        request.toPlaceOrderFields = recoveryFields quantity orderLinkId ∧
          SubmissionCall request call := by
  refine .lift_bind fun request hrequest => ?_
  refine Coroutine.Calls.imp ?_ fun call hcall =>
    ⟨request, PlaceOrderRequest.create_eq_ok.mp hrequest, hcall⟩
  refine (calls_persistEntryIntent request).bind fun persistedEntry => ?_
  refine .lift_bind fun debt _ => ?_
  refine .call_bind trivial fun updatedAt => ?_
  refine .call_bind trivial fun _ => ?_
  refine Coroutine.Calls.bind (Coroutine.Calls.tryCatch ?_ fun failure => ?_) fun entry => .pure _
  · exact calls_submitPersistedEntry request persistedEntry
  · split
    · exact .throw _
    · refine .call_bind trivial fun updatedAt => ?_
      exact .call_bind trivial fun _ => .throw _

end SameLevelRecoveryService

end CreditHedge
