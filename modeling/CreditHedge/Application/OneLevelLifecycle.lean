import CreditHedge.Application.OneLevelEntry
import CreditHedge.Application.ProtectiveExits

/-!
# One level, from its entry to its exits

`application/one_level_lifecycle.py`: an entry that was submitted is awaited until it has all it
will get, and then protected by a stop and a take-profit.

The service asks the exchange two different questions about the entry. The execution history says
what was filled, and goes into the store fill by fill; the order says whether there is more to
come. They are asked one after the other, and the exchange does not stand still in between, so
what counts is how the two answers are put together (`endedEntry?`).

The history is a port the other services do not have, so the calls here are theirs and one more.
The pause between two attempts has no effect but time, and is left out.
-/

set_option autoImplicit false

namespace CreditHedge

inductive LifecycleCall where
  | port (call : Call)
  | getExecutionHistory (category : Category) (symbol orderLinkId : String)

abbrev LifecycleCall.Result : LifecycleCall → Type
  | .port call => call.Result
  | .getExecutionHistory .. => List ExecutionUpdate

abbrev LifecycleTask := Coroutine Failure LifecycleCall LifecycleCall.Result

/-- A service that only uses the common ports. -/
def onCommonPorts {α : Type} : Service α → LifecycleTask α
  | .done outcome => .done outcome
  | .call call resume => .call (.port call) fun answer => onCommonPorts (resume answer)

/-- `protection_position_matches`. -/
def protectionPositionMatches (snapshot : ProtectionSnapshot)
    (positions : List ExchangePosition) : Bool :=
  isShortOf snapshot.openQuantity (nonzeroPerps positions)

structure ProtectedOneLevel where
  entry : EntryExecutionSnapshot
  «protection» : ProtectionSnapshot

namespace OneLevelLifecycleService

open OneLevelEntryService ProtectiveExitService

/-- `_TERMINAL_ORDER_STATUSES`. -/
def terminalOrderStatuses : List String :=
  ["Cancelled", "Deactivated", "Filled", "PartiallyFilledCanceled", "Rejected"]

/-- `sorted(executions, key=lambda value: (value.executed_at, value.execution_id))`. -/
def sortedExecutions (executions : List ExecutionUpdate) : List ExecutionUpdate :=
  executions.insertionSort fun e e' =>
    e.executedAt < e'.executedAt ∨
      (e.executedAt = e'.executedAt ∧ e.executionId ≤ e'.executionId)

/-- The executions applied one after the other; the row they lead to. -/
def applyExecutions (payloadHash : ExecutionUpdate → PayloadHash) :
    List ExecutionUpdate → EntryExecutionSnapshot → LifecycleTask EntryExecutionSnapshot
  | [], snapshot => pure snapshot
  | execution :: executions, _ => do
    let receivedAt ← .perform (.port .clock)
    let applied ← onCommonPorts (applyExecution execution receivedAt (payloadHash execution))
    applyExecutions payloadHash executions applied

/-- What the order says of the entry: `some true`, there is a fill and it is all there will be;
    `some false`, the entry ended without a fill; `none`, there may be more to come. -/
def endedEntry? (snapshot : EntryExecutionSnapshot) :
    Option ExchangeOrder → Except Failure (Option Bool)
  | none => .ok none
  | some order =>
    if order.status ∉ terminalOrderStatuses then .ok none
    else if order.cumulativeFilledQuantity < snapshot.filledQuantity then
      .error (.runtimeError "exchange order reports less fill than the durable snapshot")
    else if order.cumulativeFilledQuantity ≠ snapshot.filledQuantity then .ok none
    else if snapshot.state = .entryPartiallyFilled then .ok (some true)
    else if snapshot.filledQuantity = 0 then .ok (some false)
    else .ok none

/-- `_await_entry_fill`, with this many attempts left. -/
def awaitEntryFill (payloadHash : ExecutionUpdate → PayloadHash) :
    ℕ → EntryExecutionSnapshot → LifecycleTask EntryExecutionSnapshot
  | 0, snapshot =>
    throw (.runtimeError s!"entry {snapshot.orderLinkId} fill was not confirmed")
  | attempts + 1, snapshot => do
    let executions ←
      .perform (.getExecutionHistory .linear "ETHUSDT" snapshot.orderLinkId)
    let snapshot ← applyExecutions payloadHash (sortedExecutions executions) snapshot
    if snapshot.state = .activeUnprotected then pure snapshot
    else do
      let order ←
        .perform (.port (.getOrderByLinkId .linear "ETHUSDT" snapshot.orderLinkId))
      match ← endedEntry? snapshot order with
      | some true => onCommonPorts (finalizePartialFill snapshot.orderLinkId)
      | some false =>
        throw (.runtimeError s!"entry {snapshot.orderLinkId} ended without a fill")
      | none => awaitEntryFill payloadHash attempts snapshot

/-- The settings of the service, and what it was told about the exits. -/
structure Plan where
  payloadHash : ExecutionUpdate → PayloadHash
  fillAttempts : ℕ
  visibilityAttempts : ℕ
  instrument : InstrumentSpec
  /-- The `_active_order_link_id` of the entry service. -/
  activeOrderLinkId : Option String
  stopOrderLinkId : String
  takeProfitOrderLinkId : String
  stopRate : ℚ
  takeProfitPrice : ℚ

/-- `protect_submitted_entry` once the entry has been awaited. -/
def protectFilledEntry (plan : Plan) (entry : EntryExecutionSnapshot) :
    Service ProtectedOneLevel := do
  let positions ← awaitCall (.getPositions .linear "ETHUSDT")
  if ← reconcilePosition plan.activeOrderLinkId positions then do
    let «protection» ← installStop plan.visibilityAttempts entry.orderLinkId plan.instrument
      plan.stopOrderLinkId plan.stopRate
    let «protection» ← installTakeProfit plan.visibilityAttempts «protection» plan.instrument
      plan.takeProfitOrderLinkId plan.takeProfitPrice .passive
    let positions ← awaitCall (.getPositions .linear "ETHUSDT")
    if protectionPositionMatches «protection» positions then pure { entry, «protection» }
    else throw (.runtimeError "protected quantity does not match the ETHUSDT position")
  else throw (.runtimeError "entry executions do not match the ETHUSDT position")

def protectSubmittedEntry (plan : Plan) (entry : EntryExecutionSnapshot) :
    LifecycleTask ProtectedOneLevel := do
  let filled ← awaitEntryFill plan.payloadHash plan.fillAttempts entry
  onCommonPorts (protectFilledEntry plan filled)

end OneLevelLifecycleService

end CreditHedge
