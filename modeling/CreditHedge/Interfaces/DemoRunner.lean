import CreditHedge.Infrastructure.SqliteExecutionStore
import CreditHedge.Lib.Coroutines

/-!
# Emergency closes in the demo runner

`interfaces/demo_runner.py`, the part that books the fills of an emergency close. One order closes
the whole position, so one execution of it is spread over the open protections of the cycle, in
the order of their levels, and what is left of it over the entries that never got a protection.
The polling loop of `_make_perp_safe` calls `_apply_emergency_exit` for every execution the
exchange reports, and `_apply_recorded_emergency_exits` calls it again at the next start for every
execution in the store.

Nothing in `_apply_emergency_exit` asks whether an execution was booked before, and its bookings
are one transaction each. Both show: an execution reported twice is booked twice while anything is
open, and a call that fails after its first booking leaves that booking behind.

Here is the model; what comes of it is in the two files after this one.
-/

set_option autoImplicit false

namespace CreditHedge

namespace DemoRunner

/-! ## The store and the clock -/

inductive DemoCall where
  /-- `_clock_time(clock)`. -/
  | clockTime
  | loadAllExecutions
  | loadAllEntrySnapshots
  | loadAllProtectionSnapshots
  | transitionEntrySnapshot (previousVersion : ℕ) (snapshot : EntryExecutionSnapshot)
  | transitionProtectionSnapshot (previousVersion : ℕ) (snapshot : ProtectionSnapshot)

abbrev DemoCall.Result : DemoCall → Type
  | .clockTime => Time
  | .loadAllExecutions => List ExecutionUpdate
  | .loadAllEntrySnapshots => List EntryExecutionSnapshot
  | .loadAllProtectionSnapshots => List ProtectionSnapshot
  | _ => Unit

abbrev DemoTask := Coroutine Failure DemoCall DemoCall.Result

/-- The store, and what the server clock is going to say: it raises when it is not synchronized,
    or no longer. -/
structure DemoWorld where
  store : SqliteExecutionStore
  readings : ℕ → Except Failure Time

namespace DemoWorld

/-- The clock was read once more. -/
def read (w : DemoWorld) : DemoWorld := { w with readings := fun n => w.readings (n + 1) }

def write (w : DemoWorld) : Except Failure SqliteExecutionStore → Except Failure Unit × DemoWorld
  | .ok store => (.ok (), { w with store })
  | .error failure => (.error failure, w)

end DemoWorld

/-- Nothing here is left to the outside world but the clock, and that is in the world. -/
def handle (_ : Unit) : (call : DemoCall) → DemoWorld → Except Failure call.Result × DemoWorld
  | .clockTime, w => (w.readings 0, w.read)
  | .loadAllExecutions, w => (.ok w.store.loadAllExecutions, w)
  | .loadAllEntrySnapshots, w => (.ok w.store.loadAllEntrySnapshots, w)
  | .loadAllProtectionSnapshots, w => (.ok w.store.loadAllProtectionSnapshots, w)
  | .transitionEntrySnapshot previous snapshot, w =>
    w.write (w.store.transitionEntrySnapshot previous snapshot)
  | .transitionProtectionSnapshot previous snapshot, w =>
    w.write (w.store.transitionProtectionSnapshot previous snapshot)

abbrev awaitDemo (call : DemoCall) : DemoTask call.Result := .perform call

/-! ## Booking an emergency execution -/

/-- `[x for x in xs if condition(x)]`, where the condition can raise. -/
def selectM {α : Type} (condition : α → Except Failure Bool) : List α → Except Failure (List α)
  | [] => pure []
  | x :: xs => do
    let holds ← condition x
    let rest ← selectM condition xs
    pure (if holds then x :: rest else rest)

/-- The entry is one of the cycle the close is for. -/
def inCycle (closeId : ClientOrderId) (entryOrderLinkId : String) : Except Failure Bool := do
  let entryId ← ClientOrderId.parse entryOrderLinkId
  pure (entryId.strategyInstance = closeId.strategyInstance ∧ entryId.cycle = closeId.cycle)

/-- A filled entry without a protection, and not yet given up. -/
def isUnprotected (closeId : ClientOrderId) (protectedEntryIds : List String)
    (snapshot : EntryExecutionSnapshot) : Except Failure Bool :=
  if snapshot.orderLinkId ∉ protectedEntryIds ∧ snapshot.state ≠ .error ∧
      0 < snapshot.filledQuantity then
    inCycle closeId snapshot.orderLinkId
  else pure false

/-- `ClientOrderId.parse(id).level`, of an id that was parsed before. -/
def levelOf (entryOrderLinkId : String) : ℕ :=
  match ClientOrderId.parse entryOrderLinkId with
  | .ok id => id.level
  | .error _ => 0

/-- `sorted(xs, key=level)`. -/
def byLevel {α : Type} (orderLinkId : α → String) (xs : List α) : List α :=
  xs.insertionSort fun x y => levelOf (orderLinkId x) ≤ levelOf (orderLinkId y)

/-- What a call has found of the close's cycle: the protections (`matches` in the source), and the
    filled entries without one. -/
structure Exposure where
  protections : List ProtectionSnapshot
  unprotectedEntries : List EntryExecutionSnapshot

/-- `active_exposure`. -/
def Exposure.active (exposure : Exposure) : ℚ :=
  (exposure.protections.map fun snapshot => snapshot.openQuantity).sum +
    (exposure.unprotectedEntries.map fun snapshot => snapshot.filledQuantity).sum

/-- The checks of the close's id. -/
def parseCloseId (execution : ExecutionUpdate) : Except Failure ClientOrderId := do
  let closeId ← ClientOrderId.parse execution.orderLinkId
  refuseIf (closeId.role ≠ .emergencyClose) "execution is not an emergency close"
  pure closeId

def exposureOf (closeId : ClientOrderId) (protections : List ProtectionSnapshot)
    (entrySnapshots : List EntryExecutionSnapshot) : Except Failure Exposure := do
  let protectedEntryIds := protections.map fun snapshot => snapshot.entryOrderLinkId
  let unprotectedEntries ← selectM (isUnprotected closeId protectedEntryIds) entrySnapshots
  pure { protections, unprotectedEntries }

/-- `for snapshot in ordered`. -/
def bookProtections (execution : ExecutionUpdate) :
    List ProtectionSnapshot → ℚ → DemoTask ℚ
  | [], remaining => pure remaining
  | snapshot :: rest, remaining =>
    let allocation := min snapshot.openQuantity remaining
    if allocation = 0 then bookProtections execution rest remaining
    else do
      let updatedAt ← awaitDemo .clockTime
      let updated ← applyEmergencyExitExecution snapshot execution updatedAt (some allocation)
      awaitDemo (.transitionProtectionSnapshot snapshot.version updated)
      bookProtections execution rest (remaining - allocation)

/-- `for entry_snapshot in sorted(unprotected_entries)`. -/
def giveUpEntries : List EntryExecutionSnapshot → ℚ → DemoTask ℚ
  | [], remaining => pure remaining
  | snapshot :: rest, remaining =>
    if remaining < snapshot.filledQuantity then pure remaining
    else do
      let updatedAt ← awaitDemo .clockTime
      let errored ← transitionEntrySnapshot snapshot .error updatedAt
      awaitDemo (.transitionEntrySnapshot snapshot.version errored)
      giveUpEntries rest (remaining - snapshot.filledQuantity)

/-- `if remaining != ZERO: raise`. -/
def requireAllocated (remaining : ℚ) : DemoTask Unit :=
  if remaining ≠ 0 then throw (.runtimeError "emergency execution was not fully allocated")
  else pure ()

/-- The bookings, once it is known what there is to close. -/
def bookExposure (execution : ExecutionUpdate) (exposure : Exposure) : DemoTask Unit :=
  if exposure.active = 0 then pure ()
  else do
    let remaining ← bookProtections execution
      (byLevel (fun snapshot => snapshot.entryOrderLinkId) exposure.protections)
      (min execution.quantity exposure.active)
    let remaining ← giveUpEntries
      (byLevel (fun snapshot => snapshot.orderLinkId) exposure.unprotectedEntries) remaining
    requireAllocated remaining

/-- `_apply_emergency_exit`. -/
def applyEmergencyExit (execution : ExecutionUpdate) : DemoTask Unit := do
  let closeId ← parseCloseId execution
  let snapshots ← awaitDemo .loadAllProtectionSnapshots
  let protections ←
    selectM (fun snapshot => inCycle closeId snapshot.entryOrderLinkId) snapshots
  let entrySnapshots ← awaitDemo .loadAllEntrySnapshots
  let exposure ← exposureOf closeId protections entrySnapshots
  bookExposure execution exposure

/-- `role is ClientOrderRole.EMERGENCY_CLOSE`, and not if the id cannot be parsed. -/
def isEmergencyClose (execution : ExecutionUpdate) : Bool :=
  match ClientOrderId.parse execution.orderLinkId with
  | .ok id => id.role = .emergencyClose
  | .error _ => false

/-- The loop of `_apply_recorded_emergency_exits`. -/
def applyEach : List ExecutionUpdate → DemoTask Unit
  | [] => pure ()
  | execution :: rest => do
    if isEmergencyClose execution then applyEmergencyExit execution
    applyEach rest

/-- `_apply_recorded_emergency_exits`. -/
def applyRecordedEmergencyExits : DemoTask Unit := do
  let executions ← awaitDemo .loadAllExecutions
  applyEach executions

end DemoRunner

end CreditHedge
