import CreditHedge.Domain.Execution

/-!
# The journal's records

`domain/journal.py`: the audit events of a cycle and the snapshots a restart starts from.

The state of a snapshot and the payload of an event are JSON objects in canonical form: keys in
sorted order, decimals as text, no values other than JSON's. An object is what it holds under each
key, so the order of keys is not part of it. Numbers are integers here; nothing reads them.

A snapshot's state is the work of a reducer that the journal does not know. `FoldedState` keeps,
beside the state itself, which events the reducer has been applied to on the way from `{}`. The
source has no such record; it is there to say what a snapshot covers, and no function looks at it.
-/

set_option autoImplicit false

namespace CreditHedge

inductive JournalEventType where
  | strategyCycleCreated
  | optionEntryIntentCreated
  | optionExecutionReceived
  | optionSpreadOpened
  | virtualLevelArmed
  | hedgeEntryIntentCreated
  | orderAcknowledged
  | executionReceived
  | protectionIntentCreated
  | protectionConfirmed
  | takeProfitReceived
  | stopReceived
  | recoveryDebtChanged
  | levelPaid
  | levelLocked
  | tradingSuspended
  | reconciliationCompleted
  deriving DecidableEq, Repr

inductive JournalValue where
  | null
  | flag (value : Bool)
  | number (value : ℤ)
  | text (value : String)
  | list (items : List JournalValue)
  | object (entries : List (String × JournalValue))

/-- `dict[str, object]`. -/
abbrev JournalObject := String → Option JournalValue

namespace JournalObject

/-- `{}`. -/
def empty : JournalObject := fun _ => none

/-- `state[key] = value`. -/
def set (state : JournalObject) (key : String) (value : JournalValue) : JournalObject :=
  fun key' => if key' = key then some value else state key'

end JournalObject

/-! ## Events -/

structure JournalEventFields where
  eventId : String
  eventType : JournalEventType
  eventVersion : ℕ
  cycleId : String
  levelId : Option ℕ
  timestampUtc : Time
  payload : JournalObject
  causationId : Option String
  correlationId : String

/-- `PendingJournalEvent.__post_init__`. -/
def JournalEventFields.check (event : JournalEventFields) : Except Failure Unit := do
  requireText event.eventId "event ID"
  requireText event.cycleId "cycle ID"
  requireText event.correlationId "correlation ID"
  refuseIf (event.eventVersion = 0) "event version must be positive"
  refuseIf (event.levelId = some 0) "level ID must be positive when present"
  match event.causationId with
  | none => pure ()
  | some causationId => requireText causationId "causation ID"

structure PendingJournalEvent extends JournalEventFields where
  checked : toJournalEventFields.check = .ok ()

def PendingJournalEvent.create (fields : JournalEventFields) : Except Failure PendingJournalEvent :=
  build JournalEventFields.check (fun fields checked => { fields with checked }) fields

theorem PendingJournalEvent.create_eq_ok {fields : JournalEventFields}
    {event : PendingJournalEvent} (h : create fields = .ok event) :
    event.toJournalEventFields = fields := by
  obtain ⟨-, rfl⟩ := build_eq_ok.mp h
  rfl

/-- A journalled event. Its constructor refuses a sequence that is not positive. -/
structure JournalEvent extends PendingJournalEvent where
  sequence : ℕ
  sequence_pos : 0 < sequence

/-! ## Snapshots -/

structure FoldedState where
  state : JournalObject
  /-- The events the reducer was applied to, since `{}`. -/
  folded : List JournalEvent

namespace FoldedState

/-- `{}`. -/
def empty : FoldedState := ⟨.empty, []⟩

/-- `state[key] = value`. -/
def set (s : FoldedState) (key : String) (value : JournalValue) : FoldedState :=
  { s with state := s.state.set key value }

end FoldedState

structure CycleSnapshot where
  cycleId : String
  lastEventSequence : ℕ
  state : FoldedState
  snapshotVersion : ℕ
  updatedAtUtc : Time
  cycleId_text : isBlank cycleId = false
  snapshotVersion_pos : 0 < snapshotVersion

/-- `CycleSnapshot.__post_init__`. -/
def CycleSnapshot.create (cycleId : String) (lastEventSequence : ℕ) (state : FoldedState)
    (snapshotVersion : ℕ) (updatedAtUtc : Time) : Except Failure CycleSnapshot :=
  if hc : isBlank cycleId = true then .error (.valueError "cycle ID cannot be empty")
  else if hv : snapshotVersion = 0 then .error (.valueError "snapshot version must be positive")
  else
    .ok
      { cycleId, lastEventSequence, state, snapshotVersion, updatedAtUtc
        cycleId_text := text_of_not_blank hc
        snapshotVersion_pos := Nat.pos_of_ne_zero hv }

theorem CycleSnapshot.create_eq_ok {cycleId : String} {lastEventSequence : ℕ}
    {state : FoldedState} {snapshotVersion : ℕ} {updatedAtUtc : Time} {snapshot : CycleSnapshot}
    (h : create cycleId lastEventSequence state snapshotVersion updatedAtUtc = .ok snapshot) :
    snapshot.cycleId = cycleId ∧ snapshot.lastEventSequence = lastEventSequence ∧
      snapshot.state = state := by
  unfold create at h
  split at h
  · exact absurd h (by simp)
  · split at h
    · exact absurd h (by simp)
    · obtain rfl := Except.ok.inj h
      exact ⟨rfl, rfl, rfl⟩

end CreditHedge
