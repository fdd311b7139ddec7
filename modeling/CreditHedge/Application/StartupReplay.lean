import CreditHedge.Application.StartupReconciliation
import CreditHedge.Infrastructure.SqliteJournalStore
import CreditHedge.Lib.Coroutines

/-!
# Replay and reconciliation of a cycle

`application/startup_replay.py` and `StartupReconciliationService.reconcile`: the state of a cycle
is rebuilt from its latest snapshot and the events after it, compared with the exchange, and
committed as the next snapshot together with the event that records the verdict.

The journal answers for itself. The reducer is a parameter; so is how a `Decimal` is written, which
only the text of one difference depends on. What the execution store, the exchange, the clock and
the id factory answer is the outside world's.
-/

set_option autoImplicit false

namespace CreditHedge

inductive JournalCall where
  | appendEvent (event : PendingJournalEvent)
  | appendEventAndSnapshot (event : PendingJournalEvent) (snapshot : CycleSnapshot)
  | loadLatestSnapshot (cycleId : String)
  | loadEventsAfter (cycleId : String) (sequence : ℕ)
  | loadAllOrderIntents
  | loadAllEntrySnapshots
  | loadAllProtectionSnapshots
  | loadAllExecutions
  | capture
  | clock
  | eventId (eventType : JournalEventType)

abbrev JournalCall.Result : JournalCall → Type
  | .appendEvent _ => JournalEvent
  | .appendEventAndSnapshot .. => JournalEvent × CycleSnapshot
  | .loadLatestSnapshot _ => Option CycleSnapshot
  | .loadEventsAfter .. => List JournalEvent
  | .loadAllOrderIntents => KeyedTable fun r : PlaceOrderRequest => r.orderLinkId
  | .loadAllEntrySnapshots => KeyedTable fun s : EntryExecutionSnapshot => s.orderLinkId
  | .loadAllProtectionSnapshots => KeyedTable fun p : ProtectionSnapshot => p.entryOrderLinkId
  | .loadAllExecutions => KeyedTable fun e : ExecutionUpdate => e.executionId
  | .capture => PrivateAccountSnapshot
  | .clock => Time
  | .eventId _ => String

abbrev JournalService := Coroutine Failure JournalCall JournalCall.Result

structure JournalAnswers where
  orderIntents : KeyedTable fun r : PlaceOrderRequest => r.orderLinkId := .empty
  entrySnapshots : KeyedTable fun s : EntryExecutionSnapshot => s.orderLinkId := .empty
  protectionSnapshots : KeyedTable fun p : ProtectionSnapshot => p.entryOrderLinkId := .empty
  executions : KeyedTable fun e : ExecutionUpdate => e.executionId := .empty
  captured : Except Failure PrivateAccountSnapshot := .error (.exchangeError "not asked")
  now : Time := 0
  eventId : String := ""

instance : Inhabited JournalAnswers := ⟨{}⟩

/-- A transaction of the journal: it writes all of it or nothing. -/
def SqliteJournalStore.commit {α : Type} (store : SqliteJournalStore) :
    Except Failure (α × SqliteJournalStore) → Except Failure α × SqliteJournalStore
  | .ok (a, store') => (.ok a, store')
  | .error failure => (.error failure, store)

def JournalCall.handle (a : JournalAnswers) :
    (call : JournalCall) → SqliteJournalStore → Except Failure call.Result × SqliteJournalStore
  | .appendEvent event, store => store.commit (store.appendEvent event)
  | .appendEventAndSnapshot event snapshot, store =>
    store.commit (store.appendEventAndSnapshot event snapshot)
  | .loadLatestSnapshot cycleId, store => (.ok (store.loadLatestSnapshot cycleId), store)
  | .loadEventsAfter cycleId sequence, store => (.ok (store.loadEventsAfter cycleId sequence), store)
  | .loadAllOrderIntents, store => (.ok a.orderIntents, store)
  | .loadAllEntrySnapshots, store => (.ok a.entrySnapshots, store)
  | .loadAllProtectionSnapshots, store => (.ok a.protectionSnapshots, store)
  | .loadAllExecutions, store => (.ok a.executions, store)
  | .capture, store => (a.captured, store)
  | .clock, store => (.ok a.now, store)
  | .eventId _, store => (.ok a.eventId, store)

/-- `await store.method(…)`. -/
abbrev awaitJournal (call : JournalCall) : JournalService call.Result := .perform call

/-! ## Replay -/

/-- `JournalReducer`. -/
abbrev JournalReducer := JournalObject → JournalEvent → Except Failure JournalObject

structure StartupReplayResult where
  cycleId : String
  state : FoldedState
  lastEventSequence : ℕ
  replayedEventCount : ℕ

section Service

variable (reducer : JournalReducer)

/-- `state = self._reducer(state, event)`. -/
def FoldedState.reduce (s : FoldedState) (event : JournalEvent) : Except Failure FoldedState := do
  let state ← reducer s.state event
  pure ⟨state, s.folded ++ [event]⟩

/-- The loop of `rebuild`. -/
def replayEvents : List JournalEvent → FoldedState → ℕ → Except Failure (FoldedState × ℕ)
  | [], state, lastSequence => .ok (state, lastSequence)
  | event :: events, state, lastSequence => do
    refuseIf (event.sequence ≤ lastSequence) "journal replay sequence is not strictly increasing"
    let state ← state.reduce reducer event
    replayEvents events state event.sequence

/-- `rebuild`. -/
def rebuild (cycleId : String) : JournalService StartupReplayResult := do
  let snapshot ← awaitJournal (.loadLatestSnapshot cycleId)
  let state :=
    match snapshot with
    | none => FoldedState.empty
    | some snapshot => snapshot.state
  let lastSequence :=
    match snapshot with
    | none => 0
    | some snapshot => snapshot.lastEventSequence
  let events ← awaitJournal (.loadEventsAfter cycleId lastSequence)
  let (state, lastSequence) ← replayEvents reducer events state lastSequence
  pure { cycleId, state, lastEventSequence := lastSequence, replayedEventCount := events.length }

/-! ## What is committed -/

/-- `ReconciliationStatus.value`. -/
def ReconciliationStatus.value : ReconciliationStatus → String
  | .matched => "MATCHED"
  | .repairable => "REPAIRABLE"
  | .ambiguous => "AMBIGUOUS"
  | .dangerous => "DANGEROUS"

/-- `StateDifferenceKind.value`. -/
def StateDifferenceKind.value : StateDifferenceKind → String
  | .unknownExchangeOrder => "UNKNOWN_EXCHANGE_ORDER"
  | .missingExchangeOrder => "MISSING_EXCHANGE_ORDER"
  | .protectionMismatch => "PROTECTION_MISMATCH"
  | .missingProtection => "MISSING_PROTECTION"
  | .missingTakeProfit => "MISSING_TAKE_PROFIT"
  | .positionMismatch => "POSITION_MISMATCH"
  | .unknownExchangePosition => "UNKNOWN_EXCHANGE_POSITION"
  | .unknownOptionPosition => "UNKNOWN_OPTION_POSITION"
  | .missingLocalExecution => "MISSING_LOCAL_EXECUTION"
  | .unknownExchangeExecution => "UNKNOWN_EXCHANGE_EXECUTION"

/-- `RepairActionKind.value`. -/
def RepairActionKind.value : RepairActionKind → String
  | .importOrder => "IMPORT_ORDER"
  | .restoreProtection => "RESTORE_PROTECTION"
  | .restoreTakeProfit => "RESTORE_TAKE_PROFIT"
  | .importExecution => "IMPORT_EXECUTION"

variable (decimalText : ℚ → String)

/-- The text of a difference. -/
def DifferenceDetail.message : DifferenceDetail → String
  | .text message => message
  | .perpMismatch expected actual =>
    let quantities := actual.map fun quantity => s!"Decimal('{decimalText quantity}')"
    let tuple :=
      match quantities with
      | [quantity] => s!"({quantity},)"
      | quantities => "(" ++ ", ".intercalate quantities ++ ")"
    s!"local ETHUSDT short {decimalText expected} does not match exchange positions {tuple}"

/-- `{"kind": …, "detail": …, "order_link_id": …}`. -/
def reportEntry (kind detail : String) (orderLinkId : Option String) : JournalValue :=
  .object
    [("kind", .text kind), ("detail", .text detail),
      ("order_link_id", orderLinkId.elim .null .text)]

/-- The keys of the state that a reconciliation writes. -/
def reconciliationKeys : List String :=
  ["trading_allowed", "reconciliation_status", "reconciliation_differences", "repair_actions"]

/-- The assignments to `state` in `reconcile`. -/
def recordReport (report : ReconciliationReport) (state : FoldedState) : FoldedState :=
  (((state.set "trading_allowed" (.flag report.tradingAllowed)).set "reconciliation_status"
    (.text report.status.value)).set "reconciliation_differences"
    (.list (report.differences.map fun difference =>
      reportEntry difference.kind.value (difference.detail.message decimalText)
        difference.orderLinkId))).set "repair_actions"
    (.list (report.repairActions.map fun action =>
      reportEntry action.kind.value action.detail action.orderLinkId))

/-- The payload of the event that records a report. -/
def reportPayload (report : ReconciliationReport) : JournalObject :=
  ((JournalObject.empty.set "status" (.text report.status.value)).set "trading_allowed"
    (.flag report.tradingAllowed)).set "difference_count" (.number report.differences.length)

structure StartupReconciliationResult where
  replay : StartupReplayResult
  localState : LocalExecutionRecoveryState
  exchange : PrivateAccountSnapshot
  report : ReconciliationReport
  committedSnapshot : CycleSnapshot

/-- `reconcile`. -/
def reconcile (expectedOptionPositions : List ExpectedPosition) (cycleId strategyInstance : String)
    (cycleNumber : ℕ) : JournalService StartupReconciliationResult := do
  let replay ← rebuild reducer cycleId
  let orderIntents ← awaitJournal .loadAllOrderIntents
  let entrySnapshots ← awaitJournal .loadAllEntrySnapshots
  let protectionSnapshots ← awaitJournal .loadAllProtectionSnapshots
  let executions ← awaitJournal .loadAllExecutions
  let localState : LocalExecutionRecoveryState :=
    { orderIntents, entrySnapshots, protectionSnapshots, expectedOptionPositions, executions }
  let exchange ← awaitJournal .capture
  let report ← evaluateStartupReconciliation strategyInstance cycleNumber localState exchange
  let committedAt ← awaitJournal .clock
  let state := recordReport decimalText report replay.state
  let eventType :=
    if report.tradingAllowed then JournalEventType.reconciliationCompleted
    else JournalEventType.tradingSuspended
  let eventId ← awaitJournal (.eventId eventType)
  let event ← PendingJournalEvent.create
    { eventId, eventType
      eventVersion := 1
      cycleId
      levelId := none
      timestampUtc := committedAt
      payload := reportPayload report
      causationId := none
      correlationId := s!"{cycleId}-startup-reconciliation" }
  let snapshot ← CycleSnapshot.create cycleId replay.lastEventSequence state 1 committedAt
  let (_, committedSnapshot) ← awaitJournal (.appendEventAndSnapshot event snapshot)
  pure { replay, localState, exchange, report, committedSnapshot }

end Service

end CreditHedge
