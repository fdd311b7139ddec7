import CreditHedge.Infrastructure.SqliteExecutionStore
import CreditHedge.Lib.Coroutines

/-!
# Services and their ports

The application services are coroutines over a few ports: the execution store, the trading port,
the clock, the entry gate. This file is those ports as the calls of `Coroutine`: `Call` lists what
a service can await or read, `Call.Result` is what each returns, and `handle` is what each does.

The store answers for itself. For the rest the answer is the outside world's, and `Answers` is
one such answer for every question, so a statement for all `Answers` is a statement for every
outcome of the exchange calls. The one thing recorded of the exchange is `accepted`: the client
ids of the orders it has taken on, whether or not it managed to say so. An acknowledgement, or an
order found under its client id, is proof that it did.
-/

set_option autoImplicit false

namespace CreditHedge

inductive Call where
  | clock
  | entriesAllowed
  | loadOrderIntent (orderLinkId : String)
  | recordAcknowledgement (acknowledgement : OrderRequestAck)
  | persistEntryIntent (request : PlaceOrderRequest) (snapshot : EntryExecutionSnapshot)
      (persistedAt : Time)
  | loadEntrySnapshot (orderLinkId : String)
  | loadAllEntrySnapshots
  | transitionEntrySnapshot (previousVersion : ℕ) (snapshot : EntryExecutionSnapshot)
  | recordAcknowledgementAndSnapshot (previousVersion : ℕ) (acknowledgement : OrderRequestAck)
      (snapshot : EntryExecutionSnapshot)
  | hasExecution (executionId : String)
  | recordExecutionAndSnapshot (previousVersion : ℕ) (execution : ExecutionUpdate)
      (receivedAt : Time) (payloadHash : PayloadHash) (snapshot : EntryExecutionSnapshot)
  | persistProtectionIntent (request : PlaceOrderRequest) (snapshot : ProtectionSnapshot)
      (persistedAt : Time)
  | persistTakeProfitIntent (previousVersion : ℕ) (request : PlaceOrderRequest)
      (snapshot : ProtectionSnapshot) (persistedAt : Time)
  | persistReplacementStopIntent (previousVersion : ℕ) (request : PlaceOrderRequest)
      (snapshot : ProtectionSnapshot) (persistedAt : Time)
  | loadProtectionSnapshot (entryOrderLinkId : String)
  | loadProtectionSnapshotByExitId (orderLinkId : String)
  | loadAllProtectionSnapshots
  | transitionProtectionSnapshot (previousVersion : ℕ) (snapshot : ProtectionSnapshot)
  | recordExitExecutionAndSnapshot (previousVersion : ℕ) (execution : ExecutionUpdate)
      (receivedAt : Time) (payloadHash : PayloadHash) (snapshot : ProtectionSnapshot)
  | loadRecoveryDebtSnapshot (levelId : ℕ)
  | transitionRecoveryDebtSnapshot (previousVersion : ℕ) (snapshot : RecoveryDebtSnapshot)
  | placeOrder (request : PlaceOrderRequest)
  | getOrderByLinkId (category : Category) (symbol orderLinkId : String)
  | getOpenOrders (category : Category) (symbol : String)
  | cancelOrder (request : CancelOrderRequest)
  | getPositions (category : Category) (symbol : String)

/-- What a call returns when it does not raise. -/
abbrev Call.Result : Call → Type
  | .clock => Time
  | .entriesAllowed => Bool
  | .loadOrderIntent _ => Option PlaceOrderRequest
  | .loadEntrySnapshot _ => Option EntryExecutionSnapshot
  | .loadAllEntrySnapshots => List EntryExecutionSnapshot
  | .hasExecution _ => Bool
  | .recordExecutionAndSnapshot .. => Bool
  | .loadProtectionSnapshot _ => Option ProtectionSnapshot
  | .loadProtectionSnapshotByExitId _ => Option ProtectionSnapshot
  | .loadAllProtectionSnapshots => List ProtectionSnapshot
  | .recordExitExecutionAndSnapshot .. => Bool
  | .loadRecoveryDebtSnapshot _ => Option RecoveryDebtSnapshot
  | .placeOrder _ => OrderRequestAck
  | .getOrderByLinkId .. => Option ExchangeOrder
  | .getOpenOrders .. => List ExchangeOrder
  | .cancelOrder _ => OrderRequestAck
  | .getPositions .. => List ExchangePosition
  | _ => Unit

abbrev Service := Coroutine Failure Call Call.Result

/-- What the outside world answers, if it is asked now. -/
structure Answers where
  now : Time := 0
  entriesAllowed : Bool := true
  /-- Whether the exchange takes the order on, whatever it replies. -/
  accepts : Bool := false
  placed : Except Failure OrderRequestAck := .error (.exchangeError "not asked")
  found : Except Failure (Option ExchangeOrder) := .error (.exchangeError "not asked")
  openOrders : Except Failure (List ExchangeOrder) := .error (.exchangeError "not asked")
  cancelled : Except Failure OrderRequestAck := .error (.exchangeError "not asked")
  positions : Except Failure (List ExchangePosition) := .error (.exchangeError "not asked")

instance : Inhabited Answers := ⟨{}⟩

structure World where
  store : SqliteExecutionStore
  accepted : List String

namespace World

/-- A store transaction without a result: it writes all of it or nothing. -/
def write (w : World) : Except Failure SqliteExecutionStore → Except Failure Unit × World
  | .ok store => (.ok (), { w with store })
  | .error failure => (.error failure, w)

/-- A store transaction with a result. -/
def writeWith {α : Type} (w : World) :
    Except Failure (α × SqliteExecutionStore) → Except Failure α × World
  | .ok (a, store) => (.ok a, { w with store })
  | .error failure => (.error failure, w)

/-- The exchange is now known to have the order. -/
def accept (w : World) (orderLinkId : String) : World :=
  { w with accepted := orderLinkId :: w.accepted }

/-- The order of this id was taken on. -/
def Accepted (w : World) (orderLinkId : String) : Prop := orderLinkId ∈ w.accepted

instance (w : World) (orderLinkId : String) : Decidable (w.Accepted orderLinkId) :=
  inferInstanceAs (Decidable (orderLinkId ∈ w.accepted))

end World

/-- `placed` answers a `place_order`: the exchange has the order if it took it on, or says so. -/
def Answers.takes (a : Answers) : Bool := a.accepts || a.placed.isOk

/-- `found` answers a lookup with an order. -/
def Answers.shows (a : Answers) : Bool :=
  match a.found with
  | .ok (some _) => true
  | _ => false

/-- What a call is answered, and the world after it. -/
def handle (a : Answers) : (call : Call) → World → Except Failure call.Result × World
  | .clock, w => (.ok a.now, w)
  | .entriesAllowed, w => (.ok a.entriesAllowed, w)
  | .loadOrderIntent id, w => (.ok (w.store.loadOrderIntent id), w)
  | .recordAcknowledgement ack, w => w.write (w.store.recordAcknowledgement ack)
  | .persistEntryIntent request snapshot at', w =>
    w.write (w.store.persistEntryIntent request snapshot at')
  | .loadEntrySnapshot id, w => (.ok (w.store.loadEntrySnapshot id), w)
  | .loadAllEntrySnapshots, w => (.ok w.store.loadAllEntrySnapshots, w)
  | .transitionEntrySnapshot previous snapshot, w =>
    w.write (w.store.transitionEntrySnapshot previous snapshot)
  | .recordAcknowledgementAndSnapshot previous ack snapshot, w =>
    w.write (w.store.recordAcknowledgementAndSnapshot previous ack snapshot)
  | .hasExecution id, w => (.ok (w.store.hasExecution id), w)
  | .recordExecutionAndSnapshot previous execution at' hash snapshot, w =>
    w.writeWith (w.store.recordExecutionAndSnapshot previous execution at' hash snapshot)
  | .persistProtectionIntent request snapshot at', w =>
    w.write (w.store.persistProtectionIntent request snapshot at')
  | .persistTakeProfitIntent previous request snapshot at', w =>
    w.write (w.store.persistTakeProfitIntent previous request snapshot at')
  | .persistReplacementStopIntent previous request snapshot at', w =>
    w.write (w.store.persistReplacementStopIntent previous request snapshot at')
  | .loadProtectionSnapshot id, w => (.ok (w.store.loadProtectionSnapshot id), w)
  | .loadProtectionSnapshotByExitId id, w => (.ok (w.store.loadProtectionSnapshotByExitId id), w)
  | .loadAllProtectionSnapshots, w => (.ok w.store.loadAllProtectionSnapshots, w)
  | .transitionProtectionSnapshot previous snapshot, w =>
    w.write (w.store.transitionProtectionSnapshot previous snapshot)
  | .recordExitExecutionAndSnapshot previous execution at' hash snapshot, w =>
    w.writeWith (w.store.recordExitExecutionAndSnapshot previous execution at' hash snapshot)
  | .loadRecoveryDebtSnapshot level, w => (.ok (w.store.loadRecoveryDebtSnapshot level), w)
  | .transitionRecoveryDebtSnapshot previous snapshot, w =>
    w.write (w.store.transitionRecoveryDebtSnapshot previous snapshot)
  | .placeOrder request, w => (a.placed, if a.takes then w.accept request.orderLinkId else w)
  | .getOrderByLinkId _ _ id, w => (a.found, if a.shows then w.accept id else w)
  | .getOpenOrders .., w => (a.openOrders, w)
  | .cancelOrder _, w => (a.cancelled, w)
  | .getPositions .., w => (a.positions, w)

/-- `await port.method(…)`. -/
abbrev awaitCall (call : Call) : Service call.Result := .perform call

end CreditHedge
