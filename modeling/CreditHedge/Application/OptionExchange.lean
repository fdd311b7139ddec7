import CreditHedge.Application.OptionSpreadEntry
import CreditHedge.Lib.Interruption

/-!
# The option orders at the exchange

The exchange beside the option service: which orders it has taken on and what it has filled of them.
It takes an order on when it likes, at once or long after it was sent, whatever it answered; it
fills it in pieces when it likes; and what it answers may lag, repeat and reorder. What it does not
do is to make things up (`HonestOptions`): every order it has was sent, every fill it reports is one
of the order asked for, and every order id it names is that order's.

`OptionWorld.persisted` and `OptionWorld.placed` are kept for the statements alone: every snapshot
that was ever the row of its cycle, and every order that was ever sent, each with the database and
the exchange as they were at that moment.
-/

set_option autoImplicit false

namespace CreditHedge

/-! ## Orders -/

structure OptionOrder where
  request : PlaceOrderRequest
  orderId : String
  fills : List ExecutionUpdate
  orderId_text : ¬ isBlank orderId = true
  own : ∀ e ∈ fills, e.orderLinkId = request.orderLinkId ∧ e.orderId = orderId ∧
    e.symbol = request.symbol ∧ e.side = request.side
  fees : ∀ e ∈ fills, 0 ≤ e.fee
  ids : (fills.map fun e => e.executionId).Nodup
  within : totalQuantity fills ≤ request.quantity
  deriving DecidableEq

namespace OptionOrder

def orderLinkId (o : OptionOrder) : String := o.request.orderLinkId

/-- The order after some time. -/
structure Grows (o o' : OptionOrder) : Prop where
  request : o'.request = o.request
  orderId : o'.orderId = o.orderId
  fills : o.fills ⊆ o'.fills

instance (o o' : OptionOrder) : Decidable (o.Grows o') :=
  decidable_of_iff (o'.request = o.request ∧ o'.orderId = o.orderId ∧ ∀ e ∈ o.fills, e ∈ o'.fills)
    ⟨fun ⟨h₁, h₂, h₃⟩ => ⟨h₁, h₂, fun _ he => h₃ _ he⟩,
      fun h => ⟨h.1, h.2, fun _ he => h.3 he⟩⟩

theorem Grows.refl (o : OptionOrder) : o.Grows o := ⟨rfl, rfl, fun _ h => h⟩

theorem Grows.trans {o o' o'' : OptionOrder} (h : o.Grows o') (h' : o'.Grows o'') : o.Grows o'' :=
  ⟨h'.request.trans h.request, h'.orderId.trans h.orderId, fun _ he => h'.fills (h.fills he)⟩

end OptionOrder

/-- The exchange has an order of this client id, under this id of its own. -/
def HasOrder (orders : List OptionOrder) (orderLinkId orderId : String) : Prop :=
  ∃ o ∈ orders, o.orderLinkId = orderLinkId ∧ o.orderId = orderId

/-- The execution is one of the exchange's order of this client id. -/
def HasFill (orders : List OptionOrder) (orderLinkId : String) (e : ExecutionUpdate) : Prop :=
  ∃ o ∈ orders, o.orderLinkId = orderLinkId ∧ e ∈ o.fills

instance (orders : List OptionOrder) (orderLinkId orderId : String) :
    Decidable (HasOrder orders orderLinkId orderId) :=
  inferInstanceAs (Decidable (∃ o ∈ orders, _))

instance (orders : List OptionOrder) (orderLinkId : String) (e : ExecutionUpdate) :
    Decidable (HasFill orders orderLinkId e) :=
  inferInstanceAs (Decidable (∃ o ∈ orders, _))

/-! ## The world of the service -/

/-- An order that was sent, with the database and the orders of the exchange at that moment. -/
structure OptionPlacement where
  request : PlaceOrderRequest
  store : OptionSpreadStore
  orders : List OptionOrder

structure OptionWorld where
  store : OptionSpreadStore
  orders : List OptionOrder
  persisted : List OptionSpreadExecutionSnapshot
  placed : List OptionPlacement

/-- What the outside world answers, and the orders the exchange has by then. -/
structure OptionAnswers where
  orders : List OptionOrder := []
  now : Time := 0
  placed : Except Failure OrderRequestAck := .error (.exchangeError "not asked")
  found : Except Failure (Option ExchangeOrder) := .error (.exchangeError "not asked")
  executions : Except Failure (List ExecutionUpdate) := .error (.exchangeError "not asked")

/-- The order this call sends. -/
def OptionCall.sends? : OptionCall → Option PlaceOrderRequest
  | .placeOrder request => some request
  | _ => none

/-- The order this call looks up. -/
def OptionCall.looksUp? : OptionCall → Option String
  | .getOrderByLinkId _ _ orderLinkId => some orderLinkId
  | _ => none

/-- The order whose executions this call asks for. -/
def OptionCall.history? : OptionCall → Option String
  | .getExecutionHistory _ _ orderLinkId => some orderLinkId
  | _ => none

namespace OptionWorld

/-- The order the call sends is on record. -/
def send (w : OptionWorld) (call : OptionCall) : OptionWorld :=
  { w with
    placed := (call.sends?.toList.map fun request => ⟨request, w.store, w.orders⟩) ++ w.placed }

/-- The exchange has gone on. -/
def pass (w : OptionWorld) (orders : List OptionOrder) : OptionWorld := { w with orders }

/-- The snapshot is the row of its cycle now. -/
def persist (w : OptionWorld) (store : OptionSpreadStore)
    (snapshot : OptionSpreadExecutionSnapshot) : OptionWorld :=
  { w with store, persisted := snapshot :: w.persisted }

def write (w : OptionWorld) (snapshot : OptionSpreadExecutionSnapshot) :
    Except Failure OptionSpreadStore → Except Failure Unit × OptionWorld
  | .ok store => (.ok (), w.persist store snapshot)
  | .error failure => (.error failure, w)

/-- A transaction that writes the snapshot only if it answers `true`. -/
def writeIf (w : OptionWorld) (snapshot : OptionSpreadExecutionSnapshot) :
    Except Failure (Bool × OptionSpreadStore) → Except Failure Bool × OptionWorld
  | .ok (true, store) => (.ok true, w.persist store snapshot)
  | .ok (false, store) => (.ok false, { w with store })
  | .error failure => (.error failure, w)

/-- What a call does that has been sent, and what it is answered. -/
def answer (a : OptionAnswers) :
    (call : OptionCall) → OptionWorld → Except Failure call.Result × OptionWorld
  | .clock, w => (.ok a.now, w)
  | .placeOrder _, w => (a.placed, w)
  | .getOrderByLinkId .., w => (a.found, w)
  | .getExecutionHistory .., w => (a.executions, w)
  | .hasExecution id, w => (.ok (w.store.hasExecution id), w)
  | .loadOrderIntent id, w => (.ok (w.store.loadOrderIntent id), w)
  | .persistOptionLongIntent request snapshot persistedAt, w =>
    w.write snapshot (w.store.persistOptionLongIntent request snapshot persistedAt)
  | .persistOptionShortIntent version request snapshot persistedAt, w =>
    w.write snapshot (w.store.persistOptionShortIntent version request snapshot persistedAt)
  | .loadOptionSpreadSnapshot cycleId, w => (.ok (w.store.loadOptionSpreadSnapshot cycleId), w)
  | .loadAllOptionSpreadSnapshots, w => (.ok w.store.loadAllOptionSpreadSnapshots, w)
  | .transitionOptionSpreadSnapshot version snapshot, w =>
    w.write snapshot (w.store.transitionOptionSpreadSnapshot version snapshot)
  | .recordOptionAcknowledgementAndSnapshot version acknowledgement snapshot, w =>
    w.write snapshot
      (w.store.recordOptionAcknowledgementAndSnapshot version acknowledgement snapshot)
  | .recordOptionExecutionAndSnapshot version execution receivedAt payloadHash snapshot, w =>
    w.writeIf snapshot
      (w.store.recordOptionExecutionAndSnapshot version execution receivedAt payloadHash snapshot)

def serve (a : OptionAnswers) (call : OptionCall) (w : OptionWorld) :
    Except Failure call.Result × OptionWorld :=
  answer a call ((w.send call).pass a.orders)

/-- The orders that were sent. -/
def requests (w : OptionWorld) : List PlaceOrderRequest := w.placed.map fun p => p.request

end OptionWorld

/-- Any exchange that makes nothing up. -/
structure HonestOptions (a : OptionAnswers) (call : OptionCall) (w : OptionWorld) : Prop where
  grows : ∀ o ∈ w.orders, ∃ o' ∈ a.orders, o.Grows o'
  sent : ∀ o ∈ a.orders, o.request ∈ (w.send call).requests
  links : (a.orders.map OptionOrder.orderLinkId).Nodup
  acknowledged : ∀ request ∈ call.sends?, ∀ acknowledgement ∈ a.placed.toOption,
    acknowledgement.orderLinkId = request.orderLinkId ∧
      HasOrder a.orders request.orderLinkId acknowledgement.orderId
  found : ∀ id ∈ call.looksUp?, ∀ found ∈ a.found.toOption, ∀ order ∈ found,
    order.orderLinkId = id ∧ HasOrder a.orders id order.orderId
  history : ∀ id ∈ call.history?, ∀ executions ∈ a.executions.toOption, ∀ e ∈ executions,
    HasFill a.orders id e

instance (a : OptionAnswers) (call : OptionCall) (w : OptionWorld) :
    Decidable (HonestOptions a call w) :=
  decidable_of_iff
    ((∀ o ∈ w.orders, ∃ o' ∈ a.orders, o.Grows o') ∧
      (∀ o ∈ a.orders, o.request ∈ (w.send call).requests) ∧
      (a.orders.map OptionOrder.orderLinkId).Nodup ∧
      (∀ request ∈ call.sends?, ∀ acknowledgement ∈ a.placed.toOption,
        acknowledgement.orderLinkId = request.orderLinkId ∧
          HasOrder a.orders request.orderLinkId acknowledgement.orderId) ∧
      (∀ id ∈ call.looksUp?, ∀ found ∈ a.found.toOption, ∀ order ∈ found,
        order.orderLinkId = id ∧ HasOrder a.orders id order.orderId) ∧
      ∀ id ∈ call.history?, ∀ executions ∈ a.executions.toOption, ∀ e ∈ executions,
        HasFill a.orders id e)
    ⟨fun ⟨h₁, h₂, h₃, h₄, h₅, h₆⟩ => ⟨h₁, h₂, h₃, h₄, h₅, h₆⟩,
      fun h => ⟨h.1, h.2, h.3, h.4, h.5, h.6⟩⟩

end CreditHedge
