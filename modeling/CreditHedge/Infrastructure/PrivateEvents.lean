import CreditHedge.Infrastructure.PublicStream
import CreditHedge.Lib.Repeats

/-!
# Events of the private stream

`BybitPrivateEventParser` of `infrastructure/bybit/private_parsers.py`: it reads a message by its
topic, and holds back an order update that repeats the last one of its order. The items of a
message are read by the parsers of `PrivateParsers`; a message with an item that cannot be read is
refused as a whole, before any of its updates is remembered.

Over a whole run of messages the updates of one order that are passed on are those that have come of
it, less the repeats in a row.
-/

set_option autoImplicit false

namespace CreditHedge

structure OrderUpdateBatch where
  updates : List OrderUpdate
  receivedAt : Time
  rawPayloadHash : String

structure ExecutionUpdateBatch where
  executions : List ExecutionUpdate
  receivedAt : Time
  rawPayloadHash : String

/-- `PrivateParsedEvent`. -/
inductive PrivateParsedEvent where
  | orders (batch : OrderUpdateBatch)
  | executions (batch : ExecutionUpdateBatch)
  | positions (positions : List ExchangePosition)

/-- What Python makes of a private message and of its items. A `raw_payload_hash` is a digest,
    whatever the message, so that the check of a batch lets it through. -/
structure PrivateReadings extends Readings where
  values : StreamValues

namespace PrivateParsers

/-- An item, as the readers of its fields see it. -/
def record (item : JsonObject) : JsonRecord := fun key => (item.lookup key).map Payload.shallow

/-- One of `_message_items`. -/
def messageItem : Payload → Except Failure JsonObject
  | .object item => .ok item
  | _ => .error (.valueError "Bybit private message item must be an object")

/-- `_message_items`. -/
def messageItems (message : JsonObject) : Except Failure (List JsonObject) :=
  match message.get "data" with
  | .array items => items.mapM messageItem
  | _ => .error (.valueError "Bybit private message data must be a list")

/-- The time of a message, its items, and what they are read to. -/
def readItems {α : Type} (readings : Readings) (message : JsonObject)
    (parse : Time → JsonRecord → Except Failure α) : Except Failure (Time × List α) := do
  let receivedAt ← messageTime readings
    { creationTime := (message.lookup "creationTime").map Payload.shallow, data := [] }
  let items ← messageItems message
  let parsed ← items.mapM fun item => parse receivedAt (record item)
  pure (receivedAt, parsed)

/-- `topic.split(".", maxsplit=1)[0]`. -/
def topicFamily (topic : String) : String := String.ofList (topic.toList.takeWhile (· ≠ '.'))

end PrivateParsers

open PrivateParsers

/-- The last update of each order. -/
structure BybitPrivateEventParser where
  lastOrderUpdate : KeyedTable OrderUpdate.orderId := .empty

namespace BybitPrivateEventParser

variable (readings : PrivateReadings)

/-- `_remember_order_update`, over the updates of a batch. -/
def rememberOrderUpdates (parser : BybitPrivateEventParser) (updates : List OrderUpdate) :
    List OrderUpdate × BybitPrivateEventParser :=
  let (unique, last) := Repeats.passAll parser.lastOrderUpdate updates
  (unique, { lastOrderUpdate := last })

/-- `parse_order_message`. -/
def parseOrderMessage (message : JsonObject) : Except Failure OrderUpdateBatch := do
  let (receivedAt, updates) ← readItems readings.toReadings message (parseOrder readings.toReadings)
  pure { updates, receivedAt, rawPayloadHash := readings.values.payloadHash message }

/-- `parse_execution_message`. -/
def parseExecutionMessage (message : JsonObject) : Except Failure ExecutionUpdateBatch := do
  let (receivedAt, executions) ←
    readItems readings.toReadings message fun _ => parseExecution readings.toReadings
  pure { executions, receivedAt, rawPayloadHash := readings.values.payloadHash message }

/-- `parse_position_message`. -/
def parsePositionMessage (message : JsonObject) : Except Failure (List ExchangePosition) := do
  let (_, positions) ←
    readItems readings.toReadings message (parsePosition readings.toReadings)
  pure positions

/-- What a message is, before updates are held back. -/
def readMessage (message : JsonObject) : Except Failure PrivateParsedEvent :=
  match message.get "topic" with
  | .text topic =>
    match topicFamily topic with
    | "order" => .orders <$> parseOrderMessage readings message
    | "execution" => .executions <$> parseExecutionMessage readings message
    | "position" => .positions <$> parsePositionMessage readings message
    | _ => .error (.valueError s!"unsupported Bybit private topic: {topic}")
  | _ => .error (.valueError "Bybit private message topic must be a string")

/-- `parse_message`. -/
def parseMessage (parser : BybitPrivateEventParser) (message : JsonObject) :
    Except Failure PrivateParsedEvent × BybitPrivateEventParser :=
  match readMessage readings message with
  | .error failure => (.error failure, parser)
  | .ok (.orders batch) =>
    let (unique, parser) := parser.rememberOrderUpdates batch.updates
    (.ok (.orders { batch with updates := unique }), parser)
  | .ok event => (.ok event, parser)

/-- The messages of a run, each read or refused, and the parser after them. -/
def parseAll (parser : BybitPrivateEventParser) :
    List JsonObject → List (Except Failure PrivateParsedEvent) × BybitPrivateEventParser
  | [] => ([], parser)
  | message :: messages =>
    let (event, parser) := parser.parseMessage readings message
    let (events, parser) := parseAll parser messages
    (event :: events, parser)

end BybitPrivateEventParser

/-! ## What is passed on -/

/-- The order updates of what a message is read to. -/
def orderUpdatesIn : Except Failure PrivateParsedEvent → List OrderUpdate
  | .ok (.orders batch) => batch.updates
  | _ => []

/-- What an event is about, apart from the order updates in it. -/
inductive SameOutline : Except Failure PrivateParsedEvent → Except Failure PrivateParsedEvent → Prop
  | refl (event : Except Failure PrivateParsedEvent) : SameOutline event event
  | orders (batch : OrderUpdateBatch) (updates : List OrderUpdate) :
      SameOutline (.ok (.orders { batch with updates })) (.ok (.orders batch))

namespace BybitPrivateEventParser

variable (readings : PrivateReadings) (parser : BybitPrivateEventParser)

/-- One message: its order updates go through the dictionary, and all else is as it was read. -/
theorem parseMessage_cases (message : JsonObject) :
    SameOutline (parser.parseMessage readings message).1 (readMessage readings message) ∧
      (orderUpdatesIn (parser.parseMessage readings message).1,
        (parser.parseMessage readings message).2.lastOrderUpdate) =
          Repeats.passAll parser.lastOrderUpdate
            (orderUpdatesIn (readMessage readings message)) := by
  unfold parseMessage
  cases hread : readMessage readings message with
  | error failure => exact ⟨.refl _, rfl⟩
  | ok event =>
    cases event with
    | orders batch => exact ⟨.orders batch _, rfl⟩
    | executions batch => exact ⟨.refl _, rfl⟩
    | positions positions => exact ⟨.refl _, rfl⟩

/-- A run of messages. -/
theorem parseAll_passAll (messages : List JsonObject) :
    List.Forall₂ SameOutline (parser.parseAll readings messages).1
        (messages.map (readMessage readings)) ∧
      ((parser.parseAll readings messages).1.flatMap orderUpdatesIn,
        (parser.parseAll readings messages).2.lastOrderUpdate) =
          Repeats.passAll parser.lastOrderUpdate
            ((messages.map (readMessage readings)).flatMap orderUpdatesIn) := by
  induction messages generalizing parser with
  | nil => exact ⟨.nil, rfl⟩
  | cons message messages ih =>
    obtain ⟨hsame, hfirst⟩ := parser.parseMessage_cases readings message
    obtain ⟨hrest, hlater⟩ := ih (parser.parseMessage readings message).2
    refine ⟨.cons hsame hrest, ?_⟩
    rw [List.map_cons, List.flatMap_cons, Repeats.passAll_append, ← hfirst, ← hlater]
    rfl

/-- One message more. -/
theorem parseAll_concat (messages : List JsonObject) (message : JsonObject) :
    parser.parseAll readings (messages ++ [message]) =
      ((parser.parseAll readings messages).1 ++
          [((parser.parseAll readings messages).2.parseMessage readings message).1],
        ((parser.parseAll readings messages).2.parseMessage readings message).2) := by
  induction messages generalizing parser with
  | nil => rfl
  | cons previous messages ih =>
    rw [List.cons_append, parseAll]
    dsimp only
    rw [ih]
    rfl

/-- **The updates of an order** that a new parser passes on are those that came of it, less those
    that repeat the one before. -/
theorem orderUpdates_fresh (messages : List JsonObject) (orderId : String) :
    (((parseAll readings {} messages).1.flatMap orderUpdatesIn).filter
        fun update => decide (update.orderId = orderId)) =
      (((messages.map (readMessage readings)).flatMap orderUpdatesIn).filter
        fun update => decide (update.orderId = orderId)).destutter (· ≠ ·) := by
  have hpassed := congrArg Prod.fst
    (parseAll_passAll readings {} messages).2
  dsimp only at hpassed
  rw [hpassed]
  exact Repeats.filter_passAll _ orderId _

end BybitPrivateEventParser

end CreditHedge
