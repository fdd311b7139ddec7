import CreditHedge.Application.Ports
import CreditHedge.Domain.InstrumentRules

/-!
# Protective exits

`application/protective_exits.py`: installing the exchange-hosted stop and take-profit of one
level, and recording the fills that close it.

An installation writes its intent first, places the order, and believes nothing until the order
has been seen on the exchange exactly as it was persisted. A fill is recorded against the
protection that owns the exit order, with the version of the row it was read from.

The pause between two visibility queries has no effect but time, and is left out.
-/

set_option autoImplicit false

namespace CreditHedge

namespace ProtectiveExitService

/-- `_validate_instrument`. -/
def validateInstrument (instrument : InstrumentSpec) : Except Failure Unit :=
  refuseIf
    (instrument.category ≠ .linear ∨ instrument.symbol ≠ "ETHUSDT" ∨
      instrument.status ≠ "Trading")
    "protection requires Trading ETHUSDT linear"

/-- `_validate_visible_order`. -/
def validateVisibleOrder (order : ExchangeOrder) (request : PlaceOrderRequest) :
    Except Failure Unit :=
  if order.orderLinkId ≠ request.orderLinkId ∨ order.symbol ≠ request.symbol ∨
      order.side ≠ request.side ∨ order.orderType ≠ request.orderType ∨
      order.quantity ≠ request.quantity ∨ order.price ≠ request.price ∨
      order.triggerPrice ≠ request.triggerPrice ∨ order.triggerBy ≠ request.triggerBy ∨
      order.triggerDirection ≠ request.triggerDirection ∨
      order.timeInForce ≠ some request.timeInForce ∨
      order.positionIdx ≠ some request.positionIdx ∨
      order.closeOnTrigger ≠ request.closeOnTrigger ∨ ¬ order.reduceOnly ∨
      order.status ∉ ["New", "Untriggered", "PartiallyFilled"] then
    .error
      (.protectionNotConfirmed s!"order {request.orderLinkId} does not match persisted intent")
  else .ok ()

/-- The visibility loop, with this many attempts left. -/
def awaitVisible (request : PlaceOrderRequest) : ℕ → Service ExchangeOrder
  | 0 =>
    throw (.protectionNotConfirmed s!"order {request.orderLinkId} was not confirmed visible")
  | attempts + 1 => do
    match ← awaitCall (.getOrderByLinkId request.category request.symbol request.orderLinkId) with
    | some order => do
      validateVisibleOrder order request
      pure order
    | none => awaitVisible request attempts

/-- Placing an order, by acknowledgement or, when its outcome is uncertain, by finding it. -/
def placeOrDiscover (request : PlaceOrderRequest) :
    Service (OrderRequestAck × Option ExchangeOrder) :=
  tryCatch
    (do
      let acknowledgement ← awaitCall (.placeOrder request)
      pure (acknowledgement, none))
    fun failure =>
      match failure with
      | .uncertainOrderOutcome _ => do
        match ← awaitCall
            (.getOrderByLinkId request.category request.symbol request.orderLinkId) with
        | none => throw failure
        | some discovered => do
          let acknowledgedAt ← awaitCall .clock
          let acknowledgement ←
            OrderRequestAck.create .place discovered.orderId discovered.orderLinkId acknowledgedAt
          pure (acknowledgement, some discovered)
      | _ => throw failure

/-- `_place_and_confirm_visible`. -/
def placeAndConfirmVisible (visibilityAttempts : ℕ) (request : PlaceOrderRequest) :
    Service ExchangeOrder := do
  let (acknowledgement, discovered) ← placeOrDiscover request
  awaitCall (.recordAcknowledgement acknowledgement)
  match discovered with
  | some order => do
    validateVisibleOrder order request
    pure order
  | none => awaitVisible request visibilityAttempts

/-- `_set_reconciling`. -/
def setReconciling (snapshot : ProtectionSnapshot) : Service ProtectionSnapshot := do
  let updatedAt ← awaitCall .clock
  let reconciling ← markProtectionReconciling snapshot updatedAt
  if snapshot.state = .reconciling then pure reconciling
  else do
    awaitCall (.transitionProtectionSnapshot snapshot.version reconciling)
    pure reconciling

/-- `try: place and confirm; except Exception: _set_reconciling(snapshot); raise`. -/
def placeOrReconcile (visibilityAttempts : ℕ) (request : PlaceOrderRequest)
    (snapshot : ProtectionSnapshot) : Service ExchangeOrder :=
  tryCatch (placeAndConfirmVisible visibilityAttempts request) fun failure => do
    let _ ← setReconciling snapshot
    throw failure

/-- The stop order for a quantity, at a trigger. -/
def stopFields (quantity triggerPrice : ℚ) (stopOrderLinkId : String) : PlaceOrderFields where
  category := .linear
  symbol := "ETHUSDT"
  side := .buy
  orderType := .market
  quantity
  orderLinkId := stopOrderLinkId
  timeInForce := .ioc
  reduceOnly := true
  triggerPrice := some triggerPrice
  triggerDirection := some 1
  triggerBy := some .lastPrice
  positionIdx := 0
  closeOnTrigger := true

/-- The take-profit order for a quantity, at a price. -/
def takeProfitFields (quantity price : ℚ) (orderLinkId : String) : PlaceOrderFields where
  category := .linear
  symbol := "ETHUSDT"
  side := .buy
  orderType := .limit
  quantity
  orderLinkId
  price := some price
  timeInForce := .gtc
  reduceOnly := true
  positionIdx := 0

def installStop (visibilityAttempts : ℕ) (entryOrderLinkId : String)
    (instrument : InstrumentSpec) (stopOrderLinkId : String) (stopRate : ℚ) :
    Service ProtectionSnapshot := do
  validateInstrument instrument
  refuseIf (stopRate ≤ 0) "stop rate must be positive"
  match ← awaitCall (.loadEntrySnapshot entryOrderLinkId) with
  | none => throw (.valueError "entry snapshot does not exist")
  | some entry =>
    match entry.averageEntryPrice with
    | none => throw (.valueError "entry has no confirmed average price")
    | some averagePrice => do
      let triggerPrice :=
        quantizeLimitPrice (averagePrice * (1 + stopRate)) instrument.priceFilter.tickSize .buy
          .aggressive
      let request ← PlaceOrderRequest.create
        (stopFields entry.filledQuantity triggerPrice stopOrderLinkId)
      let persistedAt ← awaitCall .clock
      let snapshot ←
        ProtectionSnapshot.forStopIntent entry stopOrderLinkId triggerPrice persistedAt
      awaitCall (.persistProtectionIntent request snapshot snapshot.updatedAt)
      let visible ← placeOrReconcile visibilityAttempts request snapshot
      let updatedAt ← awaitCall .clock
      let «protected» ← confirmStop snapshot visible.orderId updatedAt
      awaitCall (.transitionProtectionSnapshot snapshot.version «protected»)
      pure «protected»

def installTakeProfit (visibilityAttempts : ℕ) (snapshot : ProtectionSnapshot)
    (instrument : InstrumentSpec) (orderLinkId : String) (desiredPrice : ℚ)
    (pricePolicy : PriceQuantizationPolicy) : Service ProtectionSnapshot := do
  validateInstrument instrument
  let tpPrice := quantizeLimitPrice desiredPrice instrument.priceFilter.tickSize .buy pricePolicy
  let request ← PlaceOrderRequest.create
    (takeProfitFields snapshot.openQuantity tpPrice orderLinkId)
  let updatedAt ← awaitCall .clock
  let withIntent ← addTakeProfitIntent snapshot orderLinkId tpPrice updatedAt
  awaitCall (.persistTakeProfitIntent snapshot.version request withIntent withIntent.updatedAt)
  let visible ← placeOrReconcile visibilityAttempts request withIntent
  let confirmedAt ← awaitCall .clock
  let confirmed ← confirmTakeProfit withIntent visible.orderId confirmedAt
  awaitCall (.transitionProtectionSnapshot withIntent.version confirmed)
  pure confirmed

def restoreStop (visibilityAttempts : ℕ) (snapshot : ProtectionSnapshot)
    (instrument : InstrumentSpec) (orderLinkId : String) (stopRate : ℚ) :
    Service ProtectionSnapshot := do
  validateInstrument instrument
  refuseIf (stopRate ≤ 0) "stop rate must be positive"
  let triggerPrice := quantizeLimitPrice (snapshot.averageEntryPrice * (1 + stopRate))
    instrument.priceFilter.tickSize .buy .aggressive
  let request ← PlaceOrderRequest.create
    (stopFields snapshot.openQuantity triggerPrice orderLinkId)
  let updatedAt ← awaitCall .clock
  let withIntent ← replaceStopIntent snapshot orderLinkId triggerPrice updatedAt
  awaitCall (.persistReplacementStopIntent snapshot.version request withIntent
    withIntent.updatedAt)
  let visible ← placeOrReconcile visibilityAttempts request withIntent
  let confirmedAt ← awaitCall .clock
  let «protected» ← confirmStop withIntent visible.orderId confirmedAt
  awaitCall (.transitionProtectionSnapshot withIntent.version «protected»)
  pure «protected»

/-- `apply_exit_execution` of the service. -/
def applyExitExecution (execution : ExecutionUpdate) (receivedAt : Time)
    (payloadHash : PayloadHash) : Service ProtectionSnapshot := do
  match ← awaitCall (.loadProtectionSnapshotByExitId execution.orderLinkId) with
  | none => throw (.valueError "execution has no persisted protection snapshot")
  | some snapshot => do
    if ← awaitCall (.hasExecution execution.executionId) then pure snapshot
    else do
      let updated ← CreditHedge.applyExitExecution snapshot execution receivedAt
      if ← awaitCall
          (.recordExitExecutionAndSnapshot snapshot.version execution receivedAt payloadHash
            updated) then
        pure updated
      else do
        match ← awaitCall (.loadProtectionSnapshot snapshot.entryOrderLinkId) with
        | none =>
          throw (.runtimeError "protection snapshot disappeared after duplicate")
        | some restored => pure restored

/-- The order is one of the exits this snapshot knows of. -/
def isExitId (snapshot : ProtectionSnapshot) (orderLinkId : String) : Bool :=
  orderLinkId = snapshot.stopOrderLinkId || some orderLinkId = snapshot.tpOrderLinkId

/-- Cancelling the known exits among these orders; an uncertain outcome is let pass. -/
def cancelExits (snapshot : ProtectionSnapshot) : List ExchangeOrder → Service Unit
  | [] => pure ()
  | order :: orders => do
    if isExitId snapshot order.orderLinkId then
      let request ← CancelOrderRequest.create
        { category := .linear, symbol := "ETHUSDT", orderLinkId := order.orderLinkId }
      tryCatch
        (do
          let _ ← awaitCall (.cancelOrder request)
          pure ())
        fun failure =>
          match failure with
          | .uncertainOrderOutcome _ => pure ()
          | _ => throw failure
    cancelExits snapshot orders

/-- What `reconcile_after_exit` decides on: its last look at the orders, the position and the
    store. -/
structure Inspection where
  remainingOrders : List ExchangeOrder
  positions : List ExchangePosition
  allSnapshots : List ProtectionSnapshot

/-- `reconcile_after_exit` up to its decision. -/
def inspectExits (snapshot : ProtectionSnapshot) : Service Inspection := do
  let openOrders ← awaitCall (.getOpenOrders .linear "ETHUSDT")
  cancelExits snapshot openOrders
  let remainingOrders ← awaitCall (.getOpenOrders .linear "ETHUSDT")
  let positions ← awaitCall (.getPositions .linear "ETHUSDT")
  let allSnapshots ← awaitCall .loadAllProtectionSnapshots
  pure { remainingOrders, positions, allSnapshots }

/-- Nothing speaks against closing the level: no known exit is left, and the aggregate position is
    what the store expects. -/
def Inspection.isClear (seen : Inspection) (snapshot : ProtectionSnapshot) : Bool :=
  !(seen.remainingOrders.any fun order => isExitId snapshot order.orderLinkId) &&
    aggregateProtectionPositionMatches seen.allSnapshots seen.positions

/-- The decision. -/
def closeOrSuspend (snapshot : ProtectionSnapshot) (seen : Inspection) :
    Service ProtectionSnapshot :=
  if seen.isClear snapshot then do
    let updatedAt ← awaitCall .clock
    let closed ← confirmExitReconciliation snapshot updatedAt
    awaitCall (.transitionProtectionSnapshot snapshot.version closed)
    pure closed
  else setReconciling snapshot

/-- `reconcile_after_exit`, together with what it has seen. -/
def reconcileAndInspect (entryOrderLinkId : String) : Service (Inspection × ProtectionSnapshot) := do
  match ← awaitCall (.loadProtectionSnapshot entryOrderLinkId) with
  | none => throw (.valueError "protection snapshot does not exist")
  | some snapshot => do
    refuseIf (snapshot.state ≠ .cancelPending) "exit reconciliation requires CANCEL_PENDING state"
    let seen ← inspectExits snapshot
    let result ← closeOrSuspend snapshot seen
    pure (seen, result)

/-- `reconcile_after_exit`. -/
def reconcileAfterExit (entryOrderLinkId : String) : Service ProtectionSnapshot := do
  let (_, result) ← reconcileAndInspect entryOrderLinkId
  pure result

end ProtectiveExitService

end CreditHedge
