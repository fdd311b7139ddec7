import CreditHedge.Domain.ExchangeReports
import CreditHedge.Domain.InstrumentRules
import CreditHedge.Domain.MarketEvents
import CreditHedge.Lib.Dicts
import CreditHedge.Lib.Stateful

/-!
# The simulated exchange

`backtesting/simulated_exchange.py` with `backtesting/fault_injection.py`: an exchange in virtual
time, which accepts and fills orders by a seeded dice and keeps the accounts of one short position.

Every method is a program that may raise and keeps what it has done so far: a constructor may
refuse a record in the middle of a fill or of a publication. The generator of the dice is a
parameter, `draw`, as is the digest over the market state; the results hold for any of them, and
with them for every seed. Milliseconds are counted as they are, and a timestamp is in microseconds.

The payloads of the event log are records instead of dictionaries, so the replay has no missing or
malformed field to complain about. The streams' queues are lists; the account queries that only
read fields back (positions, wallet) are the functions of those fields.
-/

set_option autoImplicit false

namespace CreditHedge

/-! ## Configuration -/

structure ExecutionModelFields where
  acknowledgementDelayMs : ℤ
  visibilityDelayMs : ℤ
  fillDelayMs : ℤ
  partialFillProbability : ℚ
  rejectionProbability : ℚ
  makerFeeRate : ℚ
  takerFeeRate : ℚ
  stopSlippageBps : ℚ
  entrySlippageBps : ℚ
  duplicateExecutionProbability : ℚ := 0
  reorderProbability : ℚ := 0
  uncertainAckProbability : ℚ := 0
  partialFillFraction : ℚ := 1 / 2
  perpSpreadBps : ℚ := 0
  deriving DecidableEq, Repr

/-- `_probability`. -/
def checkProbability (value : ℚ) (fieldName : String) : Except Failure Unit :=
  refuseIf (¬ (0 ≤ value ∧ value ≤ 1)) (fieldName ++ " must be between zero and one")

/-- `if value < …: raise ValueError(f"{field_name} cannot be negative")`. -/
def checkNotNegative (value : ℚ) (fieldName : String) : Except Failure Unit :=
  refuseIf (value < 0) (fieldName ++ " cannot be negative")

/-- `ExecutionModelConfig.__post_init__`. -/
def ExecutionModelFields.check (f : ExecutionModelFields) : Except Failure Unit := do
  checkNotNegative f.acknowledgementDelayMs "acknowledgement delay ms"
  checkNotNegative f.visibilityDelayMs "visibility delay ms"
  checkNotNegative f.fillDelayMs "fill delay ms"
  checkProbability f.partialFillProbability "partial fill probability"
  checkProbability f.rejectionProbability "rejection probability"
  checkProbability f.duplicateExecutionProbability "duplicate execution probability"
  checkProbability f.reorderProbability "reorder probability"
  checkProbability f.uncertainAckProbability "uncertain ack probability"
  checkProbability f.partialFillFraction "partial fill fraction"
  refuseIf (f.partialFillFraction = 0 ∨ f.partialFillFraction = 1)
    "partial fill fraction must be strictly between zero and one"
  checkNotNegative f.makerFeeRate "maker fee rate"
  checkNotNegative f.takerFeeRate "taker fee rate"
  checkNotNegative f.stopSlippageBps "stop slippage bps"
  checkNotNegative f.entrySlippageBps "entry slippage bps"
  checkNotNegative f.perpSpreadBps "perp spread bps"

structure ExecutionModelConfig extends ExecutionModelFields where
  checked : toExecutionModelFields.check = .ok ()

/-! ## Amendments -/

structure AmendOrderFields where
  category : Category
  symbol : String
  orderLinkId : String
  quantity : Option ℚ := none
  price : Option ℚ := none
  triggerPrice : Option ℚ := none
  deriving DecidableEq, Repr

/-- `AmendOrderRequest.__post_init__`. -/
def AmendOrderFields.check (f : AmendOrderFields) : Except Failure Unit := do
  requireText f.symbol "symbol"
  requireOwnOrderLinkId f.orderLinkId
  refuseIf (f.quantity = none ∧ f.price = none ∧ f.triggerPrice = none)
    "amend request requires at least one change"
  refuseIf (∃ v ∈ f.quantity, v ≤ 0) "quantity must be positive"
  refuseIf (∃ v ∈ f.price, v ≤ 0) "price must be positive"
  refuseIf (∃ v ∈ f.triggerPrice, v ≤ 0) "trigger price must be positive"

structure AmendOrderRequest extends AmendOrderFields where
  checked : toAmendOrderFields.check = .ok ()

/-! ## Faults -/

structure FaultInjector where
  rules : List (String × ℕ)
  counts : KeyedTable (Prod.fst : String × ℕ → String) := .empty
  fired : List (String × ℕ) := []

/-- `FaultInjector.checkpoint`. The crash is a `BaseException`; nothing here catches any other
    exception either, so it needs no kind of its own. -/
def FaultInjector.checkpoint (injector : FaultInjector) (name : String) :
    Except Failure Unit × FaultInjector :=
  let occurrence := ((injector.counts.find name).map Prod.snd).getD 0 + 1
  let counted := { injector with counts := injector.counts.upsert (name, occurrence) }
  if (name, occurrence) ∈ injector.rules ∧ (name, occurrence) ∉ injector.fired then
    (.error (.exchangeError
        s!"injected process crash at {name} occurrence {occurrence}"),
      { counted with fired := (name, occurrence) :: injector.fired })
  else (.ok (), counted)

/-! ## Orders -/

inductive SimulatedStatus where
  | new
  | untriggered
  | partiallyFilled
  | filled
  | cancelled
  deriving DecidableEq, Repr

namespace SimulatedStatus

def text : SimulatedStatus → String
  | .new => "New"
  | .untriggered => "Untriggered"
  | .partiallyFilled => "PartiallyFilled"
  | .filled => "Filled"
  | .cancelled => "Cancelled"

/-- `status in _ACTIVE_STATUSES`. -/
def isActive : SimulatedStatus → Bool
  | .new | .untriggered | .partiallyFilled => true
  | .filled | .cancelled => false

end SimulatedStatus

/-- `_SimulatedOrder`. -/
structure SimulatedOrder where
  request : PlaceOrderRequest
  orderId : String
  createdMs : ℤ
  visibleMs : ℤ
  fillMs : ℤ
  status : SimulatedStatus
  filledQuantity : ℚ := 0
  fillNotional : ℚ := 0
  partialPlanned : Bool := false
  partialDone : Bool := false
  updatedMs : ℤ := 0

namespace SimulatedOrder

def orderLinkId (order : SimulatedOrder) : String := order.request.orderLinkId

def cancelled (order : SimulatedOrder) (nowMs : ℤ) : SimulatedOrder :=
  { order with
    status := .cancelled
    updatedMs := nowMs }

/-- The order after a fill. -/
def filledBy (order : SimulatedOrder) (execution : ExecutionUpdate) (nowMs : ℤ) :
    SimulatedOrder :=
  { order with
    filledQuantity := order.filledQuantity + execution.quantity
    fillNotional := order.fillNotional + execution.price * execution.quantity
    updatedMs := nowMs
    status :=
      if order.filledQuantity + execution.quantity = order.request.quantity then .filled
      else .partiallyFilled }

end SimulatedOrder

/-! ## The event log -/

inductive SimulatedPayload where
  | privateConnection (connected : Bool)
  | publicConnection (connected : Bool)
  | executionsReordered (count : ℕ)
  | fundingApplied (rate payment : ℚ)
  | orderRejected (orderLinkId : String)
  | orderAccepted (orderId orderLinkId : String) (visibleMs fillMs : ℤ)
  | ackUncertain (orderLinkId : String)
  | orderAmended (orderLinkId : String)
  | orderCancelled (orderLinkId : String)
  | allOrdersCancelled (category : Category) (symbol : Option String)
  | execution (executionId orderLinkId : String) (price quantity fee : ℚ) (side : OrderSide)
      (role : ClientOrderRole)
  deriving DecidableEq, Repr

structure SimulatedEvent where
  sequence : ℕ
  elapsedMs : ℤ
  payload : SimulatedPayload
  deriving DecidableEq, Repr

structure SimulatedExecutionCost where
  executionId : String
  orderLinkId : String
  triggerPrice : Option ℚ
  firstAvailablePrice : ℚ
  fillPrice : ℚ
  gapSlippage : ℚ
  spreadCost : ℚ
  modelSlippage : ℚ
  fee : ℚ
  deriving DecidableEq, Repr

/-! ## State -/

/-- The position and what it has earned and cost. -/
structure HedgeAccounts where
  positionQuantity : ℚ := 0
  positionAveragePrice : ℚ := 0
  realizedPnl : ℚ := 0
  funding : ℚ := 0
  entryFees : ℚ := 0
  exitFees : ℚ := 0
  tpFees : ℚ := 0
  stopFees : ℚ := 0
  deriving DecidableEq, Repr

/-- The attribution of prices to spread and slippage. -/
structure CostAttribution where
  costs : List SimulatedExecutionCost := []
  triggerPrices : KeyedTable (Prod.fst : String × ℚ → String) := .empty
  entrySlippage : ℚ := 0
  stopSlippage : ℚ := 0
  spreadCost : ℚ := 0

/-- What the operational metrics are made of. -/
structure OperationalCounts where
  rejectionCount : ℕ := 0
  partialFillCount : ℕ := 0
  duplicateEventCount : ℕ := 0
  publicDisconnectedSinceMs : Option ℤ := none
  maximumStaleDurationMs : ℤ := 0
  publicDisconnectCount : ℕ := 0
  unprotectedSinceMs : Option ℤ := none
  maximumUnprotectedMs : ℤ := 0

/-- What has been published on the public streams. -/
structure MarketQueues where
  tickers : List TickerEvent := []
  trades : List TradeEvent := []
  books : List OrderBookSnapshot := []

structure SimulatedExchange (σ : Type) where
  rng : σ
  faultInjector : Option FaultInjector := none
  nowMs : ℤ := 0
  marketPrice : ℚ
  walletBalance : ℚ := 100000
  orders : KeyedTable SimulatedOrder.orderLinkId := .empty
  executions : List ExecutionUpdate := []
  deliveryQueue : List ExecutionUpdate := []
  eventLog : List SimulatedEvent := []
  orderSequence : ℕ := 0
  executionSequence : ℕ := 0
  marketSequence : ℕ := 0
  accounts : HedgeAccounts := {}
  attribution : CostAttribution := {}
  counts : OperationalCounts := {}
  privateConnected : Bool := true
  publicConnected : Bool := true
  latestPublishedPrice : ℚ
  queues : MarketQueues := {}

/-- What an exchange is made with: the arguments of the constructor that stay, and the two
    functions of the standard library. -/
structure Simulator (σ : Type) where
  instrument : InstrumentSpec
  config : ExecutionModelConfig
  startTime : Time
  /-- `random() < float(probability)`. -/
  draw : ℚ → σ → Bool × σ
  /-- The SHA-256 digest of the seed, the market sequence, the event type and the market price. -/
  marketHash : ℕ → String → ℚ → String

/-- `SimulatedExchange.__init__`. -/
def SimulatedExchange.create {σ : Type} (sim : Simulator σ) (initialPrice : ℚ) (seed : σ)
    (initialWalletBalance : ℚ) (faultInjector : Option FaultInjector) :
    Except Failure (SimulatedExchange σ) := do
  refuseIf (sim.instrument.category ≠ .linear) "simulated exchange requires a linear instrument"
  refuseIf (initialPrice ≤ 0) "initial price must be positive"
  pure
    { rng := seed
      faultInjector
      marketPrice := initialPrice
      walletBalance := initialWalletBalance
      latestPublishedPrice := initialPrice }

abbrev SimTask (σ : Type) := Stateful Failure (SimulatedExchange σ)

namespace SimulatedExchange

/-! ## Views -/

section Views

variable {σ : Type} (sim : Simulator σ) (s : SimulatedExchange σ)

/-- `_timestamp`. -/
def timestamp (elapsedMs : ℤ) : Time := sim.startTime + 1000 * elapsedMs

/-- `_bid_ask`. -/
def bidAsk : ℚ × ℚ :=
  let spread := sim.config.perpSpreadBps / 10000
  (s.marketPrice * (1 - spread), s.marketPrice * (1 + spread))

/-- `_current_maximum_stale_duration`. -/
def currentMaximumStaleDuration : ℤ :=
  max s.counts.maximumStaleDurationMs
    (match s.counts.publicDisconnectedSinceMs with
      | none => 0
      | some since => s.nowMs - since)

/-- `_current_maximum_unprotected`. -/
def currentMaximumUnprotected : ℤ :=
  max s.counts.maximumUnprotectedMs
    (match s.counts.unprotectedSinceMs with
      | none => 0
      | some since => s.nowMs - since)

/-- `_has_active_stop`. -/
def hasActiveStop : Bool :=
  s.orders.rows.any fun order =>
    order.status.isActive &&
      match ClientOrderId.parse order.request.orderLinkId with
      | .ok id => id.role = .hedgeStop
      | .error _ => false

/-- `_visible`. -/
def visible (order : SimulatedOrder) : Bool := order.visibleMs ≤ s.nowMs

/-- `_exchange_order`. -/
def exchangeOrder (order : SimulatedOrder) : Except Failure ExchangeOrder :=
  ExchangeOrder.create
    { category := order.request.category
      orderId := order.orderId
      orderLinkId := order.request.orderLinkId
      symbol := order.request.symbol
      status := order.status.text
      side := order.request.side
      orderType := order.request.orderType
      price := order.request.price
      quantity := order.request.quantity
      cumulativeFilledQuantity := order.filledQuantity
      averagePrice :=
        if order.filledQuantity = 0 then none else some (order.fillNotional / order.filledQuantity)
      reduceOnly := order.request.reduceOnly
      createdAt := timestamp sim order.createdMs
      updatedAt := timestamp sim order.updatedMs
      triggerPrice := order.request.triggerPrice
      triggerBy := order.request.triggerBy
      triggerDirection := order.request.triggerDirection
      timeInForce := some order.request.timeInForce
      positionIdx := some order.request.positionIdx
      closeOnTrigger := order.request.closeOnTrigger }

/-- The order is of this category and, if one is given, of this symbol. -/
def selects (category : Category) (symbol : Option String) (order : SimulatedOrder) : Bool :=
  order.request.category = category &&
    match symbol with
    | none => true
    | some symbol => order.request.symbol = symbol

/-- `get_open_orders`. -/
def getOpenOrders (category : Category) (symbol : Option String) :
    Except Failure (List ExchangeOrder) :=
  (s.orders.rows.filter fun order =>
    s.visible order && order.status.isActive && selects category symbol order).mapM
      (exchangeOrder sim)

/-- `get_order_history`. -/
def getOrderHistory (category : Category) (symbol : Option String) :
    Except Failure (List ExchangeOrder) :=
  (s.orders.rows.filter fun order => s.visible order && selects category symbol order).mapM
    (exchangeOrder sim)

/-- `get_order_by_link_id`. -/
def getOrderByLinkId (category : Category) (symbol orderLinkId : String) :
    Except Failure (Option ExchangeOrder) :=
  match s.orders.find orderLinkId with
  | none => .ok none
  | some order =>
    if ¬ s.visible order ∨ order.request.category ≠ category ∨ order.request.symbol ≠ symbol then
      .ok none
    else do
      let found ← exchangeOrder sim order
      pure (some found)

/-- The total equity of `get_wallet_state`. -/
def equity : ℚ :=
  s.walletBalance + s.accounts.realizedPnl + s.accounts.funding -
    (s.accounts.entryFees + s.accounts.exitFees)

end Views

/-! ## Primitives -/

section Primitives

variable {σ : Type} (sim : Simulator σ)

/-- `_record`. -/
def record (s : SimulatedExchange σ) (payload : SimulatedPayload) : SimulatedExchange σ :=
  { s with
    eventLog := s.eventLog ++ [⟨s.eventLog.length + 1, s.nowMs, payload⟩] }

/-- `_draw`. -/
def draw (probability : ℚ) : SimTask σ Bool := do
  let s ← get
  let (drawn, rng) := sim.draw probability s.rng
  set { s with rng }
  pure drawn

/-- `_checkpoint`. -/
def checkpoint (name : String) : SimTask σ Unit := do
  let s ← get
  match s.faultInjector with
  | none => pure ()
  | some injector => do
    set { s with faultInjector := some (injector.checkpoint name).2 }
    (injector.checkpoint name).1

/-- `_update_protection_state`. -/
def updateProtectionState (s : SimulatedExchange σ) : SimulatedExchange σ :=
  let isUnprotected := 0 < s.accounts.positionQuantity ∧ ¬ s.hasActiveStop
  if isUnprotected ∧ s.counts.unprotectedSinceMs = none then
    { s with counts := { s.counts with unprotectedSinceMs := some s.nowMs } }
  else if ¬ isUnprotected ∧ s.counts.unprotectedSinceMs ≠ none then
    { s with
      counts :=
        { s.counts with
          maximumUnprotectedMs := s.currentMaximumUnprotected
          unprotectedSinceMs := none } }
  else s

/-- An order of the dictionary is mutated. -/
def putOrder (s : SimulatedExchange σ) (order : SimulatedOrder) : SimulatedExchange σ :=
  { s with orders := s.orders.upsert order }

/-- `_required_order`. -/
def requiredOrder (s : SimulatedExchange σ) (orderLinkId : String) :
    Except Failure SimulatedOrder :=
  match s.orders.find orderLinkId with
  | none => .error (.valueError "simulated order does not exist")
  | some order => .ok order

end Primitives

/-! ## Fills -/

/-- `_apply_position`. -/
def applyPosition (accounts : HedgeAccounts) (execution : ExecutionUpdate)
    (role : ClientOrderRole) : HedgeAccounts :=
  match execution.side with
  | .sell =>
    let totalNotional := accounts.positionAveragePrice * accounts.positionQuantity +
      execution.price * execution.quantity
    let positionQuantity := accounts.positionQuantity + execution.quantity
    { accounts with
      positionQuantity
      positionAveragePrice := totalNotional / positionQuantity
      entryFees := accounts.entryFees + execution.fee }
  | .buy =>
    let closed := min execution.quantity accounts.positionQuantity
    let positionQuantity := accounts.positionQuantity - closed
    { accounts with
      realizedPnl := accounts.realizedPnl +
        (accounts.positionAveragePrice - execution.price) * closed
      positionQuantity
      exitFees := accounts.exitFees + execution.fee
      tpFees := if role = .hedgeTp then accounts.tpFees + execution.fee else accounts.tpFees
      stopFees :=
        if role = .hedgeStop then accounts.stopFees + execution.fee else accounts.stopFees
      positionAveragePrice := if positionQuantity = 0 then 0 else accounts.positionAveragePrice }

section Fills

variable {σ : Type} (sim : Simulator σ)

/-- `_eligible`. -/
def eligible (s : SimulatedExchange σ) (order : SimulatedOrder) : Except Failure Bool :=
  let request := order.request
  let triggered : Bool :=
    match request.triggerPrice with
    | none => true
    | some triggerPrice =>
      if request.triggerDirection = some 1 then triggerPrice ≤ s.marketPrice
      else s.marketPrice ≤ triggerPrice
  if ¬ triggered then .ok false
  else if request.orderType = .market then .ok true
  else
    match request.price with
    | none => .error (.assertionError "limit order must have a price")
    | some price =>
      match request.side with
      | .sell => .ok (price ≤ (s.bidAsk sim).1)
      | .buy => .ok ((s.bidAsk sim).2 ≤ price)

/-- `_execution_price`: the first available price, the price of the fill, and the role. -/
def executionPrice (s : SimulatedExchange σ) (request : PlaceOrderRequest) :
    Except Failure (ℚ × ℚ × ClientOrderRole) := do
  let firstAvailable :=
    match request.side with
    | .sell => (s.bidAsk sim).1
    | .buy => (s.bidAsk sim).2
  let id ← ClientOrderId.parse request.orderLinkId
  let slippageBps :=
    match id.role with
    | .hedgeEntry => sim.config.entrySlippageBps
    | .hedgeStop => sim.config.stopSlippageBps
    | _ => 0
  let direction : ℚ :=
    match request.side with
    | .sell => -1
    | .buy => 1
  pure (firstAvailable, firstAvailable * (1 + direction * slippageBps / 10000), id.role)

/-- What is left of the order, a reduce-only one within the position. -/
def remainingQuantity (s : SimulatedExchange σ) (order : SimulatedOrder) : ℚ :=
  let remaining := order.request.quantity - order.filledQuantity
  if order.request.reduceOnly then min remaining s.accounts.positionQuantity else remaining

/-- How much of the order is filled now, and whether it is its planned partial fill; nothing if
    nothing is left. -/
def planFill (s : SimulatedExchange σ) (order : SimulatedOrder) : Option (ℚ × Bool) :=
  let remaining := s.remainingQuantity order
  if remaining ≤ 0 then none
  else
    let proposed := floorToStep (order.request.quantity * sim.config.partialFillFraction)
      sim.instrument.lotSizeFilter.qtyStep
    if order.partialPlanned ∧ ¬ order.partialDone ∧ 0 < proposed ∧ proposed < remaining then
      some (proposed, true)
    else some (remaining, false)

/-- The planned partial fill is done. -/
def startPartial (s : SimulatedExchange σ) (order : SimulatedOrder) (isPartial : Bool) :
    SimulatedOrder × SimulatedExchange σ :=
  if isPartial then
    ({ order with partialDone := true },
      { s.putOrder { order with partialDone := true } with
        counts := { s.counts with partialFillCount := s.counts.partialFillCount + 1 } })
  else (order, s)

/-- The execution of a fill, as the exchange reports it. -/
def fillFields (s : SimulatedExchange σ) (order : SimulatedOrder) (fillPrice fillQuantity : ℚ) :
    ExecutionFields :=
  let isMaker := order.request.orderType = .limit
  let feeRate := if isMaker then sim.config.makerFeeRate else sim.config.takerFeeRate
  { executionId := String.ofList ("SIM-EXEC-".toList ++ zeroPadded 6 s.executionSequence)
    orderId := order.orderId
    orderLinkId := order.request.orderLinkId
    symbol := order.request.symbol
    side := order.request.side
    price := fillPrice
    quantity := fillQuantity
    fee := fillPrice * fillQuantity * feeRate
    isMaker := some isMaker
    executedAt := timestamp sim s.nowMs }

/-- `_record_cost`. -/
def recordCost (s : SimulatedExchange σ) (request : PlaceOrderRequest)
    (execution : ExecutionUpdate) (firstAvailable : ℚ) (role : ClientOrderRole) :
    SimulatedExchange σ :=
  let a := s.attribution
  let triggerPrice :=
    match a.triggerPrices.find execution.orderLinkId with
    | some registered => some registered.2
    | none => request.triggerPrice
  let gapSlippage :=
    match triggerPrice with
    | none => 0
    | some price => |execution.price - price|
  let spreadCost := |firstAvailable - s.marketPrice| * execution.quantity
  let modelSlippage := |execution.price - firstAvailable| * execution.quantity
  { s with
    attribution :=
      { a with
        spreadCost := a.spreadCost + spreadCost
        entrySlippage :=
          if role = .hedgeEntry then a.entrySlippage + modelSlippage else a.entrySlippage
        stopSlippage :=
          if role = .hedgeStop then a.stopSlippage + modelSlippage else a.stopSlippage
        costs := a.costs ++
          [{ executionId := execution.executionId
             orderLinkId := execution.orderLinkId
             triggerPrice
             firstAvailablePrice := firstAvailable
             fillPrice := execution.price
             gapSlippage
             spreadCost
             modelSlippage
             fee := execution.fee }] } }

/-- The payload of an `EXECUTION` event. -/
def executionPayload (execution : ExecutionUpdate) (role : ClientOrderRole) : SimulatedPayload :=
  .execution execution.executionId execution.orderLinkId execution.price execution.quantity
    execution.fee execution.side role

/-- The order, the history, the queue and the position after an execution. -/
def takeFill (s : SimulatedExchange σ) (order : SimulatedOrder) (execution : ExecutionUpdate)
    (role : ClientOrderRole) (duplicated : Bool) : SimulatedExchange σ :=
  { s.putOrder (order.filledBy execution s.nowMs) with
    executions := s.executions ++ [execution]
    deliveryQueue := s.deliveryQueue ++ if duplicated then [execution, execution] else [execution]
    counts :=
      { s.counts with
        duplicateEventCount := s.counts.duplicateEventCount + if duplicated then 1 else 0 }
    accounts := applyPosition s.accounts execution role }

/-- What follows the execution in `_fill_order`, none of which can raise. -/
def settleFill (s : SimulatedExchange σ) (order : SimulatedOrder) (execution : ExecutionUpdate)
    (firstAvailable : ℚ) (role : ClientOrderRole) (duplicated : Bool) : SimulatedExchange σ :=
  let s := (s.takeFill order execution role duplicated).updateProtectionState
  let s := s.recordCost order.request execution firstAvailable role
  s.record (executionPayload execution role)

/-- The second half of `_fill_order`: the price, the execution, and what follows it. -/
def executeFill (order : SimulatedOrder) (fillQuantity : ℚ) : SimTask σ Unit := do
  let s ← get
  let (firstAvailable, fillPrice, role) ← s.executionPrice sim order.request
  let s := { s with executionSequence := s.executionSequence + 1 }
  set s
  let execution ←
    build ExecutionFields.check ExecutionUpdate.mk (s.fillFields sim order fillPrice fillQuantity)
  let (duplicated, rng) := sim.draw sim.config.duplicateExecutionProbability s.rng
  set ({ s with rng }.settleFill order execution firstAvailable role duplicated)

/-- `_fill_order`. -/
def fillOrder (order : SimulatedOrder) : SimTask σ Unit := do
  let s ← get
  match s.planFill sim order with
  | none => set (s.putOrder (order.cancelled s.nowMs))
  | some (fillQuantity, isPartial) => do
    let (order, s) := s.startPartial order isPartial
    set s
    executeFill sim order fillQuantity

/-- One round of the loop of `_process_orders`. -/
def processOrder (orderLinkId : String) : SimTask σ Unit := do
  let s ← get
  match s.orders.find orderLinkId with
  | none => pure ()
  | some order =>
    if ¬ order.status.isActive ∨ s.nowMs < order.fillMs then pure ()
    else do
      if ← s.eligible sim order then fillOrder sim order
      else if order.request.timeInForce = .ioc ∧ order.request.triggerPrice = none then
        set (s.putOrder (order.cancelled s.nowMs))
      else pure ()

def processEach : List String → SimTask σ Unit
  | [] => pure ()
  | orderLinkId :: orderLinkIds => do
    processOrder sim orderLinkId
    processEach orderLinkIds

/-- `_process_orders`. -/
def processOrders : SimTask σ Unit := do
  let s ← get
  processEach sim (s.orders.rows.map SimulatedOrder.orderLinkId)

end Fills

/-! ## Operations -/

section Operations

variable {σ : Type} (sim : Simulator σ)

def registerTriggerPrice (orderLinkId : String) (price : ℚ) : SimTask σ Unit := do
  let s ← get
  set
    { s with
      attribution :=
        { s.attribution with
          triggerPrices := s.attribution.triggerPrices.upsert (orderLinkId, price) } }

def advanceTime (elapsedMs : ℤ) : SimTask σ Unit := do
  if elapsedMs < 0 then throw (.valueError "elapsed milliseconds cannot be negative")
  else do
    let s ← get
    let s := { s with nowMs := s.nowMs + elapsedMs }
    set
      { s with
        counts :=
          { s.counts with
            maximumStaleDurationMs := s.currentMaximumStaleDuration
            maximumUnprotectedMs := s.currentMaximumUnprotected } }
    processOrders sim

/-- The events of `_publish_market_events`. -/
def marketEvents (s : SimulatedExchange σ) :
    Except Failure (TickerEvent × TradeEvent × OrderBookSnapshot) := do
  let digest := sim.marketHash s.marketSequence "market" s.marketPrice
  let ticker ← TickerEvent.create
    { symbol := sim.instrument.symbol
      timestampUtc := timestamp sim s.nowMs
      lastPrice := some s.marketPrice
      markPrice := some s.marketPrice
      indexPrice := some s.marketPrice
      bidPrice := some (s.bidAsk sim).1
      askPrice := some (s.bidAsk sim).2
      sequence := some s.marketSequence
      connectionGeneration := 1
      rawPayloadHash := digest }
  let trade ← TradeEvent.create
    { symbol := sim.instrument.symbol
      timestampUtc := timestamp sim s.nowMs
      price := s.marketPrice
      size := 1
      side := .sell
      tradeId := String.ofList ("SIM-TRADE-".toList ++ zeroPadded 6 s.marketSequence)
      sequence := some s.marketSequence
      connectionGeneration := 1
      rawPayloadHash := digest }
  let book ← OrderBookSnapshot.create
    { symbol := sim.instrument.symbol
      bids := [((s.bidAsk sim).1, 100)]
      asks := [((s.bidAsk sim).2, 100)]
      updateId := s.marketSequence
      sequence := s.marketSequence
      timestampUtc := timestamp sim s.nowMs
      connectionGeneration := 1
      rawPayloadHash := digest }
  pure (ticker, trade, book)

/-- `_publish_market_events`. -/
def publishMarketEvents : SimTask σ Unit := do
  let s ← get
  if ¬ s.publicConnected then pure ()
  else do
    let s := { s with latestPublishedPrice := s.marketPrice }
    set s
    let (ticker, trade, book) ← s.marketEvents sim
    set
      { s with
        queues :=
          { tickers := s.queues.tickers ++ [ticker]
            trades := s.queues.trades ++ [trade]
            books := s.queues.books ++ [book] } }

def advanceMarket (price : ℚ) (elapsedMs : ℤ) : SimTask σ Unit := do
  if price ≤ 0 then throw (.valueError "market price must be positive")
  else do
    let s ← get
    set
      { s with
        marketPrice := price
        marketSequence := s.marketSequence + 1 }
    publishMarketEvents sim
    advanceTime sim elapsedMs

def setPrivateConnected (connected : Bool) : SimTask σ Unit := do
  let s ← get
  set ({ s with privateConnected := connected }.record (.privateConnection connected))

def setPublicConnected (connected : Bool) : SimTask σ Unit := do
  let s ← get
  if connected = s.publicConnected then pure ()
  else do
    let counts :=
      if connected then
        { s.counts with
          maximumStaleDurationMs := s.currentMaximumStaleDuration
          publicDisconnectedSinceMs := none }
      else
        { s.counts with
          publicDisconnectedSinceMs := some s.nowMs
          publicDisconnectCount := s.counts.publicDisconnectCount + 1 }
    set ({ s with counts, publicConnected := connected }.record (.publicConnection connected))

def drainExecutionEvents : SimTask σ (List ExecutionUpdate) := do
  let s ← get
  if ¬ s.privateConnected then pure []
  else do
    let events := s.deliveryQueue
    set { s with deliveryQueue := [] }
    if events = [] then pure []
    else do
      if ← draw sim sim.config.reorderProbability then
        let s ← get
        set (s.record (.executionsReordered events.length))
        pure events.reverse
      else pure events

def applyFunding (rate : ℚ) : SimTask σ ℚ := do
  let s ← get
  let payment := s.accounts.positionQuantity * s.marketPrice * rate
  set
    ({ s with accounts := { s.accounts with funding := s.accounts.funding + payment } }.record
      (.fundingApplied rate payment))
  pure payment

/-- The order of an accepted request. -/
def acceptedOrder (s : SimulatedExchange σ) (request : PlaceOrderRequest)
    (partialPlanned : Bool) : SimulatedOrder where
  request
  orderId := String.ofList ("SIM-ORDER-".toList ++ zeroPadded 6 s.orderSequence)
  createdMs := s.nowMs
  visibleMs := s.nowMs + sim.config.visibilityDelayMs
  fillMs := s.nowMs + sim.config.fillDelayMs
  status := if request.triggerPrice ≠ none then .untriggered else .new
  partialPlanned
  updatedMs := s.nowMs

/-- The order goes into the dictionary. -/
def accept (s : SimulatedExchange σ) (order : SimulatedOrder) : SimulatedExchange σ :=
  (s.putOrder order).updateProtectionState.record
    (.orderAccepted order.orderId order.request.orderLinkId order.visibleMs order.fillMs)

def placeOrder (request : PlaceOrderRequest) : SimTask σ OrderRequestAck := do
  checkpoint "before_place_order"
  let s ← get
  refuseIf (request.symbol ≠ sim.instrument.symbol)
    "simulated order symbol does not match instrument"
  refuseIf ((s.orders.find request.orderLinkId).isSome)
    "simulated client order ID already exists"
  if ← draw sim sim.config.rejectionProbability then
    let s ← get
    set
      ({ s with counts := { s.counts with rejectionCount := s.counts.rejectionCount + 1 } }.record
        (.orderRejected request.orderLinkId))
    throw (.exchangeError s!"seeded rejection for {request.orderLinkId}")
  else do
    let s ← get
    set { s with orderSequence := s.orderSequence + 1 }
    let partialPlanned ← draw sim sim.config.partialFillProbability
    let s ← get
    let order := s.acceptedOrder sim request partialPlanned
    set (s.accept order)
    checkpoint "after_order_accepted"
    advanceTime sim sim.config.acknowledgementDelayMs
    if ← draw sim sim.config.uncertainAckProbability then
      let s ← get
      set (s.record (.ackUncertain request.orderLinkId))
      throw (.uncertainOrderOutcome "simulated place order")
    else do
      let s ← get
      OrderRequestAck.create .place order.orderId request.orderLinkId (timestamp sim s.nowMs)

/-- `replace(order.request, …)`. -/
def amendedRequest (order : SimulatedOrder) (request : AmendOrderRequest) :
    Except Failure PlaceOrderRequest :=
  PlaceOrderRequest.create
    { order.request.toPlaceOrderFields with
      quantity := request.quantity.getD order.request.quantity
      price := request.price.or order.request.price
      triggerPrice := request.triggerPrice.or order.request.triggerPrice }

def amendOrder (request : AmendOrderRequest) : SimTask σ OrderRequestAck := do
  let s ← get
  let order ← s.requiredOrder request.orderLinkId
  refuseIf (¬ order.status.isActive) "only active simulated orders can be amended"
  let amended ← amendedRequest order request
  let order :=
    { order with
      request := amended
      updatedMs := s.nowMs }
  set ((s.putOrder order).record (.orderAmended request.orderLinkId))
  OrderRequestAck.create .amend order.orderId request.orderLinkId (timestamp sim s.nowMs)

/-- An active order is cancelled, another one left as it is. -/
def cancelIfActive (s : SimulatedExchange σ) (order : SimulatedOrder) : SimulatedExchange σ :=
  if order.status.isActive then s.putOrder (order.cancelled s.nowMs) else s

def cancelOrder (request : CancelOrderRequest) : SimTask σ OrderRequestAck := do
  let s ← get
  let order ← s.requiredOrder request.orderLinkId
  set
    ((s.cancelIfActive order).updateProtectionState.record (.orderCancelled request.orderLinkId))
  OrderRequestAck.create .cancel order.orderId request.orderLinkId (timestamp sim s.nowMs)

/-- The loop of `cancel_all`. -/
def cancelEach (category : Category) (symbol : Option String) :
    List SimulatedOrder → SimulatedExchange σ → SimulatedExchange σ
  | [], s => s
  | order :: orders, s =>
    cancelEach category symbol orders
      (if selects category symbol order then s.cancelIfActive order else s)

def cancelAll (category : Category) (symbol : Option String) : SimTask σ Unit := do
  let s ← get
  set
    ((cancelEach category symbol s.orders.rows s).updateProtectionState.record
      (.allOrdersCancelled category symbol))

end Operations

end SimulatedExchange

/-- One operation on the exchange. -/
inductive SimulatedOperation where
  | registerTriggerPrice (orderLinkId : String) (price : ℚ)
  | advanceTime (elapsedMs : ℤ)
  | advanceMarket (price : ℚ) (elapsedMs : ℤ)
  | setPrivateConnected (connected : Bool)
  | setPublicConnected (connected : Bool)
  | drainExecutionEvents
  | applyFunding (rate : ℚ)
  | placeOrder (request : PlaceOrderRequest)
  | amendOrder (request : AmendOrderRequest)
  | cancelOrder (request : CancelOrderRequest)
  | cancelAll (category : Category) (symbol : Option String)

namespace SimulatedExchange

section Runs

variable {σ : Type} (sim : Simulator σ)

/-- The operation, and the executions it hands out. -/
def perform : SimulatedOperation → SimTask σ (List ExecutionUpdate)
  | .registerTriggerPrice orderLinkId price => do
    registerTriggerPrice orderLinkId price
    pure []
  | .advanceTime elapsedMs => do
    advanceTime sim elapsedMs
    pure []
  | .advanceMarket price elapsedMs => do
    advanceMarket sim price elapsedMs
    pure []
  | .setPrivateConnected connected => do
    setPrivateConnected connected
    pure []
  | .setPublicConnected connected => do
    setPublicConnected connected
    pure []
  | .drainExecutionEvents => drainExecutionEvents sim
  | .applyFunding rate => do
    let _ ← applyFunding rate
    pure []
  | .placeOrder request => do
    let _ ← placeOrder sim request
    pure []
  | .amendOrder request => do
    let _ ← amendOrder sim request
    pure []
  | .cancelOrder request => do
    let _ ← cancelOrder sim request
    pure []
  | .cancelAll category symbol => do
    cancelAll category symbol
    pure []

/-- The exchange after an operation, whether it raised or not. -/
def after (s : SimulatedExchange σ) (operation : SimulatedOperation) : SimulatedExchange σ :=
  (Stateful.run (perform sim operation) s).2

/-- The exchange after a sequence of operations. -/
def afterAll (s : SimulatedExchange σ) (operations : List SimulatedOperation) :
    SimulatedExchange σ :=
  operations.foldl (after sim) s

/-- The executions that an operation hands out. -/
def handedOut (s : SimulatedExchange σ) (operation : SimulatedOperation) : List ExecutionUpdate :=
  match (Stateful.run (perform sim operation) s).1 with
  | .ok executions => executions
  | .error _ => []

/-- The executions that were handed out along the way. -/
def drained : SimulatedExchange σ → List SimulatedOperation → List ExecutionUpdate
  | _, [] => []
  | s, operation :: operations =>
    s.handedOut sim operation ++ drained (s.after sim operation) operations

end Runs

/-! ## One exchange -/

/-- An exchange that fills at once and whole, for a fee of one in a thousand. -/
def promptExchange : Simulator Unit where
  instrument := ethPerp
  config :=
    { acknowledgementDelayMs := 0
      visibilityDelayMs := 0
      fillDelayMs := 0
      partialFillProbability := 0
      rejectionProbability := 0
      makerFeeRate := 0
      takerFeeRate := 1 / 1000
      stopSlippageBps := 0
      entrySlippageBps := 0
      checked := by decide +kernel }
  startTime := 0
  draw := fun _ _ => (false, ())
  marketHash := fun _ _ _ => "0"

/-- A market order for one unit. -/
def unitOrder (side : OrderSide) (orderLinkId : String) : PlaceOrderFields where
  category := .linear
  symbol := "ETHUSDT"
  side
  orderType := .market
  quantity := 1
  orderLinkId
  reduceOnly := side = .buy

def openedExchange : SimulatedExchange Unit where
  rng := ()
  marketPrice := 2000
  latestPublishedPrice := 2000

theorem createdExchange : create promptExchange 2000 () 100000 none = .ok openedExchange := rfl

theorem check_unitSale :
    (unitOrder .sell "ECH-A-C0001-L01-ENTRY-A01-0000").check = .ok () := by decide +kernel

theorem check_takeProfit :
    (unitOrder .buy "ECH-A-C0001-L01-TP-A01-0000").check = .ok () := by decide +kernel

/-- A sale of one unit, and its repurchase under this id. -/
def boughtBack (orderLinkId : String) (h : (unitOrder .buy orderLinkId).check = .ok ()) :
    List SimulatedOperation :=
  [.placeOrder ⟨unitOrder .sell "ECH-A-C0001-L01-ENTRY-A01-0000", check_unitSale⟩,
    .placeOrder ⟨unitOrder .buy orderLinkId, h⟩]

end SimulatedExchange

end CreditHedge
