import CreditHedge.Application.OneLevelLifecycle
import CreditHedge.Infrastructure.OptionSpreadStore

/-!
# Opening an option spread

`application/option_spread_entry.py`: the protective long first, the short only against what the
long has been filled with, and each of the two persisted before it is sent.

The calls are the service's own: the trading port, the clock, and the option part of the execution
store. `OptionSpreadEntryPlan` is a bare record here. Its constructor's checks (the symbols are puts
of one expiry, the short strike is the higher one) narrow what is opened, and no result below needs
them. What `str` makes of an exception is a parameter, since nothing but the text of the next
exception depends on it; the pause between two attempts has no effect but time.
-/

set_option autoImplicit false

namespace CreditHedge

inductive OptionCall where
  | clock
  | placeOrder (request : PlaceOrderRequest)
  | getOrderByLinkId (category : Category) (symbol orderLinkId : String)
  | getExecutionHistory (category : Category) (symbol orderLinkId : String)
  | hasExecution (executionId : String)
  | loadOrderIntent (orderLinkId : String)
  | persistOptionLongIntent (request : PlaceOrderRequest) (snapshot : OptionSpreadExecutionSnapshot)
      (persistedAt : Time)
  | persistOptionShortIntent (previousVersion : ℕ) (request : PlaceOrderRequest)
      (snapshot : OptionSpreadExecutionSnapshot) (persistedAt : Time)
  | loadOptionSpreadSnapshot (cycleId : String)
  | loadAllOptionSpreadSnapshots
  | transitionOptionSpreadSnapshot (previousVersion : ℕ) (snapshot : OptionSpreadExecutionSnapshot)
  | recordOptionAcknowledgementAndSnapshot (previousVersion : ℕ)
      (acknowledgement : OrderRequestAck) (snapshot : OptionSpreadExecutionSnapshot)
  | recordOptionExecutionAndSnapshot (previousVersion : ℕ) (execution : ExecutionUpdate)
      (receivedAt : Time) (payloadHash : PayloadHash) (snapshot : OptionSpreadExecutionSnapshot)

abbrev OptionCall.Result : OptionCall → Type
  | .clock => Time
  | .placeOrder _ => OrderRequestAck
  | .getOrderByLinkId .. => Option ExchangeOrder
  | .getExecutionHistory .. => List ExecutionUpdate
  | .hasExecution _ => Bool
  | .loadOrderIntent _ => Option PlaceOrderRequest
  | .loadOptionSpreadSnapshot _ => Option OptionSpreadExecutionSnapshot
  | .loadAllOptionSpreadSnapshots => List OptionSpreadExecutionSnapshot
  | .recordOptionExecutionAndSnapshot .. => Bool
  | _ => Unit

abbrev OptionTask := Coroutine Failure OptionCall OptionCall.Result

abbrev awaitOption (call : OptionCall) : OptionTask call.Result := .perform call

structure OptionSpreadEntryPlan where
  cycleId : String
  longSymbol : String
  shortSymbol : String
  expiryTimeUtc : Time
  quantity : ℚ
  longLimitPrice : ℚ
  shortLimitPrice : ℚ
  expectedNetCredit : ℚ
  longOrderLinkId : String
  shortOrderLinkId : String

/-- The settings of the service, and the two functions of the source it uses as they are. -/
structure OptionEntrySettings where
  fillAttempts : ℕ
  payloadHash : ExecutionUpdate → PayloadHash
  text : Failure → String

namespace OptionSpreadEntryService

open OneLevelLifecycleService

variable (settings : OptionEntrySettings)

/-- `_required_snapshot`. -/
def requiredSnapshot (cycleId : String) : OptionTask OptionSpreadExecutionSnapshot := do
  match ← awaitOption (.loadOptionSpreadSnapshot cycleId) with
  | none => throw (.runtimeError "option spread snapshot disappeared")
  | some snapshot => pure snapshot

/-- `_mark_error`. -/
def markError (snapshot : OptionSpreadExecutionSnapshot) : OptionTask Unit := do
  let current ← requiredSnapshot snapshot.cycleId
  let updatedAt ← awaitOption .clock
  let failed ← markOptionExecutionError current updatedAt
  if failed = current then pure ()
  else awaitOption (.transitionOptionSpreadSnapshot current.version failed)

/-- `try: … except Exception as exc: await self._mark_error(snapshot)`, and the exception goes on as
    an `OptionSpreadNotOpenedError`. -/
def orNotOpened {α : Type} (snapshot : OptionSpreadExecutionSnapshot) (t : OptionTask α) :
    OptionTask α :=
  tryCatch t fun failure => do
    markError snapshot
    throw (.optionSpreadNotOpened (settings.text failure))

/-- `place_order`, or what a lookup finds if its outcome is uncertain. -/
def placeOption (request : PlaceOrderRequest) : OptionTask OrderRequestAck :=
  tryCatch (awaitOption (.placeOrder request)) fun failure =>
    match failure with
    | .uncertainOrderOutcome _ => do
      match ← awaitOption
          (.getOrderByLinkId request.category request.symbol request.orderLinkId) with
      | none => throw failure
      | some discovered => do
        let acknowledgedAt ← awaitOption .clock
        let acknowledgement ←
          OrderRequestAck.create .place discovered.orderId discovered.orderLinkId acknowledgedAt
        pure acknowledgement
    | _ => throw failure

/-- `_submit`. -/
def submit (snapshot : OptionSpreadExecutionSnapshot) (request : PlaceOrderRequest) :
    OptionTask OptionSpreadExecutionSnapshot := do
  let acknowledgement ← placeOption request
  let updatedAt ← awaitOption .clock
  let acknowledged ← acknowledgeOptionOrder snapshot acknowledgement updatedAt
  awaitOption
    (.recordOptionAcknowledgementAndSnapshot snapshot.version acknowledgement acknowledged)
  pure acknowledged

/-- The executions of one answer, recorded one after the other; the snapshot they lead to. -/
def recordExecutions : List ExecutionUpdate → OptionSpreadExecutionSnapshot →
    OptionTask OptionSpreadExecutionSnapshot
  | [], snapshot => pure snapshot
  | execution :: executions, snapshot => do
    if ← awaitOption (.hasExecution execution.executionId) then recordExecutions executions snapshot
    else do
      let updatedAt ← awaitOption .clock
      let updated ← applyOptionExecution snapshot execution updatedAt
      let receivedAt ← awaitOption .clock
      if ← awaitOption
          (.recordOptionExecutionAndSnapshot snapshot.version execution receivedAt
            (settings.payloadHash execution) updated) then
        recordExecutions executions updated
      else do
        let current ← requiredSnapshot snapshot.cycleId
        recordExecutions executions current

/-- Whether the order has ended with the fill the snapshot has. -/
def legSettled (snapshot : OptionSpreadExecutionSnapshot) (side : OrderSide) :
    Option ExchangeOrder → Except Failure Bool
  | none => .ok false
  | some order =>
    if order.status ∉ terminalOrderStatuses then .ok false
    else
      let filled :=
        if side = .buy then snapshot.longFilledQuantity else snapshot.shortFilledQuantity
      if filled < order.cumulativeFilledQuantity then .ok false
      else if order.cumulativeFilledQuantity < filled then
        .error (.valueError "option order reports less fill than local state")
      else .ok true

/-- `finalized`, on the leg of this side. -/
def finalizedLeg (side : OrderSide) (policy : OptionEntryPolicy)
    (snapshot : OptionSpreadExecutionSnapshot) (updatedAt : Time) :
    Except Failure OptionSpreadExecutionSnapshot :=
  if side = .buy then finalizeProtectiveLong snapshot policy updatedAt
  else finalizeShortPremium snapshot policy updatedAt

def finalizeLeg (request : PlaceOrderRequest) (policy : OptionEntryPolicy)
    (snapshot : OptionSpreadExecutionSnapshot) : OptionTask OptionSpreadExecutionSnapshot := do
  let updatedAt ← awaitOption .clock
  let finalized ← finalizedLeg request.side policy snapshot updatedAt
  awaitOption (.transitionOptionSpreadSnapshot snapshot.version finalized)
  pure finalized

/-- `_await_leg`, with this many attempts left. -/
def awaitLeg (request : PlaceOrderRequest) (policy : OptionEntryPolicy) :
    ℕ → OptionSpreadExecutionSnapshot → OptionTask OptionSpreadExecutionSnapshot
  | 0, _ => throw (.timeoutError s!"option leg {request.orderLinkId} did not settle")
  | attempts + 1, snapshot => do
    let executions ←
      awaitOption (.getExecutionHistory .option request.symbol request.orderLinkId)
    let snapshot ← recordExecutions settings (sortedExecutions executions) snapshot
    let order ← awaitOption (.getOrderByLinkId .option request.symbol request.orderLinkId)
    if ← legSettled snapshot request.side order then finalizeLeg request policy snapshot
    else awaitLeg request policy attempts snapshot

/-- A leg whose intent is persisted: sent, and awaited. -/
def openLeg (policy : OptionEntryPolicy) (snapshot : OptionSpreadExecutionSnapshot)
    (request : PlaceOrderRequest) : OptionTask OptionSpreadExecutionSnapshot := do
  let acknowledged ← orNotOpened settings snapshot (submit snapshot request)
  orNotOpened settings acknowledged
    (awaitLeg settings request policy settings.fillAttempts acknowledged)

def completeFromProtectiveLong (snapshot : OptionSpreadExecutionSnapshot) (shortLimitPrice : ℚ)
    (shortOrderLinkId : String) (policy : OptionEntryPolicy) :
    OptionTask OptionSpreadExecutionSnapshot := do
  if snapshot.state ≠ .longProtectionFilled then
    throw (.optionSpreadNotOpened "short premium requires a reconciled protective long")
  else do
    let shortRequest ← PlaceOrderRequest.create
      { category := .option
        symbol := snapshot.shortSymbol
        side := .sell
        orderType := .limit
        quantity := snapshot.longFilledQuantity
        orderLinkId := shortOrderLinkId
        price := some shortLimitPrice
        timeInForce := .ioc }
    let updatedAt ← awaitOption .clock
    let withShort ← startShortPremium snapshot shortRequest updatedAt
    awaitOption
      (.persistOptionShortIntent snapshot.version shortRequest withShort withShort.updatedAt)
    let settled ← openLeg settings policy withShort shortRequest
    if settled.state ≠ .open then
      throw (.optionSpreadNotOpened "short fill did not open a full spread")
    else pure settled

def reconcileProtectiveLong (snapshot : OptionSpreadExecutionSnapshot)
    (policy : OptionEntryPolicy) : OptionTask OptionSpreadExecutionSnapshot := do
  if snapshot.shortOrderLinkId ≠ none ∨ snapshot.shortOrderId ≠ none ∨
      snapshot.shortFilledQuantity ≠ 0 then
    throw (.optionSpreadNotOpened "cannot reconcile a protective long after the short started")
  else do
    match ← awaitOption (.loadOrderIntent snapshot.longOrderLinkId) with
    | none => throw (.optionSpreadNotOpened "protective long has no durable order intent")
    | some request => do
      let reconciled ← orNotOpened settings snapshot
        (awaitLeg settings request policy settings.fillAttempts snapshot)
      if reconciled.state ≠ .longProtectionFilled then
        throw (.optionSpreadNotOpened "protective long did not fully fill during reconciliation")
      else pure reconciled

def openSpread (plan : OptionSpreadEntryPlan) (policy : OptionEntryPolicy) :
    OptionTask OptionSpreadExecutionSnapshot := do
  let longRequest ← PlaceOrderRequest.create
    { category := .option
      symbol := plan.longSymbol
      side := .buy
      orderType := .limit
      quantity := plan.quantity
      orderLinkId := plan.longOrderLinkId
      price := some plan.longLimitPrice
      timeInForce := .ioc }
  let persistedAt ← awaitOption .clock
  let snapshot ← OptionSpreadExecutionSnapshot.forLongIntent longRequest plan.cycleId
    plan.shortSymbol plan.expiryTimeUtc plan.expectedNetCredit persistedAt
  awaitOption (.persistOptionLongIntent longRequest snapshot snapshot.updatedAt)
  let settled ← openLeg settings policy snapshot longRequest
  if settled.state ≠ .longProtectionFilled then
    throw (.optionSpreadNotOpened "protective long did not fully fill")
  else
    completeFromProtectiveLong settings settled plan.shortLimitPrice plan.shortOrderLinkId policy

end OptionSpreadEntryService

end CreditHedge
