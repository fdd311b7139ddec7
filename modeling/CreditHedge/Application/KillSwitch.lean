import CreditHedge.Application.Process

/-!
# The kill switch

`application/kill_switch.py` and the close of `application/emergency_flatten.py`. The controller
keeps the state it last saved in an attribute, and it is the attribute that the entry gate reads:
an activation is in force from the moment it returns. The two services that act on an activation
close positions after it, with reduce-only orders.
-/

set_option autoImplicit false

namespace CreditHedge

/-- A port call. -/
def awaitPort (call : Call) : Task call.Result := .perform (ProcessCall.port call)

/-- A call of the process that is no port of the services. -/
def awaitProcess (call : ProcessCall) : Task call.Result := .perform call

namespace KillSwitchController

/-- `_ESCALATION`. -/
def escalation : KillSwitchMode → ℕ
  | .running => 0
  | .softPause => 1
  | .strategyClose => 2
  | .emergencyFlatten => 3

/-- The new state is saved, and then it is the controller's. -/
def saveState (mode : KillSwitchMode) (reason requestedBy : String) (current : KillSwitchState) :
    Task KillSwitchState := do
  let changedAt ← awaitPort .clock
  let updated ←
    KillSwitchState.create mode reason requestedBy changedAt (current.version + 1)
  awaitProcess (.saveKillSwitch updated (some current.version))
  sync fun memory => ({ memory with killSwitch := some updated }, pure updated)

/-- `self.state`, and what is done with it. -/
def withState {α : Type} (task : KillSwitchState → Task α) : Task α :=
  sync fun memory =>
    match memory.killSwitch with
    | none => (memory, throw (.runtimeError "kill switch has not been initialized"))
    | some current => (memory, task current)

def activate (mode : KillSwitchMode) (reason requestedBy : String) : Task KillSwitchState :=
  if mode = .running then
    throw (.valueError "use reset to return the kill switch to RUNNING")
  else
    withState fun current =>
      if escalation mode < escalation current.mode then
        throw (.valueError "kill switch cannot de-escalate without explicit reset")
      else saveState mode reason requestedBy current

def reset (requestedBy : String) (operatorAcknowledged : Bool) : Task KillSwitchState :=
  if operatorAcknowledged = false then
    throw (.valueError "operator acknowledgement is required to reset")
  else withState (saveState .running "operator acknowledged reset" requestedBy)

end KillSwitchController

/-! ## Closing -/

structure FlattenResult where
  request : PlaceOrderRequest
  acknowledgement : OrderRequestAck
  positionConfirmedFlat : Bool

namespace EmergencyFlattenService

/-- The order that closes a short. -/
def flattenFields (quantity : ℚ) (orderLinkId : String) : PlaceOrderFields where
  category := .linear
  symbol := "ETHUSDT"
  side := .buy
  orderType := .market
  quantity
  orderLinkId
  reduceOnly := true
  positionIdx := 0

/-- The one short position, if that is all there is. -/
def provenShort (positions : List ExchangePosition) : Except Failure ExchangePosition :=
  match positions.filter fun position => 0 < position.quantity with
  | [position] =>
    if position.category ≠ .linear ∨ position.symbol ≠ "ETHUSDT" ∨ position.side ≠ some .sell then
      throw (.runtimeError "flatten requires exactly one ETHUSDT short position")
    else pure position
  | _ => throw (.runtimeError "flatten requires exactly one ETHUSDT short position")

/-- `try: place_order(request)`: an uncertain outcome is looked up under the client id. -/
def placeClose (request : PlaceOrderRequest) : Task OrderRequestAck :=
  Coroutine.tryCatch (awaitPort (.placeOrder request)) fun failure =>
    match failure with
    | .uncertainOrderOutcome _ => do
      match ← awaitPort
          (.getOrderByLinkId request.category request.symbol request.orderLinkId) with
      | none => throw failure
      | some discovered => do
        let acknowledgedAt ← awaitPort .clock
        liftM (OrderRequestAck.create .place discovered.orderId discovered.orderLinkId
          acknowledgedAt)
    | _ => throw failure

def flattenShort (orderLinkId : String) : Task FlattenResult := do
  let positions ← awaitPort (.getPositions .linear "ETHUSDT")
  let position ← provenShort positions
  let request ← PlaceOrderRequest.create (flattenFields position.quantity orderLinkId)
  let persistedAt ← awaitPort .clock
  awaitProcess (.persistOrderIntent request persistedAt)
  let acknowledgement ← placeClose request
  awaitPort (.recordAcknowledgement acknowledgement)
  pure { request, acknowledgement, positionConfirmedFlat := false }

def confirmFlattened : Task Bool := do
  let positions ← awaitPort (.getPositions .linear "ETHUSDT")
  pure (positions.all fun position => position.quantity ≤ 0)

end EmergencyFlattenService

structure EmergencyKillSwitchResult where
  attempts : ℕ
  positionConfirmedFlat : Bool
  reconciliationSucceeded : Bool
  deriving DecidableEq, Repr

namespace EmergencyKillSwitchExecutor

open EmergencyFlattenService

/-- One attempt's look at the position, closing it in between if it is not flat. -/
def flattenIfOpen (orderLinkId : String) : Task Bool := do
  if ← confirmFlattened then pure true
  else do
    let _ ← flattenShort orderLinkId
    confirmFlattened

/-- The loop over the attempts that are left. -/
def attempts (orderLinkIdFactory : ℕ → String) : ℕ → ℕ → Task EmergencyKillSwitchResult
  | 0, _ => throw (.runtimeError "emergency flatten did not verify flat and reconciled")
  | left + 1, attempt => do
    let positionFlat ← flattenIfOpen (orderLinkIdFactory attempt)
    let reconciled ← awaitProcess .reconcile
    if positionFlat && reconciled then
      pure { attempts := attempt, positionConfirmedFlat := true, reconciliationSucceeded := true }
    else attempts orderLinkIdFactory left (attempt + 1)

def execute (orderLinkIdFactory : ℕ → String) (maximumAttempts : ℕ)
    (reason requestedBy : String) : Task EmergencyKillSwitchResult := do
  let _ ← KillSwitchController.activate .emergencyFlatten reason requestedBy
  awaitProcess (.sendNotification
    { code := "KILL_SWITCH"
      severity := "IMMEDIATE"
      message := "emergency flatten activated: " ++ reason })
  awaitProcess (.cancelAll .linear (some "ETHUSDT"))
  awaitProcess (.cancelAll .option none)
  attempts orderLinkIdFactory maximumAttempts 1

end EmergencyKillSwitchExecutor

structure StrategyCloseResult where
  killSwitchState : KillSwitchState
  verifiedClosed : Bool

/-- `StrategyCloseService.close`, over the operations it is given. -/
def StrategyCloseService.close (closeHedges closeOptionSpread : Task Unit)
    (verifyStrategyClosed : Task Bool) (reason requestedBy : String) :
    Task StrategyCloseResult := do
  let state ← KillSwitchController.activate .strategyClose reason requestedBy
  awaitProcess (.cancelAll .linear (some "ETHUSDT"))
  awaitProcess (.cancelAll .option none)
  closeHedges
  closeOptionSpread
  let verified ← verifyStrategyClosed
  pure { killSwitchState := state, verifiedClosed := verified }

end CreditHedge
