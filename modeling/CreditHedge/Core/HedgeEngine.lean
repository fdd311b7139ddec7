import CreditHedge.Core.CrossingEngine
import CreditHedge.Core.Ledger

/-!
# The hedge engine

`core/hedge_engine.py`: the tick-driven lifecycle of the virtual levels, as a
`CrossingStrategy` the crossing engine drives.

What the source keeps in `self` is split in two. The configuration and the spread never change
and are parameters; the levels, the ledger and the previous price are `EngineState`. A handler
mutates the level object it is given, which is the one at `levels[level_id - 1]`; here it writes
that position (`EngineState.putLevel`).
-/

set_option autoImplicit false

namespace CreditHedge

inductive RecoveryMode where
  | fullNextTp
  | distributed
  deriving DecidableEq, Repr

inductive LockPolicy where
  | unhedged
  | breakevenFloor
  deriving DecidableEq, Repr

/-- `StrategyConfig`: the constructor's three checks are fields. -/
structure StrategyConfig where
  levelCount : ℕ
  stopRate : ℚ
  recoveryMode : RecoveryMode
  lockPolicy : LockPolicy
  recoveryTpCount : ℕ
  levelCount_pos : 0 < levelCount
  stopRate_pos : 0 < stopRate
  recoveryTpCount_pos : 0 < recoveryTpCount

/-- `StrategyConfig.__post_init__`. -/
def StrategyConfig.create (levelCount : ℕ) (stopRate : ℚ) (recoveryMode : RecoveryMode)
    (lockPolicy : LockPolicy) (recoveryTpCount : ℕ) : Except Failure StrategyConfig :=
  if hl : levelCount = 0 then .error (.valueError "level count must be positive")
  else if hs : stopRate ≤ 0 then .error (.valueError "stop rate must be positive")
  else if hr : recoveryTpCount = 0 then
    .error (.valueError "recovery TP count must be positive")
  else
    .ok
      { levelCount, stopRate, recoveryMode, lockPolicy, recoveryTpCount
        levelCount_pos := Nat.pos_of_ne_zero hl
        stopRate_pos := pos_of_not_nonpos hs
        recoveryTpCount_pos := Nat.pos_of_ne_zero hr }

/-! ## What the handlers do to a level -/

namespace HedgeLevel

variable (level : HedgeLevel)

/-- The mutation of `_open` and, with `isFloor`, of `_open_floor`. -/
def activated (quantity : ℚ) (isFloor : Bool) (recoveryAllocations : List (ℕ × ℚ)) :
    HedgeLevel :=
  { level with
    activeQuantity := quantity
    activeIsFloor := isFloor
    entryArmed := false
    activeRecoveryAllocations := recoveryAllocations
    attempts := level.attempts + 1
    state := .active }

/-- The mutation of `_open` when the stop budget refuses the entry. -/
def lockedOut : HedgeLevel := { level with state := .locked, entryArmed := false }

/-- The mutation of `_take_profit` on the level itself. -/
def paidOut (profit : ℚ) : HedgeLevel :=
  { level with
    realizedTpProfit := level.realizedTpProfit + profit
    activeQuantity := 0
    activeIsFloor := false
    entryArmed := false
    activeRecoveryAllocations := []
    state := .paid }

/-- The mutation of `_take_profit` on a source of its allocations. -/
def repaid (config : StrategyConfig) (allocation : ℚ) : HedgeLevel :=
  let debt := level.recoveryDebt - allocation
  { level with
    recoveryDebt := debt
    recoveryTpsRemaining :=
      if config.recoveryMode = .distributed then
        if debt = 0 then 0 else level.recoveryTpsRemaining - 1
      else level.recoveryTpsRemaining }

/-- The mutation of `_stop`. -/
def stopped (config : StrategyConfig) (loss : ℚ) : HedgeLevel :=
  { level with
    realizedStopLosses := level.realizedStopLosses + loss
    stopLossHistory := level.stopLossHistory ++ [loss]
    recoveryDebt := level.recoveryDebt + loss
    recoveryTpsRemaining :=
      if config.recoveryMode = .distributed ∧ level.recoveryTpsRemaining = 0 then
        (config.recoveryTpCount : ℤ)
      else level.recoveryTpsRemaining
    activeQuantity := 0
    activeRecoveryAllocations := []
    state := .ready
    entryArmed := true }

/-- The mutation of `_breakeven`. -/
def brokenEven : HedgeLevel :=
  { level with
    activeQuantity := 0
    activeIsFloor := false
    activeRecoveryAllocations := []
    state := .ready
    entryArmed := true }

/-! The four crossings a level can offer, each at the level's own price. -/

def tpCrossing : CrossingEvent :=
  { eventType := .tp, levelId := level.levelId, price := level.tpPrice, priority := 0 }

def entryCrossing : CrossingEvent :=
  { eventType := .entry, levelId := level.levelId, price := level.entryPrice, priority := 1 }

def breakevenCrossing : CrossingEvent :=
  { eventType := .breakeven, levelId := level.levelId, price := level.entryPrice }

def stopCrossing : CrossingEvent :=
  { eventType := .stop, levelId := level.levelId, price := level.stopPrice }

/-- The mutation of `_arm_ready_levels`. -/
def armedAt (price : ℚ) : HedgeLevel :=
  if level.state = .ready ∧ price ≥ level.entryPrice then { level with entryArmed := true }
  else level

end HedgeLevel

structure EngineState where
  levels : List HedgeLevel
  ledger : Ledger
  previousPrice : Option ℚ
  deriving DecidableEq, Repr

namespace EngineState

variable (s : EngineState)

/-- `self.levels[level_id - 1]`. -/
def level (levelId : ℕ) : Except Failure HedgeLevel :=
  match s.levels[levelId - 1]? with
  | some level => .ok level
  | none => .error .indexError

/-- Mutating the level object in place. -/
def putLevel (level : HedgeLevel) : EngineState :=
  { s with levels := s.levels.set (level.levelId - 1) level }

def usedStopBudget : ℚ := s.ledger.grossStopLosses

def remainingStopBudget (spread : CreditSpread) : ℚ := spread.premiumCredit - s.usedStopBudget

end EngineState

namespace HedgeEngine

variable (config : StrategyConfig) (spread : CreditSpread)

/-! ## Opening -/

/-- The distributed mode's loop over the sources: the oldest claim at or above the target. -/
def oldestClaim (targetId : ℕ) : List HedgeLevel → List (ℕ × ℚ)
  | [] => []
  | source :: rest =>
    if source.levelId > targetId then []
    else if source.recoveryDebt > 0 ∧ source.recoveryTpsRemaining > 0 then
      [(source.levelId,
        min source.recoveryDebt (source.recoveryDebt / source.recoveryTpsRemaining))]
    else oldestClaim targetId rest

def recoveryAllocationsFor (levels : List HedgeLevel) (target : HedgeLevel) : List (ℕ × ℚ) :=
  match config.recoveryMode with
  | .fullNextTp =>
    if target.recoveryDebt > 0 then [(target.levelId, target.recoveryDebt)] else []
  | .distributed => oldestClaim target.levelId levels

/-- The quantity `_open` asks for: budget and recovery target over the take-profit distance. -/
def openQuantity (levels : List HedgeLevel) (level : HedgeLevel) : ℚ :=
  let recoveryTarget := ((recoveryAllocationsFor config levels level).map Prod.snd).sum
  (level.optionBudget + recoveryTarget) / level.tpDistance

def projectedStopLoss (levels : List HedgeLevel) (level : HedgeLevel) : ℚ :=
  openQuantity config levels level * level.stopDistance

def openFloor (s : EngineState) (level : HedgeLevel) (tickIndex : ℕ) (quantity : ℚ)
    (recoveryAllocations : List (ℕ × ℚ)) (projectedStopLoss : ℚ) : EngineState :=
  let level' := level.activated quantity true recoveryAllocations
  { s.putLevel level' with
    ledger := s.ledger.recordFloorEntry level' tickIndex quantity projectedStopLoss }

def open' (s : EngineState) (level : HedgeLevel) (tickIndex : ℕ) : EngineState :=
  let recoveryAllocations := recoveryAllocationsFor config s.levels level
  let quantity := openQuantity config s.levels level
  let projected := projectedStopLoss config s.levels level
  if s.usedStopBudget + projected > spread.premiumCredit then
    match config.lockPolicy with
    | .breakevenFloor => openFloor s level tickIndex quantity recoveryAllocations projected
    | .unhedged =>
      let level' := level.lockedOut
      { s.putLevel level' with
        ledger := s.ledger.recordLocked level' tickIndex quantity projected }
  else
    let level' := level.activated quantity false recoveryAllocations
    { s.putLevel level' with
      ledger := s.ledger.recordEntry level' tickIndex quantity projected }

/-! ## Closing -/

/-- One round of the loop over the allocations of a take-profit. -/
def repay (s : EngineState) (claim : ℕ × ℚ) : Except Failure EngineState := do
  let source ← s.level claim.1
  if source.recoveryDebt - claim.2 < 0 then
    .error (.assertionError "recovery debt cannot become negative")
  else .ok (s.putLevel (source.repaid config claim.2))

def takeProfit (s : EngineState) (level : HedgeLevel) (tickIndex : ℕ) :
    Except Failure EngineState := do
  let quantity := level.activeQuantity
  let profit := quantity * level.tpDistance
  let recoveryAllocations := level.activeRecoveryAllocations
  let recoveryProfit := (recoveryAllocations.map Prod.snd).sum
  let repaid ← recoveryAllocations.foldlM (repay config) s
  -- The level may itself be one of the sources just repaid, so it is read again.
  let level ← repaid.level level.levelId
  let level' := level.paidOut profit
  .ok
    { repaid.putLevel level' with
      ledger := repaid.ledger.recordTp level' tickIndex quantity profit level.optionBudget
        recoveryProfit recoveryAllocations }

def stop (s : EngineState) (level : HedgeLevel) (tickIndex : ℕ) : Except Failure EngineState :=
  if level.activeIsFloor then
    .error (.assertionError "floor hedge cannot execute a fixed stop")
  else
    let quantity := level.activeQuantity
    let loss := quantity * level.stopDistance
    let level' := level.stopped config loss
    .ok { s.putLevel level' with ledger := s.ledger.recordStop level' tickIndex quantity loss }

def breakeven (s : EngineState) (level : HedgeLevel) (tickIndex : ℕ) :
    Except Failure EngineState :=
  if level.activeIsFloor then
    let quantity := level.activeQuantity
    let level' := level.brokenEven
    .ok { s.putLevel level' with ledger := s.ledger.recordBreakeven level' tickIndex quantity }
  else .error (.assertionError "breakeven exit requires a floor hedge")

/-! ## The strategy -/

/-- The crossings one level offers a downward segment. -/
def crossingsDown (previousPrice currentPrice : ℚ) (level : HedgeLevel) : List CrossingEvent :=
  (if level.state = .active ∧ previousPrice > level.tpPrice ∧ currentPrice ≤ level.tpPrice then
    [level.tpCrossing]
  else []) ++
  (if level.state = .ready ∧ level.entryArmed ∧ currentPrice ≤ level.entryPrice then
    [level.entryCrossing]
  else [])

/-- The crossing one level offers an upward segment. -/
def crossingsUp (previousPrice currentPrice : ℚ) (level : HedgeLevel) : List CrossingEvent :=
  if level.state = .active ∧ level.activeIsFloor ∧ previousPrice ≤ level.entryPrice ∧
      level.entryPrice ≤ currentPrice then
    [level.breakevenCrossing]
  else if level.state = .active ∧ previousPrice < level.stopPrice ∧
      currentPrice ≥ level.stopPrice then
    [level.stopCrossing]
  else []

def eligibleCrossings (s : EngineState) (previousPrice currentPrice : ℚ) :
    Direction → List CrossingEvent
  | .down => s.levels.flatMap (crossingsDown previousPrice currentPrice)
  | .up => s.levels.flatMap (crossingsUp previousPrice currentPrice)

def executeCrossing (s : EngineState) (event : CrossingEvent) (tickIndex : ℕ) :
    Except Failure EngineState := do
  let level ← s.level event.levelId
  match event.eventType with
  | .entry => .ok (open' config spread s level tickIndex)
  | .tp => takeProfit config s level tickIndex
  | .stop => stop config s level tickIndex
  | .breakeven => breakeven s level tickIndex

def strategy : CrossingStrategy EngineState where
  eligibleCrossings := eligibleCrossings
  executeCrossing := executeCrossing config spread

/-! ## Ticks and runs -/

def armReadyLevels (s : EngineState) (price : ℚ) : EngineState :=
  { s with levels := s.levels.map (HedgeLevel.armedAt · price) }

/-- `HedgeEngine.__init__`. -/
def init : Except Failure EngineState := do
  let levels ← generateVirtualLevels spread config.levelCount config.stopRate
  .ok { levels, ledger := {}, previousPrice := none }

/-- `HedgeEngine.step`, with the crossings its `on_crossing` callback sees, each with the engine
    as it is at the time of the call. The bound on the loop is two rounds a level. -/
def step (s : EngineState) (price : ℚ) (tickIndex : ℕ) :
    Except Failure (List (CrossingEvent × EngineState) × EngineState) :=
  match s.previousPrice with
  | none => .ok ([], armReadyLevels { s with previousPrice := some price } price)
  | some previousPrice => do
    let (crossings, s') ←
      CrossingEngine.processTransition (strategy config spread) (2 * s.levels.length + 1)
        previousPrice price s tickIndex
    .ok (crossings, armReadyLevels { s' with previousPrice := some price } price)

/-- One tick of a run: the engine before it, the crossings it executed, each with the engine
    right after it, and the engine when the tick is over. -/
structure Tick where
  before : EngineState
  price : ℚ
  tickIndex : ℕ
  crossings : List (CrossingEvent × EngineState)
  after : EngineState

/-- Every engine state the tick goes through. -/
def Tick.states (tick : Tick) : List EngineState := tick.crossings.map Prod.snd ++ [tick.after]

/-- `HedgeEngine.run` from tick `tickIndex` on, tick by tick, and the engine at the end. -/
def runFrom (s : EngineState) (tickIndex : ℕ) :
    List ℚ → Except Failure (List Tick × EngineState)
  | [] => .ok ([], s)
  | price :: rest => do
    let (crossings, s') ← step config spread s price tickIndex
    let (ticks, final) ← runFrom s' (tickIndex + 1) rest
    .ok ({ before := s, price, tickIndex, crossings, after := s' } :: ticks, final)

/-- A fresh engine run over a price path. What the source's `run` returns is `ledger.events` of
    the last state. -/
def run (prices : List ℚ) : Except Failure (List Tick × EngineState) := do
  let s ← init config spread
  runFrom config spread s 0 prices

/-! ## Accounting runs -/

/-- What `record_crossing` appends for one crossing. -/
def crossingSnapshot (tickIndex : ℕ) (crossing : CrossingEvent × EngineState) :
    AccountingSnapshot :=
  crossing.2.ledger.snapshot spread crossing.2.levels crossing.1.price tickIndex
    (some crossing.2.ledger.events.length)

/-- A tick closes with a snapshot of its own unless the last one is already at its price. -/
def closeTick (s : EngineState) (price : ℚ) (tickIndex : ℕ)
    (snapshots : List AccountingSnapshot) : List AccountingSnapshot :=
  let tick := s.ledger.snapshot spread s.levels price tickIndex none
  match snapshots.getLast? with
  | none => snapshots ++ [tick]
  | some last =>
    if last.tickIndex ≠ tickIndex ∨ last.price ≠ price then snapshots ++ [tick] else snapshots

def accountFrom (s : EngineState) (tickIndex : ℕ) (snapshots : List AccountingSnapshot) :
    List ℚ → Except Failure (EngineState × List AccountingSnapshot)
  | [] => .ok (s, snapshots)
  | price :: rest => do
    let (crossings, s') ← step config spread s price tickIndex
    let recorded := snapshots ++ crossings.map (crossingSnapshot spread tickIndex)
    accountFrom s' (tickIndex + 1) (closeTick spread s' price tickIndex recorded) rest

/-- `HedgeEngine.run_with_accounting`. -/
def runWithAccounting (s : EngineState) (prices : List ℚ) : Except Failure StrategyResult :=
  if s.previousPrice ≠ none ∨ s.ledger.events ≠ [] then
    .error (.runtimeError "accounting runs require a fresh hedge engine")
  else if prices = [] then .error (.valueError "price path cannot be empty")
  else do
    let (final, snapshots) ← accountFrom config spread s 0 [] prices
    final.ledger.buildResult spread final.levels prices snapshots

/-- A fresh engine's accounting run over a price path. -/
def accountingRun (prices : List ℚ) : Except Failure StrategyResult := do
  let s ← init config spread
  runWithAccounting config spread s prices

end HedgeEngine
end CreditHedge
