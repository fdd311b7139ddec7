import CreditHedge.Core.VirtualLevels

/-!
# The ledger

`core/ledger.py`: an append-only list of events with running totals, the accounting snapshots
taken from it, and the result assembled at the end of a run. The JSON rendering of an event is
left out: nothing the engine computes reads it.
-/

set_option autoImplicit false

namespace CreditHedge

inductive LedgerEventType where
  | entry
  | floorEntry
  | tp
  | stop
  | breakeven
  | locked
  deriving DecidableEq, Repr

structure LedgerEvent where
  sequence : ℕ
  tickIndex : ℕ
  eventType : LedgerEventType
  levelId : ℕ
  price : ℚ
  quantity : ℚ
  realizedPnl : ℚ
  levelState : LevelState
  attempt : ℕ
  projectedStopLoss : ℚ
  zoneProfitComponent : ℚ
  recoveryProfitComponent : ℚ
  recoveryAllocations : List (ℕ × ℚ)
  deriving DecidableEq, Repr

structure AccountingSnapshot where
  tickIndex : ℕ
  eventSequence : Option ℕ
  price : ℚ
  optionTerminalValuePnl : ℚ
  realizedHedgePnl : ℚ
  openHedgePnl : ℚ
  combinedTerminalValuePnl : ℚ
  grossStopLosses : ℚ
  grossTpProfits : ℚ
  outstandingRecoveryDebt : ℚ
  remainingPremiumStopBudget : ℚ
  incrementalPnlSinceEntry : ℚ
  deriving DecidableEq, Repr

structure LevelSnapshot where
  levelId : ℕ
  entryPrice : ℚ
  tpPrice : ℚ
  stopPrice : ℚ
  optionBudget : ℚ
  state : LevelState
  attempts : ℕ
  activeQuantity : ℚ
  activeIsFloor : Bool
  entryArmed : Bool
  recoveryDebt : ℚ
  recoveryTpsRemaining : ℤ
  realizedStopLosses : ℚ
  realizedTpProfit : ℚ
  stopLossHistory : List ℚ
  deriving DecidableEq, Repr

structure StrategyMetrics where
  combinedPnl : ℚ
  minimumCombinedPnl : ℚ
  floorPass : Bool
  numberOfEntries : ℕ
  numberOfStops : ℕ
  numberOfTps : ℕ
  reentryCount : ℕ
  floorEntryCount : ℕ
  breakevenExitCount : ℕ
  maximumQuantity : ℚ
  premiumBudgetConsumed : ℚ
  remainingPremiumStopBudget : ℚ
  lockedLevels : List ℕ
  outstandingRecoveryDebt : ℚ
  deriving DecidableEq, Repr

structure StrategyResult where
  inputPrices : List ℚ
  prices : List ℚ
  snapshots : List AccountingSnapshot
  events : List LedgerEvent
  levels : List LevelSnapshot
  metrics : StrategyMetrics
  deriving DecidableEq, Repr

structure Ledger where
  events : List LedgerEvent := []
  realizedHedgePnl : ℚ := 0
  grossStopLosses : ℚ := 0
  grossTpProfits : ℚ := 0
  maximumQuantity : ℚ := 0
  entries : ℕ := 0
  stops : ℕ := 0
  tps : ℕ := 0
  reentries : ℕ := 0
  floorEntries : ℕ := 0
  breakevenExits : ℕ := 0
  deriving DecidableEq, Repr

namespace Ledger

variable (ledger : Ledger) (level : HedgeLevel) (tickIndex : ℕ) (quantity : ℚ)

/-- `_append`. The event's state and attempt are the level's at the time of the call. -/
def append (eventType : LedgerEventType) (price realizedPnl projectedStopLoss
    zoneProfitComponent recoveryProfitComponent : ℚ) (recoveryAllocations : List (ℕ × ℚ)) :
    Ledger :=
  { ledger with
    events := ledger.events ++
      [{ sequence := ledger.events.length + 1
         tickIndex
         eventType
         levelId := level.levelId
         price
         quantity
         realizedPnl
         levelState := level.state
         attempt := level.attempts
         projectedStopLoss
         zoneProfitComponent
         recoveryProfitComponent
         recoveryAllocations }] }

/-- `_record_open`. -/
def recordOpen (eventType : LedgerEventType) (projectedStopLoss : ℚ) : Ledger :=
  append
    { ledger with
      entries := ledger.entries + 1
      reentries := if level.attempts > 1 then ledger.reentries + 1 else ledger.reentries
      maximumQuantity := max ledger.maximumQuantity quantity }
    level tickIndex quantity eventType level.entryPrice 0 projectedStopLoss 0 0 []

def recordEntry (projectedStopLoss : ℚ) : Ledger :=
  recordOpen ledger level tickIndex quantity .entry projectedStopLoss

def recordFloorEntry (projectedStopLoss : ℚ) : Ledger :=
  recordOpen { ledger with floorEntries := ledger.floorEntries + 1 } level tickIndex quantity
    .floorEntry projectedStopLoss

def recordBreakeven : Ledger :=
  append { ledger with breakevenExits := ledger.breakevenExits + 1 } level tickIndex quantity
    .breakeven level.entryPrice 0 0 0 0 []

def recordStop (loss : ℚ) : Ledger :=
  append
    { ledger with
      stops := ledger.stops + 1
      grossStopLosses := ledger.grossStopLosses + loss
      realizedHedgePnl := ledger.realizedHedgePnl - loss }
    level tickIndex quantity .stop level.stopPrice (-loss) 0 0 0 []

def recordTp (profit zoneComponent recoveryComponent : ℚ)
    (recoveryAllocations : List (ℕ × ℚ)) : Ledger :=
  append
    { ledger with
      tps := ledger.tps + 1
      grossTpProfits := ledger.grossTpProfits + profit
      realizedHedgePnl := ledger.realizedHedgePnl + profit }
    level tickIndex quantity .tp level.tpPrice profit 0 zoneComponent recoveryComponent
    recoveryAllocations

def recordLocked (projectedStopLoss : ℚ) : Ledger :=
  append ledger level tickIndex quantity .locked level.entryPrice 0 projectedStopLoss 0 0 []

/-! ## Snapshots -/

/-- The unrealised P&L of the open hedges at `price`. -/
def openHedgePnl (levels : List HedgeLevel) (price : ℚ) : ℚ :=
  ((levels.filter (·.state = .active)).map
    fun level => level.activeQuantity * (level.entryPrice - price)).sum

def outstandingDebt (levels : List HedgeLevel) : ℚ :=
  (levels.map HedgeLevel.recoveryDebt).sum

/-- Option, realised and open hedge P&L at `price`, added up. -/
def combinedPnl (spread : CreditSpread) (levels : List HedgeLevel) (price : ℚ) : ℚ :=
  spread.expiryPnl price + ledger.realizedHedgePnl + openHedgePnl levels price

def snapshot (spread : CreditSpread) (levels : List HedgeLevel) (price : ℚ) (tickIndex : ℕ)
    (eventSequence : Option ℕ) : AccountingSnapshot :=
  let combined := ledger.combinedPnl spread levels price
  { tickIndex
    eventSequence
    price
    optionTerminalValuePnl := spread.expiryPnl price
    realizedHedgePnl := ledger.realizedHedgePnl
    openHedgePnl := openHedgePnl levels price
    combinedTerminalValuePnl := combined
    grossStopLosses := ledger.grossStopLosses
    grossTpProfits := ledger.grossTpProfits
    outstandingRecoveryDebt := outstandingDebt levels
    remainingPremiumStopBudget := spread.premiumCredit - ledger.grossStopLosses
    incrementalPnlSinceEntry := combined - spread.expiryPnl spread.spot }

/-! ## The result -/

end Ledger

def HedgeLevel.toSnapshot (level : HedgeLevel) : LevelSnapshot :=
  { levelId := level.levelId
    entryPrice := level.entryPrice
    tpPrice := level.tpPrice
    stopPrice := level.stopPrice
    optionBudget := level.optionBudget
    state := level.state
    attempts := level.attempts
    activeQuantity := level.activeQuantity
    activeIsFloor := level.activeIsFloor
    entryArmed := level.entryArmed
    recoveryDebt := level.recoveryDebt
    recoveryTpsRemaining := level.recoveryTpsRemaining
    realizedStopLosses := level.realizedStopLosses
    realizedTpProfit := level.realizedTpProfit
    stopLossHistory := level.stopLossHistory }

/-- The least combined P&L over a nonempty list of snapshots, the first one given apart. -/
def minimumCombined (first : AccountingSnapshot) (rest : List AccountingSnapshot) : ℚ :=
  rest.foldl (fun least snapshot => min least snapshot.combinedTerminalValuePnl)
    first.combinedTerminalValuePnl

def Ledger.buildResult (ledger : Ledger) (spread : CreditSpread) (levels : List HedgeLevel)
    (prices : List ℚ) (snapshots : List AccountingSnapshot) : Except Failure StrategyResult :=
  match snapshots with
  | [] => .error (.valueError "at least one accounting snapshot is required")
  | first :: rest =>
    let minimum := minimumCombined first rest
    let final := rest.getLastD first
    .ok
      { inputPrices := prices
        prices := (first :: rest).map AccountingSnapshot.price
        snapshots := first :: rest
        events := ledger.events
        levels := levels.map HedgeLevel.toSnapshot
        metrics :=
          { combinedPnl := final.combinedTerminalValuePnl
            minimumCombinedPnl := minimum
            floorPass := decide (minimum ≥ 0)
            numberOfEntries := ledger.entries
            numberOfStops := ledger.stops
            numberOfTps := ledger.tps
            reentryCount := ledger.reentries
            floorEntryCount := ledger.floorEntries
            breakevenExitCount := ledger.breakevenExits
            maximumQuantity := ledger.maximumQuantity
            premiumBudgetConsumed := ledger.grossStopLosses
            remainingPremiumStopBudget := spread.premiumCredit - ledger.grossStopLosses
            lockedLevels := (levels.filter (·.state = .locked)).map HedgeLevel.levelId
            outstandingRecoveryDebt := final.outstandingRecoveryDebt } }

end CreditHedge
