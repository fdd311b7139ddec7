import CreditHedge.Backtesting.MonteCarlo
import CreditHedge.Domain.ClientOrderIds
import CreditHedge.Lib.RoundedShares

/-!
# The dashboard's payload

`visualization/payload.py`: every value the dashboard shows, prepared from one replay and, if there
was one, a Monte Carlo run; and from `visualization/dashboard.py` the title over the run's paths,
which counts the losing ones itself. How a `Decimal` and a percentage are written is a parameter,
and so are the rows of an actual option position.

The run's summary has the rate of the paths that pass the floor but not their count, so the count is
taken back from the rate. A rate that was rounded down gives one too few, unless the product is
rounded back up (`loss_paths_iff`).
-/

set_option autoImplicit false

namespace CreditHedge

/-! ## Records -/

structure DashboardEvent where
  sequence : ℕ
  tickIndex : ℕ
  seriesIndex : ℕ
  eventType : String
  levelId : ℕ
  price : ℚ
  quantity : ℚ
  realizedPnl : ℚ
  state : String
  deriving DecidableEq, Repr

structure DashboardLevel where
  levelId : ℕ
  entryPrice : ℚ
  tpPrice : ℚ
  stopPrice : ℚ
  state : String
  attempts : ℕ
  activeQuantity : ℚ
  activeIsFloor : Bool
  maximumEntryQuantity : ℚ
  recoveryDebt : ℚ
  realizedStopLosses : ℚ
  realizedTpProfit : ℚ
  deriving DecidableEq, Repr

/-- A row of indicators: what it is called, what it shows, and whether that is good, where it can
    be. -/
structure KpiRow where
  label : String
  text : String
  good : Option Bool
  deriving DecidableEq, Repr

structure DashboardPayload (OptionSummary : Type) where
  selectedPathName : String
  spreadInputs : List (String × String)
  payoffCurve : List (ℚ × ℚ)
  levelBoundaries : List ℚ
  prices : List ℚ
  optionPnl : List ℚ
  realizedHedgePnl : List ℚ
  openHedgePnl : List ℚ
  hedgePnl : List ℚ
  combinedPnl : List ℚ
  recoveryDebt : List ℚ
  remainingStopBudget : List ℚ
  events : List DashboardEvent
  levels : List DashboardLevel
  monteCarloCombinedPaths : List (List ℚ)
  monteCarloFloorPasses : List Bool
  terminalPnlDistribution : List ℚ
  floorPassRate : ℚ
  floorPassCount : ℤ
  floorPathCount : ℕ
  minimumCombinedPnl : ℚ
  optionPosition : Option OptionSummary
  kpiRows : List KpiRow

/-! ## Texts -/

/-- `int(value)`. -/
def truncated (value : ℚ) : ℤ := if 0 ≤ value then ⌊value⌋ else ⌈value⌉

/-- `f"{n:,}"`. -/
def groupedText (n : ℕ) : String :=
  if n < 1000 then toString n
  else groupedText (n / 1000) ++ "," ++ String.ofList (zeroPadded 3 (n % 1000))
termination_by n
decreasing_by omega

/-- `str` of a tuple of integers. -/
def tupleText : List ℕ → String
  | [] => "()"
  | [only] => "(" ++ toString only ++ ",)"
  | items => "(" ++ ", ".intercalate (items.map toString) ++ ")"

def LevelState.value : LevelState → String
  | .ready => "READY"
  | .active => "ACTIVE"
  | .paid => "PAID"
  | .locked => "LOCKED"

/-- `state_abbreviations`. -/
def LevelState.abbreviation : LevelState → String
  | .ready => "R"
  | .active => "A"
  | .paid => "P"
  | .locked => "L"

def LedgerEventType.value : LedgerEventType → String
  | .entry => "ENTRY"
  | .floorEntry => "FLOOR_ENTRY"
  | .tp => "TP"
  | .stop => "STOP"
  | .breakeven => "BREAKEVEN"
  | .locked => "LOCKED"

/-- One level of the row of level states. -/
def LevelSnapshot.stateText (level : LevelSnapshot) : String :=
  "L" ++ toString level.levelId ++ ":" ++ level.state.abbreviation ++
    (if level.activeIsFloor then "F" else "")

/-! ## Series -/

/-- `max(maximum_quantities.get(level_id, ZERO), quantity)` over the events. -/
def maximumEntryQuantity (events : List LedgerEvent) (levelId : ℕ) : ℚ :=
  (events.filter fun event =>
    (event.eventType = .entry ∨ event.eventType = .floorEntry) ∧ event.levelId = levelId).foldl
    (fun most event => max most event.quantity) 0

/-- `event_series_indices.get(sequence, tick_index)`: a later snapshot takes an earlier one's
    place. -/
def seriesIndex (snapshots : List AccountingSnapshot) (event : LedgerEvent) : ℕ :=
  match (snapshots.zipIdx.filter fun item =>
    item.1.eventSequence = some event.sequence).getLast? with
  | some (_, index) => index
  | none => event.tickIndex

def dashboardEvent (snapshots : List AccountingSnapshot) (event : LedgerEvent) : DashboardEvent :=
  { sequence := event.sequence
    tickIndex := event.tickIndex
    seriesIndex := seriesIndex snapshots event
    eventType := event.eventType.value
    levelId := event.levelId
    price := event.price
    quantity := event.quantity
    realizedPnl := event.realizedPnl
    state := event.levelState.value }

def dashboardLevel (events : List LedgerEvent) (level : LevelSnapshot) : DashboardLevel :=
  { levelId := level.levelId
    entryPrice := level.entryPrice
    tpPrice := level.tpPrice
    stopPrice := level.stopPrice
    state := level.state.value
    attempts := level.attempts
    activeQuantity := level.activeQuantity
    activeIsFloor := level.activeIsFloor
    maximumEntryQuantity := maximumEntryQuantity events level.levelId
    recoveryDebt := level.recoveryDebt
    realizedStopLosses := level.realizedStopLosses
    realizedTpProfit := level.realizedTpProfit }

/-- The payoff at equally spaced prices, a quarter of the width past either strike. -/
def payoffCurve (spread : CreditSpread) (payoffPointCount : ℕ) : List (ℚ × ℚ) :=
  let width := spread.shortPutStrike - spread.longPutStrike
  let lower := spread.longPutStrike - width * (1 / 4)
  let upper := spread.shortPutStrike + width * (1 / 4)
  let step := (upper - lower) / ((payoffPointCount : ℚ) - 1)
  (List.range payoffPointCount).map fun index : ℕ =>
    let price := lower + step * index
    (price, spread.expiryPnl price)

/-! ## The Monte Carlo part -/

/-- What the payload says of the paths: the locals `mc_paths` to `minimum`. -/
structure PathFigures where
  paths : List (List ℚ)
  floorPasses : List Bool
  terminal : List ℚ
  floorCount : ℤ
  pathCount : ℕ
  floorRate : ℚ
  minimum : ℚ
  deriving DecidableEq, Repr

def PathFigures.of (metrics : StrategyMetrics) : Option MonteCarloResult → PathFigures
  | none =>
    { paths := []
      floorPasses := []
      terminal := [metrics.combinedPnl]
      floorCount := metrics.floorPass.toNat
      pathCount := 1
      floorRate := metrics.floorPass.toNat
      minimum := metrics.minimumCombinedPnl }
  | some monteCarlo =>
    { paths := monteCarlo.combinedPnlPaths
      floorPasses := monteCarlo.pathMetrics.map StrategyMetrics.floorPass
      terminal := monteCarlo.summary.terminalPnlDistribution
      -- the summary has the rate only
      floorCount :=
        truncated (decimalProduct monteCarlo.summary.floorPassRate monteCarlo.summary.pathCount)
      pathCount := monteCarlo.summary.pathCount
      floorRate := monteCarlo.summary.floorPassRate
      minimum := monteCarlo.summary.minimumCombinedPnl }

/-! ## The payload -/

section Building

variable {OptionSummary : Type}
variable (decimalText percentText : ℚ → String)
  (optionPositionKpiRows : Option OptionSummary → List KpiRow)

/-- The rows about the selected replay. -/
def replayKpiRows (spread : CreditSpread) (result : StrategyResult)
    (finalSnapshot : AccountingSnapshot) : List KpiRow :=
  let metrics := result.metrics
  [⟨"ETH spot", decimalText spread.spot, none⟩,
    ⟨"Put spread",
      decimalText spread.shortPutStrike ++ " / " ++ decimalText spread.longPutStrike, none⟩,
    ⟨"Premium credit", "$" ++ decimalText spread.premiumCredit, none⟩,
    ⟨"Selected ticks", groupedText result.inputPrices.length, none⟩,
    ⟨"Accounting samples", groupedText result.snapshots.length, none⟩,
    ⟨"Final option P&L", "$" ++ decimalText finalSnapshot.optionTerminalValuePnl, none⟩,
    ⟨"Final hedge P&L",
      "$" ++ decimalText (finalSnapshot.realizedHedgePnl + finalSnapshot.openHedgePnl), none⟩,
    ⟨"Final combined P&L", "$" ++ decimalText metrics.combinedPnl,
      some (decide (0 ≤ metrics.combinedPnl))⟩,
    ⟨"Path minimum", "$" ++ decimalText metrics.minimumCombinedPnl, some metrics.floorPass⟩,
    ⟨"Entries / stops / TPs",
      toString metrics.numberOfEntries ++ " / " ++ toString metrics.numberOfStops ++ " / " ++
        toString metrics.numberOfTps, none⟩,
    ⟨"Floor entries / exits",
      toString metrics.floorEntryCount ++ " / " ++ toString metrics.breakevenExitCount, none⟩,
    ⟨"Maximum hedge", decimalText metrics.maximumQuantity ++ " ETH", none⟩,
    ⟨"Stop budget used",
      "$" ++ decimalText metrics.premiumBudgetConsumed ++ " / $" ++
        decimalText spread.premiumCredit, none⟩,
    ⟨"Recovery debt", "$" ++ decimalText metrics.outstandingRecoveryDebt,
      some (decide (metrics.outstandingRecoveryDebt = 0))⟩,
    ⟨"Locked levels", if metrics.lockedLevels = [] then "None" else tupleText metrics.lockedLevels,
      some metrics.lockedLevels.isEmpty⟩]

/-- The rows about the Monte Carlo paths. -/
def pathKpiRows (hasMonteCarlo : Bool) (figures : PathFigures) : List KpiRow :=
  let lossCount : ℤ := figures.pathCount - figures.floorCount
  [⟨"Monte Carlo paths", toString (if hasMonteCarlo then figures.pathCount else 0), none⟩,
    ⟨"Floor-pass rate", percentText figures.floorRate, some (decide (figures.floorRate = 1))⟩,
    ⟨"Loss paths", toString (if hasMonteCarlo then lossCount else 0),
      if hasMonteCarlo then some (decide (lossCount = 0)) else none⟩,
    ⟨"Monte Carlo minimum", "$" ++ decimalText figures.minimum,
      some (decide (0 ≤ figures.minimum))⟩]

def buildDashboardPayload (spread : CreditSpread) (result : StrategyResult)
    (monteCarlo : Option MonteCarloResult) (selectedPathName : String) (payoffPointCount : ℤ)
    (optionPosition : Option OptionSummary) :
    Except Failure (DashboardPayload OptionSummary) := do
  refuseIf (payoffPointCount < 2) "payoff point count must be at least two"
  let figures := PathFigures.of result.metrics monteCarlo
  -- `snapshots[-1]` and `result.levels[-1]`
  match result.snapshots.getLast?, result.levels.getLast? with
  | some finalSnapshot, some lastLevel =>
    pure
      { selectedPathName
        spreadInputs :=
          [("ETH spot", decimalText spread.spot),
            ("Short put", decimalText spread.shortPutStrike),
            ("Long put", decimalText spread.longPutStrike),
            ("Option quantity", decimalText spread.optionQuantity),
            ("Premium credit", decimalText spread.premiumCredit),
            ("Maximum profit", decimalText spread.maxProfit),
            ("Maximum loss", decimalText spread.maxLoss)]
        payoffCurve := payoffCurve spread payoffPointCount.toNat
        levelBoundaries :=
          result.levels.map LevelSnapshot.entryPrice ++ [lastLevel.tpPrice]
        prices := result.prices
        optionPnl := result.snapshots.map AccountingSnapshot.optionTerminalValuePnl
        realizedHedgePnl := result.snapshots.map AccountingSnapshot.realizedHedgePnl
        openHedgePnl := result.snapshots.map AccountingSnapshot.openHedgePnl
        hedgePnl := result.snapshots.map fun item => item.realizedHedgePnl + item.openHedgePnl
        combinedPnl := result.snapshots.map AccountingSnapshot.combinedTerminalValuePnl
        recoveryDebt := result.snapshots.map AccountingSnapshot.outstandingRecoveryDebt
        remainingStopBudget :=
          result.snapshots.map AccountingSnapshot.remainingPremiumStopBudget
        events := result.events.map (dashboardEvent result.snapshots)
        levels := result.levels.map (dashboardLevel result.events)
        monteCarloCombinedPaths := figures.paths
        monteCarloFloorPasses := figures.floorPasses
        terminalPnlDistribution := figures.terminal
        floorPassRate := figures.floorRate
        floorPassCount := figures.floorCount
        floorPathCount := figures.pathCount
        minimumCombinedPnl := figures.minimum
        optionPosition
        kpiRows :=
          replayKpiRows decimalText spread result finalSnapshot ++
            pathKpiRows decimalText percentText monteCarlo.isSome figures ++
            [⟨"Level states", "  ".intercalate (result.levels.map LevelSnapshot.stateText),
              none⟩] ++
            optionPositionKpiRows optionPosition }
  | _, _ => throw .indexError

end Building

namespace DashboardPayload

variable {OptionSummary : Type} (payload : DashboardPayload OptionSummary)

def kpi (label : String) : Option KpiRow := payload.kpiRows.find? fun row => row.label = label

/-- How many paths pass the floor. -/
def passCount : ℕ := payload.monteCarloFloorPasses.count true

/-- `_draw_monte_carlo`'s own count: `sum(not floor_pass for floor_pass in …)`. -/
def lossCount : ℕ := payload.monteCarloFloorPasses.countP fun floorPass => !floorPass

/-- The title `_draw_monte_carlo` gives to the chart of the paths. -/
def monteCarloTitle : String :=
  if payload.monteCarloCombinedPaths = [] then "Monte Carlo Combined Paths"
  else
    "Monte Carlo Combined Paths — " ++ toString payload.lossCount ++ " loss / " ++
      toString payload.monteCarloCombinedPaths.length ++ " total"

/-- The payload counts the losing paths exactly. -/
def CountsLosses : Prop :=
  payload.floorPassCount = payload.passCount ∧
    (payload.kpi "Loss paths").map KpiRow.text =
      some (toString ((payload.monteCarloFloorPasses.length : ℤ) - payload.passCount))

end DashboardPayload

/-! ## What it counts -/

section Counting

variable {OptionSummary : Type} {decimalText percentText : ℚ → String}
  {optionPositionKpiRows : Option OptionSummary → List KpiRow} {spread : CreditSpread}
  {result : StrategyResult} {monteCarlo : MonteCarloResult} {selectedPathName : String}
  {payoffPointCount : ℤ} {optionPosition : Option OptionSummary}
  {payload : DashboardPayload OptionSummary}

theorem count_map_floorPass (metrics : List StrategyMetrics) :
    (metrics.map StrategyMetrics.floorPass).count true = floorPasses metrics := by
  rw [floorPasses, List.count_eq_countP, List.countP_map]
  exact List.countP_congr (by simp)

theorem floorPasses_le (metrics : List StrategyMetrics) : floorPasses metrics ≤ metrics.length :=
  List.countP_le_length

/-- A path either passes the floor or loses. -/
theorem DashboardPayload.passCount_add_lossCount (payload : DashboardPayload OptionSummary) :
    payload.passCount + payload.lossCount = payload.monteCarloFloorPasses.length := by
  rw [List.length_eq_countP_add_countP fun floorPass => floorPass == true]
  congr 1
  exact List.countP_congr (by simp)

/-- What the payload takes from a Monte Carlo run. -/
structure ReportsPaths (payload : DashboardPayload OptionSummary) (monteCarlo : MonteCarloResult) :
    Prop where
  combinedPaths : payload.monteCarloCombinedPaths = monteCarlo.combinedPnlPaths
  passes : payload.monteCarloFloorPasses =
    monteCarlo.pathMetrics.map StrategyMetrics.floorPass
  floorPathCount : payload.floorPathCount = monteCarlo.summary.pathCount
  floorPassCount : payload.floorPassCount =
    truncated (decimalProduct monteCarlo.summary.floorPassRate monteCarlo.summary.pathCount)
  lossPaths : payload.kpi "Loss paths" =
    some ⟨"Loss paths", toString ((payload.floorPathCount : ℤ) - payload.floorPassCount),
      some (decide ((payload.floorPathCount : ℤ) - payload.floorPassCount = 0))⟩

theorem buildDashboardPayload_reports
    (h : buildDashboardPayload decimalText percentText optionPositionKpiRows spread result
      (some monteCarlo) selectedPathName payoffPointCount optionPosition = .ok payload) :
    ReportsPaths payload monteCarlo := by
  simp only [buildDashboardPayload, bind_unit_eq_ok] at h
  obtain ⟨-, h⟩ := h
  split at h
  · obtain rfl := Except.ok.inj h
    exact ⟨rfl, rfl, rfl, rfl, rfl⟩
  · cases h

theorem truncated_of_nonneg {value : ℚ} (h : 0 ≤ value) : truncated value = ⌊value⌋ := if_pos h

/-- When the summary's rate still has the count. -/
theorem floorCount_eq_iff (h : monteCarlo.Sums) :
    truncated
        (decimalProduct monteCarlo.summary.floorPassRate monteCarlo.summary.pathCount) =
          floorPasses monteCarlo.pathMetrics ↔
      Digits.Recoverable 10 decimalPrecision (floorPasses monteCarlo.pathMetrics)
        monteCarlo.pathMetrics.length := by
  have hn : 0 < monteCarlo.pathMetrics.length := h.pathCount ▸ h.pathCount_pos
  have hrate : 0 ≤ decimalQuotient (floorPasses monteCarlo.pathMetrics)
      monteCarlo.pathMetrics.length :=
    Digits.roundDigits_nonneg (by decide) _ (div_nonneg (Nat.cast_nonneg _) (Nat.cast_nonneg _))
  have hproduct : 0 ≤ decimalProduct (decimalQuotient (floorPasses monteCarlo.pathMetrics)
      monteCarlo.pathMetrics.length) monteCarlo.pathMetrics.length :=
    Digits.roundDigits_nonneg (by decide) _ (mul_nonneg hrate (Nat.cast_nonneg _))
  rw [h.floorPassRate, h.pathCount, truncated_of_nonneg hproduct]
  exact Digits.floor_share_eq_iff (by decide) (by decide) hn (floorPasses_le _)

theorem ReportsPaths.passCount (h : ReportsPaths payload monteCarlo) :
    payload.passCount = floorPasses monteCarlo.pathMetrics := by
  rw [DashboardPayload.passCount, h.passes, count_map_floorPass]

theorem ReportsPaths.length (h : ReportsPaths payload monteCarlo) :
    payload.monteCarloFloorPasses.length = monteCarlo.pathMetrics.length := by
  rw [h.passes, List.length_map]

/-- The title over the paths counts them as they are. -/
theorem ReportsPaths.monteCarloTitle_eq (h : ReportsPaths payload monteCarlo)
    (hsums : monteCarlo.Sums) :
    payload.monteCarloTitle =
      "Monte Carlo Combined Paths — " ++ toString payload.lossCount ++ " loss / " ++
        toString (payload.passCount + payload.lossCount) ++ " total" := by
  have htotal : payload.monteCarloCombinedPaths.length = payload.passCount + payload.lossCount := by
    rw [h.combinedPaths, hsums.paths, payload.passCount_add_lossCount, h.length]
  have hsome : payload.monteCarloCombinedPaths ≠ [] := by
    intro hnone
    have hpos := hsums.pathCount_pos
    rw [hsums.pathCount, ← hsums.paths, ← h.combinedPaths, hnone] at hpos
    exact absurd hpos (by simp)
  rw [DashboardPayload.monteCarloTitle, if_neg hsome, htotal]

theorem ReportsPaths.floorPassCount_eq_iff (h : ReportsPaths payload monteCarlo)
    (hsums : monteCarlo.Sums) :
    payload.floorPassCount = payload.passCount ↔
      Digits.Recoverable 10 decimalPrecision (floorPasses monteCarlo.pathMetrics)
        monteCarlo.pathMetrics.length := by
  rw [h.floorPassCount, h.passCount, floorCount_eq_iff hsums]

/-- The row of losing paths agrees with the title over them exactly when the rate still has the
    count. -/
theorem ReportsPaths.agrees_iff (h : ReportsPaths payload monteCarlo) (hsums : monteCarlo.Sums) :
    (payload.floorPathCount : ℤ) - payload.floorPassCount = payload.lossCount ↔
      Digits.Recoverable 10 decimalPrecision (floorPasses monteCarlo.pathMetrics)
        monteCarlo.pathMetrics.length := by
  have hpaths : payload.floorPathCount = payload.passCount + payload.lossCount := by
    rw [h.floorPathCount, hsums.pathCount, payload.passCount_add_lossCount, h.length]
  rw [← h.floorPassCount_eq_iff hsums, hpaths]
  push_cast
  constructor
  · intro heq
    linarith
  · intro heq
    rw [heq]
    ring

/-- With fewer than `10 ^ 27` passes they agree exactly when the rate was rounded up, or down by no
    more than the second rounding gives back. -/
theorem ReportsPaths.agrees_iff_of_lt (h : ReportsPaths payload monteCarlo)
    (hsums : monteCarlo.Sums) (hpos : 0 < floorPasses monteCarlo.pathMetrics)
    (hfew : floorPasses monteCarlo.pathMetrics < 10 ^ 27) :
    let k := floorPasses monteCarlo.pathMetrics
    let n := monteCarlo.pathMetrics.length
    let m := Digits.shareScale 10 decimalPrecision k n
    (payload.floorPathCount : ℤ) - payload.floorPassCount = payload.lossCount ↔
      Digits.CarriesUp (10 ^ m * k) n ∨
        2 * (10 ^ m * k % n) * 10 ^ decimalPrecision ≤ 10 ^ (m + Nat.clog 10 k) := by
  intro k n m
  rw [h.agrees_iff hsums]
  exact Digits.recoverable_iff_of_lt (by decide) (by decide) hpos hfew

/-- The default number of paths is a hundred, whose shares have two digits. -/
theorem ReportsPaths.agrees_of_dvd (h : ReportsPaths payload monteCarlo)
    (hsums : monteCarlo.Sums) (hdvd : monteCarlo.summary.pathCount ∣ 10 ^ 27) :
    (payload.floorPathCount : ℤ) - payload.floorPassCount = payload.lossCount := by
  rw [h.agrees_iff hsums, ← hsums.pathCount]
  refine Digits.recoverable_of_dvd (by decide) (by decide) ?_ hdvd
  rw [hsums.pathCount]
  exact floorPasses_le _

section Runs

variable {σ F : Type} [OfScientific F] [Add F] [Sub F] [Mul F] [Min F] [LT F] [DecidableLT F]
  {generator : TickGenerator σ F} {pathSpread : CreditSpread} {levelCount : ℕ}
  {config : MonteCarloConfig} {recoveryMode : RecoveryMode} {recoveryTpCount : ℕ}
  {lockPolicy : LockPolicy} {stopRate : ℚ}

/-- **When the payload counts the losing paths.** Of a run with any number of paths of which any
    number pass the floor, exactly when these two numbers are such that the count survives the two
    roundings of its rate. -/
theorem loss_paths_iff
    (hrun : runMonteCarlo generator decimalText pathSpread levelCount config recoveryMode
      recoveryTpCount lockPolicy stopRate = .ok monteCarlo)
    (hpayload : buildDashboardPayload decimalText percentText optionPositionKpiRows spread result
      (some monteCarlo) selectedPathName payoffPointCount optionPosition = .ok payload) :
    payload.CountsLosses ↔
      Digits.Recoverable 10 decimalPrecision (floorPasses monteCarlo.pathMetrics)
        monteCarlo.pathMetrics.length := by
  have hsums := runMonteCarlo_sums _ _ _ _ _ _ _ _ _ hrun
  have hreports := buildDashboardPayload_reports hpayload
  rw [← hreports.floorPassCount_eq_iff hsums]
  constructor
  · exact And.left
  · intro hcount
    refine ⟨hcount, ?_⟩
    rw [hreports.lossPaths, hcount, hreports.floorPathCount, hsums.pathCount, hreports.length]
    rfl

end Runs

end Counting

/-! ## Three paths -/

/-- What the floats and the generator give for the seeds 46, 47 and 48, at a spot of 101 and over
    one day. -/
def threeSeeds : TickGenerator (List ℚ) ℚ :=
  { macroPrice := fun _ _ seed _ =>
      if seed = 46 then 104.22581228805907
      else if seed = 47 then 98.27052546685249
      else 98.7888214091616
    rng :=
      { choice := fun draws => (false, draws)
        random := fun draws => (draws.headD 0, draws.tail) }
    seeded := fun seed =>
      if seed = 10000065 then [0.1499849378043262, 0.4666469374655665, 0.8939046661939094]
      else if seed = 10000066 then [0.9407382465063678, 0.3358835677699973, 0.0703104311981273]
      else [0.6225316079717315, 0.1893566969756747]
    ratio := fun a b => a / b }

/-- A spread with no premium passes the floor as long as no price is below its short strike. -/
def threePaths (spread : CreditSpread) : Except Failure MonteCarloResult := do
  let config ← MonteCarloConfig.create 3 3 1 (1 / 365) (4 / 5) 0 1 46
  runMonteCarlo threeSeeds (fun _ => "") spread 1 config .fullNextTp 3 .unhedged (3 / 2000)

/-- What the dashboard makes of them, beside a replay of the spot alone. -/
def threePathsPayload (spread : CreditSpread) (monteCarlo : MonteCarloResult) :
    Except Failure (DashboardPayload Unit) := do
  let engine ← StrategyConfig.create 1 (3 / 2000) .fullNextTp .unhedged 3
  let result ← HedgeEngine.accountingRun engine spread [spread.spot]
  buildDashboardPayload (fun _ => "") (fun _ => "") (fun _ => []) spread result (some monteCarlo)
    "selected path" 201 none

/-- Of the three one passes the floor. The dashboard counts none, and shows three losing paths. -/
theorem exists_threePathsPayload : ∃ spread monteCarlo payload,
    CreditSpread.create 101 100 90 1 0 = .ok spread ∧ threePaths spread = .ok monteCarlo ∧
      threePathsPayload spread monteCarlo = .ok payload ∧
      payload.monteCarloFloorPasses = [true, false, false] ∧ payload.floorPassCount = 0 ∧
      (payload.kpi "Loss paths").map KpiRow.text = some "3" := by
  have hobserved : (do
      let spread ← CreditSpread.create 101 100 90 1 0
      let monteCarlo ← threePaths spread
      let payload ← threePathsPayload spread monteCarlo
      pure (payload.monteCarloFloorPasses, payload.floorPassCount,
        (payload.kpi "Loss paths").map KpiRow.text)) =
      Except.ok ([true, false, false], 0, some "3") := by
    decide +kernel
  simp only [bind_eq_ok] at hobserved
  obtain ⟨spread, hspread, monteCarlo, hrun, payload, hpayload, hpure⟩ := hobserved
  obtain ⟨hpasses, hcount, hrow⟩ := by
    simpa only [Prod.mk.injEq] using Except.ok.inj hpure
  exact ⟨spread, monteCarlo, payload, hspread, hrun, hpayload, hpasses, hcount, hrow⟩

theorem loss_paths_iff_threePaths : ∃ spread monteCarlo payload,
    CreditSpread.create 101 100 90 1 0 = .ok spread ∧ threePaths spread = .ok monteCarlo ∧
      threePathsPayload spread monteCarlo = .ok payload ∧
      (payload.CountsLosses ↔
        Digits.Recoverable 10 decimalPrecision (floorPasses monteCarlo.pathMetrics)
          monteCarlo.pathMetrics.length) := by
  obtain ⟨spread, monteCarlo, payload, hspread, hpaths, hbuilt, -⟩ := exists_threePathsPayload
  have hrun := hpaths
  have hpayload := hbuilt
  simp only [threePaths, bind_eq_ok] at hrun
  simp only [threePathsPayload, bind_eq_ok] at hpayload
  obtain ⟨config, -, hrun⟩ := hrun
  obtain ⟨engine, -, result, -, hpayload⟩ := hpayload
  exact ⟨spread, monteCarlo, payload, hspread, hpaths, hbuilt, loss_paths_iff hrun hpayload⟩

/-- One path in three passes the floor and two lose, as the title over them says, but the rate of a
    third was rounded down: the payload counts no pass at all, and its row shows three losing
    paths. -/
theorem losses_miscounted_threePaths : ∃ spread monteCarlo payload,
    CreditSpread.create 101 100 90 1 0 = .ok spread ∧ threePaths spread = .ok monteCarlo ∧
      threePathsPayload spread monteCarlo = .ok payload ∧
      payload.passCount = 1 ∧ payload.lossCount = 2 ∧ payload.floorPassCount = 0 ∧
      (payload.kpi "Loss paths").map KpiRow.text = some "3" ∧ ¬ payload.CountsLosses := by
  obtain ⟨spread, monteCarlo, payload, hspread, hpaths, hbuilt, hpasses, hcount, hrow⟩ :=
    exists_threePathsPayload
  have hpassCount : payload.passCount = 1 := by
    rw [DashboardPayload.passCount, hpasses]
    rfl
  have hlossCount : payload.lossCount = 2 := by
    rw [DashboardPayload.lossCount, hpasses]
    rfl
  refine ⟨spread, monteCarlo, payload, hspread, hpaths, hbuilt, hpassCount, hlossCount, hcount,
    hrow, ?_⟩
  rintro ⟨hcounted, -⟩
  rw [hcount, hpassCount] at hcounted
  exact absurd hcounted (by decide)

end CreditHedge
