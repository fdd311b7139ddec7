import CreditHedge.Backtesting.MarketPath
import CreditHedge.Core.HedgeEngine
import CreditHedge.Lib.DecimalRounding
import Mathlib.Algebra.Order.Floor.Div

/-!
# Monte Carlo runs

`backtesting/monte_carlo.py`: seeded price paths, the hedge engine replayed over each of them, and
what the replays come to together. The macro prices of a path are floats made of normal draws, so
they are a parameter, as the generator is; how they become anchors and the anchors a path is
modelled. The file the paths are saved to is left out.

A `Decimal` operation keeps 28 digits. Everywhere else its result is taken to be the exact one, but
a rate is rarely so short: it is computed with its rounding (`decimalQuotient`), and so is what is
computed from it later (`decimalProduct`).
-/

set_option autoImplicit false

namespace CreditHedge

/-! ## Rounded decimals -/

/-- The precision of the default context. -/
def decimalPrecision : ℕ := 28

/-- `Decimal.__truediv__`. -/
def decimalQuotient (a b : ℚ) : ℚ := Digits.roundDigits 10 decimalPrecision (a / b)

/-- `Decimal.__mul__`. -/
def decimalProduct (a b : ℚ) : ℚ := Digits.roundDigits 10 decimalPrecision (a * b)

/-! ## Paths -/

/-- `MonteCarloConfig`: the constructor's checks are fields. -/
structure MonteCarloConfig where
  pathCount : ℕ := 100
  tickCount : ℕ := 20001
  macroStepCount : ℕ := 40
  horizonYears : ℚ := 1 / 365
  annualVolatility : ℚ := 4 / 5
  annualDrift : ℚ := 0
  tickSize : ℚ := 1 / 10
  seed : ℤ := 42
  pathCount_pos : 0 < pathCount
  two_le_tickCount : 2 ≤ tickCount
  macroStepCount_pos : 0 < macroStepCount
  horizonYears_pos : 0 < horizonYears
  annualVolatility_nonneg : 0 ≤ annualVolatility
  tickSize_pos : 0 < tickSize

/-- `MonteCarloConfig.__post_init__`. -/
def MonteCarloConfig.create (pathCount tickCount macroStepCount : ℕ)
    (horizonYears annualVolatility annualDrift tickSize : ℚ) (seed : ℤ) :
    Except Failure MonteCarloConfig :=
  if hp : pathCount = 0 then .error (.valueError "path count must be positive")
  else if ht : tickCount < 2 then .error (.valueError "tick count must be at least two")
  else if hm : macroStepCount = 0 then
    .error (.valueError "macro step count must be positive")
  else if hh : horizonYears ≤ 0 then .error (.valueError "horizon must be positive")
  else if hv : annualVolatility < 0 then
    .error (.valueError "volatility cannot be negative")
  else if hs : tickSize ≤ 0 then .error (.valueError "tick size must be positive")
  else
    .ok
      { pathCount, tickCount, macroStepCount, horizonYears, annualVolatility, annualDrift
        tickSize, seed
        pathCount_pos := Nat.pos_of_ne_zero hp
        two_le_tickCount := not_lt.mp ht
        macroStepCount_pos := Nat.pos_of_ne_zero hm
        horizonYears_pos := pos_of_not_nonpos hh
        annualVolatility_nonneg := nonneg_of_not_neg hv
        tickSize_pos := pos_of_not_nonpos hs }

/-- What a path takes from `random.Random` and from floats. -/
structure TickGenerator (σ F : Type) where
  /-- The price after so many macro steps from an initial one, as `to_decimal` reads it. -/
  macroPrice : ℚ → MonteCarloConfig → ℤ → ℕ → ℚ
  rng : Rng σ F
  /-- `random.Random(seed)`. -/
  seeded : ℤ → σ
  ratio : ℕ → ℕ → F

/-- `_quantize_to_tick`. -/
def quantizeToTick (price tickSize : ℚ) : ℚ := Digits.roundHalfEven (price / tickSize) * tickSize

section Runs

variable {σ F : Type} [OfScientific F] [Add F] [Sub F] [Mul F] [Min F] [LT F] [DecidableLT F]
variable (generator : TickGenerator σ F) (decimalText : ℚ → String)

def generateGbmTickPath (initialPrice : ℚ) (config : MonteCarloConfig) (seed : ℤ) :
    Except Failure (List ℚ) :=
  let anchors := quantizeToTick initialPrice config.tickSize ::
    (List.range config.macroStepCount).map fun step =>
      quantizeToTick (generator.macroPrice initialPrice config seed (step + 1)) config.tickSize
  let ticksPerSegment := (config.tickCount - 1) ⌈/⌉ config.macroStepCount
  expandPriceAnchors generator.rng generator.ratio decimalText anchors ticksPerSegment
    config.tickSize (generator.seeded (seed + 10000019))

/-! ## Results -/

structure MonteCarloSummary where
  pathCount : ℕ
  floorPassRate : ℚ
  terminalPnlDistribution : List ℚ
  minimumCombinedPnl : ℚ
  numberOfEntries : ℕ
  numberOfStops : ℕ
  numberOfTps : ℕ
  reentryCount : ℕ
  maximumQuantity : ℚ
  premiumBudgetConsumed : ℚ
  lockedLevels : ℕ
  outstandingRecoveryDebt : ℚ
  deriving DecidableEq, Repr

structure MonteCarloResult where
  tickPaths : List (List ℚ)
  strategyResults : List StrategyResult
  pathMetrics : List StrategyMetrics
  combinedPnlPaths : List (List ℚ)
  summary : MonteCarloSummary
  deriving DecidableEq, Repr

/-- `min(values)`. -/
def least : List ℚ → Except Failure ℚ
  | [] => .error (.valueError "min() arg is an empty sequence")
  | first :: rest => .ok (rest.foldl min first)

/-- `max(values, default=ZERO)`. -/
def greatest : List ℚ → ℚ
  | [] => 0
  | first :: rest => rest.foldl max first

/-- How many of the paths pass the floor: `sum(metric.floor_pass for metric in metrics)`. -/
def floorPasses (metrics : List StrategyMetrics) : ℕ := metrics.countP StrategyMetrics.floorPass

def MonteCarloSummary.of (config : MonteCarloConfig) (metrics : List StrategyMetrics) :
    Except Failure MonteCarloSummary := do
  let minimumCombinedPnl ← least (metrics.map StrategyMetrics.minimumCombinedPnl)
  pure
    { pathCount := config.pathCount
      floorPassRate := decimalQuotient (floorPasses metrics) config.pathCount
      terminalPnlDistribution := metrics.map StrategyMetrics.combinedPnl
      minimumCombinedPnl
      numberOfEntries := (metrics.map StrategyMetrics.numberOfEntries).sum
      numberOfStops := (metrics.map StrategyMetrics.numberOfStops).sum
      numberOfTps := (metrics.map StrategyMetrics.numberOfTps).sum
      reentryCount := (metrics.map StrategyMetrics.reentryCount).sum
      maximumQuantity := greatest (metrics.map StrategyMetrics.maximumQuantity)
      premiumBudgetConsumed := greatest (metrics.map StrategyMetrics.premiumBudgetConsumed)
      lockedLevels := (metrics.map fun metric => metric.lockedLevels.length).sum
      outstandingRecoveryDebt := (metrics.map StrategyMetrics.outstandingRecoveryDebt).sum }

variable (spread : CreditSpread) (levelCount : ℕ) (config : MonteCarloConfig)
  (recoveryMode : RecoveryMode) (recoveryTpCount : ℕ) (lockPolicy : LockPolicy) (stopRate : ℚ)

/-- One round of the loop: the path of its seed, and a fresh engine's run over it. -/
def replayPath (index : ℕ) : Except Failure (List ℚ × StrategyResult) := do
  let path ← generateGbmTickPath generator decimalText spread.spot config (config.seed + index)
  let engine ← StrategyConfig.create levelCount stopRate recoveryMode lockPolicy recoveryTpCount
  let result ← HedgeEngine.accountingRun engine spread path
  pure (path, result)

def runMonteCarlo : Except Failure MonteCarloResult := do
  let replays ← (List.range config.pathCount).mapM
    (replayPath generator decimalText spread levelCount config recoveryMode recoveryTpCount
      lockPolicy stopRate)
  let results := replays.map Prod.snd
  let metrics := results.map StrategyResult.metrics
  let summary ← MonteCarloSummary.of config metrics
  pure
    { tickPaths := replays.map Prod.fst
      strategyResults := results
      pathMetrics := metrics
      combinedPnlPaths := results.map fun result =>
        result.snapshots.map AccountingSnapshot.combinedTerminalValuePnl
      summary }

/-- **What a run sums up**: as many paths as it was asked for, each with its metrics, and the rate
    of those that pass the floor, rounded. -/
structure MonteCarloResult.Sums (monteCarlo : MonteCarloResult) : Prop where
  pathCount : monteCarlo.summary.pathCount = monteCarlo.pathMetrics.length
  pathCount_pos : 0 < monteCarlo.summary.pathCount
  paths : monteCarlo.combinedPnlPaths.length = monteCarlo.pathMetrics.length
  floorPassRate : monteCarlo.summary.floorPassRate =
    decimalQuotient (floorPasses monteCarlo.pathMetrics) monteCarlo.pathMetrics.length

theorem runMonteCarlo_sums {monteCarlo : MonteCarloResult}
    (h : runMonteCarlo generator decimalText spread levelCount config recoveryMode recoveryTpCount
      lockPolicy stopRate = .ok monteCarlo) : monteCarlo.Sums := by
  simp only [runMonteCarlo, MonteCarloSummary.of, bind_eq_ok] at h
  obtain ⟨replays, hreplays, summary, ⟨minimum, -, hsummary⟩, hresult⟩ := h
  have hlength : replays.length = config.pathCount := by
    have := (mapM_eq_ok.mp hreplays).length_eq
    rw [List.length_range] at this
    exact this.symm
  obtain rfl := Except.ok.inj hsummary
  obtain rfl := Except.ok.inj hresult
  constructor
  · simp [hlength]
  · exact config.pathCount_pos
  · simp
  · simp [hlength]

end Runs

end CreditHedge
