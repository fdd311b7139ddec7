import CreditHedge.Application.DeploymentAcceptance
import CreditHedge.Config.Deployment
import CreditHedge.Domain.MarketDataHealth
import CreditHedge.Interfaces.OptionPairs
import CreditHedge.Interfaces.ShadowRunner

/-!
# The mainnet shadow run

`run_mainnet_shadow` of `interfaces/mainnet_shadow_runner.py`: a ladder is watched over the live
market until a level is crossed, the capture of the run is read and replayed, and what came of both
goes through an acceptance gate.
-/

set_option autoImplicit false

namespace CreditHedge

/-- `ShadowModeService(…)`. -/
def ShadowModeService.create (cycleId : String) (levels : List HedgeLevel) (desiredQuantity : ℚ)
    (optionSpreadOpen : Bool) (instrument : InstrumentSpec) (riskLimits : RiskLimits)
    (hasRecorder : Bool) : Except Failure ShadowModeService :=
  if hid : isBlank cycleId = true then .error (.valueError "shadow cycle ID cannot be empty")
  else if hlevels : levels = [] then
    .error (.valueError "shadow mode requires at least one level")
  else if hids : levels.map HedgeLevel.levelId ≠ List.range' 1 levels.length then
    .error (.valueError "shadow level IDs must be contiguous from 1")
  else if hsorted : ¬ (levels.map HedgeLevel.entryPrice).Pairwise (· ≥ ·) then
    .error (.valueError "shadow levels must be ordered highest to lowest")
  else if hquantity : desiredQuantity ≤ 0 then
    .error (.valueError "shadow desired quantity must be positive")
  else if hlinear : ¬ (instrument.category = .linear ∧ instrument.symbol = "ETHUSDT") then
    .error (.valueError "shadow mode requires the ETHUSDT linear instrument")
  else
    .ok
      { cycleId, levels, desiredQuantity, optionSpreadOpen, instrument, riskLimits, hasRecorder
        cycleId_text := text_of_not_blank hid
        levels_ne_nil := hlevels
        levelIds_eq := not_not.mp hids
        entryPrices_sorted := not_not.mp hsorted
        desiredQuantity_pos := pos_of_not_nonpos hquantity
        ethusdt_linear := not_not.mp hlinear }

namespace MainnetShadow

/-! ## What is watched -/

/-- `_shadow_profile`. -/
def shadowProfile (profiles : List EnvironmentProfile) : Except Failure EnvironmentProfile :=
  match profiles.filter fun profile => profile.environment = .shadowMainnet with
  | [profile] => .ok profile
  | _ => .error (.runtimeError "expected exactly one SHADOW_MAINNET profile")

/-- The level with this number, of the ladder below a price. -/
def shadowLevel (tick referencePrice : ℚ) (index : ℕ) : HedgeLevel where
  levelId := index
  entryPrice := referencePrice - tick * index
  tpPrice := referencePrice - tick * index - 5
  stopPrice := (referencePrice - tick * index) * (10015 / 10000)
  optionBudget := 1 / 10 * 5

/-- `_shadow_levels`. -/
def shadowLevels (instrument : InstrumentSpec) (referencePrice : ℚ) :
    Except Failure (List HedgeLevel) :=
  let levels := (List.range' 1 20).map (shadowLevel instrument.priceFilter.tickSize referencePrice)
  if ∃ level ∈ levels, level.tpPrice ≤ 0 then
    .error (.runtimeError "shadow level geometry is invalid")
  else .ok levels

/-- `_shadow_service`. -/
def shadowService (profile : EnvironmentProfile) (instrument : InstrumentSpec)
    (levels : List HedgeLevel) : Except Failure ShadowModeService :=
  ShadowModeService.create "SHADOW-MAINNET" levels (1 / 10) true instrument profile.riskLimits false

/-- The age in seconds that a profile allows. -/
def maximumAge (profile : EnvironmentProfile) : ℚ := profile.maximumMarketDataAgeMs / 1000

theorem maximumAge_nonneg (profile : EnvironmentProfile) : 0 ≤ maximumAge profile := by
  have hchecked := profile.checked
  simp only [EnvironmentProfileFields.check, bind_unit_eq_ok, refuseIf_eq_ok] at hchecked
  obtain ⟨-, -, -, -, -, -, hage⟩ := hchecked
  unfold maximumAge
  have : (0 : ℚ) ≤ profile.maximumMarketDataAgeMs := by exact_mod_cast not_lt.mp hage
  positivity

/-- `_market_health`, at a time. -/
def marketHealth (profile : EnvironmentProfile) (optionQuoteTimestamps : List Time)
    (trade : TradeEvent) (asOf : Time) : MarketDataHealthResult :=
  evaluateMarketDataHealth
    { triggerTimestampUtc := some trade.timestampUtc
      instrumentLoaded := true
      websocketConnected := true
      optionQuoteTimestampsUtc := optionQuoteTimestamps
      orderBookSynchronized := false
      orderBookTimestampUtc := none
      clockSynchronized := true }
    { maxTriggerAgeSeconds := maximumAge profile
      maxOptionQuoteAgeSeconds := 10
      maxOrderBookAgeSeconds := maximumAge profile
      maxTriggerAgeSeconds_nonneg := maximumAge_nonneg profile
      maxOptionQuoteAgeSeconds_nonneg := by norm_num
      maxOrderBookAgeSeconds_nonneg := maximumAge_nonneg profile }
    asOf false

/-- `_risk_state`. -/
def riskState : RiskState where
  currentPerpQuantity := 0
  currentPerpNotional := 0
  postTradeMarginUsage := 5 / 100
  postTradeLiquidationDistance := 50 / 100
  confirmedRecoveryDebt := 0
  realizedCycleLoss := 0
  dailyRealizedLoss := 0
  entriesForLevel := 0
  activeLevels := 0
  orderRequestsLastMinute := 0
  consecutiveReconciliationFailures := 0
  marketDataFresh := true
  reconciliationSucceeded := true
  currentPerpQuantity_nonneg := zero_nonneg
  currentPerpNotional_nonneg := zero_nonneg
  postTradeMarginUsage_nonneg := by norm_num
  postTradeLiquidationDistance_nonneg := by norm_num
  confirmedRecoveryDebt_nonneg := zero_nonneg
  realizedCycleLoss_nonneg := zero_nonneg
  dailyRealizedLoss_nonneg := zero_nonneg

/-! ## The gate -/

/-- `health_by_event[…]`: of two observations with one time and generation, the later. -/
def healthByEvent (observations : List ShadowObservation) (intent : ShadowIntent) :
    Except Failure MarketDataHealthResult :=
  let found := observations.reverse.find? fun observation =>
    observation.event.observedTimestamp = intent.observedAtUtc ∧
      observation.event.connectionGeneration = intent.connectionGeneration
  match found with
  | some observation => .ok observation.marketHealth
  | none => .error (.keyError s!"({intent.observedAtUtc}, {intent.connectionGeneration})")

/-- `stale_approved`. -/
def staleApproved (observations : List ShadowObservation) : List ShadowIntent → Except Failure ℕ
  | [] => .ok 0
  | intent :: intents => do
    let stale ←
      if intent.riskApproved = true then do
        let health ← healthByEvent observations intent
        pure (!health.tradingAllowed)
      else pure false
    let rest ← staleApproved observations intents
    pure (stale.toNat + rest)

/-- `value % step != 0`. -/
def offGrid (value step : ℚ) : Bool := (value / step).den ≠ 1

/-- `_invalid_quantized_intent`. -/
def invalidQuantizedIntent (instrument : InstrumentSpec) (profile : EnvironmentProfile)
    (intent : ShadowIntent) : Bool :=
  intent.riskApproved &&
    match intent.quantizedQuantity with
    | none => true
    | some quantity =>
      offGrid quantity instrument.lotSizeFilter.qtyStep ||
        decide (profile.riskLimits.maximumPerpQuantity < quantity) ||
        intent.hypotheticalEntryPrice.isNone || intent.hypotheticalTakeProfitPrice.isNone ||
        intent.hypotheticalStopPrice.isNone || intent.projectedStopLoss.isNone

/-- `contradictory`. -/
def contradictory (intents : List ShadowIntent) : Bool :=
  let sequences := intents.map fun intent => intent.sequence
  let levels := (intents.map fun intent => intent.levelId).toFinset
  sequences ≠ List.range' 1 sequences.length || levels.card ≠ intents.length

section Run

variable {Text : Type} (c : LineConversions Text) (sha256 : Text → String)

/-- `_acceptance_metrics`. -/
def acceptanceMetrics (live : ShadowRunResult) (replayed : List ShadowIntent)
    (observations : List ShadowObservation) (instrument : InstrumentSpec)
    (profile : EnvironmentProfile) (optionExpiry asOf : Time) :
    Except Failure ShadowAcceptanceMetrics := do
  let stale ← staleApproved observations live.intents
  ShadowAcceptanceMetrics.create
    { recordedIntents := live.intents.length
      reproducedIntents := replayed.length
      contradictoryTransitions := (contradictory live.intents).toNat
      staleDataApprovedIntents := stale
      invalidQuantizedIntents := live.intents.countP (invalidQuantizedIntent instrument profile)
      nondeterministicRiskDecisions :=
        (decide (replayed ≠ live.intents) ||
          decide (digestShadowIntents c sha256 replayed ≠ live.decisionDigest)).toNat
      expiryCutoffViolations := (!decide (OptionPairs.InWindow asOf optionExpiry)).toNat }

/-! ## The run -/

/-- What an attempt is told by the exchange: the instrument, the bids of its book, the options, and
    the trades, each with the time at which its health is judged; and whether the time is up before
    the run over them has ended. -/
structure Attempt where
  instrument : InstrumentSpec
  bids : List BookLevel
  optionInstruments : List ListedInstrument
  optionQuotes : List OptionMarketQuote
  asOf : Time
  trades : List (TradeEvent × Time)
  timedOut : Bool

/-- The result. Left out are the path and the hash of the capture. -/
structure Report where
  attempt : ℕ
  observationCount : ℕ
  recordedIntents : ℕ
  reproducedIntents : ℕ
  decisionDigest : String
  replayDigest : String
  approvedIntents : ℕ
  optionLongSymbol : String
  optionShortSymbol : String
  optionExpiryUtc : Time
  levelEntryPrices : List ℚ
  contradictoryTransitions : ℕ
  staleDataApprovedIntents : ℕ
  invalidQuantizedIntents : ℕ
  nondeterministicRiskDecisions : ℕ
  expiryCutoffViolations : ℕ
  deriving DecidableEq

/-- `book.bids[0][0]`. -/
def bestBid : List BookLevel → Except Failure ℚ
  | [] => .error .indexError
  | bid :: _ => .ok bid.1

/-- The trades of an attempt, with what the providers say of them. -/
def Attempt.heard (attempt : Attempt) (profile : EnvironmentProfile)
    (pair : OptionPairs.Candidate) : List HeardTrade :=
  attempt.trades.map fun heard =>
    { trade := heard.1
      health := marketHealth profile
        [pair.longQuote.timestampUtc, pair.shortQuote.timestampUtc] heard.1 heard.2
      riskState }

variable (decimal : String → Option ℚ) (profile : EnvironmentProfile)

/-- The run of an attempt: the pair, the ladder, and the capture with what came of it, unless the
    time is up. The capture is a file of its own, named by the time and the attempt. -/
def Attempt.watch (attempt : Attempt) : Except Failure
    (Option (OptionPairs.Candidate × List HedgeLevel × List Text × ShadowRunResult)) := do
  let pair ← OptionPairs.selectDemoOptionPair decimal attempt.optionInstruments attempt.asOf
    profile.riskLimits.maximumRealizedCycleLoss attempt.optionQuotes
  let referencePrice ← bestBid attempt.bids
  let levels ← shadowLevels attempt.instrument referencePrice
  let service ← shadowService profile attempt.instrument levels
  let (capture, live) := ShadowRunner.run c sha256 service 200000 (some 1)
    (attempt.heard profile pair)
  if attempt.timedOut then pure none
  else do
    let live ← live
    pure (some (pair, levels, capture, live))

/-- The capture is loaded, replayed and judged. -/
def Attempt.judge (attempt : Attempt) (pair : OptionPairs.Candidate) (levels : List HedgeLevel)
    (capture : List Text) (live : ShadowRunResult) :
    Except Failure (List ShadowIntent × Time × ShadowAcceptanceMetrics) := do
  let observations ← loadShadowObservations c capture
  let service ← shadowService profile attempt.instrument levels
  let replayed ← service.replayShadowObservations {} observations
  match pair.shortInstrument.deliveryTimeUtc with
  | none => throw (.runtimeError "shadow option pair has no common expiry")
  | some expiry =>
    if pair.longInstrument.deliveryTimeUtc ≠ some expiry then
      throw (.runtimeError "shadow option pair has no common expiry")
    else do
      let metrics ← acceptanceMetrics c sha256 live replayed observations attempt.instrument profile
        expiry attempt.asOf
      let acceptance := evaluateShadowAcceptance metrics
      if acceptance.accepted = false then
        throw (.runtimeError
          ("mainnet shadow acceptance failed: " ++ "; ".intercalate acceptance.reasons))
      else pure (replayed, expiry, metrics)

/-- `not live.intents or not any(intent.risk_approved for intent in live.intents)`. -/
def nothingApproved (live : ShadowRunResult) : Bool :=
  live.intents.isEmpty || !live.intents.any fun intent => intent.riskApproved

/-- One attempt; nothing, if it goes on to the next. -/
def Attempt.run (attempt : Attempt) (number : ℕ) : Except Failure (Option Report) := do
  match ← attempt.watch c sha256 decimal profile with
  | none => pure none
  | some (pair, levels, capture, live) =>
    if nothingApproved live then pure none
    else do
      let (replayed, expiry, metrics) ← attempt.judge c sha256 profile pair levels capture live
      pure (some
        { attempt := number
          observationCount := live.observationCount
          recordedIntents := metrics.recordedIntents
          reproducedIntents := metrics.reproducedIntents
          decisionDigest := live.decisionDigest
          replayDigest := digestShadowIntents c sha256 replayed
          approvedIntents := live.intents.countP fun intent => intent.riskApproved
          optionLongSymbol := pair.longQuote.symbol
          optionShortSymbol := pair.shortQuote.symbol
          optionExpiryUtc := expiry
          levelEntryPrices := levels.map HedgeLevel.entryPrice
          contradictoryTransitions := metrics.contradictoryTransitions
          staleDataApprovedIntents := metrics.staleDataApprovedIntents
          invalidQuantizedIntents := metrics.invalidQuantizedIntents
          nondeterministicRiskDecisions := metrics.nondeterministicRiskDecisions
          expiryCutoffViolations := metrics.expiryCutoffViolations })

/-- The loop over the attempts, from the one with this number on. What the exchange is asked for an
    attempt may fail. -/
def attemptsFrom (run : Attempt → ℕ → Except Failure (Option Report))
    (fetch : ℕ → Except Failure Attempt) : ℕ → ℕ → Except Failure Report
  | _, 0 => .error (.timeoutError "mainnet shadow produced no approved crossing intent")
  | number, remaining + 1 => do
    let attempt ← fetch number
    match ← run attempt number with
    | some report => pure report
    | none => attemptsFrom run fetch (number + 1) remaining

end Run

/-- `run_mainnet_shadow`. -/
def runMainnetShadow {Text : Type} (c : LineConversions Text) (sha256 : Text → String)
    (decimal : String → Option ℚ) (profiles : List EnvironmentProfile)
    (fetch : ℕ → Except Failure Attempt) (attemptSeconds maximumAttempts : ℤ) :
    Except Failure Report := do
  refuseIf (attemptSeconds ≤ 0 ∨ maximumAttempts ≤ 0) "shadow attempt limits must be positive"
  let profile ← shadowProfile profiles
  if profile.externalOrderMutationsEnabled = true then
    throw (.runtimeError "mainnet shadow profile permits mutations")
  else if profile.restBaseUrl ≠ some "https://api.bybit.com" then
    throw (.runtimeError "mainnet shadow profile is not mainnet-bound")
  else
    attemptsFrom (fun attempt number => attempt.run c sha256 decimal profile number) fetch 1
      maximumAttempts.toNat

/-! ## What a call decides -/

/-- An intent is of an event, and if it is approved it is for no more than the limit, on the grid
    of the instrument. -/
structure IsOf (s : ShadowModeService) (event : TriggerPriceEvent) (intent : ShadowIntent) :
    Prop where
  observedAtUtc_eq : intent.observedAtUtc = event.observedTimestamp
  generation_eq : intent.connectionGeneration = event.connectionGeneration
  quantity_eq : intent.quantizedQuantity =
    some (floorToStep s.desiredQuantity s.instrument.lotSizeFilter.qtyStep)
  quantity_le : intent.riskApproved = true →
    floorToStep s.desiredQuantity s.instrument.lotSizeFilter.qtyStep ≤
      s.riskLimits.maximumPerpQuantity
  entry_isSome : intent.hypotheticalEntryPrice.isSome
  takeProfit_isSome : intent.hypotheticalTakeProfitPrice.isSome
  stop_isSome : intent.hypotheticalStopPrice.isSome
  loss_isSome : intent.projectedStopLoss.isSome

/-- What the engine approves is within the limit. -/
theorem quantity_le_of_approved {proposal : TradeProposal} {state : RiskState} {limits : RiskLimits}
    (h : (RiskEngine.evaluate proposal state limits).approved = true) :
    proposal.quantity ≤ limits.maximumPerpQuantity := by
  have hnone := RiskEngine.approved_iff.mp h
  simp only [RiskEngine.reasons, List.append_eq_nil_iff, reportIf_eq_nil, not_lt, and_assoc] at hnone
  have hstate := state.currentPerpQuantity_nonneg
  linarith [hnone.1]

theorem quantity_le_of_gate {s : ShadowModeService} {reasons : List String}
    {quantized : QuantizedRiskResult} {riskState : RiskState} {decision : Bool × List String}
    (herrors : quantized.accepted = true ↔ quantized.errors = [])
    (h : s.gateDecision reasons quantized riskState = .ok decision) (happroved : decision.1 = true) :
    quantized.quantity ≤ s.riskLimits.maximumPerpQuantity := by
  have hgate := gateDecision_eq_ok herrors h
  split at hgate
  · obtain ⟨proposal, hcreate, hdecided⟩ := hgate
    rw [← (TradeProposal.of_create hcreate).1]
    exact quantity_le_of_approved (hdecided.symm.trans happroved)
  · rw [hgate] at happroved
    cases happroved

theorem evaluate_isOf {s : ShadowModeService} {level : HedgeLevel} {event : TriggerPriceEvent}
    {riskState : RiskState} {sequence : ℕ} {intent : ShadowIntent}
    (h : s.evaluate level event riskState sequence = .ok intent) :
    IsOf s event intent ∧ intent.sequence = sequence ∧ intent.levelId = level.levelId := by
  simp only [ShadowModeService.evaluate, bind_eq_ok] at h
  obtain ⟨quantized, hquantized, decision, hdecision, hintent⟩ := h
  have hfields := ShadowIntent.create_eq_ok.mp hintent
  obtain ⟨-, hquantity, -, herrors⟩ := recalculateQuantizedRisk_ok hquantized
  rw [normalizedQuantity_eq] at hquantity
  have hmaximum := quantity_le_of_gate herrors hdecision
  rw [hquantity] at hmaximum
  obtain ⟨fields, hchecked⟩ := intent
  obtain rfl : fields = _ := hfields
  exact ⟨⟨rfl, rfl, congrArg some hquantity, hmaximum, rfl, rfl, rfl, rfl⟩, rfl, rfl⟩

/-- What a call decides goes on with the numbers, of levels that it goes through in their order. -/
structure Numbers (s : ShadowModeService) (event : TriggerPriceEvent) (state : ShadowState)
    (intents : List ShadowIntent) (state' : ShadowState) : Prop where
  isOf : ∀ intent ∈ intents, IsOf s event intent
  numbered : intents.map (fun intent => intent.sequence) =
    List.range' (state.sequence + 1) intents.length
  sequence_eq : state'.sequence = state.sequence + intents.length

theorem Numbers.nil {s : ShadowModeService} {event : TriggerPriceEvent} {state state' : ShadowState}
    (h : state'.sequence = state.sequence) : Numbers s event state [] state' :=
  ⟨fun _ hmem => absurd hmem List.not_mem_nil, rfl, h⟩

theorem Numbers.cons {s : ShadowModeService} {event : TriggerPriceEvent} {intent : ShadowIntent}
    {intents : List ShadowIntent} {state noted state' : ShadowState} (hof : IsOf s event intent)
    (hsequence : intent.sequence = state.sequence + 1)
    (hnoted : noted.sequence = state.sequence + 1) (h : Numbers s event noted intents state') :
    Numbers s event state (intent :: intents) state' := by
  refine ⟨?_, ?_, ?_⟩
  · rw [List.forall_mem_cons]
    exact ⟨hof, h.isOf⟩
  · rw [List.map_cons, h.numbered, hnoted, hsequence, List.length_cons, List.range'_succ]
  · rw [h.sequence_eq, hnoted, List.length_cons]
    omega

theorem visit_numbers {s : ShadowModeService} {event : TriggerPriceEvent} {levels : List HedgeLevel}
    {riskState : RiskState} {intents : List ShadowIntent} {state state' : ShadowState}
    {result : ShadowTriggerResult}
    (h : s.visit event levels riskState intents state = .ok (result, state')) :
    ∃ decided, result.intents = intents ++ decided ∧
      decided.map (fun intent => intent.levelId) = levels.map HedgeLevel.levelId ∧
      Numbers s event state decided state' := by
  induction levels generalizing riskState intents state with
  | nil =>
    obtain ⟨rfl, rfl⟩ := Prod.mk.inj (Except.ok.inj h)
    exact ⟨[], (List.append_nil _).symm, rfl, .nil rfl⟩
  | cons level rest ih =>
    simp only [ShadowModeService.visit, bind_eq_ok] at h
    obtain ⟨intent, hintent, h⟩ := h
    obtain ⟨hof, hsequence, hlevel⟩ := evaluate_isOf hintent
    have hrest : ∃ riskState noted, noted.sequence = state.sequence + 1 ∧
        s.visit event rest riskState (intents ++ [intent]) noted = .ok (result, state') := by
      split_ifs at h
      · split at h
        · obtain ⟨charged, -, h⟩ := bind_eq_ok.mp h
          exact ⟨charged, _, rfl, h⟩
        · cases h
      · exact ⟨riskState, _, rfl, h⟩
    obtain ⟨riskState', noted, hnoted, hrest⟩ := hrest
    obtain ⟨decided, hresult, hlevels, hnumbers⟩ := ih hrest
    refine ⟨intent :: decided, ?_, ?_, hnumbers.cons hof hsequence hnoted⟩
    · rw [hresult, List.append_assoc]
      rfl
    · rw [List.map_cons, List.map_cons, hlevel, hlevels]

/-- One call: whatever it decides, the market was fit for it, and no level is decided twice. -/
theorem onTrigger_numbers {s : ShadowModeService} {observation : ShadowObservation}
    {state state' : ShadowState} {result : ShadowTriggerResult}
    (h : s.onTrigger observation state = .ok (result, state')) :
    Numbers s observation.event state result.intents state' ∧
      (result.intents.map fun intent => intent.levelId).Nodup ∧
      (result.intents ≠ [] → observation.marketHealth.tradingAllowed = true) := by
  have hnothing : ∀ {told : ShadowTriggerResult} {after : ShadowState},
      (.ok (told, after) : Except Failure (ShadowTriggerResult × ShadowState)) =
        .ok (result, state') → told.intents = [] → after.sequence = state.sequence →
      Numbers s observation.event state result.intents state' ∧
        (result.intents.map fun intent => intent.levelId).Nodup ∧
        (result.intents ≠ [] → observation.marketHealth.tradingAllowed = true) := by
    intro told after heq hnone hafter
    obtain ⟨rfl, rfl⟩ := Prod.mk.inj (Except.ok.inj heq)
    rw [hnone]
    exact ⟨.nil hafter, List.nodup_nil, fun hsome => absurd rfl hsome⟩
  unfold ShadowModeService.onTrigger at h
  dsimp only at h
  split_ifs at h with _ _ hallowed
  · exact hnothing h rfl rfl
  · exact hnothing h rfl rfl
  · exact hnothing h rfl rfl
  · split at h
    · exact hnothing h rfl rfl
    · split_ifs at h
      · exact hnothing h rfl rfl
      · exact hnothing h rfl rfl
      · unfold ShadowModeService.inSegment at h
        split at h
        · cases h
        · rename_i previous hprevious
          obtain ⟨decided, hresult, hlevels, hnumbers⟩ := visit_numbers h
          rw [List.nil_append] at hresult
          rw [hresult]
          refine ⟨⟨hnumbers.isOf, hnumbers.numbered, hnumbers.sequence_eq⟩, ?_,
            fun _ => Bool.not_eq_false _ ▸ hallowed⟩
          -- the crossed levels are some of the ladder, which has each number once
          have hnodup : (s.levels.map HedgeLevel.levelId).Nodup :=
            s.levelIds_eq ▸ List.nodup_range'
          rw [hlevels]
          exact hnodup.sublist (List.filter_sublist.map _)

/-- As long as nothing is decided, no number is used up. -/
theorem feed_nil_sequence {s : ShadowModeService} {observations : List ShadowObservation}
    {state state' : ShadowState} (h : s.feed state observations = .ok ([], state')) :
    state'.sequence = state.sequence := by
  induction observations generalizing state with
  | nil =>
    obtain ⟨-, rfl⟩ := Prod.mk.inj (Except.ok.inj h)
    rfl
  | cons observation observations ih =>
    simp only [ShadowModeService.feed, bind_eq_ok] at h
    obtain ⟨⟨result, told⟩, htold, ⟨later, final⟩, hlater, hpure⟩ := h
    obtain ⟨hnone, rfl⟩ := Prod.mk.inj (Except.ok.inj hpure)
    obtain ⟨hresult, rfl⟩ := List.append_eq_nil_iff.mp hnone
    have hnumbers := (onTrigger_numbers htold).1.sequence_eq
    rw [ih hlater, hnumbers, hresult]
    rfl

/-! ## The capture of an attempt -/

section Capture

variable {Text : Type} {c : LineConversions Text} {s : ShadowModeService}

/-- A run that has stopped at its first intents: the last observation of its capture is the one
    they are of. -/
structure StoppedAt (c : LineConversions Text) (s : ShadowModeService) (file : List Text)
    (intents : List ShadowIntent) (observations : List ShadowObservation)
    (observation : ShadowObservation) : Prop where
  loaded : loadShadowObservations c file = .ok (observations ++ [observation])
  replayed : s.replayShadowObservations {} (observations ++ [observation]) = .ok intents
  isOf : ∀ intent ∈ intents, IsOf s observation.event intent
  numbered : intents.map (fun intent => intent.sequence) = List.range' 1 intents.length
  levels_nodup : (intents.map fun intent => intent.levelId).Nodup
  tradingAllowed : observation.marketHealth.tradingAllowed = true

/-- Until the first intents there are none, so they are all of one call. -/
theorem follow_stoppedAt {maximumEvents : ℕ} {trades : List HeardTrade}
    {progress final : ShadowRunner.Progress Text} {file : List Text}
    {observations : List ShadowObservation}
    (h : ShadowRunner.Captured c s progress observations) (hnone : progress.intents = [])
    (hrun : ShadowRunner.follow c s maximumEvents (some 1) trades progress = (file, .ok final))
    (hsome : final.intents ≠ []) :
    ∃ told observation, StoppedAt c s file final.intents told observation := by
  induction trades generalizing progress observations with
  | nil =>
    obtain ⟨-, hfinal⟩ := Prod.mk.inj hrun
    obtain rfl := Except.ok.inj hfinal
    exact absurd hnone hsome
  | cons heard trades ih =>
    unfold ShadowRunner.follow at hrun
    dsimp only at hrun
    split at hrun
    · cases (Prod.mk.inj hrun).2
    · rename_i result state htold
      have hnext : ShadowRunner.Captured c s
          { state
            file := JsonLinesShadowObservationRecorder.append c progress.file heard.observation
            intents := progress.intents ++ result.intents
            observationCount := progress.observationCount + 1 }
          (observations ++ [heard.observation]) := by
        refine ⟨loadShadowObservations_append h.loaded heard.observation,
          s.feed_append h.fed htold, ?_⟩
        rw [List.length_append, h.counted]
        rfl
      split at hrun
      · obtain ⟨rfl, hfinal⟩ := Prod.mk.inj hrun
        obtain rfl := Except.ok.inj hfinal
        have hfed : s.feed {} observations = .ok ([], progress.state) := hnone ▸ h.fed
        obtain ⟨hnumbers, hnodup, hallowed⟩ := onTrigger_numbers htold
        have hfirst : progress.intents ++ result.intents = result.intents := by
          rw [hnone, List.nil_append]
        dsimp only at hsome ⊢
        rw [hfirst] at hsome ⊢
        refine ⟨observations, heard.observation, hnext.loaded, ?_, hnumbers.isOf, ?_, hnodup,
          hallowed hsome⟩
        · rw [s.replay_eq_feed, hnext.fed]
          exact congrArg Except.ok hfirst
        · rw [hnumbers.numbered, feed_nil_sequence hfed]
      · rename_i hgoes
        refine ih hnext ?_ hrun
        by_contra hsome'
        apply hgoes
        simp only [ShadowRunner.done, Option.any_some, Bool.or_eq_true, decide_eq_true_eq]
        exact .inr (List.length_pos_iff.mpr hsome')

end Capture

/-! ## The gate stays open -/

theorem offGrid_floorToStep {value step : ℚ} (hstep : 0 < step) :
    offGrid (floorToStep value step) step = false := by
  unfold offGrid floorToStep
  rw [mul_div_cancel_right₀ _ hstep.ne']
  simp

theorem IsOf.valid {s : ShadowModeService} {event : TriggerPriceEvent} {intent : ShadowIntent}
    {profile : EnvironmentProfile} (h : IsOf s event intent)
    (hlimits : s.riskLimits = profile.riskLimits) :
    invalidQuantizedIntent s.instrument profile intent = false := by
  unfold invalidQuantizedIntent
  cases happroved : intent.riskApproved with
  | false => rfl
  | true =>
    have hmaximum := h.quantity_le happroved
    rw [hlimits] at hmaximum
    simp only [h.quantity_eq, Bool.true_and, Bool.or_eq_false_iff, decide_eq_false_iff_not, not_lt,
      Option.isNone_eq_false_iff]
    exact ⟨⟨⟨⟨⟨offGrid_floorToStep s.instrument.lotSizeFilter.qtyStep_pos, hmaximum⟩,
      h.entry_isSome⟩, h.takeProfit_isSome⟩, h.stop_isSome⟩, h.loss_isSome⟩

/-- The intents of the last observation are looked up by its time, and found to be fresh. -/
theorem staleApproved_eq_ok {s : ShadowModeService} {observations : List ShadowObservation}
    {observation : ShadowObservation} {intents : List ShadowIntent}
    (hallowed : observation.marketHealth.tradingAllowed = true)
    (h : ∀ intent ∈ intents, IsOf s observation.event intent) :
    staleApproved (observations ++ [observation]) intents = .ok 0 := by
  induction intents with
  | nil => rfl
  | cons intent intents ih =>
    obtain ⟨hof, hrest⟩ := List.forall_mem_cons.mp h
    have hhealth : healthByEvent (observations ++ [observation]) intent =
        .ok observation.marketHealth := by
      unfold healthByEvent
      rw [List.reverse_concat, List.find?_cons_of_pos
        (by simp [hof.observedAtUtc_eq, hof.generation_eq])]
    unfold staleApproved
    rw [hhealth, ih hrest]
    cases intent.riskApproved with
    | false => rfl
    | true =>
      simp only [if_true, ok_bind, hallowed]
      rfl

section Run

variable {Text : Type} (c : LineConversions Text) (sha256 : Text → String)
  (decimal : String → Option ℚ) (profile : EnvironmentProfile)

/-- An attempt whose capture is not read back, and which is not judged. -/
def Attempt.ungated (attempt : Attempt) (number : ℕ) : Except Failure (Option Report) := do
  match ← attempt.watch c sha256 decimal profile with
  | none => pure none
  | some (pair, levels, _, live) =>
    if nothingApproved live then pure none
    else
      pure (some
        { attempt := number
          observationCount := live.observationCount
          recordedIntents := live.intents.length
          reproducedIntents := live.intents.length
          decisionDigest := live.decisionDigest
          replayDigest := live.decisionDigest
          approvedIntents := live.intents.countP fun intent => intent.riskApproved
          optionLongSymbol := pair.longQuote.symbol
          optionShortSymbol := pair.shortQuote.symbol
          optionExpiryUtc := (ofLex pair.rank).1
          levelEntryPrices := levels.map HedgeLevel.entryPrice
          contradictoryTransitions := 0
          staleDataApprovedIntents := 0
          invalidQuantizedIntents := 0
          nondeterministicRiskDecisions := 0
          expiryCutoffViolations := 0 })

variable {c sha256 decimal profile}

theorem rank_expiry {instruments : List ListedInstrument} {asOf : Time} {maximumLoss : ℚ}
    {quotes : List OptionMarketQuote} {pair : OptionPairs.Candidate}
    (h : pair.Tradable decimal instruments asOf maximumLoss quotes) :
    pair.shortInstrument.deliveryTimeUtc = some (ofLex pair.rank).1 ∧
      pair.longInstrument.deliveryTimeUtc = some (ofLex pair.rank).1 ∧
      OptionPairs.InWindow asOf (ofLex pair.rank).1 := by
  obtain ⟨expiry, hshort, hlong, hwindow⟩ := h.bounded.expiry
  obtain ⟨bidPrice, askPrice, shortStrike, -, -, -, hspread⟩ := h.spread_eq
  have hrank : (ofLex pair.rank).1 = expiry := by
    simp only [OptionPairs.spread, bind_eq_ok] at hspread
    obtain ⟨longStrike, -, hspread⟩ := hspread
    split at hspread
    · cases hspread
    · split at hspread
      · cases hspread
      · obtain ⟨delivery, hdelivery, hmade⟩ := bind_eq_ok.mp hspread
        simp only [OptionPairs.requiredDelivery, hshort] at hdelivery
        obtain rfl := Except.ok.inj hdelivery
        rw [← Option.some.inj (Except.ok.inj hmade)]
        rfl
  rw [hrank]
  exact ⟨hshort, hlong, hwindow⟩

theorem watch_eq_ok {attempt : Attempt} {pair : OptionPairs.Candidate} {levels : List HedgeLevel}
    {capture : List Text} {live : ShadowRunResult}
    (h : attempt.watch c sha256 decimal profile = .ok (some (pair, levels, capture, live))) :
    pair.Tradable decimal attempt.optionInstruments attempt.asOf
        profile.riskLimits.maximumRealizedCycleLoss attempt.optionQuotes ∧
      ∃ service, shadowService profile attempt.instrument levels = .ok service ∧
        ShadowRunner.run c sha256 service 200000 (some 1) (attempt.heard profile pair) =
          (capture, .ok live) := by
  simp only [Attempt.watch, bind_eq_ok] at h
  obtain ⟨pair', hpair, referencePrice, -, levels', -, service, hservice, h⟩ := h
  split at h
  · cases h
  obtain ⟨live', hlive, hpure⟩ := bind_eq_ok.mp h
  cases Except.ok.inj hpure
  exact ⟨(OptionPairs.selectDemoOptionPair_eq_ok hpair).1, service, hservice, Prod.ext rfl hlive⟩

/-- What a run that has decided something leaves behind. -/
theorem run_stoppedAt {service : ShadowModeService} {maximumEvents : ℕ} {trades : List HeardTrade}
    {capture : List Text} {live : ShadowRunResult}
    (h : ShadowRunner.run c sha256 service maximumEvents (some 1) trades = (capture, .ok live))
    (hsome : live.intents ≠ []) :
    live.decisionDigest = digestShadowIntents c sha256 live.intents ∧
      ∃ told observation, StoppedAt c service capture live.intents told observation := by
  unfold ShadowRunner.run at h
  split_ifs at h
  · cases (Prod.mk.inj h).2
  · cases (Prod.mk.inj h).2
  · obtain ⟨hfile, houtcome⟩ := Prod.mk.inj h
    cases hfollow : (ShadowRunner.follow c service maximumEvents (some 1) trades {}).2 with
    | error failure =>
      rw [hfollow] at houtcome
      cases houtcome
    | ok final =>
      rw [hfollow] at houtcome
      obtain rfl := Except.ok.inj houtcome
      have hstart : ShadowRunner.Captured c service {} [] := ⟨rfl, rfl, rfl⟩
      exact ⟨rfl, follow_stoppedAt hstart rfl (Prod.ext hfile hfollow) hsome⟩

theorem service_eq {instrument : InstrumentSpec} {levels : List HedgeLevel}
    {service : ShadowModeService} (h : shadowService profile instrument levels = .ok service) :
    service.instrument = instrument ∧ service.riskLimits = profile.riskLimits := by
  unfold shadowService ShadowModeService.create at h
  split_ifs at h
  obtain rfl := Except.ok.inj h
  exact ⟨rfl, rfl⟩

theorem contradictory_eq_false {file : List Text} {service : ShadowModeService}
    {intents : List ShadowIntent} {told : List ShadowObservation} {observation : ShadowObservation}
    (h : StoppedAt c service file intents told observation) : contradictory intents = false := by
  unfold contradictory
  simp only [h.numbered, List.length_range', List.toFinset_card_of_nodup h.levels_nodup,
    List.length_map, ne_eq, not_true_eq_false, decide_false, Bool.or_self]

/-- The metrics of a run that has nothing wrong with it. -/
def faultless (recordedIntents : ℕ) : ShadowAcceptanceMetricsFields where
  recordedIntents
  reproducedIntents := recordedIntents
  contradictoryTransitions := 0
  staleDataApprovedIntents := 0
  invalidQuantizedIntents := 0
  nondeterministicRiskDecisions := 0
  expiryCutoffViolations := 0

theorem exists_faultless {recordedIntents : ℕ} (h : recordedIntents ≠ 0) :
    ∃ metrics, ShadowAcceptanceMetrics.create (faultless recordedIntents) = .ok metrics ∧
      metrics.toShadowAcceptanceMetricsFields = faultless recordedIntents ∧
      (evaluateShadowAcceptance metrics).accepted = true := by
  have hchecked : (faultless recordedIntents).check = .ok () := by
    simp [ShadowAcceptanceMetricsFields.check, faultless, bind_unit_eq_ok, h]
  refine ⟨⟨_, hchecked⟩, build_eq_ok.mpr ⟨hchecked, rfl⟩, rfl, ?_⟩
  simp [evaluateShadowAcceptance, AcceptanceReport.ofReasons, faultless, reportIf]

/-- **What is replayed is accepted.** -/
theorem judge_eq_ok {attempt : Attempt} {pair : OptionPairs.Candidate} {levels : List HedgeLevel}
    {capture : List Text} {live : ShadowRunResult}
    (h : attempt.watch c sha256 decimal profile = .ok (some (pair, levels, capture, live)))
    (hsome : live.intents ≠ []) :
    live.decisionDigest = digestShadowIntents c sha256 live.intents ∧
      ∃ metrics, metrics.toShadowAcceptanceMetricsFields = faultless live.intents.length ∧
        attempt.judge c sha256 profile pair levels capture live =
          .ok (live.intents, (ofLex pair.rank).1, metrics) := by
  obtain ⟨htradable, service, hservice, hrun⟩ := watch_eq_ok h
  obtain ⟨hdigest, told, observation, hstopped⟩ := run_stoppedAt hrun hsome
  obtain ⟨hshort, hlong, hwindow⟩ := rank_expiry htradable
  obtain ⟨hinstrument, hlimits⟩ := service_eq hservice
  have hvalid : live.intents.countP (invalidQuantizedIntent attempt.instrument profile) = 0 := by
    rw [List.countP_eq_zero]
    intro intent hmem
    rw [← hinstrument, (hstopped.isOf intent hmem).valid hlimits]
    exact Bool.false_ne_true
  have hstale : staleApproved (told ++ [observation]) live.intents = .ok 0 :=
    staleApproved_eq_ok hstopped.tradingAllowed hstopped.isOf
  have hcounted : live.intents.length ≠ 0 := by
    rwa [ne_eq, List.length_eq_zero_iff]
  obtain ⟨metrics, hcreated, hfields, haccepted⟩ := exists_faultless hcounted
  have hmetrics : acceptanceMetrics c sha256 live live.intents (told ++ [observation])
      attempt.instrument profile (ofLex pair.rank).1 attempt.asOf = .ok metrics := by
    rw [← hcreated]
    simp only [acceptanceMetrics, hstale, ok_bind, contradictory_eq_false hstopped, hvalid, hdigest,
      hwindow, ne_eq, not_true_eq_false, decide_false, decide_true, Bool.or_self, Bool.not_true,
      Bool.toNat_false]
    rfl
  refine ⟨hdigest, metrics, hfields, ?_⟩
  simp only [Attempt.judge, hstopped.loaded, hservice, hstopped.replayed, ok_bind, hshort, hlong,
    hmetrics, haccepted, ne_eq, not_true_eq_false, if_false, Bool.true_eq_false]
  rfl

theorem Attempt.run_eq_ungated (attempt : Attempt) (number : ℕ) :
    attempt.run c sha256 decimal profile number =
      attempt.ungated c sha256 decimal profile number := by
  unfold Attempt.run Attempt.ungated
  cases hwatch : attempt.watch c sha256 decimal profile with
  | error failure => rfl
  | ok watched =>
    cases watched with
    | none => rfl
    | some watched =>
      obtain ⟨pair, levels, capture, live⟩ := watched
      simp only [ok_bind]
      cases hnothing : nothingApproved live with
      | true => rfl
      | false =>
        have hsome : live.intents ≠ [] := by
          intro hnone
          rw [nothingApproved, hnone] at hnothing
          cases hnothing
        obtain ⟨hdigest, metrics, hfields, hjudge⟩ := judge_eq_ok hwatch hsome
        simp only [hjudge, ok_bind, hfields, ← hdigest, faultless]

end Run

/-- `run_mainnet_shadow` with no gate in it: the profile is not looked at, no capture is read back,
    and no run is judged. -/
def ungatedMainnetShadow {Text : Type} (c : LineConversions Text) (sha256 : Text → String)
    (decimal : String → Option ℚ) (profiles : List EnvironmentProfile)
    (fetch : ℕ → Except Failure Attempt) (attemptSeconds maximumAttempts : ℤ) :
    Except Failure Report := do
  refuseIf (attemptSeconds ≤ 0 ∨ maximumAttempts ≤ 0) "shadow attempt limits must be positive"
  let profile ← shadowProfile profiles
  attemptsFrom (fun attempt number => attempt.ungated c sha256 decimal profile number) fetch 1
    maximumAttempts.toNat

theorem shadowProfile_eq_ok {profiles : List EnvironmentProfile} {profile : EnvironmentProfile}
    (h : shadowProfile profiles = .ok profile) : profile.environment = .shadowMainnet := by
  unfold shadowProfile at h
  split at h
  · rename_i profile' hfilter
    obtain rfl := Except.ok.inj h
    have hmem : profile' ∈ profiles.filter fun profile => profile.environment = .shadowMainnet := by
      rw [hfilter]
      exact List.mem_singleton_self _
    exact of_decide_eq_true (List.mem_filter.mp hmem).2
  · cases h

end MainnetShadow

open MainnetShadow in
/-- **No gate of a mainnet shadow run ever closes**: whatever the exchange tells it, the capture is
    read back and replayed to what was decided, no intent is stale, off the grid or too large, and
    none contradicts another. What the run reports or raises is what it would without its gates. -/
theorem mainnet_shadow_accepts {Text : Type} (c : LineConversions Text) (sha256 : Text → String)
    (decimal : String → Option ℚ) (profiles : List EnvironmentProfile)
    (fetch : ℕ → Except Failure MainnetShadow.Attempt) (attemptSeconds maximumAttempts : ℤ) :
    runMainnetShadow c sha256 decimal profiles fetch attemptSeconds maximumAttempts =
      ungatedMainnetShadow c sha256 decimal profiles fetch attemptSeconds maximumAttempts := by
  unfold runMainnetShadow ungatedMainnetShadow
  congr 1
  funext _
  cases hprofile : shadowProfile profiles with
  | error failure => rfl
  | ok profile =>
    obtain ⟨hmutations, hrest⟩ := profile.watches (shadowProfile_eq_ok hprofile)
    simp only [ok_bind, hmutations, Bool.false_eq_true, if_false, hrest, ne_eq, not_true_eq_false,
      Attempt.run_eq_ungated]

end CreditHedge
