import CreditHedge.Application.ShadowPrediction
import CreditHedge.Domain.MarketEvents
import CreditHedge.Infrastructure.ShadowRecording

/-!
# The shadow runner and its replay

`ShadowRunner` of `interfaces/shadow_runner.py`: trades come in, each is made an observation,
recorded, and then told to the shadow service. What the run decided is its intents, and a digest of
theirs. The capture of a run, read and replayed through a fresh service, decides the same
(`shadowCapture_replays`), also where the fresh service writes its intents down and the first did
not, or the other way round: nothing a service decides looks at its recorder
(`onTrigger_recorder`).

SHA-256 is a parameter, of which nothing is assumed. The providers of the health result and of the
risk state are what they say of each trade. A decimal is its value here as elsewhere; the exponent
that its text shows too goes into a file and out of it as the value does.
-/

set_option autoImplicit false

namespace CreditHedge

variable {Text : Type} (c : LineConversions Text) (sha256 : Text → String)

/-! ## Digests -/

namespace ShadowIntent

/-- `to_dict`. -/
def toDict (intent : ShadowIntent) : List (String × PlainValue) :=
  let decimal : Option ℚ → PlainValue := fun value => value.elim .none .decimal
  [("sequence", .integer intent.sequence),
    ("cycle_id", .string intent.cycleId),
    ("level_id", .integer intent.levelId),
    ("observed_at_utc", .datetime intent.observedAtUtc),
    ("connection_generation", .integer intent.connectionGeneration),
    ("virtual_crossing_price", .decimal intent.virtualCrossingPrice),
    ("desired_quantity", .decimal intent.desiredQuantity),
    ("quantized_quantity", decimal intent.quantizedQuantity),
    ("risk_approved", .boolean intent.riskApproved),
    ("risk_reasons", .list (intent.riskReasons.map .string)),
    ("hypothetical_entry_price", decimal intent.hypotheticalEntryPrice),
    ("hypothetical_take_profit_price", decimal intent.hypotheticalTakeProfitPrice),
    ("hypothetical_stop_price", decimal intent.hypotheticalStopPrice),
    ("expected_tp_pnl", decimal intent.expectedTpPnl),
    ("projected_stop_loss", decimal intent.projectedStopLoss)]

/-- `to_json`: the canonical form of a canonical form is itself. -/
def toJson (intent : ShadowIntent) : Text := canonicalJson c.toConversions intent.toDict

/-- `decision_digest`. -/
def decisionDigest (intent : ShadowIntent) : String := sha256 (intent.toJson c)

end ShadowIntent

def digestShadowIntents (intents : List ShadowIntent) : String :=
  sha256 (c.ofString ("\n".intercalate (intents.map (ShadowIntent.decisionDigest c sha256))))

/-! ## The run -/

/-- A trade, with what the providers say of it. -/
structure HeardTrade where
  trade : TradeEvent
  health : MarketDataHealthResult
  riskState : RiskState

/-- The observation, with the trigger of a router of last trades (`from_trade`). -/
def HeardTrade.observation (heard : HeardTrade) : ShadowObservation where
  event :=
    { symbol := heard.trade.symbol
      source := .lastTrade
      observedPrice := heard.trade.price
      observedTimestamp := heard.trade.timestampUtc
      connectionGeneration := heard.trade.connectionGeneration }
  marketHealth := heard.health
  riskState := heard.riskState

structure ShadowRunResult where
  observationCount : ℕ
  intents : List ShadowIntent
  decisionDigest : String

namespace ShadowRunner

/-- What a run holds between two trades: the service, the file and its own counters. -/
structure Progress (Text : Type) where
  state : ShadowState := {}
  file : List Text := []
  intents : List ShadowIntent := []
  observationCount : ℕ := 0

/-- The `break`. -/
def done (maximumEvents : ℕ) (stopAfterIntents : Option ℕ) (progress : Progress Text) : Bool :=
  progress.observationCount ≥ maximumEvents ||
    stopAfterIntents.any fun target => progress.intents.length ≥ target

variable (s : ShadowModeService)

/-- The loop over the stream. The file is there also when the service raises, with the observation
    it raised at. -/
def follow (maximumEvents : ℕ) (stopAfterIntents : Option ℕ) :
    List HeardTrade → Progress Text → List Text × Except Failure (Progress Text)
  | [], progress => (progress.file, .ok progress)
  | heard :: trades, progress =>
    let file := JsonLinesShadowObservationRecorder.append c progress.file heard.observation
    match s.onTrigger heard.observation progress.state with
    | .error failure => (file, .error failure)
    | .ok (result, state) =>
      let progress : Progress Text :=
        { state, file
          intents := progress.intents ++ result.intents
          observationCount := progress.observationCount + 1 }
      if done maximumEvents stopAfterIntents progress then (file, .ok progress)
      else follow maximumEvents stopAfterIntents trades progress

/-- `run`, over a fresh service and a new file. -/
def run (maximumEvents : ℕ) (stopAfterIntents : Option ℕ) (trades : List HeardTrade) :
    List Text × Except Failure ShadowRunResult :=
  if maximumEvents = 0 then ([], .error (.valueError "maximum shadow events must be positive"))
  else if stopAfterIntents = some 0 then
    ([], .error (.valueError "shadow intent target must be positive"))
  else
    let (file, outcome) := follow c s maximumEvents stopAfterIntents trades {}
    (file, outcome.map fun progress =>
      { observationCount := progress.observationCount
        intents := progress.intents
        decisionDigest := digestShadowIntents c sha256 progress.intents })

end ShadowRunner

/-! ## The recorder is not looked at -/

namespace ShadowModeService

/-- The same service with another recorder, or none. -/
abbrev withRecorder (s : ShadowModeService) (hasRecorder : Bool) : ShadowModeService :=
  { s with hasRecorder }

/-- An outcome, without what the recorder holds after it. -/
def unrecorded (outcome : ShadowTriggerResult × ShadowState) : ShadowTriggerResult × ShadowState :=
  (outcome.1, { outcome.2 with recorded := [] })

variable (s : ShadowModeService) (hasRecorder : Bool)

theorem visit_recorder (event : TriggerPriceEvent) {levels : List HedgeLevel}
    (riskState : RiskState) (intents : List ShadowIntent) (state : ShadowState)
    (recorded : List ShadowIntent) :
    ((s.withRecorder hasRecorder).visit event levels riskState intents
        { state with recorded }).map unrecorded =
      (s.visit event levels riskState intents state).map unrecorded := by
  induction levels generalizing riskState intents state recorded with
  | nil => rfl
  | cons level levels ih =>
    have hevaluate : (s.withRecorder hasRecorder).evaluate level event riskState
        (state.sequence + 1) = s.evaluate level event riskState (state.sequence + 1) := rfl
    simp only [visit, hevaluate]
    cases s.evaluate level event riskState (state.sequence + 1) with
    | error failure => rfl
    | ok intent =>
      -- the next level sees the noted state, with one more intent recorded or not
      let recorded' := if hasRecorder then recorded ++ [intent] else recorded
      let noted := s.note level intent state
      simp only [ok_bind]
      split
      · split
        · rename_i quantity entryPrice _ _
          cases riskState.replaceCharged quantity (quantity * entryPrice) with
          | error failure => rfl
          | ok charged =>
            exact ih charged (intents ++ [intent])
              { noted with decidedLevels := insert level.levelId noted.decidedLevels } recorded'
        · rfl
      · exact ih riskState (intents ++ [intent]) noted recorded'

/-- What is decided, and what is kept for the next decision. -/
theorem onTrigger_recorder (observation : ShadowObservation) (state : ShadowState)
    (recorded : List ShadowIntent) :
    ((s.withRecorder hasRecorder).onTrigger observation { state with recorded }).map unrecorded =
      (s.onTrigger observation state).map unrecorded := by
  obtain ⟨previousPrice, connectionGeneration, armed, decidedLevels, sequence, earlier⟩ := state
  unfold onTrigger
  dsimp only
  by_cases hsymbol : observation.event.symbol ≠ s.instrument.symbol
  · simp only [if_pos hsymbol]
    rfl
  by_cases hsource : observation.event.source ≠ .lastTrade
  · simp only [if_neg hsymbol, if_pos hsource]
    rfl
  by_cases hallowed : observation.marketHealth.tradingAllowed = false
  · simp only [if_neg hsymbol, if_neg hsource, if_pos hallowed]
    rfl
  simp only [if_neg hsymbol, if_neg hsource, if_neg hallowed]
  cases connectionGeneration with
  | none => rfl
  | some generation =>
    by_cases hstale : observation.event.connectionGeneration < generation
    · simp only [if_pos hstale]
      rfl
    by_cases hchanged : generation < observation.event.connectionGeneration
    · simp only [if_neg hstale, if_pos hchanged]
      rfl
    simp only [if_neg hstale, if_neg hchanged]
    cases previousPrice with
    | none => rfl
    | some previous =>
      -- the crossed levels are those of the armed state, which does not hold what was recorded
      let price := observation.event.observedPrice
      let armed := s.arm price
        { previousPrice := some previous, connectionGeneration := some generation, armed
          decidedLevels, sequence, recorded := earlier }
      exact s.visit_recorder hasRecorder observation.event observation.riskState []
        { armed with previousPrice := some price } recorded

theorem replay_recorder (observations : List ShadowObservation) (state : ShadowState)
    (recorded : List ShadowIntent) :
    (s.withRecorder hasRecorder).replayShadowObservations { state with recorded } observations =
      s.replayShadowObservations state observations := by
  induction observations generalizing state recorded with
  | nil => rfl
  | cons observation observations ih =>
    have htold := s.onTrigger_recorder hasRecorder observation state recorded
    simp only [replayShadowObservations]
    -- both raise the same, or both go on from states that differ in the recorder's contents only
    cases hs : s.onTrigger observation state with
    | error failure =>
      cases hr : (s.withRecorder hasRecorder).onTrigger observation { state with recorded } with
      | error failure' =>
        rw [hs, hr] at htold
        obtain rfl := Except.error.inj htold
        rfl
      | ok outcome =>
        rw [hs, hr] at htold
        cases htold
    | ok outcome =>
      cases hr : (s.withRecorder hasRecorder).onTrigger observation { state with recorded } with
      | error failure =>
        rw [hs, hr] at htold
        cases htold
      | ok outcome' =>
        rw [hs, hr] at htold
        obtain ⟨result, after⟩ := outcome
        obtain ⟨result', after'⟩ := outcome'
        obtain ⟨rfl, hafter⟩ := Prod.mk.inj (Except.ok.inj htold)
        have hstate : after' = { after with recorded := after'.recorded } := by
          obtain ⟨_, _, _, _, _, _⟩ := after
          obtain ⟨_, _, _, _, _, _⟩ := after'
          cases hafter
          rfl
        simp only [ok_bind]
        rw [hstate, ih after]

/-! ## The original run -/

/-- The calls of a run, one after the other: what they decide, and what is kept. -/
def feed : ShadowState → List ShadowObservation →
    Except Failure (List ShadowIntent × ShadowState)
  | state, [] => .ok ([], state)
  | state, observation :: observations => do
    let (result, state) ← s.onTrigger observation state
    let (intents, state) ← feed state observations
    pure (result.intents ++ intents, state)

theorem replay_eq_feed (state : ShadowState) (observations : List ShadowObservation) :
    s.replayShadowObservations state observations =
      (s.feed state observations).map Prod.fst := by
  induction observations generalizing state with
  | nil => rfl
  | cons observation observations ih =>
    simp only [replayShadowObservations, feed]
    cases s.onTrigger observation state with
    | error failure => rfl
    | ok outcome =>
      simp only [ok_bind, ih]
      cases s.feed outcome.2 observations <;> rfl

theorem feed_append {state state' state'' : ShadowState} {observations : List ShadowObservation}
    {intents : List ShadowIntent} {observation : ShadowObservation} {result : ShadowTriggerResult}
    (h : s.feed state observations = .ok (intents, state'))
    (hnext : s.onTrigger observation state' = .ok (result, state'')) :
    s.feed state (observations ++ [observation]) = .ok (intents ++ result.intents, state'') := by
  induction observations generalizing state intents with
  | nil =>
    obtain ⟨rfl, rfl⟩ := Prod.mk.inj (Except.ok.inj h)
    simp only [List.nil_append, feed, hnext, ok_bind, List.append_nil]
    rfl
  | cons first observations ih =>
    simp only [List.cons_append, feed, bind_eq_ok] at h ⊢
    obtain ⟨outcome, houtcome, ⟨later, final⟩, hlater, hpure⟩ := h
    obtain ⟨rfl, rfl⟩ := Prod.mk.inj (Except.ok.inj hpure)
    refine ⟨outcome, houtcome, _, ih hlater, ?_⟩
    rw [List.append_assoc]
    rfl

end ShadowModeService

namespace ShadowRunner

variable {c : LineConversions Text} {s : ShadowModeService}

/-- What a run has behind it is in its file, and is what its service was fed. -/
structure Captured (c : LineConversions Text) (s : ShadowModeService) (progress : Progress Text)
    (observations : List ShadowObservation) : Prop where
  loaded : loadShadowObservations c progress.file = .ok observations
  fed : s.feed {} observations = .ok (progress.intents, progress.state)
  counted : observations.length = progress.observationCount

theorem Captured.follow {maximumEvents : ℕ} {stopAfterIntents : Option ℕ}
    {trades : List HeardTrade} {progress final : Progress Text} {file : List Text}
    {observations : List ShadowObservation} (h : Captured c s progress observations)
    (hrun : ShadowRunner.follow c s maximumEvents stopAfterIntents trades progress =
      (file, .ok final)) :
    final.file = file ∧ ∃ told, told <+: trades.map HeardTrade.observation ∧
      Captured c s final (observations ++ told) := by
  induction trades generalizing progress observations with
  | nil =>
    obtain ⟨rfl, hfinal⟩ := Prod.mk.inj hrun
    obtain rfl := Except.ok.inj hfinal
    refine ⟨rfl, [], List.nil_prefix, ?_⟩
    rwa [List.append_nil]
  | cons heard trades ih =>
    unfold ShadowRunner.follow at hrun
    dsimp only at hrun
    split at hrun
    · cases (Prod.mk.inj hrun).2
    · rename_i result state htold
      -- recorded first, then told
      have hnext : Captured c s
          { state
            file := JsonLinesShadowObservationRecorder.append c progress.file heard.observation
            intents := progress.intents ++ result.intents
            observationCount := progress.observationCount + 1 }
          (observations ++ [heard.observation]) := by
        refine ⟨loadShadowObservations_append h.loaded heard.observation,
          s.feed_append h.fed htold, ?_⟩
        rw [List.length_append, h.counted]
        rfl
      split at hrun
      · obtain ⟨rfl, hfinal⟩ := Prod.mk.inj hrun
        obtain rfl := Except.ok.inj hfinal
        exact ⟨rfl, [heard.observation], List.prefix_append _ _, hnext⟩
      · obtain ⟨hfile, told, hprefix, hcaptured⟩ := ih hnext hrun
        refine ⟨hfile, heard.observation :: told, List.prefix_cons_inj _ |>.mpr hprefix, ?_⟩
        rwa [List.append_assoc] at hcaptured

end ShadowRunner

/-- A capture is read as what was recorded. -/
theorem load_capture {c : LineConversions Text} (observations : List ShadowObservation) :
    loadShadowObservations c
        (observations.foldl (JsonLinesShadowObservationRecorder.append c) []) =
      .ok observations := by
  induction observations using List.reverseRecOn with
  | nil => rfl
  | append_singleton observations observation ih =>
    rw [List.foldl_append]
    exact loadShadowObservations_append ih observation

/-- **A capture replays to the same decisions.** What is recorded is loaded, in its order, and
    replayed through a fresh service it gives the intents and the digests of the run it is of,
    or raises what that run raised. So does the capture that a runner leaves. -/
theorem shadowCapture_replays (c : LineConversions Text) (sha256 : Text → String)
    (s : ShadowModeService) (hasRecorder : Bool) :
    (∀ observations, ∃ loaded,
      loadShadowObservations c
          (observations.foldl (JsonLinesShadowObservationRecorder.append c) []) = .ok loaded ∧
        loaded = observations ∧
        (s.withRecorder hasRecorder).replayShadowObservations {} loaded =
          (s.feed {} observations).map Prod.fst ∧
        ((s.withRecorder hasRecorder).replayShadowObservations {} loaded).map
            (List.map (ShadowIntent.decisionDigest c sha256)) =
          (s.feed {} observations).map fun fed =>
            fed.1.map (ShadowIntent.decisionDigest c sha256)) ∧
    ∀ maximumEvents stopAfterIntents trades file result,
      ShadowRunner.run c sha256 s maximumEvents stopAfterIntents trades = (file, .ok result) →
        ∃ loaded, loadShadowObservations c file = .ok loaded ∧
          loaded <+: trades.map HeardTrade.observation ∧
          loaded.length = result.observationCount ∧
          (s.withRecorder hasRecorder).replayShadowObservations {} loaded = .ok result.intents ∧
          digestShadowIntents c sha256 result.intents = result.decisionDigest := by
  have hreplay : ∀ observations,
      (s.withRecorder hasRecorder).replayShadowObservations {} observations =
        (s.feed {} observations).map Prod.fst := by
    intro observations
    rw [← s.replay_eq_feed]
    exact s.replay_recorder hasRecorder observations {} []
  constructor
  · intro observations
    refine ⟨observations, load_capture observations, rfl, hreplay observations, ?_⟩
    rw [hreplay]
    cases s.feed {} observations <;> rfl
  · intro maximumEvents stopAfterIntents trades file result hrun
    unfold ShadowRunner.run at hrun
    split_ifs at hrun
    · cases (Prod.mk.inj hrun).2
    · cases (Prod.mk.inj hrun).2
    · obtain ⟨hfile, houtcome⟩ := Prod.mk.inj hrun
      cases hfollow : (ShadowRunner.follow c s maximumEvents stopAfterIntents trades {}).2 with
      | error failure =>
        rw [hfollow] at houtcome
        cases houtcome
      | ok final =>
        rw [hfollow] at houtcome
        obtain rfl := Except.ok.inj houtcome
        have hstart : ShadowRunner.Captured c s {} [] := ⟨rfl, rfl, rfl⟩
        obtain ⟨hfinal, told, hprefix, hcaptured⟩ :=
          hstart.follow (Prod.ext hfile hfollow)
        refine ⟨told, hfinal ▸ hcaptured.loaded, hprefix, hcaptured.counted, ?_, rfl⟩
        rw [hreplay, show s.feed {} told = _ from hcaptured.fed]
        rfl

/-- A last trade at this price, on a market and an account that are fine. -/
def heardAt (price : ℚ) (h : 0 < price) : HeardTrade where
  trade :=
    { symbol := "ETHUSDT"
      timestampUtc := 0
      price
      size := 1
      side := .sell
      tradeId := "T"
      sequence := none
      connectionGeneration := 1
      rawPayloadHash := "0"
      checked := by
        simp only [TradeFields.check, requireText, bind_unit_eq_ok, refuseIf_eq_ok]
        exact ⟨by decide, by decide, by simp [h.not_ge], by decide, by decide⟩ }
  health := healthyMarket
  riskState := calmState

/-- One gap over two levels, recorded and replayed. -/
theorem shadowCapture_replays_gap : ∃ file result loaded,
    ShadowRunner.run writtenLines (fun _ => "") (twoLevelsShadow 1 unit_pos) 10 none
        [heardAt 2010 (by decide +kernel), heardAt 1985 (by decide +kernel)] =
      (file, .ok result) ∧
    result.intents.map (fun intent => intent.levelId) = [1, 2] ∧
    loadShadowObservations writtenLines file = .ok loaded ∧
    (twoLevelsShadow 1 unit_pos).replayShadowObservations {} loaded =
      .ok result.intents := by
  have hdecided : (ShadowRunner.run writtenLines (fun _ => "")
      (twoLevelsShadow 1 unit_pos) 10 none
      [heardAt 2010 (by decide +kernel), heardAt 1985 (by decide +kernel)]).2.toOption.map
        (fun result => result.intents.map fun intent => intent.levelId) = some [1, 2] := by
    decide +kernel
  cases hrun : ShadowRunner.run writtenLines (fun _ => "") (twoLevelsShadow 1 unit_pos)
      10 none [heardAt 2010 (by decide +kernel), heardAt 1985 (by decide +kernel)] with
  | mk file outcome =>
    rw [hrun] at hdecided
    cases outcome with
    | error failure => cases hdecided
    | ok result =>
      obtain ⟨loaded, hloaded, -, -, hreplay, -⟩ :=
        (shadowCapture_replays writtenLines (fun _ => "") (twoLevelsShadow 1 unit_pos)
          true).2 10 none _ file result hrun
      exact ⟨file, result, loaded, rfl, Option.some.inj hdecided, hloaded, hreplay⟩
end CreditHedge
