import CreditHedge.Application.ShadowMode
import CreditHedge.Infrastructure.CanonicalJson

/-!
# The capture of a shadow run

`infrastructure/recording/shadow_jsonl.py`: every observation of a run as one line of canonical
JSON, and the lines read back. The recorder and the loader name the fields independently of each
other, the loader with a check of its own on some of them. A capture is read as the observations
that were recorded, in their order (`loadShadowObservations_append`).
-/

set_option autoImplicit false

namespace CreditHedge

instance : TextEnum TriggerPriceSource where
  members := [.lastTrade, .markPrice, .indexPrice]
  value
    | .lastTrade => "LAST_TRADE"
    | .markPrice => "MARK_PRICE"
    | .indexPrice => "INDEX_PRICE"
  mem_members source := by cases source <;> decide
  nodup_values := by decide

instance : TextEnum MarketDataEventType where
  members :=
    [.tickerUpdated, .tradeObserved, .orderBookSnapshotApplied, .orderBookDeltaApplied,
      .marketDataStale, .marketDataRecovered, .instrumentChanged, .instrumentDisabled]
  value
    | .tickerUpdated => "TickerUpdated"
    | .tradeObserved => "TradeObserved"
    | .orderBookSnapshotApplied => "OrderBookSnapshotApplied"
    | .orderBookDeltaApplied => "OrderBookDeltaApplied"
    | .marketDataStale => "MarketDataStale"
    | .marketDataRecovered => "MarketDataRecovered"
    | .instrumentChanged => "InstrumentChanged"
    | .instrumentDisabled => "InstrumentDisabled"
  mem_members eventType := by cases eventType <;> decide
  nodup_values := by decide

variable {Text : Type} (c : LineConversions Text)

/-! ## Recording -/

def eventEntries (event : TriggerPriceEvent) : List (String × PlainValue) :=
  [("symbol", .string event.symbol),
    ("source", .member (TextEnum.value event.source)),
    ("observed_price", .decimal event.observedPrice),
    ("observed_timestamp", .datetime event.observedTimestamp),
    ("connection_generation", .integer event.connectionGeneration)]

def healthEntries (health : MarketDataHealthResult) : List (String × PlainValue) :=
  [("trading_allowed", .boolean health.tradingAllowed),
    ("reasons", .list (health.reasons.map .string)),
    ("event_type", .member (TextEnum.value health.eventType))]

def riskEntries (risk : RiskState) : List (String × PlainValue) :=
  [("current_perp_quantity", .decimal risk.currentPerpQuantity),
    ("current_perp_notional", .decimal risk.currentPerpNotional),
    ("post_trade_margin_usage", .decimal risk.postTradeMarginUsage),
    ("post_trade_liquidation_distance", .decimal risk.postTradeLiquidationDistance),
    ("confirmed_recovery_debt", .decimal risk.confirmedRecoveryDebt),
    ("realized_cycle_loss", .decimal risk.realizedCycleLoss),
    ("daily_realized_loss", .decimal risk.dailyRealizedLoss),
    ("entries_for_level", .integer risk.entriesForLevel),
    ("active_levels", .integer risk.activeLevels),
    ("order_requests_last_minute", .integer risk.orderRequestsLastMinute),
    ("consecutive_reconciliation_failures", .integer risk.consecutiveReconciliationFailures),
    ("market_data_fresh", .boolean risk.marketDataFresh),
    ("reconciliation_succeeded", .boolean risk.reconciliationSucceeded)]

def observationEntries (observation : ShadowObservation) : List (String × PlainValue) :=
  [("event", .dict (eventEntries observation.event)),
    ("market_health", .dict (healthEntries observation.marketHealth)),
    ("risk_state", .dict (riskEntries observation.riskState))]

namespace JsonLinesShadowObservationRecorder

/-- The line of an observation. -/
def payload (observation : ShadowObservation) : Text :=
  canonicalJson c.toConversions (observationEntries observation)

/-- `append`: the file, as its lines. -/
def append (file : List Text) (observation : ShadowObservation) : List Text :=
  file ++ [payload c observation]

end JsonLinesShadowObservationRecorder

/-! ## Loading -/

section Readers

variable (parent : String → Option (Json Text)) (name : String)

/-- `_object`. -/
def objectAt : Except Failure (String → Option (Json Text)) :=
  match Json.get parent name with
  | .object members => .ok members
  | _ => .error (.valueError s!"{name} must be an object")

/-- `_boolean`. -/
def booleanAt : Except Failure Bool :=
  match Json.get parent name with
  | .boolean value => .ok value
  | _ => .error (.valueError s!"{name} must be boolean")

/-- `_integer`. -/
def integerAt : Except Failure ℤ :=
  match Json.get parent name with
  | .integer value => .ok value
  | _ => .error (.valueError s!"{name} must be an integer")

/-- `str(parent[name])`. -/
def textAt : Except Failure Text := do
  let value ← Json.item parent name
  pure (value.str c)

/-- `Decimal(str(parent[name]))`. -/
def decimalAt : Except Failure ℚ := do c.decimal (← textAt c parent name)

/-- A list of strings, or nothing. -/
def stringItems : List (Json Text) → Option (List String)
  | [] => some []
  | .string value :: items => (stringItems items).map (c.string value :: ·)
  | _ :: _ => none

/-- The reasons of a health result, `health["reasons"]`. -/
def reasonsAt : Except Failure (List String) := do
  match ← Json.item parent name with
  | .array items =>
    match stringItems c items with
    | some reasons => .ok reasons
    | none => .error (.valueError "health reasons must be strings")
  | _ => .error (.valueError "health reasons must be strings")

end Readers

/-- The body of the loop of `load_shadow_observations`, for one line. -/
def readObservation (line : Text) : Except Failure ShadowObservation := do
  match ← c.loads line with
  | .object raw => do
    let event ← objectAt raw "event"
    let health ← objectAt raw "market_health"
    let risk ← objectAt raw "risk_state"
    let reasons ← reasonsAt c health "reasons"
    let symbol ← textAt c event "symbol"
    let source ← c.member "TriggerPriceSource" (← textAt c event "source")
    let observedPrice ← decimalAt c event "observed_price"
    let observedTimestamp ← c.fromisoformat (← textAt c event "observed_timestamp")
    let connectionGeneration ← integerAt event "connection_generation"
    let tradingAllowed ← booleanAt health "trading_allowed"
    let eventType ← c.member "MarketDataEventType" (← textAt c health "event_type")
    let currentPerpQuantity ← decimalAt c risk "current_perp_quantity"
    let currentPerpNotional ← decimalAt c risk "current_perp_notional"
    let postTradeMarginUsage ← decimalAt c risk "post_trade_margin_usage"
    let postTradeLiquidationDistance ← decimalAt c risk "post_trade_liquidation_distance"
    let confirmedRecoveryDebt ← decimalAt c risk "confirmed_recovery_debt"
    let realizedCycleLoss ← decimalAt c risk "realized_cycle_loss"
    let dailyRealizedLoss ← decimalAt c risk "daily_realized_loss"
    let entriesForLevel ← integerAt risk "entries_for_level"
    let activeLevels ← integerAt risk "active_levels"
    let orderRequestsLastMinute ← integerAt risk "order_requests_last_minute"
    let consecutiveReconciliationFailures ←
      integerAt risk "consecutive_reconciliation_failures"
    let marketDataFresh ← booleanAt risk "market_data_fresh"
    let reconciliationSucceeded ← booleanAt risk "reconciliation_succeeded"
    let riskState ← RiskState.create currentPerpQuantity currentPerpNotional postTradeMarginUsage
      postTradeLiquidationDistance confirmedRecoveryDebt realizedCycleLoss dailyRealizedLoss
      entriesForLevel activeLevels orderRequestsLastMinute consecutiveReconciliationFailures
      marketDataFresh reconciliationSucceeded
    pure
      { event :=
          { symbol := c.string symbol, source, observedPrice, observedTimestamp
            connectionGeneration }
        marketHealth := { tradingAllowed, reasons, eventType }
        riskState }
  | _ => .error (.valueError "observation must be an object")

/-- `except (KeyError, TypeError, ValueError, json.JSONDecodeError)`: what is not one of these goes
    through. -/
def asInvalidLine {α : Type} (lineNumber : ℕ) : Except Failure α → Except Failure α
  | .error (.keyError _) | .error (.typeError _) | .error (.valueError _) =>
    .error (.valueError s!"invalid shadow observation on line {lineNumber}")
  | result => result

/-- `load_shadow_observations`, from the line with this number on. -/
def loadFrom : ℕ → List Text → Except Failure (List ShadowObservation)
  | _, [] => .ok []
  | lineNumber, line :: lines =>
    if c.blank line = true then loadFrom (lineNumber + 1) lines
    else do
      let observation ← asInvalidLine lineNumber (readObservation c line)
      let observations ← loadFrom (lineNumber + 1) lines
      pure (observation :: observations)

def loadShadowObservations (file : List Text) : Except Failure (List ShadowObservation) :=
  loadFrom c 1 file

/-! ## What was recorded is read -/

variable {c}

section Readers

variable {parent : String → Option (Json Text)} {name : String}

theorem objectAt_eq {members : String → Option (Json Text)}
    (h : parent name = some (.object members)) : objectAt parent name = .ok members := by
  unfold objectAt
  rw [Json.get_eq h]

theorem booleanAt_eq {value : Bool} (h : parent name = some (.boolean value)) :
    booleanAt parent name = .ok value := by
  unfold booleanAt
  rw [Json.get_eq h]

theorem integerAt_eq {value : ℤ} (h : parent name = some (.integer value)) :
    integerAt parent name = .ok value := by
  unfold integerAt
  rw [Json.get_eq h]

theorem textAt_eq {value : Text} (h : parent name = some (.string value)) :
    textAt c parent name = .ok value := by
  unfold textAt
  rw [Json.item_eq h]
  rfl

theorem decimalAt_eq {value : ℚ} (h : parent name = some (.string (c.ofDecimal value))) :
    decimalAt c parent name = .ok value := by
  unfold decimalAt
  rw [textAt_eq h]
  exact c.decimal_ofDecimal value

theorem stringItems_canonicalItems (reasons : List String) :
    stringItems c (canonicalItems c.toConversions (reasons.map .string)) = some reasons := by
  induction reasons with
  | nil => rfl
  | cons reason reasons ih =>
    have hitems : stringItems c (canonicalItems c.toConversions
        ((reason :: reasons).map .string)) =
          (stringItems c (canonicalItems c.toConversions (reasons.map .string))).map
            (c.string (c.ofString reason) :: ·) := rfl
    rw [hitems, ih, c.string_ofString]
    rfl

theorem reasonsAt_eq {reasons : List String}
    (h : parent name =
      some (.array (canonicalItems c.toConversions (reasons.map .string)))) :
    reasonsAt c parent name = .ok reasons := by
  unfold reasonsAt
  rw [Json.item_eq h, ok_bind]
  simp only [stringItems_canonicalItems]

end Readers

/-- What holds, under each key, the canonical value of what was written under it. -/
def Holds (c : LineConversions Text) (members : String → Option (Json Text))
    (entries : List (String × PlainValue)) : Prop :=
  ∀ entry ∈ entries, members entry.1 = some (canonicalValue c.toConversions entry.2)

theorem readObservation_eq {line : Text} {raw event health risk : String → Option (Json Text)}
    {observation : ShadowObservation} (hline : c.loads line = .ok (.object raw))
    (hrawEvent : raw "event" = some (.object event))
    (hrawHealth : raw "market_health" = some (.object health))
    (hrawRisk : raw "risk_state" = some (.object risk))
    (hevent : Holds c event (eventEntries observation.event))
    (hhealth : Holds c health (healthEntries observation.marketHealth))
    (hrisk : Holds c risk (riskEntries observation.riskState)) :
    readObservation c line = .ok observation := by
  simp only [Holds, eventEntries, List.forall_mem_cons, canonicalValue] at hevent
  obtain ⟨hsymbol, hsource, hprice, htime, hgeneration, -⟩ := hevent
  simp only [Holds, healthEntries, List.forall_mem_cons, canonicalValue] at hhealth
  obtain ⟨hallowed, hreasons, htype, -⟩ := hhealth
  simp only [Holds, riskEntries, List.forall_mem_cons, canonicalValue] at hrisk
  obtain ⟨hquantity, hnotional, hmargin, hdistance, hdebt, hcycle, hdaily, hentries, hactive,
    hrequests, hfailures, hfresh, hreconciled, -⟩ := hrisk
  unfold readObservation
  rw [hline]
  simp only [ok_bind, objectAt_eq hrawEvent, objectAt_eq hrawHealth, objectAt_eq hrawRisk,
    textAt_eq hsymbol, textAt_eq hsource, decimalAt_eq hprice, textAt_eq htime,
    integerAt_eq hgeneration, booleanAt_eq hallowed, reasonsAt_eq hreasons, textAt_eq htype,
    decimalAt_eq hquantity, decimalAt_eq hnotional, decimalAt_eq hmargin, decimalAt_eq hdistance,
    decimalAt_eq hdebt, decimalAt_eq hcycle, decimalAt_eq hdaily, integerAt_eq hentries,
    integerAt_eq hactive, integerAt_eq hrequests, integerAt_eq hfailures, booleanAt_eq hfresh,
    booleanAt_eq hreconciled, Conversions.member_value, c.fromisoformat_isoformat,
    c.string_ofString, RiskState.create_self]
  rfl

/-- **An observation is read from its line.** -/
theorem readObservation_payload (observation : ShadowObservation) :
    readObservation c (JsonLinesShadowObservationRecorder.payload c observation) =
      .ok observation := by
  have hraw := lookup_canonicalEntries c.toConversions (observationEntries observation)
    (show ["event", "market_health", "risk_state"].Nodup by decide)
  simp only [observationEntries, List.forall_mem_cons] at hraw
  obtain ⟨hevent, hhealth, hrisk, -⟩ := hraw
  refine readObservation_eq (c.loads_dumps _) hevent hhealth hrisk ?_ ?_ ?_
  · refine lookup_canonicalEntries c.toConversions (eventEntries observation.event) ?_
    exact (show ["symbol", "source", "observed_price", "observed_timestamp",
      "connection_generation"].Nodup by decide)
  · refine lookup_canonicalEntries c.toConversions (healthEntries observation.marketHealth) ?_
    exact (show ["trading_allowed", "reasons", "event_type"].Nodup by decide)
  · refine lookup_canonicalEntries c.toConversions (riskEntries observation.riskState) ?_
    exact (show ["current_perp_quantity", "current_perp_notional", "post_trade_margin_usage",
      "post_trade_liquidation_distance", "confirmed_recovery_debt", "realized_cycle_loss",
      "daily_realized_loss", "entries_for_level", "active_levels", "order_requests_last_minute",
      "consecutive_reconciliation_failures", "market_data_fresh",
      "reconciliation_succeeded"].Nodup by decide)

theorem loadFrom_append {file : List Text} {lineNumber : ℕ} {observations : List ShadowObservation}
    (h : loadFrom c lineNumber file = .ok observations) (observation : ShadowObservation) :
    loadFrom c lineNumber (JsonLinesShadowObservationRecorder.append c file observation) =
      .ok (observations ++ [observation]) := by
  induction file generalizing lineNumber observations with
  | nil =>
    obtain rfl := Except.ok.inj h
    -- the new line is JSON, so it is not skipped
    have hblank : c.blank (JsonLinesShadowObservationRecorder.payload c observation) = false :=
      c.blank_dumps _
    simp only [JsonLinesShadowObservationRecorder.append, List.nil_append, loadFrom, hblank,
      Bool.false_eq_true, if_false, readObservation_payload]
    rfl
  | cons line file ih =>
    simp only [JsonLinesShadowObservationRecorder.append, List.cons_append, loadFrom] at h ih ⊢
    split at h
    · rename_i hblank
      rw [if_pos hblank]
      exact ih h
    · rename_i hblank
      rw [if_neg hblank]
      simp only [bind_eq_ok] at h ⊢
      obtain ⟨first, hfirst, rest, hrest, hpure⟩ := h
      obtain rfl := Except.ok.inj hpure
      exact ⟨first, hfirst, rest ++ [observation], ih hrest, rfl⟩

/-- A capture that is read is read with one more observation after one more `append`. -/
theorem loadShadowObservations_append {file : List Text} {observations : List ShadowObservation}
    (h : loadShadowObservations c file = .ok observations) (observation : ShadowObservation) :
    loadShadowObservations c (JsonLinesShadowObservationRecorder.append c file observation) =
      .ok (observations ++ [observation]) :=
  loadFrom_append h observation

end CreditHedge
