import CreditHedge.Domain.MarketEvents
import CreditHedge.Infrastructure.ShadowRecording
import CreditHedge.Lib.KeyedOrder

/-!
# The capture of market data

`JsonLinesMarketDataRecorder` of `infrastructure/recording/jsonl.py` writes every event as lines of
JSON, a book event as one line for each of its levels; `load_normalized_capture` of
`backtesting/historical_inputs.py` reads the trades of one symbol back from such a file. The
recorder checks nothing and takes any event; it is the loader that is particular, about numbers,
digests and the order within a connection.

`load_recorded` says what comes of it: a capture is loaded exactly if its trades are numbered, in
order within each connection, and carry digests, and then it is loaded as these trades, in the order
in which they were recorded, with nothing else of the file.
-/

set_option autoImplicit false

namespace CreditHedge

inductive RecordableMarketEvent where
  | ticker (event : TickerEvent)
  | trade (event : TradeEvent)
  | snapshot (event : OrderBookSnapshot)
  | delta (event : OrderBookDelta)

structure NormalizedMarketDataRecord where
  timestamp : Time
  symbol : String
  eventType : MarketDataEventType
  sequence : Option ℤ
  updateId : Option ℤ
  price : Option ℚ
  size : Option ℚ
  bookSide : Option String
  connectionGeneration : ℤ
  rawPayloadHash : String

/-! ## Recording -/

namespace JsonLinesMarketDataRecorder

/-- `a or b`, of decimals. -/
def orElse (a b : Option ℚ) : Option ℚ := if ∃ value ∈ a, value ≠ 0 then a else b

/-- One line of a book event. -/
def bookRecord (eventType : MarketDataEventType) (event : BookFields)
    (level : Option (String × BookLevel)) : NormalizedMarketDataRecord where
  timestamp := event.timestampUtc
  symbol := event.symbol
  eventType
  sequence := some event.sequence
  updateId := some event.updateId
  price := level.map fun level => level.2.1
  size := level.map fun level => level.2.2
  bookSide := level.map Prod.fst
  connectionGeneration := event.connectionGeneration
  rawPayloadHash := event.rawPayloadHash

/-- The lines of a book event. -/
def bookRecords (eventType : MarketDataEventType) (event : BookFields) :
    List NormalizedMarketDataRecord :=
  match event.bids.map (fun level => ("bid", level)) ++
      event.asks.map fun level => ("ask", level) with
  | [] => [bookRecord eventType event none]
  | levels => levels.map fun level => bookRecord eventType event (some level)

/-- `_normalize_records`. -/
def normalizeRecords : RecordableMarketEvent → List NormalizedMarketDataRecord
  | .snapshot event => bookRecords .orderBookSnapshotApplied event.toBookFields
  | .delta event => bookRecords .orderBookDeltaApplied event.toBookFields
  | .trade event =>
    [{ timestamp := event.timestampUtc
       symbol := event.symbol
       eventType := .tradeObserved
       sequence := event.sequence
       updateId := none
       price := some event.price
       size := some event.size
       bookSide := none
       connectionGeneration := event.connectionGeneration
       rawPayloadHash := event.rawPayloadHash }]
  | .ticker event =>
    [{ timestamp := event.timestampUtc
       symbol := event.symbol
       eventType := .tickerUpdated
       sequence := event.sequence
       updateId := none
       price := orElse (orElse event.lastPrice event.markPrice) event.indexPrice
       size := none
       bookSide := none
       connectionGeneration := event.connectionGeneration
       rawPayloadHash := event.rawPayloadHash }]

variable {Text : Type} (c : Conversions Text)

/-- A value, or `null`. -/
def orNull {α : Type} (value : Option α) (json : α → Json Text) : Json Text :=
  (value.map json).getD .null

/-- `asdict(record)`. -/
def recordFields (record : NormalizedMarketDataRecord) : List (String × Json Text) :=
  [("timestamp", .string (c.isoformat record.timestamp)),
    ("symbol", .string (c.ofString record.symbol)),
    ("event_type", .string (c.ofString (TextEnum.value record.eventType))),
    ("sequence", orNull record.sequence .integer),
    ("update_id", orNull record.updateId .integer),
    ("price", orNull record.price fun value => .string (c.ofDecimal value)),
    ("size", orNull record.size fun value => .string (c.ofDecimal value)),
    ("book_side", orNull record.bookSide fun value => .string (c.ofString value)),
    ("connection_generation", .integer record.connectionGeneration),
    ("raw_payload_hash", .string (c.ofString record.rawPayloadHash))]

def line (record : NormalizedMarketDataRecord) : Text :=
  c.dumps (.ofFields (recordFields c record))

/-- `append`: the file, as its lines. -/
def append (file : List Text) (event : RecordableMarketEvent) : List Text :=
  file ++ (normalizeRecords event).map (line c)

end JsonLinesMarketDataRecorder

/-! ## Loading -/

structure NormalizedCaptureReplay where
  symbol : String
  tradePrices : List ℚ := []
  timestamps : List Time := []
  sequences : List ℤ := []
  sourceHashes : List String := []
  deriving DecidableEq

/-- The conversions of the loader, which also reads times that end in `Z`. -/
structure CaptureConversions (Text : Type) extends LineConversions Text where
  /-- `datetime.fromisoformat(value.replace("Z", "+00:00"))`; nothing, if it has no zone. -/
  readTimestamp : Text → Except Failure (Option Time)
  readTimestamp_isoformat : ∀ value, readTimestamp (isoformat value) = .ok (some value)

namespace NormalizedCapture

variable {Text : Type} (c : CaptureConversions Text)

/-- `value == expected`. -/
def isString (value : Json Text) (expected : String) : Bool :=
  match value with
  | .string text => c.string text = expected
  | _ => false

/-- `_timestamp`. -/
def timestamp : Json Text → Except Failure Time
  | .string text =>
    match c.readTimestamp text with
    | .error _ => .error (.valueError "timestamp must be a valid ISO-8601 value")
    | .ok none => .error (.valueError "timestamp must be timezone-aware")
    | .ok (some time) => .ok time
  | _ => .error (.valueError "timestamp must be an ISO-8601 string")

/-- `_decimal`. -/
def decimal (value : Json Text) (fieldName : String) : Except Failure ℚ :=
  match c.decimal (value.str c.toLineConversions) with
  | .ok result => .ok result
  | .error _ => .error (.valueError s!"{fieldName} must be a finite decimal")

/-- `isinstance(value, int)` and `value >= 0`, and the integer; a boolean is one. -/
def natural (value : Json Text) (message : String) : Except Failure ℤ :=
  match value with
  | .integer n => if n < 0 then .error (.valueError message) else .ok n
  | .boolean b => .ok (if b then 1 else 0)
  | _ => .error (.valueError message)

def isHexDigit (character : Char) : Bool := character ∈ "0123456789abcdefABCDEF".toList

/-- What the loader takes for a digest. -/
def IsDigest (hash : String) : Prop := hash.length = 64 ∧ hash.toList.all isHexDigit = true

instance (hash : String) : Decidable (IsDigest hash) := inferInstanceAs (Decidable (_ ∧ _))

/-- The check of the hash. -/
def digest (value : Json Text) (message : String) : Except Failure String :=
  match value with
  | .string text =>
    if IsDigest (c.string text) then .ok (c.string text) else .error (.valueError message)
  | _ => .error (.valueError message)

/-- The lists and the dictionaries of the loop. -/
structure Loading where
  replay : NormalizedCaptureReplay
  lastSequence : ℤ → Option ℤ := fun _ => none
  lastTimestamp : ℤ → Option Time := fun _ => none

/-- A line of a trade of the symbol. -/
def loadTrade (loading : Loading) (lineNumber : ℕ) (raw : String → Option (Json Text)) :
    Except Failure Loading := do
  let timestamp ← timestamp c (Json.get raw "timestamp")
  let sequence ← natural (Json.get raw "sequence") s!"invalid sequence on line {lineNumber}"
  let generation ← natural (Json.get raw "connection_generation")
    s!"invalid connection generation on line {lineNumber}"
  let sourceHash ← digest c (Json.get raw "raw_payload_hash")
    s!"invalid payload hash on line {lineNumber}"
  refuseIf (sequence ≤ (loading.lastSequence generation).getD (-1))
    s!"non-increasing sequence on line {lineNumber}"
  refuseIf (∃ prior ∈ loading.lastTimestamp generation, timestamp < prior)
    s!"decreasing timestamp on line {lineNumber}"
  let price ← decimal c (Json.get raw "price") "trade price"
  refuseIf (price ≤ 0) s!"trade price must be positive on line {lineNumber}"
  pure
    { replay :=
        { loading.replay with
          tradePrices := loading.replay.tradePrices ++ [price]
          timestamps := loading.replay.timestamps ++ [timestamp]
          sequences := loading.replay.sequences ++ [sequence]
          sourceHashes := loading.replay.sourceHashes ++ [sourceHash.toLower] }
      lastSequence := Function.update loading.lastSequence generation (some sequence)
      lastTimestamp := Function.update loading.lastTimestamp generation (some timestamp) }

/-- The body of the loop. -/
def loadLine (symbol : String) (loading : Loading) (lineNumber : ℕ) (line : Text) :
    Except Failure Loading :=
  if c.blank line = true then .ok loading
  else
    match c.loads line with
    | .error _ => .error (.valueError s!"invalid JSON on line {lineNumber}")
    | .ok (.object raw) =>
      if !isString c (Json.get raw "symbol") symbol ||
          !isString c (Json.get raw "event_type") "TradeObserved" then .ok loading
      else loadTrade c loading lineNumber raw
    | .ok _ => .error (.valueError s!"line {lineNumber} must contain an object")

/-- The loop, from the line with this number on. -/
def loadLines (symbol : String) : Loading → ℕ → List Text → Except Failure Loading
  | loading, _, [] => .ok loading
  | loading, lineNumber, line :: lines => do
    let loading ← loadLine c symbol loading lineNumber line
    loadLines symbol loading (lineNumber + 1) lines

end NormalizedCapture

/-- `load_normalized_capture`. -/
def loadNormalizedCapture {Text : Type} (c : CaptureConversions Text) (file : List Text)
    (symbol : String) : Except Failure NormalizedCaptureReplay := do
  let loaded ← NormalizedCapture.loadLines c symbol { replay := { symbol } } 1 file
  pure loaded.replay

/-! ## What was recorded is loaded -/

/-- The trades of a symbol among the events. -/
def tradesOf (symbol : String) (events : List RecordableMarketEvent) : List TradeEvent :=
  events.filterMap fun
    | .trade event => if event.symbol = symbol then some event else none
    | _ => none

namespace NormalizedCapture

/-- The number of a trade, if it has one. -/
def number (trade : TradeEvent) : ℤ := trade.sequence.getD 0

/-- What the loader requires of the trades of a capture. -/
structure Replayable (trades : List TradeEvent) : Prop where
  numbered : ∀ trade ∈ trades, ∃ n ∈ trade.sequence, 0 ≤ n
  digests : ∀ trade ∈ trades, IsDigest trade.rawPayloadHash
  ordered : trades.Pairwise fun earlier later =>
    earlier.connectionGeneration = later.connectionGeneration →
      number earlier < number later ∧ earlier.timestampUtc ≤ later.timestampUtc

/-- What has been loaded, with these trades after it. -/
def extended (replay : NormalizedCaptureReplay) (trades : List TradeEvent) :
    NormalizedCaptureReplay :=
  { replay with
    tradePrices := replay.tradePrices ++ trades.map fun trade => trade.price
    timestamps := replay.timestamps ++ trades.map fun trade => trade.timestampUtc
    sequences := replay.sequences ++ trades.map number
    sourceHashes := replay.sourceHashes ++ trades.map fun trade => trade.rawPayloadHash.toLower }

variable {Text : Type} {c : CaptureConversions Text}

section Lines

variable {symbol : String} {loading loaded : Loading} {lineNumber : ℕ}
  {record : NormalizedMarketDataRecord}

/-- What the loader looks at of a line, as it was written. -/
structure Reads (c : CaptureConversions Text) (raw : String → Option (Json Text))
    (record : NormalizedMarketDataRecord) : Prop where
  timestamp : Json.get raw "timestamp" = .string (c.isoformat record.timestamp)
  symbol : Json.get raw "symbol" = .string (c.ofString record.symbol)
  eventType :
    Json.get raw "event_type" = .string (c.ofString (TextEnum.value record.eventType))
  sequence : Json.get raw "sequence" = JsonLinesMarketDataRecorder.orNull record.sequence .integer
  price : Json.get raw "price" =
    JsonLinesMarketDataRecorder.orNull record.price fun value => .string (c.ofDecimal value)
  connectionGeneration :
    Json.get raw "connection_generation" = .integer record.connectionGeneration
  rawPayloadHash : Json.get raw "raw_payload_hash" = .string (c.ofString record.rawPayloadHash)

theorem loads_line (c : CaptureConversions Text) (record : NormalizedMarketDataRecord) :
    ∃ raw, c.loads (JsonLinesMarketDataRecorder.line c.toConversions record) = .ok (.object raw) ∧
      Reads c raw record := by
  refine ⟨_, c.loads_dumps _, ?_⟩
  have hfields : ∀ field ∈ JsonLinesMarketDataRecorder.recordFields c.toConversions record,
      Json.get (fun key =>
        (JsonLinesMarketDataRecorder.recordFields c.toConversions record).lookup key) field.1 =
          field.2 := by
    refine fun field hfield => Json.get_eq (lookup_of_mem ?_ hfield)
    exact (show ["timestamp", "symbol", "event_type", "sequence", "update_id", "price", "size",
      "book_side", "connection_generation", "raw_payload_hash"].Nodup by decide)
  simp only [JsonLinesMarketDataRecorder.recordFields, List.forall_mem_cons] at hfields
  obtain ⟨htime, hsymbol, htype, hsequence, -, hprice, -, -, hgeneration, hhash, -⟩ := hfields
  exact ⟨htime, hsymbol, htype, hsequence, hprice, hgeneration, hhash⟩

/-- The line is one of a trade of the symbol. -/
def Concerns (symbol : String) (record : NormalizedMarketDataRecord) : Prop :=
  record.symbol = symbol ∧ record.eventType = .tradeObserved

theorem isString_ofString (value expected : String) :
    isString c (.string (c.ofString value)) expected = decide (value = expected) := by
  simp [isString]

theorem value_eq_tradeObserved (eventType : MarketDataEventType) :
    TextEnum.value eventType = "TradeObserved" ↔ eventType = .tradeObserved := by
  cases eventType <;> decide

/-- What becomes of a recorded line. -/
theorem loadLine_line (c : CaptureConversions Text) (symbol : String) (loading : Loading)
    (lineNumber : ℕ) (record : NormalizedMarketDataRecord) :
    (¬ Concerns symbol record ∧
        loadLine c symbol loading lineNumber
          (JsonLinesMarketDataRecorder.line c.toConversions record) = .ok loading) ∨
      Concerns symbol record ∧ ∃ raw, Reads c raw record ∧
        loadLine c symbol loading lineNumber
            (JsonLinesMarketDataRecorder.line c.toConversions record) =
          loadTrade c loading lineNumber raw := by
  obtain ⟨raw, hloads, hreads⟩ := loads_line c record
  have hblank : c.blank (JsonLinesMarketDataRecorder.line c.toConversions record) = false :=
    c.blank_dumps _
  unfold loadLine
  rw [if_neg (by simp [hblank]), hloads]
  simp only [hreads.symbol, hreads.eventType, isString_ofString, value_eq_tradeObserved]
  by_cases hconcerns : Concerns symbol record
  · refine .inr ⟨hconcerns, raw, hreads, if_neg ?_⟩
    simp [hconcerns.1, hconcerns.2]
  · refine .inl ⟨hconcerns, if_pos ?_⟩
    rw [Concerns, not_and_or] at hconcerns
    simpa using hconcerns

end Lines

/-- A trade, under its connection: its number and its time. -/
def entry (trade : TradeEvent) : ℤ × ℤ × Time :=
  (trade.connectionGeneration, number trade, trade.timestampUtc)

/-- One trade may come after another one of the same connection. -/
def After (earlier later : ℤ × Time) : Prop := earlier.1 < later.1 ∧ earlier.2 ≤ later.2

/-- The dictionaries hold the last trade of each connection. -/
structure Remembers (loading : Loading) (last : ℤ → Option (ℤ × Time)) : Prop where
  sequence : ∀ generation, loading.lastSequence generation = (last generation).map Prod.fst
  timestamp : ∀ generation, loading.lastTimestamp generation = (last generation).map Prod.snd

/-- The line of a trade. -/
def tradeRecord (trade : TradeEvent) : NormalizedMarketDataRecord where
  timestamp := trade.timestampUtc
  symbol := trade.symbol
  eventType := .tradeObserved
  sequence := trade.sequence
  updateId := none
  price := some trade.price
  size := some trade.size
  bookSide := none
  connectionGeneration := trade.connectionGeneration
  rawPayloadHash := trade.rawPayloadHash

section Trades

variable {loading loaded : Loading} {lineNumber : ℕ} {raw : String → Option (Json Text)}
  {trade : TradeEvent} {last : ℤ → Option (ℤ × Time)}

theorem trade_checked (trade : TradeEvent) : 0 < trade.price ∧ 0 ≤ trade.connectionGeneration := by
  have hchecked := trade.checked
  simp only [TradeFields.check, bind_unit_eq_ok, refuseIf_eq_ok, not_or, not_le, not_lt]
    at hchecked
  exact ⟨hchecked.2.2.1.1, hchecked.2.2.2.1⟩

/-- The loading, with a trade more. -/
def added (loading : Loading) (trade : TradeEvent) : Loading where
  replay := extended loading.replay [trade]
  lastSequence :=
    Function.update loading.lastSequence trade.connectionGeneration (some (number trade))
  lastTimestamp :=
    Function.update loading.lastTimestamp trade.connectionGeneration (some trade.timestampUtc)

theorem timestamp_isoformat (time : Time) :
    timestamp c (.string (c.isoformat time)) = .ok time := by
  simp [timestamp, c.readTimestamp_isoformat]

theorem decimal_ofDecimal (value : ℚ) (fieldName : String) :
    decimal c (.string (c.ofDecimal value)) fieldName = .ok value := by
  simp [decimal, Json.str]

theorem natural_integer {n m : ℤ} {message : String} :
    natural (.integer n : Json Text) message = .ok m ↔ 0 ≤ n ∧ m = n := by
  simp only [natural]
  split
  · rename_i hneg
    exact ⟨fun h => absurd h (by simp), fun h => absurd h.1 (not_le.mpr hneg)⟩
  · rename_i hnonneg
    exact ⟨fun h => ⟨not_lt.mp hnonneg, (Except.ok.inj h).symm⟩, fun h => congrArg _ h.2.symm⟩

theorem natural_orNull {sequence : Option ℤ} {m : ℤ} {message : String} :
    natural (JsonLinesMarketDataRecorder.orNull sequence .integer : Json Text) message = .ok m ↔
      m ∈ sequence ∧ 0 ≤ m := by
  cases sequence with
  | none => exact ⟨fun h => absurd h (by simp [JsonLinesMarketDataRecorder.orNull, natural]),
      fun h => absurd h.1 (by simp)⟩
  | some n =>
    refine natural_integer.trans ⟨?_, ?_⟩
    · rintro ⟨hnonneg, rfl⟩
      exact ⟨rfl, hnonneg⟩
    · rintro ⟨hmem, hnonneg⟩
      obtain rfl := Option.some.inj hmem
      exact ⟨hnonneg, rfl⟩

theorem digest_ofString {hash hash' message : String} :
    digest c (.string (c.ofString hash)) message = .ok hash' ↔ IsDigest hash ∧ hash' = hash := by
  simp only [digest, c.string_ofString]
  split
  · rename_i hdigest
    exact ⟨fun h => ⟨hdigest, (Except.ok.inj h).symm⟩, fun h => congrArg _ h.2.symm⟩
  · rename_i hdigest
    exact ⟨fun h => absurd h (by simp), fun h => absurd h.1 hdigest⟩

/-- The two checks against the dictionaries, for a number that is not negative. -/
theorem after_iff (hlast : Remembers loading last) {generation n : ℤ} {time : Time} (hn : 0 ≤ n) :
    (¬ n ≤ (loading.lastSequence generation).getD (-1) ∧
        ¬ ∃ prior ∈ loading.lastTimestamp generation, time < prior) ↔
      ∀ previous ∈ last generation, After previous (n, time) := by
  rw [hlast.sequence, hlast.timestamp]
  cases last generation with
  | none =>
    simp
    omega
  | some previous => simp [After]

/-- **One trade** is loaded exactly if it is numbered, has a digest, and may come after the last one
    of its connection. -/
theorem loadTrade_eq_ok (hreads : Reads c raw (tradeRecord trade)) (hlast : Remembers loading last) :
    loadTrade c loading lineNumber raw = .ok loaded ↔
      (∃ n ∈ trade.sequence, 0 ≤ n) ∧ IsDigest trade.rawPayloadHash ∧
        (∀ previous ∈ last trade.connectionGeneration, After previous (entry trade).2) ∧
          loaded = added loading trade := by
  obtain ⟨hprice, hgeneration⟩ := trade_checked trade
  unfold loadTrade
  rw [hreads.timestamp, hreads.sequence, hreads.connectionGeneration, hreads.rawPayloadHash,
    hreads.price]
  simp only [tradeRecord, timestamp_isoformat, ok_bind, bind_eq_ok, natural_integer,
    natural_orNull, digest_ofString, refuseIf_eq_ok]
  constructor
  · rintro ⟨n, ⟨hnumber, hn⟩, _, ⟨-, rfl⟩, _, ⟨hdigest, rfl⟩, _, hsequence, _, htime, price,
      hread, _, -, hloaded⟩
    obtain rfl : trade.price = price := Except.ok.inj ((decimal_ofDecimal _ _).symm.trans hread)
    have hnum : number trade = n := by rw [number, Option.mem_def.mp hnumber, Option.getD_some]
    refine ⟨⟨n, hnumber, hn⟩, hdigest, ?_, ?_⟩
    · rw [entry, hnum]
      exact (after_iff hlast hn).mp ⟨hsequence, htime⟩
    · rw [← Except.ok.inj hloaded]
      simp [added, extended, hnum]
  · rintro ⟨⟨n, hnumber, hn⟩, hdigest, hafter, rfl⟩
    have hnum : number trade = n := by rw [number, Option.mem_def.mp hnumber, Option.getD_some]
    rw [entry, hnum] at hafter
    obtain ⟨hsequence, htime⟩ := (after_iff hlast hn).mpr hafter
    refine ⟨n, ⟨hnumber, hn⟩, _, ⟨hgeneration, rfl⟩, _, ⟨hdigest, rfl⟩, (), hsequence, (), htime,
      _, decimal_ofDecimal _ _, (), not_le.mpr hprice, ?_⟩
    simp [added, extended, hnum]
    rfl

theorem Remembers.added (hlast : Remembers loading last) (trade : TradeEvent) :
    Remembers (added loading trade)
      (Function.update last trade.connectionGeneration (some (entry trade).2)) := by
  constructor <;> intro generation <;>
    rcases eq_or_ne generation trade.connectionGeneration with rfl | hne
  · simp [NormalizedCapture.added, entry]
  · simp [NormalizedCapture.added, hne, hlast.sequence]
  · simp [NormalizedCapture.added, entry]
  · simp [NormalizedCapture.added, hne, hlast.timestamp]

end Trades

/-! ## Files -/

section Files

variable {symbol : String} {loading loaded : Loading} {last : ℤ → Option (ℤ × Time)}

/-- The lines of events. -/
def linesOf (c : CaptureConversions Text) (events : List RecordableMarketEvent) : List Text :=
  events.flatMap fun event =>
    (JsonLinesMarketDataRecorder.normalizeRecords event).map
      (JsonLinesMarketDataRecorder.line c.toConversions)

theorem foldl_append (c : CaptureConversions Text) (file : List Text)
    (events : List RecordableMarketEvent) :
    events.foldl (JsonLinesMarketDataRecorder.append c.toConversions) file =
      file ++ linesOf c events := by
  induction events generalizing file with
  | nil => simp [linesOf]
  | cons event events ih =>
    rw [List.foldl_cons, ih, linesOf, linesOf, List.flatMap_cons, JsonLinesMarketDataRecorder.append,
      List.append_assoc]

/-- Lines of other symbols, and of other events, are skipped. -/
theorem loadLines_skip {records : List NormalizedMarketDataRecord}
    (hskip : ∀ record ∈ records, ¬ Concerns symbol record) (lines : List Text)
    (lineNumber : ℕ) :
    loadLines c symbol loading lineNumber
        (records.map (JsonLinesMarketDataRecorder.line c.toConversions) ++ lines) =
      loadLines c symbol loading (lineNumber + records.length) lines := by
  induction records generalizing lineNumber with
  | nil => rfl
  | cons record records ih =>
    obtain ⟨hfirst, hrest⟩ := List.forall_mem_cons.mp hskip
    rcases loadLine_line c symbol loading lineNumber record with ⟨-, hline⟩ | ⟨hconcerns, -⟩
    · rw [List.map_cons, List.cons_append, loadLines, hline, ok_bind, ih hrest, List.length_cons]
      congr 1
      omega
    · exact absurd hconcerns hfirst

/-- An event is a trade of the symbol, or nothing of it concerns the loader. -/
theorem event_cases (symbol : String) (event : RecordableMarketEvent) :
    (∃ trade, trade.symbol = symbol ∧ event = .trade trade) ∨
      (∀ record ∈ JsonLinesMarketDataRecorder.normalizeRecords event, ¬ Concerns symbol record) ∧
        tradesOf symbol [event] = [] := by
  have hbook : ∀ {eventType : MarketDataEventType} {fields : BookFields},
      eventType ≠ .tradeObserved →
        ∀ record ∈ JsonLinesMarketDataRecorder.bookRecords eventType fields,
          ¬ Concerns symbol record := by
    intro eventType fields hne record hrecord hconcerns
    unfold JsonLinesMarketDataRecorder.bookRecords at hrecord
    split at hrecord
    · obtain rfl := List.mem_singleton.mp hrecord
      exact hne hconcerns.2
    · obtain ⟨level, -, rfl⟩ := List.mem_map.mp hrecord
      exact hne hconcerns.2
  cases event with
  | ticker event =>
    refine .inr ⟨fun record hrecord hconcerns => ?_, rfl⟩
    obtain rfl := List.mem_singleton.mp hrecord
    exact absurd hconcerns.2 (by simp)
  | snapshot event => exact .inr ⟨hbook (by simp), rfl⟩
  | delta event => exact .inr ⟨hbook (by simp), rfl⟩
  | trade event =>
    by_cases hsymbol : event.symbol = symbol
    · exact .inl ⟨event, hsymbol, rfl⟩
    · refine .inr ⟨fun record hrecord hconcerns => ?_, by simp [tradesOf, hsymbol]⟩
      obtain rfl := List.mem_singleton.mp hrecord
      exact hsymbol hconcerns.1

theorem extended_cons (replay : NormalizedCaptureReplay) (trade : TradeEvent)
    (trades : List TradeEvent) :
    extended replay (trade :: trades) = extended (extended replay [trade]) trades := by
  simp [extended]

/-- **The loop**, over what was recorded. -/
theorem loadLines_linesOf (symbol : String) (hlast : Remembers loading last) (lineNumber : ℕ)
    (events : List RecordableMarketEvent) (replay : NormalizedCaptureReplay) :
    (∃ loaded, loadLines c symbol loading lineNumber (linesOf c events) = .ok loaded ∧
        loaded.replay = replay) ↔
      (∀ trade ∈ tradesOf symbol events, (∃ n ∈ trade.sequence, 0 ≤ n) ∧
          IsDigest trade.rawPayloadHash) ∧
        KeyedOrder.Follows After last ((tradesOf symbol events).map entry) ∧
          replay = extended loading.replay (tradesOf symbol events) := by
  induction events generalizing loading last lineNumber with
  | nil =>
    have hnone : extended loading.replay (tradesOf symbol []) = loading.replay := by
      simp [extended, tradesOf]
    rw [hnone]
    constructor
    · rintro ⟨loaded, hloaded, rfl⟩
      obtain rfl := Except.ok.inj hloaded
      exact ⟨fun _ h => absurd h (by simp [tradesOf]), trivial, rfl⟩
    · rintro ⟨-, -, rfl⟩
      exact ⟨loading, rfl, rfl⟩
  | cons event events ih =>
    have htrades : tradesOf symbol (event :: events) =
        tradesOf symbol [event] ++ tradesOf symbol events :=
      List.filterMap_append (l := [event])
    rcases event_cases symbol event with ⟨trade, rfl, rfl⟩ | ⟨hskip, hnone⟩
    · have hone : tradesOf trade.symbol [.trade trade] = [trade] := by simp [tradesOf]
      rw [htrades, hone, List.singleton_append, List.map_cons, List.forall_mem_cons,
        KeyedOrder.Follows, extended_cons]
      have hlines : linesOf c (.trade trade :: events) =
          JsonLinesMarketDataRecorder.line c.toConversions (tradeRecord trade) ::
            linesOf c events := rfl
      rw [hlines]
      rcases loadLine_line c trade.symbol loading lineNumber (tradeRecord trade) with
        ⟨hnot, -⟩ | ⟨-, raw, hreads, hline⟩
      · exact absurd ⟨rfl, rfl⟩ hnot
      · simp only [loadLines, hline, bind_eq_ok, loadTrade_eq_ok hreads hlast]
        have hrest := fun n => ih (hlast.added trade) n
        constructor
        · rintro ⟨loaded, ⟨_, ⟨hnumber, hdigest, hafter, rfl⟩, hloaded⟩, hreplay⟩
          obtain ⟨hall, hfollows, heq⟩ := (hrest _).mp ⟨loaded, hloaded, hreplay⟩
          exact ⟨⟨⟨hnumber, hdigest⟩, hall⟩, ⟨hafter, hfollows⟩, heq⟩
        · rintro ⟨⟨⟨hnumber, hdigest⟩, hall⟩, ⟨hafter, hfollows⟩, heq⟩
          obtain ⟨loaded, hloaded, hreplay⟩ :=
            (hrest (lineNumber + 1)).mpr ⟨hall, hfollows, heq⟩
          exact ⟨loaded, ⟨_, ⟨hnumber, hdigest, hafter, rfl⟩, hloaded⟩, hreplay⟩
    · rw [htrades, hnone, List.nil_append]
      have hlines : linesOf c (event :: events) =
          (JsonLinesMarketDataRecorder.normalizeRecords event).map
            (JsonLinesMarketDataRecorder.line c.toConversions) ++ linesOf c events :=
        List.flatMap_cons
      rw [hlines, loadLines_skip hskip]
      exact ih hlast _

end Files

end NormalizedCapture

open NormalizedCapture

/-- **A capture is loaded as the trades that were recorded**: in their order, with their prices,
    times and numbers, and nothing else of the file; and it is loaded exactly if these trades are
    numbered, carry digests, and come in order within each connection. -/
theorem load_recorded {Text : Type} (c : CaptureConversions Text)
    (events : List RecordableMarketEvent) (symbol : String) (replay : NormalizedCaptureReplay) :
    loadNormalizedCapture c
        (events.foldl (JsonLinesMarketDataRecorder.append c.toConversions) []) symbol =
          .ok replay ↔
      Replayable (tradesOf symbol events) ∧
        replay =
          { symbol
            tradePrices := (tradesOf symbol events).map fun trade => trade.price
            timestamps := (tradesOf symbol events).map fun trade => trade.timestampUtc
            sequences := (tradesOf symbol events).map number
            sourceHashes :=
              (tradesOf symbol events).map fun trade => trade.rawPayloadHash.toLower } := by
  have htrans : ∀ a b d : ℤ × Time, After a b → After b d → After a d :=
    fun a b d hab hbd => ⟨hab.1.trans hbd.1, hab.2.trans hbd.2⟩
  rw [foldl_append, List.nil_append, loadNormalizedCapture, bind_eq_ok]
  have hnone : Remembers { replay := { symbol } } fun _ => none := ⟨fun _ => rfl, fun _ => rfl⟩
  have hloop := loadLines_linesOf (c := c) symbol hnone 1 events replay
  rw [KeyedOrder.follows_none_iff htrans, List.pairwise_map] at hloop
  constructor
  · rintro ⟨loaded, hloaded, hreplay⟩
    obtain ⟨hall, hordered, heq⟩ := hloop.mp ⟨loaded, hloaded, Except.ok.inj hreplay⟩
    refine ⟨⟨fun t ht => (hall t ht).1, fun t ht => (hall t ht).2, hordered⟩, ?_⟩
    simpa [extended] using heq
  · rintro ⟨⟨hnumbered, hdigests, hordered⟩, heq⟩
    obtain ⟨loaded, hloaded, hreplay⟩ := hloop.mpr
      ⟨fun t ht => ⟨hnumbered t ht, hdigests t ht⟩, hordered, by simpa [extended] using heq⟩
    exact ⟨loaded, hloaded, congrArg Except.ok hreplay⟩

/-- The conversions that forget nothing. -/
def writtenCapture : CaptureConversions WrittenText where
  toLineConversions := writtenLines
  readTimestamp text :=
    match text with
    | .time value => .ok (some value)
    | _ => .error (.valueError "Invalid isoformat string")
  readTimestamp_isoformat _ := rfl

/-- A trade of the first connection. -/
def seventhTrade : RecordableMarketEvent :=
  .trade
    { symbol := "ETHUSDT"
      timestampUtc := 0
      price := 2000
      size := 1
      side := .buy
      tradeId := "t"
      sequence := some 7
      connectionGeneration := 1
      rawPayloadHash := "abcdefabcdefabcdefabcdefabcdefabcdefabcdefabcdefabcdefabcdefabcd"
      checked := by decide +kernel }

/-! Two trades of one message may share a number; such a capture is recorded, and not loaded. -/

example :
    loadNormalizedCapture writtenCapture
      ([seventhTrade, seventhTrade].foldl
        (JsonLinesMarketDataRecorder.append writtenCapture.toConversions) []) "ETHUSDT" =
      .error (.valueError "non-increasing sequence on line 2") := by
  decide +kernel

end CreditHedge
