import CreditHedge.Domain.LocalOrderBook
import CreditHedge.Infrastructure.PublicStream
import CreditHedge.Lib.Epochs

/-!
# The order book over the public stream

`stream_orderbook` of `infrastructure/bybit/public_ws.py` requires a snapshot of every connection,
and parses what it is given with `parse_orderbook_message` of `infrastructure/bybit/parsers.py`,
until a message cannot be parsed. `LocalOrderBook` is fed with the events.

The stream decides what a snapshot is by looking at the message, and the parser by looking at it
again. The two agree where it matters: what opens a connection is parsed as a snapshot. So a book
that follows the stream is at every moment the book of the current connection alone, whatever the
connections before it brought.
-/

set_option autoImplicit false

namespace CreditHedge

def OrderBookDelta.create : BookFields → Except Failure OrderBookDelta :=
  build BookFields.check OrderBookDelta.mk

/-- `OrderBookEvent`. -/
inductive OrderBookEvent where
  | snapshot (event : OrderBookSnapshot)
  | delta (event : OrderBookDelta)

namespace OrderBookEvent

def fields : OrderBookEvent → BookFields
  | .snapshot event => event.toBookFields
  | .delta event => event.toBookFields

/-- The event, as what happens to a book. -/
def onBook : OrderBookEvent → BookEvent
  | .snapshot event => .snapshot event
  | .delta event => .delta event

end OrderBookEvent

/-! ## Parsing -/

namespace PublicParsers

/-- `_message_data_object`. -/
def messageDataObject (message : JsonObject) : Except Failure JsonObject :=
  match message.get "data" with
  | .array [.object data] => .ok data
  | .array _ => .error (.valueError "Bybit message must contain one data object")
  | .object data => .ok data
  | _ => .error (.valueError "Bybit message data must be an object")

/-- `data[key]`. -/
def item (data : JsonObject) (key : String) : Except Failure Payload :=
  (Payload.object data).item key

variable (values : StreamValues)

/-- One of the levels. -/
def level : Payload → Except Failure BookLevel
  | .array [price, size] => do pure (← values.decimal price, ← values.decimal size)
  | _ => .error (.valueError "Bybit order-book level must contain price and size")

/-- `_levels`. -/
def levels : Payload → Except Failure (List BookLevel)
  | .array rawLevels => rawLevels.mapM (level values)
  | _ => .error (.valueError "Bybit order-book levels must be a list")

/-- `data.get(key, [])`. -/
def levelsAt (data : JsonObject) (key : String) : Payload :=
  (data.lookup key).getD (.array [])

/-- `str(message.get("type")) == expected`. -/
def typeIs (message : JsonObject) (expected : String) : Bool :=
  values.str (message.get "type") = expected

def parseOrderbookMessage (message : JsonObject) (connectionGeneration : ℤ) :
    Except Failure OrderBookEvent := do
  let data ← messageDataObject message
  let updateId ← values.int (← item data "u")
  let symbol := values.str (← item data "s")
  let bids ← levels values (levelsAt data "b")
  let asks ← levels values (levelsAt data "a")
  let sequence ← values.int (← item data "seq")
  let timestampUtc ← values.fromTimestamp (← values.int (← item message "ts"))
  let fields : BookFields :=
    { symbol, bids, asks, updateId, sequence, timestampUtc, connectionGeneration
      rawPayloadHash := values.payloadHash message }
  if typeIs values message "snapshot" || updateId = 1 then
    pure (.snapshot (← OrderBookSnapshot.create fields))
  else if !typeIs values message "delta" then
    throw (.valueError "Bybit order-book type must be snapshot or delta")
  else pure (.delta (← OrderBookDelta.create fields))

end PublicParsers

open PublicStream PublicParsers

/-- `stream_orderbook`: the events, and the failure it ends with, if any. -/
def streamOrderbook (values : StreamValues) :
    List (JsonObject × ℤ) → List OrderBookEvent × Option Failure
  | [] => ([], none)
  | (message, generation) :: rest =>
    match parseOrderbookMessage values message generation with
    | .error failure => ([], some failure)
    | .ok event =>
      let (events, failure) := streamOrderbook values rest
      (event :: events, failure)

/-- The topic of the order book of a symbol. -/
def orderbookTopic (symbol : String) (depth : ℕ) : String := s!"orderbook.{depth}.{symbol}"

/-! ## What is parsed -/

section Parsing

variable {values : StreamValues} {message : JsonObject} {generation : ℤ} {event : OrderBookEvent}

/-- A message that the stream takes for a snapshot says so itself, or has the first update id. -/
theorem opens_of_isOrderbookSnapshot {data : JsonObject} {uItem : Payload} {updateId : ℤ}
    (hdata : messageDataObject message = .ok data) (hitem : item data "u" = .ok uItem)
    (hint : values.int uItem = .ok updateId) (h : isOrderbookSnapshot message = true) :
    typeIs values message "snapshot" = true ∨ updateId = 1 := by
  unfold isOrderbookSnapshot at h
  rcases Bool.or_eq_true_iff.mp h with htype | hfirst
  · left
    cases hshown : message.get "type" with
    | text shown =>
      obtain rfl : shown = "snapshot" := by simpa [hshown, Payload.isText] using htype
      simp [typeIs, hshown, PythonValues.str]
    | _ => simp [hshown, Payload.isText] at htype
  · right
    cases hshape : message.get "data" with
    | object found =>
      obtain rfl : found = data := by simpa [messageDataObject, hshape] using hdata
      have hone : uItem.isOne = true := by
        simp only [item, Payload.item] at hitem
        cases hlookup : found.lookup "u" with
        | none => simp [hlookup] at hitem
        | some value =>
          obtain rfl : value = uItem := by simpa [hlookup] using hitem
          rw [hshape] at hfirst
          simpa [JsonObject.get, hlookup] using hfirst
      rw [values.int_one uItem hone] at hint
      exact (Except.ok.inj hint).symm
    | _ => simp [hshape] at hfirst

/-- The event is of the generation it came in, and what the stream takes for a snapshot is one. -/
theorem parse_eq_ok (h : parseOrderbookMessage values message generation = .ok event) :
    event.fields.connectionGeneration = generation ∧
      (isOrderbookSnapshot message = true → ∃ s, event = .snapshot s) := by
  simp only [parseOrderbookMessage, bind_eq_ok] at h
  obtain ⟨data, hdata, uItem, hitem, updateId, hint, _, _, bids, _, asks, _, _, _, sequence, _, _,
    _, _, _, timestampUtc, _, hrest⟩ := h
  split at hrest
  · obtain ⟨s, hs, hevent⟩ := bind_eq_ok.mp hrest
    obtain ⟨_, rfl⟩ := build_eq_ok.mp hs
    obtain rfl := Except.ok.inj hevent
    exact ⟨rfl, fun _ => ⟨_, rfl⟩⟩
  · rename_i hnot
    split at hrest
    · cases hrest
    · obtain ⟨d, hd, hevent⟩ := bind_eq_ok.mp hrest
      obtain ⟨_, rfl⟩ := build_eq_ok.mp hd
      obtain rfl := Except.ok.inj hevent
      refine ⟨rfl, fun hsnapshot => absurd ?_ hnot⟩
      simpa using opens_of_isOrderbookSnapshot hdata hitem hint hsnapshot

/-- The events are what the messages are parsed to, as far as that goes. -/
theorem streamOrderbook_parsed (values : StreamValues) (given : List (JsonObject × ℤ)) :
    ∃ parsed, parsed <+: given ∧
      List.Forall₂ (fun m e => parseOrderbookMessage values m.1 m.2 = .ok e) parsed
        (streamOrderbook values given).1 := by
  induction given with
  | nil => exact ⟨[], List.prefix_rfl, .nil⟩
  | cons m given ih =>
    obtain ⟨message, generation⟩ := m
    rw [streamOrderbook]
    cases hparse : parseOrderbookMessage values message generation with
    | error failure => exact ⟨[], List.nil_prefix, .nil⟩
    | ok event =>
      obtain ⟨parsed, hwithin, hparsed⟩ := ih
      exact ⟨(message, generation) :: parsed, (List.prefix_cons_inj _).mpr hwithin,
        .cons hparse hparsed⟩

end Parsing

/-! ## What a connection opens with -/

section Opening

variable {topic : String} {connections : List PublicStream.Session}

/-- No message is of an older connection than the one before it. -/
theorem generations_sorted
    (hnumbered : (connections.map PublicStream.Session.generation).Pairwise (· < ·)) :
    (connections.flatMap (PublicStream.Session.delivered topic true)).Pairwise
      fun x y => x.2 ≤ y.2 := by
  rw [List.pairwise_map] at hnumbered
  have hof : ∀ {session : PublicStream.Session} {m : JsonObject × ℤ},
      m ∈ session.delivered topic true → m.2 = session.generation := by
    intro session m hm
    obtain ⟨_, -, rfl⟩ := List.mem_map.mp hm
    rfl
  refine List.pairwise_flatMap.mpr ⟨fun session _ => ?_, hnumbered.imp fun {a b} hlt x hx y hy => ?_⟩
  · exact List.pairwise_iff_getElem.mpr fun i j hi hj _ =>
      le_of_eq ((hof (List.getElem_mem hi)).trans (hof (List.getElem_mem hj)).symm)
  · rw [hof hx, hof hy]
    exact hlt.le

/-- The first message of a connection is a snapshot. -/
theorem opened_by_snapshot {earlier later : List (JsonObject × ℤ)} {m : JsonObject × ℤ}
    (hsplit : connections.flatMap (PublicStream.Session.delivered topic true) =
      earlier ++ m :: later)
    (hfirst : ∀ x ∈ earlier, x.2 ≠ m.2) : isOrderbookSnapshot m.1 = true := by
  induction connections generalizing earlier with
  | nil => simp at hsplit
  | cons session connections ih =>
    rw [List.flatMap_cons] at hsplit
    rcases List.append_eq_append_iff.mp hsplit with ⟨rest, hearlier, hrest⟩ | ⟨rest, hown, hrest⟩
    · -- the message is of a later connection
      refine ih hrest fun x hx => hfirst x ?_
      rw [hearlier]
      exact List.mem_append_right _ hx
    · cases rest with
      | nil =>
        have hnone : connections.flatMap (PublicStream.Session.delivered topic true) =
            [] ++ m :: later := by
          simpa using hrest.symm
        exact ih hnone (by simp)
      | cons own rest =>
        obtain ⟨rfl, -⟩ := List.cons.inj hrest
        have hgeneration : ∀ x ∈ session.delivered topic true, x.2 = session.generation := by
          intro x hx
          obtain ⟨_, -, rfl⟩ := List.mem_map.mp hx
          rfl
        -- all of a connection is of one generation, so nothing of it comes before
        obtain rfl : earlier = [] := by
          refine List.eq_nil_iff_forall_not_mem.mpr fun x hx => hfirst x hx ?_
          rw [hgeneration x (by simp [hown, hx]), hgeneration m (by simp [hown])]
        obtain ⟨message, kept, hkept, rfl, -⟩ := List.map_eq_cons_iff.mp hown
        have hhead := List.head?_dropWhile_not
          (fun message => true && !isOrderbookSnapshot message)
          (session.received.filter (onTopic topic))
        rw [PublicStream.Session.kept] at hkept
        rw [hkept] at hhead
        simpa using hhead

end Opening

/-! ## The book of the current connection -/

/-- The connection an event came over. -/
def OrderBookEvent.generation (event : OrderBookEvent) : ℤ := event.fields.connectionGeneration

/-- Events as the stream gives them: no connection after a later one, and each begins with a
    snapshot. -/
structure Opened (events : List OrderBookEvent) : Prop where
  sorted : events.Pairwise fun x y => x.generation ≤ y.generation
  positive : ∀ event ∈ events, 0 < event.generation
  opened : ∀ earlier event later, events = earlier ++ event :: later →
    (∀ x ∈ earlier, x.generation ≠ event.generation) → ∃ s, event = .snapshot s

section Books

variable {events seen : List OrderBookEvent} {book : LocalOrderBook}

theorem Opened.shorten (h : Opened events) (hseen : seen <+: events) : Opened seen where
  sorted := h.sorted.sublist hseen.sublist
  positive := fun event hevent => h.positive event (hseen.subset hevent)
  opened := fun earlier event later hsplit hfirst => by
    obtain ⟨rest, rfl⟩ := hseen
    exact h.opened earlier event (later ++ rest) (by simp [hsplit]) hfirst

theorem generations_parsed {values : StreamValues} {parsed : List (JsonObject × ℤ)}
    (hparsed :
      List.Forall₂ (fun m e => parseOrderbookMessage values m.1 m.2 = .ok e) parsed events) :
    events.map OrderBookEvent.generation = parsed.map Prod.snd := by
  induction hparsed with
  | nil => rfl
  | cons hparse _ ih =>
    rw [List.map_cons, List.map_cons, ih]
    exact congrArg (· :: _) (parse_eq_ok hparse).1

/-- What is parsed from the messages of the connections is given so. -/
theorem opened_of_parsed {values : StreamValues} {topic : String}
    (connections : List PublicStream.Session)
    {parsed : List (JsonObject × ℤ)}
    (hsorted : (connections.map PublicStream.Session.generation).Pairwise (· < ·))
    (hpositive : ∀ session ∈ connections, 0 < session.generation)
    (hwithin : parsed <+: connections.flatMap (PublicStream.Session.delivered topic true))
    (hparsed :
      List.Forall₂ (fun m e => parseOrderbookMessage values m.1 m.2 = .ok e) parsed events) :
    Opened events := by
  have hgenerations := generations_parsed hparsed
  constructor
  · have hgiven := (generations_sorted hsorted).sublist hwithin.sublist
    rw [← List.pairwise_map (f := Prod.snd) (R := (· ≤ ·)), ← hgenerations] at hgiven
    exact List.pairwise_map.mp hgiven
  · intro event hevent
    have hmem : event.generation ∈ parsed.map Prod.snd := by
      rw [← hgenerations]
      exact List.mem_map_of_mem hevent
    obtain ⟨m, hm, hgeneration⟩ := List.mem_map.mp hmem
    obtain ⟨session, hsession, hdelivered⟩ := List.mem_flatMap.mp (hwithin.subset hm)
    obtain ⟨_, -, rfl⟩ := List.mem_map.mp hdelivered
    exact hgeneration ▸ hpositive session hsession
  · intro earlier event later hsplit hfirst
    rw [hsplit] at hparsed
    have hbefore := generations_parsed (List.forall₂_take_append parsed earlier _ hparsed)
    obtain ⟨m, rest, hparse, -, hdrop⟩ :=
      List.forall₂_cons_right_iff.mp (List.forall₂_drop_append parsed earlier _ hparsed)
    obtain ⟨hgeneration, hsnapshot⟩ := parse_eq_ok hparse
    obtain ⟨ungiven, hgiven⟩ := hwithin
    rw [← List.take_append_drop earlier.length parsed, hdrop, List.append_assoc,
      List.cons_append] at hgiven
    refine hsnapshot (opened_by_snapshot hgiven.symm fun x hx heq => ?_)
    have hmem : x.2 ∈ earlier.map OrderBookEvent.generation := by
      rw [hbefore]
      exact List.mem_map_of_mem hx
    obtain ⟨other, hother, hsame⟩ := List.mem_map.mp hmem
    exact hfirst other hother (hsame.trans (heq.trans hgeneration.symm))

theorem handle_keeps (book : LocalOrderBook) (event : OrderBookEvent) :
    (book.handle event.onBook).2.symbol = book.symbol ∧
      (book.handle event.onBook).2.connectionGeneration ≤
        max book.connectionGeneration event.generation := by
  cases event with
  | snapshot s =>
    simp only [OrderBookEvent.onBook, LocalOrderBook.handle, LocalOrderBook.validated]
    split
    · unfold LocalOrderBook.applySnapshot
      split
      · exact ⟨rfl, le_max_left _ _⟩
      · exact ⟨rfl, le_max_right _ _⟩
    · exact ⟨rfl, le_max_left _ _⟩
  | delta d =>
    simp only [OrderBookEvent.onBook, LocalOrderBook.handle, LocalOrderBook.validated]
    split
    · rcases LocalOrderBook.applyDelta_cases book d with ⟨-, hsame, -⟩ | ⟨-, -, -, -, hmoved⟩
      · exact ⟨hsame.symbol, hsame.connectionGeneration.le.trans (le_max_left _ _)⟩
      · rw [hmoved]
        exact ⟨rfl, le_max_left _ _⟩
    · exact ⟨rfl, le_max_left _ _⟩

/-- A book that has seen nothing newer than some connection is of none newer, and about what it was
    made for. -/
theorem after_keeps {bound : ℤ} (hbook : book.connectionGeneration ≤ bound)
    (hevents : ∀ event ∈ events, event.generation ≤ bound) :
    (book.after (events.map OrderBookEvent.onBook)).symbol = book.symbol ∧
      (book.after (events.map OrderBookEvent.onBook)).connectionGeneration ≤ bound := by
  induction events using List.reverseRecOn with
  | nil => exact ⟨rfl, hbook⟩
  | append_singleton events event ih =>
    obtain ⟨hsymbol, hbound⟩ := ih fun e he => hevents e (by simp [he])
    obtain ⟨hkept, hnext⟩ :=
      handle_keeps (book.after (events.map OrderBookEvent.onBook)) event
    rw [List.map_append, List.map_singleton, LocalOrderBook.after_concat]
    exact ⟨hkept.trans hsymbol, hnext.trans (max_le hbound (hevents event (by simp)))⟩

/-- A snapshot that is accepted leaves nothing of the book but its symbol. -/
theorem handle_snapshot {book' : LocalOrderBook} {s : OrderBookSnapshot}
    (h : book.Accepts (.snapshot s)) (h' : book'.Accepts (.snapshot s)) :
    (book.handle (.snapshot s)).2 = (book'.handle (.snapshot s)).2 := by
  obtain ⟨hsymbol, hnotOlder⟩ := LocalOrderBook.accepts_snapshot.mp h
  obtain ⟨hsymbol', hnotOlder'⟩ := LocalOrderBook.accepts_snapshot.mp h'
  simp only [LocalOrderBook.handle]
  rw [LocalOrderBook.validated_of_symbol hsymbol, LocalOrderBook.validated_of_symbol hsymbol',
    LocalOrderBook.applySnapshot, LocalOrderBook.applySnapshot, if_neg (not_lt.mpr hnotOlder),
    if_neg (not_lt.mpr hnotOlder')]
  simp only [← hsymbol, ← hsymbol']

/-- The first event of a connection is a snapshot, and the book takes it. -/
theorem Opened.accepts (h : Opened seen) (hbook : book.connectionGeneration = 0)
    (hsymbol : ∀ event ∈ seen, event.fields.symbol = book.symbol)
    {earlier later : List OrderBookEvent} {event : OrderBookEvent}
    (hsplit : seen = earlier ++ event :: later)
    (hfirst : ∀ x ∈ earlier, x.generation ≠ event.generation) :
    ∃ s, event = .snapshot s ∧
      (book.after (earlier.map OrderBookEvent.onBook)).Accepts (.snapshot s) ∧
      book.Accepts (.snapshot s) := by
  obtain ⟨s, rfl⟩ := h.opened earlier event later hsplit hfirst
  have hmem : OrderBookEvent.snapshot s ∈ seen := by simp [hsplit]
  have hpositive := h.positive _ hmem
  have holder : ∀ x ∈ earlier, x.generation ≤ (OrderBookEvent.snapshot s).generation := by
    intro x hx
    have hsorted := h.sorted
    rw [hsplit] at hsorted
    exact (List.pairwise_append.mp hsorted).2.2 x hx _ (by simp)
  obtain ⟨hkept, hbound⟩ := after_keeps (hbook.le.trans hpositive.le) holder
  refine ⟨s, rfl, LocalOrderBook.accepts_snapshot.mpr ⟨?_, hbound⟩,
    LocalOrderBook.accepts_snapshot.mpr ⟨hsymbol _ hmem, ?_⟩⟩
  · exact (hsymbol _ hmem).trans hkept.symm
  · exact hbook.le.trans hpositive.le

end Books

theorem numbered_sorted (n : ℕ) : (numbered n).Pairwise (· < ·) :=
  List.pairwise_map.mpr (List.pairwise_lt_range.imp fun hlt => by omega)

theorem numbered_pos {n : ℕ} {generation : ℤ} (h : generation ∈ numbered n) : 0 < generation := by
  obtain ⟨i, -, rfl⟩ := List.mem_map.mp h
  omega

/-- **A book that follows the stream is the book of the current connection**: what it is after the
    events it has seen is what those of the last connection alone make of it, and each connection
    begins with a snapshot that the book accepts, so that it is synchronized again. -/
theorem stream_orderbook_current (values : StreamValues) {policy : ReconnectPolicy}
    {symbol : String} {depth : ℕ} {now : Time} {start : Transcript PublicStream Output}
    {book : LocalOrderBook}
    (h : streamPayloads policy (orderbookTopic symbol depth) true now = .ok start)
    (hbook : LocalOrderBook.create symbol = .ok book) (inputs : List (Time × Answer))
    {seen : List OrderBookEvent}
    (hseen : seen <+:
      (streamOrderbook values (yields (start.run (resume values) inputs).outputs)).1)
    (hsymbol : ∀ event ∈ seen, event.fields.symbol = symbol) :
    (∀ last ∈ seen.getLast?,
      book.after (seen.map OrderBookEvent.onBook) =
        book.after ((seen.filter fun event => decide (event.generation = last.generation)).map
          OrderBookEvent.onBook)) ∧
    ∀ earlier event later, seen = earlier ++ event :: later →
      (∀ x ∈ earlier, x.generation ≠ event.generation) →
        (∃ s, event = .snapshot s) ∧
          (book.after (earlier.map OrderBookEvent.onBook)).Accepts event.onBook ∧
          (book.after ((earlier ++ [event]).map OrderBookEvent.onBook)).synchronized = true := by
  have htold := told_run values h inputs
  obtain ⟨parsed, hparsed, hevents⟩ := streamOrderbook_parsed values
    (yields (start.run (resume values) inputs).outputs)
  rw [htold.delivered] at hparsed
  have hsessions := htold.numbered_eq
  have hopened : Opened seen := by
    refine (opened_of_parsed (sessions _) ?_ ?_ hparsed hevents).shorten hseen
    · rw [hsessions]
      exact numbered_sorted _
    · intro session hsession
      exact numbered_pos (hsessions ▸ List.mem_map_of_mem hsession)
  obtain ⟨hnew, rfl⟩ : book.connectionGeneration = 0 ∧ book.symbol = symbol := by
    obtain ⟨-, hcreated⟩ := bind_unit_eq_ok.mp hbook
    obtain rfl := Except.ok.inj hcreated
    exact ⟨rfl, rfl⟩
  refine ⟨fun last hlast => ?_, fun earlier event later hsplit hfirst => ?_⟩
  · simp only [LocalOrderBook.after, List.foldl_map]
    refine Epochs.foldl_last_epoch hopened.sorted hlast fun earlier first later hsplit holder => ?_
    obtain ⟨s, rfl, haccepts, hanew⟩ :=
      hopened.accepts hnew hsymbol hsplit fun x hx => (holder x hx).ne
    have hsame := handle_snapshot haccepts hanew
    rwa [LocalOrderBook.after, List.foldl_map] at hsame
  · obtain ⟨s, rfl, haccepts, -⟩ := hopened.accepts hnew hsymbol hsplit hfirst
    refine ⟨⟨s, rfl⟩, haccepts, ?_⟩
    rw [List.map_append, List.map_singleton, LocalOrderBook.after_concat]
    exact (LocalOrderBook.foldOf_snapshot haccepts).2

/-- The snapshot of the second connection wipes out the levels of the first. -/
theorem stream_orderbook_current_lostOnce : ∃ start book,
    streamPayloads defaultPolicy (orderbookTopic "ETHUSDT" 50) true 0 = .ok start ∧
      LocalOrderBook.create "ETHUSDT" = .ok book ∧
      (let seen :=
        (streamOrderbook pythonValues
          (yields (start.run (resume pythonValues) lostOnce).outputs)).1
       seen.map OrderBookEvent.generation = [1, 2] ∧
        (book.after (seen.map OrderBookEvent.onBook)).bids.rows = [(2900, 2)] ∧
        ∀ last ∈ seen.getLast?,
          book.after (seen.map OrderBookEvent.onBook) =
            book.after ((seen.filter fun event => decide (event.generation = last.generation)).map
              OrderBookEvent.onBook)) := by
  refine ⟨_, _, rfl, rfl, ?_⟩
  have hopen : streamPayloads defaultPolicy (orderbookTopic "ETHUSDT" 50) true 0 = .ok _ := rfl
  have hbook : LocalOrderBook.create "ETHUSDT" = .ok _ := rfl
  exact ⟨by decide +kernel, by decide +kernel,
    (stream_orderbook_current pythonValues hopen hbook lostOnce List.prefix_rfl
      (by decide +kernel)).1⟩

end CreditHedge
