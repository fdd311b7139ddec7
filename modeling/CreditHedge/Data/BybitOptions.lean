import CreditHedge.Domain.PutCreditSpread
import CreditHedge.Infrastructure.BybitPages

/-!
# The option chain

`BybitOptionClient.fetch_eth_chain` of `data/bybit_options.py`: the instruments of all pages, one
per symbol, joined with the tickers of one more request.

Its loop is the one of the two adapters without their memory: it asks for whatever cursor it was
given, and where a server leads back to a cursor it has named before, it never stops
(`paginates_fetchEthChain_iff`).

How one instrument and its ticker are read (`_parse_contract`, `_parse_quote`) and when two values
are the same key of a dict are parameters here (`OptionValues`), of which nothing is assumed.
-/

set_option autoImplicit false

namespace CreditHedge

open Cursors WhileLoop

/-! ## Python's values -/

namespace Payload

/-- `bool(value)`. -/
def truthy (value : Payload) : Bool :=
  match value with
  | .null => false
  | .boolean value => value
  | .text shown => shown ≠ ""
  | .array items => !items.isEmpty
  | .object members => !members.isEmpty
  | number => !number.isZero

/-- `value[key]`. -/
def item (value : Payload) (key : String) : Except Failure Payload :=
  match value with
  | .object members =>
    match members.lookup key with
    | some value => .ok value
    | none => .error (.keyError key)
  | .text _ => .error (.typeError "string indices must be integers, not 'str'")
  | .array _ => .error (.typeError "list indices must be integers or slices, not str")
  | value => .error (.typeError ("'" ++ value.typeName ++ "' object is not subscriptable"))

/-- What `for … in value` runs through. -/
def iterate (value : Payload) : Except Failure (List Payload) :=
  match value with
  | .array items => .ok items
  | .text shown => .ok (shown.toList.map fun c => .text c.toString)
  | .object members => .ok (members.map fun entry => .text entry.1)
  | value => .error (.typeError ("'" ++ value.typeName ++ "' object is not iterable"))

end Payload

/-- `_TimedTicker`. -/
structure TimedTicker where
  item : Payload
  timestampUtc : Time

/-- What the client makes of the values it is given. -/
structure OptionValues (Key Quote : Type) extends PythonValues where
  /-- The value as a key of a dict. -/
  key : Payload → Except Failure Key
  /-- `_parse_contract`. -/
  parseContract : Payload → Except Failure OptionContract
  /-- `_parse_quote`. -/
  parseQuote : OptionContract → TimedTicker → Except Failure Quote
  quoteSymbol : Quote → String

/-- A dict. -/
abbrev DictOf (Key α : Type) := KeyedTable (Prod.fst : Key × α → Key)

namespace OptionChain

variable {Key Quote : Type} [DecidableEq Key]

structure OptionChainEntry (values : OptionValues Key Quote) where
  contract : OptionContract
  quote : Quote
  status : String
  sameSymbol : contract.symbol = values.quoteSymbol quote
  status_text : ¬ isBlank status = true

section Client

variable (values : OptionValues Key Quote)

/-- `OptionChainEntry.__post_init__`. -/
def createEntry (contract : OptionContract) (quote : Quote) (status : String) :
    Except Failure (OptionChainEntry values) :=
  if hsymbol : contract.symbol = values.quoteSymbol quote then
    if hstatus : isBlank status = true then
      .error (.valueError "instrument status cannot be empty")
    else .ok { contract, quote, status, sameSymbol := hsymbol, status_text := hstatus }
  else .error (.valueError "contract and quote symbols differ")

/-- `_validate_response`, and the result of the response. -/
def validateResponse (response : JsonObject) : Except Failure JsonObject :=
  if ¬ (response.get "retCode").isZero then
    .error (.valueError ("Bybit response error " ++ values.str (response.get "retCode") ++ ": " ++
      values.str (response.get "retMsg")))
  else
    match response.get "result" with
    | .object result =>
      if (JsonObject.get result "category").isText "option" then .ok result
      else .error (.valueError "response is not an option-market payload")
    | _ => .error (.valueError "response is not an option-market payload")

/-- `_response_timestamp`. -/
def responseTimestamp (response : JsonObject) : Except Failure Time := do
  let value := response.get "time"
  refuseIf value.isNull "Bybit response is missing server timestamp"
  let milliseconds ← values.int value
  values.fromTimestamp milliseconds

/-- `item["symbol"]` as a key, and the item. -/
def keyed (item : Payload) : Except Failure (Key × Payload) := do
  let symbol ← item.item "symbol"
  let key ← values.key symbol
  pure (key, item)

/-- The parameters of a request for instruments. -/
def instrumentParams (cursor : Payload) : Params :=
  let params := KeyedTable.empty.upsert ("category", .text "option")
  let params := params.upsert ("baseCoin", .text "ETH")
  let params := params.upsert ("status", .text "Trading")
  let params := params.upsert ("limit", .integer 1000)
  if cursor.truthy then params.upsert ("cursor", cursor) else params

/-- `for item in response["result"]["list"]: instruments[item["symbol"]] = item`. -/
def addInstruments (instruments : DictOf Key Payload) (result : JsonObject) :
    Except Failure (DictOf Key Payload) := do
  let listed ← (Payload.object result).item "list"
  let items ← listed.iterate
  items.foldlM (fun instruments item => do
    let entry ← keyed values item
    pure (instruments.upsert entry)) instruments

/-- What the loop of `fetch_eth_chain` keeps from one request to the next. -/
structure Pages (Key : Type) where
  instruments : DictOf Key Payload
  cursor : Payload

/-- A round of the loop. -/
def chainRound (server : PageServer) (s : Pages Key) :
    Except Failure (Pages Key ⊕ DictOf Key Payload) := do
  let response ← server.get values.toPythonValues (instrumentParams s.cursor)
  let result ← validateResponse values response
  let instruments ← addInstruments values s.instruments result
  let cursor := (result.lookup "nextPageCursor").getD (.text "")
  if cursor.truthy then pure (.inl { instruments, cursor }) else pure (.inr instruments)

/-- `sorted(…, key=lambda entry: (entry.contract.expiry_time_utc, entry.contract.strike))`. -/
def sortedEntries (entries : List (OptionChainEntry values)) : List (OptionChainEntry values) :=
  entries.mergeSort fun a b =>
    a.contract.expiryTimeUtc < b.contract.expiryTimeUtc ||
      (a.contract.expiryTimeUtc = b.contract.expiryTimeUtc && a.contract.strike ≤ b.contract.strike)

/-- `_join_quotes`. -/
def joinQuotes (instruments : DictOf Key Payload) (tickers : DictOf Key TimedTicker) :
    Except Failure (List (OptionChainEntry values)) := do
  let quotes ← instruments.rows.foldlM (fun quotes (symbol, instrumentItem) =>
    match tickers.find symbol with
    | none => pure quotes
    | some (_, timedTicker) => do
      let contract ← values.parseContract instrumentItem
      if contract.baseCoin ≠ "ETH" ∨ contract.optionType ≠ .put then pure quotes
      else do
        let quote ← values.parseQuote contract timedTicker
        let status ← instrumentItem.item "status"
        let entry ← createEntry values contract quote (values.str status)
        pure (quotes ++ [entry])) []
  pure (sortedEntries values quotes)

/-- `fetch_eth_chain` after its loop: one request for the tickers, and the join. -/
def quoteChain (tickers : Except Failure JsonObject) (instruments : DictOf Key Payload) :
    Except Failure (List (OptionChainEntry values)) := do
  let response ← tickers
  let result ← validateResponse values response
  let timestamp ← responseTimestamp values response
  let listed ← (Payload.object result).item "list"
  let items ← listed.iterate
  let timed ← items.foldlM (fun timed item => do
    let (key, item) ← keyed values item
    pure (timed.upsert (key, { item, timestampUtc := timestamp }))) KeyedTable.empty
  joinQuotes values instruments timed

/-- `fetch_eth_chain`, for at most so many pages: the requests, and what comes of them. -/
def fetchEthChain (server : PageServer) (tickers : Except Failure JsonObject) (fuel : ℕ) :
    Option (List PageRequest × Except Failure (List (OptionChainEntry values))) :=
  (WhileLoop.rounds (chainRound values server) fuel
    { instruments := KeyedTable.empty, cursor := .text "" }).map fun r =>
    let paged := r.1.map fun s => ⟨"/v5/market/instruments-info", instrumentParams s.cursor⟩
    match r.2 with
    | .error failure => (paged, .error failure)
    | .ok instruments =>
      let tickerParams := KeyedTable.empty.upsert ("category", .text "option")
      let tickerParams := tickerParams.upsert ("baseCoin", .text "ETH")
      (paged ++ [⟨"/v5/market/tickers", tickerParams⟩], quoteChain values tickers instruments)

/-- The cursors the client asks instruments for, and what comes of it. -/
def cursorReads (server : PageServer) (tickers : Except Failure JsonObject) (fuel : ℕ) :
    Option (List String × Except Failure (List (OptionChainEntry values))) :=
  (fetchEthChain values server tickers fuel).map fun r =>
    ((r.1.filter fun request => request.endpoint = "/v5/market/instruments-info").map
      fun request => cursorOf values.toPythonValues request.params, r.2)

end Client

/-! ## The instruments -/

/-- The dict these entries make, one after the other. -/
def instrumentsOf (entries : List (Key × Payload)) : DictOf Key Payload :=
  entries.foldl KeyedTable.upsert KeyedTable.empty

/-- Under every symbol stands its last item. -/
theorem find_instrumentsOf (entries : List (Key × Payload)) (key : Key) :
    (instrumentsOf entries).find key = (entries.filter fun entry => entry.1 = key).getLast? := by
  induction entries using List.reverseRecOn with
  | nil => rfl
  | append_singleton entries entry ih =>
    have hfold : instrumentsOf (entries ++ [entry]) = (instrumentsOf entries).upsert entry := by
      rw [instrumentsOf, List.foldl_append]
      rfl
    rw [hfold, KeyedTable.find_upsert, ih, List.filter_append]
    by_cases hkey : key = entry.1
    · rw [if_pos hkey]
      simp [hkey]
    · rw [if_neg hkey]
      simp [Ne.symm hkey]

section Reading

variable {values : OptionValues Key Quote} {server : PageServer}

/-- The entries of a page. -/
def pageEntries (values : OptionValues Key Quote) (result : JsonObject) :
    Except Failure (List (Key × Payload)) := do
  let listed ← (Payload.object result).item "list"
  let items ← listed.iterate
  items.mapM (keyed values)

/-- The entries of a response that is accepted, and its result. -/
def acceptPage (values : OptionValues Key Quote) (response : JsonObject) :
    Except Failure (List (Key × Payload) × JsonObject) := do
  let result ← validateResponse values response
  let entries ← pageEntries values result
  pure (entries, result)

theorem foldlM_upsert (items : List Payload) (instruments : DictOf Key Payload) :
    items.foldlM (fun instruments item => do
        let entry ← keyed values item
        pure (instruments.upsert entry)) instruments =
      (items.mapM (keyed values)).map fun entries =>
        entries.foldl KeyedTable.upsert instruments := by
  induction items generalizing instruments with
  | nil => rfl
  | cons item items ih =>
    rw [List.foldlM_cons, List.mapM_cons]
    cases keyed values item with
    | error failure => rfl
    | ok entry =>
      simp only [ok_bind, pure, Except.pure] at ih ⊢
      rw [ih]
      cases items.mapM (keyed values) <;> rfl

theorem addInstruments_eq (result : JsonObject) (instruments : DictOf Key Payload) :
    addInstruments values instruments result =
      (pageEntries values result).map (List.foldl KeyedTable.upsert instruments) := by
  unfold addInstruments pageEntries
  cases (Payload.object result).item "list" with
  | error failure => rfl
  | ok listed =>
    cases hitems : listed.iterate with
    | error failure =>
      simp only [ok_bind, hitems]
      rfl
    | ok items =>
      simp only [ok_bind, hitems]
      exact foldlM_upsert items instruments

omit [DecidableEq Key] in
theorem validateResponse_eq_ok {response result : JsonObject}
    (h : validateResponse values response = .ok result) :
    response.get "result" = .object result := by
  unfold validateResponse at h
  split at h
  · cases h
  · split at h
    · rename_i members hmembers
      split at h
      · rw [hmembers, Except.ok.inj h]
      · cases h
    · cases h

omit [DecidableEq Key] in
theorem takesResult_acceptPage : TakesResult (acceptPage values) := by
  intro response page result h
  simp only [acceptPage, bind_eq_ok] at h
  obtain ⟨result', hvalid, entries, -, hpure⟩ := h
  cases hpure
  exact validateResponse_eq_ok hvalid

/-- The cursor the client asks for next. -/
theorem cursorOf_instrumentParams (python : PythonValues) (cursor : Payload) :
    cursorOf python (instrumentParams cursor) =
      if cursor.truthy then python.str cursor else "" := by
  have hnone : cursorOf python KeyedTable.empty = "" := rfl
  unfold instrumentParams
  cases cursor.truthy with
  | true => simp [cursorOf_upsert]
  | false => simp [cursorOf_upsert_of_ne, hnone]

/-- What the client goes on with is what the server names. -/
theorem truthy_nextPageCursor (python : PythonValues) {cursor : String}
    {response result : JsonObject} (hresponse : server.answer cursor = .ok response)
    (hresult : response.get "result" = .object result) :
    let next := (result.lookup "nextPageCursor").getD (.text "")
    namedCursor result = if next.truthy then some (python.str next) else none := by
  unfold namedCursor
  cases hnext : result.lookup "nextPageCursor" with
  | none => rfl
  | some value =>
    rcases server.textual _ _ _ _ hresponse hresult hnext with rfl | ⟨shown, rfl⟩
    · rfl
    · by_cases hempty : shown = ""
      · subst hempty
        rfl
      · simp [Payload.truthy, PythonValues.str, hempty]

/-- The client is where the reader of the chain is. -/
structure IsAt (python : PythonValues) (w : Walk String (List (Key × Payload))) (s : Pages Key) :
    Prop where
  cursor : cursorOf python (instrumentParams s.cursor) = w.cursor
  instruments : s.instruments = instrumentsOf w.pages.flatten

theorem chainRound_related {w : Walk String (List (Key × Payload))} {s : Pages Key}
    (h : IsAt values.toPythonValues w s) :
    Related (IsAt values.toPythonValues) (fun pages => instrumentsOf pages.flatten)
      (follow (server.chain (acceptPage values)) acceptAll w) (chainRound values server s) := by
  unfold chainRound follow PageServer.chain PageServer.get
  rw [h.cursor, h.instruments]
  cases hresponse : server.answer w.cursor with
  | error failure => exact .raise failure
  | ok response =>
    simp only [ok_bind, acceptPage]
    cases hvalid : validateResponse values response with
    | error failure => exact .raise failure
    | ok result =>
      simp only [ok_bind, addInstruments_eq]
      cases pageEntries values result with
      | error failure => exact .raise failure
      | ok entries =>
        have hinstruments : entries.foldl KeyedTable.upsert (instrumentsOf w.pages.flatten) =
            instrumentsOf (w.pages ++ [entries]).flatten := by
          simp [instrumentsOf]
        have hnext := truthy_nextPageCursor values.toPythonValues hresponse
          (validateResponse_eq_ok hvalid)
        simp only at hnext
        simp only [ok_bind, Except.map, pure, Except.pure, hinstruments, hnext]
        by_cases htruthy : ((result.lookup "nextPageCursor").getD (.text "")).truthy = true
        · rw [if_pos htruthy, if_pos htruthy]
          refine .next ⟨?_, rfl⟩
          rw [cursorOf_instrumentParams, if_pos htruthy]
        · rw [if_neg htruthy, if_neg htruthy]
          exact .stop _

/-- What `fetch_eth_chain` makes of the pages. -/
def chainOf (values : OptionValues Key Quote) (tickers : Except Failure JsonObject)
    (pages : List (List (Key × Payload))) : Except Failure (List (OptionChainEntry values)) :=
  quoteChain values tickers (instrumentsOf pages.flatten)

/-- The client is a reader of the chain that takes every cursor. -/
theorem cursorReads_eq_reader (tickers : Except Failure JsonObject) :
    cursorReads values server tickers =
      reader (server.chain (acceptPage values)) acceptAll "" (chainOf values tickers) := by
  funext fuel
  have hstart : IsAt values.toPythonValues ⟨"", [], []⟩
      { instruments := (KeyedTable.empty : DictOf Key Payload), cursor := .text "" } := ⟨rfl, rfl⟩
  have hreader := rounds_eq_reader (@chainRound_related Key Quote _ values server)
    (fun _ _ h => h.cursor) hstart fuel
  refine Eq.trans ?_ (reader_bind (fun pages : List (List (Key × Payload)) =>
    instrumentsOf pages.flatten) (quoteChain values tickers) fuel)
  rw [← hreader, cursorReads, fetchEthChain, Option.map_map, Option.map_map]
  congr 1
  funext r
  obtain ⟨states, outcome⟩ := r
  cases outcome with
  | error failure => simp [Function.comp_def, List.filter_map, Except.bind]
  | ok instruments => simp [Function.comp_def, List.filter_map, Except.bind]

/-- Where the chain cycles, `fetch_eth_chain` does not return. -/
theorem fetchEthChain_eq_none (tickers : Except Failure JsonObject)
    (h : Cycles (server.chain (acceptPage values)) "") (fuel : ℕ) :
    fetchEthChain values server tickers fuel = none := by
  have hnone : cursorReads values server tickers fuel = none := by
    rw [cursorReads_eq_reader]
    exact reader_eq_none_of_cycles h fuel
  exact Option.map_eq_none_iff.mp hnone

/-- `fetch_eth_chain` reads every chain as it should that does not cycle. -/
theorem paginates_fetchEthChain_iff (tickers : Except Failure JsonObject) :
    Paginates (server.chain (acceptPage values)) "" (chainOf values tickers)
        (cursorReads values server tickers) ↔
      ¬ Cycles (server.chain (acceptPage values)) "" := by
  rw [cursorReads_eq_reader]
  exact paginates_unguarded_iff fun _ _ _ h => server.named takesResult_acceptPage h

end Reading

end OptionChain

/-! ## The three clients -/

/-- The three clients read their chains as they should where `null` ends none of the public ones and
    the option chain's cursors lead into no circle. -/
theorem paged_reads_iff {Key Quote : Type} [DecidableEq Key]
    (privateServer publicServer optionServer : PageServer) (python : PythonValues)
    (endpoint : String) (initialParams : Params) (category : Category)
    (baseCoin status : Option String) (values : OptionValues Key Quote)
    (tickers : Except Failure JsonObject) :
    (∀ (entries : List (Key × Payload)) key, (OptionChain.instrumentsOf entries).find key =
      (entries.filter fun entry => entry.1 = key).getLast?) ∧
    ((Paginates (privateServer.chain PrivateRest.acceptPage) (cursorOf python initialParams) .ok
          (PrivateRest.cursorReads privateServer python endpoint initialParams) ∧
        Paginates (publicServer.chain (PublicRest.acceptPage python category)) ""
          (fun pages => .ok (PublicRest.collect pages))
          (PublicRest.cursorReads publicServer python category baseCoin status) ∧
        Paginates (optionServer.chain (OptionChain.acceptPage values)) ""
          (OptionChain.chainOf values tickers)
          (OptionChain.cursorReads values optionServer tickers)) ↔
      ¬ PublicRest.EndsInNull publicServer python category ∧
        ¬ Cycles (optionServer.chain (OptionChain.acceptPage values)) "") := by
  refine ⟨OptionChain.find_instrumentsOf, ?_⟩
  rw [PublicRest.paginates_fetchInstrumentItems_iff, OptionChain.paginates_fetchEthChain_iff]
  exact ⟨And.right, And.intro (PrivateRest.paginates_getAllPages ..)⟩

/-! ### A server that leads back -/

/-- An empty page of options that names the cursor `a`. -/
def pageNamingA : JsonObject :=
  [("retCode", .integer 0), ("retMsg", .text "OK"),
    ("result", .object
      [("category", .text "option"), ("list", .array []), ("nextPageCursor", .text "a")]),
    ("time", .integer 0)]

/-- Every page names the cursor `a`, that of `a` too. -/
def circularServer : PageServer where
  answer _ := .ok pageNamingA
  cursors := {"a"}
  textual cursor response result value hanswer hresult hvalue := by
    obtain rfl := Except.ok.inj hanswer
    cases hresult
    cases hvalue
    exact .inr ⟨"a", rfl⟩
  finite cursor response result next hanswer hresult hnext := by
    obtain rfl := Except.ok.inj hanswer
    cases hresult
    cases hnext
    exact Finset.mem_singleton.mpr rfl

/-- A client that reads nothing but texts as keys. -/
def textValues : OptionValues String Unit where
  strOfParts _ := ""
  int _ := .error (.valueError "invalid literal for int()")
  fromTimestamp milliseconds := .ok milliseconds
  key
    | .text value => .ok value
    | value => .error (.typeError value.typeName)
  parseContract _ := .error (.valueError "unsupported Bybit option symbol")
  parseQuote _ _ := .ok ()
  quoteSymbol _ := ""

/-- The loop asks for `a` again and again. -/
theorem fetchEthChain_circularServer :
    Cycles (circularServer.chain (OptionChain.acceptPage textValues)) "" ∧
      (∀ fuel, OptionChain.fetchEthChain textValues circularServer
        (.error (.exchangeError "not asked")) fuel = none) ∧
      ¬ Paginates (circularServer.chain (OptionChain.acceptPage textValues)) ""
        (OptionChain.chainOf textValues (.error (.exchangeError "not asked")))
        (OptionChain.cursorReads textValues circularServer
          (.error (.exchangeError "not asked"))) := by
  have hnext : ∀ cursor, circularServer.chain (OptionChain.acceptPage textValues) cursor =
      .ok ([], some "a") := fun _ => rfl
  have hcycles : Cycles (circularServer.chain (OptionChain.acceptPage textValues)) "" :=
    ⟨["a", "a"], _, "a", .next (hnext "") (.next (hnext "a") (.here "a")), by decide⟩
  exact ⟨hcycles, OptionChain.fetchEthChain_eq_none _ hcycles,
    fun h => (OptionChain.paginates_fetchEthChain_iff _).mp h hcycles⟩

end CreditHedge
