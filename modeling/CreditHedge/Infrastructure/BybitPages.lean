import CreditHedge.Infrastructure.BybitPayloads
import CreditHedge.Infrastructure.Conversions
import CreditHedge.Lib.Cursors
import CreditHedge.Lib.Dicts

/-!
# Paged reads

The exchange gives long lists in pages, each naming the cursor of the next. Two adapters read them,
`_get_all_pages` of `infrastructure/bybit/private_rest.py` and `_fetch_instrument_items` of
`infrastructure/bybit/public_rest.py`; the third, in `data/bybit_options.py`, has a module of its
own.

A server is a function of the cursor, and names finitely many (`PageServer`). Its chain is what it
says, and not what a client makes of it: a cursor is named by a text that is not empty, and the last
page by an empty text, by `null` or by nothing. Which pages count is the client's to say, as the two
check different things of an answer.

Left out: the signature and the headers of a request, the class of an API error, which
`map_bybit_error` chooses by its code, and the parsing of the items into records.
-/

set_option autoImplicit false

namespace CreditHedge

open Cursors WhileLoop

/-! ## JSON values, with all their parts -/

inductive Payload where
  | null
  | boolean (value : Bool)
  | integer (value : ℤ)
  /-- A number with a fraction, as `str` shows it. -/
  | real (shown : String)
  | text (value : String)
  | array (items : List Payload)
  | object (members : List (String × Payload))

abbrev JsonObject := List (String × Payload)

/-- `data.get(key)`. -/
def JsonObject.get (members : JsonObject) (key : String) : Payload :=
  (members.lookup key).getD .null

namespace Payload

/-- A value without its parts. -/
def shallow : Payload → JsonValue
  | .null => .null
  | .boolean value => .boolean value
  | .integer value => .integer value
  | .real shown => .real shown
  | .text value => .text value
  | .array _ => .compound
  | .object _ => .compound

/-- `value == 0`. -/
def isZero : Payload → Bool
  | .boolean value => !value
  | .integer value => value = 0
  | .real shown => shown = "0.0" || shown = "-0.0"
  | _ => false

/-- `value == text`. -/
def isText (value : Payload) (expected : String) : Bool :=
  match value with
  | .text shown => shown = expected
  | _ => false

/-- `value is None`. -/
def isNull : Payload → Bool
  | .null => true
  | _ => false

/-- `type(value).__name__`. -/
def typeName : Payload → String
  | .null => "NoneType"
  | .boolean _ => "bool"
  | .integer _ => "int"
  | .real _ => "float"
  | .text _ => "str"
  | .array _ => "list"
  | .object _ => "dict"

end Payload

/-- What Python makes of a value, where it depends on more than the model keeps of it. -/
structure PythonValues where
  /-- `str(value)` of a list or a dict. -/
  strOfParts : Payload → String
  /-- `int(value)`. -/
  int : Payload → Except Failure ℤ
  /-- `datetime.fromtimestamp(value / 1000)`. -/
  fromTimestamp : ℤ → Except Failure Time

/-- `str(value)`. -/
def PythonValues.str (python : PythonValues) : Payload → String
  | .null => "None"
  | .boolean true => "True"
  | .boolean false => "False"
  | .integer value => toString value
  | .real shown => shown
  | .text value => value
  | value => python.strOfParts value

/-! ## Requests -/

/-- The parameters of a request, a dict. -/
abbrev Params := KeyedTable (Prod.fst : String × Payload → String)

/-- The cursor a request is for, as the server reads it; the first page has none. -/
def cursorOf (python : PythonValues) (params : Params) : String :=
  match params.find "cursor" with
  | some param => python.str param.2
  | none => ""

theorem cursorOf_upsert (python : PythonValues) (params : Params) (value : Payload) :
    cursorOf python (params.upsert ("cursor", value)) = python.str value := by
  rw [cursorOf, KeyedTable.find_upsert, if_pos rfl]

theorem cursorOf_upsert_of_ne (python : PythonValues) (params : Params) {key : String}
    {value : Payload} (h : "cursor" ≠ key) :
    cursorOf python (params.upsert (key, value)) = cursorOf python params := by
  rw [cursorOf, KeyedTable.find_upsert, if_neg h, cursorOf]

structure PageRequest where
  endpoint : String
  params : Params

/-! ## Servers -/

/-- The cursor a result names as the next. -/
def namedCursor (result : JsonObject) : Option String :=
  match result.lookup "nextPageCursor" with
  | some (.text value) => if value = "" then none else some value
  | _ => none

/-- A server whose answer is a function of the cursor, over finitely many of them. A request may
    also fail. -/
structure PageServer where
  answer : String → Except Failure JsonObject
  cursors : Finset String
  /-- What stands for the next cursor is a text, or nothing. -/
  textual : ∀ cursor response result value, answer cursor = .ok response →
    response.get "result" = .object result → result.lookup "nextPageCursor" = some value →
    value = .null ∨ ∃ shown, value = .text shown
  finite : ∀ cursor response result next, answer cursor = .ok response →
    response.get "result" = .object result → namedCursor result = some next → next ∈ cursors

/-- What the server answers a request. -/
def PageServer.get (server : PageServer) (python : PythonValues) (params : Params) :
    Except Failure JsonObject :=
  server.answer (cursorOf python params)

/-- The chain of a server, as far as the client accepts its pages: what the client keeps of a page,
    and the cursor the server names there. -/
def PageServer.chain {π : Type} (server : PageServer)
    (accept : JsonObject → Except Failure (π × JsonObject)) (cursor : String) :
    Except Failure (π × Option String) := do
  let response ← server.answer cursor
  let (page, result) ← accept response
  pure (page, namedCursor result)

/-- The client takes the result from the response. -/
def TakesResult {π : Type} (accept : JsonObject → Except Failure (π × JsonObject)) : Prop :=
  ∀ response page result, accept response = .ok (page, result) →
    response.get "result" = .object result

theorem PageServer.chain_eq_ok {π : Type} {server : PageServer}
    {accept : JsonObject → Except Failure (π × JsonObject)} {cursor : String} {page : π}
    {next : Option String} :
    server.chain accept cursor = .ok (page, next) ↔
      ∃ response result, server.answer cursor = .ok response ∧
        accept response = .ok (page, result) ∧ namedCursor result = next := by
  simp only [chain, bind_eq_ok]
  constructor
  · rintro ⟨response, hresponse, ⟨page', result⟩, haccept, hpure⟩
    cases hpure
    exact ⟨response, result, hresponse, haccept, rfl⟩
  · rintro ⟨response, result, hresponse, haccept, rfl⟩
    exact ⟨response, hresponse, (page, result), haccept, rfl⟩

/-- What a chain names is among the server's cursors. -/
theorem PageServer.named {π : Type} (server : PageServer)
    {accept : JsonObject → Except Failure (π × JsonObject)} (htakes : TakesResult accept)
    {start d : String} {cs : List String} {ps : List π}
    (h : Leads (server.chain accept) start cs ps d) : ∀ c ∈ cs, c ∈ server.cursors := by
  induction h with
  | here c => simp
  | next hask _ ih =>
    obtain ⟨response, result, hresponse, haccept, hnext⟩ := chain_eq_ok.mp hask
    rw [List.forall_mem_cons]
    exact ⟨server.finite _ _ _ _ hresponse (htakes _ _ _ haccept) hnext, ih⟩

/-! ## The private client -/

namespace PrivateRest

/-- `_result_object`. -/
def resultObject (response : JsonObject) : Except Failure JsonObject :=
  match response.get "result" with
  | .object result => .ok result
  | _ => .error (.valueError "Bybit response result must be an object")

/-- `raise_for_bybit_error`. -/
def raiseForBybitError (retCode : ℤ) (retMsg : String) : Except Failure Unit :=
  if retCode ≠ 0 then .error (.exchangeError s!"Bybit error {retCode}: {retMsg}") else .ok ()

/-- `_validate_response`. -/
def validateResponse (response : JsonObject) : Except Failure JsonObject :=
  match response.get "retCode" with
  | .integer retCode =>
    match response.get "retMsg" with
    | .text retMsg => do
      raiseForBybitError retCode retMsg
      let _ ← resultObject response
      pure response
    | _ => .error (.valueError "Bybit response retMsg must be a string")
  | _ => .error (.valueError "Bybit response retCode must be an integer")

/-- A response that is accepted, and its result. -/
def acceptPage (response : JsonObject) : Except Failure (JsonObject × JsonObject) := do
  let response ← validateResponse response
  let result ← resultObject response
  pure (response, result)

/-- What `_get_all_pages` keeps from one request to the next. -/
structure Pages where
  params : Params
  responses : List JsonObject
  seenCursors : List String

/-- A round of `_get_all_pages`. -/
def pagesRound (server : PageServer) (python : PythonValues) (s : Pages) :
    Except Failure (Pages ⊕ List JsonObject) := do
  let response ← server.get python s.params
  let response ← validateResponse response
  let responses := s.responses ++ [response]
  let result ← resultObject response
  let nextCursor ← optionalText (result.get "nextPageCursor").shallow
  match nextCursor with
  | none => pure (.inr responses)
  | some nextCursor => do
    refuseIf (nextCursor ∈ s.seenCursors) "Bybit private pagination cursor repeated"
    pure (.inl
      { params := s.params.upsert ("cursor", .text nextCursor)
        responses
        seenCursors := nextCursor :: s.seenCursors })

/-- `_get_all_pages`, for at most so many requests: the requests, and what comes of them. -/
def getAllPages (server : PageServer) (python : PythonValues) (endpoint : String)
    (initialParams : Params) (fuel : ℕ) :
    Option (List PageRequest × Except Failure (List JsonObject)) :=
  (WhileLoop.rounds (pagesRound server python) fuel
    { params := initialParams, responses := [], seenCursors := [] }).map
    fun r => (r.1.map fun s => ⟨endpoint, s.params⟩, r.2)

theorem resultObject_eq_ok {response result : JsonObject} :
    resultObject response = .ok result ↔ response.get "result" = .object result := by
  unfold resultObject
  split
  · rename_i members hmembers
    rw [hmembers]
    simp
  · rename_i hother
    exact iff_of_false (by simp) (hother result)

theorem validateResponse_eq_ok {response response' : JsonObject}
    (h : validateResponse response = .ok response') :
    response' = response ∧ ∃ result, response.get "result" = .object result := by
  unfold validateResponse at h
  split at h
  · split at h
    · simp only [bind_eq_ok] at h
      obtain ⟨_, -, result, hresult, hpure⟩ := h
      exact ⟨(Except.ok.inj hpure).symm, result, resultObject_eq_ok.mp hresult⟩
    · cases h
  · cases h

theorem acceptPage_eq_ok {response page result : JsonObject}
    (h : acceptPage response = .ok (page, result)) :
    validateResponse response = .ok response ∧ page = response ∧
      response.get "result" = .object result := by
  simp only [acceptPage, bind_eq_ok] at h
  obtain ⟨response', hvalid, result', hresult, hpure⟩ := h
  cases hpure
  obtain ⟨rfl, -⟩ := validateResponse_eq_ok hvalid
  exact ⟨hvalid, rfl, resultObject_eq_ok.mp hresult⟩

theorem takesResult_acceptPage : TakesResult acceptPage := fun _ _ _ h =>
  (acceptPage_eq_ok h).2.2

/-- What the client reads as the next cursor is what the server names. -/
theorem optionalText_nextPageCursor {server : PageServer} {cursor : String}
    {response result : JsonObject} (hresponse : server.answer cursor = .ok response)
    (hresult : response.get "result" = .object result) :
    optionalText (result.get "nextPageCursor").shallow = .ok (namedCursor result) := by
  unfold JsonObject.get namedCursor
  cases hnext : result.lookup "nextPageCursor" with
  | none => rfl
  | some value =>
    rcases server.textual _ _ _ _ hresponse hresult hnext with rfl | ⟨shown, rfl⟩
    · rfl
    · by_cases hempty : shown = ""
      · subst hempty
        rfl
      · simp [optionalText, Payload.shallow, JsonValue.IsAbsent, hempty]

theorem pagesRound_eq (server : PageServer) (python : PythonValues) (s : Pages) :
    pagesRound server python s =
      match server.chain acceptPage (cursorOf python s.params) with
      | .error failure => .error failure
      | .ok (response, none) => .ok (.inr (s.responses ++ [response]))
      | .ok (response, some nextCursor) =>
        if nextCursor ∈ s.seenCursors then
          .error (.valueError "Bybit private pagination cursor repeated")
        else
          .ok (.inl
            { params := s.params.upsert ("cursor", .text nextCursor)
              responses := s.responses ++ [response]
              seenCursors := nextCursor :: s.seenCursors }) := by
  unfold pagesRound PageServer.chain PageServer.get
  cases hresponse : server.answer (cursorOf python s.params) with
  | error failure => rfl
  | ok response =>
    simp only [ok_bind, acceptPage]
    cases hvalid : validateResponse response with
    | error failure => rfl
    | ok response' =>
      obtain ⟨rfl, result, hresult⟩ := validateResponse_eq_ok hvalid
      have htakes := resultObject_eq_ok.mpr hresult
      have hnext := optionalText_nextPageCursor hresponse hresult
      simp only [ok_bind, htakes, hnext, pure, Except.pure]
      cases namedCursor result with
      | none => rfl
      | some nextCursor =>
        simp only [refuseIf]
        split <;> rfl

/-- The client is where the reader of the chain is. -/
structure IsAt (python : PythonValues) (w : Walk String JsonObject) (s : Pages) : Prop where
  cursor : cursorOf python s.params = w.cursor
  responses : s.responses = w.pages
  seenCursors : s.seenCursors = w.seen

theorem pagesRound_related (server : PageServer) {python : PythonValues}
    {w : Walk String JsonObject} {s : Pages} (h : IsAt python w s) :
    Related (IsAt python) id
      (follow (server.chain acceptPage)
        (refuseSeen (.valueError "Bybit private pagination cursor repeated")) w)
      (pagesRound server python s) := by
  rw [pagesRound_eq, h.cursor, h.responses, h.seenCursors, follow]
  cases server.chain acceptPage w.cursor with
  | error failure => exact .raise failure
  | ok answer =>
    obtain ⟨response, _ | nextCursor⟩ := answer
    · exact .stop _
    · simp only [refuseSeen]
      by_cases hseen : nextCursor ∈ w.seen
      · rw [if_pos hseen, if_pos hseen]
        exact .raise _
      · rw [if_neg hseen, if_neg hseen]
        exact .next ⟨cursorOf_upsert python s.params (.text nextCursor), rfl, rfl⟩

/-- The cursors the client asks for, and what comes of it. -/
def cursorReads (server : PageServer) (python : PythonValues) (endpoint : String)
    (initialParams : Params) (fuel : ℕ) : Option (List String × Except Failure (List JsonObject)) :=
  (getAllPages server python endpoint initialParams fuel).map fun r =>
    (r.1.map fun request => cursorOf python request.params, r.2)

/-- The client is a reader of the chain, but for what its requests carry besides the cursor. -/
theorem cursorReads_eq_reader (server : PageServer) (python : PythonValues) (endpoint : String)
    (initialParams : Params) :
    cursorReads server python endpoint initialParams =
      reader (server.chain acceptPage)
        (refuseSeen (.valueError "Bybit private pagination cursor repeated"))
        (cursorOf python initialParams) .ok := by
  funext fuel
  have hstart : IsAt python ⟨cursorOf python initialParams, [], []⟩
      { params := initialParams, responses := [], seenCursors := [] } := ⟨rfl, rfl, rfl⟩
  have hreader := rounds_eq_reader (fun _ _ => pagesRound_related server)
    (fun _ _ h => h.cursor) hstart fuel
  rw [cursorReads, getAllPages, Option.map_map]
  simp only [Function.comp_def, List.map_map]
  exact hreader

/-- `_get_all_pages` reads every chain as it should. -/
theorem paginates_getAllPages (server : PageServer) (python : PythonValues) (endpoint : String)
    (initialParams : Params) :
    Paginates (server.chain acceptPage) (cursorOf python initialParams) .ok
      (cursorReads server python endpoint initialParams) := by
  rw [cursorReads_eq_reader]
  exact (paginates_guarded_iff (fun _ _ _ h => server.named takesResult_acceptPage h)
    (fun _ => .inl rfl) fun pages => ⟨pages, rfl⟩).mpr fun _ _ _ _ => rfl

end PrivateRest

/-! ## The public client -/

namespace PublicRest

/-- `_validate_response`. -/
def validateResponse (python : PythonValues) (response : JsonObject)
    (expectedCategory : Category) : Except Failure Unit :=
  if ¬ (response.get "retCode").isZero then
    .error (.valueError ("Bybit response error " ++ python.str (response.get "retCode") ++ ": " ++
      python.str (response.get "retMsg")))
  else
    match response.get "result" with
    | .object result => do
      let category := JsonObject.get result "category"
      refuseIf (¬ category.isNull ∧ ¬ category.isText (TextEnum.value expectedCategory))
        "Bybit response category does not match request"
      refuseIf ((response.lookup "time").isNone) "Bybit response is missing server time"
    | _ => .error (.valueError "Bybit response result must be an object")

/-- One item of `_result_items`. -/
def resultItem : Payload → Except Failure JsonObject
  | .object item => .ok item
  | _ => .error (.valueError "Bybit response item must be an object")

/-- `_result_items`, of the result. -/
def resultItems (result : JsonObject) : Except Failure (List JsonObject) :=
  match result.get "list" with
  | .array items => items.mapM resultItem
  | _ => .error (.valueError "Bybit response list must be an array")

/-- The items of a response that is accepted, its time, and its result. -/
def acceptPage (python : PythonValues) (category : Category) (response : JsonObject) :
    Except Failure ((List JsonObject × ℤ) × JsonObject) := do
  validateResponse python response category
  let result ← PrivateRest.resultObject response
  let items ← resultItems result
  let time ← python.int (response.get "time")
  pure ((items, time), result)

/-- The parameters of a request of `_fetch_instrument_items`. -/
def instrumentParams (category : Category) (baseCoin status : Option String) (cursor : String) :
    Params :=
  let params := KeyedTable.empty.upsert ("category", .text (TextEnum.value category))
  let params := params.upsert ("limit", .integer 1000)
  let params :=
    match baseCoin with
    | some baseCoin => params.upsert ("baseCoin", .text baseCoin)
    | none => params
  let params :=
    match status with
    | some status => params.upsert ("status", .text status)
    | none => params
  if cursor = "" then params else params.upsert ("cursor", .text cursor)

/-- `str(result.get("nextPageCursor", ""))`. -/
def nextCursor (python : PythonValues) (result : JsonObject) : String :=
  python.str ((result.lookup "nextPageCursor").getD (.text ""))

/-- What `_fetch_instrument_items` keeps from one request to the next. -/
structure Pages where
  items : List JsonObject
  cursor : String
  seenCursors : List String
  latestTime : ℤ

section Fetching

variable (server : PageServer) (python : PythonValues) (category : Category)
  (baseCoin status : Option String)

/-- A round of `_fetch_instrument_items`. -/
def itemsRound (s : Pages) : Except Failure (Pages ⊕ (List JsonObject × ℤ)) := do
  let response ← server.get python (instrumentParams category baseCoin status s.cursor)
  let ((pageItems, latestTime), result) ← acceptPage python category response
  let items := s.items ++ pageItems
  let nextCursor := nextCursor python result
  if nextCursor = "" then pure (.inr (items, latestTime))
  else do
    refuseIf (nextCursor ∈ s.seenCursors) "Bybit instrument pagination cursor repeated"
    pure (.inl
      { items, cursor := nextCursor, seenCursors := nextCursor :: s.seenCursors, latestTime })

/-- `_fetch_instrument_items`, for at most so many requests. -/
def fetchInstrumentItems (fuel : ℕ) :
    Option (List PageRequest × Except Failure (List JsonObject × ℤ)) :=
  (WhileLoop.rounds (itemsRound server python category baseCoin status) fuel
    { items := [], cursor := "", seenCursors := [], latestTime := 0 }).map
    fun r => (r.1.map fun s =>
      ⟨"/v5/market/instruments-info", instrumentParams category baseCoin status s.cursor⟩, r.2)

/-- The cursors the client asks for, and what comes of it. -/
def cursorReads (fuel : ℕ) : Option (List String × Except Failure (List JsonObject × ℤ)) :=
  (fetchInstrumentItems server python category baseCoin status fuel).map fun r =>
    (r.1.map fun request => cursorOf python request.params, r.2)

/-- The items of these pages in a row, and the time of the last. -/
def collect (pages : List (List JsonObject × ℤ)) : List JsonObject × ℤ :=
  (pages.flatMap Prod.fst, (pages.getLast?.map Prod.snd).getD 0)

/-- The chain the client follows. -/
def readChain (cursor : String) : Except Failure ((List JsonObject × ℤ) × Option String) := do
  let response ← server.answer cursor
  let (page, result) ← acceptPage python category response
  let nextCursor := nextCursor python result
  pure (page, if nextCursor = "" then none else some nextCursor)

end Fetching

section Reading

variable {server : PageServer} {python : PythonValues} {category : Category}
  {baseCoin status : Option String}

theorem cursorOf_instrumentParams (cursor : String) :
    cursorOf python (instrumentParams category baseCoin status cursor) = cursor := by
  have hnone : cursorOf python KeyedTable.empty = "" := rfl
  by_cases hcursor : cursor = ""
  · subst hcursor
    cases baseCoin <;> cases status <;> simp [instrumentParams, cursorOf_upsert_of_ne, hnone]
  · simp only [instrumentParams, if_neg hcursor]
    exact cursorOf_upsert python _ (.text cursor)

theorem acceptPage_eq_ok {response result : JsonObject} {page : List JsonObject × ℤ}
    (h : acceptPage python category response = .ok (page, result)) :
    response.get "result" = .object result := by
  simp only [acceptPage, bind_eq_ok] at h
  obtain ⟨_, -, result', hresult, items, -, time, -, hpure⟩ := h
  cases hpure
  exact PrivateRest.resultObject_eq_ok.mp hresult

theorem takesResult_acceptPage : TakesResult (acceptPage python category) := fun _ _ _ h =>
  acceptPage_eq_ok h

/-- The client is where the reader of its chain is. -/
structure IsAt (w : Walk String (List JsonObject × ℤ)) (s : Pages) : Prop where
  cursor : s.cursor = w.cursor
  items : s.items = w.pages.flatMap Prod.fst
  seenCursors : s.seenCursors = w.seen

theorem itemsRound_related {w : Walk String (List JsonObject × ℤ)} {s : Pages} (h : IsAt w s) :
    Related IsAt collect
      (follow (readChain server python category)
        (refuseSeen (.valueError "Bybit instrument pagination cursor repeated")) w)
      (itemsRound server python category baseCoin status s) := by
  unfold itemsRound follow readChain PageServer.get
  rw [cursorOf_instrumentParams, h.cursor, h.items, h.seenCursors]
  cases server.answer w.cursor with
  | error failure => exact .raise failure
  | ok response =>
    simp only [ok_bind]
    cases acceptPage python category response with
    | error failure => exact .raise failure
    | ok accepted =>
      obtain ⟨⟨items, time⟩, result⟩ := accepted
      simp only [ok_bind, pure, Except.pure]
      by_cases hempty : nextCursor python result = ""
      · rw [if_pos hempty, if_pos hempty]
        have hcollect : collect (w.pages ++ [(items, time)]) =
            (w.pages.flatMap Prod.fst ++ items, time) := by
          simp [collect]
        rw [← hcollect]
        exact .stop _
      · rw [if_neg hempty, if_neg hempty]
        simp only [refuseSeen, refuseIf]
        by_cases hseen : nextCursor python result ∈ w.seen
        · rw [if_pos hseen]
          exact .raise _
        · rw [if_neg hseen]
          exact .next ⟨rfl, by simp, rfl⟩

theorem cursorReads_eq_reader :
    cursorReads server python category baseCoin status =
      reader (readChain server python category)
        (refuseSeen (.valueError "Bybit instrument pagination cursor repeated")) ""
        (fun pages => .ok (collect pages)) := by
  funext fuel
  have hstart :
      IsAt ⟨"", [], []⟩ { items := [], cursor := "", seenCursors := [], latestTime := 0 } :=
    ⟨rfl, rfl, rfl⟩
  have hreader := rounds_eq_reader
    (@itemsRound_related server python category baseCoin status) (fun _ _ h => h.cursor) hstart fuel
  rw [cursorReads, fetchInstrumentItems, Option.map_map]
  simp only [Function.comp_def, List.map_map, cursorOf_instrumentParams]
  exact hreader

theorem readChain_eq_ok {cursor : String} {page : List JsonObject × ℤ} {next : Option String} :
    readChain server python category cursor = .ok (page, next) ↔
      ∃ response result, server.answer cursor = .ok response ∧
        acceptPage python category response = .ok (page, result) ∧
        (if nextCursor python result = "" then none else some (nextCursor python result)) =
          next := by
  simp only [readChain, bind_eq_ok]
  constructor
  · rintro ⟨response, hresponse, ⟨page', result⟩, haccept, hpure⟩
    cases hpure
    exact ⟨response, result, hresponse, haccept, rfl⟩
  · rintro ⟨response, result, hresponse, haccept, rfl⟩
    exact ⟨response, hresponse, (page, result), haccept, rfl⟩

variable (python) in
/-- `str` makes of `null` a text like another. -/
theorem nextCursor_cases {cursor : String} {response result : JsonObject}
    (hresponse : server.answer cursor = .ok response)
    (hresult : response.get "result" = .object result) :
    (result.lookup "nextPageCursor" ≠ some .null ∧
        (if nextCursor python result = "" then none else some (nextCursor python result)) =
          namedCursor result) ∨
      (result.lookup "nextPageCursor" = some .null ∧ namedCursor result = none ∧
        nextCursor python result = "None") := by
  unfold nextCursor namedCursor
  cases hnext : result.lookup "nextPageCursor" with
  | none => exact .inl ⟨by simp, rfl⟩
  | some value =>
    rcases server.textual _ _ _ _ hresponse hresult hnext with rfl | ⟨shown, rfl⟩
    · exact .inr ⟨rfl, rfl, rfl⟩
    · exact .inl ⟨by simp, rfl⟩

/-- The chain has a page that gives `null` for the next cursor. -/
def EndsInNull (server : PageServer) (python : PythonValues) (category : Category) : Prop :=
  ∃ cs ps d response page result,
    Leads (server.chain (acceptPage python category)) "" cs ps d ∧
    server.answer d = .ok response ∧ acceptPage python category response = .ok (page, result) ∧
    result.lookup "nextPageCursor" = some .null

/-- Where the client reads on past the server's last page, that page gives `null`. -/
theorem readChain_eq_chain_iff {cursor : String} :
    readChain server python category cursor = server.chain (acceptPage python category) cursor ↔
      ∀ response page result, server.answer cursor = .ok response →
        acceptPage python category response = .ok (page, result) →
        result.lookup "nextPageCursor" ≠ some .null := by
  unfold readChain PageServer.chain
  cases hresponse : server.answer cursor with
  | error failure =>
    refine ⟨fun _ _ _ _ h => ?_, fun _ => rfl⟩
    cases h
  | ok response =>
    simp only [ok_bind]
    cases haccept : acceptPage python category response with
    | error failure =>
      refine ⟨fun _ response' page result h haccept' => ?_, fun _ => rfl⟩
      cases h
      rw [haccept] at haccept'
      cases haccept'
    | ok accepted =>
      obtain ⟨page, result⟩ := accepted
      simp only [ok_bind, pure, Except.pure]
      rcases nextCursor_cases python hresponse (acceptPage_eq_ok haccept) with
        ⟨hne, hsame⟩ | ⟨hnull, hnone, hread⟩
      · rw [hsame]
        refine ⟨fun _ response' page' result' h haccept' => ?_, fun _ => rfl⟩
        cases h
        rw [haccept] at haccept'
        cases haccept'
        exact hne
      · rw [hnone, hread, if_neg (by decide)]
        constructor
        · intro h
          cases h
        · intro h
          exact absurd hnull (h response page result rfl haccept)

/-- `_fetch_instrument_items` reads every chain as it should that does not end in a `null`. -/
theorem paginates_fetchInstrumentItems_iff (baseCoin status : Option String) :
    Paginates (server.chain (acceptPage python category)) "" (fun pages => .ok (collect pages))
        (cursorReads server python category baseCoin status) ↔
      ¬ EndsInNull server python category := by
  rw [cursorReads_eq_reader, paginates_guarded_iff
    (fun _ _ _ h => server.named takesResult_acceptPage h) ?_ fun pages => ⟨collect pages, rfl⟩]
  · constructor
    · rintro hsame ⟨cs, ps, d, response, page, result, hlead, hresponse, haccept, hnull⟩
      exact readChain_eq_chain_iff.mp (hsame cs ps d hlead) response page result hresponse haccept
        hnull
    · intro hnull cs ps d hlead
      exact readChain_eq_chain_iff.mpr fun response page result hresponse haccept h =>
        hnull ⟨cs, ps, d, response, page, result, hlead, hresponse, haccept, h⟩
  · intro cursor
    by_cases hsame : readChain server python category cursor =
        server.chain (acceptPage python category) cursor
    · exact .inl hsame
    · right
      rw [readChain_eq_chain_iff] at hsame
      push Not at hsame
      obtain ⟨response, page, result, hresponse, haccept, hnull⟩ := hsame
      have hnone : namedCursor result = none := by
        rw [namedCursor, hnull]
      have hread : nextCursor python result = "None" := by
        rw [nextCursor, hnull]
        rfl
      refine ⟨page, "None",
        PageServer.chain_eq_ok.mpr ⟨response, result, hresponse, haccept, hnone⟩,
        readChain_eq_ok.mpr ⟨response, result, hresponse, haccept, ?_⟩⟩
      rw [hread]
      rfl

end Reading

end PublicRest

end CreditHedge
