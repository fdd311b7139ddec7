import CreditHedge.Domain.ExchangeReports

/-!
# Records of the exchange, read twice

The exchange reports an order, an execution or a position as a JSON object whose numbers are texts.
`infrastructure/bybit/private_rest.py` reads such objects from answers to requests, and
`infrastructure/bybit/private_parsers.py` from the messages of the private stream. The two were
written by hand, each with its own helpers, and what they have in common is only what Python makes
of a value: `Decimal(str(value))`, `int(value)` and `datetime.fromtimestamp`. These are a parameter
here (`Readings`), of which nothing is assumed but that `int` makes nothing of an absent value.

A key that is absent reads as `null`, as with `dict.get`. The payload's hash, and the dropping of
an order update that repeats the last one, are left out.
-/

set_option autoImplicit false

namespace CreditHedge

/-! ## JSON values -/

inductive JsonValue where
  | null
  | boolean (value : Bool)
  | integer (value : ℤ)
  /-- A number with a fraction, as `str` shows it. -/
  | real (shown : String)
  | text (value : String)
  /-- An array or an object. -/
  | compound
  deriving DecidableEq

/-- An object: the values under its keys. -/
abbrev JsonRecord := String → Option JsonValue

/-- `item.get(key)`. -/
def JsonRecord.get (item : JsonRecord) (key : String) : JsonValue := (item key).getD .null

/-- `value is None or value == ""`. -/
def JsonValue.IsAbsent (value : JsonValue) : Prop := value = .null ∨ value = .text ""

instance (value : JsonValue) : Decidable value.IsAbsent := inferInstanceAs (Decidable (_ ∨ _))

/-- What `Decimal(str(value))` comes to. -/
inductive DecimalReading where
  | invalid
  | notFinite
  | finite (value : ℚ)
  deriving DecidableEq

/-- What Python makes of a value. -/
structure Readings where
  /-- `Decimal(str(value))`. -/
  decimal : JsonValue → DecimalReading
  /-- `int(value)`. -/
  int : JsonValue → Option ℤ
  /-- `datetime.fromtimestamp` of epoch milliseconds. -/
  datetime : ℤ → Option Time
  int_absent : ∀ value, value.IsAbsent → int value = none

/-! ### Python's own

What Python makes of texts in ASCII; of digits in other scripts it makes the same as of these. -/

/-- `value.strip()`. -/
def strip (value : List Char) : List Char :=
  ((value.dropWhile isSpace).reverse.dropWhile isSpace).reverse

/-- An optional sign, and what follows it. -/
def signOf : List Char → Bool × List Char
  | '-' :: rest => (true, rest)
  | '+' :: rest => (false, rest)
  | rest => (false, rest)

def digitsValue (digits : List Char) : ℕ := digits.foldl (fun n c => 10 * n + (c.toNat - 48)) 0

def signed (negative : Bool) (n : ℕ) : ℤ := if negative then -n else n

/-- `[('e' | 'E') [sign] digits]`. -/
def readExponent : List Char → Option ℤ
  | [] => some 0
  | c :: rest =>
    let (negative, digits) := signOf rest
    if (c = 'e' ∨ c = 'E') ∧ digits ≠ [] ∧ digits.all Char.isDigit then
      some (signed negative (digitsValue digits))
    else none

/-- `Inf`, `Infinity`, `NaN` and `sNaN`, in any case, the last two with a payload. -/
def isSpecial (body : List Char) : Bool :=
  let lower := body.map Char.toLower
  lower = "inf".toList || lower = "infinity".toList ||
    (lower.take 3 = "nan".toList && (lower.drop 3).all Char.isDigit) ||
    (lower.take 4 = "snan".toList && (lower.drop 4).all Char.isDigit)

/-- `Decimal(value)` of a text. -/
def decimalOfText (value : String) : DecimalReading :=
  let (negative, body) := signOf ((strip value.toList).filter fun c => c ≠ '_')
  if isSpecial body then .notFinite
  else
    let whole := body.takeWhile Char.isDigit
    let (fraction, tail) :=
      match body.dropWhile Char.isDigit with
      | '.' :: rest => (rest.takeWhile Char.isDigit, rest.dropWhile Char.isDigit)
      | rest => ([], rest)
    match readExponent tail with
    | none => .invalid
    | some exponent =>
      if whole ++ fraction = [] then .invalid
      else
        let coefficient : ℚ := signed negative (digitsValue (whole ++ fraction))
        let scale := exponent - fraction.length
        .finite (if 0 ≤ scale then coefficient * (10 ^ scale.toNat : ℕ)
          else coefficient / (10 ^ (-scale).toNat : ℕ))

/-- `int(value)` of a text: digits, with single underscores between them. -/
def intOfText (value : String) : Option ℤ :=
  let (negative, body) := signOf (strip value.toList)
  if (body.splitOn '_').all fun part => part ≠ [] && part.all Char.isDigit then
    some (signed negative (digitsValue (body.filter fun c => c ≠ '_')))
  else none

/-- The last millisecond of the year 9999. -/
def lastMillisecond : ℤ := 253402300799999

def pythonReadings : Readings where
  decimal
    | .integer n => .finite n
    | .real shown => decimalOfText shown
    | .text value => decimalOfText value
    | _ => .invalid
  int
    | .integer n => some n
    | .real shown =>
      match decimalOfText shown with
      | .finite q => some (q.num.tdiv q.den)
      | _ => none
    | .text value => intOfText value
    | _ => none
  datetime milliseconds := if milliseconds ≤ lastMillisecond then some milliseconds else none
  int_absent value habsent := by
    rcases habsent with rfl | rfl <;> rfl

/-! ## Over REST -/

namespace PrivateRest

variable (readings : Readings)

/-- `_text`. -/
def text (value : JsonValue) (fieldName : String) : Except Failure String :=
  match value with
  | .text value => .ok value
  | _ => .error (.valueError (fieldName ++ " must be a string"))

/-- `_required_text`. -/
def requiredText (item : JsonRecord) (key : String) : Except Failure String := do
  let value ← text (item.get key) key
  refuseIf (value = "") (key ++ " cannot be empty")
  pure value

/-- `_optional_text`. -/
def optionalText (value : JsonValue) : Except Failure (Option String) :=
  if value.IsAbsent then .ok none
  else
    match value with
    | .text value => .ok (some value)
    | _ => .error (.valueError "optional Bybit text field must be a string")

/-- `_optional_integer`. -/
def optionalInteger (value : JsonValue) (fieldName : String) : Except Failure (Option ℤ) :=
  if value.IsAbsent then .ok none
  else
    match value with
    | .boolean _ => .error (.valueError (fieldName ++ " must be an integer"))
    | value =>
      match readings.int value with
      | some n => .ok (some n)
      | none => .error (.valueError (fieldName ++ " must be an integer"))

/-- `_decimal`. -/
def decimal (value : JsonValue) (fieldName : String) (fallback : Option ℚ) : Except Failure ℚ :=
  if value.IsAbsent then
    match fallback with
    | some q => .ok q
    | none => .error (.valueError (fieldName ++ " cannot be empty"))
  else
    match readings.decimal value with
    | .invalid => .error (.valueError (fieldName ++ " must be a decimal"))
    | .notFinite => .error (.valueError (fieldName ++ " must be finite"))
    | .finite q => .ok q

/-- `_optional_decimal`. -/
def optionalDecimal (value : JsonValue) (fieldName : String) : Except Failure (Option ℚ) :=
  if value.IsAbsent then .ok none
  else do
    let q ← decimal readings value fieldName none
    pure (some q)

/-- `_optional_positive_decimal`: zero is no value. -/
def optionalPositiveDecimal (value : JsonValue) (fieldName : String) :
    Except Failure (Option ℚ) := do
  let result ← optionalDecimal readings value fieldName
  pure (if result = some 0 then none else result)

/-- `_bool`. -/
def bool (value : JsonValue) (fieldName : String) : Except Failure Bool :=
  match value with
  | .boolean value => .ok value
  | _ => .error (.valueError (fieldName ++ " must be a boolean"))

/-- `_order_side`. -/
def orderSide (value : JsonValue) : Except Failure OrderSide :=
  match value with
  | .text "Buy" => .ok .buy
  | .text "Sell" => .ok .sell
  | _ => .error (.valueError "side must be Buy or Sell")

/-- `_order_type`. -/
def orderType (value : JsonValue) : Except Failure OrderType :=
  match value with
  | .text "Market" => .ok .market
  | .text "Limit" => .ok .limit
  | _ => .error (.valueError "orderType must be Market or Limit")

/-- `_timestamp`. -/
def timestamp (value : JsonValue) (fieldName : String) : Except Failure Time :=
  match value with
  | .boolean _ => .error (.valueError (fieldName ++ " must be epoch milliseconds"))
  | value =>
    match readings.int value with
    | none => .error (.valueError (fieldName ++ " must be epoch milliseconds"))
    | some milliseconds =>
      if milliseconds < 0 then .error (.valueError (fieldName ++ " cannot be negative"))
      else
        match readings.datetime milliseconds with
        | some t => .ok t
        | none => .error (.valueError "timestamp is out of range")

/-- `_category(_optional_text(item.get("category")) or fallback_category)`. -/
def category (item : JsonRecord) (fallbackCategory : Category) : Except Failure Category := do
  match ← optionalText (item.get "category") with
  | none => pure fallbackCategory
  | some "linear" => pure .linear
  | some "option" => pure .option
  | some _ => throw (.valueError "category must be linear or option")

/-- A trigger source: the constructor refuses a text that is none. -/
def triggerSource : Option String → Option TriggerBy
  | some "LastPrice" => some .lastPrice
  | some "IndexPrice" => some .indexPrice
  | some "MarkPrice" => some .markPrice
  | _ => none

/-- `None if trigger_price is None else …`. -/
def triggerBy (item : JsonRecord) (triggerPrice : Option ℚ) : Except Failure (Option TriggerBy) :=
  if triggerPrice = none then .ok none
  else triggerSource <$> optionalText (item.get "triggerBy")

/-- `None if trigger_price is None else …`. -/
def triggerDirection (item : JsonRecord) (triggerPrice : Option ℚ) : Except Failure (Option ℤ) :=
  if triggerPrice = none then .ok none
  else optionalInteger readings (item.get "triggerDirection") "triggerDirection"

/-- A time in force; a text that is none is refused here, and not in the constructor. -/
def timeInForce : Option String → Except Failure (Option TimeInForce)
  | none => .ok none
  | some "GTC" => .ok (some .gtc)
  | some "IOC" => .ok (some .ioc)
  | some "FOK" => .ok (some .fok)
  | some "PostOnly" => .ok (some .postOnly)
  | some _ => .error (.valueError "unsupported time in force")

/-- A number that a constructor only compares with 0, 1 and 2: a negative one is as good as 3. -/
def indexOf (n : ℤ) : ℕ := if n < 0 then 3 else n.toNat

/-- `False if item.get("closeOnTrigger") is None else _bool(…)`. -/
def closeOnTrigger (item : JsonRecord) : Except Failure Bool :=
  if item.get "closeOnTrigger" = .null then .ok false
  else bool (item.get "closeOnTrigger") "closeOnTrigger"

/-- `_parse_exchange_order`. -/
def parseExchangeOrder (fallbackCategory : Category) (item : JsonRecord) :
    Except Failure ExchangeOrder := do
  let category ← category item fallbackCategory
  let triggerPrice ← optionalPositiveDecimal readings (item.get "triggerPrice") "triggerPrice"
  let orderId ← requiredText item "orderId"
  let orderLinkId ← text (item.get "orderLinkId") "orderLinkId"
  let symbol ← requiredText item "symbol"
  let status ← requiredText item "orderStatus"
  let side ← orderSide (item.get "side")
  let orderType ← orderType (item.get "orderType")
  let price ← optionalPositiveDecimal readings (item.get "price") "price"
  let quantity ← decimal readings (item.get "qty") "qty" none
  let cumulativeFilledQuantity ← decimal readings (item.get "cumExecQty") "cumExecQty" (some 0)
  let averagePrice ← optionalPositiveDecimal readings (item.get "avgPrice") "avgPrice"
  let reduceOnly ← bool (item.get "reduceOnly") "reduceOnly"
  let createdAt ← timestamp readings (item.get "createdTime") "createdTime"
  let updatedAt ← timestamp readings (item.get "updatedTime") "updatedTime"
  let triggerBy ← triggerBy item triggerPrice
  let triggerDirection ← triggerDirection readings item triggerPrice
  let timeInForce ← timeInForce (← optionalText (item.get "timeInForce"))
  let positionIdx ← optionalInteger readings (item.get "positionIdx") "positionIdx"
  let closeOnTrigger ← closeOnTrigger item
  ExchangeOrder.create
    { category, orderId, orderLinkId, symbol, status, side, orderType, price, quantity,
      cumulativeFilledQuantity, averagePrice, reduceOnly, createdAt, updatedAt, triggerPrice,
      triggerBy, triggerDirection := triggerDirection.map indexOf, timeInForce,
      positionIdx := positionIdx.map indexOf, closeOnTrigger }

/-- `isMaker`, a boolean where it is present. -/
def isMaker (item : JsonRecord) : Except Failure (Option Bool) :=
  match item.get "isMaker" with
  | .null => .ok none
  | .boolean value => .ok (some value)
  | _ => .error (.valueError "isMaker must be a boolean when present")

/-- `_parse_execution`. -/
def parseExecution (item : JsonRecord) : Except Failure ExecutionUpdate := do
  let isMaker ← isMaker item
  let executionId ← requiredText item "execId"
  let orderId ← requiredText item "orderId"
  let orderLinkId ← text (item.get "orderLinkId") "orderLinkId"
  let symbol ← requiredText item "symbol"
  let side ← orderSide (item.get "side")
  let price ← decimal readings (item.get "execPrice") "execPrice" none
  let quantity ← decimal readings (item.get "execQty") "execQty" none
  let fee ← decimal readings (item.get "execFee") "execFee" (some 0)
  let executedAt ← timestamp readings (item.get "execTime") "execTime"
  build ExecutionFields.check ExecutionUpdate.mk
    { executionId, orderId, orderLinkId, symbol, side, price, quantity, fee, isMaker, executedAt }

/-- `None if raw_side is None else _order_side(raw_side)`. -/
def positionSide (item : JsonRecord) : Except Failure (Option OrderSide) := do
  match ← optionalText (item.get "side") with
  | none => pure none
  | some side => some <$> orderSide (.text side)

/-- `observed_at if item.get("updatedTime") in (None, "") else _timestamp(…)`. -/
def positionTime (item : JsonRecord) (observedAt : Time) : Except Failure Time :=
  if (item.get "updatedTime").IsAbsent then .ok observedAt
  else timestamp readings (item.get "updatedTime") "updatedTime"

/-- `_parse_position`. -/
def parsePosition (fallbackCategory : Category) (observedAt : Time) (item : JsonRecord) :
    Except Failure ExchangePosition := do
  let side ← positionSide item
  let category ← category item fallbackCategory
  let symbol ← requiredText item "symbol"
  let quantity ← decimal readings (item.get "size") "size" (some 0)
  let averagePrice ← optionalPositiveDecimal readings (item.get "avgPrice") "avgPrice"
  let markPrice ← optionalPositiveDecimal readings (item.get "markPrice") "markPrice"
  let liquidationPrice ← optionalPositiveDecimal readings (item.get "liqPrice") "liqPrice"
  let unrealizedPnl ← decimal readings (item.get "unrealisedPnl") "unrealisedPnl" (some 0)
  let updatedAt ← positionTime readings item observedAt
  let positionIdx ← optionalInteger readings (item.get "positionIdx") "positionIdx"
  ExchangePosition.create
    { category, symbol, side, quantity, averagePrice, markPrice, unrealizedPnl, updatedAt,
      positionIdx := indexOf (positionIdx.getD 0), liquidationPrice }

end PrivateRest

/-! ## On the stream -/

namespace PrivateParsers

variable (readings : Readings)

/-- `_int`. -/
def int (value : JsonValue) (fieldName : String) : Except Failure ℤ :=
  match value with
  | .boolean _ => .error (.valueError ("Bybit " ++ fieldName ++ " must be an integer"))
  | value =>
    match readings.int value with
    | some n => .ok n
    | none => .error (.valueError ("Bybit " ++ fieldName ++ " must be an integer"))

/-- `_required_int`. -/
def requiredInt (parent : JsonRecord) (key : String) : Except Failure ℤ :=
  match parent key with
  | none => .error (.valueError ("Bybit " ++ key ++ " is required"))
  | some value => int readings value key

/-- `_timestamp`. -/
def timestamp (milliseconds : ℤ) (fieldName : String) : Except Failure Time :=
  if milliseconds < 0 then .error (.valueError (fieldName ++ " cannot be negative"))
  else
    match readings.datetime milliseconds with
    | some t => .ok t
    | none => .error (.valueError "timestamp is out of range")

/-- `_item_time`. -/
def itemTime (item : JsonRecord) (fallback : Time) : Except Failure Time :=
  if (item.get "updatedTime").IsAbsent then .ok fallback
  else do
    let milliseconds ← int readings (item.get "updatedTime") "updatedTime"
    timestamp readings milliseconds "item update time"

/-- `_optional_position_idx`. -/
def optionalPositionIdx (value : JsonValue) : Except Failure ℤ :=
  if value.IsAbsent then .ok 0
  else do
    let positionIdx ← int readings value "positionIdx"
    refuseIf (positionIdx ≠ 0 ∧ positionIdx ≠ 1 ∧ positionIdx ≠ 2)
      "Bybit positionIdx must be 0, 1, or 2"
    pure positionIdx

/-- `_required_text`. -/
def requiredText (parent : JsonRecord) (key : String) : Except Failure String :=
  match parent.get key with
  | .text value =>
    if isBlank value then .error (.valueError ("Bybit " ++ key ++ " must be a non-empty string"))
    else .ok value
  | _ => .error (.valueError ("Bybit " ++ key ++ " must be a non-empty string"))

/-- `_optional_text`. -/
def optionalText (value : JsonValue) : Except Failure String :=
  if value.IsAbsent then .ok ""
  else
    match value with
    | .text value => .ok value
    | _ => .error (.valueError "Bybit optional text must be a string")

/-- `_optional_decimal`. -/
def optionalDecimal (value : JsonValue) (fieldName : String) : Except Failure (Option ℚ) :=
  if value.IsAbsent then .ok none
  else
    match readings.decimal value with
    | .finite q => .ok (some q)
    | _ => .error (.valueError ("Bybit " ++ fieldName ++ " must be a finite decimal"))

/-- `_required_decimal`. -/
def requiredDecimal (parent : JsonRecord) (key : String) : Except Failure ℚ := do
  match ← optionalDecimal readings (parent.get key) key with
  | some q => pure q
  | none => throw (.valueError ("Bybit " ++ key ++ " is required"))

/-- `_decimal_or_zero`. -/
def decimalOrZero (value : JsonValue) (fieldName : String) : Except Failure ℚ := do
  let parsed ← optionalDecimal readings value fieldName
  pure (parsed.getD 0)

/-- `_optional_positive_decimal`: zero is no value. -/
def optionalPositiveDecimal (value : JsonValue) (fieldName : String) :
    Except Failure (Option ℚ) := do
  let parsed ← optionalDecimal readings value fieldName
  pure (if parsed = some 0 then none else parsed)

/-- `_side`. -/
def side (value : JsonValue) : Except Failure OrderSide :=
  match value with
  | .text "Buy" => .ok .buy
  | .text "Sell" => .ok .sell
  | _ => .error (.valueError "Bybit side must be Buy or Sell")

/-- `_position_side`. -/
def positionSide (value : JsonValue) : Except Failure (Option OrderSide) :=
  if value = .text "" then .ok none else some <$> side value

/-- `_order_type`. -/
def orderType (value : JsonValue) : Except Failure OrderType :=
  match value with
  | .text "Market" => .ok .market
  | .text "Limit" => .ok .limit
  | _ => .error (.valueError "Bybit order type must be Market or Limit")

/-- `_category`. -/
def category (value : JsonValue) : Except Failure Category :=
  match value with
  | .text "option" => .ok .option
  | .text "linear" => .ok .linear
  | _ => .error (.valueError "Bybit position category must be option or linear")

/-- `_optional_bool`. -/
def optionalBool (value : JsonValue) (fieldName : String) : Except Failure (Option Bool) :=
  if value.IsAbsent then .ok none
  else
    match value with
    | .boolean value => .ok (some value)
    | _ => .error (.valueError ("Bybit " ++ fieldName ++ " must be a boolean"))

/-- One item of `parse_order_message`. -/
def parseOrder (receivedAt : Time) (item : JsonRecord) : Except Failure OrderUpdate := do
  let orderId ← requiredText item "orderId"
  let orderLinkId ← optionalText (item.get "orderLinkId")
  let symbol ← requiredText item "symbol"
  let status ← requiredText item "orderStatus"
  let side ← side (item.get "side")
  let orderType ← orderType (item.get "orderType")
  let price ← optionalDecimal readings (item.get "price") "price"
  let quantity ← requiredDecimal readings item "qty"
  let cumulativeFilledQuantity ←
    decimalOrZero readings (item.get "cumExecQty") "cumulative executed quantity"
  let averagePrice ← optionalDecimal readings (item.get "avgPrice") "average price"
  let updatedAt ← itemTime readings item receivedAt
  OrderUpdate.create
    { orderId, orderLinkId, symbol, status, side, orderType, price, quantity,
      cumulativeFilledQuantity, averagePrice, updatedAt }

/-- One item of `parse_execution_message`. -/
def parseExecution (item : JsonRecord) : Except Failure ExecutionUpdate := do
  let executionId ← requiredText item "execId"
  let orderId ← requiredText item "orderId"
  let orderLinkId ← optionalText (item.get "orderLinkId")
  let symbol ← requiredText item "symbol"
  let side ← side (item.get "side")
  let price ← requiredDecimal readings item "execPrice"
  let quantity ← requiredDecimal readings item "execQty"
  let fee ← decimalOrZero readings (item.get "execFee") "execution fee"
  let isMaker ← optionalBool (item.get "isMaker") "isMaker"
  let executedAt ← timestamp readings (← requiredInt readings item "execTime") "execution time"
  build ExecutionFields.check ExecutionUpdate.mk
    { executionId, orderId, orderLinkId, symbol, side, price, quantity, fee, isMaker, executedAt }

/-- One item of `parse_position_message`. -/
def parsePosition (receivedAt : Time) (item : JsonRecord) : Except Failure ExchangePosition := do
  let category ← category (item.get "category")
  let symbol ← requiredText item "symbol"
  let side ← positionSide (item.get "side")
  let quantity ← requiredDecimal readings item "size"
  let averagePrice ← optionalDecimal readings (item.get "entryPrice") "entry price"
  let markPrice ← optionalDecimal readings (item.get "markPrice") "mark price"
  let liquidationPrice ←
    optionalPositiveDecimal readings (item.get "liqPrice") "liquidation price"
  let unrealizedPnl ← decimalOrZero readings (item.get "unrealisedPnl") "unrealized P&L"
  let updatedAt ← itemTime readings item receivedAt
  let positionIdx ← optionalPositionIdx readings (item.get "positionIdx")
  ExchangePosition.create
    { category, symbol, side, quantity, averagePrice, markPrice, unrealizedPnl, updatedAt,
      positionIdx := positionIdx.toNat, liquidationPrice }

/-- A message of the stream: when it was made, and its items. -/
structure Message where
  creationTime : Option JsonValue
  data : List JsonRecord

/-- `_message_time`. -/
def messageTime (message : Message) : Except Failure Time := do
  match message.creationTime with
  | none => throw (.valueError "Bybit creationTime is required")
  | some value => timestamp readings (← int readings value "creationTime") "message creation time"

def parseOrderMessage (message : Message) : Except Failure (List OrderUpdate) := do
  let receivedAt ← messageTime readings message
  message.data.mapM (parseOrder readings receivedAt)

def parseExecutionMessage (message : Message) : Except Failure (List ExecutionUpdate) := do
  let _ ← messageTime readings message
  message.data.mapM (parseExecution readings)

def parsePositionMessage (message : Message) : Except Failure (List ExchangePosition) := do
  let receivedAt ← messageTime readings message
  message.data.mapM (parsePosition readings receivedAt)

end PrivateParsers

end CreditHedge
