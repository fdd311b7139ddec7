import CreditHedge.Domain.OptionPosition
import CreditHedge.Lib.TextEnums

/-!
# What is written as text

Tables and files hold texts: decimals as `str` shows them, times as `isoformat` does, JSON as
`json.dumps` does, enumerations by their values. The conversions of the library are a parameter
(`Conversions`), with what the code relies on: each reads back what it wrote. Nothing else is known
of a text, so neither its characters nor how texts compare.

The enumerations' values are the source's own.
-/

set_option autoImplicit false

namespace CreditHedge

/-- A JSON value, its strings kept as texts. An object is its members; their order is nothing to
    a `dict`. -/
inductive Json (Text : Type) where
  | null
  | boolean (value : Bool)
  | integer (value : ℤ)
  | string (value : Text)
  | array (items : List (Json Text))
  | object (members : String → Option (Json Text))

/-- `data.get(key)`. -/
def Json.get {Text : Type} (members : String → Option (Json Text)) (key : String) : Json Text :=
  (members key).getD .null

/-- `{key: value, …}`. -/
def Json.ofFields {Text : Type} (fields : List (String × Json Text)) : Json Text :=
  .object fun key => fields.lookup key

theorem lookup_of_mem {α : Type} {fields : List (String × α)} (h : (fields.map Prod.fst).Nodup)
    {field : String × α} (hfield : field ∈ fields) : fields.lookup field.1 = some field.2 := by
  induction fields with
  | nil => cases hfield
  | cons first fields ih =>
    obtain ⟨hnotMem, hnodup⟩ := List.nodup_cons.mp h
    rw [List.lookup_cons]
    rcases List.mem_cons.mp hfield with rfl | hmem
    · simp
    · have hne : (field.1 == first.1) = false := by
        refine beq_eq_false_iff_ne.mpr fun heq => hnotMem ?_
        exact List.mem_map.mpr ⟨field, hmem, heq⟩
      rw [hne]
      exact ih hnodup hmem

theorem Json.get_eq {Text : Type} {data : String → Option (Json Text)} {key : String}
    {value : Json Text} (h : data key = some value) : Json.get data key = value := by
  unfold Json.get
  rw [h]
  rfl

/-- The conversions to a text and back. -/
structure Conversions (Text : Type) where
  /-- A string, kept as it is. -/
  ofString : String → Text
  string : Text → String
  /-- `str` of a decimal, and `Decimal(text)`. -/
  ofDecimal : ℚ → Text
  decimal : Text → Except Failure ℚ
  /-- `str` of an integer, and `int(text)`. -/
  ofInt : ℤ → Text
  int : Text → Except Failure ℤ
  isoformat : Time → Text
  fromisoformat : Text → Except Failure Time
  dumps : Json Text → Text
  loads : Text → Except Failure (Json Text)
  string_ofString : ∀ value, string (ofString value) = value
  decimal_ofDecimal : ∀ value, decimal (ofDecimal value) = .ok value
  fromisoformat_isoformat : ∀ value, fromisoformat (isoformat value) = .ok value
  loads_dumps : ∀ value, loads (dumps value) = .ok value

attribute [simp] Conversions.string_ofString Conversions.decimal_ofDecimal
  Conversions.fromisoformat_isoformat Conversions.loads_dumps

namespace Conversions

variable {Text : Type} (c : Conversions Text)

theorem ofString_injective : Function.Injective c.ofString := fun a b h => by
  have hstring := congrArg c.string h
  rwa [c.string_ofString, c.string_ofString] at hstring

/-- `Enum(text)`. -/
def member {α : Type} [TextEnum α] (name : String) (text : Text) : Except Failure α :=
  match TextEnum.ofValue (c.string text) with
  | some a => .ok a
  | none => .error (.valueError s!"'{c.string text}' is not a valid {name}")

@[simp] theorem member_value {α : Type} [TextEnum α] (name : String) (a : α) :
    c.member name (c.ofString (TextEnum.value a)) = .ok a := by
  unfold member
  rw [c.string_ofString, TextEnum.ofValue_value]

end Conversions

/-! ## Texts known by what was written

The conversions that forget nothing. -/

/-- A text, by what was written as it. -/
inductive WrittenText where
  | string (value : String)
  | decimal (value : ℚ)
  | integer (value : ℤ)
  | time (value : Time)
  | document (value : Json WrittenText)

/-- A text of another kind is refused. -/
def writtenConversions : Conversions WrittenText where
  ofString := .string
  string text :=
    match text with
    | .string value => value
    | _ => ""
  ofDecimal := .decimal
  decimal text :=
    match text with
    | .decimal value => .ok value
    | _ => .error .invalidOperation
  ofInt := .integer
  int text :=
    match text with
    | .integer value => .ok value
    | _ => .error (.valueError "invalid literal for int() with base 10")
  isoformat := .time
  fromisoformat text :=
    match text with
    | .time value => .ok value
    | _ => .error (.valueError "Invalid isoformat string")
  dumps := .document
  loads text :=
    match text with
    | .document value => .ok value
    | _ => .error (.valueError "Expecting value")
  string_ofString _ := rfl
  decimal_ofDecimal _ := rfl
  fromisoformat_isoformat _ := rfl
  loads_dumps _ := rfl

/-! ## The enumerations -/

instance : TextEnum Category where
  members := [.option, .linear]
  value
    | .option => "option"
    | .linear => "linear"
  mem_members category := by cases category <;> decide
  nodup_values := by decide

instance : TextEnum OrderSide where
  members := [.buy, .sell]
  value
    | .buy => "Buy"
    | .sell => "Sell"
  mem_members side := by cases side <;> decide
  nodup_values := by decide

instance : TextEnum OrderType where
  members := [.market, .limit]
  value
    | .market => "Market"
    | .limit => "Limit"
  mem_members orderType := by cases orderType <;> decide
  nodup_values := by decide

instance : TextEnum TimeInForce where
  members := [.gtc, .ioc, .fok, .postOnly]
  value
    | .gtc => "GTC"
    | .ioc => "IOC"
    | .fok => "FOK"
    | .postOnly => "PostOnly"
  mem_members timeInForce := by cases timeInForce <;> decide
  nodup_values := by decide

instance : TextEnum TriggerBy where
  members := [.lastPrice, .indexPrice, .markPrice]
  value
    | .lastPrice => "LastPrice"
    | .indexPrice => "IndexPrice"
    | .markPrice => "MarkPrice"
  mem_members triggerBy := by cases triggerBy <;> decide
  nodup_values := by decide

instance : TextEnum LiveExecutionState where
  members :=
    [.ready, .triggered, .entryRequestPersisted, .entrySubmitted, .entryAcknowledged,
      .entryPartiallyFilled, .activeUnprotected, .activeProtected, .exitPartiallyFilled, .closedTp,
      .closedStop, .cancelPending, .reconciling, .locked, .error]
  value
    | .ready => "READY"
    | .triggered => "TRIGGERED"
    | .entryRequestPersisted => "ENTRY_REQUEST_PERSISTED"
    | .entrySubmitted => "ENTRY_SUBMITTED"
    | .entryAcknowledged => "ENTRY_ACKNOWLEDGED"
    | .entryPartiallyFilled => "ENTRY_PARTIALLY_FILLED"
    | .activeUnprotected => "ACTIVE_UNPROTECTED"
    | .activeProtected => "ACTIVE_PROTECTED"
    | .exitPartiallyFilled => "EXIT_PARTIALLY_FILLED"
    | .closedTp => "CLOSED_TP"
    | .closedStop => "CLOSED_STOP"
    | .cancelPending => "CANCEL_PENDING"
    | .reconciling => "RECONCILING"
    | .locked => "LOCKED"
    | .error => "ERROR"
  mem_members state := by cases state <;> decide
  nodup_values := by decide

instance : TextEnum OptionPositionState where
  members :=
    [.planned, .longProtectionPending, .longProtectionFilled, .shortPremiumPending, .open,
      .partiallyOpen, .closing, .closed, .error]
  value
    | .planned => "PLANNED"
    | .longProtectionPending => "LONG_PROTECTION_PENDING"
    | .longProtectionFilled => "LONG_PROTECTION_FILLED"
    | .shortPremiumPending => "SHORT_PREMIUM_PENDING"
    | .open => "OPEN"
    | .partiallyOpen => "PARTIALLY_OPEN"
    | .closing => "CLOSING"
    | .closed => "CLOSED"
    | .error => "ERROR"
  mem_members state := by cases state <;> decide
  nodup_values := by decide

end CreditHedge
