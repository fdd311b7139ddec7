import CreditHedge.Domain.MarketData
import CreditHedge.Infrastructure.Conversions

/-!
# Canonical JSON

`canonical_json` of `domain/journal.py`: the values a record is made of, as a text. Decimals and
times become strings and an enumeration its value. What it refuses does not arise here: a decimal
is finite, a time has its zone, the keys are strings, and none of the records has a float.

The files of the recorders hold one such text a line. A line is never blank, whatever is written
(`LineConversions.blank_dumps`), and `str` of a string is the string.
-/

set_option autoImplicit false

namespace CreditHedge

/-- A value as Python has it. -/
inductive PlainValue where
  | none
  | boolean (value : Bool)
  | integer (value : ℤ)
  | string (value : String)
  | decimal (value : ℚ)
  | datetime (value : Time)
  /-- A member of an enumeration, by its value. -/
  | member (value : String)
  | list (items : List PlainValue)
  | dict (entries : List (String × PlainValue))

variable {Text : Type}

section Canonical

variable (c : Conversions Text)

mutual

/-- `_canonical_value`. -/
def canonicalValue : PlainValue → Json Text
  | .none => .null
  | .boolean value => .boolean value
  | .integer value => .integer value
  | .string value => .string (c.ofString value)
  | .decimal value => .string (c.ofDecimal value)
  | .datetime value => .string (c.isoformat value)
  | .member value => .string (c.ofString value)
  | .list items => .array (canonicalItems items)
  | .dict entries => .ofFields (canonicalEntries entries)

def canonicalItems : List PlainValue → List (Json Text)
  | [] => []
  | item :: items => canonicalValue item :: canonicalItems items

def canonicalEntries : List (String × PlainValue) → List (String × Json Text)
  | [] => []
  | (key, value) :: entries => (key, canonicalValue value) :: canonicalEntries entries

end

/-- `canonical_json`. -/
def canonicalJson (entries : List (String × PlainValue)) : Text :=
  c.dumps (canonicalValue c (.dict entries))

variable {c}

theorem map_fst_canonicalEntries (entries : List (String × PlainValue)) :
    (canonicalEntries c entries).map Prod.fst = entries.map Prod.fst := by
  induction entries with
  | nil => rfl
  | cons entry entries ih => exact congrArg (entry.1 :: ·) ih

theorem mem_canonicalEntries {entries : List (String × PlainValue)} {entry : String × PlainValue}
    (h : entry ∈ entries) : (entry.1, canonicalValue c entry.2) ∈ canonicalEntries c entries := by
  induction entries with
  | nil => cases h
  | cons first entries ih =>
    rcases List.mem_cons.mp h with rfl | hmem
    · exact List.mem_cons_self
    · exact List.mem_cons_of_mem _ (ih hmem)

/-- Under each key there is the canonical value of what was written under it. -/
theorem lookup_canonicalEntries (c : Conversions Text) (entries : List (String × PlainValue))
    (hkeys : (entries.map Prod.fst).Nodup) :
    ∀ entry ∈ entries, (canonicalEntries c entries).lookup entry.1 =
      some (canonicalValue c entry.2) := by
  intro entry hentry
  rw [← map_fst_canonicalEntries (c := c)] at hkeys
  exact lookup_of_mem hkeys (mem_canonicalEntries hentry)

end Canonical

/-! ## Lines -/

/-- The conversions of a file that is read line by line. -/
structure LineConversions (Text : Type) extends Conversions Text where
  /-- `not line.strip()`. -/
  blank : Text → Bool
  /-- `str` of a value that is not a string. -/
  repr : Json Text → Text
  blank_dumps : ∀ value, blank (dumps value) = false

/-- `str(value)`. -/
def Json.str (c : LineConversions Text) : Json Text → Text
  | .string value => value
  | value => c.repr value

/-- `parent[name]`. -/
def Json.item (parent : String → Option (Json Text)) (name : String) :
    Except Failure (Json Text) :=
  match parent name with
  | some value => .ok value
  | none => .error (.keyError name)

theorem Json.item_eq {parent : String → Option (Json Text)} {name : String} {value : Json Text}
    (h : parent name = some value) : Json.item parent name = .ok value := by
  unfold Json.item
  rw [h]

/-- The conversions that forget nothing, for a file: what is written as JSON is never blank. -/
def writtenLines : LineConversions WrittenText where
  toConversions := writtenConversions
  blank text :=
    match text with
    | .string value => isBlank value
    | _ => false
  repr := .document
  blank_dumps _ := rfl

end CreditHedge
