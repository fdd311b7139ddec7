import Mathlib.Data.List.Nodup

/-!
# Enumerations with texts

An enumeration whose members are written as texts, each as its own: reading the text of a member
gives back that member (`ofValue_value`).
-/

set_option autoImplicit false

/-- An enumeration, its members written as texts. -/
class TextEnum (α : Type*) where
  members : List α
  value : α → String
  mem_members : ∀ a, a ∈ members
  nodup_values : (members.map value).Nodup

namespace TextEnum

variable {α : Type*} [TextEnum α]

/-- The member of a text. -/
def ofValue (text : String) : Option α := members.find? fun a => value a = text

theorem value_injective : Function.Injective (value : α → String) := fun a b h =>
  List.inj_on_of_nodup_map nodup_values (mem_members a) (mem_members b) h

@[simp] theorem ofValue_value (a : α) : ofValue (value a) = some a := by
  unfold ofValue
  cases h : (members : List α).find? fun b => value b = value a with
  | none => exact absurd (List.find?_eq_none.mp h a (mem_members a)) (by simp)
  | some b =>
    have hb : value b = value a := by simpa using List.find?_some h
    rw [value_injective hb]

end TextEnum
