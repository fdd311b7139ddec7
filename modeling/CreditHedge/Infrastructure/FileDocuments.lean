import CreditHedge.Infrastructure.BybitPages
import Mathlib.Logic.Encodable.Basic

/-!
# Documents in a file

A JSON document that is the whole of a file, written by
`json.dumps(…, allow_nan=False, separators=(",", ":"), sort_keys=True)`. What comes back of it is
the document with the members of all its objects in order (`Payload.sorted`). To a reader who asks
for one key at a time, that is the document itself (`lookup_sortedMembers`).
-/

set_option autoImplicit false

namespace CreditHedge

/-! ## Dictionaries as lists -/

section Items

variable {α β : Type}

/-- `items[key] = value`. -/
def setItem (items : List (String × α)) (key : String) (value : α) : List (String × α) :=
  match items with
  | [] => [(key, value)]
  | (key', value') :: items =>
    if key' = key then (key, value) :: items else (key', value') :: setItem items key value

theorem lookup_cons_eq (item : String × α) (items : List (String × α)) (key : String) :
    (item :: items).lookup key = if key = item.1 then some item.2 else items.lookup key := by
  rw [List.lookup_cons]
  by_cases hkey : key = item.1
  · rw [beq_iff_eq.mpr hkey, if_pos hkey]
  · rw [beq_eq_false_iff_ne.mpr hkey, if_neg hkey]

theorem lookup_setItem (items : List (String × α)) (key : String) (value : α) (key' : String) :
    (setItem items key value).lookup key' =
      if key' = key then some value else items.lookup key' := by
  induction items with
  | nil => exact lookup_cons_eq _ _ _
  | cons item items ih =>
    obtain ⟨first, held⟩ := item
    unfold setItem
    by_cases hfirst : first = key
    · subst hfirst
      rw [if_pos rfl, lookup_cons_eq, lookup_cons_eq]
      by_cases hkey : key' = first
      · simp [hkey]
      · simp [hkey]
    · rw [if_neg hfirst, lookup_cons_eq, lookup_cons_eq, ih]
      by_cases hkey : key' = first
      · subst hkey
        simp [hfirst]
      · simp [hkey]

theorem mem_keys_setItem {items : List (String × α)} {key : String} {value : α} {key' : String}
    (h : key' ∈ (setItem items key value).map Prod.fst) :
    key' = key ∨ key' ∈ items.map Prod.fst := by
  induction items with
  | nil => exact .inl (List.mem_singleton.mp h)
  | cons item items ih =>
    obtain ⟨first, held⟩ := item
    unfold setItem at h
    split at h
    · rcases List.mem_cons.mp h with rfl | hmem
      · exact .inl rfl
      · exact .inr (List.mem_cons_of_mem _ hmem)
    · rcases List.mem_cons.mp h with rfl | hmem
      · exact .inr List.mem_cons_self
      · exact (ih hmem).imp id (List.mem_cons_of_mem _)

theorem nodup_setItem {items : List (String × α)} (h : (items.map Prod.fst).Nodup) (key : String)
    (value : α) : ((setItem items key value).map Prod.fst).Nodup := by
  induction items with
  | nil => simp [setItem]
  | cons item items ih =>
    obtain ⟨first, held⟩ := item
    obtain ⟨hnew, hnodup⟩ := List.nodup_cons.mp h
    unfold setItem
    split
    · rename_i hfirst
      subst hfirst
      exact List.nodup_cons.mpr ⟨hnew, hnodup⟩
    · rename_i hfirst
      refine List.nodup_cons.mpr ⟨fun hmem => ?_, ih hnodup⟩
      rcases mem_keys_setItem hmem with rfl | hmem
      · exact hfirst rfl
      · exact hnew hmem

/-- The order of the members is nothing to a reader. -/
theorem lookup_eq_of_perm {items items' : List (String × α)} (h : items.Perm items')
    (hnodup : (items.map Prod.fst).Nodup) (key : String) : items.lookup key = items'.lookup key := by
  have hnodup' : (items'.map Prod.fst).Nodup := (h.map Prod.fst).nodup_iff.mp hnodup
  cases hfound : items'.lookup key with
  | none =>
    rw [List.lookup_eq_none_iff] at hfound ⊢
    exact fun item hitem => hfound item (h.mem_iff.mp hitem)
  | some value =>
    obtain ⟨before, after, rfl, -⟩ := List.lookup_eq_some_iff.mp hfound
    have hmem : (key, value) ∈ items := h.mem_iff.mpr (by simp)
    exact lookup_of_mem hnodup hmem

theorem lookup_map (items : List (String × α)) (f : α → β) (key : String) :
    (items.map fun item => (item.1, f item.2)).lookup key = (items.lookup key).map f := by
  induction items with
  | nil => rfl
  | cons item items ih =>
    rw [List.map_cons, lookup_cons_eq, lookup_cons_eq, ih]
    by_cases hkey : key = item.1
    · simp [hkey]
    · simp [hkey]

theorem keys_map (items : List (String × α)) (f : α → β) :
    (items.map fun item => (item.1, f item.2)).map Prod.fst = items.map Prod.fst := by
  rw [List.map_map]
  rfl

end Items

/-! ## Sorted keys -/

/-- The members in the order of their keys. -/
def byKey {α : Type} (items : List (String × α)) : List (String × α) :=
  items.mergeSort fun item item' => item.1 ≤ item'.1

theorem byKey_perm {α : Type} (items : List (String × α)) : (byKey items).Perm items :=
  List.mergeSort_perm _ _

theorem byKey_map {α β : Type} (items : List (String × α)) (f : α → β) :
    byKey (items.map fun item => (item.1, f item.2)) =
      (byKey items).map fun item => (item.1, f item.2) := by
  refine (List.map_mergeSort ?_).symm
  intro item _ item' _
  rfl

/-- `members[key]`. -/
def JsonObject.item (members : JsonObject) (key : String) : Except Failure Payload :=
  match members.lookup key with
  | some value => .ok value
  | none => .error (.keyError key)

namespace Payload

mutual

/-- The value, with the members of every object in the order of their keys. -/
def sorted : Payload → Payload
  | .array items => .array (sortedItems items)
  | .object members => .object (byKey (sortedValues members))
  | .null => .null
  | .boolean value => .boolean value
  | .integer value => .integer value
  | .real shown => .real shown
  | .text value => .text value

def sortedItems : List Payload → List Payload
  | [] => []
  | item :: items => item.sorted :: sortedItems items

def sortedValues : List (String × Payload) → List (String × Payload)
  | [] => []
  | (key, value) :: members => (key, value.sorted) :: sortedValues members

end

theorem sortedValues_eq (members : JsonObject) :
    sortedValues members = members.map fun member => (member.1, member.2.sorted) := by
  induction members with
  | nil => rfl
  | cons member members ih => exact congrArg ((member.1, member.2.sorted) :: ·) ih

/-- The members of an object, sorted. -/
def sortedMembers (members : JsonObject) : JsonObject := byKey (sortedValues members)

theorem sorted_object (members : JsonObject) :
    sorted (.object members) = .object (sortedMembers members) := rfl

theorem sortedMembers_perm (members : JsonObject) :
    (sortedMembers members).Perm (members.map fun member => (member.1, member.2.sorted)) := by
  rw [← sortedValues_eq]
  exact byKey_perm _

theorem nodup_sortedMembers {members : JsonObject} (h : (members.map Prod.fst).Nodup) :
    ((sortedMembers members).map Prod.fst).Nodup := by
  rw [((sortedMembers_perm members).map Prod.fst).nodup_iff, keys_map]
  exact h

theorem lookup_sortedMembers {members : JsonObject} (h : (members.map Prod.fst).Nodup)
    (key : String) : (sortedMembers members).lookup key = (members.lookup key).map sorted := by
  rw [lookup_eq_of_perm (sortedMembers_perm members) (nodup_sortedMembers h), lookup_map]

theorem get_sortedMembers {members : JsonObject} (h : (members.map Prod.fst).Nodup)
    (key : String) :
    JsonObject.get (sortedMembers members) key = (JsonObject.get members key).sorted := by
  unfold JsonObject.get
  rw [lookup_sortedMembers h]
  cases members.lookup key with
  | none => rfl
  | some value => rfl

end Payload

/-! ## The file -/

/-- What is written into a file and read from it. -/
structure FileConversions (Text : Type) extends PythonValues where
  /-- `json.dumps`, with `sort_keys=True`. -/
  dumps : Payload → Text
  /-- `json.loads`; nothing, where it raises. -/
  loads : Text → Option Payload
  isoformat : Time → String
  /-- `datetime.fromisoformat`; nothing, where it raises or the time has no zone. -/
  fromisoformat : String → Option Time
  loads_dumps : ∀ value, loads (dumps value) = some value.sorted
  int_integer : ∀ value, int (.integer value) = .ok value
  fromisoformat_isoformat : ∀ value, fromisoformat (isoformat value) = some value

/-- Documents that are kept as they are, and a time as a text that is long enough to tell it. -/
def keptDocuments : FileConversions Payload where
  strOfParts value := value.typeName
  int value :=
    match value with
    | .integer value => .ok value
    | value => .error (.typeError ("int() argument must not be '" ++ value.typeName ++ "'"))
  fromTimestamp := .ok
  dumps value := value
  loads document := some document.sorted
  isoformat time := String.ofList (List.replicate (Encodable.encode time) '0')
  fromisoformat shown := Encodable.decode shown.length
  loads_dumps _ := rfl
  int_integer _ := rfl
  fromisoformat_isoformat time := by
    rw [String.length_ofList, List.length_replicate, Encodable.encodek]

theorem FileConversions.isoformat_injective {Text : Type} (c : FileConversions Text) :
    Function.Injective c.isoformat := by
  intro time time' h
  have hread := congrArg c.fromisoformat h
  rw [c.fromisoformat_isoformat, c.fromisoformat_isoformat] at hread
  exact Option.some.inj hread

/-- An object of texts. -/
def textMembers (fields : List (String × String)) : JsonObject :=
  fields.map fun field => (field.1, .text field.2)

/-- `value == fields`, of a dict of texts. -/
def Payload.isTexts (value : Payload) (fields : List (String × String)) : Bool :=
  match value with
  | .object members =>
    members.length = fields.length ∧
      fields.all fun field => (JsonObject.get members field.1).isText field.2
  | _ => false

/-- The object of these texts, in any order. -/
def HoldsTexts (value : Payload) (fields : List (String × String)) : Prop :=
  ∃ members, value = .object members ∧ members.Perm (textMembers fields)

section HoldsTexts

variable {value : Payload} {members : JsonObject} {fields : List (String × String)}

theorem nodup_of_perm_texts (h : members.Perm (textMembers fields))
    (hnodup : (fields.map Prod.fst).Nodup) : (members.map Prod.fst).Nodup := by
  rw [(h.map Prod.fst).nodup_iff, textMembers, keys_map]
  exact hnodup

theorem lookup_of_perm_texts (h : members.Perm (textMembers fields))
    (hnodup : (fields.map Prod.fst).Nodup) (key : String) :
    members.lookup key = (fields.lookup key).map .text := by
  rw [lookup_eq_of_perm h (nodup_of_perm_texts h hnodup), textMembers, lookup_map]

theorem HoldsTexts.sorted (h : HoldsTexts value fields) : HoldsTexts value.sorted fields := by
  obtain ⟨members, rfl, hperm⟩ := h
  refine ⟨Payload.sortedMembers members, rfl, (Payload.sortedMembers_perm members).trans ?_⟩
  refine (hperm.map _).trans (List.Perm.of_eq ?_)
  unfold textMembers
  rw [List.map_map]
  rfl

theorem isText_eq_true {value : Payload} {shown : String} :
    value.isText shown = true ↔ value = .text shown := by
  cases value <;> simp [Payload.isText]

/-- The value under each key, as a list. -/
theorem map_lookup (hnodup : (fields.map Prod.fst).Nodup) :
    (fields.map Prod.fst).map (fun key => fields.lookup key) = (fields.map Prod.snd).map some := by
  rw [List.map_map, List.map_map]
  exact List.map_congr_left fun field hfield => lookup_of_mem hnodup hfield

/-- Texts under the same keys are compared one by one. -/
theorem HoldsTexts.isTexts_iff {fields' : List (String × String)} (h : HoldsTexts value fields)
    (hnodup : (fields.map Prod.fst).Nodup) (hkeys : fields'.map Prod.fst = fields.map Prod.fst) :
    value.isTexts fields' = true ↔ fields = fields' := by
  obtain ⟨members, rfl, hperm⟩ := h
  have hlookup := lookup_of_perm_texts hperm hnodup
  have hlength : members.length = fields'.length := by
    have hlengths := congrArg List.length hkeys
    rw [List.length_map, List.length_map] at hlengths
    rw [hperm.length_eq, hlengths, textMembers, List.length_map]
  simp only [Payload.isTexts, decide_eq_true_eq, List.all_eq_true, isText_eq_true]
  constructor
  · rintro ⟨-, hall⟩
    have hvalues : (fields'.map Prod.fst).map (fun key => fields.lookup key) =
        (fields'.map Prod.snd).map some := by
      rw [List.map_map, List.map_map]
      refine List.map_congr_left fun field hfield => ?_
      have hget := hall field hfield
      unfold JsonObject.get at hget
      rw [hlookup] at hget
      cases hfound : fields.lookup field.1 with
      | none => simp [hfound] at hget
      | some shown =>
        simp only [hfound, Option.map_some, Option.getD_some, Payload.text.injEq] at hget
        exact hfound.trans (congrArg some hget)
    rw [hkeys, map_lookup hnodup] at hvalues
    have hsnd := List.map_injective_iff.mpr (Option.some_injective _) hvalues
    exact (List.zip_of_prod rfl rfl).trans (List.zip_of_prod hkeys hsnd.symm).symm
  · rintro rfl
    refine ⟨hlength, fun field hfield => ?_⟩
    unfold JsonObject.get
    rw [hlookup, lookup_of_mem hnodup hfield]
    rfl

end HoldsTexts

theorem get_setItem (members : JsonObject) (key : String) (value : Payload) (key' : String) :
    JsonObject.get (setItem members key value) key' =
      if key' = key then value else JsonObject.get members key' := by
  unfold JsonObject.get
  rw [lookup_setItem]
  split
  · rfl
  · rfl

end CreditHedge
