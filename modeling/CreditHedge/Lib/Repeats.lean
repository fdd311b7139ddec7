import CreditHedge.Lib.Dicts
import Mathlib.Data.List.Destutter

/-!
# Suppressing repeats

Records come in, and one that repeats the last record of its key is not passed on. A dictionary
holds the last record of each key. What is passed on of a key is then what has come of it, without
the repeats in a row (`filter_passAll`), whatever comes between of other keys and wherever the
records are cut into batches (`passAll_append`).
-/

set_option autoImplicit false

namespace Repeats

variable {κ ρ : Type*} {key : ρ → κ} [DecidableEq κ] [DecidableEq ρ]

/-- Whether a record is passed on, and the dictionary after it. -/
def pass (last : KeyedTable key) (r : ρ) : Bool × KeyedTable key :=
  if last.find (key r) = some r then (false, last) else (true, last.upsert r)

/-- The records that are passed on, one after the other. -/
def passAll (last : KeyedTable key) : List ρ → List ρ × KeyedTable key
  | [] => ([], last)
  | r :: rs =>
    match pass last r with
    | (false, last) => passAll last rs
    | (true, last) =>
      let (given, last) := passAll last rs
      (r :: given, last)

variable (last : KeyedTable key)

theorem passAll_old {r : ρ} (h : last.find (key r) = some r) (rs : List ρ) :
    passAll last (r :: rs) = passAll last rs := by
  rw [passAll, pass, if_pos h]

theorem passAll_new {r : ρ} (h : last.find (key r) ≠ some r) (rs : List ρ) :
    passAll last (r :: rs) =
      (r :: (passAll (last.upsert r) rs).1, (passAll (last.upsert r) rs).2) := by
  rw [passAll, pass, if_neg h]

/-- Batches are of no matter. -/
theorem passAll_append (rs ss : List ρ) :
    passAll last (rs ++ ss) =
      ((passAll last rs).1 ++ (passAll (passAll last rs).2 ss).1,
        (passAll (passAll last rs).2 ss).2) := by
  induction rs generalizing last with
  | nil => rfl
  | cons r rs ih =>
    rw [List.cons_append]
    by_cases h : last.find (key r) = some r
    · rw [passAll_old last h, passAll_old last h, ih]
    · rw [passAll_new last h, passAll_new last h, ih, List.cons_append]

/-- What is passed on of a key of which there has been a record before, and one of which there has
    been none. -/
def freshAfter (previous : Option ρ) (rs : List ρ) : List ρ :=
  match previous with
  | none => rs.destutter (· ≠ ·)
  | some r => (rs.destutter' (· ≠ ·) r).tail

theorem freshAfter_repeat (r : ρ) (rs : List ρ) :
    freshAfter (some r) (r :: rs) = freshAfter (some r) rs := by
  rw [freshAfter, List.destutter'_cons_neg _ (not_not.mpr rfl), freshAfter]

/-- The head of what is left is what it was left with. -/
theorem cons_freshAfter (r : ρ) (rs : List ρ) :
    r :: freshAfter (some r) rs = rs.destutter' (· ≠ ·) r := by
  induction rs generalizing r with
  | nil => rfl
  | cons s rs ih =>
    by_cases h : r = s
    · subst h
      rw [freshAfter_repeat, ih, List.destutter'_cons_neg _ (not_not.mpr rfl)]
    · rw [freshAfter, List.destutter'_cons_pos _ h, List.tail_cons]

theorem freshAfter_new {previous : Option ρ} {r : ρ} (h : previous ≠ some r) (rs : List ρ) :
    freshAfter previous (r :: rs) = r :: freshAfter (some r) rs := by
  rw [cons_freshAfter]
  cases previous with
  | none => exact List.destutter_cons' rs (· ≠ ·)
  | some s =>
    rw [freshAfter, List.destutter'_cons_pos _ (fun heq => h (congrArg some heq)), List.tail_cons]

/-- **What is passed on of a key** is what has come of it, less what repeats the one before. -/
theorem filter_passAll (k : κ) (rs : List ρ) :
    ((passAll last rs).1.filter fun r => decide (key r = k)) =
      freshAfter (last.find k) (rs.filter fun r => decide (key r = k)) := by
  induction rs generalizing last with
  | nil =>
    cases hfind : last.find k with
    | none => rfl
    | some r => rfl
  | cons r rs ih =>
    by_cases hkey : key r = k
    · subst hkey
      rw [List.filter_cons_of_pos (by simp)]
      by_cases hold : last.find (key r) = some r
      · rw [passAll_old last hold, ih, hold, freshAfter_repeat]
      · rw [passAll_new last hold, List.filter_cons_of_pos (by simp), ih,
          KeyedTable.find_upsert, if_pos rfl, freshAfter_new hold]
    · rw [List.filter_cons_of_neg (by simpa using hkey)]
      by_cases hold : last.find (key r) = some r
      · rw [passAll_old last hold, ih]
      · rw [passAll_new last hold, List.filter_cons_of_neg (by simpa using hkey), ih,
          KeyedTable.find_upsert, if_neg (Ne.symm hkey)]

end Repeats
