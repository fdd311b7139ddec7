import CreditHedge.Lib.Dicts
import Mathlib.Algebra.BigOperators.Group.List.Basic

/-!
# Records that share a key

A list of records, each an amount under a key, can be made into a dictionary in two ways: the last
record of a key wins (`latest`), or the amounts of a key are added up (`total`). `tally` is the
second as a program does it, one record at a time (`find_tallies`).

The two readings agree on a list without repeated keys. Where two lists are compared, each reading
gives its own verdict, and the verdicts differ exactly when the repeated records mask a difference
(`latest_iff_total`): the records of a key before its last come to different sums on the two sides,
and by one of the readings the two sides still look the same.
-/

set_option autoImplicit false

namespace Tally

variable {κ κ' M : Type*} [DecidableEq κ]

/-- The amounts under a key, in order. -/
def recordsOf (records : List (κ × M)) (key : κ) : List M :=
  (records.filter fun r => r.1 = key).map Prod.snd

/-- The last record of a key. -/
def latest (records : List (κ × M)) (key : κ) : Option M := (recordsOf records key).getLast?

section Total

variable [AddCommGroup M]

/-- The sum of the records of a key, if it has any. -/
def total (records : List (κ × M)) (key : κ) : Option M :=
  if recordsOf records key = [] then none else some (recordsOf records key).sum

/-- What the records of a key come to that have a later one. -/
def earlier (records : List (κ × M)) (key : κ) : M := (recordsOf records key).dropLast.sum

end Total

theorem recordsOf_cons (r : κ × M) (records : List (κ × M)) (key : κ) :
    recordsOf (r :: records) key =
      if r.1 = key then r.2 :: recordsOf records key else recordsOf records key := by
  unfold recordsOf
  by_cases h : r.1 = key <;> simp [h]

/-- Keys may be renamed, as long as no two become one. -/
theorem recordsOf_map [DecidableEq κ'] {f : κ → κ'} (hf : Function.Injective f)
    (records : List (κ × M)) (key : κ) :
    recordsOf (records.map fun r => (f r.1, r.2)) (f key) = recordsOf records key := by
  induction records with
  | nil => rfl
  | cons r records ih =>
    rw [List.map_cons, recordsOf_cons, recordsOf_cons, ih]
    simp only [hf.eq_iff]

theorem recordsOf_eq_nil {records : List (κ × M)} {key : κ} :
    recordsOf records key = [] ↔ key ∉ records.map Prod.fst := by
  unfold recordsOf
  rw [List.map_eq_nil_iff, List.filter_eq_nil_iff, List.mem_map]
  constructor
  · rintro h ⟨r, hr, rfl⟩
    exact h r hr (decide_eq_true rfl)
  · intro h r hr hkey
    exact h ⟨r, hr, of_decide_eq_true hkey⟩

/-- Two lists compared after a renaming are compared as they were. -/
theorem forall_recordsOf_map [DecidableEq κ'] {β : Type*} {f : κ → κ'}
    (hf : Function.Injective f) (read : List M → β) (records records' : List (κ × M)) :
    (∀ key, read (recordsOf (records.map fun r => (f r.1, r.2)) key) =
        read (recordsOf (records'.map fun r => (f r.1, r.2)) key)) ↔
      ∀ key, read (recordsOf records key) = read (recordsOf records' key) := by
  constructor
  · intro h key
    have hkey := h (f key)
    rwa [recordsOf_map hf, recordsOf_map hf] at hkey
  · intro h key
    by_cases hrange : ∃ k, f k = key
    · obtain ⟨k, rfl⟩ := hrange
      rw [recordsOf_map hf, recordsOf_map hf]
      exact h k
    · -- no record has this key on either side
      have hnone : ∀ rs : List (κ × M), recordsOf (rs.map fun r => (f r.1, r.2)) key = [] := by
        intro rs
        rw [recordsOf_eq_nil, List.map_map]
        intro hmem
        obtain ⟨r, -, hr⟩ := List.mem_map.mp hmem
        exact hrange ⟨r.1, hr⟩
      rw [hnone, hnone]

/-- Without repeated keys, the last record of a key is the one there is. -/
theorem latest_eq_some_of_nodup {records : List (κ × M)} (h : (records.map Prod.fst).Nodup)
    {key : κ} {amount : M} : latest records key = some amount ↔ (key, amount) ∈ records := by
  unfold latest
  induction records with
  | nil => simp [recordsOf]
  | cons r records ih =>
    rw [List.map_cons, List.nodup_cons] at h
    rw [recordsOf_cons, List.mem_cons]
    split
    · rename_i hkey
      subst hkey
      have hrest : (r.1, amount) ∉ records := fun hmem =>
        h.1 (List.mem_map.mpr ⟨(r.1, amount), hmem, rfl⟩)
      rw [recordsOf_eq_nil.mpr h.1]
      simp [hrest, Prod.ext_iff, eq_comm]
    · rename_i hkey
      have hhead : (key, amount) ≠ r := fun heq => hkey (heq ▸ rfl)
      rw [ih h.2]
      simp [hhead]

/-- Then the order of the records is nothing to a reader. -/
theorem latest_eq_of_perm {records records' : List (κ × M)} (h : records.Perm records')
    (hnodup : (records.map Prod.fst).Nodup) (key : κ) :
    latest records key = latest records' key := by
  ext amount
  rw [latest_eq_some_of_nodup hnodup,
    latest_eq_some_of_nodup ((h.map Prod.fst).nodup_iff.mp hnodup), h.mem_iff]

/-! ## Two lists compared -/

section Compared

variable [AddCommGroup M] {records records' : List (κ × M)} {key : κ}

/-- The last record and those before it. -/
theorem total_eq : total records key = (latest records key).map (earlier records key + ·) := by
  unfold total latest earlier
  rcases List.eq_nil_or_concat (recordsOf records key) with hnil | ⟨before, last, hrecords⟩
  · simp [hnil]
  · simp [hrecords]

theorem earlier_eq_zero (h : latest records key = none) : earlier records key = 0 := by
  have hnil : recordsOf records key = [] := List.getLast?_eq_none_iff.mp h
  simp [earlier, hnil]

/-- With the same last record, the totals agree exactly if the earlier records do. -/
theorem total_eq_iff_of_latest (h : latest records key = latest records' key) :
    total records key = total records' key ↔ earlier records key = earlier records' key := by
  rw [total_eq, total_eq, h]
  cases hlast : latest records' key with
  | none => simp [earlier_eq_zero (h.trans hlast), earlier_eq_zero hlast]
  | some last => simp

/-- With the same earlier records, the totals agree exactly if the last records do. -/
theorem total_eq_iff_of_earlier (h : earlier records key = earlier records' key) :
    total records key = total records' key ↔ latest records key = latest records' key := by
  rw [total_eq, total_eq, h]
  exact (Option.map_injective (add_right_injective _)).eq_iff

/-- **When the two readings give one verdict**: exactly unless the repeated records differ under
    some key and one of the readings does not see it. -/
theorem latest_iff_total :
    ((∀ key, latest records key = latest records' key) ↔
        ∀ key, total records key = total records' key) ↔
      ¬ ((∃ key, earlier records key ≠ earlier records' key) ∧
        ((∀ key, latest records key = latest records' key) ∨
          ∀ key, total records key = total records' key)) := by
  constructor
  · rintro hverdict ⟨⟨key, hkey⟩, hsame⟩
    have hlatest : ∀ key, latest records key = latest records' key :=
      hsame.elim id hverdict.mpr
    exact hkey ((total_eq_iff_of_latest (hlatest key)).mp (hverdict.mp hlatest key))
  · intro hmasked
    by_cases hearlier : ∀ key, earlier records key = earlier records' key
    · exact forall_congr' fun key => (total_eq_iff_of_earlier (hearlier key)).symm
    · -- something is hidden, so neither reading sees the two sides agree
      obtain ⟨key, hkey⟩ := not_forall.mp hearlier
      exact ⟨fun h => absurd ⟨⟨key, hkey⟩, .inl h⟩ hmasked,
        fun h => absurd ⟨⟨key, hkey⟩, .inr h⟩ hmasked⟩

/-- Without repeated keys nothing is hidden. -/
theorem earlier_of_nodup (h : (records.map Prod.fst).Nodup) (key : κ) :
    earlier records key = 0 := by
  unfold earlier
  induction records with
  | nil => rfl
  | cons r records ih =>
    rw [List.map_cons, List.nodup_cons] at h
    rw [recordsOf_cons]
    split
    · rename_i hkey
      rw [recordsOf_eq_nil.mpr (hkey ▸ h.1)]
      rfl
    · exact ih h.2

end Compared

/-! ## Record by record -/

section Dictionary

/-- A dictionary of amounts. -/
abbrev Amounts (κ M : Type*) := KeyedTable fun row : κ × M => row.1

/-- `amounts.get(key)`. -/
def get (amounts : Amounts κ M) (key : κ) : Option M := (amounts.find key).map Prod.snd

/-- The keys are those that have an amount. -/
theorem mem_keys {amounts : Amounts κ M} {key : κ} :
    key ∈ amounts.rows.map Prod.fst ↔ get amounts key ≠ none := by
  unfold get
  rw [Ne, Option.map_eq_none_iff, KeyedTable.find_eq_none, List.mem_map]
  push Not
  rfl

variable [AddCommGroup M]

/-- `amounts[key] = amounts.get(key, 0) + amount`. -/
def tally (amounts : Amounts κ M) (r : κ × M) : Amounts κ M :=
  amounts.upsert (r.1, (get amounts r.1).getD 0 + r.2)

theorem get_tally (amounts : Amounts κ M) (r : κ × M) (key : κ) :
    get (tally amounts r) key =
      if key = r.1 then some ((get amounts key).getD 0 + r.2) else get amounts key := by
  unfold get tally
  rw [KeyedTable.find_upsert]
  split
  · rename_i hkey
    subst hkey
    rfl
  · rfl

/-- Every amount is added to what was there. -/
theorem get_foldl_tally (records : List (κ × M)) (amounts : Amounts κ M) (key : κ) :
    get (records.foldl tally amounts) key =
      if recordsOf records key = [] then get amounts key
      else some ((get amounts key).getD 0 + (recordsOf records key).sum) := by
  induction records generalizing amounts with
  | nil => rfl
  | cons r records ih =>
    rw [List.foldl_cons, ih, get_tally, recordsOf_cons]
    by_cases hkey : r.1 = key
    · subst hkey
      by_cases hnil : recordsOf records r.1 = []
      · simp [hnil]
      · simp [hnil, add_assoc]
    · simp [hkey, Ne.symm hkey]

/-- **The dictionary of the totals.** -/
theorem get_tallies (records : List (κ × M)) (key : κ) :
    get (records.foldl tally .empty) key = total records key := by
  have hempty : get (KeyedTable.empty : Amounts κ M) key = none := rfl
  rw [get_foldl_tally, hempty]
  unfold total
  simp

end Dictionary

end Tally
