import CreditHedge.Lib.Keyed

/-!
# Tables of named columns

A row has a value under every column, and a statement names columns and values in two lists:
`assign` is what `INSERT INTO t(columns) VALUES (values)` makes of a row of `NULL`s and what
`UPDATE t SET column = value, …` makes of a row that is there. A table keeps its rows under a
primary key, one of the columns, so it is a `KeyedTable`; an update may not set that column.

Two facts carry the rest. After a statement the named columns hold the given values, in that order
(`map_assign`), and a guarded update of one key is that row assigned and every other row as it was
(`find_update`).
-/

set_option autoImplicit false

namespace Sql

variable {κ ν : Type*} [DecidableEq κ]

/-- A value under every column. -/
abbrev Row (κ ν : Type*) := κ → ν

/-- `column = value`, pair by pair. -/
def assign : List κ → List ν → Row κ ν → Row κ ν
  | column :: columns, value :: values, row =>
    fun c => if c = column then value else assign columns values row c
  | _, _, row => row

theorem assign_of_notMem {columns : List κ} {c : κ} (h : c ∉ columns) (values : List ν)
    (row : Row κ ν) : assign columns values row c = row c := by
  induction columns generalizing values with
  | nil => cases values <;> rfl
  | cons column columns ih =>
    rw [List.mem_cons, not_or] at h
    cases values with
    | nil => rfl
    | cons value values => exact (if_neg h.1).trans (ih h.2 values)

/-- **What was written is what is there.** -/
theorem map_assign {columns : List κ} (h : columns.Nodup) {values : List ν}
    (hlength : values.length = columns.length) (row : Row κ ν) :
    columns.map (assign columns values row) = values := by
  induction columns generalizing values with
  | nil => exact (List.length_eq_zero_iff.mp hlength).symm
  | cons column columns ih =>
    obtain ⟨hnotMem, hnodup⟩ := List.nodup_cons.mp h
    cases values with
    | nil => exact absurd hlength (by simp)
    | cons value values =>
      have hrest : columns.map (assign (column :: columns) (value :: values) row) =
          columns.map (assign columns values row) :=
        List.map_congr_left fun c hc => if_neg fun hcolumn : c = column => hnotMem (hcolumn ▸ hc)
      rw [List.map_cons, hrest, ih hnodup (Nat.succ.inj hlength)]
      exact congrArg (· :: values) (if_pos rfl)

/-- The same of a row that keeps one more column. -/
theorem map_assign_cons {columns : List κ} {key : κ} (hkey : key ∉ columns)
    (h : columns.Nodup) {values : List ν} (hlength : values.length = columns.length)
    (row : Row κ ν) :
    (key :: columns).map (assign columns values row) = row key :: values := by
  rw [List.map_cons, assign_of_notMem hkey, map_assign h hlength]

/-! ## Tables -/

section Tables

variable [DecidableEq ν] {key : κ}

/-- Rows under a primary key. -/
abbrev Rows (key : κ) (ν : Type*) := KeyedTable fun row : Row κ ν => row key

/-- `UPDATE t SET … WHERE …`. -/
def update (t : Rows key ν) (columns : List κ) (values : List ν) (hkey : key ∉ columns)
    (guard : Row κ ν → Prop) [DecidablePred guard] : Rows key ν :=
  t.mapRows (fun row => if guard row then assign columns values row else row) fun row => by
    split
    · exact assign_of_notMem hkey values row
    · rfl

/-- The `rowcount` of such a statement. -/
def rowcount (t : Rows key ν) (guard : Row κ ν → Prop) [DecidablePred guard] : ℕ :=
  t.rows.countP fun row => guard row

variable {t : Rows key ν} {columns : List κ} {values : List ν} {hkey : key ∉ columns}

theorem find_update {guard : Row κ ν → Prop} [DecidablePred guard] (k : ν) :
    (update t columns values hkey guard).find k =
      (t.find k).map fun row => if guard row then assign columns values row else row := by
  ext row
  rw [KeyedTable.find_eq_some, Option.map_eq_some_iff]
  have hkeys : ∀ r : Row κ ν, (if guard r then assign columns values r else r) key = r key := by
    intro r
    split
    · exact assign_of_notMem hkey values r
    · rfl
  constructor
  · rintro ⟨hmem, hk⟩
    obtain ⟨r, hr, rfl⟩ := List.mem_map.mp hmem
    exact ⟨r, KeyedTable.find_eq_some.mpr ⟨hr, (hkeys r).symm.trans hk⟩, rfl⟩
  · rintro ⟨r, hr, rfl⟩
    obtain ⟨hmem, hk⟩ := KeyedTable.find_eq_some.mp hr
    exact ⟨List.mem_map_of_mem hmem, (hkeys r).trans hk⟩

variable {k version : ν} {versionColumn : κ}

omit [DecidableEq κ] in
/-- `WHERE key = ? AND version = ?` hits one row or none. -/
theorem rowcount_eq_one :
    rowcount t (fun row => row key = k ∧ row versionColumn = version) = 1 ↔
      ∃ row, t.find k = some row ∧ row versionColumn = version := by
  have hle : rowcount t (fun row => row key = k ∧ row versionColumn = version) ≤ 1 := by
    have hcount : (t.rows.map fun row => row key).count k ≤ 1 :=
      List.nodup_iff_count_le_one.mp t.nodup k
    rw [List.count_eq_countP, List.countP_map] at hcount
    refine le_trans (List.countP_mono_left fun row _ hrow => ?_) hcount
    simpa using (of_decide_eq_true hrow).1
  have hpos : 0 < rowcount t (fun row => row key = k ∧ row versionColumn = version) ↔
      ∃ row, t.find k = some row ∧ row versionColumn = version := by
    unfold rowcount
    rw [List.countP_pos_iff]
    simp only [decide_eq_true_eq, KeyedTable.find_eq_some]
    constructor
    · rintro ⟨row, hmem, hk, hv⟩
      exact ⟨row, ⟨hmem, hk⟩, hv⟩
    · rintro ⟨row, ⟨hmem, hk⟩, hv⟩
      exact ⟨row, hmem, hk, hv⟩
  rw [← hpos]
  omega

/-- The row it hits. -/
theorem find_update_hit {row : Row κ ν} (hrow : t.find k = some row)
    (hversion : row versionColumn = version) :
    (update t columns values hkey fun row => row key = k ∧ row versionColumn = version).find k =
      some (assign columns values row) := by
  rw [find_update, hrow, Option.map_some,
    if_pos ⟨(KeyedTable.find_eq_some.mp hrow).2, hversion⟩]

/-- Every other row stays as it is. -/
theorem find_update_other {k' : ν} (h : k' ≠ k) :
    (update t columns values hkey fun row => row key = k ∧ row versionColumn = version).find k' =
      t.find k' := by
  rw [find_update]
  cases hrow : t.find k' with
  | none => rfl
  | some row =>
    have hk' := (KeyedTable.find_eq_some.mp hrow).2
    exact congrArg some (if_neg fun hguard => h (hk'.symm.trans hguard.1))

end Tables

end Sql
