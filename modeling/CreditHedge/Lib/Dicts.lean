import CreditHedge.Lib.Keyed

/-!
# Dictionaries

A keyed table used as a dictionary: a row is written whatever is there under its key (`upsert`), and
removed whether it is there or not (`erase`). A row that is replaced keeps its place, a new one goes
to the end, which is the order a program sees when it walks through the table.
-/

set_option autoImplicit false

namespace KeyedTable

variable {κ ρ : Type*} {key : ρ → κ} [DecidableEq κ]

/-- Write a row: over the one under its key, or at the end. -/
def upsert (t : KeyedTable key) (r : ρ) : KeyedTable key :=
  if h : ∀ s ∈ t.rows, key s ≠ key r then
    { rows := t.rows ++ [r], nodup := nodup_append h }
  else
    { rows := t.rows.map fun s => if key s = key r then r else s
      nodup := nodup_replace t r }

/-- Remove the row under a key, if there is one. -/
def erase (t : KeyedTable key) (k : κ) : KeyedTable key where
  rows := t.rows.filter fun s => key s ≠ k
  nodup := (List.filter_sublist.map _).nodup t.nodup

variable {t : KeyedTable key} {r : ρ} {k k' : κ}

theorem mem_upsert {s : ρ} : s ∈ (t.upsert r).rows ↔ s = r ∨ s ∈ t.rows ∧ key s ≠ key r := by
  unfold upsert
  split
  · rename_i hnew
    rw [List.mem_append, List.mem_singleton]
    exact ⟨fun h => h.symm.imp id fun hs => ⟨hs, hnew s hs⟩, fun h => h.symm.imp And.left id⟩
  · rename_i hold
    rw [List.mem_map]
    constructor
    · rintro ⟨s, hs, rfl⟩
      split
      · exact .inl rfl
      · rename_i hne
        exact .inr ⟨hs, hne⟩
    · rintro (rfl | ⟨hs, hne⟩)
      · push Not at hold
        obtain ⟨s', hs', hk⟩ := hold
        exact ⟨s', hs', if_pos hk⟩
      · exact ⟨s, hs, if_neg hne⟩

theorem mem_erase {s : ρ} : s ∈ (t.erase k).rows ↔ s ∈ t.rows ∧ key s ≠ k := by
  simp [erase]

theorem find_upsert : (t.upsert r).find k = if k = key r then some r else t.find k := by
  split
  · rename_i hk
    exact find_eq_some.mpr ⟨mem_upsert.mpr (.inl rfl), hk.symm⟩
  · rename_i hk
    ext s
    rw [find_eq_some, find_eq_some, mem_upsert]
    constructor
    · rintro ⟨rfl | ⟨hs, -⟩, rfl⟩
      · exact absurd rfl hk
      · exact ⟨hs, rfl⟩
    · rintro ⟨hs, rfl⟩
      exact ⟨.inr ⟨hs, hk⟩, rfl⟩

theorem find_erase : (t.erase k').find k = if k = k' then none else t.find k := by
  split
  · rename_i hk
    refine find_eq_none.mpr fun s hs => ?_
    rw [hk]
    exact (mem_erase.mp hs).2
  · rename_i hk
    ext s
    rw [find_eq_some, find_eq_some, mem_erase]
    constructor
    · rintro ⟨⟨hs, -⟩, hks⟩
      exact ⟨hs, hks⟩
    · rintro ⟨hs, rfl⟩
      exact ⟨⟨hs, hk⟩, rfl⟩

end KeyedTable
