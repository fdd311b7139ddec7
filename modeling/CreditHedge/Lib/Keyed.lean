import CreditHedge.Lib.Table
import Mathlib.Data.List.Pairwise

/-!
# Keyed tables with versions

A *keyed table* is a list of rows no two of which have the same key: a database table with a
primary key. Rows are inserted (`insert`, refused when the key is taken) and replaced by
compare-and-swap (`swap`, refused when the row under that key is no longer at the version the
writer read). Both are answered with `none` when refused, and the table is then what it was.

The lemmas say what a reader sees after a write: `find_insert` and `find_swap` for one key,
`sum_swap` for a quantity added up over the whole table. The last section is about writers that do
not see each other: what each of them has read stays `Seen` as long as rows only get later
versions, and `Seen.swap` says what its write then finds.
-/

set_option autoImplicit false

structure KeyedTable {κ ρ : Type*} (key : ρ → κ) where
  rows : List ρ
  nodup : (rows.map key).Nodup

namespace KeyedTable

variable {κ ρ : Type*} {key : ρ → κ}

instance [DecidableEq ρ] : DecidableEq (KeyedTable key) := fun s t =>
  decidable_of_iff (s.rows = t.rows) (by cases s; cases t; simp)

theorem ext_rows {s t : KeyedTable key} (h : s.rows = t.rows) : s = t := by
  cases s
  cases t
  simpa using h

def empty : KeyedTable key := ⟨[], List.nodup_nil⟩

theorem eq_of_key {t : KeyedTable key} {r s : ρ} (hr : r ∈ t.rows) (hs : s ∈ t.rows)
    (h : key r = key s) : r = s :=
  List.inj_on_of_nodup_map t.nodup hr hs h

/-- An optional second key, compared where it is given. -/
theorem eq_of_nodup_filterMap {β : Type*} {f : ρ → Option β} {rows : List ρ}
    (h : (rows.filterMap f).Nodup) {r s : ρ} (hr : r ∈ rows) (hs : s ∈ rows) {b : β}
    (hfr : f r = some b) (hfs : f s = some b) : r = s := by
  by_contra hne
  have hpair := List.pairwise_filterMap.mp h
  have : Std.Symm fun r s : ρ => ∀ b, f r = some b → ∀ b', f s = some b' → b ≠ b' :=
    ⟨fun _ _ h b hb b' hb' => (h b' hb' b hb).symm⟩
  exact hpair.forall hr hs hne _ hfr _ hfs rfl

/-- The rows of another table, whose keys they keep. -/
def mapRows {σ : Type*} {key' : σ → κ} (f : ρ → σ) (hf : ∀ r, key' (f r) = key r)
    (t : KeyedTable key) : KeyedTable key' where
  rows := t.rows.map f
  nodup := by
    have hkeys : (t.rows.map f).map key' = t.rows.map key := by
      rw [List.map_map]
      exact List.map_congr_left fun r _ => hf r
    rw [hkeys]
    exact t.nodup

variable [DecidableEq κ]

/-! ## Reading -/

/-- The row under a key. -/
def find (t : KeyedTable key) (k : κ) : Option ρ := t.rows.find? (fun r => key r = k)

theorem find_eq_some {t : KeyedTable key} {k : κ} {r : ρ} :
    t.find k = some r ↔ r ∈ t.rows ∧ key r = k := by
  unfold find
  constructor
  · intro h
    exact ⟨List.mem_of_find?_eq_some h, by simpa using List.find?_some h⟩
  · rintro ⟨hr, rfl⟩
    cases hs : t.rows.find? (fun s => key s = key r) with
    | none => exact absurd (List.find?_eq_none.mp hs r hr) (by simp)
    | some s =>
      have hkey : key s = key r := by simpa using List.find?_some hs
      rw [t.eq_of_key (List.mem_of_find?_eq_some hs) hr hkey]

theorem find_of_mem {t : KeyedTable key} {r : ρ} (h : r ∈ t.rows) : t.find (key r) = some r :=
  find_eq_some.mpr ⟨h, rfl⟩

theorem find_eq_none {t : KeyedTable key} {k : κ} : t.find k = none ↔ ∀ r ∈ t.rows, key r ≠ k := by
  simp [find, List.find?_eq_none]

/-- The order of the rows is nothing to a reader. -/
theorem find_eq_of_perm {t t' : KeyedTable key} (h : t.rows.Perm t'.rows) (k : κ) :
    t.find k = t'.find k := by
  ext r
  rw [find_eq_some, find_eq_some, h.mem_iff]

/-! ## Inserting -/

omit [DecidableEq κ] in
theorem nodup_append {t : KeyedTable key} {r : ρ} (h : ∀ s ∈ t.rows, key s ≠ key r) :
    ((t.rows ++ [r]).map key).Nodup := by
  rw [List.map_append, List.nodup_append]
  refine ⟨t.nodup, by simp, ?_⟩
  simp only [List.map_cons, List.map_nil, List.mem_singleton]
  rintro _ hk _ rfl
  obtain ⟨s, hs, rfl⟩ := List.mem_map.mp hk
  exact h s hs

/-- Add a row under a new key. -/
def insert (t : KeyedTable key) (r : ρ) : Option (KeyedTable key) :=
  if h : ∀ s ∈ t.rows, key s ≠ key r then some { rows := t.rows ++ [r], nodup := nodup_append h }
  else none

theorem insert_eq_some {t t' : KeyedTable key} {r : ρ} :
    t.insert r = some t' ↔ t.find (key r) = none ∧ t'.rows = t.rows ++ [r] := by
  unfold insert
  rw [find_eq_none]
  constructor
  · intro h
    split at h
    · rename_i hnew
      obtain rfl := Option.some.inj h
      exact ⟨hnew, rfl⟩
    · exact absurd h (by simp)
  · rintro ⟨hnew, hrows⟩
    rw [dif_pos hnew]
    exact congrArg some (ext_rows hrows.symm)

theorem exists_insert {t : KeyedTable key} {r : ρ} (h : t.find (key r) = none) :
    ∃ t', t.insert r = some t' := by
  unfold insert
  rw [dif_pos (find_eq_none.mp h)]
  exact ⟨_, rfl⟩

theorem find_insert {t t' : KeyedTable key} {r : ρ} (h : t.insert r = some t') (k : κ) :
    t'.find k = if k = key r then some r else t.find k := by
  obtain ⟨hnone, hrows⟩ := insert_eq_some.mp h
  split
  · rename_i hk
    exact find_eq_some.mpr ⟨by simp [hrows], hk.symm⟩
  · rename_i hk
    unfold find
    rw [hrows, List.find?_append]
    simp [Ne.symm hk]

/-! ## Compare and swap -/

theorem nodup_replace (t : KeyedTable key) (r : ρ) :
    ((t.rows.map fun s => if key s = key r then r else s).map key).Nodup := by
  have hkeys : (t.rows.map fun s => if key s = key r then r else s).map key =
      t.rows.map key := by
    rw [List.map_map]
    refine List.map_congr_left fun s _ => ?_
    simp only [Function.comp_apply]
    split <;> simp [*]
  rw [hkeys]
  exact t.nodup

variable (version : ρ → ℕ)

/-- Replace the row under `key r`, if it is still at version `previous`. -/
def swap (t : KeyedTable key) (previous : ℕ) (r : ρ) : Option (KeyedTable key) :=
  if ∃ s ∈ t.rows, key s = key r ∧ version s = previous then
    some
      { rows := t.rows.map fun s => if key s = key r then r else s
        nodup := nodup_replace t r }
  else none

variable {version}

theorem swap_eq_some {t t' : KeyedTable key} {previous : ℕ} {r : ρ} :
    t.swap version previous r = some t' ↔
      (∃ s, t.find (key r) = some s ∧ version s = previous) ∧
        t'.rows = t.rows.map fun s => if key s = key r then r else s := by
  have hiff : (∃ s ∈ t.rows, key s = key r ∧ version s = previous) ↔
      ∃ s, t.find (key r) = some s ∧ version s = previous := by
    simp only [find_eq_some]
    exact ⟨fun ⟨s, hs, hk, hv⟩ => ⟨s, ⟨hs, hk⟩, hv⟩, fun ⟨s, ⟨hs, hk⟩, hv⟩ => ⟨s, hs, hk, hv⟩⟩
  unfold swap
  rw [← hiff]
  constructor
  · intro h
    split at h
    · rename_i hold
      obtain rfl := Option.some.inj h
      exact ⟨hold, rfl⟩
    · exact absurd h (by simp)
  · rintro ⟨hold, hrows⟩
    rw [if_pos hold]
    exact congrArg some (ext_rows hrows.symm)

/-- A swap goes through exactly when the row is where the writer left it. -/
theorem exists_swap {t : KeyedTable key} {previous : ℕ} {r s : ρ}
    (hs : t.find (key r) = some s) (hv : version s = previous) :
    ∃ t', t.swap version previous r = some t' := by
  obtain ⟨hmem, hk⟩ := find_eq_some.mp hs
  unfold swap
  rw [if_pos ⟨s, hmem, hk, hv⟩]
  exact ⟨_, rfl⟩

theorem find_swap {t t' : KeyedTable key} {previous : ℕ} {r : ρ}
    (h : t.swap version previous r = some t') (k : κ) :
    t'.find k = if k = key r then some r else t.find k := by
  obtain ⟨⟨s, hs, -⟩, hrows⟩ := swap_eq_some.mp h
  obtain ⟨hmem, hks⟩ := find_eq_some.mp hs
  split
  · rename_i hk
    refine find_eq_some.mpr ⟨?_, hk.symm⟩
    rw [hrows, List.mem_map]
    exact ⟨s, hmem, if_pos hks⟩
  · rename_i hk
    cases hf : t.find k with
    | none =>
      rw [find_eq_none] at hf ⊢
      intro r' hr'
      rw [hrows, List.mem_map] at hr'
      obtain ⟨x, hx, rfl⟩ := hr'
      split
      · exact Ne.symm hk
      · exact hf x hx
    | some x =>
      obtain ⟨hx, hkx⟩ := find_eq_some.mp hf
      refine find_eq_some.mpr ⟨?_, hkx⟩
      rw [hrows, List.mem_map]
      exact ⟨x, hx, if_neg (by rw [hkx]; exact hk)⟩

/-- The keys, and whatever else the new row shares with the old one, stay where they are. -/
theorem map_swap {β : Type*} {t t' : KeyedTable key} {previous : ℕ} {r s : ρ} {f : ρ → β}
    (h : t.swap version previous r = some t') (hs : t.find (key r) = some s) (hf : f r = f s) :
    t'.rows.map f = t.rows.map f := by
  rw [(swap_eq_some.mp h).2, List.map_map]
  refine List.map_congr_left fun x hx => ?_
  simp only [Function.comp_apply]
  split
  · rename_i hkey
    obtain ⟨hmem, hks⟩ := find_eq_some.mp hs
    rw [t.eq_of_key hx hmem (hkey.trans hks.symm), hf]
  · rfl

/-- **One row moves, the total moves with it.** -/
theorem sum_swap {β : Type*} [AddCommGroup β] {t t' : KeyedTable key} {previous : ℕ} {r s : ρ}
    (h : t.swap version previous r = some t') (hs : t.find (key r) = some s) (f : ρ → β) :
    (t'.rows.map f).sum = (t.rows.map f).sum + (f r - f s) := by
  obtain ⟨hmem, hks⟩ := find_eq_some.mp hs
  have hmap : t'.rows.map f = t.rows.map fun x => f (if key x = key r then r else x) := by
    rw [(swap_eq_some.mp h).2, List.map_map]
    rfl
  have hothers : ∀ x ∈ t.rows, key x ≠ key s → f (if key x = key r then r else x) = f x :=
    fun x _ hx => by rw [if_neg (by rwa [hks] at hx)]
  rw [hmap, Table.sum_map_eq_add_of_nodup t.nodup hmem hothers, if_pos hks]

/-! ## Optimistic concurrency

A writer reads a row, computes its successor, and swaps at the version it has read. Between the
two the row may have moved on, but only to later versions (`Advances`), so whatever was read once
is the row or a row of the past (`Seen`); and a swap that goes through finds it to be the row. -/

section Optimistic

variable (version) in
/-- The row is there under its key, or a later version of it is. -/
def Seen (t : KeyedTable key) (r : ρ) : Prop :=
  ∃ r' ∈ t.rows, key r' = key r ∧ (r' = r ∨ version r < version r')

variable (version) in
/-- Rows stay, or get later versions. -/
def Advances (t t' : KeyedTable key) : Prop := ∀ r ∈ t.rows, t'.Seen version r

variable {t t' t'' : KeyedTable key} {r : ρ}

omit [DecidableEq κ] in
theorem Seen.of_mem (h : r ∈ t.rows) : t.Seen version r := ⟨r, h, rfl, .inl rfl⟩

omit [DecidableEq κ] in
theorem Advances.refl (t : KeyedTable key) : t.Advances version t := fun _ h => .of_mem h

omit [DecidableEq κ] in
theorem Seen.advances (h : t.Seen version r) (ha : t.Advances version t') : t'.Seen version r := by
  obtain ⟨r', hr', hkey, hversion⟩ := h
  obtain ⟨r'', hr'', hkey', hversion'⟩ := ha r' hr'
  refine ⟨r'', hr'', hkey'.trans hkey, ?_⟩
  rcases hversion' with rfl | hlt
  · exact hversion
  · rcases hversion with rfl | hlt'
    · exact .inr hlt
    · exact .inr (hlt'.trans hlt)

omit [DecidableEq κ] in
theorem Advances.trans (h : t.Advances version t') (h' : t'.Advances version t'') :
    t.Advances version t'' :=
  fun r hr => (h r hr).advances h'

omit [DecidableEq κ] in
/-- At its own version, a row that was seen is the row. -/
theorem Seen.mem (h : t.Seen version r) {s : ρ} (hs : s ∈ t.rows) (hkey : key s = key r)
    (hversion : version s = version r) : r ∈ t.rows := by
  obtain ⟨r', hr', hkey', hor⟩ := h
  obtain rfl : r' = s := eq_of_key hr' hs (hkey'.trans hkey.symm)
  rcases hor with rfl | hlt
  · exact hr'
  · exact absurd hlt (by omega)

omit [DecidableEq κ] in
/-- A row of now that was seen before was the row then. -/
theorem Seen.mem_of_later (h : t.Seen version r) (ha : t.Advances version t') (hr : r ∈ t'.rows) :
    r ∈ t.rows := by
  obtain ⟨s, hs, hkey, hversion⟩ := h
  obtain ⟨s', hs', hkey', hversion'⟩ := ha s hs
  obtain rfl : s' = r := eq_of_key hs' hr (hkey'.trans hkey)
  rcases hversion with rfl | hlt
  · exact hs
  · rcases hversion' with rfl | hlt'
    · exact hs
    · exact absurd hlt' (Nat.not_lt.mpr hlt.le)

/-- What a swap of a seen row to its successor comes to. -/
theorem Seen.swap {s : ρ} (hseen : t.Seen version r) (hkey : key s = key r)
    (h : t.swap version (version r) s = some t') :
    r ∈ t.rows ∧ ∀ x, x ∈ t'.rows ↔ x = s ∨ x ∈ t.rows ∧ key x ≠ key r := by
  obtain ⟨⟨x, hx, hversion⟩, hrows⟩ := swap_eq_some.mp h
  obtain ⟨hmem, hkeyx⟩ := find_eq_some.mp hx
  have hr : r ∈ t.rows := hseen.mem hmem (hkeyx.trans hkey) hversion
  refine ⟨hr, fun x => ?_⟩
  rw [hrows, List.mem_map]
  constructor
  · rintro ⟨y, hy, rfl⟩
    split
    · exact .inl rfl
    · rename_i hne
      exact .inr ⟨hy, fun heq => hne (heq.trans hkey.symm)⟩
  · rintro (rfl | ⟨hy, hne⟩)
    · exact ⟨r, hr, if_pos hkey.symm⟩
    · exact ⟨x, hy, if_neg fun heq => hne (heq.trans hkey)⟩

theorem advances_swap {previous : ℕ} (hversion : previous < version r)
    (h : t.swap version previous r = some t') : t.Advances version t' := by
  obtain ⟨⟨x, hx, hprevious⟩, hrows⟩ := swap_eq_some.mp h
  obtain ⟨hmem, hkeyx⟩ := find_eq_some.mp hx
  intro y hy
  by_cases hkey : key y = key r
  · obtain rfl : y = x := eq_of_key hy hmem (hkey.trans hkeyx.symm)
    refine ⟨r, ?_, hkey.symm, .inr (by omega)⟩
    rw [hrows, List.mem_map]
    exact ⟨y, hy, if_pos hkey⟩
  · refine .of_mem ?_
    rw [hrows, List.mem_map]
    exact ⟨y, hy, if_neg hkey⟩

theorem advances_insert (h : t.insert r = some t') : t.Advances version t' := by
  intro y hy
  refine .of_mem ?_
  rw [(insert_eq_some.mp h).2]
  exact List.mem_append_left _ hy

end Optimistic

end KeyedTable
