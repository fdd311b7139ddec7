import Mathlib.Algebra.BigOperators.Group.List.Basic
import Mathlib.Algebra.Order.BigOperators.Group.List
import Mathlib.Data.List.Nodup
import Mathlib.Tactic.Abel

/-!
# Numbered tables

A *numbered table* is a list whose rows carry the numbers `1, 2, 3, …` in order, so that the row
with number `k` is the one at position `k - 1`. It is the shape of a program that keeps its
objects in an array and stores each object's one-based position in the object.

Positions are what such a program computes with, numbers are what its invariants are stated
with. This file is the passage between the two: reading by position is membership plus a number
(`Numbered.getElem?_iff`), writing at a position is a `map` that changes one number
(`Numbered.set_eq_map`), and a sum over the rows moves by exactly what the one row moved
(`Numbered.sum_map_eq_add`).
-/

set_option autoImplicit false

namespace Table

variable {α : Type*} {key : α → ℕ} {xs : List α}

/-- The rows of `xs` carry the numbers `1, 2, 3, …` in order. -/
def Numbered (key : α → ℕ) (xs : List α) : Prop :=
  ∀ i x, xs[i]? = some x → key x = i + 1

namespace Numbered

theorem key_pos (h : Numbered key xs) {x : α} (hx : x ∈ xs) : 0 < key x := by
  obtain ⟨i, hi⟩ := List.mem_iff_getElem?.mp hx
  rw [h i x hi]
  exact Nat.succ_pos i

/-- Reading by position: the row at `k - 1` is the row numbered `k`. -/
theorem getElem?_iff (h : Numbered key xs) {k : ℕ} (hk : 0 < k) {x : α} :
    xs[k - 1]? = some x ↔ x ∈ xs ∧ key x = k := by
  constructor
  · intro hx
    exact ⟨List.mem_of_getElem? hx, by rw [h _ x hx]; omega⟩
  · rintro ⟨hx, rfl⟩
    obtain ⟨i, hi⟩ := List.mem_iff_getElem?.mp hx
    rw [h i x hi]
    exact hi

theorem getElem?_of_mem (h : Numbered key xs) {x : α} (hx : x ∈ xs) :
    xs[key x - 1]? = some x :=
  (h.getElem?_iff (h.key_pos hx)).mpr ⟨hx, rfl⟩

theorem key_inj (h : Numbered key xs) {x y : α} (hx : x ∈ xs) (hy : y ∈ xs)
    (hxy : key x = key y) : x = y := by
  have hx' := h.getElem?_of_mem hx
  rw [hxy, h.getElem?_of_mem hy] at hx'
  exact (Option.some.inj hx').symm

theorem key_le_length (h : Numbered key xs) {x : α} (hx : x ∈ xs) : key x ≤ xs.length := by
  have hlt := (List.getElem?_eq_some_iff.mp (h.getElem?_of_mem hx)).1
  have := h.key_pos hx
  omega

/-- A map that keeps every number keeps the table numbered. -/
theorem map (h : Numbered key xs) {g : α → α} (hg : ∀ x ∈ xs, key (g x) = key x) :
    Numbered key (xs.map g) := by
  intro i x hx
  rw [List.getElem?_map, Option.map_eq_some_iff] at hx
  obtain ⟨y, hy, rfl⟩ := hx
  rw [hg y (List.mem_of_getElem? hy)]
  exact h i y hy

/-- Writing at a position changes the row with that number and no other. -/
theorem set_eq_map (h : Numbered key xs) {k : ℕ} (hk : 0 < k) (a : α) :
    xs.set (k - 1) a = xs.map (fun x => if key x = k then a else x) := by
  refine List.ext_getElem? fun i => ?_
  rw [List.getElem?_set, List.getElem?_map]
  cases hx : xs[i]? with
  | none =>
    have hlen : xs.length ≤ i := List.getElem?_eq_none_iff.mp hx
    by_cases hki : k - 1 = i
    · simp [hki, Nat.not_lt.mpr hlen]
    · simp [hki]
  | some x =>
    have hlen : i < xs.length := (List.getElem?_eq_some_iff.mp hx).1
    have hkey := h i x hx
    by_cases hki : k - 1 = i
    · simp [hki, hlen, show key x = k by omega]
    · simp [hki, show key x ≠ k by omega]

theorem nodup_keys (h : Numbered key xs) : (xs.map key).Nodup := by
  refine List.nodup_iff_getElem?_ne_getElem?.mpr fun i j hij hj heq => ?_
  rw [List.length_map] at hj
  have hi : i < xs.length := hij.trans hj
  rw [List.getElem?_map, List.getElem?_map, List.getElem?_eq_getElem hi,
    List.getElem?_eq_getElem hj] at heq
  have h₁ := h i _ (List.getElem?_eq_getElem hi)
  have h₂ := h j _ (List.getElem?_eq_getElem hj)
  simp only [Option.map_some, Option.some.injEq] at heq
  omega

end Numbered

/-- **One row moves, the sum moves with it.** Two readings of a table that agree on every row
    but one differ, as sums, by what they differ on that row. -/
theorem sum_map_eq_add_of_nodup {κ β : Type*} {key : α → κ} [AddCommGroup β] :
    ∀ {xs : List α}, (xs.map key).Nodup → ∀ {x : α}, x ∈ xs → ∀ {f f' : α → β},
      (∀ y ∈ xs, key y ≠ key x → f' y = f y) →
      (xs.map f').sum = (xs.map f).sum + (f' x - f x)
  | [], _, _, hx, _, _, _ => absurd hx (by simp)
  | y :: ys, hnd, x, hx, f, f', hf => by
    rw [List.map_cons, List.nodup_cons] at hnd
    obtain ⟨hy, hys⟩ := hnd
    rw [List.map_cons, List.map_cons, List.sum_cons, List.sum_cons]
    rcases List.mem_cons.mp hx with rfl | hx'
    · have hrest : ys.map f' = ys.map f :=
        List.map_congr_left fun z hz =>
          hf z (List.mem_cons_of_mem _ hz) fun hzx => hy (hzx ▸ List.mem_map_of_mem hz)
      rw [hrest]
      abel
    · have hne : key y ≠ key x := fun hyx => hy (hyx ▸ List.mem_map_of_mem hx')
      rw [sum_map_eq_add_of_nodup hys hx' fun z hz => hf z (List.mem_cons_of_mem _ hz),
        hf y (List.mem_cons_self ..) hne]
      abel

/-- A sum over the rows, taken group by group. -/
theorem sum_map_eq_sum_groups {κ β : Type*} [DecidableEq κ] [AddCommGroup β] {keys : List κ}
    (hkeys : keys.Nodup) (f : α → κ) (g : α → β) :
    ∀ {xs : List α}, (∀ x ∈ xs, f x ∈ keys) →
      (xs.map g).sum = (keys.map fun k => ((xs.filter fun x => f x = k).map g).sum).sum
  | [], _ => by simp
  | x :: xs, hmem => by
    obtain ⟨hx, hxs⟩ := List.forall_mem_cons.mp hmem
    have hkeys' : (keys.map id).Nodup := by rwa [List.map_id]
    have hothers : ∀ k ∈ keys, id k ≠ id (f x) →
        (((x :: xs).filter fun y => f y = k).map g).sum =
          ((xs.filter fun y => f y = k).map g).sum := by
      intro k _ hk
      rw [List.filter_cons_of_neg]
      simpa using Ne.symm hk
    rw [sum_map_eq_add_of_nodup hkeys' hx hothers, ← sum_map_eq_sum_groups hkeys f g hxs,
      List.filter_cons_of_pos (by simp), List.map_cons, List.map_cons, List.sum_cons,
      List.sum_cons]
    abel

theorem Numbered.sum_map_eq_add {β : Type*} [AddCommGroup β] (h : Numbered key xs) {x : α}
    (hx : x ∈ xs) {f f' : α → β} (hf : ∀ y ∈ xs, key y ≠ key x → f' y = f y) :
    (xs.map f').sum = (xs.map f).sum + (f' x - f x) :=
  sum_map_eq_add_of_nodup h.nodup_keys hx hf

/-- A sum that sees one row only. -/
theorem Numbered.sum_map_eq_single {β : Type*} [AddCommGroup β] (h : Numbered key xs) {x : α}
    (hx : x ∈ xs) {f : α → β} (hf : ∀ y ∈ xs, key y ≠ key x → f y = 0) :
    (xs.map f).sum = f x := by
  have hzero : (xs.map fun _ => (0 : β)).sum = 0 := by simp
  rw [h.sum_map_eq_add hx (f := fun _ => 0) hf, hzero]
  abel

theorem Numbered.map_key (h : Numbered key xs) : xs.map key = List.range' 1 xs.length := by
  refine List.ext_getElem? fun i => ?_
  rw [List.getElem?_map]
  cases hx : xs[i]? with
  | none => simpa using List.getElem?_eq_none_iff.mp hx
  | some x =>
    have hlt : i < xs.length := (List.getElem?_eq_some_iff.mp hx).1
    rw [Option.map_some, h i x hx, List.getElem?_range' hlt, Nat.add_comm]
    simp

theorem Numbered.pairwise_lt (h : Numbered key xs) : xs.Pairwise fun x y => key x < key y := by
  have hkeys : (xs.map key).Pairwise (· < ·) := by
    rw [h.map_key]
    exact List.pairwise_lt_range'
  exact List.pairwise_map.mp hkeys

/-- One row is dropped from a selection, and it is the first one selected. -/
theorem Numbered.filter_eq_cons (h : Numbered key xs) {x : α} (hx : x ∈ xs) {p p' : α → Bool}
    (hp : p x = true) (hp' : p' x = false) (hbefore : ∀ y ∈ xs, key y < key x → p y = false)
    (hother : ∀ y ∈ xs, key y ≠ key x → p' y = p y) : xs.filter p = x :: xs.filter p' := by
  obtain ⟨before, after, rfl⟩ := List.append_of_mem hx
  obtain ⟨-, htail, hcross⟩ := List.pairwise_append.mp h.pairwise_lt
  have hlater := (List.pairwise_cons.mp htail).1
  have hnone : before.filter p = [] := List.filter_eq_nil_iff.mpr fun y hy =>
    Bool.not_eq_true _ ▸
      hbefore y (List.mem_append_left _ hy) (hcross y hy x (List.mem_cons_self ..))
  have hnone' : before.filter p' = [] := by
    rw [← hnone]
    exact List.filter_congr fun y hy =>
      hother y (List.mem_append_left _ hy) (hcross y hy x (List.mem_cons_self ..)).ne
  have hrest : after.filter p' = after.filter p := List.filter_congr fun y hy =>
    hother y (List.mem_append_right _ (List.mem_cons_of_mem _ hy)) (hlater y hy).ne'
  rw [List.filter_append, List.filter_append, hnone, hnone', List.filter_cons_of_pos hp,
    List.filter_cons_of_neg (by simp [hp']), hrest]
  rfl

/-- A constant summed over the rows before row `k`. -/
theorem Numbered.sum_map_before {β : Type*} [AddCommGroup β] (h : Numbered key xs) (c : β) :
    ∀ {k : ℕ}, k ≤ xs.length → (xs.map fun x => if key x ≤ k then c else 0).sum = k • c := by
  intro k hk
  have hkeys : (xs.map fun x => if key x ≤ k then c else 0) =
      (List.range' 1 xs.length).map fun i => if i ≤ k then c else 0 := by
    rw [← h.map_key, List.map_map]
    rfl
  rw [hkeys]
  obtain ⟨m, hm⟩ := Nat.exists_eq_add_of_le hk
  rw [hm, ← List.range'_append_1, List.map_append, List.sum_append]
  have hfirst : (List.range' 1 k).map (fun i => if i ≤ k then c else 0) = List.replicate k c := by
    refine List.eq_replicate_iff.mpr ⟨by simp, fun y hy => ?_⟩
    obtain ⟨i, hi, rfl⟩ := List.mem_map.mp hy
    rw [List.mem_range'_1] at hi
    exact if_pos (by omega)
  have hlast : (List.range' (1 + k) m).map (fun i => if i ≤ k then c else 0) =
      List.replicate m 0 := by
    refine List.eq_replicate_iff.mpr ⟨by simp, fun y hy => ?_⟩
    obtain ⟨i, hi, rfl⟩ := List.mem_map.mp hy
    rw [List.mem_range'_1] at hi
    exact if_neg (by omega)
  rw [hfirst, hlast, List.sum_replicate, List.sum_replicate, nsmul_zero, add_zero]

/-- A term of a sum of nonnegative terms is at most the sum. -/
theorem le_sum_map {β : Type*} [AddCommGroup β] [PartialOrder β] [IsOrderedAddMonoid β]
    {f : α → β} {x : α} (hx : x ∈ xs) (hf : ∀ y ∈ xs, 0 ≤ f y) : f x ≤ (xs.map f).sum :=
  List.single_le_sum (fun _ hz => by
    obtain ⟨y, hy, rfl⟩ := List.mem_map.mp hz
    exact hf y hy) _ (List.mem_map_of_mem hx)

end Table
