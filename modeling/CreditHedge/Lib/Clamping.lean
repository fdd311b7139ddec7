import Mathlib.Algebra.Order.BigOperators.Group.List
import Mathlib.Algebra.Order.Group.Defs
import Mathlib.Tactic.Abel

/-!
# Sums of clamped terms

To clamp every term of a sum at zero is not to clamp the sum: what is cut off below is no longer
there to be set off against what is above. The two agree exactly if there is nothing to set off,
that is if the terms are all of one sign (`sum_clamped_eq_iff`).
-/

set_option autoImplicit false

variable {K : Type*} [AddCommGroup K] [LinearOrder K] [IsOrderedAddMonoid K]

/-- The sum of the terms, each clamped at zero. -/
def clampedSum (xs : List K) : K := (xs.map (max 0)).sum

theorem clampedSum_nonneg (xs : List K) : 0 ≤ clampedSum xs := by
  refine List.sum_nonneg fun y hy => ?_
  obtain ⟨x, -, rfl⟩ := List.mem_map.mp hy
  exact le_max_left 0 x

theorem clampedSum_eq_zero_iff {xs : List K} : clampedSum xs = 0 ↔ ∀ x ∈ xs, x ≤ 0 := by
  constructor
  · intro h x hx
    have hterms : ∀ y ∈ xs.map (max 0), 0 ≤ y := by
      intro y hy
      obtain ⟨x, -, rfl⟩ := List.mem_map.mp hy
      exact le_max_left 0 x
    exact max_eq_left_iff.mp
      (List.all_zero_of_le_zero_le_of_sum_eq_zero hterms h (List.mem_map_of_mem hx))
  · intro h
    refine List.sum_eq_zero fun y hy => ?_
    obtain ⟨x, hx, rfl⟩ := List.mem_map.mp hy
    exact max_eq_left (h x hx)

/-- A sum is what is above zero less what is below. -/
theorem sum_eq_clampedSum_sub (xs : List K) :
    xs.sum = clampedSum xs - clampedSum (xs.map Neg.neg) := by
  unfold clampedSum
  induction xs with
  | nil => simp
  | cons x xs ih =>
    have hx : x = max 0 x - max 0 (-x) := by
      rcases le_total 0 x with h | h
      · rw [max_eq_right h, max_eq_left (neg_nonpos.mpr h), sub_zero]
      · rw [max_eq_left h, max_eq_right (neg_nonneg.mpr h), zero_sub, neg_neg]
    simp only [List.map_cons, List.sum_cons, ih]
    nth_rewrite 1 [hx]
    abel

/-- **Clamping the terms is clamping the sum exactly if they are of one sign.** -/
theorem sum_clamped_eq_iff (xs : List K) :
    clampedSum xs = max 0 xs.sum ↔ (∀ x ∈ xs, 0 ≤ x) ∨ ∀ x ∈ xs, x ≤ 0 := by
  have hbelow : clampedSum (xs.map Neg.neg) = 0 ↔ ∀ x ∈ xs, 0 ≤ x := by
    rw [clampedSum_eq_zero_iff]
    constructor
    · exact fun h x hx => neg_nonpos.mp (h _ (List.mem_map_of_mem hx))
    · intro h y hy
      obtain ⟨x, hx, rfl⟩ := List.mem_map.mp hy
      exact neg_nonpos.mpr (h x hx)
  have hsum := sum_eq_clampedSum_sub xs
  rw [← hbelow, ← clampedSum_eq_zero_iff]
  constructor
  · intro h
    rcases le_total xs.sum 0 with hneg | hpos
    · exact .inr (h.trans (max_eq_left hneg))
    · refine .inl ?_
      rw [max_eq_right hpos, hsum] at h
      exact sub_eq_self.mp h.symm
  · rintro (hzero | hzero)
    · rw [hsum, hzero, sub_zero, max_eq_right (clampedSum_nonneg xs)]
    · rw [hsum, hzero, zero_sub, max_eq_left (neg_nonpos.mpr (clampedSum_nonneg _))]
