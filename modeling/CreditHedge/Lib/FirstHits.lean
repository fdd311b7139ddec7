import Mathlib.Data.List.Basic

/-!
# First hits

Items wait, moves come, and an item is hit by the first move that satisfies its test; after that
it waits no longer. `newly` is what each move hits, in the order the items wait in.

Two tests of which one implies the other hit the same items with the same moves exactly if the
first move that the weaker test lets through passes the stronger one too, for every item
(`newly_eq_iff`). Everything that comes after an item's first hit is nobody's concern.
-/

set_option autoImplicit false

namespace FirstHits

variable {ι μ : Type*}

/-- The items each move is the first one to hit. -/
def newly (hit : ι → μ → Bool) : List ι → List μ → List (List ι)
  | _, [] => []
  | waiting, m :: ms =>
    waiting.filter (hit · m) :: newly hit (waiting.filter fun i => !hit i m) ms

variable {hit hit' : ι → μ → Bool} {waiting : List ι} {ms : List μ}

theorem filter_eq_filter_iff {p q : ι → Bool} :
    waiting.filter p = waiting.filter q ↔ ∀ i ∈ waiting, p i = q i := by
  refine ⟨fun h i hi => ?_, List.filter_congr⟩
  have hmem : i ∈ waiting.filter p ↔ i ∈ waiting.filter q := by rw [h]
  simpa [List.mem_filter, hi] using hmem

/-- **Two tests hit the same items with the same moves** exactly if the first move that passes the
    weaker one passes the stronger one, for every item. -/
theorem newly_eq_iff (himp : ∀ i m, hit i m = true → hit' i m = true) :
    newly hit waiting ms = newly hit' waiting ms ↔
      ∀ i ∈ waiting, ∀ m, ms.find? (hit' i) = some m → hit i m = true := by
  induction ms generalizing waiting with
  | nil => simp [newly]
  | cons m ms ih =>
    simp only [newly, List.cons.injEq, filter_eq_filter_iff]
    constructor
    · rintro ⟨hnow, hlater⟩ i hi m' hfirst
      by_cases hm : hit' i m = true
      · rw [List.find?_cons_of_pos hm] at hfirst
        obtain rfl := Option.some.inj hfirst
        rw [hnow i hi, hm]
      · rw [List.find?_cons_of_neg hm] at hfirst
        have hleft : waiting.filter (fun i => !hit i m) = waiting.filter fun i => !hit' i m :=
          List.filter_congr fun i hi => by rw [hnow i hi]
        rw [hleft, ih] at hlater
        exact hlater i (List.mem_filter.mpr ⟨hi, by simp [hm]⟩) m' hfirst
    · intro hfirst
      have hnow : ∀ i ∈ waiting, hit i m = hit' i m := by
        intro i hi
        by_cases hm : hit' i m = true
        · rw [hfirst i hi m (List.find?_cons_of_pos hm), hm]
        · exact (Bool.eq_false_iff.mpr fun h => hm (himp i m h)).trans
            (Bool.eq_false_iff.mpr hm).symm
      have hleft : waiting.filter (fun i => !hit i m) = waiting.filter fun i => !hit' i m :=
        List.filter_congr fun i hi => by rw [hnow i hi]
      refine ⟨hnow, ?_⟩
      rw [hleft, ih]
      intro i hi m' hm'
      obtain ⟨hi, hnot⟩ := List.mem_filter.mp hi
      refine hfirst i hi m' ?_
      rw [List.find?_cons_of_neg (by simpa using hnot)]
      exact hm'

end FirstHits
