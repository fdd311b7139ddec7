import Mathlib.Algebra.Order.Floor.Ring
import Mathlib.Algebra.Order.Field.Basic
import Mathlib.Order.Bounds.Basic

/-!
# Rounding into a set

A function that takes every value to the greatest member of a set below it, or to the least one
above it. That is all it takes to be monotone and to leave the members of the set where they are,
whatever the set is. The second section is the set the code rounds into: the multiples of a step.
-/

set_option autoImplicit false

section Sets

variable {α : Type*} [PartialOrder α] {s : Set α} {round : α → α} {v w : α}

/-- Every value is rounded to the greatest member up to it. -/
def RoundsDown (s : Set α) (round : α → α) : Prop := ∀ v, IsGreatest {x ∈ s | x ≤ v} (round v)

/-- Every value is rounded to the least member from it on. -/
def RoundsUp (s : Set α) (round : α → α) : Prop := ∀ v, IsLeast {x ∈ s | v ≤ x} (round v)

namespace RoundsDown

theorem mem (h : RoundsDown s round) (v : α) : round v ∈ s := (h v).1.1

theorem le (h : RoundsDown s round) (v : α) : round v ≤ v := (h v).1.2

theorem le_round (h : RoundsDown s round) (hv : v ∈ s) (hle : v ≤ w) : v ≤ round w :=
  (h w).2 ⟨hv, hle⟩

theorem eq_of_mem (h : RoundsDown s round) (hv : v ∈ s) : round v = v :=
  le_antisymm (h.le v) (h.le_round hv le_rfl)

theorem monotone (h : RoundsDown s round) : Monotone round := fun v _ hle =>
  h.le_round (h.mem v) ((h.le v).trans hle)

end RoundsDown

namespace RoundsUp

theorem mem (h : RoundsUp s round) (v : α) : round v ∈ s := (h v).1.1

theorem le (h : RoundsUp s round) (v : α) : v ≤ round v := (h v).1.2

theorem round_le (h : RoundsUp s round) (hw : w ∈ s) (hle : v ≤ w) : round v ≤ w :=
  (h v).2 ⟨hw, hle⟩

theorem eq_of_mem (h : RoundsUp s round) (hv : v ∈ s) : round v = v :=
  le_antisymm (h.round_le hv le_rfl) (h.le v)

theorem monotone (h : RoundsUp s round) : Monotone round := fun _ w hle =>
  h.round_le (h.mem w) (hle.trans (h.le w))

end RoundsUp

end Sets

/-! ## The multiples of a step -/

section Grid

variable {α : Type*} [Field α] [LinearOrder α] [IsStrictOrderedRing α] [FloorRing α] {step : α}

/-- The multiples of a step. -/
def grid (step : α) : Set α := Set.range fun n : ℤ => (n : α) * step

theorem roundsDown_floor (hstep : 0 < step) :
    RoundsDown (grid step) fun v => ⌊v / step⌋ * step := by
  intro v
  refine ⟨⟨⟨_, rfl⟩, (le_div_iff₀ hstep).mp (Int.floor_le _)⟩, ?_⟩
  rintro _ ⟨⟨n, rfl⟩, hle⟩
  have hn : n ≤ ⌊v / step⌋ := Int.le_floor.mpr ((le_div_iff₀ hstep).mpr hle)
  exact mul_le_mul_of_nonneg_right (Int.cast_le.mpr hn) hstep.le

theorem roundsUp_ceil (hstep : 0 < step) :
    RoundsUp (grid step) fun v => ⌈v / step⌉ * step := by
  intro v
  refine ⟨⟨⟨_, rfl⟩, (div_le_iff₀ hstep).mp (Int.le_ceil _)⟩, ?_⟩
  rintro _ ⟨⟨n, rfl⟩, hle⟩
  have hn : ⌈v / step⌉ ≤ n := Int.ceil_le.mpr ((div_le_iff₀ hstep).mpr hle)
  exact mul_le_mul_of_nonneg_right (Int.cast_le.mpr hn) hstep.le

/-- The next multiple is past the value. -/
theorem lt_floor_mul_add (hstep : 0 < step) (v : α) : v < ⌊v / step⌋ * step + step := by
  have h := (div_lt_iff₀ hstep).mp (Int.lt_floor_add_one (v / step))
  rwa [add_mul, one_mul] at h

theorem ceil_mul_sub_lt (hstep : 0 < step) (v : α) : ⌈v / step⌉ * step - step < v := by
  have h := mul_lt_mul_of_pos_right (Int.ceil_lt_add_one (v / step)) hstep
  rw [add_mul, one_mul, div_mul_cancel₀ v hstep.ne'] at h
  exact sub_lt_iff_lt_add.mpr h

end Grid
