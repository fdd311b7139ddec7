import Mathlib.Algebra.Order.Group.Abs
import Mathlib.Algebra.Order.Group.Int
import Mathlib.Algebra.Ring.Int.Parity
import Mathlib.Data.List.Chain

/-!
# Walks with unit steps

A walk on the integers that goes one up or one down at every step, its directions chosen by a
strategy with a state of its own (`follow`). A position is within reach of a target if it is near
enough for the steps that are left and the parity is right (`Reach`). A strategy that never goes
where the target is too far off (`Careful`) arrives, whatever else decides its choices
(`isWalk_follow`), and it always has a choice (`Reach.exists_direction`).
-/

set_option autoImplicit false

namespace UnitWalk

/-- One step apart. -/
def Adjacent (a b : ℤ) : Prop := b = a - 1 ∨ b = a + 1

/-- Up or down. -/
def IsDirection (d : ℤ) : Prop := d = -1 ∨ d = 1

/-- The target can be met in exactly this many steps. -/
structure Reach (target : ℤ) (steps : ℕ) (position : ℤ) : Prop where
  near : |target - position| ≤ steps
  parity : Even (steps - (target - position))

/-- The steps from `start` to `target`. -/
structure IsWalk (start target : ℤ) (path : List ℤ) : Prop where
  moves : (start :: path).IsChain Adjacent
  arrives : path.getLastD start = target

section Reach

variable {target position d : ℤ} {steps : ℕ}

theorem Reach.eq_of_zero (h : Reach target 0 position) : position = target := by
  have hnear : |target - position| ≤ 0 := h.near
  have hzero := abs_nonpos_iff.mp hnear
  omega

/-- A step that stays near enough stays within reach: the parity goes along. -/
theorem Reach.step (h : Reach target (steps + 1) position) (hd : IsDirection d)
    (hnear : |target - (position + d)| ≤ steps) : Reach target steps (position + d) where
  near := hnear
  parity := by
    obtain ⟨k, hk⟩ := h.parity
    rcases hd with rfl | rfl
    · exact ⟨k - 1, by push_cast at hk; omega⟩
    · exact ⟨k, by push_cast at hk; omega⟩

/-- There is always such a step. -/
theorem Reach.exists_direction (h : Reach target (steps + 1) position) :
    |target - (position + -1)| ≤ steps ∨ |target - (position + 1)| ≤ steps := by
  obtain ⟨k, hk⟩ := h.parity
  have hnear := abs_le.mp h.near
  push_cast at hk hnear
  rw [abs_le, abs_le]
  -- towards the target; on it the parity leaves at least one more step
  rcases le_or_gt position target with hle | hlt
  · right
    omega
  · left
    omega

end Reach

section Follow

variable {σ : Type*}

/-- The positions after each step, and the state at the end. The strategy is told how many steps are
    left after the one it chooses. -/
def follow (choose : ℕ → ℤ → σ → ℤ × σ) : ℕ → ℤ → σ → List ℤ × σ
  | 0, _, s => ([], s)
  | stepsAfterMove + 1, position, s =>
    let (direction, s) := choose stepsAfterMove position s
    let (path, s) := follow choose stepsAfterMove (position + direction) s
    ((position + direction) :: path, s)

/-- The strategy never leaves the reach of the target. -/
def Careful (target : ℤ) (choose : ℕ → ℤ → σ → ℤ × σ) : Prop :=
  ∀ stepsAfterMove position s, Reach target (stepsAfterMove + 1) position →
    IsDirection (choose stepsAfterMove position s).1 ∧
      |target - (position + (choose stepsAfterMove position s).1)| ≤ stepsAfterMove

variable {choose : ℕ → ℤ → σ → ℤ × σ} {target : ℤ}

@[simp] theorem length_follow (steps : ℕ) (position : ℤ) (s : σ) :
    (follow choose steps position s).1.length = steps := by
  induction steps generalizing position s with
  | zero => rfl
  | succ steps ih => exact congrArg (· + 1) (ih _ _)

/-- **A careful strategy arrives.** -/
theorem isWalk_follow (hcareful : Careful target choose) {steps : ℕ} {position : ℤ}
    (h : Reach target steps position) (s : σ) :
    IsWalk position target (follow choose steps position s).1 := by
  induction steps generalizing position s with
  | zero => exact ⟨List.isChain_singleton _, h.eq_of_zero⟩
  | succ steps ih =>
    obtain ⟨hdirection, hnear⟩ := hcareful steps position s h
    have hrest := ih (h.step hdirection hnear) (choose steps position s).2
    have hmove : Adjacent position (position + (choose steps position s).1) := by
      rcases hdirection with hd | hd
      · rw [hd]
        exact .inl rfl
      · rw [hd]
        exact .inr rfl
    exact ⟨List.isChain_cons_cons.mpr ⟨hmove, hrest.moves⟩,
      (List.getLastD_cons ..).trans hrest.arrives⟩

/-- One walk after another. -/
theorem IsWalk.append {path path' : List ℤ} {start middle : ℤ} (h : IsWalk start middle path)
    (h' : IsWalk middle target path') : IsWalk start target (path ++ path') := by
  induction path generalizing start with
  | nil =>
    have harrives : start = middle := h.arrives
    exact harrives ▸ h'
  | cons next path ih =>
    obtain ⟨hmove, hmoves⟩ := List.isChain_cons_cons.mp h.moves
    have hrest := ih ⟨hmoves, (List.getLastD_cons ..).symm.trans h.arrives⟩
    exact ⟨List.isChain_cons_cons.mpr ⟨hmove, hrest.moves⟩,
      (List.getLastD_cons ..).trans hrest.arrives⟩

/-- Where a walk still arrives, the target is within reach. -/
theorem IsWalk.reach {path : List ℤ} {position : ℤ} (h : IsWalk position target path) :
    Reach target path.length position := by
  induction path generalizing position with
  | nil =>
    have harrives : position = target := h.arrives
    subst harrives
    exact ⟨by simp, by simp⟩
  | cons next path ih =>
    obtain ⟨hmove, hmoves⟩ := List.isChain_cons_cons.mp h.moves
    have hrest := ih ⟨hmoves, (List.getLastD_cons ..).symm.trans h.arrives⟩
    obtain ⟨k, hk⟩ := hrest.parity
    have hnear := abs_le.mp hrest.near
    rw [List.length_cons]
    rcases hmove with rfl | rfl
    · exact ⟨abs_le.mpr (by push_cast; omega), ⟨k + 1, by push_cast; omega⟩⟩
    · exact ⟨abs_le.mpr (by push_cast; omega), ⟨k, by push_cast; omega⟩⟩

/-- So it is at every step of the walk. -/
theorem IsWalk.reach_at {path : List ℤ} {position : ℤ} (h : IsWalk position target path) {i : ℕ}
    (hi : i < (position :: path).length) :
    Reach target (path.length - i) ((position :: path)[i]) := by
  induction path generalizing position i with
  | nil =>
    obtain rfl : i = 0 := by simpa using hi
    exact h.reach
  | cons next path ih =>
    cases i with
    | zero => exact h.reach
    | succ i =>
      obtain ⟨-, hmoves⟩ := List.isChain_cons_cons.mp h.moves
      have hrest : IsWalk next target path :=
        ⟨hmoves, (List.getLastD_cons ..).symm.trans h.arrives⟩
      rw [List.length_cons, Nat.add_sub_add_right]
      exact ih hrest (Nat.lt_of_succ_lt_succ hi)

end Follow

end UnitWalk
