import Mathlib.Data.List.Induction

/-!
# Machines that are fed and answer

A machine in some state takes an input, goes to another state and puts out a list of outputs. What
a run has put out is kept beside the state, so that an invariant may speak of both: of what the
machine still knows, and of what it has told.

Every statement is about finite runs. A machine that never ends is all of its finite runs, and
what holds of each of them holds at every moment.
-/

set_option autoImplicit false

/-- A state, and what has been put out on the way to it. -/
structure Transcript (σ ο : Type*) where
  state : σ
  outputs : List ο

namespace Transcript

variable {σ ι ο : Type*} (step : σ → ι → σ × List ο)

def feed (t : Transcript σ ο) (i : ι) : Transcript σ ο where
  state := (step t.state i).1
  outputs := t.outputs ++ (step t.state i).2

def run (t : Transcript σ ο) (is : List ι) : Transcript σ ο := is.foldl (feed step) t

@[simp] theorem run_nil (t : Transcript σ ο) : t.run step [] = t := rfl

@[simp] theorem run_concat (t : Transcript σ ο) (is : List ι) (i : ι) :
    t.run step (is ++ [i]) = (t.run step is).feed step i := by
  simp [run]

variable {step}

/-- **An invariant of the steps is one of the runs.** -/
theorem invariant {I : σ → List ο → Prop} {t : Transcript σ ο} (h : I t.state t.outputs)
    (hstep : ∀ s outputs i, I s outputs → I (step s i).1 (outputs ++ (step s i).2))
    (is : List ι) : I (t.run step is).state (t.run step is).outputs := by
  induction is using List.reverseRecOn with
  | nil => exact h
  | append_singleton is i ih =>
    rw [run_concat]
    exact hstep _ _ i ih

end Transcript
