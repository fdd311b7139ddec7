import Mathlib.Algebra.Order.Field.Basic
import Mathlib.Algebra.Order.Group.MinMax
import Mathlib.Algebra.BigOperators.Group.List.Basic
import Mathlib.Data.List.Induction

/-!
# Exponential back-off

A caller that has failed waits before it tries again: the longer, the more often it has failed in
a row, but never longer than a bound. `Backoff` is such a rule. A history of a caller is a list of
beats, each a success or a wait, and `Paced` says that every wait of it is the one the rule gives
for the failures since the last success.

A paced history has no other waits than those of its stretches (`Paced.stretch`): the first after
a success is the shortest, they never get shorter until the next success, and they stay within the
bounds of the rule.
-/

set_option autoImplicit false

structure Backoff (K : Type*) [Field K] [LinearOrder K] where
  initial : K
  multiplier : K
  maximum : K
  initial_pos : 0 < initial
  one_le_multiplier : 1 ≤ multiplier
  initial_le_maximum : initial ≤ maximum

namespace Backoff

variable {K : Type*} [Field K] [LinearOrder K] (b : Backoff K)

/-- The wait after this many failures in a row. -/
def delay (failures : ℕ) : K := min (b.initial * b.multiplier ^ failures) b.maximum

theorem delay_le_maximum (failures : ℕ) : b.delay failures ≤ b.maximum := min_le_right _ _

theorem delay_zero : b.delay 0 = b.initial := by
  unfold delay
  rw [pow_zero, mul_one]
  exact min_eq_left b.initial_le_maximum

section Ordered

variable [IsStrictOrderedRing K]

theorem delay_mono : Monotone b.delay := by
  intro m n hmn
  have hpow : b.multiplier ^ m ≤ b.multiplier ^ n := pow_le_pow_right₀ b.one_le_multiplier hmn
  exact min_le_min_right _ (mul_le_mul_of_nonneg_left hpow b.initial_pos.le)

theorem initial_le_delay (failures : ℕ) : b.initial ≤ b.delay failures := by
  have hmono := b.delay_mono (Nat.zero_le failures)
  rwa [b.delay_zero] at hmono

end Ordered

end Backoff

/-! ## Histories -/

/-- What a caller does that may have to wait: it succeeds, or it has failed and waits. -/
inductive Beat (K : Type*) where
  | success
  | wait (delay : K)
  deriving DecidableEq

namespace Beat

variable {K : Type*}

/-- The failures in a row, one beat later. -/
def count : ℕ → Beat K → ℕ
  | _, .success => 0
  | n, .wait _ => n + 1

/-- The failures in a row that a history ends with. -/
def failures (beats : List (Beat K)) : ℕ := beats.foldl count 0

@[simp] theorem failures_nil : failures ([] : List (Beat K)) = 0 := rfl

@[simp] theorem failures_success (beats : List (Beat K)) : failures (beats ++ [.success]) = 0 := by
  simp [failures, count]

@[simp] theorem failures_wait (beats : List (Beat K)) (d : K) :
    failures (beats ++ [.wait d]) = failures beats + 1 := by
  simp [failures, count]

theorem failures_waits (beats : List (Beat K)) (ds : List K) :
    failures (beats ++ ds.map .wait) = failures beats + ds.length := by
  induction ds generalizing beats with
  | nil => simp
  | cons d ds ih =>
    have hsplit : beats ++ (d :: ds).map wait = (beats ++ [.wait d]) ++ ds.map wait := by simp
    rw [hsplit, ih, failures_wait, List.length_cons]
    omega

end Beat

namespace Backoff

variable {K : Type*} [Field K] [LinearOrder K] {b : Backoff K} {beats : List (Beat K)}

/-- Every wait is the one due after the failures before it. -/
def Paced (b : Backoff K) (beats : List (Beat K)) : Prop :=
  ∀ earlier d later, beats = earlier ++ .wait d :: later → d = b.delay (Beat.failures earlier)

theorem paced_nil : b.Paced [] := by
  intro earlier d later h
  exact absurd h (by simp)

theorem Paced.concat (h : b.Paced beats) {beat : Beat K}
    (hlast : ∀ d, beat = .wait d → d = b.delay (Beat.failures beats)) :
    b.Paced (beats ++ [beat]) := by
  intro earlier d later hsplit
  rcases List.eq_nil_or_concat later with rfl | ⟨middle, last, rfl⟩
  · obtain ⟨rfl, hbeat⟩ := List.append_inj' hsplit rfl
    exact hlast d (by simpa using hbeat)
  · -- The wait in question is among the beats that were there before.
    have hsplit' : beats ++ [beat] = (earlier ++ .wait d :: middle) ++ [last] := by
      rw [hsplit]
      simp
    exact h earlier d middle (List.append_inj' hsplit' rfl).1

theorem Paced.success (h : b.Paced beats) : b.Paced (beats ++ [.success]) :=
  h.concat fun _ hbeat => absurd hbeat (by simp)

theorem Paced.wait (h : b.Paced beats) :
    b.Paced (beats ++ [.wait (b.delay (Beat.failures beats))]) :=
  h.concat fun _ hbeat => (Beat.wait.inj hbeat).symm

/-- **A stretch of waits**, wherever it stands, is the row of the delays due there. -/
theorem Paced.stretch (h : b.Paced beats) {earlier later : List (Beat K)} {ds : List K}
    (hsplit : beats = earlier ++ ds.map .wait ++ later) :
    ds = (List.range ds.length).map fun i => b.delay (Beat.failures earlier + i) := by
  refine List.ext_getElem (by simp) fun i hi _ => ?_
  have hds : ds.map Beat.wait =
      (ds.take i).map Beat.wait ++ .wait ds[i] :: (ds.drop (i + 1)).map Beat.wait := by
    rw [← List.map_cons, ← List.map_append, List.cons_getElem_drop_succ, List.take_append_drop]
  have hhere : beats = (earlier ++ (ds.take i).map .wait) ++
      .wait ds[i] :: ((ds.drop (i + 1)).map .wait ++ later) := by
    rw [hsplit, hds, List.append_assoc, List.append_assoc, List.cons_append, ← List.append_assoc]
  have hdelay := h _ _ _ hhere
  rw [Beat.failures_waits, List.length_take_of_le hi.le] at hdelay
  simpa using hdelay

/-- After a success the shortest wait comes first. -/
theorem Paced.after_success (h : b.Paced beats) {earlier later : List (Beat K)} {d : K}
    (hsplit : beats = earlier ++ .success :: .wait d :: later) : d = b.initial := by
  have hdelay := h (earlier ++ [.success]) d later (by rw [hsplit]; simp)
  rwa [Beat.failures_success, b.delay_zero] at hdelay

section Ordered

variable [IsStrictOrderedRing K]

/-- Waits within a stretch never get shorter. -/
theorem Paced.pairwise (h : b.Paced beats) {earlier later : List (Beat K)} {ds : List K}
    (hsplit : beats = earlier ++ ds.map .wait ++ later) : ds.Pairwise (· ≤ ·) := by
  rw [h.stretch hsplit, List.pairwise_map]
  refine List.Pairwise.imp (fun hlt => ?_) List.pairwise_lt_range
  exact b.delay_mono (Nat.add_le_add_left hlt.le _)

/-- Every wait is within the bounds. -/
theorem Paced.bounds (h : b.Paced beats) {d : K} (hd : .wait d ∈ beats) :
    b.initial ≤ d ∧ d ≤ b.maximum := by
  obtain ⟨earlier, later, hsplit⟩ := List.append_of_mem hd
  rw [h earlier d later hsplit]
  exact ⟨b.initial_le_delay _, b.delay_le_maximum _⟩

end Ordered

end Backoff
