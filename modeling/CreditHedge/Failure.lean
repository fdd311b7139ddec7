import Mathlib.Algebra.Order.Field.Rat

/-!
# Failures

The exceptions the modelled code raises, as one type. A function of the source that can raise
returns `Except Failure`; the message is the source's own text, so a statement about *which*
check refused an input is a statement about the code.

`outOfFuel` is the one constructor with no counterpart in the source: it is what a bounded
reading of a `while True` loop answers when the bound runs out. Every result about such a loop
proves that the bound the model supplies is never reached.
-/

set_option autoImplicit false

namespace CreditHedge

inductive Failure where
  | valueError (message : String)
  | runtimeError (message : String)
  | assertionError (message : String)
  | indexError
  | outOfFuel
  /-- `sqlite3.IntegrityError`, where the store does not turn it into a `ValueError`. -/
  | integrityError
  /-- `ConcurrentSnapshotUpdateError`: the row changed after it was read. -/
  | concurrentSnapshotUpdate (message : String)
  /-- `UncertainOrderOutcomeError`: the mutation may have reached the exchange. -/
  | uncertainOrderOutcome (operation : String)
  /-- `ProtectionNotConfirmedError`. -/
  | protectionNotConfirmed (message : String)
  /-- `TimeoutError`. -/
  | timeoutError (message : String)
  /-- `OptionSpreadNotOpenedError`. -/
  | optionSpreadNotOpened (message : String)
  /-- `DemoMutationRefusedError`. -/
  | demoMutationRefused (message : String)
  /-- `decimal.InvalidOperation`, which is no `ValueError`. -/
  | invalidOperation
  /-- `OverflowError`: SQLite keeps no integer of more than 64 bits. -/
  | overflowError
  | typeError (message : String)
  | keyError (key : String)
  /-- Any other exception an exchange port raises: a transport error, a rejection. -/
  | exchangeError (message : String)
  deriving DecidableEq, Repr

/-! ## Checks

A constructor of the source is a row of `if …: raise ValueError(…)`. `refuseIf` is one of them,
and `build` is the constructor: the record exists only if its checks passed, and carries the
proof that they did. -/

/-- `if condition: raise ValueError(message)`. -/
def refuseIf (condition : Prop) [Decidable condition] (message : String) : Except Failure Unit :=
  if condition then .error (.valueError message) else .ok ()

@[simp] theorem refuseIf_eq_ok {condition : Prop} [Decidable condition] {message : String}
    {u : Unit} : refuseIf condition message = .ok u ↔ ¬ condition := by
  unfold refuseIf
  split <;> simp [*]

/-- What a check that did not refuse a number says of it. -/
theorem pos_of_not_nonpos {value : ℚ} (h : ¬ value ≤ 0) : 0 < value := not_le.mp h

theorem nonneg_of_not_neg {value : ℚ} (h : ¬ value < 0) : 0 ≤ value := not_lt.mp h

/-- What a record needs to know of an amount of none, and of one unit. -/
theorem zero_nonneg : (0 : ℚ) ≤ 0 := le_rfl

theorem unit_pos : (0 : ℚ) < 1 := one_pos

/-- A sequence succeeds when its first part does and the rest does after it. -/
theorem bind_eq_ok {α β : Type} {x : Except Failure α} {f : α → Except Failure β} {b : β} :
    (x >>= f) = .ok b ↔ ∃ a, x = .ok a ∧ f a = .ok b := by
  rcases x with failure | a <;> simp [bind, Except.bind]

theorem bind_unit_eq_ok {β : Type} {x : Except Failure Unit} {f : Unit → Except Failure β}
    {b : β} : (x >>= f) = .ok b ↔ x = .ok () ∧ f () = .ok b := by
  rw [bind_eq_ok]
  exact ⟨fun ⟨_, hx, hf⟩ => ⟨hx, hf⟩, fun ⟨hx, hf⟩ => ⟨(), hx, hf⟩⟩

theorem ok_bind {α β : Type} (a : α) (f : α → Except Failure β) :
    ((.ok a : Except Failure α) >>= f) = f a := rfl

/-- The record `wrap` makes of `fields`, if the checks accept them. -/
def build {F R : Type} (check : F → Except Failure Unit)
    (wrap : (fields : F) → check fields = .ok () → R) (fields : F) : Except Failure R :=
  match h : check fields with
  | .ok () => .ok (wrap fields h)
  | .error failure => .error failure

theorem build_eq_ok {F R : Type} {check : F → Except Failure Unit}
    {wrap : (fields : F) → check fields = .ok () → R} {fields : F} {r : R} :
    build check wrap fields = .ok r ↔ ∃ h, wrap fields h = r := by
  unfold build
  split
  · rename_i h
    exact ⟨fun hr => ⟨h, Except.ok.inj hr⟩, fun ⟨_, hr⟩ => congrArg _ hr⟩
  · rename_i failure h
    exact ⟨fun hr => absurd hr (by simp), fun ⟨h', _⟩ => absurd (h.symm.trans h') (by simp)⟩

/-! ## Lists -/

/-- What succeeds on a whole list succeeds on each of its elements. -/
theorem mapM_eq_ok {α β : Type} {f : α → Except Failure β} {xs : List α} {ys : List β} :
    xs.mapM f = .ok ys ↔ List.Forall₂ (fun x y => f x = .ok y) xs ys := by
  induction xs generalizing ys with
  | nil =>
    rw [List.mapM_nil]
    constructor
    · intro h
      obtain rfl := Except.ok.inj h
      exact .nil
    · intro h
      cases h
      rfl
  | cons x xs ih =>
    rw [List.mapM_cons]
    simp only [bind_eq_ok, ih]
    constructor
    · rintro ⟨y, hy, ys', hys, hpure⟩
      obtain rfl := Except.ok.inj hpure
      exact .cons hy hys
    · intro h
      cases h with
      | cons hy hys => exact ⟨_, hy, _, hys, rfl⟩

theorem exists_mapM_ok {α β : Type} {f : α → Except Failure β} {xs : List α}
    (h : ∀ x ∈ xs, ∃ y, f x = .ok y) : ∃ ys, xs.mapM f = .ok ys := by
  induction xs with
  | nil => exact ⟨[], rfl⟩
  | cons x xs ih =>
    obtain ⟨⟨y, hy⟩, hxs⟩ := List.forall_mem_cons.mp h
    obtain ⟨ys, hys⟩ := ih hxs
    exact ⟨y :: ys, mapM_eq_ok.mpr (.cons hy (mapM_eq_ok.mp hys))⟩

end CreditHedge
