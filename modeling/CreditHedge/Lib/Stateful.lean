import Mathlib.Logic.Relation
import Mathlib.Algebra.Group.Defs

/-!
# Programs that raise and keep their state

A method of an object that may raise leaves the object as it was at that moment, half-done or not.
`Stateful` is such a program: an outcome and a state, whatever the outcome.

Two kinds of fact are of use about it. `Moves` says that the program takes the state along steps of
a relation, so that an invariant of the steps is an invariant of the program and of anything made
of it; it is about every outcome. Its postcondition is about what the program returns.
-/

set_option autoImplicit false

/-- A program with a state, which keeps it when it raises. -/
abbrev Stateful (ε S : Type) := ExceptT ε (StateM S)

namespace Stateful

variable {ε S α β : Type}

def run (t : Stateful ε S α) (s : S) : Except ε α × S := StateT.run (ExceptT.run t) s

@[simp] theorem run_pure (a : α) (s : S) : run (pure a : Stateful ε S α) s = (.ok a, s) := rfl

@[simp] theorem run_throw (e : ε) (s : S) :
    run (throw e : Stateful ε S α) s = (.error e, s) := rfl

@[simp] theorem run_get (s : S) : run (MonadState.get : Stateful ε S S) s = (.ok s, s) := rfl

@[simp] theorem run_set (s s' : S) :
    run (set s' : Stateful ε S PUnit) s = (.ok ⟨⟩, s') := rfl

@[simp] theorem run_lift (x : Except ε α) (s : S) :
    run (liftM x : Stateful ε S α) s = (x, s) := by
  cases x <;> rfl

theorem run_bind (t : Stateful ε S α) (f : α → Stateful ε S β) (s : S) :
    run (t >>= f) s =
      match run t s with
      | (.ok a, s') => run (f a) s'
      | (.error e, s') => (.error e, s') := by
  have hbind : run (t >>= f) s = ExceptT.bindCont f (run t s).1 (run t s).2 := rfl
  rw [hbind]
  rcases run t s with ⟨_ | _, s'⟩ <;> rfl

/-- The program goes along steps of `step`, and what it returns satisfies `post`. -/
structure Moves (step : S → S → Prop) (post : α → S → Prop) (t : Stateful ε S α) (s : S) :
    Prop where
  along : Relation.ReflTransGen step s (run t s).2
  returns : ∀ a, (run t s).1 = .ok a → post a (run t s).2

variable {step : S → S → Prop} {post : α → S → Prop} {s : S}

theorem Moves.pure {a : α} (h : post a s) : Moves step post (pure a : Stateful ε S α) s :=
  ⟨.refl, fun _ h' => Except.ok.inj h' ▸ h⟩

theorem Moves.throw (e : ε) : Moves step post (throw e : Stateful ε S α) s :=
  ⟨.refl, fun _ h => absurd h (by simp)⟩

/-- The rule of sequence. -/
theorem Moves.bind {post' : β → S → Prop} {t : Stateful ε S α} {f : α → Stateful ε S β}
    (h : Moves step post t s)
    (hf : ∀ a s', Relation.ReflTransGen step s s' → post a s' → Moves step post' (f a) s') :
    Moves step post' (t >>= f) s := by
  obtain ⟨halong, hreturns⟩ := h
  rcases houtcome : run t s with ⟨e | a, s'⟩
  · rw [houtcome] at halong
    refine ⟨?_, fun b hb => ?_⟩
    · rw [run_bind, houtcome]
      exact halong
    · rw [run_bind, houtcome] at hb
      exact absurd hb (by simp)
  · rw [houtcome] at halong hreturns
    obtain ⟨hrest, hpost⟩ := hf a s' halong (hreturns a rfl)
    have hrun : run (t >>= f) s = run (f a) s' := by rw [run_bind, houtcome]
    rw [← hrun] at hrest hpost
    exact ⟨halong.trans hrest, hpost⟩

theorem Moves.imp {post' : α → S → Prop} {t : Stateful ε S α} (h : Moves step post t s)
    (himp : ∀ a s', post a s' → post' a s') : Moves step post' t s :=
  ⟨h.along, fun a ha => himp a _ (h.returns a ha)⟩

/-- A computation that does not touch the state. -/
theorem Moves.lift {x : Except ε α} {post' : β → S → Prop} {f : α → Stateful ε S β}
    (h : ∀ a, x = .ok a → Moves step post' (f a) s) :
    Moves step post' ((liftM x : Stateful ε S α) >>= f) s := by
  cases x with
  | ok a => exact h a rfl
  | error e => exact .throw e

/-- The state is read. -/
theorem Moves.get {f : S → Stateful ε S β} {post' : β → S → Prop} (h : Moves step post' (f s) s) :
    Moves step post' ((MonadState.get : Stateful ε S S) >>= f) s :=
  ⟨h.along, h.returns⟩

/-- The state is replaced by one some steps away. -/
theorem Moves.set {s' : S} {f : PUnit → Stateful ε S β} {post' : β → S → Prop}
    (hsteps : Relation.ReflTransGen step s s') (h : Moves step post' (f ⟨⟩) s') :
    Moves step post' ((MonadState.set s' : Stateful ε S PUnit) >>= f) s :=
  ⟨hsteps.trans h.along, h.returns⟩

/-- The state is replaced at the end. -/
theorem Moves.set_last {s' : S} {post' : PUnit → S → Prop}
    (hsteps : Relation.ReflTransGen step s s') (h : post' ⟨⟩ s') :
    Moves step post' (MonadState.set s' : Stateful ε S PUnit) s :=
  ⟨hsteps, fun _ _ => h⟩

/-- An invariant of the steps is an invariant of the program. -/
theorem Moves.preserves {t : Stateful ε S α} {inv : S → Prop} (h : Moves step post t s)
    (hinv : ∀ s s', step s s' → inv s → inv s') (hs : inv s) : inv (run t s).2 := by
  have halong := h.along
  generalize (run t s).2 = s' at halong
  induction halong with
  | refl => exact hs
  | tail _ hstep ih => exact hinv _ _ hstep ih

end Stateful
