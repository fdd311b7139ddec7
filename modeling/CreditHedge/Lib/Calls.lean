import CreditHedge.Lib.Coroutines

/-!
# The calls of a task

What a task may come to do, whatever it is answered. `Comes` is the tree itself, walked down: the
task after some calls, with the answers it got on the way. `Calls` says of every call in the tree
that it has a property, and is what is proved compositionally; where the property of a call
depends on an answer the task got earlier, the answer is in the history that `Comes` carries.
-/

set_option autoImplicit false

namespace Coroutine

variable {ε Op : Type} {Res : Op → Type} {α β W A : Type}

/-- Every call the task can come to make, whatever it is answered, satisfies `p`. -/
def Calls (p : Op → Prop) : Coroutine ε Op Res α → Prop
  | .done _ => True
  | .call op resume => p op ∧ ∀ answer, Calls p (resume answer)

section Calls

variable {p : Op → Prop} {t : Coroutine ε Op Res α} {f : α → Coroutine ε Op Res β}

theorem Calls.bind (ht : Calls p t) (hf : ∀ a, Calls p (f a)) : Calls p (t >>= f) := by
  rw [bind_eq]
  induction t with
  | done outcome =>
    cases outcome with
    | ok a => exact hf a
    | error e => exact trivial
  | call op resume ih => exact ⟨ht.1, fun answer => ih answer (ht.2 answer)⟩

theorem Calls.tryCatch {handler : ε → Coroutine ε Op Res α} (ht : Calls p t)
    (hh : ∀ e, Calls p (handler e)) : Calls p (tryCatch t handler) := by
  induction t with
  | done outcome =>
    cases outcome with
    | ok a => exact trivial
    | error e => exact hh e
  | call op resume ih => exact ⟨ht.1, fun answer => ih answer (ht.2 answer)⟩

theorem Calls.pure (a : α) : Calls p (pure a : Coroutine ε Op Res α) := trivial

theorem Calls.throw (e : ε) : Calls p (throw e : Coroutine ε Op Res α) := trivial

/-- A computation without calls. -/
theorem Calls.lift (x : Except ε α) : Calls p (liftM x : Coroutine ε Op Res α) := trivial

theorem Calls.perform {op : Op} (h : p op) :
    Calls p (perform op : Coroutine ε Op Res (Res op)) :=
  ⟨h, fun _ => trivial⟩

theorem Calls.call_bind {op : Op} {f : Res op → Coroutine ε Op Res α} (h : p op)
    (hf : ∀ v, Calls p (f v)) : Calls p (Coroutine.perform op >>= f) :=
  .bind (.perform h) hf

/-- A computation without calls, and what follows if it does not raise. -/
theorem Calls.lift_bind {x : Except ε β} {f : β → Coroutine ε Op Res α}
    (hf : ∀ v, x = .ok v → Calls p (f v)) :
    Calls p ((liftM x : Coroutine ε Op Res β) >>= f) := by
  cases x with
  | ok v => exact hf v rfl
  | error e => exact trivial

theorem Calls.imp {p' : Op → Prop} (h : Calls p t) (himp : ∀ op, p op → p' op) : Calls p' t := by
  induction t with
  | done outcome => exact trivial
  | call op resume ih => exact ⟨himp op h.1, fun answer => ih answer (h.2 answer)⟩

/-- Calls that each move the world along a relation. -/
theorem Calls.guarantees {handle : A → (op : Op) → W → Except ε (Res op) × W}
    {rely : W → W → Prop} (h : Calls p t) (hp : ∀ op, p op → ∀ a w, rely w (handle a op w).2) :
    Guarantees handle rely t := by
  induction t with
  | done outcome => exact trivial
  | call op resume ih => exact ⟨hp op h.1, fun answer => ih answer (h.2 answer)⟩

end Calls

/-! ## The way to a call -/

/-- A call and the answer to it. -/
structure Answered (ε Op : Type) (Res : Op → Type) where
  op : Op
  answer : Except ε (Res op)

/-- `t` comes to `t'`, by these calls and answers. -/
inductive Comes : Coroutine ε Op Res α → List (Answered ε Op Res) → Coroutine ε Op Res α → Prop
  | here {t : Coroutine ε Op Res α} : Comes t [] t
  | call {op : Op} {resume : Except ε (Res op) → Coroutine ε Op Res α}
      {t' : Coroutine ε Op Res α} {history : List (Answered ε Op Res)}
      (answer : Except ε (Res op)) :
      Comes (resume answer) history t' → Comes (.call op resume) (⟨op, answer⟩ :: history) t'

theorem Calls.comes {p : Op → Prop} {t t' : Coroutine ε Op Res α}
    {history : List (Answered ε Op Res)} (h : Calls p t) (hcomes : Comes t history t') :
    Calls p t' := by
  induction hcomes with
  | here => exact h
  | call answer _ ih => exact ih (h.2 answer)

/-- A task that comes to a call comes to what follows its answer. -/
theorem Comes.answered {t : Coroutine ε Op Res α} {history : List (Answered ε Op Res)} {op : Op}
    {resume : Except ε (Res op) → Coroutine ε Op Res α} (h : Comes t history (.call op resume))
    (answer : Except ε (Res op)) : ∃ history', Comes t history' (resume answer) := by
  generalize htarget : Coroutine.call op resume = target at h
  induction h with
  | here =>
    subst htarget
    exact ⟨_, .call answer .here⟩
  | call answer' _ ih =>
    obtain ⟨history', h⟩ := ih htarget
    exact ⟨_, .call answer' h⟩

/-- A task that has ended comes to no call. -/
theorem not_comes_done {outcome : Except ε α} {history : List (Answered ε Op Res)} {op : Op}
    {resume : Except ε (Res op) → Coroutine ε Op Res α} :
    ¬ Comes (done outcome) history (.call op resume) := by
  intro h
  cases h

/-- A sequence that starts with one call comes to another one after the first was answered. -/
theorem comes_call_bind {op op' : Op} {f : Res op → Coroutine ε Op Res α}
    {resume : Except ε (Res op') → Coroutine ε Op Res α} {history : List (Answered ε Op Res)}
    (hne : op ≠ op') (h : Comes (perform op >>= f) history (.call op' resume)) :
    ∃ v rest, history = ⟨op, .ok v⟩ :: rest ∧ Comes (f v) rest (.call op' resume) := by
  rw [bind_eq, perform, call_bind] at h
  cases h with
  | here => exact absurd rfl hne
  | call answer h =>
    cases answer with
    | ok v => exact ⟨v, _, rfl, h⟩
    | error e => exact absurd h not_comes_done

/-- A sequence that starts with a computation comes to a call if that did not raise. -/
theorem comes_lift_bind {x : Except ε β} {op : Op} {f : β → Coroutine ε Op Res α}
    {resume : Except ε (Res op) → Coroutine ε Op Res α} {history : List (Answered ε Op Res)}
    (h : Comes ((liftM x : Coroutine ε Op Res β) >>= f) history (.call op resume)) :
    ∃ v, x = .ok v ∧ Comes (f v) history (.call op resume) := by
  cases x with
  | ok v => exact ⟨v, rfl, h⟩
  | error e => exact absurd h not_comes_done

/-- The task after one call for each of these answers from outside, and the world then. -/
def advances (handle : A → (op : Op) → W → Except ε (Res op) × W) :
    List A → Coroutine ε Op Res α → W → Coroutine ε Op Res α × W
  | [], t, w => (t, w)
  | a :: as, t, w => advances handle as (t.advance handle a w).1 (t.advance handle a w).2

/-- A task that is run comes to where it is. -/
theorem exists_comes_advances (handle : A → (op : Op) → W → Except ε (Res op) × W)
    (as : List A) (t : Coroutine ε Op Res α) (w : W) :
    ∃ history, Comes t history (advances handle as t w).1 := by
  induction as generalizing t w with
  | nil => exact ⟨[], .here⟩
  | cons a as ih =>
    cases t with
    | done outcome => exact ih (.done outcome) w
    | call op resume =>
      obtain ⟨history, h⟩ := ih (resume (handle a op w).1) (handle a op w).2
      exact ⟨⟨op, (handle a op w).1⟩ :: history, .call _ h⟩

end Coroutine
