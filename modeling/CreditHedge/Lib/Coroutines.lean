import Mathlib.Data.Nat.Notation
import Mathlib.Logic.Basic

/-!
# Asynchronous tasks

A task is a tree. Either it has ended, with a result or an exception, or it is suspended at a
call, and the answer of the call decides how it goes on. `do`, `throw` and `try … catch` are the
source language's own, so a coroutine that awaits its calls is written down as it is.

A task does nothing by itself. A *handler* says what a call does to the world and what it is
answered; whatever the outside world decides (what an exchange replies, what a clock shows) is an
extra argument of the handler, so that "for every outcome" is a quantifier over that argument.

Two ways of running are defined. Alone (`Runs`): nothing else touches the world, and the rules
`runs_bind`, `runs_tryCatch` take a run of a compound task apart. Among others (`EventLoop`): one
*main* task and any number of *others*, one call at a time, in any order. For the second, the
rules are those of rely and guarantee. `Ensures` says that a task reaches its postcondition
although the world may move along `rely` whenever the task is suspended; `Guarantees` says that a
task moves the world along a relation only; `EventLoop.ensures_run` puts the two together. Where
what a task does is right only because of what it has seen before, `Upholds` says both at once,
and `EventLoop.upholds_run` is the rule for a loop of such tasks. `WritesLast` is the tasks that do
nothing by halves: if such a task has raised, it has left no trace (`mainQuiet_of_raised`).
-/

set_option autoImplicit false

inductive Coroutine (ε Op : Type) (Res : Op → Type) (α : Type) where
  | done (outcome : Except ε α)
  | call (op : Op) (resume : Except ε (Res op) → Coroutine ε Op Res α)

namespace Coroutine

variable {ε Op : Type} {Res : Op → Type} {α β : Type}

def bind (t : Coroutine ε Op Res α) (f : α → Coroutine ε Op Res β) : Coroutine ε Op Res β :=
  match t with
  | .done (.ok a) => f a
  | .done (.error e) => .done (.error e)
  | .call op resume => .call op fun answer => (resume answer).bind f

/-- `try: t except e: handler(e)`. -/
def tryCatch (t : Coroutine ε Op Res α) (handler : ε → Coroutine ε Op Res α) :
    Coroutine ε Op Res α :=
  match t with
  | .done (.ok a) => .done (.ok a)
  | .done (.error e) => handler e
  | .call op resume => .call op fun answer => (resume answer).tryCatch handler

instance : Monad (Coroutine ε Op Res) where
  pure a := .done (.ok a)
  bind := bind

instance : MonadExcept ε (Coroutine ε Op Res) where
  throw e := .done (.error e)
  tryCatch := tryCatch

/-- A computation without calls is a task that has ended. -/
instance : MonadLift (Except ε) (Coroutine ε Op Res) where
  monadLift := .done

def perform (op : Op) : Coroutine ε Op Res (Res op) := .call op .done

/-- The outcome, of a task that has ended. -/
def outcome? : Coroutine ε Op Res α → Option (Except ε α)
  | .done outcome => some outcome
  | .call _ _ => none

theorem outcome?_eq_some {t : Coroutine ε Op Res α} {outcome : Except ε α} :
    t.outcome? = some outcome ↔ t = .done outcome := by
  cases t <;> simp [outcome?]

/-- The exception, of a task that has raised. -/
def raised? (t : Coroutine ε Op Res α) : Option ε :=
  match t with
  | .done (.error e) => some e
  | _ => none

theorem raised?_eq_some {t : Coroutine ε Op Res α} {e : ε} :
    t.raised? = some e ↔ t = .done (.error e) := by
  unfold raised?
  split
  · simp
  · rename_i hnot
    exact ⟨fun h => absurd h (by simp), fun h => absurd h (hnot e)⟩

/-- The result, of a task that has returned. -/
def returned? (t : Coroutine ε Op Res α) : Option α :=
  match t with
  | .done (.ok a) => some a
  | _ => none

theorem returned?_eq_some {t : Coroutine ε Op Res α} {a : α} :
    t.returned? = some a ↔ t = .done (.ok a) := by
  unfold returned?
  split
  · simp
  · rename_i hnot
    exact ⟨fun h => absurd h (by simp), fun h => absurd h (hnot a)⟩

/-- A postcondition that says nothing of a task that raises. -/
def IfReturned {W : Type} (post : α → W → Prop) : Except ε α → W → Prop
  | .ok v, w => post v w
  | .error _, _ => True

section Equations

variable {t : Coroutine ε Op Res α} {f : α → Coroutine ε Op Res β}
  {handler : ε → Coroutine ε Op Res α}

theorem bind_eq : t >>= f = t.bind f := rfl

@[simp] theorem pure_bind (a : α) : (pure a : Coroutine ε Op Res α).bind f = f a := rfl

@[simp] theorem done_ok_bind (a : α) : (done (.ok a) : Coroutine ε Op Res α).bind f = f a := rfl

@[simp] theorem done_error_bind (e : ε) :
    (done (.error e) : Coroutine ε Op Res α).bind f = done (.error e) := rfl

@[simp] theorem call_bind (op : Op) (resume : Except ε (Res op) → Coroutine ε Op Res α) :
    (call op resume).bind f = call op fun answer => (resume answer).bind f := rfl

theorem bind_assoc {γ : Type} (t : Coroutine ε Op Res α) (f : α → Coroutine ε Op Res β)
    (g : β → Coroutine ε Op Res γ) : t >>= f >>= g = t >>= fun a => f a >>= g := by
  simp only [bind_eq]
  induction t with
  | done outcome =>
    cases outcome with
    | ok a => rfl
    | error e => rfl
  | call op resume ih =>
    rw [call_bind, call_bind, call_bind]
    exact congrArg (call op) (funext ih)

theorem bind_pure (t : Coroutine ε Op Res α) : t >>= pure = t := by
  rw [bind_eq]
  induction t with
  | done outcome =>
    cases outcome with
    | ok a => rfl
    | error e => rfl
  | call op resume ih =>
    rw [call_bind]
    exact congrArg (call op) (funext ih)

end Equations

/-! ## A task alone -/

section Alone

variable {W A : Type} (handle : A → (op : Op) → W → Except ε (Res op) × W)

/-- `t` run from a world to its outcome and the world after it, for some answers from outside. -/
inductive Runs : Coroutine ε Op Res α → W → Except ε α → W → Prop
  | done (outcome : Except ε α) (w : W) : Runs (.done outcome) w outcome w
  | call (a : A) {op : Op} {resume : Except ε (Res op) → Coroutine ε Op Res α} {w w' : W}
      {outcome : Except ε α} :
      Runs (resume (handle a op w).1) (handle a op w).2 outcome w' →
      Runs (.call op resume) w outcome w'

variable {handle} {w w' : W}

theorem runs_done {outcome outcome' : Except ε α} :
    Runs handle (.done outcome) w outcome' w' ↔ outcome' = outcome ∧ w' = w := by
  constructor
  · intro h
    cases h
    exact ⟨rfl, rfl⟩
  · rintro ⟨rfl, rfl⟩
    exact .done _ _

theorem runs_call {op : Op} {resume : Except ε (Res op) → Coroutine ε Op Res α}
    {outcome : Except ε α} :
    Runs handle (.call op resume) w outcome w' ↔
      ∃ a, Runs handle (resume (handle a op w).1) (handle a op w).2 outcome w' := by
  constructor
  · intro h
    cases h with
    | call a h => exact ⟨a, h⟩
  · rintro ⟨a, h⟩
    exact .call a h

/-- A sequence runs its first part, and its second part if the first did not raise. -/
theorem runs_bind {t : Coroutine ε Op Res α} {f : α → Coroutine ε Op Res β} {outcome : Except ε β} :
    Runs handle (t >>= f) w outcome w' ↔
      (∃ a w₁, Runs handle t w (.ok a) w₁ ∧ Runs handle (f a) w₁ outcome w') ∨
        ∃ e, Runs handle t w (.error e) w' ∧ outcome = .error e := by
  rw [bind_eq]
  induction t generalizing w with
  | done outcome₁ =>
    cases outcome₁ with
    | ok a =>
      simp only [done_ok_bind, runs_done, Except.ok.injEq, reduceCtorEq, false_and, exists_false,
        or_false]
      exact ⟨fun h => ⟨a, w, ⟨rfl, rfl⟩, h⟩, fun ⟨_, _, ⟨ha, hw⟩, h⟩ => ha ▸ hw ▸ h⟩
    | error e =>
      simp only [done_error_bind, runs_done, reduceCtorEq, false_and, exists_false, false_or,
        Except.error.injEq]
      exact ⟨fun ⟨ho, hw⟩ => ⟨e, ⟨rfl, hw⟩, ho⟩, fun ⟨_, ⟨he, hw⟩, ho⟩ => ⟨by rw [ho, he], hw⟩⟩
  | call op resume ih =>
    rw [call_bind, runs_call]
    simp only [ih, runs_call]
    constructor
    · rintro ⟨a, ⟨v, w₁, h₁, h₂⟩ | ⟨e, h₁, rfl⟩⟩
      · exact .inl ⟨v, w₁, ⟨a, h₁⟩, h₂⟩
      · exact .inr ⟨e, ⟨a, h₁⟩, rfl⟩
    · rintro (⟨v, w₁, ⟨a, h₁⟩, h₂⟩ | ⟨e, ⟨a, h₁⟩, rfl⟩)
      · exact ⟨a, .inl ⟨v, w₁, h₁, h₂⟩⟩
      · exact ⟨a, .inr ⟨e, h₁, rfl⟩⟩

theorem runs_tryCatch {t : Coroutine ε Op Res α} {handler : ε → Coroutine ε Op Res α}
    {outcome : Except ε α} :
    Runs handle (tryCatch t handler) w outcome w' ↔
      (∃ a, Runs handle t w (.ok a) w' ∧ outcome = .ok a) ∨
        ∃ e w₁, Runs handle t w (.error e) w₁ ∧ Runs handle (handler e) w₁ outcome w' := by
  induction t generalizing w with
  | done outcome₁ =>
    cases outcome₁ with
    | ok a =>
      simp only [tryCatch, runs_done, reduceCtorEq, false_and, exists_false, or_false,
        Except.ok.injEq]
      exact ⟨fun ⟨ho, hw⟩ => ⟨a, ⟨rfl, hw⟩, ho⟩, fun ⟨_, ⟨he, hw⟩, ho⟩ => ⟨by rw [ho, he], hw⟩⟩
    | error e =>
      simp only [tryCatch, runs_done, Except.error.injEq, reduceCtorEq, false_and, exists_false,
        false_or]
      exact ⟨fun h => ⟨e, w, ⟨rfl, rfl⟩, h⟩, fun ⟨_, _, ⟨he, hw⟩, h⟩ => he ▸ hw ▸ h⟩
  | call op resume ih =>
    simp only [tryCatch, runs_call, ih]
    constructor
    · rintro ⟨a, ⟨v, h₁, rfl⟩ | ⟨e, w₁, h₁, h₂⟩⟩
      · exact .inl ⟨v, ⟨a, h₁⟩, rfl⟩
      · exact .inr ⟨e, w₁, ⟨a, h₁⟩, h₂⟩
    · rintro (⟨v, ⟨a, h₁⟩, rfl⟩ | ⟨e, w₁, ⟨a, h₁⟩, h₂⟩)
      · exact ⟨a, .inl ⟨v, h₁, rfl⟩⟩
      · exact ⟨a, .inr ⟨e, w₁, h₁, h₂⟩⟩

theorem runs_perform {op : Op} {outcome : Except ε (Res op)} :
    Runs handle (perform op) w outcome w' ↔ ∃ a, handle a op w = (outcome, w') := by
  simp only [perform, runs_call, runs_done]
  exact ⟨fun ⟨a, ho, hw⟩ => ⟨a, Prod.ext ho.symm hw.symm⟩, fun ⟨a, h⟩ => ⟨a, by simp [h]⟩⟩

/-- A call the outside world has no say in, and what follows it. -/
theorem runs_call_bind [Nonempty A] {op : Op} {f : Res op → Coroutine ε Op Res α}
    {answer : Except ε (Res op)} {w₁ : W} (h : ∀ a, handle a op w = (answer, w₁))
    {outcome : Except ε α} :
    Runs handle (perform op >>= f) w outcome w' ↔
      match answer with
      | .ok v => Runs handle (f v) w₁ outcome w'
      | .error e => outcome = .error e ∧ w' = w₁ := by
  have hstep : Runs handle (perform op >>= f) w outcome w' ↔
      Runs handle ((done answer : Coroutine ε Op Res (Res op)).bind f) w₁ outcome w' := by
    rw [bind_eq, perform, call_bind, runs_call]
    constructor
    · rintro ⟨a, ha⟩
      rwa [h a] at ha
    · intro hr
      obtain ⟨a⟩ := ‹Nonempty A›
      exact ⟨a, by rwa [h a]⟩
  rw [hstep]
  cases answer with
  | ok v => exact Iff.rfl
  | error e => exact runs_done

/-- A computation without calls, and what follows it. -/
theorem runs_lift_bind {x : Except ε β} {f : β → Coroutine ε Op Res α} {outcome : Except ε α} :
    Runs handle ((liftM x : Coroutine ε Op Res β) >>= f) w outcome w' ↔
      match x with
      | .ok v => Runs handle (f v) w outcome w'
      | .error e => outcome = .error e ∧ w' = w := by
  cases x with
  | ok v => exact Iff.rfl
  | error e => exact runs_done

theorem runs_pure {a : α} {outcome : Except ε α} :
    Runs handle (pure a) w outcome w' ↔ outcome = .ok a ∧ w' = w :=
  runs_done

theorem runs_throw {e : ε} {outcome : Except ε α} :
    Runs handle (throw e) w outcome w' ↔ outcome = .error e ∧ w' = w :=
  runs_done

variable (handle)

/-- The same run as a function, the answers from outside given one for each call. -/
def execute : Coroutine ε Op Res α → List A → W → Option (Except ε α × W)
  | .done outcome, _, w => some (outcome, w)
  | .call _ _, [], _ => none
  | .call op resume, a :: as, w =>
    execute (resume (handle a op w).1) as (handle a op w).2

variable {handle}

theorem runs_of_execute {t : Coroutine ε Op Res α} {as : List A} {outcome : Except ε α}
    (h : execute handle t as w = some (outcome, w')) : Runs handle t w outcome w' := by
  induction t generalizing as w with
  | done outcome₁ =>
    simp only [execute, Option.some.injEq, Prod.mk.injEq] at h
    rw [runs_done]
    exact ⟨h.1.symm, h.2.symm⟩
  | call op resume ih =>
    cases as with
    | nil => exact absurd h (by simp [execute])
    | cons a as => exact .call a (ih _ h)

end Alone

/-! ## A task among others -/

section Among

variable {W A : Type} (handle : A → (op : Op) → W → Except ε (Res op) × W)

/-- One call of the task, answered. -/
def advance (a : A) : Coroutine ε Op Res α → W → Coroutine ε Op Res α × W
  | .done outcome, w => (.done outcome, w)
  | .call op resume, w => (resume (handle a op w).1, (handle a op w).2)

variable {handle} in
/-- A run makes its first call, if there is one, and then the rest. -/
theorem runs_advance [Nonempty A] {t : Coroutine ε Op Res α} {w w' : W} {outcome : Except ε α} :
    Runs handle t w outcome w' ↔
      ∃ a, Runs handle (advance handle a t w).1 (advance handle a t w).2 outcome w' := by
  cases t with
  | done outcome' =>
    obtain ⟨a⟩ := ‹Nonempty A›
    exact ⟨fun h => ⟨a, h⟩, fun ⟨_, h⟩ => h⟩
  | call op resume => exact runs_call

variable (rely : W → W → Prop) (allowed : A → Op → W → Prop)

/-- Wherever the world has moved along `rely` while the task was suspended, and whatever its
    calls are answered as long as it is `allowed`, the task ends in `post`. -/
def Ensures (post : Except ε α → W → Prop) : Coroutine ε Op Res α → W → Prop
  | .done outcome, w => ∀ w', rely w w' → post outcome w'
  | .call op resume, w => ∀ w', rely w w' → ∀ a, allowed a op w' →
      Ensures post (resume (handle a op w').1) (handle a op w').2

/-- Every call of the task moves the world along `rely`, whatever it is answered. -/
def Guarantees : Coroutine ε Op Res α → Prop
  | .done _ => True
  | .call op resume =>
      (∀ a w, rely w (handle a op w).2) ∧ ∀ answer, Guarantees (resume answer)

variable {handle rely allowed} {post : Except ε α → W → Prop}

/-- A property of worlds that is lost by no move of the others. -/
theorem Ensures.stable {t : Coroutine ε Op Res α} {w w' : W}
    (h : Ensures handle rely allowed post t w) (hw : rely w w')
    (htrans : ∀ {w w' w''}, rely w w' → rely w' w'' → rely w w'') :
    Ensures handle rely allowed post t w' := by
  cases t with
  | done outcome => exact fun w'' hw'' => h w'' (htrans hw hw'')
  | call op resume => exact fun w'' hw'' => h w'' (htrans hw hw'')

/-- The rule of sequence. -/
theorem Ensures.bind (hrefl : ∀ w, rely w w) {post : Except ε β → W → Prop}
    {t : Coroutine ε Op Res α} {f : α → Coroutine ε Op Res β} {w : W}
    (h : Ensures handle rely allowed (fun outcome w' =>
      match outcome with
      | .ok a => Ensures handle rely allowed post (f a) w'
      | .error e => ∀ w'', rely w' w'' → post (.error e) w'') t w) :
    Ensures handle rely allowed post (t >>= f) w := by
  rw [bind_eq]
  induction t generalizing w with
  | done outcome =>
    cases outcome with
    | ok a => exact h w (hrefl w)
    | error e => exact h w (hrefl w)
  | call op resume ih => exact fun w' hw' a ha => ih _ (h w' hw' a ha)

/-- The rule of `try … catch`. -/
theorem Ensures.tryCatch (hrefl : ∀ w, rely w w) {t : Coroutine ε Op Res α}
    {handler : ε → Coroutine ε Op Res α} {w : W}
    (h : Ensures handle rely allowed (fun outcome w' =>
      match outcome with
      | .ok a => ∀ w'', rely w' w'' → post (.ok a) w''
      | .error e => Ensures handle rely allowed post (handler e) w') t w) :
    Ensures handle rely allowed post (tryCatch t handler) w := by
  induction t generalizing w with
  | done outcome =>
    cases outcome with
    | ok a => exact h w (hrefl w)
    | error e => exact h w (hrefl w)
  | call op resume ih => exact fun w' hw' a ha => ih _ (h w' hw' a ha)

/-- What the second part of a sequence ensures wherever it starts, if nothing is asked of a run
    that raises. -/
theorem Ensures.bind_of_forall {post : Except ε β → W → Prop} {t : Coroutine ε Op Res α}
    {f : α → Coroutine ε Op Res β} (herror : ∀ e w, post (.error e) w)
    (hf : ∀ a w, Ensures handle rely allowed post (f a) w) (w : W) :
    Ensures handle rely allowed post (t >>= f) w := by
  rw [bind_eq]
  induction t generalizing w with
  | done outcome =>
    cases outcome with
    | ok a => exact hf a w
    | error e => exact fun w' _ => herror e w'
  | call op resume ih => exact fun w' _ a _ => ih _ _

/-- The rule of a single call. -/
theorem Ensures.perform {op : Op} {w : W} {post : Except ε (Res op) → W → Prop}
    (h : ∀ w', rely w w' → ∀ a, allowed a op w' → ∀ w'', rely (handle a op w').2 w'' →
      post (handle a op w').1 w'') :
    Ensures handle rely allowed post (perform op) w :=
  h

/-- A call, and what follows it. -/
theorem Ensures.call_bind {op : Op} {f : Res op → Coroutine ε Op Res α} {w : W}
    (h : ∀ w', rely w w' → ∀ a, allowed a op w' →
      match handle a op w' with
      | (.ok v, w₁) => Ensures handle rely allowed post (f v) w₁
      | (.error e, w₁) => ∀ w₂, rely w₁ w₂ → post (.error e) w₂) :
    Ensures handle rely allowed post (Coroutine.perform op >>= f) w := by
  intro w' hw' a ha
  have hstep := h w' hw' a ha
  generalize handle a op w' = answered at hstep ⊢
  obtain ⟨answer, w₁⟩ := answered
  cases answer with
  | ok v => exact hstep
  | error e => exact hstep

/-- A computation without calls, and what follows it. -/
theorem Ensures.lift_bind {x : Except ε β} {f : β → Coroutine ε Op Res α} {w : W}
    (h : match x with
      | .ok v => Ensures handle rely allowed post (f v) w
      | .error e => ∀ w', rely w w' → post (.error e) w') :
    Ensures handle rely allowed post ((liftM x : Coroutine ε Op Res β) >>= f) w := by
  cases x with
  | ok v => exact h
  | error e => exact h

theorem Ensures.imp {t : Coroutine ε Op Res α} {w : W} {post' : Except ε α → W → Prop}
    (h : Ensures handle rely allowed post t w)
    (himp : ∀ outcome w', post outcome w' → post' outcome w') :
    Ensures handle rely allowed post' t w := by
  induction t generalizing w with
  | done outcome => exact fun w' hw' => himp outcome w' (h w' hw')
  | call op resume ih => exact fun w' hw' a ha => ih _ (h w' hw' a ha)

theorem Ensures.and {t : Coroutine ε Op Res α} {w : W} {post' : Except ε α → W → Prop}
    (h : Ensures handle rely allowed post t w) (h' : Ensures handle rely allowed post' t w) :
    Ensures handle rely allowed (fun outcome w' => post outcome w' ∧ post' outcome w') t w := by
  induction t generalizing w with
  | done outcome => exact fun w' hw' => ⟨h w' hw', h' w' hw'⟩
  | call op resume ih => exact fun w' hw' a ha => ih _ (h w' hw' a ha) (h' w' hw' a ha)

/-- What a task guarantees, and the others too, holds between any start and the end. -/
theorem Guarantees.ensures {keeps : W → W → Prop}
    (htrans : ∀ {w w' w''}, keeps w w' → keeps w' w'' → keeps w w'')
    (hrely : ∀ {w w'}, rely w w' → keeps w w') {t : Coroutine ε Op Res α}
    (h : Guarantees handle keeps t) {w₀ w : W} (hw : keeps w₀ w) :
    Ensures handle rely allowed (fun _ w' => keeps w₀ w') t w := by
  induction t generalizing w with
  | done outcome => exact fun w' hw' => htrans hw (hrely hw')
  | call op resume ih =>
    exact fun w' hw' a _ => ih _ (h.2 _) (htrans (htrans hw (hrely hw')) (h.1 a w'))

/-- A property of worlds that neither the task nor the others lose. -/
theorem Guarantees.ensures_kept {keeps : W → Prop} {t : Coroutine ε Op Res α}
    (h : Guarantees handle (fun w w' => keeps w → keeps w') t) {w : W} (hw : keeps w) :
    Ensures handle (fun w w' => keeps w → keeps w') allowed (fun _ w' => keeps w') t w := by
  induction t generalizing w with
  | done outcome => exact fun w' hw' => hw' hw
  | call op resume ih => exact fun w' hw' a _ => ih _ (h.2 _) (h.1 a w' (hw' hw))

variable (handle rely allowed)

/-- One run of the task among others: the world moves along `rely` while it is suspended. -/
inductive RunsAmong : Coroutine ε Op Res α → W → Except ε α → W → Prop
  | done {outcome : Except ε α} {w w' : W} : rely w w' → RunsAmong (.done outcome) w outcome w'
  | call (a : A) {op : Op} {resume : Except ε (Res op) → Coroutine ε Op Res α} {w w₁ w' : W}
      {outcome : Except ε α} : rely w w₁ → allowed a op w₁ →
      RunsAmong (resume (handle a op w₁).1) (handle a op w₁).2 outcome w' →
      RunsAmong (.call op resume) w outcome w'

variable {handle rely allowed}

theorem Ensures.runsAmong {t : Coroutine ε Op Res α} {w w' : W} {outcome : Except ε α}
    (h : Ensures handle rely allowed post t w)
    (hrun : RunsAmong handle rely allowed t w outcome w') : post outcome w' := by
  induction hrun with
  | done hw => exact h _ hw
  | call a hw ha _ ih => exact ih (h _ hw a ha)

/-- A run alone is one of them. -/
theorem runsAmong_of_execute (hrefl : ∀ w, rely w w) {as : List A}
    (hallowed : ∀ a ∈ as, ∀ op w, allowed a op w) {t : Coroutine ε Op Res α} {w w' : W}
    {outcome : Except ε α} (h : execute handle t as w = some (outcome, w')) :
    RunsAmong handle rely allowed t w outcome w' := by
  induction t generalizing as w with
  | done outcome₁ =>
    simp only [execute, Option.some.injEq, Prod.mk.injEq] at h
    obtain ⟨rfl, rfl⟩ := h
    exact .done (hrefl _)
  | call op resume ih =>
    cases as with
    | nil => exact absurd h (by simp [execute])
    | cons a as =>
      exact .call a (hrefl _) (hallowed a (List.mem_cons_self ..) _ _)
        (ih _ (fun a' ha' => hallowed a' (List.mem_cons_of_mem _ ha')) h)

theorem Guarantees.bind {t : Coroutine ε Op Res α} {f : α → Coroutine ε Op Res β}
    (ht : Guarantees handle rely t) (hf : ∀ a, Guarantees handle rely (f a)) :
    Guarantees handle rely (t >>= f) := by
  rw [bind_eq]
  induction t with
  | done outcome =>
    cases outcome with
    | ok a => exact hf a
    | error e => exact trivial
  | call op resume ih => exact ⟨ht.1, fun answer => ih answer (ht.2 answer)⟩

theorem Guarantees.tryCatch {t : Coroutine ε Op Res α} {handler : ε → Coroutine ε Op Res α}
    (ht : Guarantees handle rely t) (hh : ∀ e, Guarantees handle rely (handler e)) :
    Guarantees handle rely (tryCatch t handler) := by
  induction t with
  | done outcome =>
    cases outcome with
    | ok a => exact trivial
    | error e => exact hh e
  | call op resume ih => exact ⟨ht.1, fun answer => ih answer (ht.2 answer)⟩

theorem Guarantees.done {outcome : Except ε α} :
    Guarantees handle rely (done outcome : Coroutine ε Op Res α) :=
  trivial

theorem Guarantees.perform {op : Op} (h : ∀ a w, rely w (handle a op w).2) :
    Guarantees handle rely (perform op) :=
  ⟨h, fun _ => trivial⟩

/-- A call, and what follows it. -/
theorem Guarantees.call_bind {op : Op} {f : Res op → Coroutine ε Op Res α}
    (h : ∀ a w, rely w (handle a op w).2) (hf : ∀ v, Guarantees handle rely (f v)) :
    Guarantees handle rely (Coroutine.perform op >>= f) :=
  .bind (.perform h) hf

/-- A computation without calls, and what follows if it does not raise. -/
theorem Guarantees.lift_bind {x : Except ε β} {f : β → Coroutine ε Op Res α}
    (hf : ∀ v, x = .ok v → Guarantees handle rely (f v)) :
    Guarantees handle rely ((liftM x : Coroutine ε Op Res β) >>= f) := by
  cases x with
  | ok v => exact hf v rfl
  | error e => exact trivial

theorem Guarantees.advance (hrefl : ∀ w, rely w w) {t : Coroutine ε Op Res α}
    (h : Guarantees handle rely t) (a : A) (w : W) :
    Guarantees handle rely (advance handle a t w).1 ∧ rely w (advance handle a t w).2 := by
  cases t with
  | done outcome => exact ⟨trivial, hrefl w⟩
  | call op resume => exact ⟨h.2 _, h.1 a w⟩

/-- A task run alone moves the world along what it guarantees, from start to end. -/
theorem Runs.guaranteed (hrefl : ∀ w, rely w w)
    (htrans : ∀ {w w' w''}, rely w w' → rely w' w'' → rely w w'') {t : Coroutine ε Op Res α}
    {w w' : W} {outcome : Except ε α} (h : Runs handle t w outcome w')
    (hg : Guarantees handle rely t) : rely w w' := by
  induction h with
  | done outcome w => exact hrefl w
  | call a _ ih => exact htrans (hg.1 a _) (ih (hg.2 _))

/-! Tasks that write once, at their end. -/

variable (handle) in
/-- Every call of the task is quiet, or it is the last one and the task succeeds. -/
def WritesLast (quiet : W → W → Prop) : Coroutine ε Op Res α → Prop
  | .done _ => True
  | .call op resume => ∀ a w,
      (quiet w (handle a op w).2 ∨ ∃ v, resume (handle a op w).1 = .done (.ok v)) ∧
        WritesLast quiet (resume (handle a op w).1)

section WritingLast

variable {quiet : W → W → Prop}

/-- A task that is quiet throughout. -/
theorem WritesLast.of_guarantees {t : Coroutine ε Op Res α} (h : Guarantees handle quiet t) :
    WritesLast handle quiet t := by
  induction t with
  | done outcome => exact trivial
  | call op resume ih => exact fun a w => ⟨.inl (h.1 a w), ih _ (h.2 _)⟩

theorem WritesLast.bind {t : Coroutine ε Op Res α} {f : α → Coroutine ε Op Res β}
    (ht : Guarantees handle quiet t) (hf : ∀ a, WritesLast handle quiet (f a)) :
    WritesLast handle quiet (t >>= f) := by
  rw [bind_eq]
  induction t with
  | done outcome =>
    cases outcome with
    | ok a => exact hf a
    | error e => exact trivial
  | call op resume ih => exact fun a w => ⟨.inl (ht.1 a w), ih _ (ht.2 _)⟩

theorem WritesLast.call_bind {op : Op} {f : Res op → Coroutine ε Op Res α}
    (h : ∀ a w, match handle a op w with
      | (.ok v, w') => (quiet w w' ∨ ∃ u, f v = .done (.ok u)) ∧ WritesLast handle quiet (f v)
      | (.error _, w') => quiet w w') :
    WritesLast handle quiet (Coroutine.perform op >>= f) := by
  intro a w
  have hstep := h a w
  generalize handle a op w = answered at hstep ⊢
  obtain ⟨answer, w'⟩ := answered
  cases answer with
  | ok v => exact hstep
  | error e => exact ⟨.inl hstep, trivial⟩

theorem WritesLast.lift_bind {x : Except ε β} {f : β → Coroutine ε Op Res α}
    (hf : ∀ v, x = .ok v → WritesLast handle quiet (f v)) :
    WritesLast handle quiet ((liftM x : Coroutine ε Op Res β) >>= f) := by
  cases x with
  | ok v => exact hf v rfl
  | error e => exact trivial

end WritingLast

/-! Tasks whose moves depend on what they have seen. -/

variable (handle rely allowed)

/-- Among others that move the world along `rely`, the task moves it along `rely` itself, as long
    as its calls are answered as `allowed`, and it ends in `post`. -/
def Upholds (post : Except ε α → W → Prop) : Coroutine ε Op Res α → W → Prop
  | .done outcome, w => ∀ w', rely w w' → post outcome w'
  | .call op resume, w => ∀ w', rely w w' → ∀ a, allowed a op w' →
      rely w' (handle a op w').2 ∧ Upholds post (resume (handle a op w').1) (handle a op w').2

variable {handle rely allowed}

theorem Upholds.stable {t : Coroutine ε Op Res α} {w w' : W}
    (h : Upholds handle rely allowed post t w) (hw : rely w w')
    (htrans : ∀ {w w' w''}, rely w w' → rely w' w'' → rely w w'') :
    Upholds handle rely allowed post t w' := by
  cases t with
  | done outcome => exact fun w'' hw'' => h w'' (htrans hw hw'')
  | call op resume => exact fun w'' hw'' => h w'' (htrans hw hw'')

theorem Upholds.imp {t : Coroutine ε Op Res α} {w : W} {post' : Except ε α → W → Prop}
    (h : Upholds handle rely allowed post t w)
    (himp : ∀ outcome w', post outcome w' → post' outcome w') :
    Upholds handle rely allowed post' t w := by
  induction t generalizing w with
  | done outcome => exact fun w' hw' => himp outcome w' (h w' hw')
  | call op resume ih => exact fun w' hw' a ha => ⟨(h w' hw' a ha).1, ih _ (h w' hw' a ha).2⟩

/-- What no move along `rely` destroys is there at the end. -/
theorem Upholds.keep {t : Coroutine ε Op Res α} {w : W} {keeps : W → Prop}
    (h : Upholds handle rely allowed post t w) (hw : keeps w)
    (hkeeps : ∀ {w w'}, keeps w → rely w w' → keeps w') :
    Upholds handle rely allowed (fun outcome w' => post outcome w' ∧ keeps w') t w := by
  induction t generalizing w with
  | done outcome => exact fun w' hw' => ⟨h w' hw', hkeeps hw hw'⟩
  | call op resume ih =>
    intro w' hw' a ha
    obtain ⟨hmove, hrest⟩ := h w' hw' a ha
    exact ⟨hmove, ih _ hrest (hkeeps (hkeeps hw hw') hmove)⟩

/-- The rule of sequence. -/
theorem Upholds.bind (hrefl : ∀ w, rely w w) {post : Except ε β → W → Prop}
    {t : Coroutine ε Op Res α} {f : α → Coroutine ε Op Res β} {w : W}
    (h : Upholds handle rely allowed (fun outcome w' =>
      match outcome with
      | .ok a => Upholds handle rely allowed post (f a) w'
      | .error e => ∀ w'', rely w' w'' → post (.error e) w'') t w) :
    Upholds handle rely allowed post (t >>= f) w := by
  rw [bind_eq]
  induction t generalizing w with
  | done outcome =>
    cases outcome with
    | ok a => exact h w (hrefl w)
    | error e => exact h w (hrefl w)
  | call op resume ih =>
    intro w' hw' a ha
    obtain ⟨hmove, hrest⟩ := h w' hw' a ha
    exact ⟨hmove, ih _ hrest⟩

/-- The rule of `try … catch`. -/
theorem Upholds.tryCatch (hrefl : ∀ w, rely w w) {t : Coroutine ε Op Res α}
    {handler : ε → Coroutine ε Op Res α} {w : W}
    (h : Upholds handle rely allowed (fun outcome w' =>
      match outcome with
      | .ok a => ∀ w'', rely w' w'' → post (.ok a) w''
      | .error e => Upholds handle rely allowed post (handler e) w') t w) :
    Upholds handle rely allowed post (tryCatch t handler) w := by
  induction t generalizing w with
  | done outcome =>
    cases outcome with
    | ok a => exact h w (hrefl w)
    | error e => exact h w (hrefl w)
  | call op resume ih =>
    intro w' hw' a ha
    obtain ⟨hmove, hrest⟩ := h w' hw' a ha
    exact ⟨hmove, ih _ hrest⟩

/-- A call, and what follows it. -/
theorem Upholds.call_bind {op : Op} {f : Res op → Coroutine ε Op Res α} {w : W}
    (h : ∀ w', rely w w' → ∀ a, allowed a op w' → rely w' (handle a op w').2 ∧
      (∀ v, (handle a op w').1 = .ok v →
        Upholds handle rely allowed post (f v) (handle a op w').2) ∧
      ∀ e, (handle a op w').1 = .error e → ∀ w₂, rely (handle a op w').2 w₂ →
        post (.error e) w₂) :
    Upholds handle rely allowed post (Coroutine.perform op >>= f) w := by
  intro w' hw' a ha
  obtain ⟨hmove, hok, herror⟩ := h w' hw' a ha
  refine ⟨hmove, ?_⟩
  cases hanswer : (handle a op w').1 with
  | ok v => exact hok v hanswer
  | error e => exact herror e hanswer

/-- A computation without calls, and what follows it. -/
theorem Upholds.lift_bind {x : Except ε β} {f : β → Coroutine ε Op Res α} {w : W}
    (h : match x with
      | .ok v => Upholds handle rely allowed post (f v) w
      | .error e => ∀ w', rely w w' → post (.error e) w') :
    Upholds handle rely allowed post ((liftM x : Coroutine ε Op Res β) >>= f) w := by
  cases x with
  | ok v => exact h
  | error e => exact h

/-- A task whose calls are harmless wherever they are made. -/
theorem Guarantees.upholds {t : Coroutine ε Op Res α} (h : Guarantees handle rely t) (w : W) :
    Upholds handle rely allowed (fun _ _ => True) t w := by
  induction t generalizing w with
  | done outcome => exact fun _ _ => trivial
  | call op resume ih => exact fun w' _ a _ => ⟨h.1 a w', ih _ (h.2 _) _⟩

end Among

end Coroutine

/-! ## One main task and any number of others -/

/-- The tasks of one event loop and the world they share. -/
structure EventLoop (ε Op : Type) (Res : Op → Type) (W α β : Type) where
  main : Coroutine ε Op Res α
  others : List (Coroutine ε Op Res β)
  world : W

namespace EventLoop

variable {ε Op : Type} {Res : Op → Type} {W A α β : Type}

/-- What happens next: the main task goes on, another task does, or another task is started. -/
inductive Move (ε Op : Type) (Res : Op → Type) (A β : Type) where
  | main (a : A)
  | other (i : ℕ) (a : A)
  | start (t : Coroutine ε Op Res β)

section

variable (handle : A → (op : Op) → W → Except ε (Res op) × W)

def move (s : EventLoop ε Op Res W α β) : Move ε Op Res A β → EventLoop ε Op Res W α β
  | .main a =>
    { s with
      main := (s.main.advance handle a s.world).1
      world := (s.main.advance handle a s.world).2 }
  | .other i a =>
    match s.others[i]? with
    | none => s
    | some t =>
      { s with
        others := s.others.set i (t.advance handle a s.world).1
        world := (t.advance handle a s.world).2 }
  | .start t => { s with others := s.others ++ [t] }

def run (s : EventLoop ε Op Res W α β) (moves : List (Move ε Op Res A β)) :
    EventLoop ε Op Res W α β :=
  moves.foldl (move handle) s

section Admits

variable (allowed : A → Op → W → Prop) (startable : W → Coroutine ε Op Res β → Prop)

/-- The call the main task makes in this move is allowed in the world it meets; the task started
    is startable there. -/
def AdmitsMove (s : EventLoop ε Op Res W α β) : Move ε Op Res A β → Prop
  | .main a =>
    match s.main with
    | .done _ => True
    | .call op _ => allowed a op s.world
  | .other _ _ => True
  | .start t => startable s.world t

/-- So it is for every move of a run. -/
def Admits (s : EventLoop ε Op Res W α β) : List (Move ε Op Res A β) → Prop
  | [] => True
  | m :: ms => s.AdmitsMove allowed startable m ∧ Admits (s.move handle m) ms

variable [∀ a op w, Decidable (allowed a op w)] [∀ w t, Decidable (startable w t)]

instance (s : EventLoop ε Op Res W α β) :
    (m : Move ε Op Res A β) → Decidable (s.AdmitsMove allowed startable m)
  | .main a =>
    match h : s.main with
    | .done _ => isTrue (by simp [AdmitsMove, h])
    | .call op _ => decidable_of_iff (allowed a op s.world) (by simp [AdmitsMove, h])
  | .other _ _ => isTrue trivial
  | .start t => inferInstanceAs (Decidable (startable s.world t))

instance decidableAdmits (s : EventLoop ε Op Res W α β) :
    (ms : List (Move ε Op Res A β)) → Decidable (s.Admits handle allowed startable ms)
  | [] => isTrue trivial
  | m :: ms =>
    have : Decidable ((s.move handle m).Admits handle allowed startable ms) :=
      decidableAdmits _ ms
    inferInstanceAs (Decidable (_ ∧ _))

end Admits

variable {handle} in
theorem Admits.append {allowed : A → Op → W → Prop}
    {startable : W → Coroutine ε Op Res β → Prop} {s : EventLoop ε Op Res W α β}
    {ms ms' : List (Move ε Op Res A β)} (h : s.Admits handle allowed startable ms)
    (h' : (s.run handle ms).Admits handle allowed startable ms') :
    s.Admits handle allowed startable (ms ++ ms') := by
  induction ms generalizing s with
  | nil => exact h'
  | cons m ms ih => exact ⟨h.1, ih h.2 h'⟩

variable {handle} in
theorem Admits.imp {allowed : A → Op → W → Prop}
    {startable startable' : W → Coroutine ε Op Res β → Prop} {s : EventLoop ε Op Res W α β}
    {ms : List (Move ε Op Res A β)} (h : s.Admits handle allowed startable ms)
    (himp : ∀ w t, startable w t → startable' w t) : s.Admits handle allowed startable' ms := by
  induction ms generalizing s with
  | nil => exact trivial
  | cons m ms ih =>
    refine ⟨?_, ih h.2⟩
    cases m with
    | start t => exact himp _ _ h.1
    | main a => exact h.1
    | other i a => exact h.1

end

variable {handle : A → (op : Op) → W → Except ε (Res op) × W} {rely : W → W → Prop}
  {allowed : A → Op → W → Prop} {startable : W → Coroutine ε Op Res β → Prop}
  {post : Except ε α → W → Prop}

/-- What holds of all tasks holds of them after one has gone on, if it holds of that one. -/
theorem forall_mem_set {γ : Type} {p : γ → Prop} {tasks : List γ} (h : ∀ t ∈ tasks, p t) {t : γ}
    (ht : p t) (i : ℕ) : ∀ t' ∈ tasks.set i t, p t' := by
  intro t' ht'
  rcases List.mem_or_eq_of_mem_set ht' with ht' | rfl
  · exact h t' ht'
  · exact ht

/-- Or after another one has started. -/
theorem forall_mem_start {γ : Type} {p : γ → Prop} {tasks : List γ} (h : ∀ t ∈ tasks, p t) {t : γ}
    (ht : p t) : ∀ t' ∈ tasks ++ [t], p t' := by
  intro t' ht'
  rcases List.mem_append.mp ht' with ht' | ht'
  · exact h t' ht'
  · rw [List.mem_singleton.mp ht']
    exact ht

/-- **Rely and guarantee, put together.** If the main task ensures its postcondition under
    interference along `rely`, and whatever is started beside it moves the world along `rely`
    only, then however the calls interleave the main task ends in its postcondition. -/
theorem ensures_run (hrefl : ∀ w, rely w w)
    (htrans : ∀ {w w' w''}, rely w w' → rely w' w'' → rely w w'')
    (hstart : ∀ {w t}, startable w t → t.Guarantees handle rely)
    {s : EventLoop ε Op Res W α β} {moves : List (Move ε Op Res A β)}
    (hmain : s.main.Ensures handle rely allowed post s.world)
    (hothers : ∀ t ∈ s.others, t.Guarantees handle rely)
    (hadmits : s.Admits handle allowed startable moves) {outcome : Except ε α}
    (hdone : (s.run handle moves).main = .done outcome) :
    post outcome (s.run handle moves).world := by
  induction moves generalizing s with
  | nil =>
    have hdone' : s.main = .done outcome := hdone
    rw [hdone'] at hmain
    exact hmain s.world (hrefl _)
  | cons m ms ih =>
    obtain ⟨hm, hms⟩ := hadmits
    refine ih (s := s.move handle m) ?_ ?_ hms hdone
    · cases m with
      | main a =>
        cases hs : s.main with
        | done outcome' =>
          rw [hs] at hmain
          simpa [move, Coroutine.advance, hs] using hmain
        | call op resume =>
          rw [hs] at hmain
          have hallowed : allowed a op s.world := by simpa [AdmitsMove, hs] using hm
          have := hmain s.world (hrefl _) a hallowed
          simpa [move, Coroutine.advance, hs] using this
      | other i a =>
        cases hi : s.others[i]? with
        | none => simpa [move, hi] using hmain
        | some t =>
          have hg := (hothers t (List.mem_of_getElem? hi)).advance hrefl a s.world
          have hstable := hmain.stable hg.2 htrans
          simpa [move, hi] using hstable
      | start t => simpa [move] using hmain
    · cases m with
      | main a => exact hothers
      | other i a =>
        cases hi : s.others[i]? with
        | none => simpa [move, hi] using hothers
        | some t =>
          have hg := (hothers t (List.mem_of_getElem? hi)).advance hrefl a s.world
          simp only [move, hi]
          exact forall_mem_set hothers hg.1 i
      | start t => exact forall_mem_start hothers (hstart hm)

/-! ## A loop of tasks that uphold one relation -/

section Upholding

variable (handle allowed startable)

/-- Whoever makes the call of this move, it is allowed in the world it meets. -/
def AllowsMove (s : EventLoop ε Op Res W α β) : Move ε Op Res A β → Prop
  | .main a =>
    match s.main with
    | .done _ => True
    | .call op _ => allowed a op s.world
  | .other i a =>
    match s.others[i]? with
    | some (.call op _) => allowed a op s.world
    | _ => True
  | .start t => startable s.world t

/-- So it is for every move of a run. -/
def Allows (s : EventLoop ε Op Res W α β) : List (Move ε Op Res A β) → Prop
  | [] => True
  | m :: ms => s.AllowsMove allowed startable m ∧ Allows (s.move handle m) ms

section Deciding

variable [∀ a op w, Decidable (allowed a op w)] [∀ w t, Decidable (startable w t)]

instance (s : EventLoop ε Op Res W α β) :
    (m : Move ε Op Res A β) → Decidable (s.AllowsMove allowed startable m)
  | .main a =>
    match h : s.main with
    | .done _ => isTrue (by simp [AllowsMove, h])
    | .call op _ => decidable_of_iff (allowed a op s.world) (by simp [AllowsMove, h])
  | .other i a =>
    match h : s.others[i]? with
    | none => isTrue (by simp [AllowsMove, h])
    | some (.done _) => isTrue (by simp [AllowsMove, h])
    | some (.call op _) => decidable_of_iff (allowed a op s.world) (by simp [AllowsMove, h])
  | .start t => inferInstanceAs (Decidable (startable s.world t))

instance decidableAllows (s : EventLoop ε Op Res W α β) :
    (ms : List (Move ε Op Res A β)) → Decidable (s.Allows handle allowed startable ms)
  | [] => isTrue trivial
  | m :: ms =>
    have : Decidable ((s.move handle m).Allows handle allowed startable ms) :=
      decidableAllows _ ms
    inferInstanceAs (Decidable (_ ∧ _))

end Deciding

variable {handle allowed startable} {postOther : Except ε β → W → Prop}

theorem Allows.append {s : EventLoop ε Op Res W α β} {ms ms' : List (Move ε Op Res A β)}
    (h : s.Allows handle allowed startable ms)
    (h' : (s.run handle ms).Allows handle allowed startable ms') :
    s.Allows handle allowed startable (ms ++ ms') := by
  induction ms generalizing s with
  | nil => exact h'
  | cons m ms ih => exact ⟨h.1, ih h.2 h'⟩

theorem AllowsMove.imp {allowed' : A → Op → W → Prop}
    {startable' : W → Coroutine ε Op Res β → Prop} {s : EventLoop ε Op Res W α β}
    {m : Move ε Op Res A β} (h : s.AllowsMove allowed startable m)
    (hallowed : ∀ a op, allowed a op s.world → allowed' a op s.world)
    (hstartable : ∀ t, startable s.world t → startable' s.world t) :
    s.AllowsMove allowed' startable' m := by
  cases m with
  | start t => exact hstartable t h
  | main a =>
    cases hs : s.main with
    | done outcome => simp [AllowsMove, hs]
    | call op resume =>
      simp only [AllowsMove, hs] at h ⊢
      exact hallowed a op h
  | other i a =>
    cases hi : s.others[i]? with
    | none => simp [AllowsMove, hi]
    | some t =>
      cases t with
      | done outcome => simp [AllowsMove, hi]
      | call op resume =>
        simp only [AllowsMove, hi] at h ⊢
        exact hallowed a op h

theorem Allows.imp {allowed' : A → Op → W → Prop}
    {startable' : W → Coroutine ε Op Res β → Prop} {s : EventLoop ε Op Res W α β}
    {ms : List (Move ε Op Res A β)} (h : s.Allows handle allowed startable ms)
    (hallowed : ∀ a op w, allowed a op w → allowed' a op w)
    (hstartable : ∀ w t, startable w t → startable' w t) :
    s.Allows handle allowed' startable' ms := by
  induction ms generalizing s with
  | nil => exact trivial
  | cons m ms ih =>
    exact ⟨AllowsMove.imp h.1 (fun a op => hallowed a op _) (hstartable _), ih h.2⟩

theorem Allows.admits {s : EventLoop ε Op Res W α β} {ms : List (Move ε Op Res A β)}
    (h : s.Allows handle allowed startable ms) : s.Admits handle allowed startable ms := by
  induction ms generalizing s with
  | nil => exact trivial
  | cons m ms ih =>
    refine ⟨?_, ih h.2⟩
    cases m with
    | start t => exact h.1
    | main a => exact h.1
    | other i a => exact trivial

/-- Where every answer is allowed, only the starts are in question. -/
theorem allows_of_starts {s : EventLoop ε Op Res W α β} {ms : List (Move ε Op Res A β)}
    (h : ∀ t, .start t ∈ ms → ∀ w, startable w t) :
    s.Allows handle (fun _ _ _ => True) startable ms := by
  induction ms generalizing s with
  | nil => exact trivial
  | cons m ms ih =>
    refine ⟨?_, ih fun t ht => h t (List.mem_cons_of_mem _ ht)⟩
    cases m with
    | main a =>
      dsimp only [AllowsMove]
      split <;> exact trivial
    | other i a =>
      dsimp only [AllowsMove]
      split <;> exact trivial
    | start t => exact h t (List.mem_cons_self ..) _

theorem allows_append {s : EventLoop ε Op Res W α β} {ms ms' : List (Move ε Op Res A β)} :
    s.Allows handle allowed startable (ms ++ ms') ↔
      s.Allows handle allowed startable ms ∧
        (s.run handle ms).Allows handle allowed startable ms' := by
  induction ms generalizing s with
  | nil => simp [Allows, run]
  | cons m ms ih => exact (and_congr_right fun _ => ih).trans (and_assoc).symm

/-- The loop's tasks move the world along `rely`, whatever they are answered. -/
structure Guaranteed (handle : A → (op : Op) → W → Except ε (Res op) × W) (rely : W → W → Prop)
    (s : EventLoop ε Op Res W α β) : Prop where
  main : s.main.Guarantees handle rely
  others : ∀ t ∈ s.others, t.Guarantees handle rely

theorem guaranteed_move (hrefl : ∀ w, rely w w)
    (hstart : ∀ w t, startable w t → t.Guarantees handle rely) {s : EventLoop ε Op Res W α β}
    {m : Move ε Op Res A β} (h : s.Guaranteed handle rely) (hm : s.AllowsMove allowed startable m) :
    rely s.world (s.move handle m).world ∧ (s.move handle m).Guaranteed handle rely := by
  cases m with
  | main a =>
    obtain ⟨hmain, hstep⟩ := h.main.advance hrefl a s.world
    exact ⟨hstep, hmain, h.others⟩
  | other i a =>
    cases hi : s.others[i]? with
    | none =>
      simp only [move, hi]
      exact ⟨hrefl _, h⟩
    | some t =>
      obtain ⟨ht, hstep⟩ := (h.others t (List.mem_of_getElem? hi)).advance hrefl a s.world
      simp only [move, hi]
      exact ⟨hstep, h.main, forall_mem_set h.others ht i⟩
  | start t => exact ⟨hrefl _, h.main, forall_mem_start h.others (hstart s.world t hm)⟩

theorem guaranteed_run (hrefl : ∀ w, rely w w)
    (hstart : ∀ w t, startable w t → t.Guarantees handle rely) {s : EventLoop ε Op Res W α β}
    {ms : List (Move ε Op Res A β)} (h : s.Guaranteed handle rely)
    (hallows : s.Allows handle allowed startable ms) :
    (s.run handle ms).Guaranteed handle rely := by
  induction ms generalizing s with
  | nil => exact h
  | cons m ms ih => exact ih (guaranteed_move hrefl hstart h hallows.1).2 hallows.2

/-- What holds of the world from some moment on, in a loop whose tasks keep it, is known at every
    later call. -/
theorem Allows.of_kept {keeps : W → Prop} {allowed' : A → Op → W → Prop}
    (hstart : ∀ w t, startable w t → t.Guarantees handle fun w w' => keeps w → keeps w')
    (himp : ∀ a op w, keeps w → allowed a op w → allowed' a op w) {s : EventLoop ε Op Res W α β}
    {ms : List (Move ε Op Res A β)} (h : s.Guaranteed handle fun w w' => keeps w → keeps w')
    (hkeeps : keeps s.world) (hallows : s.Allows handle allowed startable ms) :
    s.Allows handle allowed' startable ms := by
  induction ms generalizing s with
  | nil => exact trivial
  | cons m ms ih =>
    obtain ⟨hstep, hnext⟩ := guaranteed_move (fun _ hw => hw) hstart h hallows.1
    exact ⟨AllowsMove.imp hallows.1 (fun a op => himp a op _ hkeeps) fun _ ht => ht,
      ih hnext (hstep hkeeps) hallows.2⟩

/-- The tasks of the loop, each where it stands. -/
structure Upheld (handle : A → (op : Op) → W → Except ε (Res op) × W) (rely : W → W → Prop)
    (allowed : A → Op → W → Prop) (post : Except ε α → W → Prop)
    (postOther : Except ε β → W → Prop) (s : EventLoop ε Op Res W α β) : Prop where
  main : s.main.Upholds handle rely allowed post s.world
  others : ∀ t ∈ s.others, t.Upholds handle rely allowed postOther s.world

theorem upheld_move (hrefl : ∀ w, rely w w)
    (htrans : ∀ {w w' w''}, rely w w' → rely w' w'' → rely w w'')
    {s : EventLoop ε Op Res W α β} {m : Move ε Op Res A β}
    (hstart : ∀ t, startable s.world t → t.Upholds handle rely allowed postOther s.world)
    (h : s.Upheld handle rely allowed post postOther) (hm : s.AllowsMove allowed startable m) :
    rely s.world (s.move handle m).world ∧
      (s.move handle m).Upheld handle rely allowed post postOther := by
  cases m with
  | main a =>
    cases hs : s.main with
    | done outcome =>
      have hmove : s.move handle (.main a) = s := by
        cases s
        simp only at hs
        simp [move, Coroutine.advance, hs]
      rw [hmove]
      exact ⟨hrefl _, h⟩
    | call op resume =>
      have hallowed : allowed a op s.world := by simpa [AllowsMove, hs] using hm
      have hmain := h.main
      rw [hs] at hmain
      obtain ⟨hstep, hrest⟩ := hmain s.world (hrefl _) a hallowed
      simp only [move, hs, Coroutine.advance]
      exact ⟨hstep, hrest, fun t ht => (h.others t ht).stable hstep htrans⟩
  | other i a =>
    cases hi : s.others[i]? with
    | none =>
      simp only [move, hi]
      exact ⟨hrefl _, h⟩
    | some t =>
      have ht := h.others t (List.mem_of_getElem? hi)
      cases t with
      | done outcome =>
        simp only [move, hi, Coroutine.advance]
        exact ⟨hrefl _, h.main, forall_mem_set h.others ht i⟩
      | call op resume =>
        have hallowed : allowed a op s.world := by simpa [AllowsMove, hi] using hm
        obtain ⟨hstep, hrest⟩ := ht s.world (hrefl _) a hallowed
        simp only [move, hi, Coroutine.advance]
        have hothers := fun t' ht' => (h.others t' ht').stable hstep htrans
        exact ⟨hstep, h.main.stable hstep htrans, forall_mem_set hothers hrest i⟩
  | start t => exact ⟨hrefl _, h.main, forall_mem_start h.others (hstart t hm)⟩

/-- **A loop of tasks that uphold `rely` moves along `rely`**, however their calls interleave, and
    its main task ends in its postcondition. -/
theorem upholds_run (hrefl : ∀ w, rely w w)
    (htrans : ∀ {w w' w''}, rely w w' → rely w' w'' → rely w w'') {w₀ : W}
    (hstart : ∀ w t, rely w₀ w → startable w t → t.Upholds handle rely allowed postOther w)
    {s : EventLoop ε Op Res W α β} {moves : List (Move ε Op Res A β)} (hw : rely w₀ s.world)
    (h : s.Upheld handle rely allowed post postOther)
    (hallows : s.Allows handle allowed startable moves) :
    rely s.world (s.run handle moves).world ∧
      ∀ outcome, (s.run handle moves).main = .done outcome →
        post outcome (s.run handle moves).world := by
  induction moves generalizing s with
  | nil =>
    refine ⟨hrefl _, fun outcome hdone => ?_⟩
    have hmain := h.main
    have hdone' : s.main = .done outcome := hdone
    rw [hdone'] at hmain
    exact hmain s.world (hrefl _)
  | cons m ms ih =>
    obtain ⟨hm, hms⟩ := hallows
    obtain ⟨hstep, hnext⟩ := upheld_move hrefl htrans (fun t ht => hstart s.world t hw ht) h hm
    obtain ⟨hrun, hpost⟩ := ih (htrans hw hstep) hnext hms
    exact ⟨htrans hstep hrun, hpost⟩

end Upholding

/-! ## What the main task itself has done -/

section OwnMoves

variable (handle) in
/-- The main task's own moves in this run were quiet. -/
def MainQuiet (quiet : W → W → Prop) (s : EventLoop ε Op Res W α β) :
    List (Move ε Op Res A β) → Prop
  | [] => True
  | m :: ms => (∀ a, m = .main a → quiet s.world (s.move handle m).world) ∧
      MainQuiet quiet (s.move handle m) ms

theorem run_done {s : EventLoop ε Op Res W α β} {outcome : Except ε α}
    (h : s.main = .done outcome) (moves : List (Move ε Op Res A β)) :
    (s.run handle moves).main = .done outcome := by
  induction moves generalizing s with
  | nil => exact h
  | cons m ms ih =>
    refine ih (s := s.move handle m) ?_
    cases m with
    | main a => simp [move, Coroutine.advance, h]
    | other i a =>
      cases hi : s.others[i]? with
      | none => simpa [move, hi] using h
      | some t => simpa [move, hi] using h
    | start t => exact h

/-- **A task that writes last has written nothing if it has raised.** -/
theorem mainQuiet_of_raised {quiet : W → W → Prop} (hrefl : ∀ w, quiet w w)
    {s : EventLoop ε Op Res W α β} {moves : List (Move ε Op Res A β)}
    (h : s.main.WritesLast handle quiet) {e : ε}
    (hraised : (s.run handle moves).main = .done (.error e)) : s.MainQuiet handle quiet moves := by
  induction moves generalizing s with
  | nil => exact trivial
  | cons m ms ih =>
    cases m with
    | main a =>
      cases hs : s.main with
      | done outcome =>
        have hmain : (s.move handle (.main a)).main = .done outcome := by
          simp [move, Coroutine.advance, hs]
        refine ⟨fun a' _ => ?_, ih (by rw [hmain]; exact trivial) hraised⟩
        simp only [move, hs, Coroutine.advance]
        exact hrefl _
      | call op resume =>
        rw [hs] at h
        obtain ⟨hstep, hrest⟩ := h a s.world
        have hmain : (s.move handle (.main a)).main = resume (handle a op s.world).1 := by
          simp [move, Coroutine.advance, hs]
        have hworld : (s.move handle (.main a)).world = (handle a op s.world).2 := by
          simp [move, Coroutine.advance, hs]
        refine ⟨fun a' _ => ?_, ih (by rw [hmain]; exact hrest) hraised⟩
        rw [hworld]
        rcases hstep with hquiet | ⟨v, hlast⟩
        · exact hquiet
        · -- The task would have succeeded.
          have hok : ((s.move handle (.main a)).run handle ms).main = .done (.ok v) :=
            run_done (hmain.trans hlast) ms
          exact absurd (hok.symm.trans hraised) (by simp)
    | other i a =>
      refine ⟨fun a' ha' => absurd ha' (by simp), ih ?_ hraised⟩
      cases hi : s.others[i]? with
      | none => simpa [move, hi] using h
      | some t => simpa [move, hi] using h
    | start t => exact ⟨fun a' ha' => absurd ha' (by simp), ih h hraised⟩

end OwnMoves

end EventLoop
