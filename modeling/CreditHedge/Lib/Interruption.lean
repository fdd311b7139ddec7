import CreditHedge.Lib.Calls

/-!
# Tasks that are interrupted

A process may die between any two calls of a task. What it has done by then stays done, and the
next process starts from there. `Stops` is a task that got as far as it got, and `Session` one task
after the other, each of them started where the one before has stopped.

So an invariant that is restored only at the end of a task is of no use. `Secures` asks for it after
every call: wherever the task is stopped the invariant holds, and where it ends the postcondition
does. The rules are those of a logic with crash conditions; the crash condition is the same
throughout, which is why it may be assumed at every call as well. Two invariants can be secured one
on top of the other (`Secures.layer`), and `session_secured` takes what each task secures to any
session.
-/

set_option autoImplicit false

namespace Coroutine

variable {ε Op : Type} {Res : Op → Type} {α β W A : Type}
  (handle : A → (op : Op) → W → Except ε (Res op) × W) (allowed : A → Op → W → Prop)

/-- The task, started in one world, is stopped in the other. -/
inductive Stops : Coroutine ε Op Res α → W → W → Prop
  | here (t : Coroutine ε Op Res α) (w : W) : Stops t w w
  | call (a : A) {op : Op} {resume : Except ε (Res op) → Coroutine ε Op Res α} {w w' : W} :
      allowed a op w → Stops (resume (handle a op w).1) (handle a op w).2 w' →
      Stops (.call op resume) w w'

/-- Any number of tasks, each started where the one before has stopped. -/
inductive Session (startable : W → Coroutine ε Op Res α → Prop) : W → W → Prop
  | none (w : W) : Session startable w w
  | next {w w' w'' : W} {t : Coroutine ε Op Res α} : Session startable w w' → startable w' t →
      Stops handle allowed t w' w'' → Session startable w w''

/-- Wherever the task is stopped `inv` holds, and where it ends `post` does. -/
def Secures (inv : W → Prop) (post : Except ε α → W → Prop) : Coroutine ε Op Res α → W → Prop
  | .done outcome, w => inv w → post outcome w
  | .call op resume, w => inv w → ∀ a, allowed a op w →
      inv (handle a op w).2 ∧ Secures inv post (resume (handle a op w).1) (handle a op w).2

variable {handle allowed} {inv : W → Prop} {post : Except ε α → W → Prop} {w : W}

/-! ## The rules -/

/-- The invariant may be assumed where the task starts. -/
theorem Secures.assuming {t : Coroutine ε Op Res α}
    (h : inv w → Secures handle allowed inv post t w) : Secures handle allowed inv post t w := by
  cases t with
  | done outcome => exact fun hinv => h hinv hinv
  | call op resume => exact fun hinv => h hinv hinv

theorem Secures.imp {post' : Except ε α → W → Prop} {t : Coroutine ε Op Res α}
    (h : Secures handle allowed inv post t w)
    (himp : ∀ outcome w', inv w' → post outcome w' → post' outcome w') :
    Secures handle allowed inv post' t w := by
  induction t generalizing w with
  | done outcome => exact fun hinv => himp outcome w hinv (h hinv)
  | call op resume ih =>
    intro hinv a ha
    obtain ⟨hnext, hrest⟩ := h hinv a ha
    exact ⟨hnext, ih _ hrest⟩

/-- The rule of sequence. -/
theorem Secures.bind {post : Except ε β → W → Prop} {t : Coroutine ε Op Res α}
    {f : α → Coroutine ε Op Res β}
    (h : Secures handle allowed inv (fun outcome w' =>
      match outcome with
      | .ok a => Secures handle allowed inv post (f a) w'
      | .error e => post (.error e) w') t w) :
    Secures handle allowed inv post (t >>= f) w := by
  rw [bind_eq]
  induction t generalizing w with
  | done outcome =>
    cases outcome with
    | ok a => exact .assuming h
    | error e => exact h
  | call op resume ih =>
    intro hinv a ha
    obtain ⟨hnext, hrest⟩ := h hinv a ha
    exact ⟨hnext, ih _ hrest⟩

/-- The rule of `try … catch`. -/
theorem Secures.tryCatch {t : Coroutine ε Op Res α} {handler : ε → Coroutine ε Op Res α}
    (h : Secures handle allowed inv (fun outcome w' =>
      match outcome with
      | .ok a => post (.ok a) w'
      | .error e => Secures handle allowed inv post (handler e) w') t w) :
    Secures handle allowed inv post (tryCatch t handler) w := by
  induction t generalizing w with
  | done outcome =>
    cases outcome with
    | ok a => exact h
    | error e => exact .assuming h
  | call op resume ih =>
    intro hinv a ha
    obtain ⟨hnext, hrest⟩ := h hinv a ha
    exact ⟨hnext, ih _ hrest⟩

/-- A call, and what follows it. -/
theorem Secures.call_bind {op : Op} {f : Res op → Coroutine ε Op Res α}
    (h : inv w → ∀ a, allowed a op w → inv (handle a op w).2 ∧
      (∀ v, (handle a op w).1 = .ok v →
        Secures handle allowed inv post (f v) (handle a op w).2) ∧
      ∀ e, (handle a op w).1 = .error e → post (.error e) (handle a op w).2) :
    Secures handle allowed inv post (perform op >>= f) w := by
  intro hinv a ha
  obtain ⟨hnext, hok, herror⟩ := h hinv a ha
  refine ⟨hnext, ?_⟩
  cases hanswer : (handle a op w).1 with
  | ok v => exact hok v hanswer
  | error e => exact fun _ => herror e hanswer

/-- A call that comes last. -/
theorem Secures.perform {op : Op} {post : Except ε (Res op) → W → Prop}
    (h : inv w → ∀ a, allowed a op w →
      inv (handle a op w).2 ∧ post (handle a op w).1 (handle a op w).2) :
    Secures handle allowed inv post (perform op) w := by
  intro hinv a ha
  obtain ⟨hnext, hpost⟩ := h hinv a ha
  exact ⟨hnext, fun _ => hpost⟩

/-- A computation without calls, and what follows it. -/
theorem Secures.lift_bind {x : Except ε β} {f : β → Coroutine ε Op Res α}
    (hok : ∀ v, x = .ok v → Secures handle allowed inv post (f v) w)
    (herror : ∀ e, x = .error e → post (.error e) w) :
    Secures handle allowed inv post ((liftM x : Coroutine ε Op Res β) >>= f) w := by
  cases x with
  | ok v => exact hok v rfl
  | error e => exact fun _ => herror e rfl

/-- What has been secured may be relied on in securing more. -/
theorem Secures.layer {inv' : W → Prop} {post' : Except ε α → W → Prop}
    {t : Coroutine ε Op Res α} (h : Secures handle allowed inv post t w)
    (h' : Secures handle
      (fun a op w => allowed a op w ∧ inv w ∧ inv (handle a op w).2) inv' post' t w) :
    Secures handle allowed (fun w => inv w ∧ inv' w)
      (fun outcome w => post outcome w ∧ post' outcome w) t w := by
  induction t generalizing w with
  | done outcome => exact fun ⟨hinv, hinv'⟩ => ⟨h hinv, h' hinv'⟩
  | call op resume ih =>
    rintro ⟨hinv, hinv'⟩ a ha
    obtain ⟨hnext, hrest⟩ := h hinv a ha
    obtain ⟨hnext', hrest'⟩ := h' hinv' a ⟨ha, hinv, hnext⟩
    exact ⟨⟨hnext, hnext'⟩, ih _ hrest hrest'⟩

/-- What no allowed call can undo. -/
theorem Secures.keep {keeps : W → Prop} {t : Coroutine ε Op Res α}
    (h : Secures handle allowed inv post t w) (hkeeps : keeps w)
    (hstep : ∀ {a op w}, allowed a op w → keeps w → keeps (handle a op w).2) :
    Secures handle allowed inv (fun outcome w' => post outcome w' ∧ keeps w') t w := by
  induction t generalizing w with
  | done outcome => exact fun hinv => ⟨h hinv, hkeeps⟩
  | call op resume ih =>
    intro hinv a ha
    obtain ⟨hnext, hrest⟩ := h hinv a ha
    exact ⟨hnext, ih _ hrest (hstep ha hkeeps)⟩

/-- What is secured in a part of the world is secured in the whole, if the answers and that part
    depend on it alone. -/
theorem Secures.within {W' : Type} {handle' : A → (op : Op) → W' → Except ε (Res op) × W'}
    {allowed' : A → Op → W' → Prop} {part : W' → W} {t : Coroutine ε Op Res α} {w' : W'}
    (h : Secures handle allowed inv post t (part w'))
    (hallowed : ∀ {a op w'}, allowed' a op w' → allowed a op (part w'))
    (hanswer : ∀ a op w', (handle' a op w').1 = (handle a op (part w')).1)
    (hpart : ∀ a op w', part (handle' a op w').2 = (handle a op (part w')).2) :
    Secures handle' allowed' (fun w' => inv (part w')) (fun outcome w' => post outcome (part w')) t
      w' := by
  induction t generalizing w' with
  | done outcome => exact h
  | call op resume ih =>
    intro hinv a ha
    obtain ⟨hnext, hrest⟩ := h hinv a (hallowed ha)
    rw [← hpart] at hnext hrest
    rw [← hanswer] at hrest
    exact ⟨hnext, ih _ hrest⟩

/-! ## Sessions -/

theorem Secures.stops {t : Coroutine ε Op Res α} {w' : W}
    (h : Secures handle allowed inv post t w) (hinv : inv w)
    (hstops : Stops handle allowed t w w') : inv w' := by
  induction hstops with
  | here t w => exact hinv
  | call a ha _ ih =>
    obtain ⟨hnext, hrest⟩ := h hinv a ha
    exact ih hrest hnext

/-- **What every task secures holds after any session.** -/
theorem session_secured {startable : W → Coroutine ε Op Res α → Prop}
    (hstart : ∀ {w t}, startable w t → inv w → Secures handle allowed inv post t w) {w' : W}
    (hinv : inv w) (h : Session handle allowed startable w w') : inv w' := by
  induction h with
  | none => exact hinv
  | next _ hstartable hstops ih => exact (hstart hstartable ih).stops ih hstops

/-! ## Sessions that are given -/

variable (handle allowed) in
/-- Each of these answers is allowed where it is given. -/
def AllowedAlong : List A → Coroutine ε Op Res α → W → Prop
  | [], _, _ => True
  | _ :: _, .done _, _ => True
  | a :: as, .call op resume, w =>
      allowed a op w ∧ AllowedAlong as (resume (handle a op w).1) (handle a op w).2

instance decidableAllowedAlong [∀ a op w, Decidable (allowed a op w)] (as : List A)
    (t : Coroutine ε Op Res α) (w : W) : Decidable (AllowedAlong handle allowed as t w) :=
  match as, t with
  | [], _ => isTrue trivial
  | _ :: _, .done _ => isTrue trivial
  | a :: as, .call op resume =>
    have := decidableAllowedAlong as (resume (handle a op w).1) (handle a op w).2
    inferInstanceAs (Decidable (_ ∧ _))

theorem stops_advances {as : List A} {t : Coroutine ε Op Res α}
    (h : AllowedAlong handle allowed as t w) :
    Stops handle allowed t w (advances handle as t w).2 := by
  induction as generalizing t w with
  | nil => exact .here t w
  | cons a as ih =>
    cases t with
    | done outcome =>
      have hrest : AllowedAlong handle allowed as (done outcome : Coroutine ε Op Res α) w := by
        cases as <;> exact trivial
      exact ih hrest
    | call op resume => exact .call a h.1 (ih h.2)

end Coroutine
