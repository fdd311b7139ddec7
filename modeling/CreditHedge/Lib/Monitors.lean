import CreditHedge.Lib.Calls

/-!
# Monitored tasks

A *monitor* follows a task from outside. It sees every call and what it is answered, keeps a state
of its own, and says which calls are allowed in it. A task `Heeds` a monitor if, whatever it is
answered, it makes no call that is not allowed, and ends as the monitor wants it to. Nothing is
assumed of the answers, so the world the task runs in may be any, and so may its neighbours.

What a task does in the end is then said by the monitor: of every history of the task, every call in
it was allowed when it was made (`Heeds.comes`), and what allowed calls keep is kept (`Heeds.keeps`).
-/

set_option autoImplicit false

namespace Coroutine

structure Monitor (ε Op : Type) (Res : Op → Type) (σ : Type) where
  allows : σ → Op → Prop
  next : σ → (op : Op) → Except ε (Res op) → σ

variable {ε Op : Type} {Res : Op → Type} {α β σ : Type}

/-- Where the monitor is after these calls and answers. -/
def Monitor.after (m : Monitor ε Op Res σ) (s : σ) (history : List (Answered ε Op Res)) : σ :=
  history.foldl (fun s answered => m.next s answered.op answered.answer) s

/-- The task keeps to the monitor from here on. -/
def Heeds (m : Monitor ε Op Res σ) (post : Except ε α → σ → Prop) : Coroutine ε Op Res α → σ → Prop
  | .done outcome, s => post outcome s
  | .call op resume, s => m.allows s op ∧ ∀ answer, Heeds m post (resume answer) (m.next s op answer)

variable {m : Monitor ε Op Res σ} {post : Except ε α → σ → Prop} {t t' : Coroutine ε Op Res α}
  {s : σ}

theorem heeds_done {outcome : Except ε α} : Heeds m post (.done outcome) s ↔ post outcome s :=
  Iff.rfl

/-! ## Histories -/

/-- Wherever the task comes to, it keeps to the monitor from there. -/
theorem Heeds.comes {history : List (Answered ε Op Res)} (h : Heeds m post t s)
    (hcomes : Comes t history t') : Heeds m post t' (m.after s history) := by
  induction hcomes generalizing s with
  | here => exact h
  | call answer _ ih => exact ih (h.2 answer)

/-- What no allowed call destroys holds after every history. -/
theorem Heeds.keeps {keeps : σ → Prop} {history : List (Answered ε Op Res)}
    (hnext : ∀ s op answer, m.allows s op → keeps s → keeps (m.next s op answer))
    (h : Heeds m post t s) (hs : keeps s) (hcomes : Comes t history t') :
    keeps (m.after s history) := by
  induction hcomes generalizing s with
  | here => exact hs
  | call answer _ ih => exact ih (h.2 answer) (hnext _ _ answer h.1 hs)

/-! ## Rules -/

theorem Heeds.imp {post' : Except ε α → σ → Prop} (h : Heeds m post t s)
    (himp : ∀ outcome s', post outcome s' → post' outcome s') : Heeds m post' t s := by
  induction t generalizing s with
  | done outcome => exact himp outcome s h
  | call op resume ih => exact ⟨h.1, fun answer => ih answer (h.2 answer)⟩

/-- The rule of sequence. -/
theorem Heeds.bind {post : Except ε β → σ → Prop} {f : α → Coroutine ε Op Res β}
    (h : Heeds m (fun outcome s' =>
      match outcome with
      | .ok a => Heeds m post (f a) s'
      | .error e => post (.error e) s') t s) : Heeds m post (t >>= f) s := by
  rw [bind_eq]
  induction t generalizing s with
  | done outcome =>
    cases outcome with
    | ok a => exact h
    | error e => exact h
  | call op resume ih => exact ⟨h.1, fun answer => ih answer (h.2 answer)⟩

/-- The rule of `try … catch`. -/
theorem Heeds.tryCatch {handler : ε → Coroutine ε Op Res α}
    (h : Heeds m (fun outcome s' =>
      match outcome with
      | .ok a => post (.ok a) s'
      | .error e => Heeds m post (handler e) s') t s) :
    Heeds m post (tryCatch t handler) s := by
  induction t generalizing s with
  | done outcome =>
    cases outcome with
    | ok a => exact h
    | error e => exact h
  | call op resume ih => exact ⟨h.1, fun answer => ih answer (h.2 answer)⟩

/-- A call, and what follows it. -/
theorem Heeds.call_bind {op : Op} {f : Res op → Coroutine ε Op Res α} (hallows : m.allows s op)
    (hok : ∀ v, Heeds m post (f v) (m.next s op (.ok v)))
    (herror : ∀ e, post (.error e) (m.next s op (.error e))) :
    Heeds m post (Coroutine.perform op >>= f) s := by
  refine ⟨hallows, fun answer => ?_⟩
  cases answer with
  | ok v => exact hok v
  | error e => exact herror e

/-- A computation without calls, and what follows it. -/
theorem Heeds.lift_bind {x : Except ε β} {f : β → Coroutine ε Op Res α}
    (hok : ∀ v, x = .ok v → Heeds m post (f v) s) (herror : ∀ e, post (.error e) s) :
    Heeds m post ((liftM x : Coroutine ε Op Res β) >>= f) s := by
  cases x with
  | ok v => exact hok v rfl
  | error e => exact herror e

end Coroutine
