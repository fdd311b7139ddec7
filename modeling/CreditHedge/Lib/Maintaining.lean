import CreditHedge.Lib.Coroutines

/-!
# An invariant kept by one task

A main task may do what its neighbours may not: they move the world along `rely`, and it writes
where nobody else does. What it knows at a call is then stable under `rely` alone, and its own
moves have to be accounted for separately. `Maintains` does so: at each of its calls the task finds
the invariant, and keeps it. The neighbours keep it because `rely` does, so it holds in every world
of the run (`EventLoop.maintains_run`), also in one where the main task was stopped half-way.
-/

set_option autoImplicit false

namespace Coroutine

variable {ε Op : Type} {Res : Op → Type} {α β W A : Type}
  (handle : A → (op : Op) → W → Except ε (Res op) × W) (keeps : W → Prop)
  (rely : W → W → Prop) (allowed : A → Op → W → Prop)

/-- Among others that move the world along `rely`, the task keeps `keeps` at each of its calls. -/
def Maintains : Coroutine ε Op Res α → W → Prop
  | .done _, _ => True
  | .call op resume, w => ∀ w', rely w w' → keeps w' → ∀ a, allowed a op w' →
      keeps (handle a op w').2 ∧ Maintains (resume (handle a op w').1) (handle a op w').2

variable {handle keeps rely allowed}

theorem Maintains.stable {t : Coroutine ε Op Res α} {w w' : W}
    (h : Maintains handle keeps rely allowed t w) (hw : rely w w')
    (htrans : ∀ {w w' w''}, rely w w' → rely w' w'' → rely w w'') :
    Maintains handle keeps rely allowed t w' := by
  cases t with
  | done outcome => exact trivial
  | call op resume => exact fun w'' hw'' => h w'' (htrans hw hw'')

/-- A call, and what follows it. -/
theorem Maintains.call_bind {op : Op} {f : Res op → Coroutine ε Op Res α} {w : W}
    (h : ∀ w', rely w w' → keeps w' → ∀ a, allowed a op w' → keeps (handle a op w').2 ∧
      ∀ v, (handle a op w').1 = .ok v →
        Maintains handle keeps rely allowed (f v) (handle a op w').2) :
    Maintains handle keeps rely allowed (perform op >>= f) w := by
  intro w' hw' hkeeps a ha
  obtain ⟨hnext, hok⟩ := h w' hw' hkeeps a ha
  refine ⟨hnext, ?_⟩
  cases hanswer : (handle a op w').1 with
  | ok v => exact hok v hanswer
  | error e => exact trivial

/-- A call that leaves the world alone, and what follows it. -/
theorem Maintains.read_bind {op : Op} {f : Res op → Coroutine ε Op Res α} {w : W}
    (hread : ∀ a w', (handle a op w').2 = w')
    (h : ∀ w', rely w w' → ∀ a v, (handle a op w').1 = .ok v →
      Maintains handle keeps rely allowed (f v) w') :
    Maintains handle keeps rely allowed (perform op >>= f) w := by
  refine .call_bind fun w' hw' hkeeps a _ => ?_
  rw [hread]
  exact ⟨hkeeps, h w' hw' a⟩

/-- A computation without calls, and what follows it. -/
theorem Maintains.lift_bind {x : Except ε β} {f : β → Coroutine ε Op Res α} {w : W}
    (h : ∀ v, x = .ok v → Maintains handle keeps rely allowed (f v) w) :
    Maintains handle keeps rely allowed ((liftM x : Coroutine ε Op Res β) >>= f) w := by
  cases x with
  | ok v => exact h v rfl
  | error e => exact trivial

end Coroutine

namespace EventLoop

open Coroutine

variable {ε Op : Type} {Res : Op → Type} {W A α β : Type}
  {handle : A → (op : Op) → W → Except ε (Res op) × W} {keeps : W → Prop} {rely : W → W → Prop}
  {allowed : A → Op → W → Prop} {startable : W → Coroutine ε Op Res β → Prop}

/-- Where a start does not depend on the world, the tasks started can be looked at one by one. -/
theorem admits_of_starts {p : Coroutine ε Op Res β → Prop} {s : EventLoop ε Op Res W α β}
    {ms : List (Move ε Op Res A β)} (h : s.Admits handle allowed (fun _ _ => True) ms)
    (hp : ∀ t, .start t ∈ ms → p t) : s.Admits handle allowed (fun _ => p) ms := by
  induction ms generalizing s with
  | nil => exact trivial
  | cons m ms ih =>
    refine ⟨?_, ih h.2 fun t ht => hp t (List.mem_cons_of_mem _ ht)⟩
    cases m with
    | start t => exact hp t (List.mem_cons_self ..)
    | main a => exact h.1
    | other i a => exact h.1

/-- **What the main task maintains holds throughout**, if what is started beside it moves the world
    along `rely` only and `rely` keeps it. -/
theorem maintains_run (hrefl : ∀ w, rely w w)
    (htrans : ∀ {w w' w''}, rely w w' → rely w' w'' → rely w w'')
    (hrely : ∀ {w w'}, rely w w' → keeps w → keeps w')
    (hstart : ∀ {w t}, startable w t → t.Guarantees handle rely)
    {s : EventLoop ε Op Res W α β} {moves : List (Move ε Op Res A β)} (hkeeps : keeps s.world)
    (hmain : s.main.Maintains handle keeps rely allowed s.world)
    (hothers : ∀ t ∈ s.others, t.Guarantees handle rely)
    (hadmits : s.Admits handle allowed startable moves) : keeps (s.run handle moves).world := by
  induction moves generalizing s with
  | nil => exact hkeeps
  | cons m ms ih =>
    obtain ⟨hm, hms⟩ := hadmits
    cases m with
    | main a =>
      cases hs : s.main with
      | done outcome =>
        have hmove : s.move handle (.main a) = s := by
          cases s
          simp only at hs
          simp [move, Coroutine.advance, hs]
        refine ih (s := s.move handle (.main a)) ?_ ?_ ?_ hms
        · rwa [hmove]
        · rwa [hmove]
        · rwa [hmove]
      | call op resume =>
        have hallowed : allowed a op s.world := by simpa [AdmitsMove, hs] using hm
        rw [hs] at hmain
        obtain ⟨hnext, hrest⟩ := hmain s.world (hrefl _) hkeeps a hallowed
        refine ih (s := s.move handle (.main a)) ?_ ?_ hothers hms
        · simpa [move, hs, Coroutine.advance] using hnext
        · simpa [move, hs, Coroutine.advance] using hrest
    | other i a =>
      cases hi : s.others[i]? with
      | none =>
        have hmove : s.move handle (.other i a) = s := by simp [move, hi]
        refine ih (s := s.move handle (.other i a)) ?_ ?_ ?_ hms
        · rwa [hmove]
        · rwa [hmove]
        · rwa [hmove]
      | some t =>
        obtain ⟨ht, hstep⟩ := (hothers t (List.mem_of_getElem? hi)).advance hrefl a s.world
        refine ih (s := s.move handle (.other i a)) ?_ ?_ ?_ hms
        · simpa [move, hi] using hrely hstep hkeeps
        · simpa [move, hi] using hmain.stable hstep htrans
        · simp only [move, hi]
          exact forall_mem_set hothers ht i
    | start t =>
      exact ih (s := s.move handle (.start t)) hkeeps hmain
        (forall_mem_start hothers (hstart hm)) hms

end EventLoop
