import CreditHedge.Lib.Calls

/-!
# Gates

Some calls of a task are *acts* that a gate guards, and some are *checks* that look at the gate. A
task that looks once and then awaits other things before it acts is *committed* in between: the
gate may close meanwhile, and the act will still come.

That window is all there is to go wrong. `Gated` is the tasks whose every look at a closed gate
leaves them uncommitted; in a loop of such tasks no act is made while the gate is closed, provided
that it closes at moments when no task is committed (`EventLoop.quiet_while_closed`).
-/

set_option autoImplicit false

namespace Coroutine

variable {ε Op : Type} {Res : Op → Type} {α β W A : Type}

/-! ## Committed tasks -/

section Gate

variable (acts checks : Op → Prop)

/-- Some answers take the task to an act without another look at the gate. -/
inductive Committed : Coroutine ε Op Res α → Prop
  | act {op : Op} {resume : Except ε (Res op) → Coroutine ε Op Res α} :
      acts op → Committed (.call op resume)
  | onward {op : Op} {resume : Except ε (Res op) → Coroutine ε Op Res α}
      (answer : Except ε (Res op)) :
      ¬ checks op → Committed (resume answer) → Committed (.call op resume)

variable (handle : A → (op : Op) → W → Except ε (Res op) × W) (closed : W → Prop)

/-- A look at the gate that finds it closed, or closes it, leaves the task uncommitted. -/
def Gated : Coroutine ε Op Res α → Prop
  | .done _ => True
  | .call op resume =>
      (checks op → ∀ a w, closed (handle a op w).2 →
        ¬ Committed acts checks (resume (handle a op w).1)) ∧
      ∀ answer, Gated (resume answer)

variable {acts checks handle closed}

theorem not_committed_done {outcome : Except ε α} :
    ¬ Committed acts checks (done outcome : Coroutine ε Op Res α) := by
  intro h
  cases h

/-- A task that is about to look at the gate is not committed, if looking is no act. -/
theorem not_committed_of_checks {op : Op} {resume : Except ε (Res op) → Coroutine ε Op Res α}
    (hchecks : checks op) (hacts : ¬ acts op) :
    ¬ Committed acts checks (.call op resume : Coroutine ε Op Res α) := by
  intro h
  cases h with
  | act h => exact hacts h
  | onward answer h _ => exact h hchecks

/-- What a task that is not committed does next is no act, and commits it only if it is a look
    at the gate. -/
theorem not_committed_call {op : Op} {resume : Except ε (Res op) → Coroutine ε Op Res α}
    (h : ¬ Committed acts checks (.call op resume : Coroutine ε Op Res α)) :
    ¬ acts op ∧ (¬ checks op → ∀ answer, ¬ Committed acts checks (resume answer)) :=
  ⟨fun hact => h (.act hact), fun hop answer hcommitted => h (.onward answer hop hcommitted)⟩

/-- A task that never acts. -/
theorem Calls.not_committed {t : Coroutine ε Op Res α} (h : Calls (fun op => ¬ acts op) t) :
    ¬ Committed acts checks t := by
  induction t with
  | done outcome => exact not_committed_done
  | call op resume ih =>
    intro hcommitted
    cases hcommitted with
    | act hact => exact h.1 hact
    | onward answer _ hrest => exact ih answer (h.2 answer) hrest

theorem Gated.of_never {t : Coroutine ε Op Res α} (h : Calls (fun op => ¬ acts op) t) :
    Gated acts checks handle closed t := by
  induction t with
  | done outcome => exact trivial
  | call op resume ih =>
    exact ⟨fun _ _ _ _ => (h.2 _).not_committed, fun answer => ih answer (h.2 answer)⟩

/-- A task that does not look at the gate. -/
theorem Gated.of_unchecked {t : Coroutine ε Op Res α} (h : Calls (fun op => ¬ checks op) t) :
    Gated acts checks handle closed t := by
  induction t with
  | done outcome => exact trivial
  | call op resume ih =>
    exact ⟨fun hchecks => absurd hchecks h.1, fun answer => ih answer (h.2 answer)⟩

theorem Committed.of_bind {t : Coroutine ε Op Res α} {f : α → Coroutine ε Op Res β}
    (h : Committed acts checks (t >>= f)) :
    Committed acts checks t ∨ ∃ a, Committed acts checks (f a) := by
  rw [bind_eq] at h
  induction t with
  | done outcome =>
    cases outcome with
    | ok a => exact .inr ⟨a, h⟩
    | error e => exact absurd h not_committed_done
  | call op resume ih =>
    cases h with
    | act hact => exact .inl (.act hact)
    | onward answer hop hrest =>
      rcases ih answer hrest with hrest | hrest
      · exact .inl (.onward answer hop hrest)
      · exact .inr hrest

/-- What follows a gated task may look at the gate only before it comes to an act. -/
theorem Gated.bind {t : Coroutine ε Op Res α} {f : α → Coroutine ε Op Res β}
    (ht : Gated acts checks handle closed t) (hf : ∀ a, Gated acts checks handle closed (f a))
    (hnot : ∀ a, ¬ Committed acts checks (f a)) : Gated acts checks handle closed (t >>= f) := by
  rw [bind_eq]
  induction t with
  | done outcome =>
    cases outcome with
    | ok a => exact hf a
    | error e => exact trivial
  | call op resume ih =>
    refine ⟨fun hchecks a w hclosed hcommitted => ?_, fun answer => ih answer (ht.2 answer)⟩
    rcases hcommitted.of_bind with hrest | ⟨b, hrest⟩
    · exact ht.1 hchecks a w hclosed hrest
    · exact hnot b hrest

/-- A task that does not look at the gate, and what follows it. -/
theorem Gated.bind_of_calls {t : Coroutine ε Op Res α} {f : α → Coroutine ε Op Res β}
    (ht : Calls (fun op => ¬ checks op) t) (hf : ∀ a, Gated acts checks handle closed (f a)) :
    Gated acts checks handle closed (t >>= f) := by
  rw [bind_eq]
  induction t with
  | done outcome =>
    cases outcome with
    | ok a => exact hf a
    | error e => exact trivial
  | call op resume ih =>
    exact ⟨fun hchecks => absurd hchecks ht.1, fun answer => ih answer (ht.2 answer)⟩

end Gate

end Coroutine

/-! ## Gated tasks in a loop -/

namespace EventLoop

variable {ε Op : Type} {Res : Op → Type} {W A α β : Type}

section

variable (acts checks : Op → Prop) (handle : A → (op : Op) → W → Except ε (Res op) × W)
  (closed : W → Prop)

/-- No task of the loop is committed. -/
def Uncommitted (s : EventLoop ε Op Res W α β) : Prop :=
  ¬ s.main.Committed acts checks ∧ ∀ t ∈ s.others, ¬ t.Committed acts checks

/-- Whenever a move of the run closes the gate, no task is committed. -/
def ClosesUncommitted (s : EventLoop ε Op Res W α β) : List (Move ε Op Res A β) → Prop
  | [] => True
  | m :: ms =>
    (¬ closed s.world → closed (s.move handle m).world → s.Uncommitted acts checks) ∧
      ClosesUncommitted (s.move handle m) ms

variable {acts checks handle closed} in
/-- While only a main task goes on that never acts, nobody becomes committed. -/
theorem closesUncommitted_of_mains {s : EventLoop ε Op Res W α β} (as : List A)
    (m : Move ε Op Res A β) (hmain : s.main.Calls fun op => ¬ acts op)
    (hothers : ∀ t ∈ s.others, ¬ t.Committed acts checks) :
    s.ClosesUncommitted acts checks handle closed (as.map .main ++ [m]) := by
  induction as generalizing s with
  | nil => exact ⟨fun _ _ => ⟨hmain.not_committed, hothers⟩, trivial⟩
  | cons a as ih =>
    refine ⟨fun _ _ => ⟨hmain.not_committed, hothers⟩, ih ?_ hothers⟩
    simp only [move]
    cases hs : s.main with
    | done outcome => exact trivial
    | call op resume =>
      rw [hs] at hmain
      exact hmain.2 _

/-- The loop's tasks are gated, and none is committed behind a closed gate. -/
structure GatedLoop (s : EventLoop ε Op Res W α β) : Prop where
  main : s.main.Gated acts checks handle closed
  others : ∀ t ∈ s.others, t.Gated acts checks handle closed
  uncommitted : closed s.world → s.Uncommitted acts checks

end

variable {acts checks : Op → Prop} {handle : A → (op : Op) → W → Except ε (Res op) × W}
  {closed : W → Prop} {startable : W → Coroutine ε Op Res β → Prop}

/-- One task of a gated loop makes one call. -/
theorem gated_advance
    (hframe : ∀ a op w, ¬ checks op → (closed (handle a op w).2 ↔ closed w)) {γ : Type}
    {t : Coroutine ε Op Res γ} (ht : t.Gated acts checks handle closed) {w : W} {a : A}
    (huncommitted : closed w → ¬ t.Committed acts checks) :
    (t.advance handle a w).1.Gated acts checks handle closed ∧
      (closed (t.advance handle a w).2 →
        ¬ (t.advance handle a w).1.Committed acts checks) := by
  cases t with
  | done outcome => exact ⟨trivial, fun _ => Coroutine.not_committed_done⟩
  | call op resume =>
    refine ⟨ht.2 _, fun hclosed => ?_⟩
    by_cases hop : checks op
    · exact ht.1 hop a w hclosed
    · have hw : closed w := (hframe a op w hop).mp hclosed
      exact (Coroutine.not_committed_call (huncommitted hw)).2 hop _

theorem gatedLoop_move
    (hframe : ∀ a op w, ¬ checks op → (closed (handle a op w).2 ↔ closed w))
    (hstart : ∀ w t, startable w t →
      t.Gated acts checks handle closed ∧ ¬ t.Committed acts checks)
    {s : EventLoop ε Op Res W α β} {m : Move ε Op Res A β}
    (h : s.GatedLoop acts checks handle closed)
    (hm : s.AllowsMove (fun _ _ _ => True) startable m)
    (hcloses : ¬ closed s.world → closed (s.move handle m).world → s.Uncommitted acts checks) :
    (s.move handle m).GatedLoop acts checks handle closed := by
  -- Behind a gate that is closed after the move, nobody was committed before it.
  have hclear : closed (s.move handle m).world → s.Uncommitted acts checks := fun hclosed => by
    by_cases hw : closed s.world
    · exact h.uncommitted hw
    · exact hcloses hw hclosed
  cases m with
  | main a =>
    obtain ⟨hgated, hnot⟩ :=
      gated_advance (a := a) hframe h.main fun hw => (h.uncommitted hw).1
    exact ⟨hgated, h.others, fun hclosed =>
      ⟨hnot hclosed, (hclear hclosed).2⟩⟩
  | other i a =>
    cases hi : s.others[i]? with
    | none => simpa only [move, hi] using h
    | some t =>
      have ht := List.mem_of_getElem? hi
      obtain ⟨hgated, hnot⟩ :=
        gated_advance (a := a) hframe (h.others t ht) fun hw => (h.uncommitted hw).2 t ht
      simp only [move, hi] at hclear ⊢
      exact ⟨h.main, forall_mem_set h.others hgated i, fun hclosed =>
        ⟨(hclear hclosed).1, forall_mem_set (hclear hclosed).2 (hnot hclosed) i⟩⟩
  | start t =>
    obtain ⟨hgated, hnot⟩ := hstart s.world t hm
    exact ⟨h.main, forall_mem_start h.others hgated, fun hclosed =>
      ⟨(hclear hclosed).1, forall_mem_start (hclear hclosed).2 hnot⟩⟩

/-- **Behind a closed gate nothing acts**, in a loop of gated tasks whose gate closes only at
    moments when none of them is committed. -/
theorem quiet_while_closed
    (hframe : ∀ a op w, ¬ checks op → (closed (handle a op w).2 ↔ closed w))
    (hstart : ∀ w t, startable w t →
      t.Gated acts checks handle closed ∧ ¬ t.Committed acts checks)
    {s : EventLoop ε Op Res W α β} {moves : List (Move ε Op Res A β)}
    (h : s.GatedLoop acts checks handle closed)
    (hallows : s.Allows handle (fun _ _ _ => True) startable moves)
    (hcloses : s.ClosesUncommitted acts checks handle closed moves) :
    s.Allows handle (fun _ op w => closed w → ¬ acts op) startable moves := by
  induction moves generalizing s with
  | nil => exact trivial
  | cons m ms ih =>
    refine ⟨?_, ih (gatedLoop_move hframe hstart h hallows.1 hcloses.1) hallows.2 hcloses.2⟩
    cases m with
    | start t => exact hallows.1
    | main a =>
      cases hs : s.main with
      | done outcome => simp [AllowsMove, hs]
      | call op resume =>
        simp only [AllowsMove, hs]
        intro hclosed
        have hnot := (h.uncommitted hclosed).1
        rw [hs] at hnot
        exact (Coroutine.not_committed_call hnot).1
    | other i a =>
      cases hi : s.others[i]? with
      | none => simp [AllowsMove, hi]
      | some t =>
        cases t with
        | done outcome => simp [AllowsMove, hi]
        | call op resume =>
          simp only [AllowsMove, hi]
          intro hclosed
          exact (Coroutine.not_committed_call
            ((h.uncommitted hclosed).2 _ (List.mem_of_getElem? hi))).1

end EventLoop
