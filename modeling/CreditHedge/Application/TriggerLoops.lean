import CreditHedge.Application.LevelSubmissions

/-!
# Loops of `on_trigger`

A `Session` moves by stretches; the event loop moves by calls, and a submission makes several of
them before it returns. `Tells` relates the two: the attributes are the same, and each task stands
where its call stands. A move of the loop is then a move of the session, or none
(`tells_move`), so whatever is run beside the calls, as long as it keeps off the coordinator's
attributes, the loop goes through the states of a session (`exists_session`) and the laws of
sessions are laws of the loop (`lawful_loop`).
-/

set_option autoImplicit false

namespace CreditHedge

namespace Session

variable {c : MultiLevelCoordinator} {s : Session}

variable {α : Type}

/-- The loop that the calls of a coordinator run in, beside a main task of any kind. -/
abbrev TriggerLoop (α : Type) :=
  EventLoop Failure ProcessCall ProcessCall.Result Process α MultiLevelTriggerResult

/-- The tasks of a loop stand where the calls of a session stand. -/
structure Tells (c : MultiLevelCoordinator) (s : Session) (loop : TriggerLoop α) : Prop where
  memory : loop.world.memory = s.memory
  calls : ∀ i : ℕ, Option.Rel (fun call task => c.Follows call.toTrigger call.progress task)
    s.calls[i]? loop.others[i]?

variable {loop : TriggerLoop α}

theorem Tells.length_eq (h : s.Tells c loop) : s.calls.length = loop.others.length := by
  have hiff : ∀ i, i < s.calls.length ↔ i < loop.others.length := by
    intro i
    have hrel := h.calls i
    cases hi : s.calls[i]? with
    | none =>
      cases hi' : loop.others[i]? with
      | none =>
        have hlength := List.getElem?_eq_none_iff.mp hi
        have hlength' := List.getElem?_eq_none_iff.mp hi'
        omega
      | some task =>
        rw [hi, hi'] at hrel
        cases hrel
    | some call =>
      cases hi' : loop.others[i]? with
      | none =>
        rw [hi, hi'] at hrel
        cases hrel
      | some task =>
        simp [(List.getElem?_eq_some_iff.mp hi).1, (List.getElem?_eq_some_iff.mp hi').1]
  have hcalls := hiff s.calls.length
  have hothers := hiff loop.others.length
  omega

/-- One of the tasks, and its call, have gone on. -/
theorem Tells.update (h : s.Tells c loop) {s' : Session} {loop' : TriggerLoop α} (i : ℕ)
    {call : TriggerCall} {task : Task MultiLevelTriggerResult}
    (hmemory : loop'.world.memory = s'.memory) (hi : s'.calls[i]? = some call)
    (hi' : loop'.others[i]? = some task) (hfollows : c.Follows call.toTrigger call.progress task)
    (hcalls : ∀ j, j ≠ i → s'.calls[j]? = s.calls[j]?)
    (hothers : ∀ j, j ≠ i → loop'.others[j]? = loop.others[j]?) : s'.Tells c loop' := by
  refine ⟨hmemory, fun j => ?_⟩
  by_cases hji : j = i
  · subst hji
    rw [hi, hi']
    exact .some hfollows
  · rw [hcalls j hji, hothers j hji]
    exact h.calls j

/-- A call that has run a stretch, and its task that was answered. -/
theorem Tells.enter (h : s.Tells c loop) {i : ℕ} {call : TriggerCall}
    {task : Task MultiLevelTriggerResult} {stretch : Stretch} (hi : s.calls[i]? = some call)
    (hi' : loop.others[i]? = some task) {a : ProcessAnswers}
    (hmemory : (task.advance Process.handle a loop.world).2.memory = stretch.memory)
    (hfollows : c.Follows call.toTrigger stretch.progress
      (task.advance Process.handle a loop.world).1) :
    (s.enter i call stretch).Tells c (loop.move Process.handle (.other i a)) := by
  have hlt : i < s.calls.length := (List.getElem?_eq_some_iff.mp hi).1
  have hlt' : i < loop.others.length := (List.getElem?_eq_some_iff.mp hi').1
  simp only [EventLoop.move, hi']
  have hnext : (s.enter i call stretch).calls[i]? = some { call with
      progress := stretch.progress, looks := call.looks ++ stretch.looks } :=
    List.getElem?_set_self hlt
  refine h.update i hmemory hnext (List.getElem?_set_self hlt') hfollows ?_ ?_
  · exact fun j hji => List.getElem?_set_ne (Ne.symm hji)
  · exact fun j hji => List.getElem?_set_ne (Ne.symm hji)

theorem tells_other (h : s.Tells c loop) (i : ℕ) (a : ProcessAnswers) :
    ∃ moves, (s.run c moves).Tells c (loop.move Process.handle (.other i a)) := by
  cases hi' : loop.others[i]? with
  | none =>
    refine ⟨[], ?_⟩
    simp only [EventLoop.move, hi']
    exact h
  | some task =>
    have hlt' : i < loop.others.length := (List.getElem?_eq_some_iff.mp hi').1
    have hrel := h.calls i
    rw [hi'] at hrel
    cases hi : s.calls[i]? with
    | none =>
      rw [hi] at hrel
      cases hrel
    | some call =>
      rw [hi] at hrel
      have hfollows : c.Follows call.toTrigger call.progress task := by
        cases hrel with
        | some hfollows => exact hfollows
      -- A task that stays where it is.
      have hstay : (task.advance Process.handle a loop.world).2.memory = loop.world.memory →
          c.Follows call.toTrigger call.progress (task.advance Process.handle a loop.world).1 →
          (s.run c []).Tells c (loop.move Process.handle (.other i a)) := by
        intro hmemory hfollows'
        simp only [EventLoop.move, hi']
        exact h.update i (hmemory.trans h.memory) hi (List.getElem?_set_self hlt') hfollows'
          (fun j _ => rfl) fun j hji => List.getElem?_set_ne (Ne.symm hji)
      cases hprogress : call.progress with
      | called =>
        rw [hprogress] at hfollows
        cases hfollows with
        | called =>
          obtain ⟨hmemory, hnext⟩ := c.follows_first call.toTrigger a loop.world
          rw [h.memory] at hmemory hnext
          refine ⟨[.goOn i], ?_⟩
          have hgo : s.run c [.goOn i] = s.enter i call (c.first call.toTrigger s.memory) := by
            simp [run, move, goOn, hi, hprogress]
          rw [hgo]
          exact h.enter hi hi' hmemory hnext
      | submitting level request rest riskState =>
        rw [hprogress] at hfollows
        rcases hfollows.advance a loop.world with ⟨hmemory, hnext | hnext⟩ | ⟨hmemory, hnext⟩
        · exact ⟨[], hstay hmemory (hprogress ▸ hnext)⟩
        · refine ⟨[.raise i], ?_⟩
          have hraise : s.run c [.raise i] =
              s.enter i call { memory := s.memory, looks := [], progress := .over } := by
            simp [run, move, raise, enter, hi, hprogress]
          rw [hraise]
          exact h.enter hi hi' (hmemory.trans h.memory) hnext
        · rw [h.memory] at hmemory hnext
          refine ⟨[.goOn i], ?_⟩
          have hgo : s.run c [.goOn i] = s.enter i call (c.sweep rest riskState s.memory) := by
            simp [run, move, goOn, hi, hprogress]
          rw [hgo]
          exact h.enter hi hi' hmemory hnext
      | «over» =>
        rw [hprogress] at hfollows
        cases hfollows with
        | «over» outcome => exact ⟨[], hstay rfl (hprogress ▸ .over outcome)⟩

/-- What may run beside the calls: it keeps off the coordinator's attributes. -/
def KeepsOff (p p' : Process) : Prop := p'.memory.multiLevel = p.memory.multiLevel

theorem KeepsOff.refl (p : Process) : KeepsOff p p := rfl

theorem tells_move (h : s.Tells c loop) (hmain : loop.main.Guarantees Process.handle KeepsOff)
    {m : EventLoop.Move Failure ProcessCall ProcessCall.Result ProcessAnswers
      MultiLevelTriggerResult}
    (hstart : ∀ task, m = .start task →
      ∃ t : Trigger, task = c.onTrigger t.event t.marketHealth t.riskState) :
    ∃ moves, (s.run c moves).Tells c (loop.move Process.handle m) := by
  cases m with
  | main a =>
    obtain ⟨-, hkept⟩ := hmain.advance KeepsOff.refl a loop.world
    generalize hworld : (loop.main.advance Process.handle a loop.world).2 = p at hkept
    refine ⟨[.outside p.memory.killSwitch p.memory.oneLevel], ?_, h.calls⟩
    simp only [EventLoop.move, hworld]
    have hlevels : s.memory.multiLevel = p.memory.multiLevel := by
      rw [← h.memory]
      exact hkept.symm
    simp [run, move, hlevels]
  | other i a => exact tells_other h i a
  | start task =>
    obtain ⟨t, rfl⟩ := hstart task rfl
    refine ⟨[.call t], h.memory, fun i => ?_⟩
    change Option.Rel _ (s.calls ++ [{ toTrigger := t }])[i]?
      (loop.others ++ [c.onTrigger t.event t.marketHealth t.riskState])[i]?
    rw [List.getElem?_append, List.getElem?_append, h.length_eq]
    split
    · exact h.calls i
    · cases i - loop.others.length with
      | zero => exact .some .called
      | succ n => exact .none

/-- **A loop of calls goes through the states of a session.** -/
theorem exists_session (h : s.Tells c loop)
    (hmain : loop.main.Guarantees Process.handle KeepsOff)
    {moves : List (EventLoop.Move Failure ProcessCall ProcessCall.Result ProcessAnswers
      MultiLevelTriggerResult)}
    (hstart : ∀ task, .start task ∈ moves →
      ∃ t : Trigger, task = c.onTrigger t.event t.marketHealth t.riskState) :
    ∃ moves', (s.run c moves').Tells c (loop.run Process.handle moves) := by
  induction moves generalizing s loop with
  | nil => exact ⟨[], h⟩
  | cons m ms ih =>
    obtain ⟨moves₁, h₁⟩ := tells_move h hmain (m := m)
      fun task ht => hstart task (ht ▸ List.mem_cons_self ..)
    have hmain' : (loop.move Process.handle m).main.Guarantees Process.handle KeepsOff := by
      cases m with
      | main a => exact (hmain.advance KeepsOff.refl a loop.world).1
      | other i a =>
        cases hi : loop.others[i]? with
        | none => simpa only [EventLoop.move, hi] using hmain
        | some task => simpa only [EventLoop.move, hi] using hmain
      | start task => exact hmain
    obtain ⟨moves₂, h₂⟩ := ih h₁ hmain' fun task ht => hstart task (List.mem_cons_of_mem _ ht)
    exact ⟨moves₁ ++ moves₂, by rwa [run, List.foldl_append]⟩

/-- So the laws hold of whatever a loop does that starts with a new coordinator and no calls. -/
theorem lawful_loop {main : Task α} (hmain : main.Guarantees Process.handle KeepsOff)
    {p : Process} (hnew : p.memory.multiLevel = {})
    {moves : List (EventLoop.Move Failure ProcessCall ProcessCall.Result ProcessAnswers
      MultiLevelTriggerResult)}
    (hstart : ∀ task, .start task ∈ moves →
      ∃ t : Trigger, task = c.onTrigger t.event t.marketHealth t.riskState) :
    ∃ s : Session, s.Tells c
        (EventLoop.run Process.handle { main, others := [], world := p } moves) ∧ s.Lawful c := by
  have htells : (start p.memory.killSwitch p.memory.oneLevel).Tells c
      ({ main, others := [], world := p } : TriggerLoop α) := by
    refine ⟨?_, fun i => ?_⟩
    · rw [start, ← hnew]
    · exact .none
  obtain ⟨moves', h⟩ := exists_session htells hmain hstart
  exact ⟨_, h, level_submissions c _ _ moves'⟩

end Session

end CreditHedge
