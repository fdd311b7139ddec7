import Mathlib.Order.Basic

/-!
# Draining a state of its next events

The common shape of an event loop: as long as the state has a *next* event, execute it. `next`
picks the event (or says there is none), `exec` executes it, and

    Drains next exec s trace t

says the loop started in `s` stops in `t`, `trace` pairing each executed event with the state it
left behind. The loop is deterministic when `exec` is; what this file is about is how such loops
*compose*.

* `Drains.invariant`: what each execution preserves, the loop preserves;
* `Drains.split`: a loop whose next event is, whenever it exists, also the next event of a second
  loop is a first stage of that second loop;
* `Drains.simulate`: two loops in lockstep stay related.
-/

set_option autoImplicit false

variable {σ τ ε : Type*}

/-- The loop `while next s = some e do execute e`, as a relation between the state it starts
    in, the events it executes (each with the state it leaves) and the state it stops in. -/
inductive Drains (next : σ → Option ε) (exec : σ → ε → σ → Prop) :
    σ → List (ε × σ) → σ → Prop
  | done {s : σ} (h : next s = none) : Drains next exec s [] s
  | step {s t u : σ} {e : ε} {trace : List (ε × σ)} (hn : next s = some e)
      (he : exec s e t) (rest : Drains next exec t trace u) :
      Drains next exec s ((e, t) :: trace) u

/-- The executions of a trace that starts in `s`, each event with the state it was executed in. -/
def traceSteps (s : σ) (trace : List (ε × σ)) : List (σ × ε) :=
  (s :: trace.map Prod.snd).zip (trace.map Prod.fst)

theorem traceSteps_cons (s t : σ) (e : ε) (trace : List (ε × σ)) :
    traceSteps s ((e, t) :: trace) = (s, e) :: traceSteps t trace := rfl

namespace Drains

variable {next : σ → Option ε} {exec : σ → ε → σ → Prop} {s t : σ} {trace : List (ε × σ)}

/-- The state a loop stops in has no next event. -/
theorem next_final (h : Drains next exec s trace t) : next t = none := by
  induction h with
  | done hn => exact hn
  | step _ _ _ ih => exact ih

/-- The loop stops in the state its last execution left. -/
theorem getLast?_eq (h : Drains next exec s trace t) {p : ε × σ}
    (hp : trace.getLast? = some p) : p.2 = t := by
  induction h with
  | done => exact absurd hp (by simp)
  | @step s t u e trace _ _ rest ih =>
    rw [List.getLast?_cons] at hp
    cases hlast : trace.getLast? with
    | none =>
      rw [List.getLast?_eq_none_iff.mp hlast] at rest hp
      cases rest
      exact (Option.some.inj hp) ▸ rfl
    | some p' =>
      rw [hlast, Option.getD_some] at hp
      obtain rfl := Option.some.inj hp
      exact ih hlast

theorem deterministic (hfun : ∀ s e t t', exec s e t → exec s e t' → t = t') {t' : σ}
    {trace' : List (ε × σ)} (h : Drains next exec s trace t)
    (h' : Drains next exec s trace' t') : trace = trace' ∧ t = t' := by
  induction h generalizing trace' t' with
  | done hn =>
    cases h' with
    | done => exact ⟨rfl, rfl⟩
    | step hn' => rw [hn] at hn'; exact absurd hn' (by simp)
  | step hn he _ ih =>
    cases h' with
    | done hn' => rw [hn] at hn'; exact absurd hn' (by simp)
    | step hn' he' rest' =>
      rw [hn] at hn'
      obtain rfl := Option.some.inj hn'
      obtain rfl := hfun _ _ _ _ he he'
      obtain ⟨rfl, rfl⟩ := ih rest'
      exact ⟨rfl, rfl⟩

/-- **The invariant rule.** What every execution of a next event preserves holds of every state
    the loop passes through. -/
theorem invariant {I : σ → Prop}
    (hstep : ∀ s e t, I s → next s = some e → exec s e t → I t)
    (h : Drains next exec s trace t) (hs : I s) : I t ∧ ∀ p ∈ trace, I p.2 := by
  induction h with
  | done => exact ⟨hs, fun _ hp => absurd hp (by simp)⟩
  | step hn he _ ih =>
    have ht := hstep _ _ _ hs hn he
    obtain ⟨hfin, htr⟩ := ih ht
    refine ⟨hfin, fun p hp => ?_⟩
    rcases List.mem_cons.mp hp with rfl | hp
    · exact ht
    · exact htr p hp

/-- An invariant may be read into the executions: under it, the loop is a loop of any stronger
    execution relation it entitles to. -/
theorem strengthen {E : σ → ε → σ → Prop} {I : σ → Prop}
    (hstep : ∀ s e t, I s → next s = some e → exec s e t → E s e t ∧ I t)
    (h : Drains next exec s trace t) (hs : I s) : Drains next E s trace t := by
  induction h with
  | done hn => exact .done hn
  | step hn he _ ih =>
    obtain ⟨he', ht⟩ := hstep _ _ _ hs hn he
    exact .step hn he' (ih ht)

/-- The invariant rule for a loop whose executions are known to meet a condition `P` on the state
    before and the event, with what each execution establishes of the state it leaves. -/
theorem invariant_of_steps {I : σ → Prop} {P : σ → ε → Prop} {Q : ε → σ → Prop}
    (hstep : ∀ s e t, I s → P s e → next s = some e → exec s e t → I t ∧ Q e t)
    (h : Drains next exec s trace t) (hP : ∀ p ∈ traceSteps s trace, P p.1 p.2) (hs : I s) :
    I t ∧ ∀ p ∈ trace, I p.2 ∧ Q p.1 p.2 := by
  induction h with
  | done => exact ⟨hs, fun _ hp => absurd hp (by simp)⟩
  | step hn he _ ih =>
    rw [traceSteps_cons] at hP
    obtain ⟨ht, hq⟩ := hstep _ _ _ hs (hP _ (List.mem_cons_self ..)) hn he
    obtain ⟨hfin, htr⟩ := ih (fun p hp => hP p (List.mem_cons_of_mem _ hp)) ht
    refine ⟨hfin, fun p hp => ?_⟩
    rcases List.mem_cons.mp hp with rfl | hp
    · exact ⟨ht, hq⟩
    · exact htr p hp

/-- A preorder that every execution climbs orders all the states the loop passes through. -/
theorem pairwise {R : σ → σ → Prop} (hrefl : ∀ s, R s s)
    (htrans : ∀ s t u, R s t → R t u → R s u) (hstep : ∀ s e t, exec s e t → R s t)
    (h : Drains next exec s trace t) :
    R s t ∧ (∀ p ∈ trace, R s p.2 ∧ R p.2 t) ∧ (trace.map Prod.snd).Pairwise R := by
  induction h with
  | done => exact ⟨hrefl _, fun _ hp => absurd hp (by simp), List.Pairwise.nil⟩
  | @step s t u e trace _ he _ ih =>
    obtain ⟨htu, htr, hpw⟩ := ih
    have hst := hstep _ _ _ he
    refine ⟨htrans _ _ _ hst htu, fun p hp => ?_, List.pairwise_cons.mpr ⟨fun v hv => ?_, hpw⟩⟩
    · rcases List.mem_cons.mp hp with rfl | hp
      · exact ⟨hst, htu⟩
      · exact ⟨htrans _ _ _ hst (htr p hp).1, (htr p hp).2⟩
    · obtain ⟨p, hp, rfl⟩ := List.mem_map.mp hv
      exact (htr p hp).1

/-- **Splitting.** If whenever the first loop has a next event the second loop has the same one,
    then a run of the second loop begins with the run of the first. -/
theorem split {next' : σ → Option ε} (hfun : ∀ s e t t', exec s e t → exec s e t' → t = t')
    (hn : ∀ s e, next s = some e → next' s = some e) {u : σ} {trace' : List (ε × σ)}
    (h : Drains next exec s trace t) (h' : Drains next' exec s trace' u) :
    ∃ rest, Drains next' exec t rest u ∧ trace' = trace ++ rest := by
  induction h generalizing trace' with
  | done => exact ⟨trace', h', rfl⟩
  | step hne he _ ih =>
    cases h' with
    | done hnone => rw [hn _ _ hne] at hnone; exact absurd hnone (by simp)
    | step hne' he' rest' =>
      rw [hn _ _ hne] at hne'
      obtain rfl := Option.some.inj hne'
      obtain rfl := hfun _ _ _ _ he he'
      obtain ⟨rest, hrest, rfl⟩ := ih rest'
      exact ⟨rest, hrest, rfl⟩

/-- **Lockstep.** A relation under which the two loops have the same next event, and which
    executing it on both sides preserves, carries a run of one loop over to the other. -/
theorem simulate {next' : τ → Option ε} {E : τ → ε → τ → Prop} {R : σ → τ → Prop}
    (hnext : ∀ s s', R s s' → next' s' = next s)
    (hexec : ∀ s s' e t, R s s' → next s = some e → exec s e t →
      ∃ t', E s' e t' ∧ R t t')
    (h : Drains next exec s trace t) {s' : τ} (hs : R s s') :
    ∃ trace' t', Drains next' E s' trace' t' ∧ R t t'
      ∧ trace'.map Prod.fst = trace.map Prod.fst := by
  induction h generalizing s' with
  | done hn => exact ⟨[], s', .done (by rw [hnext _ _ hs, hn]), hs, rfl⟩
  | step hn he _ ih =>
    obtain ⟨t', he', ht⟩ := hexec _ _ _ _ hs hn he
    obtain ⟨trace', u', hrest, hu, hev⟩ := ih ht
    exact ⟨_, u', .step (by rw [hnext _ _ hs, hn]) he' hrest, hu, by simp [hev]⟩

end Drains
