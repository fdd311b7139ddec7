import CreditHedge.Lib.Gates
import Mathlib.Tactic.ByContra

/-!
# Licences

Some calls of a task *use* a licence and some *claim* one, and a claim is answered with a grant or
without one. A task is `Licensed` if it never comes to a use but after a grant, and to no second use
without a second grant. Nothing in the world says who holds the licence: the holder is the task that
is `Committed` to a use, which it may stay for as long as it likes while others go on.

If the world grants a licence only once, and remembers that it is taken, then at most one task of a
loop is ever committed to it, and it is used at most once (`EventLoop.used_le_one`). A claim that
fails may take the licence all the same: then nobody has it.
-/

set_option autoImplicit false

namespace Coroutine

variable {ε Op : Type} {Res : Op → Type} {α β W A : Type}

section Licence

variable (uses claims : Op → Prop) (grants : (op : Op) → Except ε (Res op) → Prop)

/-- A use is no second time committed, and neither is a claim without a grant. -/
def Licensed : Coroutine ε Op Res α → Prop
  | .done _ => True
  | .call op resume =>
      (uses op → ∀ answer, ¬ Committed uses claims (resume answer)) ∧
      (claims op → ∀ answer, ¬ grants op answer → ¬ Committed uses claims (resume answer)) ∧
      ∀ answer, Licensed (resume answer)

variable {uses claims grants}

/-- A task that uses nothing. -/
theorem Licensed.of_never {t : Coroutine ε Op Res α} (h : Calls (fun op => ¬ uses op) t) :
    Licensed uses claims grants t := by
  induction t with
  | done outcome => exact trivial
  | call op resume ih =>
    exact ⟨fun huses => absurd huses h.1, fun _ answer _ => (h.2 answer).not_committed,
      fun answer => ih answer (h.2 answer)⟩

/-- A task that claims and uses nothing, and what follows it. -/
theorem Licensed.bind_of_calls {t : Coroutine ε Op Res α} {f : α → Coroutine ε Op Res β}
    (ht : Calls (fun op => ¬ uses op ∧ ¬ claims op) t)
    (hf : ∀ a, Licensed uses claims grants (f a)) : Licensed uses claims grants (t >>= f) := by
  rw [bind_eq]
  induction t with
  | done outcome =>
    cases outcome with
    | ok a => exact hf a
    | error e => exact trivial
  | call op resume ih =>
    exact ⟨fun huses => absurd huses ht.1.1, fun hclaims => absurd hclaims ht.1.2,
      fun answer => ih answer (ht.2 answer)⟩

/-- A claim, and what follows it. -/
theorem Licensed.claim_bind {op : Op} {f : Res op → Coroutine ε Op Res α} (hop : ¬ uses op)
    (hrefused : ∀ v, ¬ grants op (.ok v) → ¬ Committed uses claims (f v))
    (hf : ∀ v, Licensed uses claims grants (f v)) :
    Licensed uses claims grants (perform op >>= f) := by
  refine ⟨fun huses => absurd huses hop, fun _ answer hanswer => ?_, fun answer => ?_⟩
  · cases answer with
    | ok v => exact hrefused v hanswer
    | error e => exact not_committed_done
  · cases answer with
    | ok v => exact hf v
    | error e => exact trivial

/-- A use, after which there is none. -/
theorem Licensed.spend {op : Op} {resume : Except ε (Res op) → Coroutine ε Op Res α}
    (hop : ¬ claims op) (hrest : ∀ answer, Calls (fun op => ¬ uses op) (resume answer)) :
    Licensed uses claims grants (.call op resume) :=
  ⟨fun _ answer => (hrest answer).not_committed, fun hclaims => absurd hclaims hop,
    fun answer => .of_never (hrest answer)⟩

/-- A task is not committed before it has looked, whatever it does first. -/
theorem not_committed_bind {t : Coroutine ε Op Res α} {f : α → Coroutine ε Op Res β}
    (ht : Calls (fun op => ¬ uses op) t) (hf : ∀ a, ¬ Committed uses claims (f a)) :
    ¬ Committed uses claims (t >>= f) := by
  intro h
  rcases h.of_bind with h | ⟨a, h⟩
  · exact ht.not_committed h
  · exact hf a h

end Licence

/-! ## One licence -/

/-- What calls do to a licence that is granted once: the world says whether it is `taken`, and how
    often it has been `used`. -/
structure Licensing (handle : A → (op : Op) → W → Except ε (Res op) × W)
    (uses claims : Op → Prop) (grants : (op : Op) → Except ε (Res op) → Prop) (taken : W → Prop)
    (used : W → ℕ) : Prop where
  granted : ∀ a op w, claims op → grants op (handle a op w).1 →
    ¬ taken w ∧ taken (handle a op w).2
  stays : ∀ a op w, taken w → taken (handle a op w).2
  counts : ∀ a op w, uses op → used (handle a op w).2 ≤ used w + 1
  frame : ∀ a op w, ¬ uses op → used (handle a op w).2 = used w
  apart : ∀ op, uses op → ¬ claims op

variable {uses claims : Op → Prop} {grants : (op : Op) → Except ε (Res op) → Prop}
  {handle : A → (op : Op) → W → Except ε (Res op) × W} {taken : W → Prop} {used : W → ℕ}

/-- What one call of a task comes to: nothing that matters, a grant, or a use. -/
inductive LicenceStep (taken : W → Prop) (used : W → ℕ) (before after : Prop) (w w' : W) : Prop
  | other (hused : used w' = used w) (hafter : after → before) :
      LicenceStep taken used before after w w'
  | grant (hfree : ¬ taken w) (htaken : taken w') (hused : used w' = used w) :
      LicenceStep taken used before after w w'
  | spend (hbefore : before) (hused : used w' ≤ used w + 1) (hafter : ¬ after) :
      LicenceStep taken used before after w w'

theorem Licensed.step (hlicensing : Licensing handle uses claims grants taken used)
    {t : Coroutine ε Op Res α} (h : Licensed uses claims grants t) (a : A) (w : W) :
    (taken w → taken (t.advance handle a w).2) ∧
      Licensed uses claims grants (t.advance handle a w).1 ∧
      LicenceStep taken used (Committed uses claims t)
        (Committed uses claims (t.advance handle a w).1) w (t.advance handle a w).2 := by
  cases t with
  | done outcome => exact ⟨id, trivial, .other rfl id⟩
  | call op resume =>
    refine ⟨hlicensing.stays a op w, h.2.2 _, ?_⟩
    by_cases huses : uses op
    · exact .spend (.act huses) (hlicensing.counts a op w huses) (h.1 huses _)
    · have hused := hlicensing.frame a op w huses
      by_cases hclaims : claims op
      · by_cases hgrants : grants op (handle a op w).1
        · obtain ⟨hfree, htaken⟩ := hlicensing.granted a op w hclaims hgrants
          exact .grant hfree htaken hused
        · exact .other hused fun hafter => absurd hafter (h.2.1 hclaims _ hgrants)
      · exact .other hused fun hafter => .onward _ hclaims hafter

end Coroutine

/-! ## Licensed tasks in a loop -/

/-- At most one of the holders has the licence, and only while it is taken and not used. -/
structure Sole {W ι : Type} (taken : W → Prop) (used : W → ℕ) (holds : ι → Prop) (w : W) :
    Prop where
  free : ¬ taken w → used w = 0 ∧ ∀ i, ¬ holds i
  most : used w ≤ 1
  spent : used w ≠ 0 → ∀ i, ¬ holds i
  alone : ∀ i j, holds i → holds j → i = j

/-- One of the holders makes a step. -/
theorem Sole.step {W ι : Type} {taken : W → Prop} {used : W → ℕ} {holds holds' : ι → Prop}
    {w w' : W} (h : Sole taken used holds w) {i : ι} (hothers : ∀ j, j ≠ i → holds' j → holds j)
    (htaken : taken w → taken w')
    (hstep : Coroutine.LicenceStep taken used (holds i) (holds' i) w w') :
    Sole taken used holds' w' := by
  cases hstep with
  | other hused hafter =>
    have hholds : ∀ j, holds' j → holds j := fun j hj => by
      by_cases hji : j = i
      · subst hji
        exact hafter hj
      · exact hothers j hji hj
    constructor
    · intro hfree
      obtain ⟨hzero, hnone⟩ := h.free fun hw => hfree (htaken hw)
      exact ⟨hused.trans hzero, fun j hj => hnone j (hholds j hj)⟩
    · exact hused ▸ h.most
    · exact fun hne j hj => h.spent (hused ▸ hne) j (hholds j hj)
    · exact fun j k hj hk => h.alone j k (hholds j hj) (hholds k hk)
  | grant hfree htaken' hused =>
    obtain ⟨hzero, hnone⟩ := h.free hfree
    have honly : ∀ j, holds' j → j = i := fun j hj => by
      by_contra hji
      exact hnone j (hothers j hji hj)
    constructor
    · exact fun hfree' => absurd htaken' hfree'
    · exact Nat.le_trans (Nat.le_of_eq (hused.trans hzero)) (Nat.zero_le 1)
    · exact fun hne => absurd (hused.trans hzero) hne
    · exact fun j k hj hk => (honly j hj).trans (honly k hk).symm
  | spend hbefore hused hafter =>
    have hzero : used w = 0 := by
      by_contra hne
      exact h.spent hne i hbefore
    have hnone : ∀ j, ¬ holds' j := fun j hj => by
      by_cases hji : j = i
      · subst hji
        exact hafter hj
      · exact hji (h.alone j i (hothers j hji hj) hbefore)
    constructor
    · intro hfree
      exact absurd hbefore ((h.free fun hw => hfree (htaken hw)).2 i)
    · rwa [hzero, Nat.zero_add] at hused
    · exact fun _ => hnone
    · exact fun j _ hj => absurd hj (hnone j)

namespace EventLoop

variable {ε Op : Type} {Res : Op → Type} {W A α β : Type}

section

variable (uses claims : Op → Prop)

/-- The task at this place is committed to a use: `none` is the main task's place. -/
def CommittedAt (s : EventLoop ε Op Res W α β) : Option ℕ → Prop
  | none => s.main.Committed uses claims
  | some i => ∃ t, s.others[i]? = some t ∧ t.Committed uses claims

/-- The loop's tasks are licensed, and at most one of them has the licence. -/
structure SoleLoop (grants : (op : Op) → Except ε (Res op) → Prop) (taken : W → Prop)
    (used : W → ℕ) (s : EventLoop ε Op Res W α β) : Prop where
  main : s.main.Licensed uses claims grants
  others : ∀ t ∈ s.others, t.Licensed uses claims grants
  sole : Sole taken used (s.CommittedAt uses claims) s.world

end

variable {uses claims : Op → Prop} {grants : (op : Op) → Except ε (Res op) → Prop}
  {handle : A → (op : Op) → W → Except ε (Res op) × W} {taken : W → Prop} {used : W → ℕ}

theorem soleLoop_move (hlicensing : Coroutine.Licensing handle uses claims grants taken used)
    {s : EventLoop ε Op Res W α β} {m : Move ε Op Res A β}
    (hstart : ∀ t, m = .start t → t.Licensed uses claims grants ∧ ¬ t.Committed uses claims)
    (h : s.SoleLoop uses claims grants taken used) :
    (s.move handle m).SoleLoop uses claims grants taken used := by
  cases m with
  | main a =>
    obtain ⟨htaken, hlicensed, hstep⟩ := h.main.step hlicensing a s.world
    refine ⟨hlicensed, h.others, h.sole.step (i := none) (fun j hj hc => ?_) htaken hstep⟩
    cases j with
    | none => exact absurd rfl hj
    | some i => exact hc
  | other i a =>
    cases hi : s.others[i]? with
    | none => simpa only [move, hi] using h
    | some t =>
      obtain ⟨htaken, hlicensed, hstep⟩ :=
        (h.others t (List.mem_of_getElem? hi)).step hlicensing a s.world
      have hlt : i < s.others.length := (List.getElem?_eq_some_iff.mp hi).1
      have hbefore : s.CommittedAt uses claims (some i) ↔ t.Committed uses claims := by
        simp [CommittedAt, hi]
      simp only [move, hi]
      refine ⟨h.main, forall_mem_set h.others hlicensed i, ?_⟩
      · refine h.sole.step (i := some i) (fun j hj hc => ?_) htaken ?_
        · cases j with
          | none => exact hc
          | some k =>
            have hki : i ≠ k := fun heq => hj (heq ▸ rfl)
            obtain ⟨t', ht', hcommitted⟩ := hc
            rw [List.getElem?_set_ne hki] at ht'
            exact ⟨t', ht', hcommitted⟩
        · have hafter : ∀ u : Coroutine ε Op Res β,
              (∃ t', (s.others.set i u)[i]? = some t' ∧ t'.Committed uses claims) ↔
                u.Committed uses claims := fun u => by
            simp [List.getElem?_set_self hlt]
          simpa only [CommittedAt, hafter, hbefore, hi, Option.some.injEq, exists_eq_left'] using
            hstep
  | start t =>
    obtain ⟨hlicensed, hnot⟩ := hstart t rfl
    refine ⟨h.main, forall_mem_start h.others hlicensed, ?_⟩
    · have hholds : ∀ j, (s.move handle (.start t)).CommittedAt uses claims j →
          s.CommittedAt uses claims j := by
        intro j hc
        cases j with
        | none => exact hc
        | some k =>
          obtain ⟨t', ht', hcommitted⟩ := hc
          simp only [move] at ht'
          rw [List.getElem?_append] at ht'
          split at ht'
          · exact ⟨t', ht', hcommitted⟩
          · have heq := List.mem_singleton.mp (List.mem_of_getElem? ht')
            exact absurd (heq ▸ hcommitted) hnot
      exact
        { free := fun hfree => ⟨(h.sole.free hfree).1, fun j hj =>
            (h.sole.free hfree).2 j (hholds j hj)⟩
          most := h.sole.most
          spent := fun hne j hj => h.sole.spent hne j (hholds j hj)
          alone := fun j k hj hk => h.sole.alone j k (hholds j hj) (hholds k hk) }

theorem soleLoop_run (hlicensing : Coroutine.Licensing handle uses claims grants taken used)
    {s : EventLoop ε Op Res W α β} {moves : List (Move ε Op Res A β)}
    (hstart : ∀ t, .start t ∈ moves → t.Licensed uses claims grants ∧ ¬ t.Committed uses claims)
    (h : s.SoleLoop uses claims grants taken used) :
    (s.run handle moves).SoleLoop uses claims grants taken used := by
  induction moves generalizing s with
  | nil => exact h
  | cons m ms ih =>
    refine ih (s := s.move handle m) (fun t ht => hstart t (List.mem_cons_of_mem _ ht)) ?_
    refine soleLoop_move hlicensing (fun t ht => hstart t ?_) h
    rw [ht]
    exact List.mem_cons_self ..

/-- **A licence that is granted once is used at most once**, and only if it is taken, by a loop of
    tasks that are licensed and not yet committed. -/
theorem used_le_one (hlicensing : Coroutine.Licensing handle uses claims grants taken used)
    {s : EventLoop ε Op Res W α β} {moves : List (Move ε Op Res A β)}
    (hstart : ∀ t, .start t ∈ moves → t.Licensed uses claims grants ∧ ¬ t.Committed uses claims)
    (hmain : s.main.Licensed uses claims grants ∧ ¬ s.main.Committed uses claims)
    (hothers : s.others = []) (hfree : ¬ taken s.world → used s.world = 0)
    (hmost : used s.world ≤ 1) :
    used (s.run handle moves).world ≤ 1 ∧
      (¬ taken (s.run handle moves).world → used (s.run handle moves).world = 0) := by
  have hnone : ∀ i, ¬ s.CommittedAt uses claims i := by
    intro i hc
    cases i with
    | none => exact hmain.2 hc
    | some i =>
      obtain ⟨t, ht, -⟩ := hc
      simp [hothers] at ht
  have hstarted : s.SoleLoop uses claims grants taken used :=
    { main := hmain.1
      others := by simp [hothers]
      sole :=
        { free := fun hw => ⟨hfree hw, hnone⟩
          most := hmost
          spent := fun _ => hnone
          alone := fun i _ hi => absurd hi (hnone i) } }
  have hended := (soleLoop_run hlicensing hstart hstarted).sole
  exact ⟨hended.most, fun hw => (hended.free hw).1⟩

end EventLoop
