import Mathlib.Logic.Basic
import Mathlib.Data.Nat.Notation

/-!
# Loops without a bound

`while True`, whose body ends a round by going on from a new state, by breaking out with a result or
by raising. `rounds` runs at most so many of them and answers with nothing when they were not
enough, so a loop that never ends is one for which no number is (`Diverges`).

Two loops are compared round by round (`rounds_related`): what is proved of one that carries little
holds of another that carries more.
-/

set_option autoImplicit false

namespace WhileLoop

variable {σ τ ε α β γ : Type*}

/-- At most `fuel` rounds: the state each of them started in, and how the last one ended. -/
def rounds (body : σ → Except ε (σ ⊕ α)) : ℕ → σ → Option (List σ × Except ε α)
  | 0, _ => none
  | fuel + 1, s =>
    match body s with
    | .error e => some ([s], .error e)
    | .ok (.inr a) => some ([s], .ok a)
    | .ok (.inl s') => (rounds body fuel s').map fun r => (s :: r.1, r.2)

section Rounds

variable {body : σ → Except ε (σ ⊕ α)} {s s' : σ} {fuel fuel' : ℕ}

theorem rounds_of_next (h : body s = .ok (.inl s')) :
    rounds body (fuel + 1) s = (rounds body fuel s').map fun r => (s :: r.1, r.2) := by
  rw [rounds, h]

/-- A round that ends the loop. -/
theorem rounds_of_stop {outcome : Except ε α} (h : body s = outcome.map Sum.inr) :
    rounds body (fuel + 1) s = some ([s], outcome) := by
  rw [rounds, h]
  cases outcome <;> rfl

/-- The number of rounds that are allowed decides only whether there are enough. -/
theorem rounds_unique {r r' : List σ × Except ε α} (h : rounds body fuel s = some r)
    (h' : rounds body fuel' s = some r') : r = r' := by
  induction fuel generalizing fuel' s r r' with
  | zero => cases h
  | succ fuel ih =>
    cases fuel' with
    | zero => cases h'
    | succ fuel' =>
      unfold rounds at h h'
      split at h
      · rename_i e hbody
        rw [hbody] at h'
        exact Option.some.inj (h.symm.trans h')
      · rename_i a hbody
        rw [hbody] at h'
        exact Option.some.inj (h.symm.trans h')
      · rename_i next hbody
        rw [hbody] at h'
        obtain ⟨q, hq, rfl⟩ := Option.map_eq_some_iff.mp h
        obtain ⟨q', hq', rfl⟩ := Option.map_eq_some_iff.mp h'
        rw [ih hq hq']

/-- No number of rounds is enough. -/
def Diverges (body : σ → Except ε (σ ⊕ α)) (s : σ) : Prop := ∀ fuel, rounds body fuel s = none

end Rounds

/-! ## Two loops, round by round -/

/-- The rounds of related states end the same way, or go on from related states. -/
inductive Related (R : σ → τ → Prop) (g : α → β) :
    Except ε (σ ⊕ α) → Except ε (τ ⊕ β) → Prop
  | raise (e : ε) : Related R g (.error e) (.error e)
  | stop (a : α) : Related R g (.ok (.inr a)) (.ok (.inr (g a)))
  | next {s : σ} {t : τ} : R s t → Related R g (.ok (.inl s)) (.ok (.inl t))

/-- What is seen of the states, and the outcomes, agree. -/
theorem rounds_related {R : σ → τ → Prop} {g : α → β} {body : σ → Except ε (σ ⊕ α)}
    {body' : τ → Except ε (τ ⊕ β)} {see : σ → γ} {see' : τ → γ}
    (hbody : ∀ s t, R s t → Related R g (body s) (body' t))
    (hsee : ∀ s t, R s t → see' t = see s) {s : σ} {t : τ} (h : R s t) (fuel : ℕ) :
    (rounds body' fuel t).map (fun r => (r.1.map see', r.2)) =
      (rounds body fuel s).map fun r => (r.1.map see, r.2.map g) := by
  induction fuel generalizing s t with
  | zero => rfl
  | succ fuel ih =>
    have hround := hbody s t h
    unfold rounds
    generalize body s = x at hround
    generalize body' t = y at hround
    cases hround with
    | raise e => simp [hsee s t h, Except.map]
    | stop a => simp [hsee s t h, Except.map]
    | @next s₁ t₁ hnext =>
      have hrest := ih hnext
      dsimp only
      cases hs : rounds body fuel s₁ with
      | none =>
        rw [hs] at hrest
        rw [Option.map_eq_none_iff.mp hrest]
        rfl
      | some r =>
        rw [hs] at hrest
        obtain ⟨r', hr', hlists⟩ := Option.map_eq_some_iff.mp hrest
        have hseen : r'.1.map see' = r.1.map see := congrArg Prod.fst hlists
        have houtcome : r'.2 = r.2.map g := congrArg Prod.snd hlists
        rw [hr']
        simp [hsee s t h, hseen, houtcome]

end WhileLoop
