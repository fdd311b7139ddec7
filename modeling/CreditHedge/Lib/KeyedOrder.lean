import Mathlib.Data.List.Induction
import Mathlib.Logic.Function.Basic
import Mathlib.Order.Defs.Unbundled

/-!
# Order per key

A list of entries, each under a key, is gone through with the last entry of each key kept in mind,
and an entry is only let through if it may follow the last one of its key (`Follows`). For a
transitive relation this says that any two entries of a key stand in it, in the order of the list
(`follows_iff`).
-/

set_option autoImplicit false

namespace KeyedOrder

variable {κ α : Type*} [DecidableEq κ] (R : α → α → Prop)

/-- Each entry may follow the last one of its key. -/
def Follows : (κ → Option α) → List (κ × α) → Prop
  | _, [] => True
  | last, entry :: entries =>
    (∀ a ∈ last entry.1, R a entry.2) ∧
      Follows (Function.update last entry.1 (some entry.2)) entries

variable {R}

theorem follows_iff (htrans : ∀ a b c, R a b → R b c → R a c) (last : κ → Option α)
    (entries : List (κ × α)) :
    Follows R last entries ↔
      (∀ entry ∈ entries, ∀ a ∈ last entry.1, R a entry.2) ∧
        entries.Pairwise fun x y => x.1 = y.1 → R x.2 y.2 := by
  induction entries generalizing last with
  | nil => simp [Follows]
  | cons entry entries ih =>
    rw [Follows, ih, List.forall_mem_cons, List.pairwise_cons]
    constructor
    · rintro ⟨hfirst, hlast, hpairs⟩
      refine ⟨⟨hfirst, fun later hlater a ha => ?_⟩, fun later hlater hkey => ?_, hpairs⟩
      · by_cases hkey : later.1 = entry.1
        · -- through the entry that has come in between
          rw [hkey] at ha
          refine htrans a entry.2 later.2 (hfirst a ha) (hlast later hlater entry.2 ?_)
          rw [hkey, Function.update_self]
          rfl
        · refine hlast later hlater a ?_
          rwa [Function.update_of_ne hkey]
      · refine hlast later hlater entry.2 ?_
        rw [← hkey, Function.update_self]
        rfl
    · rintro ⟨⟨hfirst, hlast⟩, hlater, hpairs⟩
      refine ⟨hfirst, fun later hmem a ha => ?_, hpairs⟩
      by_cases hkey : later.1 = entry.1
      · rw [hkey, Function.update_self] at ha
        obtain rfl := Option.some.inj ha
        exact hlater later hmem hkey.symm
      · rw [Function.update_of_ne hkey] at ha
        exact hlast later hmem a ha

/-- The same, from the start. -/
theorem follows_none_iff (htrans : ∀ a b c, R a b → R b c → R a c) (entries : List (κ × α)) :
    Follows R (fun _ => none) entries ↔
      entries.Pairwise fun x y => x.1 = y.1 → R x.2 y.2 := by
  rw [follows_iff htrans]
  exact and_iff_right fun _ _ _ ha => absurd ha (by simp)

end KeyedOrder
