import Mathlib.Data.List.Induction
import Mathlib.Order.Lattice

/-!
# Runs in epochs

The events of a run carry an epoch that never goes back. If the first event of each epoch wipes out
what the state owes to the epochs before, then the state after a run is the state after the events
of its last epoch alone (`foldl_last_epoch`).
-/

set_option autoImplicit false

namespace Epochs

variable {σ ε κ : Type*} [LinearOrder κ] {epoch : ε → κ} {step : σ → ε → σ} {events : List ε}

/-- A run that does not go back is older epochs, and then the last one. -/
theorem exists_split {last : ε} (hsorted : events.Pairwise fun x y => epoch x ≤ epoch y)
    (hlast : events.getLast? = some last) :
    ∃ earlier first later, events = earlier ++ first :: later ∧ epoch first = epoch last ∧
      (∀ x ∈ earlier, epoch x < epoch last) ∧ ∀ x ∈ later, epoch x = epoch last := by
  induction events using List.reverseRecOn generalizing last with
  | nil => exact absurd hlast (by simp)
  | append_singleton events event ih =>
    obtain rfl : event = last := by simpa using hlast
    obtain ⟨hbefore, -, horder⟩ := List.pairwise_append.mp hsorted
    have hle : ∀ x ∈ events, epoch x ≤ epoch event := fun x hx => horder x hx event (by simp)
    rcases List.eq_nil_or_concat events with rfl | ⟨rest, previous, rfl⟩
    · exact ⟨[], event, [], rfl, rfl, by simp, by simp⟩
    · obtain ⟨earlier, first, later, hsplit, hfirst, hearlier, hlater⟩ :=
        @ih previous hbefore (by simp)
      have hprevious := hle previous (by simp)
      rcases hprevious.lt_or_eq with hlt | heq
      · -- the event opens an epoch of its own
        refine ⟨_, event, [], rfl, rfl, fun x hx => ?_, by simp⟩
        rw [hsplit] at hx
        refine lt_of_le_of_lt ?_ hlt
        rcases List.mem_append.mp hx with hx | hx
        · exact (hearlier x hx).le
        · rcases List.mem_cons.mp hx with rfl | hx
          · exact hfirst.le
          · exact (hlater x hx).le
      · refine ⟨earlier, first, later ++ [event], by rw [hsplit]; simp, hfirst.trans heq,
          fun x hx => heq ▸ hearlier x hx, fun x hx => ?_⟩
        rcases List.mem_append.mp hx with hx | hx
        · exact (hlater x hx).trans heq
        · rw [List.mem_singleton.mp hx]

/-- **The state after a run** is the one its last epoch leads to, where the first event of that
    epoch does the same to the state it meets as to the initial one. -/
theorem foldl_last_epoch {init : σ} {last : ε}
    (hsorted : events.Pairwise fun x y => epoch x ≤ epoch y)
    (hlast : events.getLast? = some last)
    (hreset : ∀ earlier first later, events = earlier ++ first :: later →
      (∀ x ∈ earlier, epoch x < epoch first) →
        step (earlier.foldl step init) first = step init first) :
    events.foldl step init =
      (events.filter fun x => decide (epoch x = epoch last)).foldl step init := by
  obtain ⟨earlier, first, later, hsplit, hfirst, hearlier, hlater⟩ :=
    exists_split hsorted hlast
  have hfilter : (events.filter fun x => decide (epoch x = epoch last)) = first :: later := by
    rw [hsplit, List.filter_append, List.filter_cons_of_pos (by simpa using hfirst)]
    rw [List.filter_eq_nil_iff.mpr fun x hx => by simpa using (hearlier x hx).ne,
      List.filter_eq_self.mpr fun x hx => by simpa using hlater x hx]
    rfl
  rw [hfilter]
  nth_rewrite 1 [hsplit]
  rw [List.foldl_append, List.foldl_cons, List.foldl_cons,
    hreset earlier first later hsplit fun x hx => hfirst ▸ hearlier x hx]

end Epochs
