import Mathlib.Data.List.Nodup
import Mathlib.Data.Nat.Basic

/-!
# Append-only logs

A log is a list of entries at increasing positions. Entries are only ever appended, at a position
past the last one, so what a reader has seen of the log up to some position stays what the log is
up to there. Readers select entries by a predicate `p` (one stream of many in the log) and by
position, up to one or after one; the two parts make up the stream (`filter_eq_append`).

`Extends` is what happens to a log while its reader is not looking.
-/

set_option autoImplicit false

structure EventLog {ε : Type*} (position : ε → ℕ) where
  entries : List ε
  increasing : entries.Pairwise fun e e' => position e < position e'

namespace EventLog

variable {ε : Type*} {position : ε → ℕ}

def empty : EventLog position := ⟨[], .nil⟩

/-- The position of the last entry, and zero if there is none. -/
def last (l : EventLog position) : ℕ := (l.entries.getLast?.map position).getD 0

theorem le_last {l : EventLog position} {e : ε} (h : e ∈ l.entries) : position e ≤ l.last := by
  obtain ⟨init, final, hentries⟩ := List.append_of_mem h
  cases hlast : l.entries.getLast? with
  | none => exact absurd (List.getLast?_eq_none_iff.mp hlast ▸ h) (by simp)
  | some e' =>
    have hlast' : l.last = position e' := by simp [last, hlast]
    rw [hlast']
    rcases List.eq_nil_or_concat final with rfl | ⟨final', e'', rfl⟩
    · rw [hentries, List.getLast?_append] at hlast
      simp only [List.getLast?_singleton, Option.some_or, Option.some.injEq] at hlast
      exact le_of_eq (congrArg position hlast)
    · have hpair := l.increasing
      rw [hentries, List.pairwise_append] at hpair
      have hlt := (List.pairwise_cons.mp hpair.2.1).1 e'' (by simp)
      rw [hentries] at hlast
      have heq : e'' = e' := by
        rw [List.concat_eq_append, ← List.cons_append, ← List.append_assoc,
          List.getLast?_concat] at hlast
        exact Option.some.inj hlast
      exact le_of_lt (heq ▸ hlt)

theorem last_le {l : EventLog position} {n : ℕ} (h : ∀ e ∈ l.entries, position e ≤ n) :
    l.last ≤ n := by
  unfold last
  cases hlast : l.entries.getLast? with
  | none => exact Nat.zero_le n
  | some e => exact h e (List.mem_of_getLast? hlast)

theorem eq_of_position {l : EventLog position} {e e' : ε} (he : e ∈ l.entries)
    (he' : e' ∈ l.entries) (h : position e = position e') : e = e' := by
  have hnodup : (l.entries.map position).Nodup :=
    (List.pairwise_map.mpr l.increasing).imp fun hlt => ne_of_lt hlt
  exact List.inj_on_of_nodup_map hnodup he he' h

/-- One more entry, past the last one. -/
def append (l : EventLog position) (e : ε) (h : l.last < position e) : EventLog position where
  entries := l.entries ++ [e]
  increasing := by
    refine List.pairwise_append.mpr ⟨l.increasing, List.pairwise_singleton _ _, ?_⟩
    intro e' he' e'' he''
    rw [List.mem_singleton.mp he'']
    exact lt_of_le_of_lt (le_last he') h

@[simp] theorem entries_append {l : EventLog position} {e : ε} (h : l.last < position e) :
    (l.append e h).entries = l.entries ++ [e] := rfl

@[simp] theorem last_append {l : EventLog position} {e : ε} (h : l.last < position e) :
    (l.append e h).last = position e := by
  simp [last]

/-! ## Reading -/

variable (l : EventLog position) (p : ε → Bool)

def upTo (n : ℕ) : List ε := l.entries.filter fun e => p e && position e ≤ n

def after (m : ℕ) : List ε := l.entries.filter fun e => p e && m < position e

variable {l p}

theorem mem_upTo {n : ℕ} {e : ε} :
    e ∈ l.upTo p n ↔ e ∈ l.entries ∧ p e = true ∧ position e ≤ n := by
  simp [upTo]

theorem mem_after {m : ℕ} {e : ε} :
    e ∈ l.after p m ↔ e ∈ l.entries ∧ p e = true ∧ m < position e := by
  simp [after]

theorem pairwise_after (m : ℕ) :
    (l.after p m).Pairwise fun e e' => position e < position e' :=
  l.increasing.filter _

/-- A selection falls into what is up to a position and what is after it. -/
theorem filter_eq_append (n : ℕ) : l.entries.filter p = l.upTo p n ++ l.after p n := by
  unfold upTo after
  have hpair := l.increasing
  generalize l.entries = entries at hpair ⊢
  induction entries with
  | nil => rfl
  | cons x xs ih =>
    obtain ⟨hx, hxs⟩ := List.pairwise_cons.mp hpair
    by_cases hn : position x ≤ n
    · have hn' : ¬ n < position x := not_lt.mpr hn
      cases hp : p x with
      | true => simp [hp, hn, hn', ih hxs]
      | false => simp [hp, ih hxs]
    · -- Everything from here on is past `n`.
      have hnone : (xs.filter fun e => p e && position e ≤ n) = [] := by
        refine List.filter_eq_nil_iff.mpr fun e he => ?_
        have hlt := hx e he
        simp only [Bool.and_eq_true, decide_eq_true_eq, not_and]
        omega
      have hrest := ih hxs
      rw [hnone, List.nil_append] at hrest
      have hn' : n < position x := not_le.mp hn
      cases hp : p x with
      | true => simp [hp, hn, hn', hnone, ← hrest]
      | false => simp [hp, hnone, ← hrest]

/-- What is not past the last entry is all there is. -/
theorem upTo_of_last_le {n : ℕ} (h : l.last ≤ n) : l.upTo p n = l.entries.filter p := by
  refine List.filter_congr fun e he => ?_
  simp [le_trans (le_last he) h]

/-! ## While the reader is not looking -/

/-- Entries came to the log, all of them past its last one. -/
def Extends (l l' : EventLog position) : Prop :=
  ∃ new, l'.entries = l.entries ++ new ∧ ∀ e ∈ new, l.last < position e

theorem Extends.refl (l : EventLog position) : l.Extends l := ⟨[], by simp, by simp⟩

theorem extends_append {e : ε} (h : l.last < position e) : l.Extends (l.append e h) :=
  ⟨[e], rfl, fun e' he' => by rwa [List.mem_singleton.mp he']⟩

theorem Extends.last_le {l' : EventLog position} (h : l.Extends l') : l.last ≤ l'.last := by
  obtain ⟨new, hentries, hnew⟩ := h
  rcases List.eq_nil_or_concat new with rfl | ⟨init, e, rfl⟩
  · rw [List.append_nil] at hentries
    rw [last, last, hentries]
  · have he : e ∈ l'.entries := by simp [hentries]
    exact le_trans (le_of_lt (hnew e (by simp))) (le_last he)

theorem Extends.trans {l l' l'' : EventLog position} (h : l.Extends l') (h' : l'.Extends l'') :
    l.Extends l'' := by
  have hlast := h.last_le
  obtain ⟨new, hentries, hnew⟩ := h
  obtain ⟨new', hentries', hnew'⟩ := h'
  refine ⟨new ++ new', by rw [hentries', hentries, List.append_assoc], fun e he => ?_⟩
  rcases List.mem_append.mp he with he | he
  · exact hnew e he
  · exact lt_of_le_of_lt hlast (hnew' e he)

/-- What was there already up to a position is what is there up to it now. -/
theorem Extends.upTo {l' : EventLog position} (h : l.Extends l') {n : ℕ} (hn : n ≤ l.last) :
    l'.upTo p n = l.upTo p n := by
  obtain ⟨new, hentries, hnew⟩ := h
  have hnone : (new.filter fun e => p e && position e ≤ n) = [] := by
    refine List.filter_eq_nil_iff.mpr fun e he => ?_
    have hpast := hnew e he
    simp only [Bool.and_eq_true, decide_eq_true_eq, not_and]
    omega
  unfold EventLog.upTo
  rw [hentries, List.filter_append, hnone, List.append_nil]

/-- If nothing is past position `n` now, nothing came since the log was read up to `n`. -/
theorem Extends.after_eq {l' : EventLog position} (h : l.Extends l') {m n : ℕ} (hn : n ≤ l.last)
    (hcurrent : l'.after p n = []) : l'.after p m = l.after p m := by
  obtain ⟨new, hentries, hnew⟩ := h
  have hnone : (new.filter fun e => p e && m < position e) = [] := by
    refine List.filter_eq_nil_iff.mpr fun e he hselected => ?_
    have hp : p e = true := (Bool.and_eq_true _ _ ▸ hselected).1
    have hpast : e ∈ l'.after p n := by
      refine mem_after.mpr ⟨?_, hp, lt_of_le_of_lt hn (hnew e he)⟩
      rw [hentries]
      exact List.mem_append_right _ he
    rw [hcurrent] at hpast
    exact absurd hpast (by simp)
  unfold after
  rw [hentries, List.filter_append, hnone, List.append_nil]

end EventLog
