import CreditHedge.Lib.WhileLoops
import Mathlib.Data.Finset.Card
import Mathlib.Data.List.Nodup

/-!
# Following cursors

A source answers a cursor with a page and, unless that is the last, with the cursor of the next.
From one cursor it leads through others (`Leads`), and over finitely many cursors there are three
ways for that to go on: a last page, a failure, or a cursor that was named before (`exists_halt`).
The three exclude each other, because a source that comes to an end has named no cursor twice
(`Leads.nodup_of_final`).

A reader asks for page after page. What it owes is `Honest`: a request for each cursor and one for
the start, all pages if there is a last one, an error if there is a cycle. A reader that remembers
the cursors it was given owes and pays (`paginates_guarded_iff`); one that does not remember them
pays exactly where there is no cycle (`paginates_unguarded_iff`).
-/

set_option autoImplicit false

namespace Cursors

open WhileLoop

variable {κ π ε α : Type*}

/-! ## Chains -/

/-- The source leads from one cursor to another, over these cursors and with these pages. -/
inductive Leads (ask : κ → Except ε (π × Option κ)) : κ → List κ → List π → κ → Prop
  | here (c : κ) : Leads ask c [] [] c
  | next {c c' d : κ} {p : π} {cs : List κ} {ps : List π} :
    ask c = .ok (p, some c') → Leads ask c' cs ps d → Leads ask c (c' :: cs) (p :: ps) d

/-- No cursor is named here. -/
def Final (ask : κ → Except ε (π × Option κ)) (d : κ) : Prop :=
  ∀ p c', ask d ≠ .ok (p, some c')

/-- The chain has a last page, and these are all. -/
def Ends (ask : κ → Except ε (π × Option κ)) (c : κ) (pages : List π) : Prop :=
  ∃ cs ps d p, Leads ask c cs ps d ∧ ask d = .ok (p, none) ∧ pages = ps ++ [p]

/-- The chain names a cursor again. -/
def Cycles (ask : κ → Except ε (π × Option κ)) (c : κ) : Prop :=
  ∃ cs ps d, Leads ask c cs ps d ∧ ¬ cs.Nodup

section Chains

variable {ask : κ → Except ε (π × Option κ)} {c c' d d' : κ} {p : π} {cs cs' : List κ}
  {ps ps' : List π}

theorem final_of_last (h : ask d = .ok (p, none)) : Final ask d := by
  intro p' c' h'
  rw [h] at h'
  cases h'

theorem final_of_error {e : ε} (h : ask d = .error e) : Final ask d := by
  intro p' c' h'
  rw [h] at h'
  cases h'

theorem Leads.snoc (h : Leads ask c cs ps d) (hnext : ask d = .ok (p, some c')) :
    Leads ask c (cs ++ [c']) (ps ++ [p]) c' := by
  induction h with
  | here c => exact .next hnext (.here c')
  | next hask _ ih => exact .next hask (ih hnext)

/-- From a cursor on the way the source leads to the same end. -/
theorem Leads.from_mem (h : Leads ask c cs ps d) (hmem : c' ∈ cs) :
    ∃ before after ps', cs = before ++ c' :: after ∧ Leads ask c' after ps' d := by
  induction h with
  | here c => cases hmem
  | next hask hrest ih =>
    rcases List.mem_cons.mp hmem with rfl | hmem
    · exact ⟨[], _, _, rfl, hrest⟩
    · obtain ⟨before, after, ps', rfl, hlead⟩ := ih hmem
      exact ⟨_ :: before, after, ps', rfl, hlead⟩

/-- Nothing leads past an end. -/
theorem Leads.isPrefix (h : Leads ask c cs ps d) (hd : Final ask d) (h' : Leads ask c cs' ps' d') :
    cs' <+: cs := by
  induction h generalizing cs' ps' with
  | here c =>
    cases h' with
    | here => exact List.prefix_rfl
    | next hask _ => exact absurd hask (hd _ _)
  | next hask _ ih =>
    cases h' with
    | here => exact List.nil_prefix
    | next hask' hrest' =>
      rw [hask] at hask'
      cases hask'
      exact List.cons_prefix_cons.mpr ⟨rfl, ih hd hrest'⟩

/-- A source has one end. -/
theorem Leads.unique (h : Leads ask c cs ps d) (hd : Final ask d) (h' : Leads ask c cs' ps' d')
    (hd' : Final ask d') : cs = cs' ∧ ps = ps' ∧ d = d' := by
  induction h generalizing cs' ps' with
  | here c =>
    cases h' with
    | here => exact ⟨rfl, rfl, rfl⟩
    | next hask _ => exact absurd hask (hd _ _)
  | next hask _ ih =>
    cases h' with
    | here => exact absurd hask (hd' _ _)
    | next hask' hrest' =>
      rw [hask] at hask'
      cases hask'
      obtain ⟨rfl, rfl, rfl⟩ := ih hd hrest'
      exact ⟨rfl, rfl, rfl⟩

theorem Leads.nodup_of_final (h : Leads ask c cs ps d) (hd : Final ask d) : cs.Nodup := by
  induction h with
  | here c => exact List.nodup_nil
  | next hask hrest ih =>
    refine List.nodup_cons.mpr ⟨fun hmem => ?_, ih hd⟩
    -- the rest of the chain would be as long as a part of it
    obtain ⟨before, after, ps', hsplit, hlead⟩ := hrest.from_mem hmem
    obtain ⟨rfl, -, -⟩ := hrest.unique hd hlead hd
    have hlength := congrArg List.length hsplit
    rw [List.length_append, List.length_cons] at hlength
    omega

theorem not_cycles_of_final (h : Leads ask c cs ps d) (hd : Final ask d) : ¬ Cycles ask c := by
  rintro ⟨cs', ps', d', h', hdup⟩
  exact hdup ((h.isPrefix hd h').sublist.nodup (h.nodup_of_final hd))

theorem cycles_of_mem (h : Leads ask c cs ps d) (hnext : ask d = .ok (p, some c'))
    (hmem : c' ∈ cs) : Cycles ask c := by
  refine ⟨_, _, _, h.snoc hnext, fun hnodup => ?_⟩
  exact (List.nodup_append.mp hnodup).2.2 c' hmem c' (List.mem_singleton.mpr rfl) rfl

/-- Over finitely many cursors every chain comes to an end, to a failure, or back to itself. -/
theorem exists_halt {named : Finset κ}
    (hnamed : ∀ cs ps d, Leads ask c cs ps d → ∀ c' ∈ cs, c' ∈ named) :
    ∃ cs ps d, Leads ask c cs ps d ∧ cs.Nodup ∧ ∀ p c', ask d = .ok (p, some c') → c' ∈ cs := by
  by_contra hnone
  push Not at hnone
  have hlong : ∀ n, ∃ cs ps d, Leads ask c cs ps d ∧ cs.Nodup ∧ cs.length = n := by
    intro n
    induction n with
    | zero => exact ⟨[], [], c, .here c, List.nodup_nil, rfl⟩
    | succ n ih =>
      obtain ⟨cs, ps, d, hlead, hnodup, rfl⟩ := ih
      obtain ⟨p, c', hnext, hnew⟩ := hnone cs ps d hlead hnodup
      refine ⟨_, _, _, hlead.snoc hnext, ?_, List.length_append⟩
      exact List.nodup_append.mpr ⟨hnodup, List.nodup_singleton c', by
        rintro x hx y hy rfl
        exact hnew (List.mem_singleton.mp hy ▸ hx)⟩
  classical
  obtain ⟨cs, ps, d, hlead, hnodup, hlength⟩ := hlong (named.card + 1)
  have hle := Finset.card_le_card (s := cs.toFinset) (t := named)
    fun x hx => hnamed cs ps d hlead x (List.mem_toFinset.mp hx)
  rw [List.toFinset_card_of_nodup hnodup] at hle
  omega

/-- A source that answers where another does, and may go on where that ends. -/
theorem Leads.widen {ask' : κ → Except ε (π × Option κ)}
    (hwide : ∀ c p c', ask c = .ok (p, some c') → ask' c = .ok (p, some c'))
    (h : Leads ask c cs ps d) : Leads ask' c cs ps d := by
  induction h with
  | here c => exact .here c
  | next hask _ ih => exact .next (hwide _ _ _ hask) ih

end Chains

/-! ## Readers -/

/-- Where a reader is. -/
structure Walk (κ π : Type*) where
  cursor : κ
  pages : List π
  /-- The cursors it was given, the last one first. -/
  seen : List κ

/-- One request, and the check of the cursor it was given. -/
def follow (ask : κ → Except ε (π × Option κ)) (accept : List κ → κ → Except ε Unit)
    (w : Walk κ π) : Except ε (Walk κ π ⊕ List π) :=
  match ask w.cursor with
  | .error e => .error e
  | .ok (page, none) => .ok (.inr (w.pages ++ [page]))
  | .ok (page, some c) =>
    match accept w.seen c with
    | .error e => .error e
    | .ok () => .ok (.inl ⟨c, w.pages ++ [page], c :: w.seen⟩)

/-- The cursors a reader asked for, and what it came to. -/
def read (ask : κ → Except ε (π × Option κ)) (accept : List κ → κ → Except ε Unit) (fuel : ℕ)
    (w : Walk κ π) : Option (List κ × Except ε (List π)) :=
  (rounds (follow ask accept) fuel w).map fun r => (r.1.map Walk.cursor, r.2)

/-- Every cursor is asked for. -/
def acceptAll (_ : List κ) (_ : κ) : Except ε Unit := .ok ()

/-- A cursor that was given before is refused. -/
def refuseSeen [DecidableEq κ] (e : ε) (seen : List κ) (c : κ) : Except ε Unit :=
  if c ∈ seen then .error e else .ok ()

/-- None of these cursors is refused, one after the other. -/
def Accepted (accept : List κ → κ → Except ε Unit) : List κ → List κ → Prop
  | _, [] => True
  | seen, c :: cs => accept seen c = .ok () ∧ Accepted accept (c :: seen) cs

section Readers

variable {ask : κ → Except ε (π × Option κ)} {accept : List κ → κ → Except ε Unit} {c c' d : κ}
  {p : π} {cs seen : List κ} {ps pages : List π} {fuel : ℕ}

theorem follow_error {w : Walk κ π} {e : ε} (h : ask w.cursor = .error e) :
    follow ask accept w = .error e := by
  simp [follow, h]

theorem follow_last {w : Walk κ π} (h : ask w.cursor = .ok (p, none)) :
    follow ask accept w = .ok (.inr (w.pages ++ [p])) := by
  simp [follow, h]

theorem follow_refused {w : Walk κ π} {e : ε} (h : ask w.cursor = .ok (p, some c))
    (hrefused : accept w.seen c = .error e) : follow ask accept w = .error e := by
  simp [follow, h, hrefused]

theorem follow_next {w : Walk κ π} (h : ask w.cursor = .ok (p, some c))
    (haccepted : accept w.seen c = .ok ()) :
    follow ask accept w = .ok (.inl ⟨c, w.pages ++ [p], c :: w.seen⟩) := by
  simp [follow, h, haccepted]

theorem accepted_acceptAll : Accepted (acceptAll : List κ → κ → Except ε Unit) seen cs := by
  induction cs generalizing seen with
  | nil => exact trivial
  | cons c cs ih => exact ⟨rfl, ih⟩

theorem accepted_refuseSeen [DecidableEq κ] {e : ε} (hnodup : cs.Nodup)
    (hnew : ∀ c ∈ cs, c ∉ seen) : Accepted (refuseSeen e) seen cs := by
  induction cs generalizing seen with
  | nil => exact trivial
  | cons c cs ih =>
    rw [List.nodup_cons] at hnodup
    refine ⟨if_neg (hnew c List.mem_cons_self), ih hnodup.2 fun c' hc' => ?_⟩
    rw [List.mem_cons, not_or]
    refine ⟨?_, hnew c' (List.mem_cons_of_mem c hc')⟩
    rintro rfl
    exact hnodup.1 hc'

/-- A reader goes where the source leads, and ends there if the round there ends it. -/
theorem Leads.read_eq {outcome : Except ε (List π)} (h : Leads ask c cs ps d)
    (haccepted : Accepted accept seen cs)
    (hlast : follow ask accept ⟨d, pages ++ ps, cs.reverse ++ seen⟩ = outcome.map Sum.inr) :
    read ask accept (cs.length + 1) ⟨c, pages, seen⟩ = some (c :: cs, outcome) := by
  unfold read
  induction h generalizing pages seen with
  | here c =>
    simp only [List.append_nil, List.reverse_nil, List.nil_append] at hlast
    rw [List.length_nil, rounds_of_stop hlast]
    rfl
  | @next c c' d p cs ps hask hrest ih =>
    have hround : follow ask accept ⟨c, pages, seen⟩ = .ok (.inl ⟨c', pages ++ [p], c' :: seen⟩) :=
      follow_next hask haccepted.1
    have hthere : follow ask accept ⟨d, (pages ++ [p]) ++ ps, cs.reverse ++ (c' :: seen)⟩ =
        outcome.map Sum.inr := by
      simpa using hlast
    have hgoes := ih haccepted.2 hthere
    rw [List.length_cons, rounds_of_next hround, Option.map_map]
    obtain ⟨r, hr, hlists⟩ := Option.map_eq_some_iff.mp hgoes
    rw [hr, Option.map_some]
    have hasked := congrArg Prod.fst hlists
    have houtcome := congrArg Prod.snd hlists
    simp only at hasked houtcome
    simp [hasked, houtcome]

/-- However a reader ends, it has asked for all cursors it was led to and not refused. -/
theorem Leads.length_lt_of_read {asked : List κ} {outcome : Except ε (List π)}
    (h : Leads ask c cs ps d) (haccepted : Accepted accept seen cs)
    (hread : read ask accept fuel ⟨c, pages, seen⟩ = some (asked, outcome)) :
    cs.length < asked.length := by
  unfold read at hread
  induction h generalizing pages seen fuel asked with
  | here c =>
    obtain ⟨r, hr, heq⟩ := Option.map_eq_some_iff.mp hread
    cases fuel with
    | zero => cases hr
    | succ fuel =>
      have hasked : asked = r.1.map Walk.cursor := (congrArg Prod.fst heq).symm
      rw [hasked, List.length_map, List.length_nil]
      unfold rounds at hr
      split at hr
      · cases hr
        simp
      · cases hr
        simp
      · obtain ⟨q, -, rfl⟩ := Option.map_eq_some_iff.mp hr
        simp
  | @next c c' d p cs ps hask hrest ih =>
    have hround : follow ask accept ⟨c, pages, seen⟩ = .ok (.inl ⟨c', pages ++ [p], c' :: seen⟩) :=
      follow_next hask haccepted.1
    cases fuel with
    | zero => cases hread
    | succ fuel =>
      rw [rounds_of_next hround, Option.map_map] at hread
      obtain ⟨r, hr, heq⟩ := Option.map_eq_some_iff.mp hread
      have houtcome : r.2 = outcome := congrArg Prod.snd heq
      have hrest' : (rounds (follow ask accept) fuel ⟨c', pages ++ [p], c' :: seen⟩).map
          (fun r => (r.1.map Walk.cursor, r.2)) = some (r.1.map Walk.cursor, outcome) := by
        rw [hr, ← houtcome]
        rfl
      have hlt := ih haccepted.2 hrest'
      have hasked : asked = c :: r.1.map Walk.cursor := (congrArg Prod.fst heq).symm
      rw [hasked, List.length_cons, List.length_cons]
      omega

/-- A reader that refuses nothing ends only where the source does. -/
theorem exists_final_of_read {w : Walk κ π} {r : List κ × Except ε (List π)}
    (h : read ask acceptAll fuel w = some r) :
    ∃ cs ps d, Leads ask w.cursor cs ps d ∧ Final ask d := by
  induction fuel generalizing w r with
  | zero => cases h
  | succ fuel ih =>
    cases hask : ask w.cursor with
    | error e => exact ⟨[], [], w.cursor, .here _, final_of_error hask⟩
    | ok answer =>
      obtain ⟨p, _ | c⟩ := answer
      · exact ⟨[], [], w.cursor, .here _, final_of_last hask⟩
      · have hround : follow ask acceptAll w = .ok (.inl ⟨c, w.pages ++ [p], c :: w.seen⟩) :=
          follow_next hask rfl
        rw [read, rounds_of_next hround, Option.map_map] at h
        obtain ⟨q, hq, -⟩ := Option.map_eq_some_iff.mp h
        have hrest : read ask acceptAll fuel ⟨c, w.pages ++ [p], c :: w.seen⟩ =
            some (q.1.map Walk.cursor, q.2) := by
          rw [read, hq]
          rfl
        obtain ⟨cs, ps, d, hlead, hfinal⟩ := ih hrest
        exact ⟨c :: cs, p :: ps, d, .next hask hlead, hfinal⟩

end Readers

/-! ## What a reader owes -/

/-- A request for each cursor and one for the start; what `finish` makes of all pages if there is a
    last one; an error if the chain cycles. -/
structure Honest (ask : κ → Except ε (π × Option κ)) (start : κ) (finish : List π → Except ε α)
    (asked : List κ) (outcome : Except ε α) : Prop where
  bounded : ∀ named : Finset κ, (∀ cs ps d, Leads ask start cs ps d → ∀ c ∈ cs, c ∈ named) →
    asked.length ≤ named.card + 1
  complete : ∀ pages, Ends ask start pages → outcome = finish pages
  refuses : Cycles ask start → ∃ e, outcome = .error e

/-- Some number of rounds is enough, and what comes of them is honest. -/
def Paginates (ask : κ → Except ε (π × Option κ)) (start : κ) (finish : List π → Except ε α)
    (client : ℕ → Option (List κ × Except ε α)) : Prop :=
  ∃ fuel asked outcome, client fuel = some (asked, outcome) ∧
    Honest ask start finish asked outcome

/-- A reader from the start, and what it makes of the pages. -/
def reader (ask : κ → Except ε (π × Option κ)) (accept : List κ → κ → Except ε Unit) (start : κ)
    (finish : List π → Except ε α) (fuel : ℕ) : Option (List κ × Except ε α) :=
  (read ask accept fuel ⟨start, [], []⟩).map fun r => (r.1, r.2.bind finish)

section Owed

variable {ask ask' : κ → Except ε (π × Option κ)} {start c d : κ} {p : π} {cs : List κ}
  {ps : List π} {named : Finset κ} {e : ε} {finish : List π → Except ε α}

theorem length_le_of_nodup (hlead : Leads ask start cs ps d) (hnodup : cs.Nodup)
    (hnamed : ∀ cs ps d, Leads ask start cs ps d → ∀ c ∈ cs, c ∈ named) :
    (start :: cs).length ≤ named.card + 1 := by
  classical
  have hle := Finset.card_le_card (s := cs.toFinset) (t := named)
    fun x hx => hnamed cs ps d hlead x (List.mem_toFinset.mp hx)
  rw [List.toFinset_card_of_nodup hnodup] at hle
  exact Nat.succ_le_succ hle

theorem honest_error (hlead : Leads ask start cs ps d) (hd : ask d = .error e) :
    Honest ask start finish (start :: cs) (.error e) where
  bounded named hnamed := length_le_of_nodup hlead (hlead.nodup_of_final (final_of_error hd)) hnamed
  complete := by
    rintro pages ⟨cs', ps', d', p, hlead', hlast, -⟩
    obtain ⟨-, -, rfl⟩ := hlead.unique (final_of_error hd) hlead' (final_of_last hlast)
    rw [hd] at hlast
    cases hlast
  refuses _ := ⟨e, rfl⟩

theorem honest_last (hlead : Leads ask start cs ps d) (hd : ask d = .ok (p, none)) :
    Honest ask start finish (start :: cs) (finish (ps ++ [p])) where
  bounded named hnamed := length_le_of_nodup hlead (hlead.nodup_of_final (final_of_last hd)) hnamed
  complete := by
    rintro pages ⟨cs', ps', d', p', hlead', hlast, rfl⟩
    obtain ⟨-, rfl, rfl⟩ := hlead.unique (final_of_last hd) hlead' (final_of_last hlast)
    rw [hd] at hlast
    cases hlast
    rfl
  refuses hcycles := absurd hcycles (not_cycles_of_final hlead (final_of_last hd))

theorem honest_cycle (hlead : Leads ask start cs ps d) (hnodup : cs.Nodup)
    (hd : ask d = .ok (p, some c)) (hmem : c ∈ cs) :
    Honest ask start finish (start :: cs) (.error e) where
  bounded named hnamed := length_le_of_nodup hlead hnodup hnamed
  complete := by
    rintro pages ⟨cs', ps', d', p', hlead', hlast, -⟩
    exact absurd (cycles_of_mem hlead hd hmem) (not_cycles_of_final hlead' (final_of_last hlast))
  refuses _ := ⟨e, rfl⟩

/-- A reader that the source leads to where its round ends. -/
theorem reader_eq {accept : List κ → κ → Except ε Unit} {outcome : Except ε (List π)}
    (hlead : Leads ask start cs ps d) (haccepted : Accepted accept [] cs)
    (hlast : follow ask accept ⟨d, ps, cs.reverse⟩ = outcome.map Sum.inr) :
    reader ask accept start finish (cs.length + 1) = some (start :: cs, outcome.bind finish) := by
  have hthere : follow ask accept ⟨d, [] ++ ps, cs.reverse ++ []⟩ = outcome.map Sum.inr := by
    simpa using hlast
  rw [reader, hlead.read_eq haccepted hthere]
  rfl

theorem reader_unique {accept : List κ → κ → Except ε Unit} {fuel fuel' : ℕ}
    {r r' : List κ × Except ε α} (h : reader ask accept start finish fuel = some r)
    (h' : reader ask accept start finish fuel' = some r') : r = r' := by
  obtain ⟨q, hq, rfl⟩ := Option.map_eq_some_iff.mp h
  obtain ⟨q', hq', rfl⟩ := Option.map_eq_some_iff.mp h'
  obtain ⟨x, hx, rfl⟩ := Option.map_eq_some_iff.mp hq
  obtain ⟨x', hx', rfl⟩ := Option.map_eq_some_iff.mp hq'
  rw [rounds_unique hx hx']

/-- A loop whose rounds are those of a reader, with a state of its own. -/
theorem rounds_eq_reader {σ : Type*} {accept : List κ → κ → Except ε Unit} {β : Type*}
    {body : σ → Except ε (σ ⊕ β)} {R : Walk κ π → σ → Prop} {g : List π → β} {see : σ → κ}
    (hbody : ∀ w s, R w s → Related R g (follow ask accept w) (body s))
    (hsee : ∀ w s, R w s → see s = w.cursor) {s : σ} (h : R ⟨start, [], []⟩ s) (fuel : ℕ) :
    (rounds body fuel s).map (fun r => (r.1.map see, r.2)) =
      reader ask accept start (fun pages => .ok (g pages)) fuel := by
  rw [rounds_related hbody hsee h fuel, reader, read, Option.map_map]
  rfl

/-- What follows a reading that did not raise. -/
theorem reader_bind {accept : List κ → κ → Except ε Unit} {β : Type*} (g : List π → β)
    (f : β → Except ε α) (fuel : ℕ) :
    (reader ask accept start (fun pages => .ok (g pages)) fuel).map
        (fun r => (r.1, r.2.bind f)) =
      reader ask accept start (fun pages => f (g pages)) fuel := by
  rw [reader, reader, Option.map_map]
  congr 1
  funext r
  obtain ⟨asked, outcome⟩ := r
  cases outcome <;> rfl

/-- A reader that takes every cursor never ends where the chain cycles. -/
theorem reader_eq_none_of_cycles (h : Cycles ask start) (fuel : ℕ) :
    reader ask acceptAll start finish fuel = none := by
  cases hread : read ask acceptAll fuel ⟨start, [], []⟩ with
  | none => rw [reader, hread, Option.map_none]
  | some r =>
    obtain ⟨cs, ps, d, hlead, hfinal⟩ := exists_final_of_read hread
    exact absurd h (not_cycles_of_final hlead hfinal)

/-- A reader that takes every cursor reads the chains that do not cycle, and no others. -/
theorem paginates_unguarded_iff
    (hnamed : ∀ cs ps d, Leads ask start cs ps d → ∀ c ∈ cs, c ∈ named) :
    Paginates ask start finish (reader ask acceptAll start finish) ↔ ¬ Cycles ask start := by
  constructor
  · rintro ⟨fuel, asked, outcome, hread, -⟩ hcycles
    rw [reader_eq_none_of_cycles hcycles] at hread
    cases hread
  · intro hcycles
    obtain ⟨cs, ps, d, hlead, -, hlast⟩ := exists_halt hnamed
    refine ⟨cs.length + 1, start :: cs, ?_⟩
    cases hd : ask d with
    | error e =>
      have hround : follow ask acceptAll ⟨d, ps, cs.reverse⟩ =
          (Except.error e : Except ε (List π)).map Sum.inr := follow_error hd
      exact ⟨_, reader_eq hlead accepted_acceptAll hround, honest_error hlead hd⟩
    | ok answer =>
      obtain ⟨p, _ | c⟩ := answer
      · have hround : follow ask acceptAll ⟨d, ps, cs.reverse⟩ =
            (Except.ok (ps ++ [p]) : Except ε (List π)).map Sum.inr := follow_last hd
        exact ⟨_, reader_eq hlead accepted_acceptAll hround, honest_last hlead hd⟩
      · exact absurd (cycles_of_mem hlead hd (hlast p c hd)) hcycles

/-- A reader that refuses a cursor it was given before pays what it owes to a source it reads right.
    Reading on past the last page it does not: it would make one request more than there are
    cursors, or refuse. -/
theorem paginates_guarded_iff [DecidableEq κ]
    (hnamed : ∀ cs ps d, Leads ask start cs ps d → ∀ c ∈ cs, c ∈ named)
    (hwide : ∀ c, ask' c = ask c ∨
      ∃ p c', ask c = .ok (p, none) ∧ ask' c = .ok (p, some c'))
    (hfinish : ∀ pages, ∃ a, finish pages = .ok a) :
    Paginates ask start finish (reader ask' (refuseSeen e) start finish) ↔
      ∀ cs ps d, Leads ask start cs ps d → ask' d = ask d := by
  have hnext : ∀ c p c', ask c = .ok (p, some c') → ask' c = .ok (p, some c') := by
    intro c p c' hask
    rcases hwide c with hsame | ⟨p', c'', hnone, -⟩
    · rw [hsame, hask]
    · rw [hask] at hnone
      cases hnone
  constructor
  · rintro ⟨fuel, asked, outcome, hread, honest⟩ cs ps d hlead
    by_contra hne
    obtain ⟨p, c', hd, hd'⟩ := (hwide d).resolve_left hne
    have hnodup := hlead.nodup_of_final (final_of_last hd)
    have hlead' := hlead.widen hnext
    by_cases hmem : c' ∈ cs
    · have hround : follow ask' (refuseSeen e) ⟨d, ps, cs.reverse⟩ =
          (Except.error e : Except ε (List π)).map Sum.inr :=
        follow_refused hd' (if_pos (List.mem_reverse.mpr hmem))
      have hrefused := reader_unique hread
        (reader_eq hlead' (accepted_refuseSeen hnodup (by simp)) hround)
      obtain ⟨a, ha⟩ := hfinish (ps ++ [p])
      have hcomplete := honest.complete _ ⟨cs, ps, d, p, hlead, hd, rfl⟩
      rw [ha, (Prod.mk.inj hrefused).2] at hcomplete
      cases hcomplete
    · have hnodup' : (cs ++ [c']).Nodup :=
        List.nodup_append.mpr ⟨hnodup, List.nodup_singleton c', by
          rintro x hx y hy rfl
          exact hmem (List.mem_singleton.mp hy ▸ hx)⟩
      obtain ⟨q, hq, hasked⟩ := Option.map_eq_some_iff.mp hread
      have hlong := (hlead'.snoc hd').length_lt_of_read
        (accepted_refuseSeen hnodup' (by simp)) hq
      have hshort := honest.bounded cs.toFinset fun cs' ps' d' h' c hc =>
        List.mem_toFinset.mpr ((hlead.isPrefix (final_of_last hd) h').subset hc)
      have hcard := List.toFinset_card_le cs
      rw [List.length_append, List.length_singleton] at hlong
      rw [← (Prod.mk.inj hasked).1] at hshort
      omega
  · intro hsame
    obtain ⟨cs, ps, d, hlead, hnodup, hlast⟩ := exists_halt hnamed
    have hlead' := hlead.widen hnext
    have haccepted : Accepted (refuseSeen e) [] cs := accepted_refuseSeen hnodup (by simp)
    refine ⟨cs.length + 1, start :: cs, ?_⟩
    cases hd : ask d with
    | error e' =>
      have hround : follow ask' (refuseSeen e) ⟨d, ps, cs.reverse⟩ =
          (Except.error e' : Except ε (List π)).map Sum.inr :=
        follow_error ((hsame cs ps d hlead).trans hd)
      exact ⟨_, reader_eq hlead' haccepted hround, honest_error hlead hd⟩
    | ok answer =>
      obtain ⟨p, _ | c⟩ := answer
      · have hround : follow ask' (refuseSeen e) ⟨d, ps, cs.reverse⟩ =
            (Except.ok (ps ++ [p]) : Except ε (List π)).map Sum.inr :=
          follow_last ((hsame cs ps d hlead).trans hd)
        exact ⟨_, reader_eq hlead' haccepted hround, honest_last hlead hd⟩
      · have hmem := hlast p c hd
        have hround : follow ask' (refuseSeen e) ⟨d, ps, cs.reverse⟩ =
            (Except.error e : Except ε (List π)).map Sum.inr :=
          follow_refused ((hsame cs ps d hlead).trans hd) (if_pos (List.mem_reverse.mpr hmem))
        exact ⟨_, reader_eq hlead' haccepted hround, honest_cycle hlead hnodup hd hmem⟩

end Owed

end Cursors
