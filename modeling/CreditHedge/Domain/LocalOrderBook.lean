import CreditHedge.Domain.MarketEvents
import CreditHedge.Lib.Dicts
import Mathlib.Data.List.Chain
import Mathlib.Data.List.Induction
import Mathlib.Logic.Function.Basic

/-!
# The local order book

`LocalOrderBook` of `domain/market_data.py`: a copy of the exchange's book, started from a snapshot
and carried on by deltas. Three checks stand between a delta and the book, its generation, its
update id and its sequence, and one that fails the last two leaves the book unsynchronized.

What the book is for is said with the events it has accepted: while it is synchronized it is the
last snapshot among them, carried on by the deltas after it (`local_order_book_folds`). A side is a
dictionary in the code and a partial function from prices to sizes in that statement; the two agree
level by level (`sizes_applyLevels`).
-/

set_option autoImplicit false

namespace CreditHedge

/-- One side of the book, a size under each price. -/
abbrev BookSide := KeyedTable (Prod.fst : BookLevel → ℚ)

structure LocalOrderBook where
  symbol : String
  bids : BookSide := .empty
  asks : BookSide := .empty
  updateId : Option ℤ := none
  sequence : Option ℤ := none
  timestampUtc : Option Time := none
  connectionGeneration : ℤ := 0
  synchronized : Bool := false

namespace LocalOrderBook

/-- `LocalOrderBook.__init__`. -/
def create (symbol : String) : Except Failure LocalOrderBook := do
  requireText symbol "symbol"
  pure { symbol }

/-- `{price: size for price, size in levels if size > ZERO}`. -/
def positiveLevels (levels : List BookLevel) : BookSide :=
  (levels.filter fun level => 0 < level.2).foldl .upsert .empty

/-- One level of `_apply_levels`. -/
def applyLevel (side : BookSide) (level : BookLevel) : BookSide :=
  if level.2 = 0 then side.erase level.1 else side.upsert level

/-- `_apply_levels`. -/
def applyLevels (side : BookSide) (levels : List BookLevel) : BookSide :=
  levels.foldl applyLevel side

/-- `_validate_symbol`. -/
def validateSymbol (book : LocalOrderBook) (symbol : String) : Except Failure Unit :=
  refuseIf (symbol ≠ book.symbol) "order book event symbol does not match local book"

def applySnapshot (book : LocalOrderBook) (event : OrderBookSnapshot) : Bool × LocalOrderBook :=
  if event.connectionGeneration < book.connectionGeneration then (false, book)
  else
    (true,
      { book with
        bids := positiveLevels event.bids
        asks := positiveLevels event.asks
        updateId := some event.updateId
        sequence := some event.sequence
        timestampUtc := some event.timestampUtc
        connectionGeneration := event.connectionGeneration
        synchronized := true })

def markUnsynchronized (book : LocalOrderBook) : LocalOrderBook :=
  { book with synchronized := false }

def applyDelta (book : LocalOrderBook) (event : OrderBookDelta) : Bool × LocalOrderBook :=
  if event.connectionGeneration < book.connectionGeneration then (false, book)
  else if book.connectionGeneration < event.connectionGeneration then
    (false, book.markUnsynchronized)
  else if ¬ book.synchronized then (false, book)
  else
    match book.updateId, book.sequence with
    | some updateId, some sequence =>
      if event.updateId ≠ updateId + 1 ∨ event.sequence ≤ sequence then
        (false, book.markUnsynchronized)
      else
        (true,
          { book with
            bids := applyLevels book.bids event.bids
            asks := applyLevels book.asks event.asks
            updateId := some event.updateId
            sequence := some event.sequence
            timestampUtc := some event.timestampUtc })
    | _, _ => (false, book)

end LocalOrderBook

/-- What can happen to a book. -/
inductive BookEvent where
  | snapshot (event : OrderBookSnapshot)
  | delta (event : OrderBookDelta)
  | unsynchronized

namespace LocalOrderBook

/-- What an event comes to, if it is about the book's symbol. -/
def validated (book : LocalOrderBook) (symbol : String) (outcome : Bool × LocalOrderBook) :
    Except Failure Bool × LocalOrderBook :=
  match book.validateSymbol symbol with
  | .ok () => (.ok outcome.1, outcome.2)
  | .error failure => (.error failure, book)

/-- `apply_snapshot`, `apply_delta` or `mark_unsynchronized`: whether an event was accepted, unless
    it was refused with an exception, and the book after it. -/
def handle (book : LocalOrderBook) : BookEvent → Except Failure Bool × LocalOrderBook
  | .snapshot event => book.validated event.symbol (book.applySnapshot event)
  | .delta event => book.validated event.symbol (book.applyDelta event)
  | .unsynchronized => (.ok false, book.markUnsynchronized)

def after (book : LocalOrderBook) (events : List BookEvent) : LocalOrderBook :=
  events.foldl (fun book event => (book.handle event).2) book

/-- The book takes the event on. -/
def Accepts (book : LocalOrderBook) (event : BookEvent) : Prop := (book.handle event).1 = .ok true

instance (book : LocalOrderBook) (event : BookEvent) : Decidable (book.Accepts event) :=
  inferInstanceAs (Decidable ((book.handle event).1 = _))

/-- The events of a run that are accepted. -/
def accepted : LocalOrderBook → List BookEvent → List BookEvent
  | _, [] => []
  | book, event :: events =>
    if book.Accepts event then event :: accepted (book.handle event).2 events
    else accepted (book.handle event).2 events

/-! ## Sides as functions -/

/-- The size at each price that has one. -/
def sizes (side : BookSide) (price : ℚ) : Option ℚ := (side.find price).map Prod.snd

/-- A level of a snapshot counts if it has a size. -/
def addLevel (sizes : ℚ → Option ℚ) (level : BookLevel) : ℚ → Option ℚ :=
  if 0 < level.2 then Function.update sizes level.1 (some level.2) else sizes

/-- The sizes of a snapshot, the last level at a price deciding. -/
def sizesOf (levels : List BookLevel) : ℚ → Option ℚ := levels.foldl addLevel fun _ => none

/-- A level of a delta is the new size at its price, or its end. -/
def reviseLevel (sizes : ℚ → Option ℚ) (level : BookLevel) : ℚ → Option ℚ :=
  Function.update sizes level.1 (if level.2 = 0 then none else some level.2)

/-- The sizes, revised by the levels of a delta one after the other. -/
def revise (sizes : ℚ → Option ℚ) (levels : List BookLevel) : ℚ → Option ℚ :=
  levels.foldl reviseLevel sizes

theorem sizes_upsert (side : BookSide) (level : BookLevel) :
    sizes (side.upsert level) = Function.update (sizes side) level.1 (some level.2) := by
  funext price
  unfold sizes
  rw [KeyedTable.find_upsert, Function.update_apply]
  split <;> rfl

theorem sizes_erase (side : BookSide) (price : ℚ) :
    sizes (side.erase price) = Function.update (sizes side) price none := by
  funext price'
  unfold sizes
  rw [KeyedTable.find_erase, Function.update_apply]
  split <;> rfl

theorem sizes_positiveLevels (levels : List BookLevel) :
    sizes (positiveLevels levels) = sizesOf levels := by
  have hfrom : ∀ side : BookSide,
      sizes ((levels.filter fun level => 0 < level.2).foldl .upsert side) =
        levels.foldl addLevel (sizes side) := by
    induction levels with
    | nil => exact fun _ => rfl
    | cons level levels ih =>
      intro side
      rw [List.foldl_cons, addLevel]
      by_cases hpos : 0 < level.2
      · rw [List.filter_cons_of_pos (by simpa using hpos), List.foldl_cons, ih, if_pos hpos,
          sizes_upsert]
      · rw [List.filter_cons_of_neg (by simpa using hpos), ih, if_neg hpos]
  exact hfrom .empty

theorem sizes_applyLevel (side : BookSide) (level : BookLevel) :
    sizes (applyLevel side level) = reviseLevel (sizes side) level := by
  unfold applyLevel reviseLevel
  split
  · exact sizes_erase side level.1
  · exact sizes_upsert side level

theorem sizes_applyLevels (side : BookSide) (levels : List BookLevel) :
    sizes (applyLevels side levels) = revise (sizes side) levels := by
  induction levels generalizing side with
  | nil => rfl
  | cons level levels ih =>
    unfold applyLevels revise at ih ⊢
    rw [List.foldl_cons, List.foldl_cons, ih, sizes_applyLevel]

/-- A side without an empty level. -/
def PositiveSizes (sizes : ℚ → Option ℚ) : Prop := ∀ price, ∀ size ∈ sizes price, 0 < size

theorem PositiveSizes.update {sizes : ℚ → Option ℚ} (h : PositiveSizes sizes) {price : ℚ}
    {size : Option ℚ} (hsize : ∀ s ∈ size, 0 < s) :
    PositiveSizes (Function.update sizes price size) := by
  intro price' s hs
  rw [Function.update_apply] at hs
  split at hs
  · exact hsize s hs
  · exact h price' s hs

theorem positive_sizesOf (levels : List BookLevel) : PositiveSizes (sizesOf levels) := by
  have hfrom : ∀ sizes, PositiveSizes sizes → PositiveSizes (levels.foldl addLevel sizes) := by
    induction levels with
    | nil => exact fun _ h => h
    | cons level levels ih =>
      intro sizes h
      refine ih (addLevel sizes level) ?_
      unfold addLevel
      split
      · rename_i hpos
        exact h.update fun s hs => Option.some.inj hs ▸ hpos
      · exact h
  exact hfrom _ fun price size h => absurd h (by simp)

theorem PositiveSizes.revise {sizes : ℚ → Option ℚ} (h : PositiveSizes sizes)
    {levels : List BookLevel} (hlevels : ∀ level ∈ levels, 0 ≤ level.2) :
    PositiveSizes (revise sizes levels) := by
  induction levels generalizing sizes with
  | nil => exact h
  | cons level levels ih =>
    obtain ⟨hlevel, hrest⟩ := List.forall_mem_cons.mp hlevels
    have hrevised : PositiveSizes (reviseLevel sizes level) := by
      refine h.update fun s hs => ?_
      split at hs
      · exact absurd hs (by simp)
      · rename_i hne
        obtain rfl := Option.some.inj hs
        exact lt_of_le_of_ne hlevel (Ne.symm hne)
    exact ih hrevised hrest

/-! ## What the book is a fold of -/

/-- The next event of a book, as its sender numbers them. -/
structure Follows (e e' : BookFields) : Prop where
  updateId : e'.updateId = e.updateId + 1
  sequence : e.sequence < e'.sequence
  connectionGeneration : e'.connectionGeneration = e.connectionGeneration

/-- A snapshot and the deltas after it, as the events they are. -/
def eventsOf (s : OrderBookSnapshot) (ds : List OrderBookDelta) : List BookFields :=
  s.toBookFields :: ds.map OrderBookDelta.toBookFields

/-- The book is this snapshot, carried on by these deltas. -/
structure FoldOf (book : LocalOrderBook) (s : OrderBookSnapshot) (ds : List OrderBookDelta) :
    Prop where
  bids : sizes book.bids = ds.foldl (fun sizes d => revise sizes d.bids) (sizesOf s.bids)
  asks : sizes book.asks = ds.foldl (fun sizes d => revise sizes d.asks) (sizesOf s.asks)
  contiguous : (eventsOf s ds).IsChain Follows
  last : ∀ e ∈ (eventsOf s ds).getLast?, book.updateId = some e.updateId ∧
    book.sequence = some e.sequence ∧ book.timestampUtc = some e.timestampUtc ∧
    book.connectionGeneration = e.connectionGeneration
  positive : PositiveSizes (sizes book.bids) ∧ PositiveSizes (sizes book.asks)

/-- A rejected event leaves the levels, the numbers and the time. -/
structure Unchanged (book book' : LocalOrderBook) : Prop where
  symbol : book'.symbol = book.symbol
  bids : book'.bids = book.bids
  asks : book'.asks = book.asks
  updateId : book'.updateId = book.updateId
  sequence : book'.sequence = book.sequence
  timestampUtc : book'.timestampUtc = book.timestampUtc
  connectionGeneration : book'.connectionGeneration = book.connectionGeneration

/-- A gap, a delta out of order, a delta of a newer generation, or the order to give up. -/
def Breaks (book : LocalOrderBook) : BookEvent → Prop
  | .snapshot _ => False
  | .delta d => d.symbol = book.symbol ∧ (book.connectionGeneration < d.connectionGeneration ∨
      d.connectionGeneration = book.connectionGeneration ∧
        ∃ updateId sequence, book.updateId = some updateId ∧ book.sequence = some sequence ∧
          (d.updateId ≠ updateId + 1 ∨ d.sequence ≤ sequence))
  | .unsynchronized => True

variable {book : LocalOrderBook}

/-! ## One event -/

theorem unchanged_markUnsynchronized (book : LocalOrderBook) :
    Unchanged book book.markUnsynchronized :=
  ⟨rfl, rfl, rfl, rfl, rfl, rfl, rfl⟩

theorem Unchanged.refl (book : LocalOrderBook) : Unchanged book book :=
  ⟨rfl, rfl, rfl, rfl, rfl, rfl, rfl⟩

theorem validated_of_symbol {symbol : String} (h : symbol = book.symbol)
    (outcome : Bool × LocalOrderBook) :
    book.validated symbol outcome = (.ok outcome.1, outcome.2) := by
  unfold validated validateSymbol refuseIf
  rw [if_neg (not_not.mpr h)]

theorem validated_of_other {symbol : String} (h : symbol ≠ book.symbol)
    (outcome : Bool × LocalOrderBook) :
    (book.validated symbol outcome).2 = book ∧ (book.validated symbol outcome).1 ≠ .ok true := by
  unfold validated validateSymbol refuseIf
  rw [if_pos h]
  exact ⟨rfl, by simp⟩

/-- What becomes of a delta: it is taken on where it is next, or the levels stay. -/
theorem applyDelta_cases (book : LocalOrderBook) (d : OrderBookDelta) :
    ((book.applyDelta d).1 = false ∧ Unchanged book (book.applyDelta d).2 ∧
        ((book.applyDelta d).2.synchronized → book.synchronized)) ∨
      (book.applyDelta d).1 = true ∧ book.synchronized = true ∧
        d.connectionGeneration = book.connectionGeneration ∧
        (∃ updateId sequence, book.updateId = some updateId ∧ book.sequence = some sequence ∧
          d.updateId = updateId + 1 ∧ sequence < d.sequence) ∧
        (book.applyDelta d).2 =
          { book with
            bids := applyLevels book.bids d.bids
            asks := applyLevels book.asks d.asks
            updateId := some d.updateId
            sequence := some d.sequence
            timestampUtc := some d.timestampUtc } := by
  unfold applyDelta
  split
  · exact .inl ⟨rfl, .refl book, id⟩
  rename_i hnotOlder
  split
  · exact .inl ⟨rfl, unchanged_markUnsynchronized book, fun h => absurd h (by
      simp [markUnsynchronized])⟩
  rename_i hnotNewer
  split
  · exact .inl ⟨rfl, .refl book, id⟩
  rename_i hsynchronized
  split
  · rename_i updateId sequence hupdateId hsequence
    split
    · exact .inl ⟨rfl, unchanged_markUnsynchronized book, fun h => absurd h (by
        simp [markUnsynchronized])⟩
    · rename_i hnext
      rw [not_or, not_not, not_le] at hnext
      exact .inr ⟨rfl, not_not.mp hsynchronized, le_antisymm (not_lt.mp hnotNewer)
        (not_lt.mp hnotOlder), ⟨updateId, sequence, hupdateId, hsequence, hnext⟩, rfl⟩
  · exact .inl ⟨rfl, .refl book, id⟩

theorem accepts_snapshot {s : OrderBookSnapshot} : book.Accepts (.snapshot s) ↔
    s.symbol = book.symbol ∧ book.connectionGeneration ≤ s.connectionGeneration := by
  simp only [Accepts, handle]
  by_cases hsymbol : s.symbol = book.symbol
  · rw [validated_of_symbol hsymbol, applySnapshot]
    split
    · rename_i holder
      exact ⟨fun h => absurd h (by simp), fun h => absurd h.2 (not_le.mpr holder)⟩
    · rename_i hnotOlder
      exact ⟨fun _ => ⟨hsymbol, not_lt.mp hnotOlder⟩, fun _ => rfl⟩
  · exact ⟨fun h => absurd h (validated_of_other hsymbol _).2, fun h => absurd h.1 hsymbol⟩

theorem accepts_delta {d : OrderBookDelta} :
    book.Accepts (.delta d) ↔ d.symbol = book.symbol ∧ (book.applyDelta d).1 = true := by
  simp only [Accepts, handle]
  by_cases hsymbol : d.symbol = book.symbol
  · rw [validated_of_symbol hsymbol]
    exact ⟨fun h => ⟨hsymbol, Except.ok.inj h⟩, fun h => congrArg Except.ok h.2⟩
  · exact ⟨fun h => absurd h (validated_of_other hsymbol _).2, fun h => absurd h.1 hsymbol⟩

/-- **A rejected event leaves the book as it is**, unless it leaves it unsynchronized. -/
theorem unchanged_of_rejected {event : BookEvent} (h : ¬ book.Accepts event) :
    Unchanged book (book.handle event).2 ∧
      ((book.handle event).2.synchronized → book.synchronized) := by
  cases event with
  | snapshot s =>
    rw [accepts_snapshot, not_and, not_le] at h
    simp only [handle]
    by_cases hsymbol : s.symbol = book.symbol
    · rw [validated_of_symbol hsymbol, applySnapshot, if_pos (h hsymbol)]
      exact ⟨.refl book, id⟩
    · rw [(validated_of_other hsymbol _).1]
      exact ⟨.refl book, id⟩
  | delta d =>
    rw [accepts_delta, not_and] at h
    simp only [handle]
    by_cases hsymbol : d.symbol = book.symbol
    · rw [validated_of_symbol hsymbol]
      rcases applyDelta_cases book d with ⟨-, hunchanged⟩ | ⟨haccepted, -⟩
      · exact hunchanged
      · exact absurd haccepted (h hsymbol)
    · rw [(validated_of_other hsymbol _).1]
      exact ⟨.refl book, id⟩
  | unsynchronized =>
    exact ⟨unchanged_markUnsynchronized book, fun h => absurd h (by
      simp [handle, markUnsynchronized])⟩

/-- **After a break the book is unsynchronized.** -/
theorem unsynchronized_of_breaks {event : BookEvent} (h : book.Breaks event) :
    (book.handle event).2.synchronized = false := by
  cases event with
  | snapshot s => exact absurd h id
  | unsynchronized => rfl
  | delta d =>
    obtain ⟨hsymbol, hbreaks⟩ := h
    simp only [handle]
    rw [validated_of_symbol hsymbol, applyDelta]
    rcases hbreaks with hnewer | ⟨hsame, updateId, sequence, hupdateId, hsequence, hwrong⟩
    · rw [if_neg (not_lt.mpr hnewer.le), if_pos hnewer]
      rfl
    · rw [if_neg (by rw [hsame]; exact lt_irrefl _), if_neg (by rw [hsame]; exact lt_irrefl _)]
      by_cases hsynchronized : book.synchronized = true
      · rw [if_neg (by simp [hsynchronized]), hupdateId, hsequence]
        dsimp only
        rw [if_pos hwrong]
        rfl
      · rw [if_pos hsynchronized]
        exact Bool.eq_false_iff.mpr hsynchronized

/-! ## Runs -/

theorem after_concat (book : LocalOrderBook) (events : List BookEvent) (event : BookEvent) :
    book.after (events ++ [event]) = ((book.after events).handle event).2 := by
  simp [after]

theorem accepted_concat (book : LocalOrderBook) (events : List BookEvent) (event : BookEvent) :
    book.accepted (events ++ [event]) = book.accepted events ++
      if (book.after events).Accepts event then [event] else [] := by
  induction events generalizing book with
  | nil =>
    rw [List.nil_append, accepted, accepted, accepted]
    rfl
  | cons first events ih =>
    rw [List.cons_append, accepted, accepted, ih]
    split <;> rfl

/-- Without a snapshot nothing is synchronized again. -/
theorem unsynchronized_after {events : List BookEvent} (h : book.synchronized = false)
    (hnone : ∀ s, .snapshot s ∉ book.accepted events) :
    (book.after events).synchronized = false := by
  induction events generalizing book with
  | nil => exact h
  | cons event events ih =>
    rw [accepted] at hnone
    by_cases haccepts : book.Accepts event
    · rw [if_pos haccepts] at hnone
      cases event with
      | snapshot s => exact absurd (List.mem_cons_self ..) (hnone s)
      | delta d =>
        -- A delta is accepted by a synchronized book only.
        have haccepted := (accepts_delta.mp haccepts).2
        rcases applyDelta_cases book d with ⟨hrejected, -⟩ | ⟨-, hsynchronized, -⟩
        · exact absurd (hrejected.symm.trans haccepted) (by simp)
        · exact absurd (h.symm.trans hsynchronized) (by simp)
      | unsynchronized => exact absurd haccepts (by simp [Accepts, handle])
    · rw [if_neg haccepts] at hnone
      refine ih (Bool.eq_false_iff.mpr fun hnow => ?_) hnone
      have hbefore := (unchanged_of_rejected haccepts).2 hnow
      rw [h] at hbefore
      exact absurd hbefore (by simp)

/-- The accepted events end in a snapshot and the deltas that carry it on. -/
def Folds (book : LocalOrderBook) (accepted : List BookEvent) : Prop :=
  ∃ before s ds, accepted = before ++ .snapshot s :: ds.map .delta ∧ FoldOf book s ds

theorem FoldOf.congr {book' : LocalOrderBook} {s : OrderBookSnapshot} {ds : List OrderBookDelta}
    (h : FoldOf book s ds) (hsame : Unchanged book book') : FoldOf book' s ds where
  bids := by
    rw [hsame.bids]
    exact h.bids
  asks := by
    rw [hsame.asks]
    exact h.asks
  contiguous := h.contiguous
  last := by
    rw [hsame.updateId, hsame.sequence, hsame.timestampUtc, hsame.connectionGeneration]
    exact h.last
  positive := by
    rw [hsame.bids, hsame.asks]
    exact h.positive

theorem foldOf_snapshot {s : OrderBookSnapshot} (h : book.Accepts (.snapshot s)) :
    FoldOf (book.handle (.snapshot s)).2 s [] ∧
      (book.handle (.snapshot s)).2.synchronized = true := by
  obtain ⟨hsymbol, hnotOlder⟩ := accepts_snapshot.mp h
  simp only [handle]
  rw [validated_of_symbol hsymbol, applySnapshot, if_neg (not_lt.mpr hnotOlder)]
  refine ⟨⟨sizes_positiveLevels s.bids, sizes_positiveLevels s.asks, List.isChain_singleton _, ?_,
    ?_⟩, rfl⟩
  · intro e he
    obtain rfl := Option.some.inj he
    exact ⟨rfl, rfl, rfl, rfl⟩
  · dsimp only
    rw [sizes_positiveLevels, sizes_positiveLevels]
    exact ⟨positive_sizesOf s.bids, positive_sizesOf s.asks⟩

theorem foldOf_delta {s : OrderBookSnapshot} {ds : List OrderBookDelta} {d : OrderBookDelta}
    (h : FoldOf book s ds) (haccepts : book.Accepts (.delta d)) :
    FoldOf (book.handle (.delta d)).2 s (ds ++ [d]) := by
  obtain ⟨hsymbol, haccepted⟩ := accepts_delta.mp haccepts
  simp only [handle]
  rw [validated_of_symbol hsymbol]
  rcases applyDelta_cases book d with ⟨hrejected, -⟩ | ⟨-, -, hgeneration, hnext, hmoved⟩
  · exact absurd (hrejected.symm.trans haccepted) (by simp)
  obtain ⟨updateId, sequence, hupdateId, hsequence, hcontiguous, hlater⟩ := hnext
  obtain ⟨hbids, hasks⟩ := BookFields.size_nonneg d.checked
  have hevents : eventsOf s (ds ++ [d]) = eventsOf s ds ++ [d.toBookFields] := by
    simp [eventsOf]
  have hfollows : ∀ e ∈ (eventsOf s ds).getLast?, Follows e d.toBookFields := by
    intro e he
    obtain ⟨heId, heSequence, -, heGeneration⟩ := h.last e he
    rw [hupdateId] at heId
    rw [hsequence] at heSequence
    refine ⟨?_, ?_, hgeneration.trans heGeneration⟩
    · rw [← Option.some.inj heId]
      exact hcontiguous
    · rw [← Option.some.inj heSequence]
      exact hlater
  rw [hmoved]
  refine ⟨?_, ?_, ?_, ?_, ?_⟩
  · rw [List.foldl_append, ← h.bids]
    exact sizes_applyLevels book.bids d.bids
  · rw [List.foldl_append, ← h.asks]
    exact sizes_applyLevels book.asks d.asks
  · rw [hevents, List.isChain_append]
    refine ⟨h.contiguous, List.isChain_singleton _, fun e he e' he' => ?_⟩
    obtain rfl := Option.some.inj he'
    exact hfollows e he
  · intro e he
    rw [hevents, List.getLast?_concat] at he
    obtain rfl := Option.some.inj he
    exact ⟨rfl, rfl, rfl, hgeneration.symm⟩
  · dsimp only
    rw [sizes_applyLevels, sizes_applyLevels]
    exact ⟨h.positive.1.revise hbids, h.positive.2.revise hasks⟩

/-- **Whatever has been accepted so far, the book is a fold of**; before the first snapshot nothing
    has been. -/
theorem folds_after (start : LocalOrderBook) (hstart : start.synchronized = false)
    (events : List BookEvent) :
    start.accepted events = [] ∧ (start.after events).synchronized = false ∨
      Folds (start.after events) (start.accepted events) := by
  induction events using List.reverseRecOn with
  | nil => exact .inl ⟨rfl, hstart⟩
  | append_singleton events event ih =>
    rw [accepted_concat, after_concat]
    by_cases haccepts : (start.after events).Accepts event
    · rw [if_pos haccepts]
      cases event with
      | snapshot s => exact .inr ⟨start.accepted events, s, [], rfl, (foldOf_snapshot haccepts).1⟩
      | delta d =>
        rcases ih with ⟨-, hunsynchronized⟩ | ⟨before, s, ds, haccepted, hfold⟩
        · obtain ⟨-, hdelta⟩ := accepts_delta.mp haccepts
          rcases applyDelta_cases (start.after events) d with ⟨hrejected, -⟩ | ⟨-, hsync, -⟩
          · exact absurd (hrejected.symm.trans hdelta) (by simp)
          · exact absurd (hunsynchronized.symm.trans hsync) (by simp)
        · refine .inr ⟨before, s, ds ++ [d], ?_, foldOf_delta hfold haccepts⟩
          rw [haccepted]
          simp
      | unsynchronized => exact absurd haccepts (by simp [Accepts, handle])
    · rw [if_neg haccepts, List.append_nil]
      obtain ⟨hunchanged, hsynchronized⟩ := unchanged_of_rejected haccepts
      refine ih.imp (fun h => ⟨h.1, ?_⟩) fun ⟨before, s, ds, haccepted, hfold⟩ =>
        ⟨before, s, ds, haccepted, hfold.congr hunchanged⟩
      exact Bool.eq_false_iff.mpr fun hnow => absurd (h.2.symm.trans (hsynchronized hnow)) (by simp)

/-- The law of the book, at one point of a run: what it is while it is synchronized, what a rejected
    event leaves, and how a break is mended. -/
structure Law (book : LocalOrderBook) (accepted : List BookEvent) : Prop where
  folds : book.synchronized = true → Folds book accepted
  rejected : ∀ event, ¬ book.Accepts event → Unchanged book (book.handle event).2
  broken : ∀ event, book.Breaks event → ∀ later,
    (∀ s, .snapshot s ∉ (book.handle event).2.accepted later) →
      ((book.handle event).2.after later).synchronized = false
  mended : ∀ s, (book.Accepts (.snapshot s) ↔
    s.symbol = book.symbol ∧ book.connectionGeneration ≤ s.connectionGeneration) ∧
      (book.Accepts (.snapshot s) → (book.handle (.snapshot s)).2.synchronized = true)

/-- **The local order book is the fold of its accepted events**, at every point of every run. -/
theorem local_order_book_folds {symbol : String} {start : LocalOrderBook}
    (h : create symbol = .ok start) (events : List BookEvent) :
    Law (start.after events) (start.accepted events) where
  folds := by
    intro hsynchronized
    have hstart : start.synchronized = false := by
      simp only [create, bind_unit_eq_ok] at h
      obtain rfl := Except.ok.inj h.2
      rfl
    refine (folds_after start hstart events).resolve_left fun hnone => ?_
    exact absurd (hnone.2.symm.trans hsynchronized) (by simp)
  rejected := fun event hrejected => (unchanged_of_rejected hrejected).1
  broken := fun event hbreaks later hnone =>
    unsynchronized_after (unsynchronized_of_breaks hbreaks) hnone
  mended := fun s => ⟨accepts_snapshot, fun haccepts => (foldOf_snapshot haccepts).2⟩

/-! A snapshot, a delta that ends a level and brings another, and one that leaves a gap. -/

def bookFields (bids asks : List BookLevel) (updateId sequence : ℤ) : BookFields where
  symbol := "ETHUSDT"
  bids
  asks
  updateId
  sequence
  timestampUtc := 0
  connectionGeneration := 1
  rawPayloadHash := "digest"

def bookRun : List BookEvent :=
  [.snapshot ⟨bookFields [(2000, 3), (1999, 0)] [(2001, 4)] 7 70, by decide +kernel⟩,
    .delta ⟨bookFields [(2000, 0), (1998, 5)] [(2001, 1)] 8 75, by decide +kernel⟩,
    .delta ⟨bookFields [] [(2001, 0)] 10 80, by decide +kernel⟩]

theorem local_order_book_folds_gap :
    (LocalOrderBook.after { symbol := "ETHUSDT" } (bookRun.take 2)).bids.rows = [(1998, 5)] ∧
      (LocalOrderBook.after { symbol := "ETHUSDT" } bookRun).synchronized = false ∧
      Law (LocalOrderBook.after { symbol := "ETHUSDT" } bookRun)
        (LocalOrderBook.accepted { symbol := "ETHUSDT" } bookRun) :=
  ⟨by decide +kernel, by decide +kernel,
    local_order_book_folds (show create "ETHUSDT" = .ok { symbol := "ETHUSDT" } by rfl) bookRun⟩

end LocalOrderBook

end CreditHedge
