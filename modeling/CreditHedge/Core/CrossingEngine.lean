import Mathlib.Data.List.MinMax
import Mathlib.Data.Prod.Lex
import Mathlib.Algebra.Order.Field.Rat
import CreditHedge.Failure

/-!
# The crossing engine

`core/crossing_engine.py`: within one ordered price segment, execute every newly eligible trigger,
nearest first.

The engine is generic in the strategy it drives, as the source's `CrossingStrategy` protocol is:
a state type, the crossings eligible in a state, and the execution of one crossing. The
`on_executed` callback sees the strategy right after each crossing, so `processTransition` returns
the executed crossings each paired with the state it left.

The source's loop is `while True`; `drain` reads it with a bound on the number of rounds and
answers `outOfFuel` if the bound runs out.
-/

set_option autoImplicit false

namespace CreditHedge

inductive Direction where
  | down
  | up
  deriving DecidableEq, Repr

inductive CrossingEventType where
  | entry
  | tp
  | stop
  | breakeven
  deriving DecidableEq, Repr

structure CrossingEvent where
  eventType : CrossingEventType
  levelId : ℕ
  price : ℚ
  priority : ℕ := 0
  deriving DecidableEq, Repr

/-- What the engine remembers of an executed crossing: `(event_type, level_id, price)`. -/
def CrossingEvent.key (event : CrossingEvent) : CrossingEventType × ℕ × ℚ :=
  (event.eventType, event.levelId, event.price)

structure CrossingStrategy (σ : Type) where
  eligibleCrossings : σ → ℚ → ℚ → Direction → List CrossingEvent
  executeCrossing : σ → CrossingEvent → ℕ → Except Failure σ

namespace CrossingEngine

def insideRemainingSegment (price cursor current : ℚ) : Direction → Prop
  | .down => current ≤ price ∧ price ≤ cursor
  | .up => cursor ≤ price ∧ price ≤ current

instance (price cursor current : ℚ) (direction : Direction) :
    Decidable (insideRemainingSegment price cursor current direction) := by
  cases direction <;> exact inferInstanceAs (Decidable (_ ∧ _))

/-- The sort key: distance along the segment first, then priority, then level id. -/
def sortKey (direction : Direction) (event : CrossingEvent) : ℚ ×ₗ ℕ ×ₗ ℕ :=
  match direction with
  | .down => toLex (-event.price, toLex (event.priority, event.levelId))
  | .up => toLex (event.price, toLex (event.priority, event.levelId))

/-- `sorted(candidates, key=…)[0]`: the first candidate with the least key. -/
def nearest (candidates : List CrossingEvent) (direction : Direction) : Option CrossingEvent :=
  candidates.argmin (sortKey direction)

variable {σ : Type}

/-- The candidates of one round of the loop. -/
def candidates (strategy : CrossingStrategy σ) (previous current : ℚ) (direction : Direction)
    (cursor : ℚ) (processed : List (CrossingEventType × ℕ × ℚ)) (s : σ) : List CrossingEvent :=
  (strategy.eligibleCrossings s previous current direction).filter fun event =>
    insideRemainingSegment event.price cursor current direction ∧ event.key ∉ processed

/-- The loop, at most `fuel` rounds of it. -/
def drain (strategy : CrossingStrategy σ) (previous current : ℚ) (direction : Direction)
    (tickIndex : ℕ) : ℕ → ℚ → List (CrossingEventType × ℕ × ℚ) → σ →
      Except Failure (List (CrossingEvent × σ) × σ)
  | 0, _, _, _ => .error .outOfFuel
  | fuel + 1, cursor, processed, s =>
    match nearest (candidates strategy previous current direction cursor processed s)
        direction with
    | none => .ok ([], s)
    | some event => do
      let s' ← strategy.executeCrossing s event tickIndex
      let (executed, final) ←
        drain strategy previous current direction tickIndex fuel event.price
          (event.key :: processed) s'
      pure ((event, s') :: executed, final)

/-- Which way a segment runs. -/
def segmentDirection (previous current : ℚ) : Direction :=
  if current < previous then .down else .up

def processTransition (strategy : CrossingStrategy σ) (fuel : ℕ) (previous current : ℚ) (s : σ)
    (tickIndex : ℕ) : Except Failure (List (CrossingEvent × σ) × σ) :=
  if previous = current then .ok ([], s)
  else
    drain strategy previous current (segmentDirection previous current) tickIndex fuel previous
      [] s

/-! ## The nearest candidate -/

theorem nearest_mem {l : List CrossingEvent} {direction : Direction} {event : CrossingEvent}
    (h : nearest l direction = some event) : event ∈ l :=
  List.argmin_mem h

theorem nearest_eq_none {l : List CrossingEvent} {direction : Direction} :
    nearest l direction = none ↔ l = [] :=
  List.argmin_eq_none

theorem sortKey_nearest_le {l : List CrossingEvent} {direction : Direction}
    {event e : CrossingEvent} (h : nearest l direction = some event) (he : e ∈ l) :
    sortKey direction event ≤ sortKey direction e :=
  List.le_of_mem_argmin he h

/-- Downward, no candidate lies above the nearest one; one at the same price has no smaller
    priority, and one of the same price and priority no smaller level id. -/
theorem nearest_down {l : List CrossingEvent} {event e : CrossingEvent}
    (h : nearest l .down = some event) (he : e ∈ l) :
    e.price ≤ event.price ∧ (e.price = event.price → event.priority ≤ e.priority) := by
  have hle := sortKey_nearest_le h he
  simp only [sortKey, Prod.Lex.toLex_le_toLex, neg_lt_neg_iff, neg_inj] at hle
  rcases hle with hlt | ⟨heq, hlt | ⟨hpr, -⟩⟩
  · exact ⟨hlt.le, fun hq => absurd hq hlt.ne⟩
  · exact ⟨heq.ge, fun _ => hlt.le⟩
  · exact ⟨heq.ge, fun _ => hpr.le⟩

/-- Upward, no candidate lies below the nearest one. -/
theorem nearest_up {l : List CrossingEvent} {event e : CrossingEvent}
    (h : nearest l .up = some event) (he : e ∈ l) : event.price ≤ e.price := by
  have hle := sortKey_nearest_le h he
  simp only [sortKey, Prod.Lex.toLex_le_toLex] at hle
  rcases hle with hlt | ⟨heq, -⟩
  · exact hlt.le
  · exact heq.le

/-- Dropping candidates that all come later does not change the nearest one. -/
theorem nearest_filter {direction : Direction} {near : CrossingEvent → Bool} :
    ∀ {l : List CrossingEvent} {event : CrossingEvent},
    (∀ x ∈ l, ∀ y ∈ l, near x = true → near y = false →
      sortKey direction x < sortKey direction y) →
    nearest (l.filter near) direction = some event → nearest l direction = some event
  | [], _, _, h => h
  | a :: l, event, hlater, h => by
    have ih : ∀ {b}, nearest (l.filter near) direction = some b → nearest l direction = some b :=
      nearest_filter fun x hx y hy =>
        hlater x (List.mem_cons_of_mem _ hx) y (List.mem_cons_of_mem _ hy)
    have hmem := List.mem_filter.mp (nearest_mem h)
    unfold nearest at h ih ⊢
    rw [List.argmin_cons]
    by_cases ha : near a = true
    · rw [List.filter_cons_of_pos ha, List.argmin_cons] at h
      cases hrest : List.argmin (sortKey direction) (l.filter near) with
      | none =>
        rw [hrest] at h
        rw [List.argmin_eq_none] at hrest
        cases hl : List.argmin (sortKey direction) l with
        | none => exact h
        | some b =>
          have hb := List.argmin_mem hl
          have hfar : near b = false := Bool.eq_false_iff.mpr fun hb' =>
            List.not_mem_nil (hrest ▸ List.mem_filter.mpr ⟨hb, hb'⟩)
          have hlt := hlater a (List.mem_cons_self ..) b (List.mem_cons_of_mem _ hb) ha hfar
          exact (if_neg (not_lt.mpr hlt.le)).trans h
      | some b =>
        rw [hrest] at h
        rw [ih hrest]
        exact h
    · rw [List.filter_cons_of_neg ha] at h
      rw [ih h]
      exact if_pos (hlater event hmem.1 a (List.mem_cons_self ..) hmem.2
        (Bool.eq_false_iff.mpr ha))

end CrossingEngine
end CreditHedge
