import CreditHedge.Core.Runs
import CreditHedge.Lib.FirstHits

/-!
# First entries

Which levels a run opens for the first time, and in which tick. A level that was never opened
waits; it is opened by the first downward move that starts at or above its entry and ends at or
below it, and the levels that one move opens are opened in ladder order (`Runs.firstEntries`).

That is so as long as the stop budget grants every level its first entry. If it refuses one and
the lock policy locks the level out, the level is left `LOCKED` without an attempt, and stays so
(`NeverRefused`).
-/

set_option autoImplicit false

namespace CreditHedge

open CrossingEngine (segmentDirection)

/-- The level that a crossing opens, if it opens one for the first time. -/
def firstEntry (crossing : CrossingEvent × EngineState) : Option ℕ :=
  match crossing.1.eventType, crossing.2.level crossing.1.levelId with
  | .entry, .ok level =>
    if level.state = .active ∧ level.attempts = 1 then some level.levelId else none
  | _, _ => none

/-- The levels a tick opens for the first time, in the order it opens them. -/
def HedgeEngine.Tick.firstEntries (tick : HedgeEngine.Tick) : List ℕ :=
  tick.crossings.filterMap firstEntry

/-- The moves of a price path. -/
def moves (prices : List ℚ) : List (ℚ × ℚ) := prices.zip prices.tail

/-- A downward move that starts at or above the entry price and ends at or below it. -/
def reachesEntry (entryPrice : ℚ) (move : ℚ × ℚ) : Bool :=
  move.2 < move.1 && entryPrice ≤ move.1 && move.2 ≤ entryPrice

/-- The entry price of a level of the ladder. -/
def entryAt (config : StrategyConfig) (spread : CreditSpread) (levelId : ℕ) : ℚ :=
  spread.shortPutStrike - zoneWidth spread config.levelCount * (levelId - 1)

/-- The levels that satisfy a condition and were never opened. -/
def unopened (s : EngineState) (condition : HedgeLevel → Bool) : List ℕ :=
  (s.levels.filter fun x => x.attempts = 0 && condition x).map HedgeLevel.levelId

/-- No level was locked out of its first entry. -/
def NeverRefused (s : EngineState) : Prop :=
  ∀ x ∈ s.levels, x.attempts = 0 → x.state ≠ .locked

/-- A level that was never opened is ready, if it was not locked out. -/
def Tried (s : EngineState) : Prop :=
  ∀ x ∈ s.levels, x.attempts = 0 → x.state = .ready ∨ x.state = .locked

variable {config : StrategyConfig} {spread : CreditSpread} {p q : ℚ} {s s' t : EngineState}
  {e : CrossingEvent} {tickIndex : ℕ}

/-! ## One crossing -/

theorem Tried.ready (h : Tried s) (hnever : NeverRefused s) {x : HedgeLevel} (hx : x ∈ s.levels)
    (hnew : x.attempts = 0) : x.state = .ready := by
  rcases h x hx hnew with hready | hlocked
  · exact hready
  · exact absurd hlocked (hnever x hx hnew)

theorem Crosses.tried (h : Crosses config spread tickIndex s e s')
    (hs : Sound config spread s.levels) (htried : Tried s) : Tried s' := by
  obtain ⟨g, hlevels, -, hother, x₀, hx₀, hid, hturn, hattempts⟩ := h.attempts
  unfold Tried
  rw [hlevels]
  refine List.forall_mem_map.mpr fun x hx hnew => ?_
  by_cases hxid : x.levelId = e.levelId
  · obtain rfl := hs.ladder.eq_of_levelId_eq hx hx₀ (hxid.trans hid.symm)
    rw [hattempts] at hnew
    cases hturn with
    | opened _ _ state _ => exact absurd hnew (by simp [state])
    | lockedOut _ _ state _ => exact .inr state
    | paid active state _ =>
      rw [if_neg (by simp [state])] at hnew
      simpa [active] using htried x hx hnew
    | stoppedOut _ _ state _ => exact .inl state
    | brokeEven _ _ state _ => exact .inl state
  · obtain ⟨hstatus, hsame⟩ := hother x hx hxid
    rw [hstatus.state]
    exact htried x hx (hsame ▸ hnew)

/-- A level that is locked out of its first entry stays so. -/
theorem Crosses.neverRefused (h : Crosses config spread tickIndex s e s')
    (hs : Sound config spread s.levels) (hnever : NeverRefused s') : NeverRefused s := by
  obtain ⟨g, hlevels, -, hother, x₀, hx₀, hid, hturn, -⟩ := h.attempts
  intro x hx hnew hlocked
  have hmem : g x ∈ s'.levels := hlevels ▸ List.mem_map_of_mem hx
  by_cases hxid : x.levelId = e.levelId
  · obtain rfl := hs.ladder.eq_of_levelId_eq hx hx₀ (hxid.trans hid.symm)
    cases hturn with
    | opened ready => simp [ready] at hlocked
    | lockedOut ready => simp [ready] at hlocked
    | paid active => simp [active] at hlocked
    | stoppedOut active => simp [active] at hlocked
    | brokeEven active => simp [active] at hlocked
  · obtain ⟨hstatus, hsame⟩ := hother x hx hxid
    exact hnever (g x) hmem (hsame.trans hnew) (hstatus.state.trans hlocked)

theorem firstEntry_eq (hladder : Ladder config spread s.levels) {x : HedgeLevel}
    (hx : x ∈ s.levels) (hid : x.levelId = e.levelId) :
    firstEntry (e, s) =
      if e.eventType = .entry ∧ x.state = .active ∧ x.attempts = 1 then some x.levelId
      else none := by
  have hread : s.level e.levelId = .ok x := hid ▸ EngineState.level_of_mem hladder hx
  unfold firstEntry
  simp only [hread]
  cases e.eventType <;> simp

/-- What a crossing is to the levels that were never opened: nothing, or the first entry of one
    of them. -/
theorem Crosses.firstEntry_cases (h : Crosses config spread tickIndex s e s')
    (hs : Sound config spread s.levels) (htried : Tried s) (hnever : NeverRefused s') :
    ∃ g : HedgeLevel → HedgeLevel, s'.levels = s.levels.map g ∧
      (∀ x ∈ s.levels, SameZone x (g x)) ∧
      ((firstEntry (e, s') = none ∧ ∀ x ∈ s.levels, ((g x).attempts = 0 ↔ x.attempts = 0) ∧
          (x.attempts = 0 → SameStatus x (g x))) ∨
        ∃ level ∈ s.levels, firstEntry (e, s') = some level.levelId ∧ e = level.entryCrossing ∧
          level.attempts = 0 ∧ level.entryArmed = true ∧ (g level).attempts ≠ 0 ∧
          ∀ x ∈ s.levels, x.levelId ≠ level.levelId →
            SameStatus x (g x) ∧ (g x).attempts = x.attempts) := by
  obtain ⟨g, hlevels, hzone, hother, x, hx, hid, hturn, hattempts⟩ := h.attempts
  have hmem : g x ∈ s'.levels := hlevels ▸ List.mem_map_of_mem hx
  have hfirst := firstEntry_eq (h.sound hs).ladder hmem ((hzone x hx).levelId.trans hid)
  refine ⟨g, hlevels, hzone, ?_⟩
  by_cases hnew : x.attempts = 0
  · have hready := htried x hx hnew
    right
    cases hturn with
    | opened _ armed state _ =>
      rw [if_pos state, hnew, zero_add] at hattempts
      rw [if_pos ⟨rfl, state, hattempts⟩, (hzone x hx).levelId] at hfirst
      refine ⟨x, hx, hfirst, rfl, hnew, armed, ?_, fun y hy hne => hother y hy hne⟩
      rw [hattempts]
      exact one_ne_zero
    | lockedOut _ _ state _ =>
      rw [if_neg (by simp [state]), hnew] at hattempts
      exact absurd state (hnever _ hmem hattempts)
    | paid active => simp [active] at hready
    | stoppedOut active => simp [active] at hready
    | brokeEven active => simp [active] at hready
  · have hagain : (g x).attempts ≠ 0 ∧ ((g x).state = .active → (g x).attempts ≠ 1) := by
      rw [hattempts]
      split <;> simp_all
    left
    refine ⟨?_, fun y hy => ?_⟩
    · rw [hfirst, if_neg fun hnow => hagain.2 hnow.2.1 hnow.2.2]
    · by_cases hne : y.levelId = e.levelId
      · obtain rfl := hs.ladder.eq_of_levelId_eq hy hx (hne.trans hid.symm)
        exact ⟨⟨fun h => absurd h hagain.1, fun h => absurd h hnew⟩, fun h => absurd h hnew⟩
      · obtain ⟨hstatus, hsame⟩ := hother y hy hne
        exact ⟨by rw [hsame], fun _ => hstatus⟩

/-- Armed, and at or above the end of a downward move. -/
def HedgeLevel.awaits (q : ℚ) (x : HedgeLevel) : Bool := x.entryArmed && q ≤ x.entryPrice

theorem HedgeLevel.awaits_congr {x y : HedgeLevel} (zone : SameZone x y) (status : SameStatus x y) :
    y.awaits q = x.awaits q := by
  unfold awaits
  rw [status.entryArmed, zone.entryPrice]

/-- A selection, after a crossing that rewrites level by level. -/
theorem unopened_of_map {g : HedgeLevel → HedgeLevel} (hlevels : s'.levels = s.levels.map g)
    (hzone : ∀ x ∈ s.levels, SameZone x (g x)) (condition : HedgeLevel → Bool) :
    unopened s' condition =
      (s.levels.filter fun x => (g x).attempts = 0 && condition (g x)).map HedgeLevel.levelId := by
  unfold unopened
  rw [hlevels, List.filter_map, List.map_map]
  exact List.map_congr_left fun x hx => (hzone x (List.mem_of_mem_filter hx)).levelId

/-- What is not opened stays selected. -/
theorem unopened_eq_of_agree {g : HedgeLevel → HedgeLevel} (hlevels : s'.levels = s.levels.map g)
    (hzone : ∀ x ∈ s.levels, SameZone x (g x)) {condition : HedgeLevel → Bool}
    (hagree : ∀ x ∈ s.levels, ((g x).attempts = 0 && condition (g x)) =
      (x.attempts = 0 && condition x)) : unopened s' condition = unopened s condition := by
  rw [unopened_of_map hlevels hzone]
  exact congrArg _ (List.filter_congr hagree)

/-- **One crossing of a downward move**: a first entry is the next of the levels that await one,
    and nothing else touches the levels that were never opened. -/
theorem Crosses.unopened_down (h : Crosses config spread tickIndex s e s')
    (hs : Sound config spread s.levels) (hn : next q .down s = some e) (htried : Tried s)
    (hnever : NeverRefused s') :
    unopened s (HedgeLevel.awaits q) =
        (firstEntry (e, s')).toList ++ unopened s' (HedgeLevel.awaits q) ∧
      unopened s' (fun x => !x.awaits q) = unopened s fun x => !x.awaits q := by
  obtain ⟨g, hlevels, hzone,
      ⟨hfirst, hkept⟩ | ⟨level, hl, hfirst, he, hnew, harmed, hopened, hother⟩⟩ :=
    h.firstEntry_cases hs htried hnever
  · have hagree : ∀ condition : Bool → Bool, ∀ x ∈ s.levels,
        ((g x).attempts = 0 && condition ((g x).awaits q)) =
          (x.attempts = 0 && condition (x.awaits q)) := by
      intro condition x hx
      obtain ⟨hiff, hstatus⟩ := hkept x hx
      by_cases hx0 : x.attempts = 0
      · rw [HedgeLevel.awaits_congr (hzone x hx) (hstatus hx0), decide_eq_decide.mpr hiff]
      · simp [hx0, mt hiff.mp hx0]
    rw [hfirst, Option.toList_none, List.nil_append]
    exact ⟨(unopened_eq_of_agree hlevels hzone (hagree id)).symm,
      unopened_eq_of_agree hlevels hzone (hagree not)⟩
  · -- The opened level is armed and in reach, and the levels above it are out of the question.
    have hreach : level.awaits q = true := by
      have hmem := CrossingEngine.nearest_mem hn
      obtain ⟨x, -, ⟨-, -, hx⟩ | ⟨-, -, hle, hx⟩⟩ := mem_pending_down.mp hmem
      · rw [he] at hx
        exact absurd (congrArg CrossingEvent.eventType hx) (by simp [HedgeLevel.entryCrossing,
          HedgeLevel.tpCrossing])
      · rw [he] at hx
        have hprice : level.entryPrice = x.entryPrice := congrArg CrossingEvent.price hx
        simp [HedgeLevel.awaits, harmed, hprice, hle]
    have hothers : ∀ condition : Bool → Bool, ∀ x ∈ s.levels, x.levelId ≠ level.levelId →
        ((g x).attempts = 0 && condition ((g x).awaits q)) =
          (x.attempts = 0 && condition (x.awaits q)) := by
      intro condition x hx hne
      obtain ⟨hstatus, hattempts⟩ := hother x hx hne
      rw [HedgeLevel.awaits_congr (hzone x hx) hstatus, hattempts]
    have habove : ∀ x ∈ s.levels, x.levelId < level.levelId →
        (x.attempts = 0 && x.awaits q) = false := by
      intro x hx hlt
      obtain ⟨-, hcleared⟩ := h.entry_spec hs (by rw [he]; rfl) hl (by rw [he]; rfl)
      rcases hcleared x hx hlt with hfresh | hretired
      · simp [HedgeLevel.awaits, hfresh.2]
      · have htaken : x.attempts ≠ 0 := fun hx0 =>
          hretired.not_ready (htried.ready (h.neverRefused hs hnever) hx hx0)
        simp [htaken]
    rw [hfirst]
    refine ⟨?_, unopened_eq_of_agree hlevels hzone fun x hx => ?_⟩
    · rw [unopened_of_map hlevels hzone]
      exact congrArg (List.map HedgeLevel.levelId) (hs.ladder.numbered.filter_eq_cons hl
        (by simp [hnew, hreach]) (by simp [hopened]) habove (hothers id))
    · by_cases hne : x.levelId = level.levelId
      · obtain rfl := hs.ladder.eq_of_levelId_eq hx hl hne
        simp [hopened, hreach]
      · exact hothers not x hx hne

/-! ## One tick -/

@[simp] theorem HedgeLevel.armedAt_attempts (x : HedgeLevel) (price : ℚ) :
    (x.armedAt price).attempts = x.attempts := by
  unfold armedAt
  split <;> rfl

theorem Tried.closedAt (h : Tried s) (q : ℚ) : Tried (s.closedAt q) := by
  refine List.forall_mem_map.mpr fun x hx => ?_
  rw [HedgeLevel.armedAt_attempts, HedgeLevel.armedAt_state]
  exact h x hx

theorem neverRefused_closedAt (q : ℚ) : NeverRefused (s.closedAt q) ↔ NeverRefused s := by
  refine List.forall_mem_map.trans (forall₂_congr fun x _ => ?_)
  rw [HedgeLevel.armedAt_attempts, HedgeLevel.armedAt_state]

/-- The levels that were never opened. -/
abbrev neverOpened (s : EngineState) : List ℕ := unopened s fun _ => true

theorem neverOpened_closedAt (q : ℚ) : neverOpened (s.closedAt q) = neverOpened s :=
  unopened_eq_of_agree EngineState.closedAt_levels (fun _ _ => SameZone.armedAt q) fun x _ => by
    rw [HedgeLevel.armedAt_attempts]

/-- What a list of crossings leaves behind for the levels that were never opened. -/
structure Entered (s : EngineState) (trace : List (CrossingEvent × EngineState)) (t : EngineState)
    (condition : HedgeLevel → Bool) : Prop where
  entries : trace.filterMap firstEntry = unopened s condition
  left : neverOpened t = unopened s fun x => !condition x
  neverRefused : NeverRefused s

/-- **A downward move**, one crossing at a time. -/
theorem entered_down {trace : List (CrossingEvent × EngineState)}
    (h : Drains (next q .down) (Passes config spread tickIndex) s trace t) (htried : Tried s)
    (hnever : NeverRefused t) : Entered s trace t (HedgeLevel.awaits q) := by
  induction h with
  | @done s hn =>
    have hpending : pending q .down s = [] := CrossingEngine.nearest_eq_none.mp hn
    have hnone : ∀ x ∈ s.levels, (x.attempts = 0 && x.awaits q) = false := by
      intro x hx
      refine Bool.eq_false_iff.mpr fun hawaits => ?_
      simp only [HedgeLevel.awaits, Bool.and_eq_true, decide_eq_true_eq] at hawaits
      obtain ⟨hnew, harmed, hle⟩ := hawaits
      have hmem := mem_pending_down.mpr
        ⟨x, hx, .inr ⟨htried.ready hnever hx hnew, harmed, hle, rfl⟩⟩
      exact absurd (hpending ▸ hmem) List.not_mem_nil
    refine ⟨?_, ?_, hnever⟩
    · rw [unopened, List.filter_eq_nil_iff.mpr fun x hx => by
        rw [hnone x hx]
        exact Bool.false_ne_true]
      rfl
    · refine congrArg (List.map HedgeLevel.levelId) (List.filter_congr fun x hx => ?_)
      have := hnone x hx
      by_cases hnew : x.attempts = 0 <;> simp_all
  | step hn hpass hrest ih =>
    have hrest := ih (hpass.crosses.tried hpass.sound htried) hnever
    obtain ⟨hawait, hleft⟩ :=
      hpass.crosses.unopened_down hpass.sound hn htried hrest.neverRefused
    refine ⟨?_, hrest.left.trans hleft,
      hpass.crosses.neverRefused hpass.sound hrest.neverRefused⟩
    rw [hawait, ← hrest.entries, List.filterMap_cons]
    cases firstEntry _ <;> rfl

/-- An upward move opens nothing. -/
theorem entered_up {trace : List (CrossingEvent × EngineState)}
    (h : Drains (next q .up) (Passes config spread tickIndex) s trace t) (htried : Tried s)
    (hnever : NeverRefused t) : Entered s trace t fun _ => false := by
  induction h with
  | @done s hn =>
    refine ⟨?_, rfl, hnever⟩
    simp [unopened]
  | @step s s' t e trace hn hpass hrest ih =>
    have hrest := ih (hpass.crosses.tried hpass.sound htried) hnever
    have hnot := (next_up_ne hn).1
    obtain ⟨g, hlevels, hzone, ⟨hfirst, hkept⟩ | ⟨level, -, -, he, -⟩⟩ :=
      hpass.crosses.firstEntry_cases hpass.sound htried hrest.neverRefused
    · refine ⟨?_, ?_, hpass.crosses.neverRefused hpass.sound hrest.neverRefused⟩
      · rw [List.filterMap_cons, hfirst]
        simpa [unopened] using hrest.entries
      · refine hrest.left.trans (unopened_eq_of_agree hlevels hzone fun x hx => ?_)
        simp [(hkept x hx).1]
    · exact absurd (congrArg CrossingEvent.eventType he) hnot

theorem unopened_eq_filter {condition : HedgeLevel → Bool} {f : ℕ → Bool}
    (h : ∀ x ∈ s.levels, x.attempts = 0 → condition x = f x.levelId) :
    unopened s condition = (neverOpened s).filter f := by
  unfold neverOpened unopened
  rw [List.filter_map, List.filter_filter]
  refine congrArg (List.map HedgeLevel.levelId) (List.filter_congr fun x hx => ?_)
  by_cases hnew : x.attempts = 0
  · simp [hnew, h x hx hnew]
  · simp [hnew]

theorem entryAt_eq (h : Ladder config spread s.levels) {x : HedgeLevel} (hx : x ∈ s.levels) :
    entryAt config spread x.levelId = x.entryPrice :=
  (h.entryPrice_eq x hx).symm

/-- What a tick opens for the first time, and what it leaves. -/
structure TickEntered (config : StrategyConfig) (spread : CreditSpread) (move : ℚ × ℚ)
    (s : EngineState) (trace : List (CrossingEvent × EngineState)) (t : EngineState) : Prop where
  entries : trace.filterMap firstEntry =
    (neverOpened s).filter fun levelId => reachesEntry (entryAt config spread levelId) move
  left : neverOpened t =
    (neverOpened s).filter fun levelId => !reachesEntry (entryAt config spread levelId) move
  neverRefused : NeverRefused s

theorem Entered.tickEntered {trace : List (CrossingEvent × EngineState)} {move : ℚ × ℚ}
    {condition : HedgeLevel → Bool} (h : Entered s trace t condition)
    (hladder : Ladder config spread s.levels)
    (hcondition : ∀ x ∈ s.levels, x.attempts = 0 →
      condition x = reachesEntry x.entryPrice move) :
    TickEntered config spread move s trace t := by
  have hreads : ∀ x ∈ s.levels, x.attempts = 0 →
      condition x = reachesEntry (entryAt config spread x.levelId) move := by
    intro x hx hnew
    rw [entryAt_eq hladder hx]
    exact hcondition x hx hnew
  refine ⟨h.entries.trans (unopened_eq_filter hreads), h.left.trans (unopened_eq_filter ?_),
    h.neverRefused⟩
  intro x hx hnew
  rw [hreads x hx hnew]

/-- **What one tick opens for the first time**: of the levels that were never opened, those that
    its move reaches, in ladder order. -/
theorem Sweeps.tickEntered (hrest : AtRest config spread p s)
    {trace : List (CrossingEvent × EngineState)}
    (h : Sweeps config spread tickIndex p q s trace t) (htried : Tried s)
    (hnever : NeverRefused t) : TickEntered config spread (p, q) s trace t := by
  have hladder := hrest.sound.ladder
  cases h with
  | still heq =>
    subst heq
    have hentered : Entered s [] s fun _ => false := ⟨by simp [unopened], rfl, hnever⟩
    exact hentered.tickEntered hladder fun x _ _ => by simp [reachesEntry]
  | drained hne hdrains =>
    by_cases hlt : q < p
    · rw [segmentDirection, if_pos hlt] at hdrains
      have hentered := entered_down hdrains htried hnever
      refine hentered.tickEntered hladder fun x hx hnew => ?_
      -- At rest, a ready level is armed exactly when the price is at or above its entry.
      have hready := htried.ready hentered.neverRefused hx hnew
      have harmed : x.entryArmed = decide (x.entryPrice ≤ p) := by
        rw [Bool.eq_iff_iff, decide_eq_true_iff]
        exact (hrest.settled x hx).armed_iff hready
      simp [HedgeLevel.awaits, reachesEntry, harmed, hlt]
    · rw [segmentDirection, if_neg hlt] at hdrains
      refine (entered_up hdrains htried hnever).tickEntered hladder fun x _ _ => ?_
      simp [reachesEntry, hlt]

/-! ## A whole run -/

theorem Sweeps.tried {trace : List (CrossingEvent × EngineState)}
    (h : Sweeps config spread tickIndex p q s trace t) (htried : Tried s) : Tried t := by
  cases h with
  | still => exact htried
  | drained _ hd =>
    exact (hd.invariant (fun _ _ _ h _ hpass => hpass.crosses.tried hpass.sound h) htried).1

/-- **What a run opens for the first time, tick by tick**: each level in the first move that
    reaches its entry. -/
theorem Runs.firstEntries {prices : List ℚ} {ticks : List HedgeEngine.Tick} {final : EngineState}
    (h : Runs config spread p s tickIndex prices ticks final) (htried : Tried s)
    (hnever : NeverRefused final) : NeverRefused s ∧
      ticks.map HedgeEngine.Tick.firstEntries =
        FirstHits.newly (fun levelId => reachesEntry (entryAt config spread levelId))
          (neverOpened s) (moves (p :: prices)) := by
  induction h with
  | done => exact ⟨hnever, rfl⟩
  | @tick p q s t final tickIndex prices crossings ticks rest sweeps _ _ ih =>
    obtain ⟨hnext, hticks⟩ := ih ((sweeps.tried htried).closedAt q) hnever
    have htick := sweeps.tickEntered rest htried ((neverRefused_closedAt q).mp hnext)
    rw [neverOpened_closedAt, htick.left] at hticks
    refine ⟨htick.neverRefused, ?_⟩
    rw [List.map_cons, hticks]
    exact congrArg (· :: _) htick.entries

/-- The ids of the ladder. -/
theorem neverOpened_initialState (config : StrategyConfig) (spread : CreditSpread) :
    neverOpened (initialState config spread) =
      (initialState config spread).levels.map HedgeLevel.levelId := by
  refine congrArg (List.map HedgeLevel.levelId) (List.filter_eq_self.mpr fun x hx => ?_)
  obtain ⟨index, -, rfl⟩ := List.mem_map.mp hx
  rfl

/-- The first entries of a run of the engine: none in the first tick, which only arms. -/
theorem run_firstEntries {prices : List ℚ} {ticks : List HedgeEngine.Tick} {final : EngineState}
    (hrun : HedgeEngine.run config spread (p :: prices) = .ok (ticks, final))
    (hnever : NeverRefused final) :
    ticks.map HedgeEngine.Tick.firstEntries =
      [] :: FirstHits.newly (fun levelId => reachesEntry (entryAt config spread levelId))
        ((initialState config spread).levels.map HedgeLevel.levelId) (moves (p :: prices)) := by
  obtain ⟨ticks', final', hrun', hruns⟩ := run_spec config spread p prices
  obtain ⟨rfl, rfl⟩ := Prod.mk.inj (Except.ok.inj (hrun'.symm.trans hrun))
  have htried : Tried (initialState config spread) := by
    intro x hx _
    obtain ⟨index, -, rfl⟩ := List.mem_map.mp hx
    exact .inl rfl
  obtain ⟨-, hticks⟩ := hruns.firstEntries (htried.closedAt p) hnever
  rw [neverOpened_closedAt, neverOpened_initialState] at hticks
  rw [List.map_cons, hticks]
  rfl

end CreditHedge
