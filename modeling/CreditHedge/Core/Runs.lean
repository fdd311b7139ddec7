import CreditHedge.Core.Segments

/-!
# Whole runs

A tick sweeps the segment from the previous price to the new one and then arms. Between ticks the
engine is *at rest* (`AtRest`): every open hedge is strictly inside its exits, and a ready level is
armed exactly when the price is at or above its entry. From rest a tick never fails and comes to
rest again (`step_spec`), so a run over any path succeeds, and it is a `Runs`: the same run as a
relation, with what each tick swept.

Invariants of runs are stated once, as `RunInvariant`: what the first arming establishes and every
crossing and every arming keep holds of every state of every run (`Runs.invariant`).
-/

set_option autoImplicit false

namespace CreditHedge

open CrossingEngine (segmentDirection)

/-! ## Rest -/

/-- Where a level stands when a tick at `price` is over. -/
structure Settled (price : ℚ) (level : HedgeLevel) : Prop where
  tp_lt : level.state = .active → level.tpPrice < price
  lt_stop : level.state = .active → level.activeIsFloor = false → price < level.stopPrice
  le_entry : level.state = .active → level.activeIsFloor = true → price ≤ level.entryPrice
  armed_iff : level.state = .ready → (level.entryArmed = true ↔ level.entryPrice ≤ price)

structure AtRest (config : StrategyConfig) (spread : CreditSpread) (price : ℚ)
    (s : EngineState) : Prop where
  previousPrice_eq : s.previousPrice = some price
  sound : Sound config spread s.levels
  settled : ∀ x ∈ s.levels, Settled price x

theorem Settled.positioned {price : ℚ} {level : HedgeLevel} (h : Settled price level) :
    Positioned price level where
  tp_le := fun hact => (h.tp_lt hact).le
  le_stop := fun hact hfix => (h.lt_stop hact hfix).le
  le_entry := h.le_entry
  entry_le := fun hready => (h.armed_iff hready).mp

/-- The end of a tick. -/
def EngineState.closedAt (s : EngineState) (price : ℚ) : EngineState :=
  HedgeEngine.armReadyLevels { s with previousPrice := some price } price

variable {config : StrategyConfig} {spread : CreditSpread} {p q : ℚ} {s t : EngineState}
  {tickIndex : ℕ}

@[simp] theorem EngineState.closedAt_levels :
    (s.closedAt q).levels = s.levels.map (HedgeLevel.armedAt · q) := rfl

@[simp] theorem EngineState.closedAt_ledger : (s.closedAt q).ledger = s.ledger := rfl

@[simp] theorem EngineState.closedAt_previousPrice :
    (s.closedAt q).previousPrice = some q := rfl

/-- A new segment starts from rest. -/
theorem AtRest.segment (h : AtRest config spread p s) :
    Segment (segmentDirection p q) p q p s.levels := by
  unfold segmentDirection
  split
  · rename_i hlt
    refine ⟨⟨hlt.le, le_rfl⟩, fun x hx => (h.settled x hx).positioned, fun x hx => ?_⟩
    exact ⟨(h.settled x hx).tp_lt, (h.settled x hx).lt_stop⟩
  · rename_i hge
    refine ⟨⟨le_rfl, not_lt.mp hge⟩, fun x hx => (h.settled x hx).positioned, fun x hx => ?_⟩
    exact ⟨(h.settled x hx).tp_lt, (h.settled x hx).lt_stop⟩

theorem AtRest.inSegment (h : AtRest config spread p s) :
    InSegment config spread (segmentDirection p q) p q s :=
  ⟨h.sound, p, h.segment⟩

/-- Arming settles a level that has no pending crossing left. -/
theorem Settled.armedAt {x : HedgeLevel} (tp_lt : x.state = .active → x.tpPrice < q)
    (lt_stop : x.state = .active → x.activeIsFloor = false → q < x.stopPrice)
    (le_entry : x.state = .active → x.activeIsFloor = true → q ≤ x.entryPrice)
    (entry_le : x.state = .ready → x.entryArmed = true → x.entryPrice ≤ q) :
    Settled q (x.armedAt q) := by
  have hzone : SameZone x (x.armedAt q) := SameZone.armedAt q
  refine ⟨?_, ?_, ?_, ?_⟩
  · rw [HedgeLevel.armedAt_state, hzone.tpPrice]
    exact tp_lt
  · rw [HedgeLevel.armedAt_state, HedgeLevel.armedAt_activeIsFloor, hzone.stopPrice]
    exact lt_stop
  · rw [HedgeLevel.armedAt_state, HedgeLevel.armedAt_activeIsFloor, hzone.entryPrice]
    exact le_entry
  · rw [HedgeLevel.armedAt_state, HedgeLevel.armedAt_entryArmed, hzone.entryPrice]
    intro hready
    exact ⟨fun h => h.elim (entry_le hready) And.right, fun h => Or.inr ⟨hready, h⟩⟩

/-- **A drained segment comes to rest.** -/
theorem InSegment.closedAt (hne : p ≠ q)
    (h : InSegment config spread (segmentDirection p q) p q t)
    (hn : next q (segmentDirection p q) t = none) : AtRest config spread q (t.closedAt q) := by
  refine ⟨rfl, h.sound.arm q, List.forall_mem_map.mpr fun x hx => ?_⟩
  obtain ⟨c, hseg⟩ := h.segment
  have hx : x ∈ t.levels := hx
  have hp := hseg.positioned x hx
  have ha := hseg.ahead x hx
  have hin := hseg.inside
  have hdone : ∀ e, e ∉ pending q (segmentDirection p q) t := by
    rw [CrossingEngine.nearest_eq_none.mp hn]
    simp
  unfold segmentDirection at *
  split at hdone
  · rename_i hlt
    simp only [if_pos hlt] at ha hin
    refine Settled.armedAt (fun hact => ?_) (fun hact hfix => ?_) (fun hact hfl => ?_)
      fun hready harm => ?_
    · exact not_le.mp fun hle =>
        hdone _ (mem_pending_down.mpr ⟨x, hx, Or.inl ⟨hact, hle, rfl⟩⟩)
    · exact hin.1.trans_lt (ha.lt_stop hact hfix)
    · exact hin.1.trans (hp.le_entry hact hfl)
    · exact not_lt.mp fun hlt' =>
        hdone _ (mem_pending_down.mpr ⟨x, hx, Or.inr ⟨hready, harm, hlt'.le, rfl⟩⟩)
  · rename_i hge
    simp only [if_neg hge] at ha hin
    have hpq : p < q := lt_of_le_of_ne (not_lt.mp hge) hne
    refine Settled.armedAt (fun hact => (ha.tp_lt hact).trans hpq) (fun hact hfix => ?_)
      (fun hact hfl => ?_) fun hready harm => (hp.entry_le hready harm).trans hin.2
    · exact not_le.mp fun hle =>
        hdone _ (mem_pending_up.mpr ⟨x, hx, Or.inr ⟨hact, hfix, hle, rfl⟩⟩)
    · exact not_lt.mp fun hlt' =>
        hdone _ (mem_pending_up.mpr ⟨x, hx, Or.inl ⟨hact, hfl, hlt'.le, rfl⟩⟩)

/-! ## Ticks -/

/-- One crossing of a run: what it does, and that the engine is sound and positioned at the
    crossing's price on both sides of it. -/
structure Passes (config : StrategyConfig) (spread : CreditSpread) (tickIndex : ℕ)
    (s : EngineState) (e : CrossingEvent) (s' : EngineState) : Prop where
  sound : Sound config spread s.levels
  crosses : Crosses config spread tickIndex s e s'
  positioned_before : ∀ x ∈ s.levels, Positioned e.price x
  positioned : ∀ x ∈ s'.levels, Positioned e.price x

namespace Passes

variable {e : CrossingEvent} {s' s'' : EngineState}

theorem executes (h : Passes config spread tickIndex s e s') :
    Executes config spread tickIndex s e s' := h.crosses.executes h.sound

theorem sound_after (h : Passes config spread tickIndex s e s') :
    Sound config spread s'.levels := h.crosses.sound h.sound

theorem deterministic (h : Passes config spread tickIndex s e s')
    (h' : Passes config spread tickIndex s e s'') : s' = s'' :=
  Except.ok.inj (h.executes.symm.trans h'.executes)

end Passes

/-- The crossings of one tick: none when the price stays, else the drained segment. -/
inductive Sweeps (config : StrategyConfig) (spread : CreditSpread) (tickIndex : ℕ) (p q : ℚ)
    (s : EngineState) : List (CrossingEvent × EngineState) → EngineState → Prop
  | still (heq : p = q) : Sweeps config spread tickIndex p q s [] s
  | drained {trace : List (CrossingEvent × EngineState)} {t : EngineState} (hne : p ≠ q)
      (h : Drains (next q (segmentDirection p q)) (Passes config spread tickIndex) s trace t) :
      Sweeps config spread tickIndex p q s trace t

/-- In a segment, what executes passes, and the loop invariant is kept. -/
theorem InSegment.passes {direction : Direction} {e : CrossingEvent} {s' : EngineState}
    (h : InSegment config spread direction p q s) (hn : next q direction s = some e)
    (he : Executes config spread tickIndex s e s') :
    Passes config spread tickIndex s e s' ∧ InSegment config spread direction p q s' := by
  obtain ⟨s'', he', hc, hin, hseg⟩ := h.round hn tickIndex
  obtain rfl : s'' = s' := Except.ok.inj (he'.symm.trans he)
  obtain ⟨cursor, hseg₀⟩ := h.segment
  exact ⟨⟨h.sound, hc, (hseg₀.next_spec h.sound hn).2.2, hseg.positioned⟩, hin⟩

/-- **A tick from rest succeeds**, and the engine is at rest again when it is over. -/
theorem step_spec (h : AtRest config spread p s) (q : ℚ) (tickIndex : ℕ) :
    ∃ trace t, HedgeEngine.step config spread s q tickIndex = .ok (trace, t.closedAt q) ∧
      Sweeps config spread tickIndex p q s trace t ∧ AtRest config spread q (t.closedAt q) := by
  unfold HedgeEngine.step CrossingEngine.processTransition
  simp only [h.previousPrice_eq]
  by_cases hpq : p = q
  · subst hpq
    refine ⟨[], s, ?_, .still rfl, ⟨rfl, h.sound.arm p, List.forall_mem_map.mpr fun x hx => ?_⟩⟩
    · rw [if_pos rfl]
      rfl
    · have hx := h.settled x hx
      exact Settled.armedAt hx.tp_lt hx.lt_stop hx.le_entry fun hready => (hx.armed_iff hready).mp
  · have hfuel : rounds (segmentDirection p q) s.levels < 2 * s.levels.length + 1 :=
      Nat.lt_succ_of_le (rounds_le _ _)
    have hunspent : ∀ x ∈ s.levels, Unspent [] x (segmentDirection p q) := by
      intro x _
      cases segmentDirection p q <;> simp [Unspent]
    obtain ⟨trace, t, hdrain, hdrains⟩ := drain_eq config spread (segmentDirection p q) p q
      tickIndex _ p [] s hfuel h.sound h.segment hunspent
    have hpasses : ∀ s e t, InSegment config spread (segmentDirection p q) p q s →
        next q (segmentDirection p q) s = some e → Executes config spread tickIndex s e t →
        Passes config spread tickIndex s e t ∧
          InSegment config spread (segmentDirection p q) p q t :=
      fun _ _ _ hs hn he => hs.passes hn he
    have hend := (hdrains.invariant (fun s e t hs hn he => (hpasses s e t hs hn he).2)
      h.inSegment).1
    refine ⟨trace, t, ?_, .drained hpq (hdrains.strengthen hpasses h.inSegment),
      hend.closedAt hpq hdrains.next_final⟩
    rw [if_neg hpq, hdrain]
    rfl

/-- What a tick sweeps is what the step returns. -/
theorem Sweeps.step_eq (h : AtRest config spread p s)
    {trace : List (CrossingEvent × EngineState)}
    (hsweeps : Sweeps config spread tickIndex p q s trace t) :
    HedgeEngine.step config spread s q tickIndex = .ok (trace, t.closedAt q) := by
  obtain ⟨trace', t', hstep, hsweeps', -⟩ := step_spec h q tickIndex
  cases hsweeps with
  | still heq =>
    cases hsweeps' with
    | still => exact hstep
    | drained hne => exact absurd heq hne
  | drained hne hd =>
    cases hsweeps' with
    | still heq => exact absurd heq hne
    | drained _ hd' =>
      obtain ⟨rfl, rfl⟩ := hd.deterministic (fun _ _ _ _ h h' => h.deterministic h') hd'
      exact hstep

/-! ## Runs -/

/-- A run from rest at the price `p`: its ticks, and the engine at its end. -/
inductive Runs (config : StrategyConfig) (spread : CreditSpread) :
    ℚ → EngineState → ℕ → List ℚ → List HedgeEngine.Tick → EngineState → Prop
  | done {p : ℚ} {s : EngineState} {tickIndex : ℕ} : Runs config spread p s tickIndex [] [] s
  | tick {p q : ℚ} {s t final : EngineState} {tickIndex : ℕ} {prices : List ℚ}
      {crossings : List (CrossingEvent × EngineState)} {ticks : List HedgeEngine.Tick}
      (rest : AtRest config spread p s) (sweeps : Sweeps config spread tickIndex p q s crossings t)
      (rested : AtRest config spread q (t.closedAt q))
      (tail : Runs config spread q (t.closedAt q) (tickIndex + 1) prices ticks final) :
      Runs config spread p s tickIndex (q :: prices)
        ({ before := s, price := q, tickIndex, crossings, after := t.closedAt q } :: ticks) final

/-- **A run from rest succeeds.** -/
theorem runFrom_spec : ∀ (prices : List ℚ) {p : ℚ} {s : EngineState} (tickIndex : ℕ),
    AtRest config spread p s →
    ∃ ticks final, HedgeEngine.runFrom config spread s tickIndex prices = .ok (ticks, final) ∧
      Runs config spread p s tickIndex prices ticks final
  | [], _, s, _, _ => ⟨[], s, rfl, .done⟩
  | q :: prices, _, s, tickIndex, h => by
    obtain ⟨crossings, t, hstep, hsweeps, hrest⟩ := step_spec h q tickIndex
    obtain ⟨ticks, final, htail, hruns⟩ := runFrom_spec prices (tickIndex + 1) hrest
    refine ⟨_, final, ?_, .tick h hsweeps hrest hruns⟩
    simp only [HedgeEngine.runFrom, hstep, htail, bind, Except.bind]

theorem Runs.atRest {prices : List ℚ} {ticks : List HedgeEngine.Tick} {final : EngineState}
    (h : Runs config spread p s tickIndex prices ticks final) (hs : AtRest config spread p s) :
    AtRest config spread (prices.getLastD p) final := by
  induction h with
  | done => exact hs
  | tick _ _ rested _ ih =>
    rw [List.getLastD_cons]
    exact ih rested

/-- The state a fresh engine starts in. -/
def initialState (config : StrategyConfig) (spread : CreditSpread) : EngineState where
  levels := (List.range config.levelCount).map
    (virtualLevel spread config.levelCount config.stopRate)
  ledger := {}
  previousPrice := none

theorem generateVirtualLevels_eq (config : StrategyConfig) (spread : CreditSpread) :
    generateVirtualLevels spread config.levelCount config.stopRate =
      .ok (initialState config spread).levels := by
  have hn : config.levelCount ≠ 0 := config.levelCount_pos.ne'
  have hr : ¬ config.stopRate ≤ 0 := not_le.mpr config.stopRate_pos
  unfold generateVirtualLevels
  rw [if_neg hn, if_neg hr]
  rfl

theorem init_eq : HedgeEngine.init config spread = .ok (initialState config spread) := by
  unfold HedgeEngine.init
  rw [generateVirtualLevels_eq]
  rfl

/-- The first price only arms. -/
theorem atRest_started (config : StrategyConfig) (spread : CreditSpread) (p : ℚ) :
    AtRest config spread p ((initialState config spread).closedAt p) := by
  refine ⟨rfl, Sound.generated.arm p, List.forall_mem_map.mpr fun x hx => ?_⟩
  obtain ⟨index, -, rfl⟩ := List.mem_map.mp hx
  refine Settled.armedAt ?_ ?_ ?_ ?_ <;> intro h
  · exact absurd h (by simp [virtualLevel])
  · exact absurd h (by simp [virtualLevel])
  · exact absurd h (by simp [virtualLevel])
  · exact fun harm => absurd harm (by simp [virtualLevel])

/-- The first tick of every run. -/
def firstTick (config : StrategyConfig) (spread : CreditSpread) (p : ℚ) : HedgeEngine.Tick where
  before := initialState config spread
  price := p
  tickIndex := 0
  crossings := []
  after := (initialState config spread).closedAt p

/-- **Every run over every path succeeds**: the first price arms, and the rest is a run from
    rest. -/
theorem run_spec (config : StrategyConfig) (spread : CreditSpread) (p : ℚ) (prices : List ℚ) :
    ∃ ticks final, HedgeEngine.run config spread (p :: prices) =
        .ok (firstTick config spread p :: ticks, final) ∧
      Runs config spread p ((initialState config spread).closedAt p) 1 prices ticks final := by
  obtain ⟨ticks, final, htail, hruns⟩ :=
    runFrom_spec prices 1 (atRest_started config spread p)
  refine ⟨ticks, final, ?_, hruns⟩
  have hfirst : HedgeEngine.step config spread (initialState config spread) p 0 =
      .ok ([], (initialState config spread).closedAt p) := rfl
  simp only [HedgeEngine.run, init_eq, HedgeEngine.runFrom, hfirst, htail, bind, Except.bind]
  rfl

theorem run_nil : HedgeEngine.run config spread [] = .ok ([], initialState config spread) := by
  simp only [HedgeEngine.run, init_eq, HedgeEngine.runFrom, bind, Except.bind]

/-! ## Invariants of runs -/

/-- What every arming keeps, and every crossing that meets the condition `P` on the state before
    it. -/
structure RunInvariant (config : StrategyConfig) (spread : CreditSpread)
    (P : EngineState → CrossingEvent → Prop) (J : EngineState → Prop) : Prop where
  passes : ∀ tickIndex s e s', J s → P s e → Passes config spread tickIndex s e s' → J s'
  arms : ∀ s q, Sound config spread s.levels → J s → J (s.closedAt q)

namespace HedgeEngine.Tick

variable (tick : HedgeEngine.Tick)

/-- The points of a tick an observer sees: after each crossing, at the crossing's price, and at
    its end. -/
def points : List (ℚ × EngineState) :=
  tick.crossings.map (fun c => (c.1.price, c.2)) ++ [(tick.price, tick.after)]

/-- The crossings of a tick, each with the state it was executed in. -/
def steps : List (EngineState × CrossingEvent) := traceSteps tick.before tick.crossings

end HedgeEngine.Tick

variable {P : EngineState → CrossingEvent → Prop} {J : EngineState → Prop}

theorem Sweeps.sound_end (h : AtRest config spread p s)
    {trace : List (CrossingEvent × EngineState)}
    (hsweeps : Sweeps config spread tickIndex p q s trace t) : Sound config spread t.levels := by
  cases hsweeps with
  | still => exact h.sound
  | drained _ hd => exact (hd.invariant (fun _ _ _ _ _ he => he.sound_after) h.sound).1

theorem Sweeps.invariant (hJ : RunInvariant config spread P J)
    {trace : List (CrossingEvent × EngineState)}
    (h : Sweeps config spread tickIndex p q s trace t)
    (hP : ∀ step ∈ traceSteps s trace, P step.1 step.2) (hs : J s) :
    J t ∧ ∀ c ∈ trace, J c.2 ∧ ∃ s, J s ∧ P s c.1 ∧ Passes config spread tickIndex s c.1 c.2 := by
  cases h with
  | still => exact ⟨hs, fun c hc => absurd hc (by simp)⟩
  | drained _ hd =>
    exact Drains.invariant_of_steps
      (Q := fun e t => ∃ s, J s ∧ P s e ∧ Passes config spread tickIndex s e t)
      (fun s e t h hp _ he => ⟨hJ.passes _ s e t h hp he, s, h, hp, he⟩) hd hP hs

/-- What an invariant says of one tick of a run. -/
structure TickKeeps (config : StrategyConfig) (spread : CreditSpread)
    (P : EngineState → CrossingEvent → Prop) (J : EngineState → Prop)
    (tick : HedgeEngine.Tick) : Prop where
  after : J tick.after
  rested : AtRest config spread tick.price tick.after
  crossings : ∀ c ∈ tick.crossings,
    J c.2 ∧ ∃ s, J s ∧ P s c.1 ∧ Passes config spread tick.tickIndex s c.1 c.2

/-- At every point of the tick the invariant holds, and the open hedges are inside their exits. -/
theorem TickKeeps.point {tick : HedgeEngine.Tick} (h : TickKeeps config spread P J tick)
    {point : ℚ × EngineState} (hpoint : point ∈ tick.points) :
    J point.2 ∧ Sound config spread point.2.levels ∧
      ∀ x ∈ point.2.levels, Positioned point.1 x := by
  rcases List.mem_append.mp hpoint with hpoint | hpoint
  · obtain ⟨c, hc, rfl⟩ := List.mem_map.mp hpoint
    obtain ⟨hJ, s, -, -, hpass⟩ := h.crossings c hc
    exact ⟨hJ, hpass.sound_after, hpass.positioned⟩
  · rw [List.mem_singleton] at hpoint
    subst hpoint
    exact ⟨h.after, h.rested.sound, fun x hx => (h.rested.settled x hx).positioned⟩

theorem TickKeeps.state {tick : HedgeEngine.Tick} (h : TickKeeps config spread P J tick)
    {s : EngineState} (hs : s ∈ tick.states) : J s ∧ Sound config spread s.levels := by
  rcases List.mem_append.mp hs with hs | hs
  · obtain ⟨c, hc, rfl⟩ := List.mem_map.mp hs
    obtain ⟨hJ, s, -, -, hpass⟩ := h.crossings c hc
    exact ⟨hJ, hpass.sound_after⟩
  · rw [List.mem_singleton] at hs
    exact hs ▸ ⟨h.after, h.rested.sound⟩

/-- **The invariant rule of runs.** -/
theorem Runs.invariant (hJ : RunInvariant config spread P J) {prices : List ℚ}
    {ticks : List HedgeEngine.Tick} {final : EngineState}
    (h : Runs config spread p s tickIndex prices ticks final)
    (hP : ∀ tick ∈ ticks, ∀ step ∈ tick.steps, P step.1 step.2) (hs : J s) :
    J final ∧ ∀ tick ∈ ticks, TickKeeps config spread P J tick := by
  induction h with
  | done => exact ⟨hs, fun _ h => absurd h (by simp)⟩
  | @tick p q s t final tickIndex prices crossings ticks rest sweeps rested tail ih =>
    obtain ⟨ht, htrace⟩ := sweeps.invariant hJ (hP _ (List.mem_cons_self ..)) hs
    have hafter := hJ.arms t q (sweeps.sound_end rest) ht
    obtain ⟨hfinal, hticks⟩ := ih (fun tick h => hP tick (List.mem_cons_of_mem _ h)) hafter
    refine ⟨hfinal, fun tick htick => ?_⟩
    rcases List.mem_cons.mp htick with rfl | htick
    · exact ⟨hafter, rested, htrace⟩
    · exact hticks tick htick

/-- Soundness is itself an invariant, of every run. -/
theorem runInvariant_sound :
    RunInvariant config spread (fun _ _ => True) (fun s => Sound config spread s.levels) where
  passes := fun _ _ _ _ _ _ h => h.sound_after
  arms := fun _ q hs _ => hs.arm q

/-- The rule for a fresh run: the first price arms, and what holds then is kept. -/
theorem run_invariant (hJ : RunInvariant config spread P J) {prices : List ℚ}
    {ticks : List HedgeEngine.Tick} {final : EngineState}
    (hrun : HedgeEngine.run config spread (p :: prices) = .ok (ticks, final))
    (hP : ∀ tick ∈ ticks, ∀ step ∈ tick.steps, P step.1 step.2)
    (hs : J ((initialState config spread).closedAt p)) :
    J final ∧ ∀ tick ∈ ticks, TickKeeps config spread P J tick := by
  obtain ⟨ticks', final', hrun', hruns⟩ := run_spec config spread p prices
  obtain ⟨rfl, rfl⟩ := Prod.mk.inj (Except.ok.inj (hrun'.symm.trans hrun))
  obtain ⟨hfinal, hticks⟩ :=
    hruns.invariant hJ (fun tick h => hP tick (List.mem_cons_of_mem _ h)) hs
  refine ⟨hfinal, fun tick htick => ?_⟩
  rcases List.mem_cons.mp htick with rfl | htick
  · exact ⟨hs, atRest_started config spread p, fun c hc => absurd hc (by simp [firstTick])⟩
  · exact hticks tick htick

end CreditHedge
