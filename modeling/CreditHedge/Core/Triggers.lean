import CreditHedge.Core.Runs

/-!
# No trigger is missed and none fires twice

Eligibility is tested against the price a segment started at, so a hedge left on the wrong side of
its own exit would stay open for ever. It never is: after every tick each open hedge is inside its
exits, and each ready level is armed exactly when its history says so.

The history is read off the ticks alone (`wasArmed`): an entry of the level disarms it, a stop or
a breakeven of it arms it, and so does a tick that ends at or above its entry while it is ready.
-/

set_option autoImplicit false

namespace CreditHedge

open CrossingEngine (segmentDirection)

/-! ## The history of a level -/

/-- What a crossing does to the armed flag of the level numbered `levelId`. -/
def CrossingEvent.arms (levelId : ℕ) (armed : Bool) (event : CrossingEvent) : Bool :=
  if event.levelId = levelId then
    match event.eventType with
    | .entry => false
    | .stop | .breakeven => true
    | .tp => armed
  else armed

/-- What the end of a tick does to it. -/
def armsAtEnd (levelId : ℕ) (price : ℚ) (levels : List HedgeLevel) (armed : Bool) : Bool :=
  armed || levels.any fun level =>
    level.levelId = levelId ∧ level.state = .ready ∧ level.entryPrice ≤ price

/-- What a whole tick does to it. -/
def HedgeEngine.Tick.arms (levelId : ℕ) (armed : Bool) (tick : HedgeEngine.Tick) : Bool :=
  armsAtEnd levelId tick.price tick.after.levels
    (tick.crossings.foldl (fun armed c => c.1.arms levelId armed) armed)

/-- Armed since it was last opened, going by the history of the run. -/
def wasArmed (levelId : ℕ) (ticks : List HedgeEngine.Tick) : Bool :=
  ticks.foldl (HedgeEngine.Tick.arms levelId) false

/-- The flags agree with the history `armed`. -/
def Follows (armed : ℕ → Bool) (s : EngineState) : Prop :=
  ∀ x ∈ s.levels, x.state = .ready → x.entryArmed = armed x.levelId

variable {config : StrategyConfig} {spread : CreditSpread} {p q : ℚ} {s s' t : EngineState}
  {e : CrossingEvent} {tickIndex : ℕ} {armed : ℕ → Bool}

theorem Follows.passes (h : Follows armed s) (hp : Passes config spread tickIndex s e s') :
    Follows (fun levelId => e.arms levelId (armed levelId)) s' := by
  obtain ⟨g, hlevels, hzone, hother, x₀, hx₀, hid, hturn⟩ := hp.crosses.turns
  unfold Follows
  rw [hlevels]
  refine List.forall_mem_map.mpr fun x hx hready => ?_
  rw [(hzone x hx).levelId]
  change _ = CrossingEvent.arms x.levelId (armed x.levelId) e
  by_cases hxid : x.levelId = e.levelId
  · obtain rfl := hp.sound.ladder.eq_of_levelId_eq hx hx₀ (hxid.trans hid.symm)
    unfold CrossingEvent.arms
    rw [if_pos hxid.symm]
    cases hturn with
    | opened _ _ state _ => rw [state] at hready; exact absurd hready (by simp)
    | lockedOut _ _ state _ => rw [state] at hready; exact absurd hready (by simp)
    | paid _ state _ => rw [state] at hready; exact absurd hready (by simp)
    | stoppedOut _ _ _ entryArmed => exact entryArmed
    | brokeEven _ _ _ entryArmed => exact entryArmed
  · have hstatus := hother x hx hxid
    rw [hstatus.state] at hready
    unfold CrossingEvent.arms
    rw [if_neg (Ne.symm hxid), hstatus.entryArmed]
    exact h x hx hready

theorem Follows.drains {pick : EngineState → Option CrossingEvent}
    {trace : List (CrossingEvent × EngineState)}
    (hd : Drains pick (Passes config spread tickIndex) s trace t) (h : Follows armed s) :
    Follows (fun levelId => trace.foldl (fun armed c => c.1.arms levelId armed)
      (armed levelId)) t := by
  induction hd generalizing armed with
  | done => exact h
  | step _ he _ ih => exact ih (h.passes he)

theorem Follows.sweeps {trace : List (CrossingEvent × EngineState)} (h : Follows armed s)
    (hsweeps : Sweeps config spread tickIndex p q s trace t) :
    Follows (fun levelId => trace.foldl (fun armed c => c.1.arms levelId armed)
      (armed levelId)) t := by
  cases hsweeps with
  | still => exact h
  | drained _ hd => exact h.drains hd

theorem Follows.closedAt (hs : Sound config spread t.levels) (h : Follows armed t) :
    Follows (fun levelId => armsAtEnd levelId q (t.closedAt q).levels (armed levelId))
      (t.closedAt q) := by
  refine List.forall_mem_map.mpr fun x hx hready => ?_
  have hz : SameZone x (x.armedAt q) := SameZone.armedAt q
  rw [HedgeLevel.armedAt_state] at hready
  have hany : (t.closedAt q).levels.any (fun level =>
      level.levelId = (x.armedAt q).levelId ∧ level.state = .ready ∧ level.entryPrice ≤ q) =
      decide (x.entryPrice ≤ q) := by
    rw [Bool.eq_iff_iff, List.any_eq_true, decide_eq_true_iff]
    constructor
    · rintro ⟨y, hy, hyq⟩
      obtain ⟨hid, -, hle⟩ := of_decide_eq_true hyq
      have heq := (hs.arm q).ladder.eq_of_levelId_eq hy (List.mem_map_of_mem hx) hid
      rw [heq, hz.entryPrice] at hle
      exact hle
    · intro hle
      refine ⟨x.armedAt q, List.mem_map_of_mem hx, decide_eq_true ⟨rfl, ?_, ?_⟩⟩
      · rw [HedgeLevel.armedAt_state]
        exact hready
      · rw [hz.entryPrice]
        exact hle
  change _ = armsAtEnd (x.armedAt q).levelId q (t.closedAt q).levels (armed (x.armedAt q).levelId)
  unfold armsAtEnd
  rw [hany, Bool.eq_iff_iff, HedgeLevel.armedAt_entryArmed, hz.levelId, ← h x hx hready,
    Bool.or_eq_true, decide_eq_true_iff]
  simp [hready]

theorem Runs.follows {prices : List ℚ} {ticks : List HedgeEngine.Tick} {final : EngineState}
    (h : Runs config spread p s tickIndex prices ticks final) (hs : Follows armed s) :
    ∀ before tick after, ticks = before ++ tick :: after →
      Follows (fun levelId =>
        (before ++ [tick]).foldl (HedgeEngine.Tick.arms levelId) (armed levelId)) tick.after := by
  induction h generalizing armed with
  | done => exact fun before _ _ heq => absurd heq (by simp)
  | @tick p q s t final tickIndex prices crossings ticks rest sweeps rested tail ih =>
    intro before tick after heq
    have hfirst := (hs.sweeps sweeps).closedAt (q := q) (sweeps.sound_end rest)
    cases before with
    | nil =>
      obtain ⟨rfl, -⟩ := List.cons.inj heq
      exact hfirst
    | cons first before =>
      rw [List.cons_append, List.cons.injEq] at heq
      obtain ⟨rfl, heq⟩ := heq
      exact ih hfirst before tick after heq

/-! ## Paid and locked levels -/

/-- A level gone for good in `s` is in the same state in `s'`. -/
def StaysRetired (s s' : EngineState) : Prop :=
  ∀ x ∈ s.levels, x.Retired → ∃ y ∈ s'.levels, y.levelId = x.levelId ∧ y.state = x.state

namespace StaysRetired

theorem refl (s : EngineState) : StaysRetired s s := fun x hx _ => ⟨x, hx, rfl, rfl⟩

theorem trans (s t u : EngineState) (h : StaysRetired s t) (h' : StaysRetired t u) :
    StaysRetired s u := by
  intro x hx hr
  obtain ⟨y, hy, hid, hst⟩ := h x hx hr
  obtain ⟨z, hz, hid', hst'⟩ := h' y hy (by unfold HedgeLevel.Retired at hr ⊢; rw [hst]; exact hr)
  exact ⟨z, hz, hid'.trans hid, hst'.trans hst⟩

theorem passes (s : EngineState) (e : CrossingEvent) (t : EngineState)
    (h : Passes config spread tickIndex s e t) : StaysRetired s t := by
  obtain ⟨g, hlevels, hzone, hother, x₀, hx₀, hid, hturn⟩ := h.crosses.turns
  intro x hx hr
  refine ⟨g x, hlevels ▸ List.mem_map_of_mem hx, (hzone x hx).levelId, ?_⟩
  refine (hother x hx fun hxid => ?_).state
  obtain rfl := h.sound.ladder.eq_of_levelId_eq hx hx₀ (hxid.trans hid.symm)
  cases hturn with
  | opened ready => exact hr.not_ready ready
  | lockedOut ready => exact hr.not_ready ready
  | paid active => exact hr.not_active active
  | stoppedOut active => exact hr.not_active active
  | brokeEven active => exact hr.not_active active

theorem closedAt (s : EngineState) (q : ℚ) : StaysRetired s (s.closedAt q) := fun x hx _ =>
  ⟨x.armedAt q, List.mem_map_of_mem hx, (SameZone.armedAt q).levelId, x.armedAt_state q⟩

theorem sweeps {trace : List (CrossingEvent × EngineState)}
    (h : Sweeps config spread tickIndex p q s trace t) :
    StaysRetired s t ∧ (∀ c ∈ trace, StaysRetired s c.2 ∧ StaysRetired c.2 t) ∧
      (trace.map Prod.snd).Pairwise StaysRetired := by
  cases h with
  | still => exact ⟨refl s, fun _ h => absurd h (by simp), List.Pairwise.nil⟩
  | drained _ hd => exact hd.pairwise refl trans passes

end StaysRetired

theorem Runs.staysRetired {prices : List ℚ} {ticks : List HedgeEngine.Tick}
    {final : EngineState} (h : Runs config spread p s tickIndex prices ticks final) :
    (∀ u ∈ ticks.flatMap HedgeEngine.Tick.states, StaysRetired s u) ∧
      (ticks.flatMap HedgeEngine.Tick.states).Pairwise StaysRetired := by
  induction h with
  | done => exact ⟨fun _ h => absurd h (by simp), List.Pairwise.nil⟩
  | @tick p q s t final tickIndex prices crossings ticks rest sweeps rested tail ih =>
    obtain ⟨hst, htrace, hpw⟩ := StaysRetired.sweeps sweeps
    obtain ⟨hlater, hlaterpw⟩ := ih
    have hclose := StaysRetired.closedAt t q
    have hafter : ∀ u, StaysRetired u t → ∀ v ∈
        t.closedAt q :: ticks.flatMap HedgeEngine.Tick.states, StaysRetired u v := by
      intro u hu v hv
      have hut := StaysRetired.trans _ _ _ hu hclose
      rcases List.mem_cons.mp hv with rfl | hv
      · exact hut
      · exact StaysRetired.trans _ _ _ hut (hlater v hv)
    rw [List.flatMap_cons]
    simp only [HedgeEngine.Tick.states, List.append_assoc, List.singleton_append]
    refine ⟨fun u hu => ?_, List.pairwise_append.mpr
      ⟨hpw, List.pairwise_cons.mpr ⟨hlater, hlaterpw⟩, fun u hu => ?_⟩⟩
    · rcases List.mem_append.mp hu with hu | hu
      · obtain ⟨c, hc, rfl⟩ := List.mem_map.mp hu
        exact (htrace c hc).1
      · exact hafter s hst u hu
    · obtain ⟨c, hc, rfl⟩ := List.mem_map.mp hu
      exact hafter c.2 (htrace c hc).2

/-! ## The triggers -/

/-- What holds of a level after a tick at `price`, `armed` being what its history says. -/
structure Triggered (armed : Bool) (price : ℚ) (level : HedgeLevel) : Prop where
  fixed : level.state = .active → level.activeIsFloor = false →
    level.tpPrice < price ∧ price < level.stopPrice
  floor : level.state = .active → level.activeIsFloor = true →
    level.tpPrice < price ∧ price ≤ level.entryPrice
  armed_iff_history : level.state = .ready → level.entryArmed = armed
  armed_iff : level.state = .ready → (level.entryArmed = true ↔ level.entryPrice ≤ price)
  quantity_pos_iff : 0 < level.activeQuantity ↔ level.state = .active
  no_allocations : level.state ≠ .active → level.activeRecoveryAllocations = []

theorem AtRest.triggered {price : ℚ} (h : AtRest config spread price s) (armed : ℕ → Bool)
    (hf : Follows armed s) {x : HedgeLevel} (hx : x ∈ s.levels) :
    Triggered (armed x.levelId) price x where
  fixed := fun hact hfix =>
    ⟨(h.settled x hx).tp_lt hact, (h.settled x hx).lt_stop hact hfix⟩
  floor := fun hact hfl => ⟨(h.settled x hx).tp_lt hact, (h.settled x hx).le_entry hact hfl⟩
  armed_iff_history := hf x hx
  armed_iff := (h.settled x hx).armed_iff
  quantity_pos_iff := by
    refine ⟨fun hpos => ?_, (h.sound.level x hx).quantity_pos⟩
    by_contra hne
    exact absurd ((h.sound.level x hx).idle hne).1 hpos.ne'
  no_allocations := fun hne => ((h.sound.level x hx).idle hne).2.1

theorem Follows.initial : Follows (fun _ => false) (initialState config spread) :=
  List.forall_mem_map.mpr fun _ _ _ => virtualLevel_fresh.2

/-- **No trigger is missed and none fires twice.** After every tick each level stands where its
    triggers say, and a level that is paid or locked stays so in every later state. -/
theorem triggers_exact (config : StrategyConfig) (spread : CreditSpread) (prices : List ℚ) :
    ∃ ticks final, HedgeEngine.run config spread prices = .ok (ticks, final) ∧
      (∀ before tick after, ticks = before ++ tick :: after → ∀ level ∈ tick.after.levels,
        Triggered (wasArmed level.levelId (before ++ [tick])) tick.price level) ∧
      (ticks.flatMap HedgeEngine.Tick.states).Pairwise StaysRetired := by
  cases prices with
  | nil =>
    exact ⟨[], _, run_nil, fun before _ _ heq => absurd heq (by simp), List.Pairwise.nil⟩
  | cons p prices =>
    obtain ⟨ticks, final, hrun, hruns⟩ := run_spec config spread p prices
    have hstart : Follows (fun levelId => (firstTick config spread p).arms levelId false)
        ((initialState config spread).closedAt p) :=
      Follows.initial.closedAt Sound.generated
    refine ⟨_, final, hrun, fun before tick after heq level hl => ?_, ?_⟩
    · have hrest := (run_invariant runInvariant_sound hrun (fun _ _ _ _ => trivial)
        (atRest_started config spread p).sound).2 tick
        (heq ▸ List.mem_append_right _ (List.mem_cons_self ..)) |>.rested
      refine hrest.triggered (fun levelId => wasArmed levelId (before ++ [tick])) ?_ hl
      cases before with
      | nil =>
        obtain ⟨rfl, -⟩ := List.cons.inj heq
        exact hstart
      | cons first before =>
        rw [List.cons_append, List.cons.injEq] at heq
        obtain ⟨rfl, heq⟩ := heq
        exact hruns.follows hstart before tick after heq
    · obtain ⟨hlater, hpw⟩ := hruns.staysRetired
      exact List.pairwise_cons.mpr ⟨hlater, hpw⟩

end CreditHedge
