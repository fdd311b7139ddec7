import CreditHedge.Core.Conservation
import CreditHedge.Core.Frontier

/-!
# How many events a run records

A price can cross the same entry as often as it likes, and the engine records what it does each
time. What ends this is money. A level moves through its states in a circle (ready, open, and back
by a stop or a breakeven exit) or out of it (paid or locked), so the ledger is as long as two events
a turn and what the levels have left on the way (`Counted.events`). A turn by a stop costs at least
the stop of the option position's own size, and the stops of a run that starts at the short strike
fit in the premium. So without floor hedges, which come back for nothing, no path is long enough to
make the ledger longer than the premium allows.
-/

set_option autoImplicit false

namespace CreditHedge

/-- The events a level has behind it since it was last ready. -/
def LevelState.eventsSince : LevelState → ℤ
  | .ready => 0
  | .active => 1
  | .paid => 2
  | .locked => 1

theorem LevelState.eventsSince_le (state : LevelState) : state.eventsSince ≤ 2 := by
  cases state <;> decide

/-- What the levels have behind them. -/
def underway (levels : List HedgeLevel) : ℤ :=
  (levels.map fun x => x.state.eventsSince).sum

/-- The least a stop can lose. -/
def leastLoss (config : StrategyConfig) (spread : CreditSpread) : ℚ :=
  spread.optionQuantity * spread.longPutStrike * config.stopRate

variable {config : StrategyConfig} {spread : CreditSpread} {levels : List HedgeLevel}
  {level : HedgeLevel} {s t : EngineState} {e : CrossingEvent} {tickIndex : ℕ} {p : ℚ}

theorem leastLoss_pos (config : StrategyConfig) (spread : CreditSpread) :
    0 < leastLoss config spread :=
  mul_pos (mul_pos spread.optionQuantity_pos spread.longPutStrike_pos) config.stopRate_pos

/-- An open hedge is at least as large as the option position, and stops above the long strike. -/
theorem Sound.leastLoss_le (hs : Sound config spread levels) (hl : level ∈ levels)
    (active : level.state = .active) : leastLoss config spread ≤ level.stopLoss := by
  have hlong := (hs.ladder.long_le_tpPrice hl).trans (hs.ladder.tpPrice_lt_entryPrice hl).le
  have hdistance : level.stopDistance = level.entryPrice * config.stopRate := by
    unfold HedgeLevel.stopDistance
    rw [hs.ladder.stopPrice_eq level hl]
    ring
  calc leastLoss config spread
      = spread.optionQuantity * (spread.longPutStrike * config.stopRate) := mul_assoc ..
    _ ≤ level.activeQuantity * level.stopDistance := by
      rw [hdistance]
      exact mul_le_mul (hs.optionQuantity_le hl active)
        (mul_le_mul_of_nonneg_right hlong config.stopRate_pos.le)
        (mul_pos spread.longPutStrike_pos config.stopRate_pos).le
        ((hs.level level hl).quantity_pos active).le

/-! ## One crossing -/

theorem underway_map (hs : Sound config spread levels) (hl : level ∈ levels)
    {g : HedgeLevel → HedgeLevel}
    (hother : ∀ x ∈ levels, x.levelId ≠ level.levelId → (g x).state = x.state) :
    underway (levels.map g) =
      underway levels + ((g level).state.eventsSince - level.state.eventsSince) := by
  unfold underway
  rw [List.map_map, hs.ladder.numbered.sum_map_eq_add hl (f := fun x => x.state.eventsSince)]
  · rfl
  · intro x hx hne
    simp only [Function.comp_apply, hother x hx hne]

theorem underway_updating (hs : Sound config spread levels) (hl : level ∈ levels)
    (f : HedgeLevel → HedgeLevel) :
    underway (levels.map (HedgeLevel.updating level.levelId f)) =
      underway levels + ((f level).state.eventsSince - level.state.eventsSince) := by
  rw [underway_map hs hl fun x _ hne => by rw [HedgeLevel.updating_of_ne hne],
    HedgeLevel.updating_self]

/-- What a state counts: two events for every turn that came back, and those of the turns that are
    still under way. -/
structure Counted (config : StrategyConfig) (spread : CreditSpread) (s : EngineState) : Prop where
  events : (s.ledger.events.length : ℤ) =
    2 * (s.ledger.stops + s.ledger.breakevenExits) + underway s.levels
  losses : s.ledger.stops * leastLoss config spread ≤ s.ledger.grossStopLosses

theorem Counted.passes (h : Counted config spread s) (hp : Passes config spread tickIndex s e t) :
    Counted config spread t := by
  have hs := hp.sound
  obtain ⟨hevents, hlosses⟩ := h
  cases hp.crosses with
  | opened hl ready =>
    refine ⟨?_, hlosses⟩
    rw [underway_updating hs hl]
    simp only [Ledger.recordEntry, Ledger.recordOpen, Ledger.append, List.length_append,
      List.length_singleton, HedgeLevel.opening, HedgeLevel.activated, ready,
      LevelState.eventsSince]
    omega
  | floored hl ready =>
    refine ⟨?_, hlosses⟩
    rw [underway_updating hs hl]
    simp only [Ledger.recordFloorEntry, Ledger.recordOpen, Ledger.append, List.length_append,
      List.length_singleton, HedgeLevel.opening, HedgeLevel.activated, ready,
      LevelState.eventsSince]
    omega
  | lockedOut hl ready =>
    refine ⟨?_, hlosses⟩
    rw [underway_updating hs hl]
    simp only [Ledger.recordLocked, Ledger.append, List.length_append, List.length_singleton,
      HedgeLevel.lockedOut, ready, LevelState.eventsSince]
    omega
  | @paid level hl active =>
    refine ⟨?_, hlosses⟩
    have hzone := HedgeLevel.sameZone_settled config level.activeRecoveryAllocations
    have hstatus := SameStatus.settled config level.activeRecoveryAllocations
    rw [underway_map hs hl fun x _ hne => by
      rw [HedgeLevel.updating_of_ne (by rw [(hzone x).levelId]; exact hne), (hstatus x).state]]
    rw [HedgeLevel.updating_of_eq (hzone level).levelId]
    simp only [Ledger.recordTp, Ledger.append, List.length_append, List.length_singleton,
      HedgeLevel.paidOut, active, LevelState.eventsSince]
    omega
  | @stoppedOut level hl active =>
    have hleast := hs.leastLoss_le hl active
    refine ⟨?_, ?_⟩
    · rw [underway_updating hs hl]
      simp only [Ledger.recordStop, Ledger.append, List.length_append, List.length_singleton,
        HedgeLevel.stopped, active, LevelState.eventsSince]
      omega
    · simp only [Ledger.recordStop, Ledger.append]
      push_cast
      linarith
  | brokeEven hl active =>
    refine ⟨?_, hlosses⟩
    rw [underway_updating hs hl]
    simp only [Ledger.recordBreakeven, Ledger.append, List.length_append, List.length_singleton,
      HedgeLevel.brokenEven, active, LevelState.eventsSince]
    omega

/-- Without the floor policy there is never a floor hedge, and so never a breakeven exit. -/
structure Unfloored (s : EngineState) : Prop where
  fixed : ∀ x ∈ s.levels, x.activeIsFloor = false
  breakevenExits : s.ledger.breakevenExits = 0

theorem Unfloored.passes (hpolicy : config.lockPolicy = .unhedged) (h : Unfloored s)
    (hp : Passes config spread tickIndex s e t) : Unfloored t := by
  have hs := hp.sound
  have hone : ∀ {level : HedgeLevel}, level ∈ s.levels → ∀ {f : HedgeLevel → HedgeLevel},
      (f level).activeIsFloor = false →
      ∀ x ∈ s.levels.map (HedgeLevel.updating level.levelId f), x.activeIsFloor = false := by
    intro level hl f hf
    refine List.forall_mem_map.mpr fun x hx => ?_
    rcases hs.ladder.updating_cases hl hx f with ⟨-, heq⟩ | ⟨-, heq⟩
    · rw [heq]
      exact hf
    · rw [heq]
      exact h.fixed x hx
  cases hp.crosses with
  | opened hl => exact ⟨hone hl rfl, h.breakevenExits⟩
  | floored _ _ _ _ _ policy => exact absurd (hpolicy.symm.trans policy) (by simp)
  | @lockedOut level hl => exact ⟨hone hl (h.fixed level hl), h.breakevenExits⟩
  | @paid level hl active =>
    refine ⟨List.forall_mem_map.mpr fun x hx => ?_, h.breakevenExits⟩
    have hsettled := (SameStatus.settled config level.activeRecoveryAllocations x).activeIsFloor
    unfold HedgeLevel.updating
    split
    · rfl
    · rw [hsettled]
      exact h.fixed x hx
  | @stoppedOut level hl => exact ⟨hone hl (h.fixed level hl), h.breakevenExits⟩
  | @brokeEven level hl _ floor => exact absurd ((h.fixed level hl).symm.trans floor) (by simp)

/-! ## Runs -/

theorem Counted.closedAt (h : Counted config spread s) (q : ℚ) :
    Counted config spread (s.closedAt q) := by
  refine ⟨?_, h.losses⟩
  have hunderway : underway (s.closedAt q).levels = underway s.levels := by
    unfold underway
    rw [EngineState.closedAt_levels, List.map_map]
    refine congrArg List.sum (List.map_congr_left fun x _ => ?_)
    simp only [Function.comp_apply, HedgeLevel.armedAt_state]
  rw [hunderway]
  exact h.events

theorem Counted.initial (config : StrategyConfig) (spread : CreditSpread) :
    Counted config spread (initialState config spread) := by
  refine ⟨?_, by simp [initialState]⟩
  have hunderway : underway (initialState config spread).levels = 0 := by
    refine List.sum_eq_zero fun v hv => ?_
    obtain ⟨x, hx, rfl⟩ := List.mem_map.mp hv
    obtain ⟨index, -, rfl⟩ := List.mem_map.mp hx
    rfl
  rw [hunderway]
  rfl

theorem Unfloored.closedAt (h : Unfloored s) (q : ℚ) : Unfloored (s.closedAt q) := by
  refine ⟨List.forall_mem_map.mpr fun x hx => ?_, h.breakevenExits⟩
  rw [HedgeLevel.armedAt_activeIsFloor]
  exact h.fixed x hx

theorem Unfloored.initial (config : StrategyConfig) (spread : CreditSpread) :
    Unfloored (initialState config spread) :=
  ⟨List.forall_mem_map.mpr fun _ _ => rfl, rfl⟩

theorem runInvariant_counted :
    RunInvariant config spread (fun _ _ => True) fun s =>
      Counted config spread s ∧ (config.lockPolicy = .unhedged → Unfloored s) where
  passes := fun _ _ _ _ h _ hp => ⟨h.1.passes hp, fun hpolicy => (h.2 hpolicy).passes hpolicy hp⟩
  arms := fun _ q _ h => ⟨h.1.closedAt q, fun hpolicy => (h.2 hpolicy).closedAt q⟩

theorem runInvariant_onFrontier :
    RunInvariant config spread (fun _ _ => True) (OnFrontier spread) where
  passes := fun _ _ _ _ h _ hp => h.passes hp
  arms := fun _ q _ h => h.closedAt q

theorem underway_le (h : Ladder config spread levels) :
    underway levels ≤ 2 * config.levelCount := by
  unfold underway
  calc (levels.map fun x => x.state.eventsSince).sum
      ≤ (levels.map fun _ => (2 : ℤ)).sum := List.sum_le_sum fun x _ => x.state.eventsSince_le
    _ = 2 * config.levelCount := by
      rw [List.map_const', List.sum_replicate, h.length_eq, nsmul_eq_mul, mul_comm]

/-- **No path is too long for the ledger.** From the short strike on, in either recovery mode, the
    stops of a run fit in the premium, and all its events are two for each stop and breakeven exit
    and two for each level. Without floor hedges there are no breakeven exits, and the premium and
    the number of levels bound the ledger of every path. -/
theorem ledger_bounded (config : StrategyConfig) (spread : CreditSpread) {p : ℚ}
    (prices : List ℚ) (h : spread.shortPutStrike ≤ p) :
    ∃ ticks final, HedgeEngine.run config spread (p :: prices) = .ok (ticks, final) ∧
      ∀ tick ∈ ticks, ∀ s ∈ tick.states,
        s.ledger.stops * leastLoss config spread ≤ spread.premiumCredit ∧
        s.ledger.events.length ≤
          2 * (s.ledger.stops + s.ledger.breakevenExits) + 2 * config.levelCount ∧
        (config.lockPolicy = .unhedged → (s.ledger.events.length : ℚ) ≤
          2 * (spread.premiumCredit / leastLoss config spread) + 2 * config.levelCount) := by
  obtain ⟨ticks, final, hrun, -⟩ := run_spec config spread p prices
  obtain ⟨-, hcounted⟩ := run_invariant runInvariant_counted hrun (fun _ _ _ _ => trivial)
    ⟨(Counted.initial config spread).closedAt p,
      fun _ => (Unfloored.initial config spread).closedAt p⟩
  obtain ⟨-, hfrontier⟩ := run_invariant runInvariant_onFrontier hrun (fun _ _ _ _ => trivial)
    (OnFrontier.started config h)
  refine ⟨_, final, hrun, fun tick htick s hs => ?_⟩
  obtain ⟨⟨hcount, hunfloored⟩, hsound⟩ := (hcounted tick htick).state hs
  have hgross := ((hfrontier tick htick).state hs).1.balanced.budget.gross_le hsound
  have hstops : s.ledger.stops * leastLoss config spread ≤ spread.premiumCredit :=
    hcount.losses.trans hgross
  have hlength : s.ledger.events.length ≤
      2 * (s.ledger.stops + s.ledger.breakevenExits) + 2 * config.levelCount := by
    have hunderway := underway_le hsound.ladder
    have hevents := hcount.events
    omega
  refine ⟨hstops, hlength, fun hpolicy => ?_⟩
  have hcovered : (s.ledger.stops : ℚ) ≤ spread.premiumCredit / leastLoss config spread :=
    (le_div_iff₀ (leastLoss_pos config spread)).mpr hstops
  rw [(hunfloored hpolicy).breakevenExits, add_zero] at hlength
  calc (s.ledger.events.length : ℚ)
      ≤ 2 * s.ledger.stops + 2 * config.levelCount := by exact_mod_cast hlength
    _ ≤ 2 * (spread.premiumCredit / leastLoss config spread) + 2 * config.levelCount := by
      linarith

/-- A premium of two, and levels that lose about three halves a stop. -/
theorem ledger_bounded_downAndUp :
    ∃ ticks final, HedgeEngine.run (tenLevels .fullNextTp .unhedged) narrowSpread
        [1000, 1999 / 2, 1002, 1999 / 2, 1002] = .ok (ticks, final) ∧
      ∀ tick ∈ ticks, ∀ s ∈ tick.states, s.ledger.stops *
        leastLoss (tenLevels .fullNextTp .unhedged) narrowSpread ≤ narrowSpread.premiumCredit := by
  obtain ⟨ticks, final, hrun, hticks⟩ := ledger_bounded (tenLevels .fullNextTp .unhedged)
    narrowSpread [1999 / 2, 1002, 1999 / 2, 1002] (le_refl 1000)
  exact ⟨ticks, final, hrun, fun tick htick s hs => (hticks tick htick s hs).1⟩

end CreditHedge
