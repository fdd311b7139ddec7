import CreditHedge.Core.StopBudget

/-!
# Losses compound

In the full recovery mode a level that was stopped out comes back for its budget and for all it
has lost so far. So it comes back larger, and the next stop loses more. Both grow by the same
factor, one and the level's `riskRatio`: after `n` stops the level plays for `target n`, has lost
all of it but its budget, and earns all of it if it is paid. What a paid level keeps is its budget,
however often it was stopped out.
-/

set_option autoImplicit false

namespace CreditHedge

namespace HedgeLevel

variable (level : HedgeLevel)

/-- What a stop loses where the take-profit earns one. -/
def riskRatio : ℚ := level.stopDistance / level.tpDistance

/-- The profit the level plays for after so many stops. -/
def target (stops : ℕ) : ℚ := level.optionBudget * (1 + level.riskRatio) ^ stops

@[simp] theorem target_zero : level.target 0 = level.optionBudget := by simp [target]

theorem target_succ (stops : ℕ) :
    level.target (stops + 1) = level.target stops + level.target stops * level.riskRatio := by
  unfold target
  rw [pow_succ]
  ring

end HedgeLevel

theorem SameZone.riskRatio {x y : HedgeLevel} (h : SameZone x y) : y.riskRatio = x.riskRatio := by
  simp only [HedgeLevel.riskRatio, HedgeLevel.tpDistance, h.stopDistance, h.entryPrice, h.tpPrice]

theorem SameZone.target {x y : HedgeLevel} (h : SameZone x y) (stops : ℕ) :
    y.target stops = x.target stops := by
  simp only [HedgeLevel.target, h.riskRatio, h.optionBudget]

/-- A level's books, as a function of how often it was stopped out. -/
structure Compounds (level : HedgeLevel) : Prop where
  history : level.stopLossHistory =
    (List.range level.stopLossHistory.length).map fun stops =>
      level.target stops * level.riskRatio
  lost : level.realizedStopLosses =
    level.target level.stopLossHistory.length - level.optionBudget
  owed : level.state ≠ .paid →
    level.recoveryDebt = level.realizedStopLosses ∧ level.realizedTpProfit = 0
  paid : level.state = .paid → level.recoveryDebt = 0 ∧
    level.realizedTpProfit = level.target level.stopLossHistory.length

/-- The same with the size of the hedge: an open level is open for its whole target. -/
structure Compounded (level : HedgeLevel) : Prop extends Compounds level where
  staked : level.state = .active → level.tpProfit = level.target level.stopLossHistory.length

variable {config : StrategyConfig} {spread : CreditSpread} {levels : List HedgeLevel}
  {level x y : HedgeLevel} {s t : EngineState}

namespace Compounds

theorem generated {index : ℕ} :
    Compounds (virtualLevel spread config.levelCount config.stopRate index) where
  history := rfl
  lost := by simp [virtualLevel]
  owed := fun _ => ⟨rfl, rfl⟩
  paid := fun h => absurd h (by simp [virtualLevel])

/-- Opening, locking, arming and breaking even leave a level's books alone. -/
theorem congr (h : Compounds x) (hzone : SameZone x y)
    (hhistory : y.stopLossHistory = x.stopLossHistory)
    (hlosses : y.realizedStopLosses = x.realizedStopLosses)
    (hprofit : y.realizedTpProfit = x.realizedTpProfit) (hdebt : y.recoveryDebt = x.recoveryDebt)
    (hpaid : y.state = .paid ↔ x.state = .paid) : Compounds y where
  history := by
    simp only [hhistory, hzone.target, hzone.riskRatio]
    exact h.history
  lost := by
    rw [hlosses, hhistory, hzone.target, hzone.optionBudget]
    exact h.lost
  owed := by
    intro hne
    rw [hdebt, hlosses, hprofit]
    exact h.owed (mt hpaid.mpr hne)
  paid := by
    intro heq
    rw [hdebt, hprofit, hhistory, hzone.target]
    exact h.paid (hpaid.mp heq)

theorem armedAt (h : Compounds level) (price : ℚ) : Compounds (level.armedAt price) :=
  h.congr (SameZone.armedAt price) (by rw [HedgeLevel.armedAt_eq]) (by rw [HedgeLevel.armedAt_eq])
    (by rw [HedgeLevel.armedAt_eq]) (by rw [HedgeLevel.armedAt_eq]) (by rw [HedgeLevel.armedAt_eq])

/-- A level is debited and opened by its own debt only, so it opens for its whole target. -/
theorem tpProfit_eq (hm : config.recoveryMode = .fullNextTp) (hs : Sound config spread levels)
    (hl : level ∈ levels) (active : level.state = .active) (h : Compounds level) :
    level.tpProfit = level.target level.stopLossHistory.length := by
  have hdebt := (h.owed (by simp [active])).1
  have hlost := h.lost
  have hprofit := hs.tpProfit_eq hl active
  have hallocated : level.allocated = level.recoveryDebt := by
    rcases hs.claims level hl active with ⟨hnil, hzero⟩ | ⟨source, hc⟩
    · rw [hzero hm]
      simp [HedgeLevel.allocated, hnil]
    · obtain rfl := hs.ladder.eq_of_levelId_eq hc.source_mem hl (hc.own hm)
      rw [hc.allocated_eq]
      simp [recoveryShare, hm]
  linarith

/-- The stop of an open level loses the next term. -/
theorem stopLoss_eq (hm : config.recoveryMode = .fullNextTp) (hs : Sound config spread levels)
    (hl : level ∈ levels) (active : level.state = .active) (h : Compounds level) :
    level.stopLoss = level.target level.stopLossHistory.length * level.riskRatio := by
  have htp := (hs.ladder.tpDistance_pos hl).ne'
  rw [← h.tpProfit_eq hm hs hl active]
  unfold HedgeLevel.stopLoss HedgeLevel.tpProfit HedgeLevel.riskRatio
  field_simp

theorem stopped (hm : config.recoveryMode = .fullNextTp) (hs : Sound config spread levels)
    (hl : level ∈ levels) (active : level.state = .active) (h : Compounds level) :
    Compounds (level.stopped config level.stopLoss) := by
  have hzone : SameZone level (level.stopped config level.stopLoss) := SameZone.stopped ..
  have hhistory : (level.stopped config level.stopLoss).stopLossHistory =
      level.stopLossHistory ++ [level.stopLoss] := rfl
  have hloss := h.stopLoss_eq hm hs hl active
  obtain ⟨hdebt, hprofit⟩ := h.owed (by simp [active])
  refine ⟨?_, ?_, fun _ => ⟨?_, hprofit⟩, fun hpaid => absurd hpaid (by simp [HedgeLevel.stopped])⟩
  · simp only [hzone.target, hzone.riskRatio]
    rw [hhistory, List.length_append, List.length_singleton, List.range_succ, List.map_append,
      ← h.history, List.map_singleton, ← hloss]
  · have hlost := h.lost
    rw [hhistory, hzone.target, hzone.optionBudget, List.length_append, List.length_singleton,
      HedgeLevel.target_succ, ← hloss]
    simp only [HedgeLevel.stopped]
    linarith
  · simp only [HedgeLevel.stopped]
    rw [hdebt]

/-- A take-profit earns the target and repays the level's own debt. -/
theorem paidOut (hm : config.recoveryMode = .fullNextTp) (hs : Sound config spread levels)
    (hl : level ∈ levels) (active : level.state = .active) (h : Compounds level) :
    Compounds
      ((level.settled config level.activeRecoveryAllocations).paidOut level.tpProfit) := by
  obtain ⟨-, hprofit⟩ := h.owed (by simp [active])
  have hearned := h.tpProfit_eq hm hs hl active
  have hzone : SameZone level
      ((level.settled config level.activeRecoveryAllocations).paidOut level.tpProfit) :=
    (HedgeLevel.sameZone_settled config _ level).trans (SameZone.paidOut _)
  -- The one debt it repays is its own, and whole.
  obtain ⟨hdebt, hhistory, hlosses, hprofit'⟩ :
      (level.settled config level.activeRecoveryAllocations).recoveryDebt = 0 ∧
      (level.settled config level.activeRecoveryAllocations).stopLossHistory =
        level.stopLossHistory ∧
      (level.settled config level.activeRecoveryAllocations).realizedStopLosses =
        level.realizedStopLosses ∧
      (level.settled config level.activeRecoveryAllocations).realizedTpProfit =
        level.realizedTpProfit := by
    rcases hs.claims level hl active with ⟨hnil, hzero⟩ | ⟨source, hc⟩
    · rw [hnil, HedgeLevel.settled_nil]
      exact ⟨hzero hm, rfl, rfl, rfl⟩
    · obtain rfl := hs.ladder.eq_of_levelId_eq hc.source_mem hl (hc.own hm)
      rw [hc.allocations, HedgeLevel.settled_singleton, HedgeLevel.updating_self]
      simp [HedgeLevel.repaid, recoveryShare, hm]
  refine ⟨?_, ?_, fun hne => absurd rfl hne, fun _ => ⟨hdebt, ?_⟩⟩
  · simp only [hzone.target, hzone.riskRatio]
    simp only [HedgeLevel.paidOut, hhistory]
    exact h.history
  · rw [hzone.target, hzone.optionBudget]
    simp only [HedgeLevel.paidOut, hhistory, hlosses]
    exact h.lost
  · rw [hzone.target]
    simp only [HedgeLevel.paidOut, hhistory, hprofit', hprofit, zero_add]
    exact hearned

end Compounds

/-- **A crossing keeps every level's books.** -/
theorem Crosses.compounds {tickIndex : ℕ} {e : CrossingEvent}
    (hm : config.recoveryMode = .fullNextTp) (hs : Sound config spread s.levels)
    (hc : Crosses config spread tickIndex s e t) (h : ∀ x ∈ s.levels, Compounds x) :
    ∀ x ∈ t.levels, Compounds x := by
  have hone : ∀ {level : HedgeLevel}, level ∈ s.levels → ∀ {f : HedgeLevel → HedgeLevel},
      Compounds (f level) →
      ∀ x ∈ s.levels.map (HedgeLevel.updating level.levelId f), Compounds x := by
    intro level hl f hf
    refine List.forall_mem_map.mpr fun x hx => ?_
    rcases hs.ladder.updating_cases hl hx f with ⟨-, heq⟩ | ⟨-, heq⟩
    · rw [heq]
      exact hf
    · rw [heq]
      exact h x hx
  cases hc with
  | @opened level hl ready =>
    refine hone hl ((h level hl).congr (SameZone.activated ..) rfl rfl rfl rfl ?_)
    simp [HedgeLevel.opening, HedgeLevel.activated, ready]
  | @floored level hl ready =>
    refine hone hl ((h level hl).congr (SameZone.activated ..) rfl rfl rfl rfl ?_)
    simp [HedgeLevel.opening, HedgeLevel.activated, ready]
  | @lockedOut level hl ready =>
    refine hone hl ((h level hl).congr SameZone.lockedOut rfl rfl rfl rfl ?_)
    simp [HedgeLevel.lockedOut, ready]
  | @paid level hl active =>
    refine List.forall_mem_map.mpr fun x hx => ?_
    have hzone := HedgeLevel.sameZone_settled config level.activeRecoveryAllocations
    by_cases hid : x.levelId = level.levelId
    · obtain rfl := hs.ladder.eq_of_levelId_eq hx hl hid
      rw [HedgeLevel.updating_of_eq (hzone x).levelId]
      exact (h x hx).paidOut hm hs hx active
    · -- The one source a level repays is itself.
      have hsettled : x.settled config level.activeRecoveryAllocations = x := by
        rcases hs.claims level hl active with ⟨hnil, -⟩ | ⟨source, hc⟩
        · rw [hnil, HedgeLevel.settled_nil]
        · rw [hc.allocations, HedgeLevel.settled_singleton, hc.own hm,
            HedgeLevel.updating_of_ne hid]
      rw [hsettled, HedgeLevel.updating_of_ne hid]
      exact h x hx
  | @stoppedOut level hl active => exact hone hl ((h level hl).stopped hm hs hl active)
  | @brokeEven level hl active =>
    refine hone hl ((h level hl).congr SameZone.brokenEven rfl rfl rfl rfl ?_)
    simp [HedgeLevel.brokenEven, active]

theorem runInvariant_compounds (hm : config.recoveryMode = .fullNextTp) :
    RunInvariant config spread (fun _ _ => True) (fun s => ∀ x ∈ s.levels, Compounds x) where
  passes := fun _ _ _ _ h _ hp => hp.crosses.compounds hm hp.sound h
  arms := fun _ q _ h => List.forall_mem_map.mpr fun x hx => (h x hx).armedAt q

theorem Sound.compounded (hm : config.recoveryMode = .fullNextTp)
    (hs : Sound config spread levels) (h : ∀ x ∈ levels, Compounds x) :
    ∀ x ∈ levels, Compounded x := by
  intro x hx
  exact ⟨h x hx, fun active => (h x hx).tpProfit_eq hm hs hx active⟩

/-- **Losses compound.** In the full recovery mode, under either lock policy and over every path,
    the books of every level are the same function of its stops in every state of the run. -/
theorem stop_losses_compound (config : StrategyConfig) (spread : CreditSpread)
    (prices : List ℚ) (hm : config.recoveryMode = .fullNextTp) :
    ∃ ticks final, HedgeEngine.run config spread prices = .ok (ticks, final) ∧
      (∀ level ∈ final.levels, Compounded level) ∧
      ∀ tick ∈ ticks, ∀ s ∈ tick.states, ∀ level ∈ s.levels, Compounded level := by
  have hgenerated : ∀ x ∈ (initialState config spread).levels, Compounds x :=
    List.forall_mem_map.mpr fun _ _ => Compounds.generated
  cases prices with
  | nil =>
    exact ⟨[], _, run_nil, Sound.generated.compounded hm hgenerated, fun _ h => absurd h (by simp)⟩
  | cons p prices =>
    obtain ⟨ticks, final, hrun, hruns⟩ := run_spec config spread p prices
    have hstart := (runInvariant_compounds hm).arms _ p Sound.generated hgenerated
    obtain ⟨hfinal, hticks⟩ := run_invariant (runInvariant_compounds hm) hrun
      (fun _ _ _ _ => trivial) hstart
    have hrest := (hruns.atRest (atRest_started config spread p)).sound
    refine ⟨_, final, hrun, hrest.compounded hm hfinal, fun tick htick s hs => ?_⟩
    obtain ⟨hs, hsound⟩ := (hticks tick htick).state hs
    exact hsound.compounded hm hs

/-- A level that is stopped out, comes back for more and is stopped out again. -/
theorem stop_losses_compound_stoppedTwice :
    ∃ ticks final, HedgeEngine.run (tenLevels .fullNextTp .unhedged) narrowSpread
        [1000, 1999 / 2, 1002, 1999 / 2, 1002] = .ok (ticks, final) ∧
      ∀ level ∈ final.levels, Compounded level := by
  obtain ⟨ticks, final, hrun, hfinal, -⟩ := stop_losses_compound
    (tenLevels .fullNextTp .unhedged) narrowSpread [1000, 1999 / 2, 1002, 1999 / 2, 1002] rfl
  exact ⟨ticks, final, hrun, hfinal⟩

end CreditHedge
