import CreditHedge.Core.Accounting
import Mathlib.Tactic.NormNum

/-!
# The premium stop budget

`_open` compares the realised stop losses and the new level's own projected loss with the premium.
The hedges open at that moment, whose stops may still be hit, are not in the comparison. So the
budget is kept as long as their risk would have fitted in too (`Covered`): then what is lost and
what is at risk stay within the premium together. It is overspent when it would not have, which
takes two hedges open at once, and so a path that starts below a level it later opens.
-/

set_option autoImplicit false

namespace CreditHedge

variable (config : StrategyConfig) (spread : CreditSpread)

/-- An entry the source affords is also affordable with the risk already open. -/
def Covered (s : EngineState) (e : CrossingEvent) : Prop :=
  ∀ level ∈ s.levels, e = level.entryCrossing → ¬ Refused config spread s level →
    s.usedStopBudget + HedgeEngine.projectedStopLoss config s.levels level + openRisk s.levels ≤
      spread.premiumCredit

instance (s : EngineState) (level : HedgeLevel) : Decidable (Refused config spread s level) :=
  inferInstanceAs (Decidable (_ > _))

instance (s : EngineState) (e : CrossingEvent) : Decidable (Covered config spread s e) :=
  inferInstanceAs (Decidable (∀ level ∈ s.levels, _ → _ → _))

/-- What is lost and what is at risk, within the premium. -/
def WithinBudget (s : EngineState) : Prop :=
  s.ledger.grossStopLosses + openRisk s.levels ≤ spread.premiumCredit

variable {config spread} {p q : ℚ} {s t : EngineState}

theorem WithinBudget.gross_le (hs : Sound config spread s.levels) (h : WithinBudget spread s) :
    s.ledger.grossStopLosses ≤ spread.premiumCredit := by
  have := hs.openRisk_nonneg
  unfold WithinBudget at h
  linarith

/-- A crossing keeps the budget if the risk it takes on was covered: a stop turns risk into loss,
    and nothing else adds to either. -/
theorem WithinBudget.passes {tickIndex : ℕ} {e : CrossingEvent}
    (h : WithinBudget spread s) (hc : Covered config spread s e)
    (hp : Passes config spread tickIndex s e t) : WithinBudget spread t := by
  obtain ⟨paid, repaid, lost, taken, shed, hposts, htaken⟩ := hp.crosses.posts hp.sound
  have hshed := hposts.lost_le_shed
  unfold WithinBudget at h ⊢
  rw [hposts.gross, hposts.risk]
  rcases htaken with rfl | ⟨level, hl, he, -, -, -, hafford, rfl⟩
  · linarith
  · have := hc level hl he hafford
    unfold EngineState.usedStopBudget at this
    linarith

theorem WithinBudget.closedAt (h : WithinBudget spread s) (q : ℚ) :
    WithinBudget spread (s.closedAt q) := by
  unfold WithinBudget
  rw [openRisk_closedAt]
  exact h

theorem runInvariant_withinBudget :
    RunInvariant config spread (Covered config spread) (WithinBudget spread) where
  passes := fun _ _ _ _ h hc hp => h.passes hc hp
  arms := fun _ q _ h => h.closedAt q

theorem WithinBudget.started : WithinBudget spread ((initialState config spread).closedAt p) := by
  unfold WithinBudget
  rw [openRisk_closedAt, totals_initial.2.2, add_zero]
  exact spread.premiumCredit_nonneg

/-- **The stop budget of a covered run.** If every entry of a run is covered, the gross stop losses
    stay within the premium in every state, and no snapshot shows a negative remaining budget. -/
theorem stopBudget_of_covered {prices : List ℚ} {ticks : List HedgeEngine.Tick}
    {final : EngineState} (hrun : HedgeEngine.run config spread prices = .ok (ticks, final))
    (hcovered : ∀ tick ∈ ticks, ∀ step ∈ tick.steps, Covered config spread step.1 step.2) :
    (∀ tick ∈ ticks, ∀ s ∈ tick.states, s.ledger.grossStopLosses ≤ spread.premiumCredit ∧
      0 ≤ s.remainingStopBudget spread) ∧
    ∀ result, HedgeEngine.accountingRun config spread prices = .ok result →
      ∀ snapshot ∈ result.snapshots, 0 ≤ snapshot.remainingPremiumStopBudget := by
  cases prices with
  | nil =>
    rw [run_nil] at hrun
    obtain ⟨rfl, rfl⟩ := Prod.mk.inj (Except.ok.inj hrun)
    refine ⟨fun _ h => absurd h (by simp), fun result hresult => ?_⟩
    simp [HedgeEngine.accountingRun, HedgeEngine.runWithAccounting, init_eq, initialState, bind,
      Except.bind] at hresult
  | cons p prices =>
    obtain ⟨-, hticks⟩ := run_invariant runInvariant_withinBudget hrun hcovered
      WithinBudget.started
    refine ⟨fun tick htick s hs => ?_, fun result hresult snapshot hsnapshot => ?_⟩
    · obtain ⟨hbudget, hsound⟩ := (hticks tick htick).state hs
      exact ⟨hbudget.gross_le hsound, sub_nonneg.mpr (hbudget.gross_le hsound)⟩
    · obtain ⟨ticks', final', result', hrun', -, hresult', hreports⟩ :=
        accountingRun_spec config spread p prices
      obtain ⟨rfl, rfl⟩ := Prod.mk.inj (Except.ok.inj (hrun'.symm.trans hrun))
      obtain rfl := Except.ok.inj (hresult'.symm.trans hresult)
      rw [hreports.snapshots_eq] at hsnapshot
      obtain ⟨tick, htick, point, hpt, seq, rfl⟩ := mem_snapshotsOf hsnapshot
      obtain ⟨hbudget, hsound, -⟩ := (hticks tick htick).point hpt
      exact sub_nonneg.mpr (hbudget.gross_le hsound)

/-! ## The budget overspent

A path that starts at the second level's entry opens the second level before the first: the first
is opened while the second is still open, and both are stopped out. -/

/-- A spread of width ten that earned a premium of two. -/
def narrowSpread : CreditSpread where
  spot := 1000
  shortPutStrike := 1000
  longPutStrike := 990
  optionQuantity := 1
  premiumCredit := 2
  spot_pos := by norm_num
  strikes_lt := by norm_num
  longPutStrike_pos := by norm_num
  optionQuantity_pos := by norm_num
  premiumCredit_nonneg := by norm_num
  premiumCredit_le := by norm_num

/-- Ten levels and the default stop rate. -/
def tenLevels (recoveryMode : RecoveryMode) (lockPolicy : LockPolicy) : StrategyConfig where
  levelCount := 10
  stopRate := 15 / 10000
  recoveryMode
  lockPolicy
  recoveryTpCount := 3
  levelCount_pos := by norm_num
  stopRate_pos := by norm_num
  recoveryTpCount_pos := by norm_num

theorem stopBudget_overspent :
    ¬ ∀ (config : StrategyConfig) (spread : CreditSpread) (prices : List ℚ)
      (ticks : List HedgeEngine.Tick) (final : EngineState),
      HedgeEngine.run config spread prices = .ok (ticks, final) →
      final.ledger.grossStopLosses ≤ spread.premiumCredit := by
  intro h
  obtain ⟨ticks, final, hrun, -⟩ :=
    run_spec (tenLevels .fullNextTp .unhedged) narrowSpread 999 [1997 / 2, 1000, 1999 / 2, 1002]
  have hgross : (match HedgeEngine.run (tenLevels .fullNextTp .unhedged) narrowSpread
        [999, 1997 / 2, 1000, 1999 / 2, 1002] with
      | .ok (_, final) => decide (2 < final.ledger.grossStopLosses)
      | .error _ => false) = true := by decide +kernel
  rw [hrun] at hgross
  exact absurd (h _ _ _ _ _ hrun) (not_le.mpr (of_decide_eq_true hgross))

/-- From the short strike: the first level is stopped out once, the budget then refuses its next
    entry, and the level comes back as a floor hedge. Every entry is covered. -/
theorem stopBudget_of_covered_stopAndFloor :
    ∃ ticks final, HedgeEngine.run (tenLevels .fullNextTp .breakevenFloor) narrowSpread
        [1000, 1999 / 2, 1002, 1999 / 2, 1002] = .ok (ticks, final) ∧
      ∀ tick ∈ ticks, ∀ s ∈ tick.states, s.ledger.grossStopLosses ≤ 2 ∧
        0 ≤ s.remainingStopBudget narrowSpread := by
  obtain ⟨ticks, final, hrun, -⟩ := run_spec (tenLevels .fullNextTp .breakevenFloor)
    narrowSpread 1000 [1999 / 2, 1002, 1999 / 2, 1002]
  have hcovered : (match HedgeEngine.run (tenLevels .fullNextTp .breakevenFloor) narrowSpread
        [1000, 1999 / 2, 1002, 1999 / 2, 1002] with
      | .ok (ticks, _) => decide (∀ tick ∈ ticks, ∀ step ∈ tick.steps,
          Covered (tenLevels .fullNextTp .breakevenFloor) narrowSpread step.1 step.2)
      | .error _ => false) = true := by decide +kernel
  rw [hrun] at hcovered
  exact ⟨_, final, hrun, (stopBudget_of_covered hrun (of_decide_eq_true hcovered)).1⟩

end CreditHedge
