import CreditHedge.Core.Runs

/-!
# Recovery claims are backed

The claim an open level holds on recovery debt is a copy: nothing in the source is marked as
spoken for. `Sound` is kept by every crossing and every arming all the same, in either recovery
mode, under either lock policy and from any start price, and it says that the copies never
overlap and never exceed what they are copies of.
-/

set_option autoImplicit false

namespace CreditHedge

/-- What it means for a level list that no recovery debt is promised twice. -/
structure NeverOverReserved (config : StrategyConfig) (levels : List HedgeLevel) : Prop where
  disjoint : ∀ level ∈ levels, ∀ level' ∈ levels, level.state = .active →
    level'.state = .active → level.levelId ≠ level'.levelId →
    ∀ claim ∈ level.activeRecoveryAllocations, ∀ claim' ∈ level'.activeRecoveryAllocations,
      claim.1 ≠ claim'.1
  backed : ∀ level ∈ levels, level.state = .active →
    ∀ claim ∈ level.activeRecoveryAllocations, 0 < claim.2 ∧
      ∃ source ∈ levels, source.levelId = claim.1 ∧ claim.2 ≤ source.recoveryDebt
  debt_nonneg : ∀ level ∈ levels, 0 ≤ level.recoveryDebt
  counted : config.recoveryMode = .distributed →
    ∀ level ∈ levels, 0 < level.recoveryDebt ↔ 0 < level.recoveryTpsRemaining

variable {config : StrategyConfig} {spread : CreditSpread}

theorem Sound.neverOverReserved {levels : List HedgeLevel} (hs : Sound config spread levels) :
    NeverOverReserved config levels where
  disjoint := fun level hl level' hl' hact hact' hne claim hc claim' hc' heq =>
    hne (hs.distinct level hl level' hl' hact hact' claim hc claim' hc' heq)
  backed := by
    intro level hl hact claim hclaim
    rcases hs.claims level hl hact with ⟨hnil, -⟩ | ⟨source, hc⟩
    · rw [hnil] at hclaim
      exact absurd hclaim (by simp)
    · rw [hc.allocations, List.mem_singleton] at hclaim
      subst hclaim
      exact ⟨recoveryShare_pos (hs.level source hc.source_mem) hc.debt_pos,
        source, hc.source_mem, rfl, recoveryShare_le⟩
  debt_nonneg := fun level hl => (hs.level level hl).debt_nonneg
  counted := fun hm level hl => (hs.level level hl).tps_pos_iff hm

/-- **Recovery claims are never over-reserved.** Every run succeeds, so no assertion of the
    handlers ever fails, and in every state it reaches no debt is promised twice. -/
theorem recovery_never_overReserved (config : StrategyConfig) (spread : CreditSpread)
    (prices : List ℚ) :
    ∃ ticks final, HedgeEngine.run config spread prices = .ok (ticks, final) ∧
      NeverOverReserved config final.levels ∧
      ∀ tick ∈ ticks, ∀ s ∈ tick.states, NeverOverReserved config s.levels := by
  cases prices with
  | nil =>
    exact ⟨[], _, run_nil, Sound.generated.neverOverReserved, fun _ h => absurd h (by simp)⟩
  | cons p prices =>
    obtain ⟨ticks, final, hrun, -⟩ := run_spec config spread p prices
    obtain ⟨hfinal, hticks⟩ := run_invariant runInvariant_sound hrun
      (fun _ _ _ _ => trivial) (atRest_started config spread p).sound
    exact ⟨_, final, hrun, hfinal.neverOverReserved,
      fun tick htick s hs => ((hticks tick htick).state hs).2.neverOverReserved⟩

end CreditHedge
