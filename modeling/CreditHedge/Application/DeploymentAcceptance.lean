import CreditHedge.Domain.InstrumentRules

/-!
# Acceptance of a deployment

`application/deployment_acceptance.py`: what a shadow run is accepted by, and the stages a rollout
goes through. The transitions are judged one by one, each release against the one before it;
`rollout_keeps_notional` says what this comes to over a whole rollout. The evidence for a pilot and
for a rollback is a list of flags, and left out.
-/

set_option autoImplicit false

namespace CreditHedge

structure AcceptanceReport where
  accepted : Bool
  reasons : List String
  deriving DecidableEq, Repr

/-- `AcceptanceReport(not reasons, tuple(reasons))`. -/
def AcceptanceReport.ofReasons (reasons : List String) : AcceptanceReport :=
  { accepted := reasons.isEmpty, reasons }

/-! ## Shadow runs -/

structure ShadowAcceptanceMetricsFields where
  recordedIntents : ℕ
  reproducedIntents : ℕ
  contradictoryTransitions : ℕ
  staleDataApprovedIntents : ℕ
  invalidQuantizedIntents : ℕ
  nondeterministicRiskDecisions : ℕ
  expiryCutoffViolations : ℕ
  deriving DecidableEq, Repr

/-- `ShadowAcceptanceMetrics.__post_init__`. -/
def ShadowAcceptanceMetricsFields.check (f : ShadowAcceptanceMetricsFields) :
    Except Failure Unit := do
  refuseIf (f.recordedIntents = 0) "shadow acceptance requires at least one recorded intent"
  refuseIf (f.recordedIntents < f.reproducedIntents)
    "reproduced intents cannot exceed recorded intents"

structure ShadowAcceptanceMetrics extends ShadowAcceptanceMetricsFields where
  checked : toShadowAcceptanceMetricsFields.check = .ok ()

def ShadowAcceptanceMetrics.create :
    ShadowAcceptanceMetricsFields → Except Failure ShadowAcceptanceMetrics :=
  build ShadowAcceptanceMetricsFields.check ShadowAcceptanceMetrics.mk

def evaluateShadowAcceptance (metrics : ShadowAcceptanceMetrics) : AcceptanceReport :=
  .ofReasons
    (reportIf (metrics.reproducedIntents ≠ metrics.recordedIntents)
        "not all shadow intents reproduce offline" ++
      reportIf (metrics.contradictoryTransitions ≠ 0)
        "shadow run contains contradictory transitions" ++
      reportIf (metrics.staleDataApprovedIntents ≠ 0) "stale data approved a shadow intent" ++
      reportIf (metrics.invalidQuantizedIntents ≠ 0)
        "shadow run contains invalid quantization" ++
      reportIf (metrics.nondeterministicRiskDecisions ≠ 0)
        "shadow risk decisions are not deterministic" ++
      reportIf (metrics.expiryCutoffViolations ≠ 0) "shadow run violated the expiry cutoff")

/-! ## Rollouts -/

inductive RolloutStage where
  | oneLevel
  | multipleBaselineLevels
  | sameLevelRecovery
  | cappedQuantityIncrease
  | additionalCycles
  deriving DecidableEq, Repr

/-- The member's value. -/
def RolloutStage.number : RolloutStage → ℕ
  | oneLevel => 1
  | multipleBaselineLevels => 2
  | sameLevelRecovery => 3
  | cappedQuantityIncrease => 4
  | additionalCycles => 5

structure RolloutConfigurationFields where
  stage : RolloutStage
  maximumNotional : ℚ
  levelCount : ℤ
  recoveryEnabled : Bool
  cycleLimit : ℤ
  deriving DecidableEq

/-- `RolloutConfiguration.__post_init__`. -/
def RolloutConfigurationFields.check (f : RolloutConfigurationFields) : Except Failure Unit := do
  refuseIf (f.maximumNotional ≤ 0) "rollout maximum notional must be positive"
  refuseIf (f.levelCount ≤ 0 ∨ f.cycleLimit ≤ 0) "rollout level and cycle limits must be positive"
  refuseIf (f.stage = .oneLevel ∧
      (f.levelCount ≠ 1 ∨ f.recoveryEnabled = true ∨ f.cycleLimit ≠ 1))
    "one-level rollout must have one level, cycle, and no recovery"
  refuseIf (f.stage = .multipleBaselineLevels ∧ (f.levelCount ≤ 1 ∨ f.recoveryEnabled = true))
    "multiple baseline rollout requires levels and no recovery"
  refuseIf (3 ≤ f.stage.number ∧ f.recoveryEnabled = false)
    "recovery rollout stages require same-level recovery"

structure RolloutConfiguration extends RolloutConfigurationFields where
  checked : toRolloutConfigurationFields.check = .ok ()
  deriving DecidableEq

namespace RolloutConfiguration

/-- `complexity_increased`. -/
def ComplexityIncreased (previous candidate : RolloutConfiguration) : Prop :=
  previous.levelCount < candidate.levelCount ∨
    (candidate.recoveryEnabled = true ∧ previous.recoveryEnabled = false) ∨
    previous.cycleLimit < candidate.cycleLimit

instance (previous candidate : RolloutConfiguration) :
    Decidable (ComplexityIncreased previous candidate) :=
  inferInstanceAs (Decidable (_ ∨ _ ∨ _))

end RolloutConfiguration

def validateRolloutTransition (previous candidate : RolloutConfiguration) : AcceptanceReport :=
  .ofReasons
    (reportIf (candidate.stage.number ≠ previous.stage.number + 1)
        "rollout must advance exactly one declared stage" ++
      reportIf (candidate.maximumNotional < previous.maximumNotional)
        "rollout maximum notional cannot decrease in this workflow" ++
      reportIf (previous.ComplexityIncreased candidate ∧
          previous.maximumNotional < candidate.maximumNotional)
        "complexity and notional cannot increase in the same release")

/-- A release that may follow another. -/
def MayFollow (previous candidate : RolloutConfiguration) : Prop :=
  (validateRolloutTransition previous candidate).accepted = true

instance (previous candidate : RolloutConfiguration) : Decidable (MayFollow previous candidate) :=
  inferInstanceAs (Decidable (_ = true))

theorem mayFollow_iff {previous candidate : RolloutConfiguration} :
    MayFollow previous candidate ↔
      candidate.stage.number = previous.stage.number + 1 ∧
        previous.maximumNotional ≤ candidate.maximumNotional ∧
        (previous.ComplexityIncreased candidate →
          candidate.maximumNotional ≤ previous.maximumNotional) := by
  simp only [MayFollow, validateRolloutTransition, AcceptanceReport.ofReasons, List.isEmpty_iff,
    List.append_eq_nil_iff, reportIf_eq_nil, not_not, not_lt, not_and, and_assoc]

/-- What the checks of a configuration say of its stage. -/
theorem RolloutConfiguration.stage_checked (configuration : RolloutConfiguration) :
    (configuration.stage = .oneLevel → configuration.levelCount = 1) ∧
      (configuration.stage = .multipleBaselineLevels →
        1 < configuration.levelCount ∧ configuration.recoveryEnabled = false) ∧
      (3 ≤ configuration.stage.number → configuration.recoveryEnabled = true) := by
  have h := configuration.checked
  simp only [RolloutConfigurationFields.check, bind_unit_eq_ok, refuseIf_eq_ok] at h
  obtain ⟨-, -, hone, hmultiple, hrecovery⟩ := h
  refine ⟨fun hstage => ?_, fun hstage => ?_, fun hstage => ?_⟩
  · by_contra hlevels
    exact hone ⟨hstage, .inl hlevels⟩
  · constructor
    · by_contra hlevels
      exact hmultiple ⟨hstage, .inl (not_lt.mp hlevels)⟩
    · rw [← Bool.not_eq_true]
      exact fun henabled => hmultiple ⟨hstage, .inr henabled⟩
  · rw [← Bool.not_eq_false]
    exact fun hdisabled => hrecovery ⟨hstage, hdisabled⟩

/-- Up to the stage of recovery, every release is more complex than the one before it. -/
theorem complexityIncreased_of_mayFollow {previous candidate : RolloutConfiguration}
    (h : candidate.stage.number = previous.stage.number + 1)
    (hearly : candidate.stage.number ≤ 3) : previous.ComplexityIncreased candidate := by
  obtain ⟨hone, hmultiple, -⟩ := previous.stage_checked
  obtain ⟨-, hmultiple', hrecovery'⟩ := candidate.stage_checked
  cases hprevious : previous.stage with
  | oneLevel =>
    left
    cases hcandidate : candidate.stage with
    | multipleBaselineLevels =>
      rw [hone hprevious]
      exact (hmultiple' hcandidate).1
    | _ => simp [hprevious, hcandidate, RolloutStage.number] at h
  | multipleBaselineLevels =>
    right
    left
    rw [hprevious] at h
    exact ⟨hrecovery' (by rw [h]; decide), (hmultiple hprevious).2⟩
  | sameLevelRecovery =>
    rw [hprevious] at h
    replace h : candidate.stage.number = 4 := h
    omega
  | cappedQuantityIncrease =>
    rw [hprevious] at h
    replace h : candidate.stage.number = 5 := h
    omega
  | additionalCycles =>
    rw [hprevious] at h
    replace h : candidate.stage.number = 6 := h
    omega

/-- A later release of the same rollout. -/
structure RolloutConfiguration.Precedes (previous later : RolloutConfiguration) : Prop where
  stage_lt : previous.stage.number < later.stage.number
  notional_le : previous.maximumNotional ≤ later.maximumNotional
  notional_eq : later.stage.number ≤ 3 → later.maximumNotional = previous.maximumNotional

theorem MayFollow.precedes {previous candidate : RolloutConfiguration}
    (h : MayFollow previous candidate) : previous.Precedes candidate := by
  obtain ⟨hstage, hnotional, hcapped⟩ := mayFollow_iff.mp h
  refine ⟨by omega, hnotional, fun hearly => ?_⟩
  exact le_antisymm (hcapped (complexityIncreased_of_mayFollow hstage hearly)) hnotional

instance : IsTrans RolloutConfiguration RolloutConfiguration.Precedes where
  trans _ _ _ h h' :=
    ⟨h.stage_lt.trans h'.stage_lt, h.notional_le.trans h'.notional_le, fun hearly =>
      (h'.notional_eq hearly).trans (h.notional_eq (h'.stage_lt.le.trans hearly))⟩

theorem RolloutStage.number_mem (stage : RolloutStage) : stage.number ∈ [1, 2, 3, 4, 5] := by
  cases stage <;> decide

/-- **A rollout**: five releases at the most, whose notional never falls, and does not rise before
    recovery has been rolled out. -/
theorem rollout_keeps_notional {releases : List RolloutConfiguration}
    (h : releases.IsChain MayFollow) :
    releases.Pairwise RolloutConfiguration.Precedes ∧ releases.length ≤ 5 := by
  have hpairwise : releases.Pairwise RolloutConfiguration.Precedes :=
    List.isChain_iff_pairwise.mp (h.imp fun _ _ => MayFollow.precedes)
  refine ⟨hpairwise, ?_⟩
  have hnodup : (releases.map fun release => release.stage.number).Nodup := by
    rw [List.nodup_iff_pairwise_ne, List.pairwise_map]
    exact hpairwise.imp fun hprecedes => hprecedes.stage_lt.ne
  have hsubset : (releases.map fun release => release.stage.number) ⊆ [1, 2, 3, 4, 5] := by
    intro number hnumber
    obtain ⟨release, -, rfl⟩ := List.mem_map.mp hnumber
    exact release.stage.number_mem
  simpa using (List.subperm_of_subset hnodup hsubset).length_le

/-- A rollout through all stages. -/
def fullRollout : List RolloutConfiguration :=
  [{ stage := .oneLevel, maximumNotional := 100, levelCount := 1, recoveryEnabled := false
     cycleLimit := 1, checked := by decide +kernel },
    { stage := .multipleBaselineLevels, maximumNotional := 100, levelCount := 3
      recoveryEnabled := false, cycleLimit := 1, checked := by decide +kernel },
    { stage := .sameLevelRecovery, maximumNotional := 100, levelCount := 3, recoveryEnabled := true
      cycleLimit := 1, checked := by decide +kernel },
    { stage := .cappedQuantityIncrease, maximumNotional := 200, levelCount := 3
      recoveryEnabled := true, cycleLimit := 1, checked := by decide +kernel },
    { stage := .additionalCycles, maximumNotional := 200, levelCount := 5, recoveryEnabled := true
      cycleLimit := 2, checked := by decide +kernel }]

theorem rollout_keeps_notional_fullRollout : fullRollout.IsChain MayFollow ∧
    fullRollout.Pairwise RolloutConfiguration.Precedes ∧ fullRollout.length ≤ 5 :=
  have hchain : fullRollout.IsChain MayFollow := by decide +kernel
  ⟨hchain, rollout_keeps_notional hchain⟩

end CreditHedge
