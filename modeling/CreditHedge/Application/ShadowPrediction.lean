import CreditHedge.Application.ShadowCharges

/-!
# What shadow mode predicts

The shadow service and the coordinator are given the same ladder, instrument and limits, and are
told the same prices with the same risk states. Each keeps its own record of the last price, the
armed levels and the levels that are taken. These records do not drift apart for a reason of their
own (`Synced`): they stay in step as long as both take the same levels, and then both look at the
same crossings.

So everything hangs on the charges. The prediction is right over a run exactly if the contract
multiplier is one, or if the gate has nothing to approve at any of its prices
(`shadow_predicts_iff`). With another multiplier the shadow service misjudges what the move has
already taken, and near a limit that decides about the next level (`shadow_overtakes_live`).
-/

set_option autoImplicit false

namespace CreditHedge

open Admission (admitted)

/-! ## The two in step -/

namespace MultiLevelCoordinator

variable (c : MultiLevelCoordinator)

/-- A price that both sides look at: a healthy last trade of the current connection. -/
structure Heeds (m : MultiLevelState) (observation : ShadowObservation) : Prop where
  symbol : observation.event.symbol = c.instrument.symbol
  source : observation.event.source = .lastTrade
  healthy : observation.marketHealth.tradingAllowed = true
  current : m.connectionGeneration = some observation.event.connectionGeneration

instance (m : MultiLevelState) (observation : ShadowObservation) :
    Decidable (c.Heeds m observation) :=
  decidable_of_iff (observation.event.symbol = c.instrument.symbol ∧
      observation.event.source = .lastTrade ∧ observation.marketHealth.tradingAllowed = true ∧
      m.connectionGeneration = some observation.event.connectionGeneration)
    ⟨fun ⟨h₁, h₂, h₃, h₄⟩ => ⟨h₁, h₂, h₃, h₄⟩, fun ⟨h₁, h₂, h₃, h₄⟩ => ⟨h₁, h₂, h₃, h₄⟩⟩

/-- The levels that the loop goes over, told this price in this state. -/
def crossedBy (m : MultiLevelState) (observation : ShadowObservation) : List HedgeLevel :=
  if c.Heeds m observation then
    match m.previousPrice with
    | none => []
    | some previous =>
      c.crossings (c.arm observation.event.observedPrice m) previous
        observation.event.observedPrice
  else []

/-- The two records say the same, and no level that was taken is armed. -/
structure Synced (m : MultiLevelState) (state : ShadowState) : Prop where
  previousPrice_eq : state.previousPrice = m.previousPrice
  generation_eq : state.connectionGeneration = m.connectionGeneration
  armed_eq : ∀ levelId, state.armed levelId = m.armed levelId
  decided_iff : ∀ levelId,
    levelId ∈ state.decidedLevels ↔ (m.submittedOrderIds levelId).isNone = false
  armed_new : ∀ levelId, m.armed levelId = true → (m.submittedOrderIds levelId).isNone = true

theorem Synced.fresh : Synced {} {} where
  previousPrice_eq := rfl
  generation_eq := rfl
  armed_eq := fun _ => rfl
  decided_iff := fun _ => by simp
  armed_new := fun _ h => absurd h (by simp)

variable {c} {s : ShadowModeService} {m m' : MultiLevelState} {state state' : ShadowState}

theorem Synced.flags_eq (h : Synced m state) (hmirrors : c.Mirrors s) (price : ℚ) (levelId : ℕ) :
    s.flags (ShadowModeService.reaches state price) levelId =
      c.flags (MultiLevelCoordinator.reaches m price) levelId := by
  have hreaches : ShadowModeService.reaches state price =
      MultiLevelCoordinator.reaches m price := by
    funext level
    unfold ShadowModeService.reaches MultiLevelCoordinator.reaches
    congr 1
    rw [Bool.eq_iff_iff, decide_eq_true_iff, h.decided_iff, Bool.not_eq_false]
  unfold ShadowModeService.flags MultiLevelCoordinator.flags
  rw [hreaches, hmirrors.levels_eq]

theorem new_of_flags {price : ℚ} {levelId : ℕ}
    (h : c.flags (MultiLevelCoordinator.reaches m price) levelId = true) :
    (m.submittedOrderIds levelId).isNone = true := by
  obtain ⟨level, -, hlevel⟩ := List.any_eq_true.mp h
  simp only [MultiLevelCoordinator.reaches, Bool.and_eq_true, decide_eq_true_eq] at hlevel
  exact hlevel.1 ▸ hlevel.2.2

theorem Synced.resetSegment (h : Synced m state) (hmirrors : c.Mirrors s)
    (event : TriggerPriceEvent) :
    Synced (c.resetSegment event m) (s.resetSegment event state) where
  previousPrice_eq := rfl
  generation_eq := rfl
  armed_eq := h.flags_eq hmirrors event.observedPrice
  decided_iff := h.decided_iff
  armed_new := fun _ => new_of_flags

theorem Synced.arm (h : Synced m state) (hmirrors : c.Mirrors s) (price : ℚ) :
    Synced (c.arm price m) (s.arm price state) where
  previousPrice_eq := h.previousPrice_eq
  generation_eq := h.generation_eq
  armed_eq := fun levelId => by
    unfold ShadowModeService.arm MultiLevelCoordinator.arm
    dsimp only
    rw [h.armed_eq, h.flags_eq hmirrors]
  decided_iff := h.decided_iff
  armed_new := fun levelId harmed => by
    rcases Bool.or_eq_true_iff.mp harmed with hbefore | hnow
    · exact h.armed_new levelId hbefore
    · exact new_of_flags hnow

theorem Synced.crossings_eq (h : Synced m state) (hmirrors : c.Mirrors s) (previous current : ℚ) :
    s.crossings state previous current = c.crossings m previous current := by
  unfold ShadowModeService.crossings MultiLevelCoordinator.crossings
  rw [hmirrors.levels_eq]
  refine List.filter_congr fun level _ => ?_
  rw [h.armed_eq]

/-- The two loops over the same levels keep in step, if they take the same ones. -/
theorem Synced.visited (h : Synced m state) {crossed taken : List ℕ}
    (hsub : taken ⊆ crossed) (hlive : Visited crossed taken m m')
    (hshadow : ShadowModeService.Visited crossed taken state state') : Synced m' state' where
  previousPrice_eq := by
    rw [hshadow.previousPrice_eq, hlive.previousPrice_eq, h.previousPrice_eq]
  generation_eq := by
    rw [hshadow.generation_eq, hlive.generation_eq, h.generation_eq]
  armed_eq := fun levelId => by
    rw [hshadow.armed, hlive.armed, h.armed_eq]
  decided_iff := fun levelId => by
    rw [hshadow.decided, hlive.unsubmitted, h.decided_iff, Bool.and_eq_false_iff]
    simp
  armed_new := fun levelId harmed => by
    rw [hlive.armed, Bool.and_eq_true, decide_eq_true_eq] at harmed
    rw [hlive.unsubmitted, Bool.and_eq_true, decide_eq_true_eq]
    exact ⟨h.armed_new levelId harmed.1, fun hmem => harmed.2 (hsub hmem)⟩

/-! ## One price -/

variable (c) in
/-- The attributes when the loop starts. -/
def seen (price : ℚ) (memory : Memory) : Memory :=
  { memory with
    multiLevel := { c.arm price memory.multiLevel with previousPrice := some price } }

variable (c) in
/-- What the coordinator charges, told this price in this state. -/
def charged (memory : Memory) (observation : ShadowObservation) : List Charge :=
  c.charges (c.crossedBy memory.multiLevel observation) observation.riskState
    (c.seen observation.event.observedPrice memory)

variable (c s) in
/-- What one price does on both sides: each takes what its gate admits of the levels that are
    crossed, and the records stay in step if that is the same. -/
structure Compares (memory : Memory) (observation : ShadowObservation)
    (result : MultiLevelTriggerResult) (shadow : ShadowTriggerResult) (m' : MultiLevelState)
    (state' : ShadowState) : Prop where
  charged : c.charged memory observation =
    admitted RiskState.plus c.liveJudge observation.riskState
      (c.crossedBy memory.multiLevel observation)
  submitted : result.entries.map LevelEntrySubmission.taken =
    (c.charged memory observation).map Charge.taken
  predicted : shadow.intents.filterMap ShadowIntent.charge =
    admitted RiskState.plus s.shadowJudge observation.riskState
      (c.crossedBy memory.multiLevel observation)
  intended : shadow.intents.filterMap ShadowIntent.taken =
    (shadow.intents.filterMap ShadowIntent.charge).map Charge.taken
  synced : shadow.intents.filterMap ShadowIntent.charge = c.charged memory observation →
    Synced m' state'

variable {memory : Memory} {observation : ShadowObservation} {result : MultiLevelTriggerResult}
  {shadow : ShadowTriggerResult}

/-- A price that is not looked at: each side has returned at once. -/
theorem Compares.of_unheeded (h : ¬ c.Heeds memory.multiLevel observation) {p after : Process}
    {quiet : MultiLevelTriggerResult} {quietShadow : ShadowTriggerResult}
    (hlive : Coroutine.Runs Process.handle (pure quiet) p (.ok result) after)
    (hshadow : (.ok (quietShadow, state) : Except Failure _) = .ok (shadow, state'))
    (hsynced : Synced p.memory.multiLevel state) (hentries : quiet.entries = [])
    (hintents : quietShadow.intents = []) :
    c.Compares s memory observation result shadow after.memory.multiLevel state' := by
  obtain ⟨hresult, rfl⟩ := Coroutine.runs_pure.mp hlive
  obtain rfl := Except.ok.inj hresult
  obtain ⟨rfl, rfl⟩ := Prod.mk.inj (Except.ok.inj hshadow)
  have hcrossed : c.crossedBy memory.multiLevel observation = [] := if_neg h
  have hcharged : c.charged memory observation = [] := by
    unfold MultiLevelCoordinator.charged
    rw [hcrossed]
    rfl
  refine ⟨?_, ?_, ?_, ?_, fun _ => hsynced⟩
  · rw [hcharged, hcrossed]
    rfl
  · rw [hcharged, hentries]
    rfl
  · rw [hintents, hcrossed]
    rfl
  · rw [hintents]
    rfl

/-- The level ids of what is charged are some of those of the levels. -/
theorem map_levelId_admitted_subset {judged : RiskState → HedgeLevel → Option Charge}
    (hjudged : ∀ seen level charge, judged seen level = some charge →
      charge.levelId = level.levelId) (riskState : RiskState) (levels : List HedgeLevel) :
    (admitted RiskState.plus judged riskState levels).map Charge.levelId ⊆
      levels.map HedgeLevel.levelId := by
  intro levelId hmem
  obtain ⟨charge, hcharge, rfl⟩ := List.mem_map.mp hmem
  obtain ⟨level, hlevel, seen, hseen⟩ := Admission.exists_of_mem_admitted hcharge
  rw [hjudged seen level charge hseen]
  exact List.mem_map_of_mem hlevel

theorem levelId_of_liveJudge {seen : RiskState} {level : HedgeLevel} {charge : Charge}
    (h : c.liveJudge seen level = some charge) : charge.levelId = level.levelId := by
  unfold liveJudge judge at h
  obtain ⟨proposal, -, rfl⟩ := Option.map_eq_some_iff.mp h
  rfl

/-- A price in the current segment. -/
theorem compares_inSegment (hmirrors : c.Mirrors s) {before after : Process}
    (hsynced : Synced before.memory.multiLevel state) {previous : ℚ}
    (hprevious : before.memory.multiLevel.previousPrice = some previous)
    (hcrossed : c.crossedBy before.memory.multiLevel observation =
      c.crossings (c.arm observation.event.observedPrice before.memory.multiLevel) previous
        observation.event.observedPrice)
    (hlive : Coroutine.Runs Process.handle
      (c.inSegment observation.event observation.riskState before.memory).2
      { before with
        memory := (c.inSegment observation.event observation.riskState before.memory).1 }
      (.ok result) after)
    (hshadow : s.inSegment observation.event observation.riskState state = .ok (shadow, state')) :
    c.Compares s before.memory observation result shadow after.memory.multiLevel state' := by
  have harmed := hsynced.arm hmirrors observation.event.observedPrice
  unfold inSegment at hlive
  unfold ShadowModeService.inSegment at hshadow
  simp only [hprevious] at hlive
  simp only [hsynced.previousPrice_eq, hprevious, harmed.crossings_eq hmirrors] at hshadow
  rw [← hcrossed] at hlive hshadow
  have hnew : ∀ level ∈ c.crossedBy before.memory.multiLevel observation,
      ((c.seen observation.event.observedPrice before.memory).multiLevel.submittedOrderIds
        level.levelId).isNone = true := by
    intro level hlevel
    rw [hcrossed] at hlevel
    have hflags := (List.mem_filter.mp hlevel).2
    simp only [Bool.and_eq_true] at hflags
    exact harmed.armed_new level.levelId hflags.1.1
  have hnodup : ((c.crossedBy before.memory.multiLevel observation).map
      HedgeLevel.levelId).Nodup := by
    have hall : (c.levels.map HedgeLevel.levelId).Nodup := by
      rw [c.levelIds_eq]
      exact List.nodup_range'
    rw [hcrossed]
    exact hall.sublist (List.filter_sublist.map HedgeLevel.levelId)
  obtain ⟨hcharges, hsubmitted, hvisited⟩ := runs_visit hmirrors hnodup hnew hlive
  obtain ⟨hpredicted, hintended, hvisited'⟩ :=
    ShadowModeService.visit_spec hmirrors.optionSpreadOpen hshadow
  rw [List.filterMap_nil, List.nil_append] at hpredicted
  have hcharged : c.charged before.memory observation =
      admitted RiskState.plus c.liveJudge observation.riskState
        (c.crossedBy before.memory.multiLevel observation) := hcharges
  refine ⟨hcharged, ?_, hpredicted, ?_, fun hsame => ?_⟩
  · rw [hcharged]
    exact hsubmitted
  · rw [hpredicted]
    exact hintended
  · rw [hpredicted, hcharged] at hsame
    rw [hsame] at hvisited'
    have hseen : Synced (c.seen observation.event.observedPrice before.memory).multiLevel
        { s.arm observation.event.observedPrice state with
          previousPrice := some observation.event.observedPrice } :=
      ⟨rfl, harmed.generation_eq, harmed.armed_eq, harmed.decided_iff, harmed.armed_new⟩
    exact hseen.visited (map_levelId_admitted_subset (fun _ _ _ => levelId_of_liveJudge) _ _)
      hvisited hvisited'

theorem Heeds.crossedBy_eq (h : c.Heeds m observation) {previous : ℚ}
    (hprevious : m.previousPrice = some previous) :
    c.crossedBy m observation =
      c.crossings (c.arm observation.event.observedPrice m) previous
        observation.event.observedPrice := by
  unfold crossedBy
  rw [if_pos h, hprevious]

/-- **One price, on both sides.** -/
theorem compares_onTrigger (hmirrors : c.Mirrors s) {before after : Process}
    (hsynced : Synced before.memory.multiLevel state)
    (hlive : Coroutine.Runs Process.handle
      (c.onTrigger observation.event observation.marketHealth observation.riskState) before
      (.ok result) after)
    (hshadow : s.onTrigger observation state = .ok (shadow, state')) :
    c.Compares s before.memory observation result shadow after.memory.multiLevel state' := by
  unfold ShadowModeService.onTrigger at hshadow
  simp only [hmirrors.instrument_eq, hsynced.generation_eq] at hshadow
  by_cases symbol : observation.event.symbol = c.instrument.symbol
  · by_cases source : observation.event.source = .lastTrade
    · by_cases healthy : observation.marketHealth.tradingAllowed = true
      · have hruns := runs_observe symbol source healthy hlive
        rw [if_neg (not_not.mpr symbol), if_neg (not_not.mpr source), if_neg (by simp [healthy])]
          at hshadow
        unfold observe at hruns
        cases hgeneration : before.memory.multiLevel.connectionGeneration with
        | none =>
          simp only [hgeneration] at hruns hshadow
          refine .of_unheeded (fun h => ?_) hruns hshadow
            (hsynced.resetSegment hmirrors observation.event) rfl rfl
          exact absurd h.current (by simp [hgeneration])
        | some generation =>
          simp only [hgeneration] at hruns hshadow
          split_ifs at hruns hshadow with hstale hnewer
          · refine .of_unheeded (fun h => ?_) hruns hshadow hsynced rfl rfl
            exact absurd h.current (by simp [hgeneration, hstale.ne'])
          · refine .of_unheeded (fun h => ?_) hruns hshadow
              (hsynced.resetSegment hmirrors observation.event) rfl rfl
            exact absurd h.current (by simp [hgeneration, hnewer.ne])
          · have hcurrent := le_antisymm (not_lt.mp hstale) (not_lt.mp hnewer)
            have hheeds : c.Heeds before.memory.multiLevel observation :=
              ⟨symbol, source, healthy, hgeneration.trans (congrArg some hcurrent)⟩
            cases hprevious : before.memory.multiLevel.previousPrice with
            | none =>
              unfold inSegment at hruns
              simp only [hprevious] at hruns
              obtain ⟨hraised, -⟩ := Coroutine.runs_throw.mp hruns
              exact absurd hraised (by simp)
            | some previous =>
              exact compares_inSegment hmirrors hsynced hprevious (hheeds.crossedBy_eq hprevious)
                hruns hshadow
      · have hunhealthy := Bool.not_eq_true _ ▸ healthy
        unfold onTrigger at hlive
        rw [if_neg (not_not.mpr symbol), if_neg (not_not.mpr source), if_pos hunhealthy]
          at hlive hshadow
        exact .of_unheeded (fun h => healthy h.healthy) hlive hshadow hsynced rfl rfl
    · unfold onTrigger at hlive
      rw [if_neg (not_not.mpr symbol), if_pos source] at hlive hshadow
      exact .of_unheeded (fun h => source h.source) hlive hshadow hsynced rfl rfl
  · unfold onTrigger at hlive
    rw [if_pos symbol] at hlive hshadow
    exact .of_unheeded (fun h => symbol h.symbol) hlive hshadow hsynced rfl rfl

/-! ## Whole runs -/

/-- What one price comes to: what the coordinator submits and what it charges for it, what the
    shadow service approves and what it charges, and the levels the price crosses that the gate
    approves at the risk state it came with. -/
structure Comparison where
  submitted : List (ℕ × ℚ)
  charged : List Charge
  intended : List (ℕ × ℚ)
  predicted : List Charge
  approvable : List ℕ
  deriving DecidableEq, Repr

/-- The prediction is right: the same levels with the same quantities, charged the same. -/
structure Comparison.Right (comparison : Comparison) : Prop where
  taken : comparison.intended = comparison.submitted
  charged : comparison.predicted = comparison.charged

variable (c s) in
/-- The crossed levels that the gate approves at the risk state of the price itself. -/
def approvable (m : MultiLevelState) (observation : ShadowObservation) : List ℕ :=
  ((c.crossedBy m observation).filter fun level =>
    (c.liveJudge observation.riskState level).isSome).map HedgeLevel.levelId

variable (c s) in
/-- Both sides are told the same prices with the same health and risk states, one after the other,
    and return. Between two calls anything may happen to the rest of the process. -/
inductive Predicted : Process → ShadowState → List Comparison → Prop
  | done {p : Process} {state : ShadowState} : Predicted p state []
  | tick {p p' p'' : Process} {state state' : ShadowState} {observation : ShadowObservation}
      {result : MultiLevelTriggerResult} {shadow : ShadowTriggerResult}
      {comparisons : List Comparison}
      (live : Coroutine.Runs Process.handle
        (c.onTrigger observation.event observation.marketHealth observation.riskState) p
        (.ok result) p')
      (shadowed : s.onTrigger observation state = .ok (shadow, state'))
      (kept : p''.memory.multiLevel = p'.memory.multiLevel)
      (rest : Predicted p'' state' comparisons) :
      Predicted p state
        ({ submitted := result.entries.map LevelEntrySubmission.taken
           charged := c.charged p.memory observation
           intended := shadow.intents.filterMap ShadowIntent.taken
           predicted := shadow.intents.filterMap ShadowIntent.charge
           approvable := c.approvable p.memory.multiLevel observation } :: comparisons)

theorem approvable_eq_nil_iff : c.approvable m observation = [] ↔
    ∀ level ∈ c.crossedBy m observation, c.liveJudge observation.riskState level = none := by
  unfold approvable
  rw [List.map_eq_nil_iff, List.filter_eq_nil_iff]
  simp

theorem Mirrors.shadowJudge_eq (h : c.Mirrors s) : s.shadowJudge =
    judge c.instrument c.riskLimits c.optionPosition.matchedQuantity shadowCharge := by
  unfold ShadowModeService.shadowJudge
  rw [h.instrument_eq, h.riskLimits_eq, h.desiredQuantity_eq]

/-- One price is predicted right exactly if the multiplier is one, or the gate approves nothing
    that it crosses. -/
theorem Compares.right_iff (hmirrors : c.Mirrors s)
    (h : c.Compares s memory observation result shadow m' state') :
    Comparison.Right
        { submitted := result.entries.map LevelEntrySubmission.taken
          charged := c.charged memory observation
          intended := shadow.intents.filterMap ShadowIntent.taken
          predicted := shadow.intents.filterMap ShadowIntent.charge
          approvable := c.approvable memory.multiLevel observation } ↔
      c.instrument.contractMultiplier = 1 ∨ c.approvable memory.multiLevel observation = [] := by
  rw [approvable_eq_nil_iff]
  have hiff := admitted_eq_admitted_iff c.instrument c.riskLimits
    c.optionPosition.matchedQuantity observation.riskState
    (c.crossedBy memory.multiLevel observation)
  rw [← hmirrors.shadowJudge_eq] at hiff
  refine Iff.trans ?_ hiff
  constructor
  · intro hright
    have hcharged := hright.charged
    simp only [h.predicted, h.charged] at hcharged
    exact hcharged.symm
  · intro hsame
    have hcharged : shadow.intents.filterMap ShadowIntent.charge = c.charged memory observation :=
      h.predicted.trans (hsame.symm.trans h.charged.symm)
    refine ⟨?_, hcharged⟩
    dsimp only
    rw [h.intended, h.submitted, hcharged]

end MultiLevelCoordinator

open MultiLevelCoordinator

/-- From records that are in step. -/
theorem MultiLevelCoordinator.Predicted.right_iff {c : MultiLevelCoordinator}
    {s : ShadowModeService} (hmirrors : c.Mirrors s) {p : Process} {state : ShadowState}
    (hsynced : Synced p.memory.multiLevel state) {comparisons : List Comparison}
    (h : c.Predicted s p state comparisons) :
    (∀ comparison ∈ comparisons, comparison.Right) ↔
      c.instrument.contractMultiplier = 1 ∨
        ∀ comparison ∈ comparisons, comparison.approvable = [] := by
  induction h with
  | done => simp
  | @tick p p' p'' state state' observation result shadow comparisons live shadowed kept rest ih =>
    have hcompares := compares_onTrigger hmirrors hsynced live shadowed
    have hright := hcompares.right_iff hmirrors
    rw [List.forall_mem_cons, List.forall_mem_cons, hright]
    -- The records are in step after the price if it was predicted right, and only then the rest
    -- of the run has anything to say.
    have hrest : (c.instrument.contractMultiplier = 1 ∨
        c.approvable p.memory.multiLevel observation = []) →
        ((∀ comparison ∈ comparisons, comparison.Right) ↔
          c.instrument.contractMultiplier = 1 ∨
            ∀ comparison ∈ comparisons, comparison.approvable = []) := by
      intro hcondition
      refine ih ?_
      rw [kept]
      exact hcompares.synced (hright.mpr hcondition).charged
    constructor
    · rintro ⟨hnow, hlater⟩
      rcases hnow with hone | hnone
      · exact .inl hone
      · rcases (hrest (.inr hnone)).mp hlater with hone | hnever
        · exact .inl hone
        · exact .inr ⟨hnone, hnever⟩
    · rintro (hone | ⟨hnone, hnever⟩)
      · exact ⟨.inl hone, (hrest (.inl hone)).mpr (.inl hone)⟩
      · exact ⟨.inr hnone, (hrest (.inr hnone)).mpr (.inr hnever)⟩

/-- **When shadow mode predicts live mode.** Over a run from the start, the shadow service approves
    what the coordinator submits, and charges it the same, exactly if the contract multiplier is
    one or no price of the run crosses a level that the gate approves at the price's own risk
    state. -/
theorem shadow_predicts_iff {c : MultiLevelCoordinator} {s : ShadowModeService}
    (hmirrors : c.Mirrors s) {p : Process} (hfresh : p.memory.multiLevel = {})
    {comparisons : List Comparison} (h : c.Predicted s p {} comparisons) :
    (∀ comparison ∈ comparisons, comparison.Right) ↔
      c.instrument.contractMultiplier = 1 ∨
        ∀ comparison ∈ comparisons, comparison.approvable = [] :=
  h.right_iff hmirrors (hfresh ▸ Synced.fresh)

/-! ## One gap over two levels -/

/-- Two levels, at 2000 and at 1990, and limits with room for a notional of 7000. -/
def twoLevels (multiplier : ℚ) (h : 0 < multiplier) : MultiLevelCoordinator where
  optionPosition := openSpread 1 unit_pos
  levels :=
    [levelAt2000,
      { levelId := 2, entryPrice := 1990, tpPrice := 1980, stopPrice := 1993, optionBudget := 10 }]
  instrument := { ethPerp with contractMultiplier := multiplier, contractMultiplier_pos := h }
  riskLimits :=
    { wideLimits with maximumPerpNotional := 7000, maximumPerpNotional_pos := by decide +kernel }
  orderLinkIdFactory := fun levelId _ =>
    if levelId = 1 then "ECH-A-C0001-L01-ENTRY-A01-0000" else "ECH-A-C0001-L02-ENTRY-A01-0000"
  hasEntryGate := false
  levels_ne_nil := by decide +kernel
  levelIds_eq := by decide +kernel
  entryPrices_sorted := by decide +kernel
  ethusdt_linear := ⟨rfl, rfl⟩

def twoLevelsShadow (multiplier : ℚ) (h : 0 < multiplier) : ShadowModeService where
  cycleId := "SHADOW-MAINNET"
  levels := (twoLevels multiplier h).levels
  desiredQuantity := 1
  optionSpreadOpen := true
  instrument := (twoLevels multiplier h).instrument
  riskLimits := (twoLevels multiplier h).riskLimits
  hasRecorder := true
  cycleId_text := by decide +kernel
  levels_ne_nil := (twoLevels multiplier h).levels_ne_nil
  levelIds_eq := (twoLevels multiplier h).levelIds_eq
  entryPrices_sorted := (twoLevels multiplier h).entryPrices_sorted
  desiredQuantity_pos := unit_pos
  ethusdt_linear := ⟨rfl, rfl⟩

theorem twoLevels_mirrors (multiplier : ℚ) (h : 0 < multiplier) :
    (twoLevels multiplier h).Mirrors (twoLevelsShadow multiplier h) where
  levels_eq := rfl
  instrument_eq := rfl
  riskLimits_eq := rfl
  desiredQuantity_eq := (min_self 1).symm
  optionSpreadOpen := rfl
  position_open := rfl
  ungated := rfl

/-- Both sides are told a path of prices, with these answers for the coordinator. -/
def MultiLevelCoordinator.compareAll (c : MultiLevelCoordinator) (s : ShadowModeService) :
    Process → ShadowState → List (ℚ × List ProcessAnswers) → Option (List Comparison)
  | _, _, [] => some []
  | p, state, (price, answers) :: path =>
    let observation : ShadowObservation :=
      { event := tradeAt price, marketHealth := healthyMarket, riskState := calmState }
    match Coroutine.execute Process.handle
        (c.onTrigger observation.event observation.marketHealth observation.riskState) answers p,
      s.onTrigger observation state with
    | some (.ok result, p'), .ok (shadow, state') => do
      let comparisons ← c.compareAll s p' state' path
      pure
        ({ submitted := result.entries.map LevelEntrySubmission.taken
           charged := c.charged p.memory observation
           intended := shadow.intents.filterMap ShadowIntent.taken
           predicted := shadow.intents.filterMap ShadowIntent.charge
           approvable := c.approvable p.memory.multiLevel observation } :: comparisons)
    | _, _ => none

theorem MultiLevelCoordinator.predicted_of_compareAll {c : MultiLevelCoordinator}
    {s : ShadowModeService} {p : Process} {state : ShadowState}
    {path : List (ℚ × List ProcessAnswers)} {comparisons : List Comparison}
    (h : c.compareAll s p state path = some comparisons) : c.Predicted s p state comparisons := by
  induction path generalizing p state comparisons with
  | nil =>
    obtain rfl := Option.some.inj h
    exact .done
  | cons told path ih =>
    obtain ⟨price, answers⟩ := told
    unfold compareAll at h
    dsimp only at h
    split at h
    · rename_i result p' shadow state' hlive hshadow
      obtain ⟨rest, hrest, h⟩ := Option.bind_eq_some_iff.mp h
      obtain rfl := Option.some.inj h
      exact .tick (Coroutine.runs_of_execute hlive) hshadow rfl (ih hrest)
    · exact absurd h (by simp)

/-- From 2010 down to 1985. The coordinator submits so many entries. -/
def gapDown (entries : ℕ) : List (ℚ × List ProcessAnswers) :=
  [(2010, [{}]),
    (1985, {} :: (List.replicate 9 (takesOrder "ECH-A-C0001-L01-ENTRY-A01-0000") ++
      List.replicate (9 * (entries - 1)) (takesOrder "ECH-A-C0001-L02-ENTRY-A01-0000")))]

/-- With a multiplier of one there is room for both levels, and both sides take both. -/
theorem shadow_predicts_iff_unitMultiplier :
    ∃ comparisons,
      (twoLevels 1 unit_pos).Predicted (twoLevelsShadow 1 unit_pos)
        nothingSeen {} comparisons ∧
      comparisons.map Comparison.submitted = [[], [(1, 1), (2, 1)]] ∧
      ∀ comparison ∈ comparisons, comparison.Right := by
  have hrun : ((twoLevels 1 unit_pos).compareAll (twoLevelsShadow 1 unit_pos)
      nothingSeen {} (gapDown 2)).map (List.map Comparison.submitted) =
        some [[], [(1, 1), (2, 1)]] := by decide +kernel
  obtain ⟨comparisons, hcompared, hsubmitted⟩ := Option.map_eq_some_iff.mp hrun
  have hpredicted := MultiLevelCoordinator.predicted_of_compareAll hcompared
  refine ⟨comparisons, hpredicted, hsubmitted, ?_⟩
  exact (shadow_predicts_iff (twoLevels_mirrors _ _) rfl hpredicted).mpr (.inl rfl)

/-- **With a multiplier of two** the first level takes 4000 of the 7000, and the coordinator is
    left without room for the second. The shadow service has charged 2000, and approves it. -/
theorem shadow_overtakes_live :
    ∃ comparisons,
      (twoLevels 2 (by decide +kernel)).Predicted (twoLevelsShadow 2 (by decide +kernel))
        nothingSeen {} comparisons ∧
      comparisons.map Comparison.submitted = [[], [(1, 1)]] ∧
      comparisons.map Comparison.intended = [[], [(1, 1), (2, 1)]] := by
  have hrun : ((twoLevels 2 (by decide +kernel)).compareAll (twoLevelsShadow 2 (by decide +kernel))
      nothingSeen {} (gapDown 1)).map
        (List.map fun comparison => (comparison.submitted, comparison.intended)) =
      some [([], []), ([(1, 1)], [(1, 1), (2, 1)])] := by decide +kernel
  obtain ⟨comparisons, hcompared, htaken⟩ := Option.map_eq_some_iff.mp hrun
  refine ⟨comparisons, MultiLevelCoordinator.predicted_of_compareAll hcompared, ?_, ?_⟩
  · have hsubmitted := congrArg (List.map Prod.fst) htaken
    rwa [List.map_map] at hsubmitted
  · have hintended := congrArg (List.map Prod.snd) htaken
    rwa [List.map_map] at hintended

end CreditHedge
