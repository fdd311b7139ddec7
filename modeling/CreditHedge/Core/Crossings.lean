import CreditHedge.Core.Soundness

/-!
# What one crossing does

`Crosses` lists, once, everything an executed crossing can do to the engine: which level it
touches, what had to hold of it, which levels it rewrites and what it records. There is one
constructor a handler outcome; `_open` has two, because an entry the stop budget refuses either
opens a floor hedge or locks the level out.

`Enabled` is the part of `Crosses` that the crossing loop has to establish. Over a sound state it
is enough: an enabled crossing executes without an error, and what it does is one of the
constructors (`Enabled.crosses`, `Crosses.executes`). Everything else about the engine is derived
from `Crosses`, and the handlers are not unfolded again.
-/

set_option autoImplicit false

namespace CreditHedge

/-! ## Rewriting one level -/

namespace HedgeLevel

/-- Apply `f` to the level numbered `levelId`, and leave the others. -/
def updating (levelId : ℕ) (f : HedgeLevel → HedgeLevel) (x : HedgeLevel) : HedgeLevel :=
  if x.levelId = levelId then f x else x

/-- The repayments of a take-profit, as a rewriting of one level. -/
def settled (config : StrategyConfig) (claims : List (ℕ × ℚ)) (x : HedgeLevel) : HedgeLevel :=
  claims.foldl (fun x claim => x.updating claim.1 (·.repaid config claim.2)) x

/-- The level as `_open` leaves it, but for the kind of hedge. -/
def opening (config : StrategyConfig) (levels : List HedgeLevel) (isFloor : Bool)
    (level : HedgeLevel) : HedgeLevel :=
  level.activated (HedgeEngine.openQuantity config levels level) isFloor
    (HedgeEngine.recoveryAllocationsFor config levels level)

/-- The loss of stopping out the level as it is open now. -/
def stopLoss (level : HedgeLevel) : ℚ := level.activeQuantity * level.stopDistance

/-- The profit of taking the level's profit as it is open now. -/
def tpProfit (level : HedgeLevel) : ℚ := level.activeQuantity * level.tpDistance

variable {levelId : ℕ} {f : HedgeLevel → HedgeLevel} {x : HedgeLevel} {config : StrategyConfig}

@[simp] theorem updating_self : x.updating x.levelId f = f x := if_pos rfl

theorem updating_of_eq (h : x.levelId = levelId) : x.updating levelId f = f x := if_pos h

theorem updating_of_ne (h : x.levelId ≠ levelId) : x.updating levelId f = x := if_neg h

theorem sameZone_updating (hf : SameZone x (f x)) : SameZone x (x.updating levelId f) := by
  unfold updating
  split
  · exact hf
  · exact SameZone.refl x

@[simp] theorem settled_nil : x.settled config [] = x := rfl

@[simp] theorem settled_singleton (claim : ℕ × ℚ) :
    x.settled config [claim] = x.updating claim.1 (·.repaid config claim.2) := rfl

theorem settled_nil_fun : settled config [] = id := rfl

theorem settled_singleton_fun (claim : ℕ × ℚ) :
    settled config [claim] = updating claim.1 (·.repaid config claim.2) := rfl

theorem sameZone_settled (config : StrategyConfig) : ∀ (claims : List (ℕ × ℚ)) (x : HedgeLevel),
    SameZone x (x.settled config claims)
  | [], x => SameZone.refl x
  | claim :: claims, x =>
    (sameZone_updating (SameZone.repaid config claim.2)).trans
      (sameZone_settled config claims (x.updating claim.1 (·.repaid config claim.2)))

end HedgeLevel

/-- What a trigger looks at: the level's place in its own state machine. -/
structure SameStatus (level level' : HedgeLevel) : Prop where
  state : level'.state = level.state
  entryArmed : level'.entryArmed = level.entryArmed
  activeIsFloor : level'.activeIsFloor = level.activeIsFloor
  activeQuantity : level'.activeQuantity = level.activeQuantity
  allocations : level'.activeRecoveryAllocations = level.activeRecoveryAllocations

namespace SameStatus

variable {x y : HedgeLevel}

theorem refl (x : HedgeLevel) : SameStatus x x := ⟨rfl, rfl, rfl, rfl, rfl⟩

theorem trans {z : HedgeLevel} (h : SameStatus x y) (h' : SameStatus y z) : SameStatus x z :=
  ⟨h'.state.trans h.state, h'.entryArmed.trans h.entryArmed,
    h'.activeIsFloor.trans h.activeIsFloor, h'.activeQuantity.trans h.activeQuantity,
    h'.allocations.trans h.allocations⟩

theorem updating {levelId : ℕ} {f : HedgeLevel → HedgeLevel} (hf : SameStatus x (f x)) :
    SameStatus x (x.updating levelId f) := by
  unfold HedgeLevel.updating
  split
  · exact hf
  · exact refl x

theorem settled (config : StrategyConfig) : ∀ (claims : List (ℕ × ℚ)) (x : HedgeLevel),
    SameStatus x (x.settled config claims)
  | [], x => refl x
  | claim :: claims, x =>
    (updating (f := (·.repaid config claim.2)) ⟨rfl, rfl, rfl, rfl, rfl⟩).trans
      (settled config claims (x.updating claim.1 (·.repaid config claim.2)))

end SameStatus

namespace EngineState

variable {config : StrategyConfig} {spread : CreditSpread} {s : EngineState}

theorem putLevel_eq_updating (h : Ladder config spread s.levels) {level : HedgeLevel}
    (hl : level ∈ s.levels) {f : HedgeLevel → HedgeLevel} (hf : SameZone level (f level)) :
    s.putLevel (f level) =
      { s with levels := s.levels.map (HedgeLevel.updating level.levelId f) } := by
  have hpos : 0 < (f level).levelId := by
    rw [hf.levelId]
    exact h.levelId_pos hl
  have hlevels : (s.putLevel (f level)).levels =
      s.levels.map (HedgeLevel.updating level.levelId f) := by
    rw [putLevel_levels h hpos, hf.levelId]
    refine List.map_congr_left fun x hx => ?_
    unfold HedgeLevel.updating
    split
    · rename_i heq
      rw [h.eq_of_levelId_eq hx hl heq]
    · rfl
  rw [← hlevels]
  rfl

end EngineState

/-- Rewriting the level numbered `level.levelId` rewrites `level` and no other. -/
theorem Ladder.updating_cases {config : StrategyConfig} {spread : CreditSpread}
    {levels : List HedgeLevel} {level x : HedgeLevel} (h : Ladder config spread levels)
    (hl : level ∈ levels) (hx : x ∈ levels) (f : HedgeLevel → HedgeLevel) :
    (x = level ∧ x.updating level.levelId f = f level) ∨
      (x.levelId ≠ level.levelId ∧ x.updating level.levelId f = x) := by
  by_cases hid : x.levelId = level.levelId
  · obtain rfl := h.eq_of_levelId_eq hx hl hid
    exact Or.inl ⟨rfl, HedgeLevel.updating_self⟩
  · exact Or.inr ⟨hid, HedgeLevel.updating_of_ne hid⟩

/-! ## The crossings -/

variable (config : StrategyConfig) (spread : CreditSpread)

/-- What the crossing loop establishes of the event it executes. -/
inductive Enabled (levels : List HedgeLevel) : CrossingEvent → Prop
  | entry {level : HedgeLevel} (hl : level ∈ levels) (ready : level.state = .ready)
      (armed : level.entryArmed = true) (above : ClearedAbove levels level) :
      Enabled levels level.entryCrossing
  | tp {level : HedgeLevel} (hl : level ∈ levels) (active : level.state = .active) :
      Enabled levels level.tpCrossing
  | stop {level : HedgeLevel} (hl : level ∈ levels) (active : level.state = .active)
      (fixed : level.activeIsFloor = false) : Enabled levels level.stopCrossing
  | breakeven {level : HedgeLevel} (hl : level ∈ levels) (active : level.state = .active)
      (floor : level.activeIsFloor = true) : Enabled levels level.breakevenCrossing

/-- The entry would overspend the stop budget. -/
def Refused (s : EngineState) (level : HedgeLevel) : Prop :=
  s.usedStopBudget + HedgeEngine.projectedStopLoss config s.levels level > spread.premiumCredit

/-- **Everything a crossing can do.** -/
inductive Crosses (tickIndex : ℕ) (s : EngineState) : CrossingEvent → EngineState → Prop
  | opened {level : HedgeLevel} (hl : level ∈ s.levels) (ready : level.state = .ready)
      (armed : level.entryArmed = true) (above : ClearedAbove s.levels level)
      (afforded : ¬ Refused config spread s level) :
      Crosses tickIndex s level.entryCrossing
        { s with
          levels := s.levels.map
            (HedgeLevel.updating level.levelId (HedgeLevel.opening config s.levels false))
          ledger := s.ledger.recordEntry (level.opening config s.levels false) tickIndex
            (HedgeEngine.openQuantity config s.levels level)
            (HedgeEngine.projectedStopLoss config s.levels level) }
  | floored {level : HedgeLevel} (hl : level ∈ s.levels) (ready : level.state = .ready)
      (armed : level.entryArmed = true) (above : ClearedAbove s.levels level)
      (refused : Refused config spread s level) (policy : config.lockPolicy = .breakevenFloor) :
      Crosses tickIndex s level.entryCrossing
        { s with
          levels := s.levels.map
            (HedgeLevel.updating level.levelId (HedgeLevel.opening config s.levels true))
          ledger := s.ledger.recordFloorEntry (level.opening config s.levels true) tickIndex
            (HedgeEngine.openQuantity config s.levels level)
            (HedgeEngine.projectedStopLoss config s.levels level) }
  | lockedOut {level : HedgeLevel} (hl : level ∈ s.levels) (ready : level.state = .ready)
      (armed : level.entryArmed = true) (above : ClearedAbove s.levels level)
      (refused : Refused config spread s level) (policy : config.lockPolicy = .unhedged) :
      Crosses tickIndex s level.entryCrossing
        { s with
          levels := s.levels.map (HedgeLevel.updating level.levelId HedgeLevel.lockedOut)
          ledger := s.ledger.recordLocked level.lockedOut tickIndex
            (HedgeEngine.openQuantity config s.levels level)
            (HedgeEngine.projectedStopLoss config s.levels level) }
  | paid {level : HedgeLevel} (hl : level ∈ s.levels) (active : level.state = .active) :
      Crosses tickIndex s level.tpCrossing
        { s with
          levels := s.levels.map fun x =>
            (x.settled config level.activeRecoveryAllocations).updating level.levelId
              (·.paidOut level.tpProfit)
          ledger := s.ledger.recordTp
            ((level.settled config level.activeRecoveryAllocations).paidOut level.tpProfit)
            tickIndex level.activeQuantity level.tpProfit level.optionBudget level.allocated
            level.activeRecoveryAllocations }
  | stoppedOut {level : HedgeLevel} (hl : level ∈ s.levels) (active : level.state = .active)
      (fixed : level.activeIsFloor = false) :
      Crosses tickIndex s level.stopCrossing
        { s with
          levels := s.levels.map
            (HedgeLevel.updating level.levelId (·.stopped config level.stopLoss))
          ledger := s.ledger.recordStop (level.stopped config level.stopLoss) tickIndex
            level.activeQuantity level.stopLoss }
  | brokeEven {level : HedgeLevel} (hl : level ∈ s.levels) (active : level.state = .active)
      (floor : level.activeIsFloor = true) :
      Crosses tickIndex s level.breakevenCrossing
        { s with
          levels := s.levels.map (HedgeLevel.updating level.levelId HedgeLevel.brokenEven)
          ledger := s.ledger.recordBreakeven level.brokenEven tickIndex level.activeQuantity }

variable {config spread}

variable (config spread) in
theorem Enabled.crosses {s : EngineState} {e : CrossingEvent} (h : Enabled s.levels e)
    (tickIndex : ℕ) : ∃ s', Crosses config spread tickIndex s e s' := by
  cases h with
  | @entry level hl ready armed above =>
    by_cases hb : Refused config spread s level
    · cases hp : config.lockPolicy with
      | breakevenFloor => exact ⟨_, .floored hl ready armed above hb hp⟩
      | unhedged => exact ⟨_, .lockedOut hl ready armed above hb hp⟩
    · exact ⟨_, .opened hl ready armed above hb⟩
  | tp hl active => exact ⟨_, .paid hl active⟩
  | stop hl active fixed => exact ⟨_, .stoppedOut hl active fixed⟩
  | breakeven hl active floor => exact ⟨_, .brokeEven hl active floor⟩

namespace Crosses

variable {tickIndex : ℕ} {s s' : EngineState} {e : CrossingEvent}

/-- Over a sound state the repayments of a take-profit go through: there is at most one, and it
    is at most the debt it repays. -/
theorem foldlM_repay (hs : Sound config spread s.levels) {level : HedgeLevel}
    (hl : level ∈ s.levels) (active : level.state = .active) :
    level.activeRecoveryAllocations.foldlM (HedgeEngine.repay config) s =
      .ok { s with
        levels := s.levels.map (HedgeLevel.settled config level.activeRecoveryAllocations) } := by
  rcases hs.claims level hl active with ⟨hnil, -⟩ | ⟨source, hc⟩
  · rw [hnil, HedgeLevel.settled_nil_fun, List.map_id]
    rfl
  · have hle : ¬ source.recoveryDebt - recoveryShare config source < 0 :=
      not_lt.mpr (sub_nonneg.mpr recoveryShare_le)
    rw [hc.allocations, HedgeLevel.settled_singleton_fun,
      ← EngineState.putLevel_eq_updating hs.ladder hc.source_mem (SameZone.repaid config _)]
    simp only [List.foldlM_cons, List.foldlM_nil, HedgeEngine.repay,
      EngineState.level_of_mem hs.ladder hc.source_mem, bind, Except.bind, if_neg hle]
    rfl

theorem takeProfit_eq (hs : Sound config spread s.levels) {level : HedgeLevel}
    (hl : level ∈ s.levels) (active : level.state = .active) (tickIndex : ℕ) :
    HedgeEngine.takeProfit config s level tickIndex =
      .ok { s with
        levels := s.levels.map fun x =>
          (x.settled config level.activeRecoveryAllocations).updating level.levelId
            (·.paidOut level.tpProfit)
        ledger := s.ledger.recordTp
          ((level.settled config level.activeRecoveryAllocations).paidOut level.tpProfit)
          tickIndex level.activeQuantity level.tpProfit level.optionBudget level.allocated
          level.activeRecoveryAllocations } := by
  let repaid : EngineState :=
    { s with levels := s.levels.map (HedgeLevel.settled config level.activeRecoveryAllocations) }
  let level' := level.settled config level.activeRecoveryAllocations
  have hladder : Ladder config spread repaid.levels :=
    hs.ladder.map fun x _ => HedgeLevel.sameZone_settled config _ x
  have hmem : level' ∈ repaid.levels := List.mem_map_of_mem hl
  have hzone : SameZone level level' := HedgeLevel.sameZone_settled config _ level
  have hread : repaid.level level.levelId = .ok level' := by
    rw [← hzone.levelId]
    exact EngineState.level_of_mem hladder hmem
  have hwrite := EngineState.putLevel_eq_updating hladder hmem (f := (·.paidOut level.tpProfit))
    (SameZone.paidOut _)
  rw [hzone.levelId, List.map_map] at hwrite
  unfold HedgeEngine.takeProfit
  simp only [foldlM_repay hs hl active, bind, Except.bind]
  rw [hread]
  refine congrArg Except.ok ?_
  rw [hzone.optionBudget]
  exact EngineState.mk.injEq .. ▸ ⟨congrArg EngineState.levels hwrite, rfl, rfl⟩

/-- **A listed crossing is what the engine executes**: none of the handlers' assertions fails. -/
theorem executes (hs : Sound config spread s.levels)
    (h : Crosses config spread tickIndex s e s') :
    HedgeEngine.executeCrossing config spread s e tickIndex = .ok s' := by
  have hput : ∀ {level : HedgeLevel}, level ∈ s.levels → ∀ f : HedgeLevel → HedgeLevel,
      SameZone level (f level) → ∀ ledger : Ledger,
      { s.putLevel (f level) with ledger } =
        { s with levels := s.levels.map (HedgeLevel.updating level.levelId f), ledger } := by
    intro level hl f hf ledger
    rw [EngineState.putLevel_eq_updating hs.ladder hl hf]
  unfold HedgeEngine.executeCrossing
  cases h with
  | opened hl ready armed above afforded =>
    simp only [HedgeLevel.entryCrossing, EngineState.level_of_mem hs.ladder hl, bind, Except.bind]
    unfold HedgeEngine.open'
    exact congrArg Except.ok ((if_neg afforded).trans
      (hput hl (HedgeLevel.opening config s.levels false) (SameZone.activated ..) _))
  | floored hl ready armed above refused policy =>
    simp only [HedgeLevel.entryCrossing, EngineState.level_of_mem hs.ladder hl, bind, Except.bind]
    unfold HedgeEngine.open'
    rw [policy]
    exact congrArg Except.ok ((if_pos refused).trans
      (hput hl (HedgeLevel.opening config s.levels true) (SameZone.activated ..) _))
  | lockedOut hl ready armed above refused policy =>
    simp only [HedgeLevel.entryCrossing, EngineState.level_of_mem hs.ladder hl, bind, Except.bind]
    unfold HedgeEngine.open'
    rw [policy]
    exact congrArg Except.ok ((if_pos refused).trans
      (hput hl HedgeLevel.lockedOut SameZone.lockedOut _))
  | @paid level hl active =>
    simp only [HedgeLevel.tpCrossing, EngineState.level_of_mem hs.ladder hl, bind, Except.bind]
    exact takeProfit_eq hs hl active tickIndex
  | @stoppedOut level hl active fixed =>
    simp only [HedgeLevel.stopCrossing, EngineState.level_of_mem hs.ladder hl, bind, Except.bind]
    unfold HedgeEngine.stop
    rw [if_neg (by simp [fixed])]
    exact congrArg Except.ok (hput hl (·.stopped config level.stopLoss) (SameZone.stopped ..) _)
  | brokeEven hl active floor =>
    simp only [HedgeLevel.breakevenCrossing, EngineState.level_of_mem hs.ladder hl, bind,
      Except.bind]
    unfold HedgeEngine.breakeven
    rw [if_pos floor]
    exact congrArg Except.ok (hput hl HedgeLevel.brokenEven SameZone.brokenEven _)

end Crosses

/-- What an executed entry tells of the level it is for. -/
theorem Crosses.entry_spec {tickIndex : ℕ} {s s' : EngineState} {e : CrossingEvent}
    (hs : Sound config spread s.levels) (h : Crosses config spread tickIndex s e s')
    (he : e.eventType = .entry) {x : HedgeLevel} (hx : x ∈ s.levels)
    (hid : x.levelId = e.levelId) : x.state = .ready ∧ ClearedAbove s.levels x := by
  cases h with
  | opened hl ready _ above _ =>
    obtain rfl := hs.ladder.eq_of_levelId_eq hx hl hid
    exact ⟨ready, above⟩
  | floored hl ready _ above _ _ =>
    obtain rfl := hs.ladder.eq_of_levelId_eq hx hl hid
    exact ⟨ready, above⟩
  | lockedOut hl ready _ above _ _ =>
    obtain rfl := hs.ladder.eq_of_levelId_eq hx hl hid
    exact ⟨ready, above⟩
  | paid => exact absurd he (by simp [HedgeLevel.tpCrossing])
  | stoppedOut => exact absurd he (by simp [HedgeLevel.stopCrossing])
  | brokeEven => exact absurd he (by simp [HedgeLevel.breakevenCrossing])

/-! ## A crossing, as the triggers see it -/

/-- What the event `e` makes of the level it is for: `x` before, `y` after. -/
inductive Turns (x y : HedgeLevel) : CrossingEvent → Prop
  | opened (ready : x.state = .ready) (armed : x.entryArmed = true) (state : y.state = .active)
      (entryArmed : y.entryArmed = false) : Turns x y x.entryCrossing
  | lockedOut (ready : x.state = .ready) (armed : x.entryArmed = true)
      (state : y.state = .locked) (entryArmed : y.entryArmed = false) :
      Turns x y x.entryCrossing
  | paid (active : x.state = .active) (state : y.state = .paid)
      (entryArmed : y.entryArmed = false) : Turns x y x.tpCrossing
  | stoppedOut (active : x.state = .active) (fixed : x.activeIsFloor = false)
      (state : y.state = .ready) (entryArmed : y.entryArmed = true) : Turns x y x.stopCrossing
  | brokeEven (active : x.state = .active) (floor : x.activeIsFloor = true)
      (state : y.state = .ready) (entryArmed : y.entryArmed = true) :
      Turns x y x.breakevenCrossing

theorem HedgeLevel.settled_attempts (config : StrategyConfig) (claims : List (ℕ × ℚ))
    (x : HedgeLevel) : (x.settled config claims).attempts = x.attempts := by
  induction claims generalizing x with
  | nil => rfl
  | cons claim claims ih =>
    have hone : (x.updating claim.1 (·.repaid config claim.2)).attempts = x.attempts := by
      unfold HedgeLevel.updating
      split <;> rfl
    exact (ih _).trans hone

/-- **The status view of a crossing**: it rewrites the list level by level, keeps every zone,
    turns the level it is for and leaves the status of every other level alone. An opening is an
    attempt, and nothing else is. -/
theorem Crosses.attempts {tickIndex : ℕ} {s s' : EngineState} {e : CrossingEvent}
    (h : Crosses config spread tickIndex s e s') :
    ∃ g : HedgeLevel → HedgeLevel, s'.levels = s.levels.map g ∧
      (∀ x ∈ s.levels, SameZone x (g x)) ∧
      (∀ x ∈ s.levels, x.levelId ≠ e.levelId →
        SameStatus x (g x) ∧ (g x).attempts = x.attempts) ∧
      ∃ x ∈ s.levels, x.levelId = e.levelId ∧ Turns x (g x) e ∧
        (g x).attempts = if (g x).state = .active then x.attempts + 1 else x.attempts := by
  have hone : ∀ {level : HedgeLevel}, level ∈ s.levels → ∀ {f : HedgeLevel → HedgeLevel},
      (∀ x, SameZone x (f x)) → Turns level (f level) e → level.levelId = e.levelId →
      ((f level).attempts = if (f level).state = .active then level.attempts + 1
        else level.attempts) →
      ∃ g : HedgeLevel → HedgeLevel,
        s.levels.map (HedgeLevel.updating level.levelId f) = s.levels.map g ∧
        (∀ x ∈ s.levels, SameZone x (g x)) ∧
        (∀ x ∈ s.levels, x.levelId ≠ e.levelId →
          SameStatus x (g x) ∧ (g x).attempts = x.attempts) ∧
        ∃ x ∈ s.levels, x.levelId = e.levelId ∧ Turns x (g x) e ∧
          (g x).attempts = if (g x).state = .active then x.attempts + 1 else x.attempts := by
    intro level hl f hf ht hid hattempts
    refine ⟨_, rfl, fun x _ => HedgeLevel.sameZone_updating (hf x), fun x _ hne => ?_,
      level, hl, hid, ?_⟩
    · rw [HedgeLevel.updating_of_ne (hid ▸ hne)]
      exact ⟨SameStatus.refl x, rfl⟩
    · rw [HedgeLevel.updating_self]
      exact ⟨ht, hattempts⟩
  cases h with
  | opened hl ready armed _ _ =>
    exact hone hl (fun _ => SameZone.activated ..) (.opened ready armed rfl rfl) rfl rfl
  | floored hl ready armed _ _ _ =>
    exact hone hl (fun _ => SameZone.activated ..) (.opened ready armed rfl rfl) rfl rfl
  | lockedOut hl ready armed _ _ _ =>
    exact hone hl (fun _ => SameZone.lockedOut) (.lockedOut ready armed rfl rfl) rfl rfl
  | @paid level hl active =>
    have hzone := HedgeLevel.sameZone_settled config level.activeRecoveryAllocations
    refine ⟨_, rfl, fun x _ =>
      (hzone x).trans (HedgeLevel.sameZone_updating (SameZone.paidOut _)), fun x _ hne => ?_,
      level, hl, rfl, ?_⟩
    · rw [HedgeLevel.updating_of_ne (by rw [(hzone x).levelId]; exact hne)]
      exact ⟨SameStatus.settled config _ x, HedgeLevel.settled_attempts config _ x⟩
    · rw [HedgeLevel.updating_of_eq (hzone level).levelId]
      exact ⟨.paid active rfl rfl, HedgeLevel.settled_attempts config _ level⟩
  | stoppedOut hl active fixed =>
    exact hone hl (fun _ => SameZone.stopped ..) (.stoppedOut active fixed rfl rfl) rfl rfl
  | brokeEven hl active floor =>
    exact hone hl (fun _ => SameZone.brokenEven) (.brokeEven active floor rfl rfl) rfl rfl

/-- The same without the attempts. -/
theorem Crosses.turns {tickIndex : ℕ} {s s' : EngineState} {e : CrossingEvent}
    (h : Crosses config spread tickIndex s e s') :
    ∃ g : HedgeLevel → HedgeLevel, s'.levels = s.levels.map g ∧
      (∀ x ∈ s.levels, SameZone x (g x)) ∧
      (∀ x ∈ s.levels, x.levelId ≠ e.levelId → SameStatus x (g x)) ∧
      ∃ x ∈ s.levels, x.levelId = e.levelId ∧ Turns x (g x) e := by
  obtain ⟨g, hlevels, hzone, hother, x, hx, hid, hturn, -⟩ := h.attempts
  exact ⟨g, hlevels, hzone, fun y hy hne => (hother y hy hne).1, x, hx, hid, hturn⟩

end CreditHedge
