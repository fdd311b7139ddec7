import CreditHedge.Core.Runs

/-!
# The books

Five totals tell the money side of a state: what the paid levels have `collected`, the
outstanding recovery debt, the realised P&L, the gross stop losses, and the `openRisk`, what the
hedges open with a fixed stop would lose if they were all stopped out now. `Crosses.posts` says how
one crossing moves them; the invariants about money are read off it.
-/

set_option autoImplicit false

namespace CreditHedge

/-- A level's budget once it is paid. -/
def HedgeLevel.paidBudget (level : HedgeLevel) : ℚ :=
  if level.state = .paid then level.optionBudget else 0

/-- What stopping the level out now would lose. -/
def HedgeLevel.fixedRisk (level : HedgeLevel) : ℚ :=
  if level.state = .active ∧ level.activeIsFloor = false then level.stopLoss else 0

def collected (levels : List HedgeLevel) : ℚ := (levels.map HedgeLevel.paidBudget).sum

def openRisk (levels : List HedgeLevel) : ℚ := (levels.map HedgeLevel.fixedRisk).sum

variable {config : StrategyConfig} {spread : CreditSpread} {levels : List HedgeLevel}
  {level : HedgeLevel}

/-! ## Sums over a rewritten list -/

theorem Ladder.sum_updating (h : Ladder config spread levels) (hl : level ∈ levels)
    (f : HedgeLevel → HedgeLevel) (v : HedgeLevel → ℚ) :
    ((levels.map (HedgeLevel.updating level.levelId f)).map v).sum =
      (levels.map v).sum + (v (f level) - v level) := by
  rw [List.map_map, h.numbered.sum_map_eq_add hl (f := v)]
  · simp
  · intro y _ hne
    simp only [Function.comp_apply, HedgeLevel.updating_of_ne hne]

/-- A value that repayments do not touch, summed after a take-profit. -/
theorem Sound.sum_paid (hs : Sound config spread levels) (hl : level ∈ levels)
    (claims : List (ℕ × ℚ)) (profit : ℚ) {v : HedgeLevel → ℚ}
    (hv : ∀ x, v (x.settled config claims) = v x) :
    ((levels.map fun x => (x.settled config claims).updating level.levelId
        (·.paidOut profit)).map v).sum =
      (levels.map v).sum + (v ((level.settled config claims).paidOut profit) - v level) := by
  have hzone : ∀ x, SameZone x (x.settled config claims) :=
    HedgeLevel.sameZone_settled config claims
  rw [List.map_map, hs.ladder.numbered.sum_map_eq_add hl (f := v)]
  · simp only [Function.comp_apply, HedgeLevel.updating_of_eq (hzone level).levelId]
  · intro y _ hne
    simp only [Function.comp_apply]
    rw [HedgeLevel.updating_of_ne (by rw [(hzone y).levelId]; exact hne), hv]

/-- The debt after a take-profit has gone down by what the level had allocated. -/
theorem Sound.debt_paid (hs : Sound config spread levels) (hl : level ∈ levels)
    (active : level.state = .active) (profit : ℚ) :
    Ledger.outstandingDebt (levels.map fun x =>
        (x.settled config level.activeRecoveryAllocations).updating level.levelId
          (·.paidOut profit)) =
      Ledger.outstandingDebt levels - level.allocated := by
  have hdebt : ∀ x : HedgeLevel, ((x.settled config level.activeRecoveryAllocations).updating
      level.levelId (·.paidOut profit)).recoveryDebt =
      (x.settled config level.activeRecoveryAllocations).recoveryDebt := by
    intro x
    unfold HedgeLevel.updating
    split <;> rfl
  unfold Ledger.outstandingDebt
  rw [List.map_map]
  simp only [Function.comp_def, hdebt]
  rcases hs.claims level hl active with ⟨hnil, -⟩ | ⟨source, hc⟩
  · simp [hnil, HedgeLevel.allocated]
  · rw [hc.allocated_eq, hc.allocations]
    have hsum := hs.ladder.sum_updating hc.source_mem
      (·.repaid config (recoveryShare config source)) HedgeLevel.recoveryDebt
    rw [List.map_map] at hsum
    refine hsum.trans ?_
    simp only [HedgeLevel.repaid]
    ring

theorem Sound.stopLoss_pos (hs : Sound config spread levels) (hl : level ∈ levels)
    (active : level.state = .active) : 0 < level.stopLoss :=
  mul_pos ((hs.level level hl).quantity_pos active) (hs.ladder.stopDistance_pos hl)

theorem Sound.fixedRisk_nonneg (hs : Sound config spread levels) (hl : level ∈ levels) :
    0 ≤ level.fixedRisk := by
  unfold HedgeLevel.fixedRisk
  split
  · rename_i h
    exact (hs.stopLoss_pos hl h.1).le
  · exact le_rfl

theorem Sound.openRisk_nonneg (hs : Sound config spread levels) : 0 ≤ openRisk levels :=
  List.sum_nonneg fun r hr => by
    obtain ⟨x, hx, rfl⟩ := List.mem_map.mp hr
    exact hs.fixedRisk_nonneg hx

/-- The whole profit of a take-profit: the level's budget and what it had allocated. -/
theorem Sound.tpProfit_eq (hs : Sound config spread levels) (hl : level ∈ levels)
    (active : level.state = .active) :
    level.tpProfit = level.optionBudget + level.allocated :=
  (hs.level level hl).quantity_mul active

/-! ## What a crossing posts -/

/-- How one crossing moves the totals: by a budget `paid`, a recovery `repaid`, a loss `lost`,
    a risk `taken` on and a risk `shed`. -/
structure Posts (s s' : EngineState) (paid repaid lost taken shed : ℚ) : Prop where
  collected : collected s'.levels = collected s.levels + paid
  debt : Ledger.outstandingDebt s'.levels = Ledger.outstandingDebt s.levels + lost - repaid
  realized : s'.ledger.realizedHedgePnl = s.ledger.realizedHedgePnl + paid + repaid - lost
  gross : s'.ledger.grossStopLosses = s.ledger.grossStopLosses + lost
  risk : openRisk s'.levels = openRisk s.levels + taken - shed
  paid_nonneg : 0 ≤ paid
  repaid_nonneg : 0 ≤ repaid
  lost_nonneg : 0 ≤ lost
  lost_le_shed : lost ≤ shed

/-- **What a crossing posts.** A risk is taken on by an entry with a fixed stop only, and is then
    the projected loss that the stop budget was asked for. -/
theorem Crosses.posts {tickIndex : ℕ} {s s' : EngineState} {e : CrossingEvent}
    (hs : Sound config spread s.levels) (h : Crosses config spread tickIndex s e s') :
    ∃ paid repaid lost taken shed, Posts s s' paid repaid lost taken shed ∧
      (taken = 0 ∨ ∃ level ∈ s.levels, e = level.entryCrossing ∧ level.state = .ready ∧
        level.entryArmed = true ∧ ClearedAbove s.levels level ∧
        ¬ Refused config spread s level ∧
        taken = HedgeEngine.projectedStopLoss config s.levels level) := by
  cases h with
  | @opened level hl ready armed above afforded =>
    refine ⟨0, 0, 0, HedgeEngine.projectedStopLoss config s.levels level, 0,
      ⟨?_, ?_, ?_, ?_, ?_, le_rfl, le_rfl, le_rfl, le_rfl⟩,
      Or.inr ⟨level, hl, rfl, ready, armed, above, afforded, rfl⟩⟩
    · simp only [CreditHedge.collected, hs.ladder.sum_updating hl]
      simp [HedgeLevel.paidBudget, HedgeLevel.opening, HedgeLevel.activated, ready]
    · simp only [Ledger.outstandingDebt, hs.ladder.sum_updating hl]
      simp [HedgeLevel.opening, HedgeLevel.activated]
    · simp [Ledger.recordEntry, Ledger.recordOpen, Ledger.append]
    · simp [Ledger.recordEntry, Ledger.recordOpen, Ledger.append]
    · simp only [openRisk, hs.ladder.sum_updating hl]
      simp [HedgeLevel.fixedRisk, HedgeLevel.opening, HedgeLevel.activated, ready,
        HedgeLevel.stopLoss, HedgeEngine.projectedStopLoss, HedgeLevel.stopDistance]
  | floored hl ready armed above refused policy =>
    refine ⟨0, 0, 0, 0, 0, ⟨?_, ?_, ?_, ?_, ?_, le_rfl, le_rfl, le_rfl, le_rfl⟩, Or.inl rfl⟩
    · simp only [CreditHedge.collected, hs.ladder.sum_updating hl]
      simp [HedgeLevel.paidBudget, HedgeLevel.opening, HedgeLevel.activated, ready]
    · simp only [Ledger.outstandingDebt, hs.ladder.sum_updating hl]
      simp [HedgeLevel.opening, HedgeLevel.activated]
    · simp [Ledger.recordFloorEntry, Ledger.recordOpen, Ledger.append]
    · simp [Ledger.recordFloorEntry, Ledger.recordOpen, Ledger.append]
    · simp only [openRisk, hs.ladder.sum_updating hl]
      simp [HedgeLevel.fixedRisk, HedgeLevel.opening, HedgeLevel.activated, ready]
  | lockedOut hl ready armed above refused policy =>
    refine ⟨0, 0, 0, 0, 0, ⟨?_, ?_, ?_, ?_, ?_, le_rfl, le_rfl, le_rfl, le_rfl⟩, Or.inl rfl⟩
    · simp only [CreditHedge.collected, hs.ladder.sum_updating hl]
      simp [HedgeLevel.paidBudget, HedgeLevel.lockedOut, ready]
    · simp only [Ledger.outstandingDebt, hs.ladder.sum_updating hl]
      simp [HedgeLevel.lockedOut]
    · simp [Ledger.recordLocked, Ledger.append]
    · simp [Ledger.recordLocked, Ledger.append]
    · simp only [openRisk, hs.ladder.sum_updating hl]
      simp [HedgeLevel.fixedRisk, HedgeLevel.lockedOut, ready]
  | @paid level hl active =>
    have hstatus := SameStatus.settled config level.activeRecoveryAllocations
    have hzone := HedgeLevel.sameZone_settled config level.activeRecoveryAllocations
    refine ⟨level.optionBudget, level.allocated, 0, 0, level.fixedRisk,
      ⟨?_, ?_, ?_, ?_, ?_, (hs.ladder.optionBudget_pos hl).le,
        (hs.claims level hl active).allocated_nonneg hs, le_rfl, hs.fixedRisk_nonneg hl⟩,
      Or.inl rfl⟩
    · unfold CreditHedge.collected
      rw [hs.sum_paid hl _ _ fun x => by
        simp only [HedgeLevel.paidBudget, (hstatus x).state, (hzone x).optionBudget]]
      simp [HedgeLevel.paidBudget, HedgeLevel.paidOut, active, (hzone level).optionBudget]
    · simp only [hs.debt_paid hl active]
      ring
    · simp only [Ledger.recordTp, Ledger.append, hs.tpProfit_eq hl active]
      ring
    · simp [Ledger.recordTp, Ledger.append]
    · unfold openRisk
      rw [hs.sum_paid hl _ _ fun x => by
        simp only [HedgeLevel.fixedRisk, HedgeLevel.stopLoss, (hstatus x).state,
          (hstatus x).activeIsFloor, (hstatus x).activeQuantity, (hzone x).stopDistance]]
      simp [HedgeLevel.fixedRisk, HedgeLevel.paidOut, active]
      ring
  | @stoppedOut level hl active fixed =>
    refine ⟨0, 0, level.stopLoss, 0, level.stopLoss,
      ⟨?_, ?_, ?_, ?_, ?_, le_rfl, le_rfl, (hs.stopLoss_pos hl active).le, le_rfl⟩, Or.inl rfl⟩
    · simp only [CreditHedge.collected, hs.ladder.sum_updating hl]
      simp [HedgeLevel.paidBudget, HedgeLevel.stopped, active]
    · simp only [Ledger.outstandingDebt, hs.ladder.sum_updating hl]
      simp [HedgeLevel.stopped]
    · simp [Ledger.recordStop, Ledger.append]
    · simp [Ledger.recordStop, Ledger.append]
    · simp only [openRisk, hs.ladder.sum_updating hl]
      simp [HedgeLevel.fixedRisk, HedgeLevel.stopped, active, fixed]
      ring
  | @brokeEven level hl active floor =>
    refine ⟨0, 0, 0, 0, 0, ⟨?_, ?_, ?_, ?_, ?_, le_rfl, le_rfl, le_rfl, le_rfl⟩, Or.inl rfl⟩
    · simp only [CreditHedge.collected, hs.ladder.sum_updating hl]
      simp [HedgeLevel.paidBudget, HedgeLevel.brokenEven, active]
    · simp only [Ledger.outstandingDebt, hs.ladder.sum_updating hl]
      simp [HedgeLevel.brokenEven]
    · simp [Ledger.recordBreakeven, Ledger.append]
    · simp [Ledger.recordBreakeven, Ledger.append]
    · simp only [openRisk, hs.ladder.sum_updating hl]
      simp [HedgeLevel.fixedRisk, HedgeLevel.brokenEven, floor]

/-! ## Arming posts nothing -/

variable {s : EngineState} {price : ℚ}

theorem collected_closedAt : collected (s.closedAt price).levels = collected s.levels := by
  unfold collected
  rw [EngineState.closedAt_levels, List.map_map]
  refine congrArg List.sum (List.map_congr_left fun x _ => ?_)
  simp only [Function.comp_apply, HedgeLevel.paidBudget, HedgeLevel.armedAt_state,
    (SameZone.armedAt price).optionBudget]

theorem outstandingDebt_closedAt :
    Ledger.outstandingDebt (s.closedAt price).levels = Ledger.outstandingDebt s.levels := by
  unfold Ledger.outstandingDebt
  rw [EngineState.closedAt_levels, List.map_map]
  refine congrArg List.sum (List.map_congr_left fun x _ => ?_)
  simp

theorem openRisk_closedAt : openRisk (s.closedAt price).levels = openRisk s.levels := by
  unfold openRisk
  rw [EngineState.closedAt_levels, List.map_map]
  refine congrArg List.sum (List.map_congr_left fun x _ => ?_)
  simp only [Function.comp_apply, HedgeLevel.fixedRisk, HedgeLevel.stopLoss,
    HedgeLevel.armedAt_state, HedgeLevel.armedAt_activeIsFloor, HedgeLevel.armedAt_activeQuantity,
    (SameZone.armedAt price).stopDistance]

/-- The levels as generated have nothing in the books. -/
theorem totals_initial :
    collected (initialState config spread).levels = 0 ∧
      Ledger.outstandingDebt (initialState config spread).levels = 0 ∧
      openRisk (initialState config spread).levels = 0 := by
  refine ⟨List.sum_eq_zero fun v hv => ?_, List.sum_eq_zero fun v hv => ?_,
    List.sum_eq_zero fun v hv => ?_⟩
  · obtain ⟨x, hx, rfl⟩ := List.mem_map.mp hv
    obtain ⟨index, -, rfl⟩ := List.mem_map.mp hx
    simp [HedgeLevel.paidBudget, virtualLevel]
  · obtain ⟨x, hx, rfl⟩ := List.mem_map.mp hv
    obtain ⟨index, -, rfl⟩ := List.mem_map.mp hx
    rfl
  · obtain ⟨x, hx, rfl⟩ := List.mem_map.mp hv
    obtain ⟨index, -, rfl⟩ := List.mem_map.mp hx
    simp [HedgeLevel.fixedRisk, virtualLevel]

end CreditHedge
