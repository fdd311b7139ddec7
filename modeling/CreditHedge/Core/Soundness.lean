import CreditHedge.Core.Ladder

/-!
# The state the handlers keep

`Sound` is the invariant of the level list that every crossing keeps, whatever the recovery mode,
the lock policy and the place the path started in. Besides the bookkeeping of a single level
(`LevelSound`) it carries the one argument that is not local: a recovery claim is copied into the
claiming level when that level opens and is *not* reserved in its source, so nothing in the code
stops two open levels from claiming the same debt. What stops them is the order levels open in:

* a level that was never armed has all higher levels never armed (`fresh_above`), because the
  price that arms a level is at or above its entry and so above every lower level's;
* a level opens only when every higher level is never armed or gone for good, so at that moment
  every level from the source of its claim up to itself is gone for good (`ClaimOn.retired`);
* a level opening above an open one therefore has its source above the open one's source too.
-/

set_option autoImplicit false

namespace CreditHedge

/-- Never armed so far, hence never opened. -/
def HedgeLevel.Fresh (level : HedgeLevel) : Prop :=
  level.state = .ready ∧ level.entryArmed = false

/-- Gone for good: paid or locked. -/
def HedgeLevel.Retired (level : HedgeLevel) : Prop :=
  level.state = .paid ∨ level.state = .locked

theorem HedgeLevel.Retired.not_ready {level : HedgeLevel} (h : level.Retired) :
    level.state ≠ .ready := by
  rcases h with h | h <;> simp [h]

theorem HedgeLevel.Retired.not_active {level : HedgeLevel} (h : level.Retired) :
    level.state ≠ .active := by
  rcases h with h | h <;> simp [h]

variable (config : StrategyConfig) (spread : CreditSpread)

/-- The part of a source's debt that one take-profit claims. -/
def recoveryShare (source : HedgeLevel) : ℚ :=
  match config.recoveryMode with
  | .fullNextTp => source.recoveryDebt
  | .distributed => min source.recoveryDebt (source.recoveryDebt / source.recoveryTpsRemaining)

/-- `level` holds exactly one allocation, the current share of `source`'s debt, and every level
    from the source up to `level` is gone for good. -/
structure ClaimOn (levels : List HedgeLevel) (level source : HedgeLevel) : Prop where
  source_mem : source ∈ levels
  allocations :
    level.activeRecoveryAllocations = [(source.levelId, recoveryShare config source)]
  debt_pos : 0 < source.recoveryDebt
  source_le : source.levelId ≤ level.levelId
  own : config.recoveryMode = .fullNextTp → source.levelId = level.levelId
  retired : ∀ x ∈ levels, source.levelId ≤ x.levelId → x.levelId < level.levelId → x.Retired

/-- What an open level claims: nothing, or one share of one source. -/
def Claims (levels : List HedgeLevel) (level : HedgeLevel) : Prop :=
  (level.activeRecoveryAllocations = [] ∧
    (config.recoveryMode = .fullNextTp → level.recoveryDebt = 0)) ∨
  ∃ source, ClaimOn config levels level source

/-- The bookkeeping of one level. -/
structure LevelSound (level : HedgeLevel) : Prop where
  quantity_pos : level.state = .active → 0 < level.activeQuantity
  quantity_mul : level.state = .active →
    level.activeQuantity * level.tpDistance = level.optionBudget + level.allocated
  idle : level.state ≠ .active →
    level.activeQuantity = 0 ∧ level.activeRecoveryAllocations = [] ∧ level.activeIsFloor = false
  debt_nonneg : 0 ≤ level.recoveryDebt
  tps_nonneg : 0 ≤ level.recoveryTpsRemaining
  tps_pos_iff : config.recoveryMode = .distributed →
    (0 < level.recoveryDebt ↔ 0 < level.recoveryTpsRemaining)
  fresh_debt : level.Fresh → level.recoveryDebt = 0

structure Sound (levels : List HedgeLevel) : Prop where
  ladder : Ladder config spread levels
  level : ∀ level ∈ levels, LevelSound config level
  claims : ∀ level ∈ levels, level.state = .active → Claims config levels level
  distinct : ∀ level ∈ levels, ∀ level' ∈ levels, level.state = .active → level'.state = .active →
    ∀ p ∈ level.activeRecoveryAllocations, ∀ p' ∈ level'.activeRecoveryAllocations, p.1 = p'.1 →
    level.levelId = level'.levelId
  fresh_above : ∀ level ∈ levels, ∀ level' ∈ levels, level.levelId < level'.levelId →
    level'.Fresh → level.Fresh

variable {config spread} {levels : List HedgeLevel} {level source : HedgeLevel}

/-! ## Shares and claims -/

theorem recoveryShare_le : recoveryShare config source ≤ source.recoveryDebt := by
  unfold recoveryShare
  cases config.recoveryMode with
  | fullNextTp => exact le_rfl
  | distributed => exact min_le_left _ _

theorem recoveryShare_pos (h : LevelSound config source) (hpos : 0 < source.recoveryDebt) :
    0 < recoveryShare config source := by
  unfold recoveryShare
  cases hm : config.recoveryMode with
  | fullNextTp => exact hpos
  | distributed =>
    have htps : (0 : ℚ) < source.recoveryTpsRemaining := by
      exact_mod_cast (h.tps_pos_iff hm).mp hpos
    exact lt_min hpos (div_pos hpos htps)

/-- In distributed mode the share is an equal part of the remaining debt. -/
theorem recoveryShare_distributed (hm : config.recoveryMode = .distributed)
    (h : LevelSound config source) (hpos : 0 < source.recoveryDebt) :
    recoveryShare config source * source.recoveryTpsRemaining = source.recoveryDebt := by
  have htps := (h.tps_pos_iff hm).mp hpos
  have htps' : (1 : ℚ) ≤ source.recoveryTpsRemaining := by exact_mod_cast htps
  have hle : source.recoveryDebt / source.recoveryTpsRemaining ≤ source.recoveryDebt :=
    div_le_self hpos.le htps'
  simp only [recoveryShare, hm, min_eq_right hle]
  exact div_mul_cancel₀ _ (by linarith)

theorem ClaimOn.allocated_eq (h : ClaimOn config levels level source) :
    level.allocated = recoveryShare config source := by
  simp [HedgeLevel.allocated, h.allocations]

/-- The source of an open level's claim is the level itself or gone for good. -/
theorem ClaimOn.source_retired (h : ClaimOn config levels level source)
    (hne : source.levelId ≠ level.levelId) : source.Retired :=
  h.retired source h.source_mem le_rfl (lt_of_le_of_ne h.source_le hne)

theorem Claims.allocated_nonneg (hs : Sound config spread levels)
    (h : Claims config levels level) : 0 ≤ level.allocated := by
  rcases h with ⟨hnil, -⟩ | ⟨source, hc⟩
  · simp [HedgeLevel.allocated, hnil]
  · rw [hc.allocated_eq]
    exact (recoveryShare_pos (hs.level _ hc.source_mem) hc.debt_pos).le

/-- A claim survives a rewriting of the list that leaves the source's debt alone, keeps the
    claiming level's allocations and brings no retired level back. -/
theorem ClaimOn.map (h : ClaimOn config levels level source) {g : HedgeLevel → HedgeLevel}
    (hzone : ∀ x ∈ levels, SameZone x (g x)) (hl : level ∈ levels)
    (halloc : (g level).activeRecoveryAllocations = level.activeRecoveryAllocations)
    (hsource : g source = source) (hret : ∀ x ∈ levels, x.Retired → (g x).Retired) :
    ClaimOn config (levels.map g) (g level) source where
  source_mem := hsource ▸ List.mem_map_of_mem h.source_mem
  allocations := by rw [halloc]; exact h.allocations
  debt_pos := h.debt_pos
  source_le := by rw [(hzone level hl).levelId]; exact h.source_le
  own := by rw [(hzone level hl).levelId]; exact h.own
  retired := by
    intro y hy hle hlt
    obtain ⟨x, hx, rfl⟩ := List.mem_map.mp hy
    rw [(hzone x hx).levelId] at hle hlt
    rw [(hzone level hl).levelId] at hlt
    exact hret x hx (h.retired x hx hle hlt)

/-! ## What a level claims when it opens -/

theorem oldestClaim_spec (targetId : ℕ) : ∀ levels : List HedgeLevel,
    HedgeEngine.oldestClaim targetId levels = [] ∨
    ∃ source ∈ levels, source.levelId ≤ targetId ∧ 0 < source.recoveryDebt ∧
      HedgeEngine.oldestClaim targetId levels =
        [(source.levelId,
          min source.recoveryDebt (source.recoveryDebt / source.recoveryTpsRemaining))]
  | [] => Or.inl rfl
  | source :: rest => by
    rw [HedgeEngine.oldestClaim]
    split
    · exact Or.inl rfl
    · rename_i hle
      split
      · rename_i hpos
        exact Or.inr ⟨source, List.mem_cons_self .., not_lt.mp hle, hpos.1, rfl⟩
      · rcases oldestClaim_spec targetId rest with h | h
        · exact Or.inl h
        · obtain ⟨source', hm, h⟩ := h
          exact Or.inr ⟨source', List.mem_cons_of_mem _ hm, h⟩

/-- Every higher level is never armed or gone for good. -/
def ClearedAbove (levels : List HedgeLevel) (level : HedgeLevel) : Prop :=
  ∀ x ∈ levels, x.levelId < level.levelId → x.Fresh ∨ x.Retired

/-- **What a level claims when it opens**, as a property of the list before it opens: nothing,
    or the current share of a source all of whose successors up to the level are gone for good.
    A never-armed level in between would make the source never armed too, hence without debt. -/
theorem recoveryAllocationsFor_spec (hs : Sound config spread levels) (hl : level ∈ levels)
    (habove : ClearedAbove levels level) :
    (HedgeEngine.recoveryAllocationsFor config levels level = [] ∧
      (config.recoveryMode = .fullNextTp → level.recoveryDebt = 0)) ∨
    ∃ source ∈ levels, source.levelId ≤ level.levelId ∧ 0 < source.recoveryDebt ∧
      (config.recoveryMode = .fullNextTp → source.levelId = level.levelId) ∧
      (∀ x ∈ levels, source.levelId ≤ x.levelId → x.levelId < level.levelId → x.Retired) ∧
      HedgeEngine.recoveryAllocationsFor config levels level =
        [(source.levelId, recoveryShare config source)] := by
  have hret : ∀ source ∈ levels, 0 < source.recoveryDebt →
      ∀ x ∈ levels, source.levelId ≤ x.levelId → x.levelId < level.levelId → x.Retired := by
    intro source hsrc hpos x hx hle hlt
    rcases habove x hx hlt with hfresh | hr
    · have hsfresh : source.Fresh := by
        rcases hle.lt_or_eq with hlt' | heq
        · exact hs.fresh_above source hsrc x hx hlt' hfresh
        · rw [hs.ladder.eq_of_levelId_eq hsrc hx heq]
          exact hfresh
      exact absurd ((hs.level source hsrc).fresh_debt hsfresh) hpos.ne'
    · exact hr
  cases hm : config.recoveryMode with
  | fullNextTp =>
    by_cases hpos : 0 < level.recoveryDebt
    · refine Or.inr ⟨level, hl, le_rfl, hpos, fun _ => rfl, hret level hl hpos, ?_⟩
      simp only [HedgeEngine.recoveryAllocationsFor, recoveryShare, hm]
      exact if_pos hpos
    · refine Or.inl ⟨?_, fun _ => ?_⟩
      · simp only [HedgeEngine.recoveryAllocationsFor, hm]
        exact if_neg hpos
      · exact le_antisymm (not_lt.mp hpos) (hs.level level hl).debt_nonneg
  | distributed =>
    rcases oldestClaim_spec level.levelId levels with h | h
    · exact Or.inl ⟨by simp only [HedgeEngine.recoveryAllocationsFor, hm, h], by simp⟩
    · obtain ⟨source, hsrc, hle, hpos, h⟩ := h
      refine Or.inr ⟨source, hsrc, hle, hpos, by simp, hret source hsrc hpos, ?_⟩
      simp only [HedgeEngine.recoveryAllocationsFor, recoveryShare, hm, h]

end CreditHedge
