import CreditHedge.Core.HedgeEngine
import CreditHedge.Lib.Table
import Mathlib.Tactic.Positivity
import Mathlib.Tactic.Push

/-!
# The ladder

What never changes while the engine runs: the levels are numbered in order, there are as many as
configured, and each still carries the zone it was generated with. `Ladder` states that of a list
of levels, the handlers keep it because every mutation keeps a level's zone (`SameZone`), and the
comparisons the crossing arguments rest on are read off it:

    long strike ≤ tp < entry < stop,   entry ≤ short strike,
    and a lower level's entry is at or below a higher level's take-profit.
-/

set_option autoImplicit false

namespace CreditHedge

/-- Two states of one level: the fields that `generate_virtual_levels` fixes agree. -/
structure SameZone (level level' : HedgeLevel) : Prop where
  levelId : level'.levelId = level.levelId
  entryPrice : level'.entryPrice = level.entryPrice
  tpPrice : level'.tpPrice = level.tpPrice
  stopPrice : level'.stopPrice = level.stopPrice
  optionBudget : level'.optionBudget = level.optionBudget

namespace SameZone

variable {level : HedgeLevel}

theorem refl (level : HedgeLevel) : SameZone level level := ⟨rfl, rfl, rfl, rfl, rfl⟩

theorem trans {a b c : HedgeLevel} (h : SameZone a b) (h' : SameZone b c) : SameZone a c :=
  ⟨h'.levelId.trans h.levelId, h'.entryPrice.trans h.entryPrice, h'.tpPrice.trans h.tpPrice,
    h'.stopPrice.trans h.stopPrice, h'.optionBudget.trans h.optionBudget⟩

theorem stopDistance {level' : HedgeLevel} (h : SameZone level level') :
    level'.stopDistance = level.stopDistance := by
  simp only [HedgeLevel.stopDistance, h.entryPrice, h.stopPrice]

/-! A level's crossings are the same in all its states. -/

theorem tpCrossing {level' : HedgeLevel} (h : SameZone level level') :
    level'.tpCrossing = level.tpCrossing := by
  simp only [HedgeLevel.tpCrossing, h.levelId, h.tpPrice]

theorem entryCrossing {level' : HedgeLevel} (h : SameZone level level') :
    level'.entryCrossing = level.entryCrossing := by
  simp only [HedgeLevel.entryCrossing, h.levelId, h.entryPrice]

theorem breakevenCrossing {level' : HedgeLevel} (h : SameZone level level') :
    level'.breakevenCrossing = level.breakevenCrossing := by
  simp only [HedgeLevel.breakevenCrossing, h.levelId, h.entryPrice]

theorem stopCrossing {level' : HedgeLevel} (h : SameZone level level') :
    level'.stopCrossing = level.stopCrossing := by
  simp only [HedgeLevel.stopCrossing, h.levelId, h.stopPrice]

theorem activated (quantity : ℚ) (isFloor : Bool) (allocations : List (ℕ × ℚ)) :
    SameZone level (level.activated quantity isFloor allocations) := ⟨rfl, rfl, rfl, rfl, rfl⟩

theorem lockedOut : SameZone level level.lockedOut := ⟨rfl, rfl, rfl, rfl, rfl⟩

theorem paidOut (profit : ℚ) : SameZone level (level.paidOut profit) := ⟨rfl, rfl, rfl, rfl, rfl⟩

theorem repaid (config : StrategyConfig) (allocation : ℚ) :
    SameZone level (level.repaid config allocation) := ⟨rfl, rfl, rfl, rfl, rfl⟩

theorem stopped (config : StrategyConfig) (loss : ℚ) :
    SameZone level (level.stopped config loss) := ⟨rfl, rfl, rfl, rfl, rfl⟩

theorem brokenEven : SameZone level level.brokenEven := ⟨rfl, rfl, rfl, rfl, rfl⟩

theorem armedAt (price : ℚ) : SameZone level (level.armedAt price) := by
  unfold HedgeLevel.armedAt
  split
  · exact ⟨rfl, rfl, rfl, rfl, rfl⟩
  · exact refl level

end SameZone

/-- The levels are `levelCount` many, numbered in order, each with the zone its number gives. -/
structure Ladder (config : StrategyConfig) (spread : CreditSpread) (levels : List HedgeLevel) :
    Prop where
  numbered : Table.Numbered HedgeLevel.levelId levels
  length_eq : levels.length = config.levelCount
  entryPrice_eq : ∀ level ∈ levels, level.entryPrice =
    spread.shortPutStrike - zoneWidth spread config.levelCount * (level.levelId - 1)
  tpPrice_eq : ∀ level ∈ levels, level.tpPrice =
    spread.shortPutStrike - zoneWidth spread config.levelCount * level.levelId
  stopPrice_eq : ∀ level ∈ levels, level.stopPrice = level.entryPrice * (1 + config.stopRate)
  optionBudget_eq : ∀ level ∈ levels,
    level.optionBudget = spread.optionQuantity * zoneWidth spread config.levelCount

namespace Ladder

variable {config : StrategyConfig} {spread : CreditSpread} {levels : List HedgeLevel}
  {level level' : HedgeLevel}

/-- The freshly generated levels. -/
theorem generated :
    Ladder config spread
      ((List.range config.levelCount).map
        (virtualLevel spread config.levelCount config.stopRate)) := by
  have hn := config.levelCount_pos
  have hlevel : ∀ level ∈ (List.range config.levelCount).map
      (virtualLevel spread config.levelCount config.stopRate),
      ∃ index < config.levelCount,
        level = virtualLevel spread config.levelCount config.stopRate index := by
    intro level hl
    obtain ⟨index, hi, rfl⟩ := List.mem_map.mp hl
    exact ⟨index, List.mem_range.mp hi, rfl⟩
  constructor
  · intro i level hi
    rw [List.getElem?_map, Option.map_eq_some_iff] at hi
    obtain ⟨index, hi, rfl⟩ := hi
    rw [List.getElem?_eq_some_iff] at hi
    obtain ⟨_, rfl⟩ := hi
    simp [virtualLevel]
  · simp
  · intro level hl
    obtain ⟨index, hi, rfl⟩ := hlevel level hl
    simp only [virtualLevel, boundaries_getD spread hn hi.le]
    push_cast
    ring
  · intro level hl
    obtain ⟨index, hi, rfl⟩ := hlevel level hl
    simp only [virtualLevel, boundaries_getD spread hn (Nat.succ_le_of_lt hi)]
  · intro level hl
    obtain ⟨index, _, rfl⟩ := hlevel level hl
    rfl
  · intro level hl
    obtain ⟨index, hi, rfl⟩ := hlevel level hl
    simp only [virtualLevel, boundaries_getD spread hn hi.le,
      boundaries_getD spread hn (Nat.succ_le_of_lt hi)]
    push_cast
    ring

/-- Replacing levels by later states of themselves keeps the ladder. -/
theorem map (h : Ladder config spread levels) {g : HedgeLevel → HedgeLevel}
    (hg : ∀ level ∈ levels, SameZone level (g level)) : Ladder config spread (levels.map g) where
  numbered := h.numbered.map fun level hl => (hg level hl).levelId
  length_eq := by rw [List.length_map]; exact h.length_eq
  entryPrice_eq := by
    intro _ hm
    obtain ⟨level, hl, rfl⟩ := List.mem_map.mp hm
    rw [(hg level hl).entryPrice, (hg level hl).levelId]
    exact h.entryPrice_eq level hl
  tpPrice_eq := by
    intro _ hm
    obtain ⟨level, hl, rfl⟩ := List.mem_map.mp hm
    rw [(hg level hl).tpPrice, (hg level hl).levelId]
    exact h.tpPrice_eq level hl
  stopPrice_eq := by
    intro _ hm
    obtain ⟨level, hl, rfl⟩ := List.mem_map.mp hm
    rw [(hg level hl).stopPrice, (hg level hl).entryPrice]
    exact h.stopPrice_eq level hl
  optionBudget_eq := by
    intro _ hm
    obtain ⟨level, hl, rfl⟩ := List.mem_map.mp hm
    rw [(hg level hl).optionBudget]
    exact h.optionBudget_eq level hl

/-! ## The geometry -/

theorem levelId_pos (h : Ladder config spread levels) (hl : level ∈ levels) :
    0 < level.levelId :=
  h.numbered.key_pos hl

theorem levelId_le (h : Ladder config spread levels) (hl : level ∈ levels) :
    level.levelId ≤ config.levelCount :=
  h.length_eq ▸ h.numbered.key_le_length hl

theorem eq_of_levelId_eq (h : Ladder config spread levels) (hl : level ∈ levels)
    (hl' : level' ∈ levels) (hid : level.levelId = level'.levelId) : level = level' :=
  h.numbered.key_inj hl hl' hid

theorem tpDistance_eq (h : Ladder config spread levels) (hl : level ∈ levels) :
    level.tpDistance = zoneWidth spread config.levelCount := by
  simp only [HedgeLevel.tpDistance, h.entryPrice_eq level hl, h.tpPrice_eq level hl]
  ring

theorem tpDistance_pos (h : Ladder config spread levels) (hl : level ∈ levels) :
    0 < level.tpDistance := by
  rw [h.tpDistance_eq hl]
  exact zoneWidth_pos spread config.levelCount_pos

theorem tpPrice_lt_entryPrice (h : Ladder config spread levels) (hl : level ∈ levels) :
    level.tpPrice < level.entryPrice := by
  have := h.tpDistance_pos hl
  simp only [HedgeLevel.tpDistance] at this
  linarith

theorem optionBudget_pos (h : Ladder config spread levels) (hl : level ∈ levels) :
    0 < level.optionBudget := by
  rw [h.optionBudget_eq level hl]
  exact mul_pos spread.optionQuantity_pos (zoneWidth_pos spread config.levelCount_pos)

theorem entryPrice_le_short (h : Ladder config spread levels) (hl : level ∈ levels) :
    level.entryPrice ≤ spread.shortPutStrike := by
  have hw := zoneWidth_pos spread config.levelCount_pos
  have hid : (1 : ℚ) ≤ level.levelId := by exact_mod_cast h.levelId_pos hl
  rw [h.entryPrice_eq level hl]
  nlinarith

/-- All zones end at or above the long strike. -/
theorem long_le_tpPrice (h : Ladder config spread levels) (hl : level ∈ levels) :
    spread.longPutStrike ≤ level.tpPrice := by
  have hw := zoneWidth_pos spread config.levelCount_pos
  have hid : (level.levelId : ℚ) ≤ config.levelCount := by exact_mod_cast h.levelId_le hl
  have hn : (0 : ℚ) < config.levelCount := by exact_mod_cast config.levelCount_pos
  have hwn : zoneWidth spread config.levelCount * config.levelCount
      = spread.shortPutStrike - spread.longPutStrike := by
    simp only [zoneWidth]
    field_simp
  rw [h.tpPrice_eq level hl]
  nlinarith

theorem entryPrice_pos (h : Ladder config spread levels) (hl : level ∈ levels) :
    0 < level.entryPrice := by
  have := h.long_le_tpPrice hl
  have := h.tpPrice_lt_entryPrice hl
  have := spread.longPutStrike_pos
  linarith

theorem stopDistance_pos (h : Ladder config spread levels) (hl : level ∈ levels) :
    0 < level.stopDistance := by
  have := mul_pos (h.entryPrice_pos hl) config.stopRate_pos
  simp only [HedgeLevel.stopDistance, h.stopPrice_eq level hl]
  linarith

theorem entryPrice_lt_stopPrice (h : Ladder config spread levels) (hl : level ∈ levels) :
    level.entryPrice < level.stopPrice := by
  have := h.stopDistance_pos hl
  simp only [HedgeLevel.stopDistance] at this
  linarith

/-- A lower level's zone starts where a higher level's has ended. -/
theorem entryPrice_le_tpPrice (h : Ladder config spread levels) (hl : level ∈ levels)
    (hl' : level' ∈ levels) (hlt : level.levelId < level'.levelId) :
    level'.entryPrice ≤ level.tpPrice := by
  have hw := zoneWidth_pos spread config.levelCount_pos
  have hid : (level.levelId : ℚ) + 1 ≤ level'.levelId := by exact_mod_cast hlt
  rw [h.entryPrice_eq level' hl', h.tpPrice_eq level hl]
  nlinarith

theorem entryPrice_lt_entryPrice (h : Ladder config spread levels) (hl : level ∈ levels)
    (hl' : level' ∈ levels) (hlt : level.levelId < level'.levelId) :
    level'.entryPrice < level.entryPrice :=
  (h.entryPrice_le_tpPrice hl hl' hlt).trans_lt (h.tpPrice_lt_entryPrice hl)

end Ladder

/-! ## Reading and writing the ladder -/

namespace EngineState

variable {config : StrategyConfig} {spread : CreditSpread} {s : EngineState}

theorem level_of_mem (h : Ladder config spread s.levels) {level : HedgeLevel}
    (hl : level ∈ s.levels) : s.level level.levelId = .ok level := by
  simp only [EngineState.level, h.numbered.getElem?_of_mem hl]

theorem putLevel_levels (h : Ladder config spread s.levels) {level : HedgeLevel}
    (hpos : 0 < level.levelId) :
    (s.putLevel level).levels =
      s.levels.map (fun x => if x.levelId = level.levelId then level else x) :=
  h.numbered.set_eq_map hpos level

@[simp] theorem putLevel_ledger (level : HedgeLevel) : (s.putLevel level).ledger = s.ledger := rfl

@[simp] theorem putLevel_previousPrice (level : HedgeLevel) :
    (s.putLevel level).previousPrice = s.previousPrice := rfl

end EngineState
end CreditHedge
