import CreditHedge.Core.CreditSpread

/-!
# Virtual hedge levels

`core/virtual_levels.py`: the interval between the two put strikes cut into equal zones, one
hedge level a zone.

`HedgeLevel` is the source's mutable dataclass. Its first five fields never change once the
level is generated; the rest is the level's own little state machine. The dictionary
`active_recovery_allocations` is an association list from source level id to amount.
-/

set_option autoImplicit false

namespace CreditHedge

inductive LevelState where
  | ready
  | active
  | paid
  | locked
  deriving DecidableEq, Repr

structure HedgeLevel where
  levelId : ℕ
  entryPrice : ℚ
  tpPrice : ℚ
  stopPrice : ℚ
  optionBudget : ℚ
  state : LevelState := .ready
  attempts : ℕ := 0
  activeQuantity : ℚ := 0
  activeIsFloor : Bool := false
  entryArmed : Bool := false
  recoveryDebt : ℚ := 0
  recoveryTpsRemaining : ℤ := 0
  realizedStopLosses : ℚ := 0
  realizedTpProfit : ℚ := 0
  stopLossHistory : List ℚ := []
  activeRecoveryAllocations : List (ℕ × ℚ) := []
  deriving DecidableEq, Repr

namespace HedgeLevel

def tpDistance (level : HedgeLevel) : ℚ := level.entryPrice - level.tpPrice

def stopDistance (level : HedgeLevel) : ℚ := level.stopPrice - level.entryPrice

def initialQuantity (level : HedgeLevel) : ℚ := level.optionBudget / level.tpDistance

/-- What the level's allocations add up to: `sum(allocations.values(), ZERO)`. -/
def allocated (level : HedgeLevel) : ℚ := (level.activeRecoveryAllocations.map Prod.snd).sum

end HedgeLevel

/-- The zone boundaries, from the short strike down to the long strike. The last one is the long
    strike itself, appended rather than computed. -/
def boundaries (spread : CreditSpread) (levelCount : ℕ) : List ℚ :=
  let width := spread.shortPutStrike - spread.longPutStrike
  (List.range levelCount).map
      (fun index : ℕ => spread.shortPutStrike - width * (index : ℚ) / levelCount)
    ++ [spread.longPutStrike]

/-- The level whose zone starts at `boundaries[index]`. -/
def virtualLevel (spread : CreditSpread) (levelCount : ℕ) (rate : ℚ) (index : ℕ) : HedgeLevel :=
  let entryPrice := (boundaries spread levelCount).getD index 0
  let tpPrice := (boundaries spread levelCount).getD (index + 1) 0
  { levelId := index + 1
    entryPrice
    tpPrice
    stopPrice := entryPrice * (1 + rate)
    optionBudget := spread.optionQuantity * (entryPrice - tpPrice) }

def generateVirtualLevels (spread : CreditSpread) (levelCount : ℕ) (stopRate : ℚ) :
    Except Failure (List HedgeLevel) :=
  if levelCount = 0 then .error (.valueError "level count must be positive")
  else if stopRate ≤ 0 then .error (.valueError "stop rate must be positive")
  else .ok ((List.range levelCount).map (virtualLevel spread levelCount stopRate))

/-! ## The zones -/

/-- The width of one zone. -/
def zoneWidth (spread : CreditSpread) (levelCount : ℕ) : ℚ :=
  (spread.shortPutStrike - spread.longPutStrike) / levelCount

theorem zoneWidth_pos (spread : CreditSpread) {levelCount : ℕ} (h : 0 < levelCount) :
    0 < zoneWidth spread levelCount :=
  div_pos (by linarith [spread.strikes_lt]) (by exact_mod_cast h)

/-- The appended last boundary is the one the formula would have given, so the boundaries are
    equally spaced all the way down. -/
theorem boundaries_getD (spread : CreditSpread) {levelCount index : ℕ} (h : 0 < levelCount)
    (hi : index ≤ levelCount) :
    (boundaries spread levelCount).getD index 0 =
      spread.shortPutStrike - zoneWidth spread levelCount * index := by
  have hn : (levelCount : ℚ) ≠ 0 := by exact_mod_cast h.ne'
  simp only [boundaries, zoneWidth, List.getD_eq_getElem?_getD]
  rcases Nat.lt_or_ge index levelCount with hlt | hge
  · rw [List.getElem?_append_left (by simpa using hlt)]
    simp only [List.getElem?_map, List.getElem?_range hlt, Option.map_some, Option.getD_some]
    ring
  · obtain rfl : index = levelCount := le_antisymm hi hge
    rw [List.getElem?_append_right (by simp)]
    simp only [List.length_map, List.length_range, Nat.sub_self, List.getElem?_cons_zero,
      Option.getD_some]
    field_simp
    ring

end CreditHedge
