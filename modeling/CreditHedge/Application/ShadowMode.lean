import CreditHedge.Core.VirtualLevels
import CreditHedge.Domain.MarketData
import CreditHedge.Domain.Risk
import Mathlib.Data.Finset.Insert

/-!
# Shadow mode

`application/shadow_mode.py`: what the ladder would enter, said and not done. Trigger prices come
in, an intent is recorded for every crossed level, and no order goes out. The service has nothing
to await, so it is a function of its attributes; if it raises, the attributes are lost with it,
since the runner that holds it goes down.

The recorder is one that keeps what it is given. The digests and the JSON of an intent are left
out. Over a ladder whose prices make sense, which is what the runner checks before it builds the
service, nothing raises, however long the replay (`replay_returns`).
-/

set_option autoImplicit false

namespace CreditHedge

/-! ## Intents -/

structure ShadowIntentFields where
  sequence : ℕ
  cycleId : String
  levelId : ℕ
  observedAtUtc : Time
  connectionGeneration : ℤ
  virtualCrossingPrice : ℚ
  desiredQuantity : ℚ
  quantizedQuantity : Option ℚ
  riskApproved : Bool
  riskReasons : List String
  hypotheticalEntryPrice : Option ℚ
  hypotheticalTakeProfitPrice : Option ℚ
  hypotheticalStopPrice : Option ℚ
  expectedTpPnl : Option ℚ
  projectedStopLoss : Option ℚ
  deriving DecidableEq, Repr

namespace ShadowIntentFields

/-- The fields that cannot be negative, in the order they are checked, by the names the messages
    give them. -/
def amounts (f : ShadowIntentFields) : List (String × Option ℚ) :=
  [("virtual crossing price", some f.virtualCrossingPrice),
    ("desired quantity", some f.desiredQuantity),
    ("quantized quantity", f.quantizedQuantity),
    ("hypothetical entry price", f.hypotheticalEntryPrice),
    ("hypothetical take profit price", f.hypotheticalTakeProfitPrice),
    ("hypothetical stop price", f.hypotheticalStopPrice),
    ("expected tp pnl", f.expectedTpPnl),
    ("projected stop loss", f.projectedStopLoss)]

def checkAmounts : List (String × Option ℚ) → Except Failure Unit
  | [] => .ok ()
  | (field, amount) :: rest => do
    refuseIf (∃ value ∈ amount, value < 0) s!"{field} cannot be negative"
    checkAmounts rest

/-- `ShadowIntent.__post_init__`. -/
def check (f : ShadowIntentFields) : Except Failure Unit := do
  refuseIf (f.sequence = 0 ∨ f.levelId = 0) "shadow sequence and level ID must be positive"
  refuseIf (isBlank f.cycleId = true) "shadow cycle ID cannot be empty"
  refuseIf (f.connectionGeneration < 0) "connection generation cannot be negative"
  checkAmounts f.amounts
  refuseIf (f.virtualCrossingPrice = 0 ∨ f.desiredQuantity = 0)
    "shadow crossing price and desired quantity must be positive"
  refuseIf (f.riskApproved = true ∧ f.quantizedQuantity = none)
    "approved shadow intent requires a quantized quantity"

theorem checkAmounts_eq_ok {amounts : List (String × Option ℚ)} :
    checkAmounts amounts = .ok () ↔ ∀ amount ∈ amounts, ∀ value ∈ amount.2, 0 ≤ value := by
  induction amounts with
  | nil => simp [checkAmounts]
  | cons amount rest ih =>
    obtain ⟨field, amount⟩ := amount
    simp only [checkAmounts, bind_unit_eq_ok, refuseIf_eq_ok, ih, List.forall_mem_cons]
    refine and_congr_left fun _ => ?_
    simp

end ShadowIntentFields

structure ShadowIntent extends ShadowIntentFields where
  checked : toShadowIntentFields.check = .ok ()
  deriving DecidableEq

def ShadowIntent.create : ShadowIntentFields → Except Failure ShadowIntent :=
  build ShadowIntentFields.check ShadowIntent.mk

theorem ShadowIntent.create_eq_ok {fields : ShadowIntentFields} {intent : ShadowIntent} :
    ShadowIntent.create fields = .ok intent ↔ intent.toShadowIntentFields = fields := by
  refine build_eq_ok.trans ⟨?_, ?_⟩
  · rintro ⟨h, rfl⟩
    rfl
  · rintro rfl
    exact ⟨intent.checked, rfl⟩

/-- The amounts of an intent are not negative. -/
theorem ShadowIntent.amounts_nonneg {intent : ShadowIntent} {quantity entryPrice : ℚ}
    (hquantity : intent.quantizedQuantity = some quantity)
    (hprice : intent.hypotheticalEntryPrice = some entryPrice) :
    0 ≤ quantity ∧ 0 ≤ entryPrice := by
  have h := intent.checked
  simp only [ShadowIntentFields.check, bind_unit_eq_ok, ShadowIntentFields.checkAmounts_eq_ok] at h
  obtain ⟨-, -, -, hamounts, -⟩ := h
  constructor
  · exact hamounts ("quantized quantity", intent.quantizedQuantity)
      (by simp [ShadowIntentFields.amounts]) quantity hquantity
  · exact hamounts ("hypothetical entry price", intent.hypotheticalEntryPrice)
      (by simp [ShadowIntentFields.amounts]) entryPrice hprice

/-! ## The service -/

structure ShadowTriggerResult where
  intents : List ShadowIntent
  reasons : List String := []

structure ShadowObservation where
  event : TriggerPriceEvent
  marketHealth : MarketDataHealthResult
  riskState : RiskState

structure ShadowModeService where
  cycleId : String
  levels : List HedgeLevel
  desiredQuantity : ℚ
  optionSpreadOpen : Bool
  instrument : InstrumentSpec
  riskLimits : RiskLimits
  hasRecorder : Bool
  cycleId_text : isBlank cycleId = false
  levels_ne_nil : levels ≠ []
  levelIds_eq : levels.map HedgeLevel.levelId = List.range' 1 levels.length
  entryPrices_sorted : (levels.map HedgeLevel.entryPrice).Pairwise (· ≥ ·)
  desiredQuantity_pos : 0 < desiredQuantity
  ethusdt_linear : instrument.category = .linear ∧ instrument.symbol = "ETHUSDT"

/-- The attributes of a `ShadowModeService` that change, and what its recorder holds. -/
structure ShadowState where
  previousPrice : Option ℚ := none
  connectionGeneration : Option ℤ := none
  armed : ℕ → Bool := fun _ => false
  decidedLevels : Finset ℕ := ∅
  sequence : ℕ := 0
  recorded : List ShadowIntent := []

/-- `replace(state, …)` with the quantity and the notional of an intent. It goes through the
    checks of the record. -/
def RiskState.replaceCharged (state : RiskState) (quantity notional : ℚ) :
    Except Failure RiskState :=
  if hq : state.currentPerpQuantity + quantity < 0 then
    .error (.valueError "current perp quantity cannot be negative")
  else if hn : state.currentPerpNotional + notional < 0 then
    .error (.valueError "current perp notional cannot be negative")
  else
    .ok
      { state with
        currentPerpQuantity := state.currentPerpQuantity + quantity
        currentPerpNotional := state.currentPerpNotional + notional
        activeLevels := state.activeLevels + 1
        orderRequestsLastMinute := state.orderRequestsLastMinute + 1
        currentPerpQuantity_nonneg := not_lt.mp hq
        currentPerpNotional_nonneg := not_lt.mp hn }

namespace ShadowModeService

variable (s : ShadowModeService)

/-- The dictionary `_armed`, with `True` for the levels that satisfy `condition`. -/
def flags (condition : HedgeLevel → Bool) (levelId : ℕ) : Bool :=
  s.levels.any fun level => level.levelId = levelId && condition level

/-- `level_id not in self._decided_levels`, of a level at or below the price. -/
def reaches (state : ShadowState) (price : ℚ) (level : HedgeLevel) : Bool :=
  level.entryPrice ≤ price && level.levelId ∉ state.decidedLevels

/-- `_reset_segment`. -/
def resetSegment (event : TriggerPriceEvent) (state : ShadowState) : ShadowState :=
  { state with
    connectionGeneration := some event.connectionGeneration
    previousPrice := some event.observedPrice
    armed := s.flags (reaches state event.observedPrice) }

/-- The gate, in `_evaluate`: what it says and why, of a level with these reasons against it. -/
def gateDecision (reasons : List String) (quantized : QuantizedRiskResult) (riskState : RiskState) :
    Except Failure (Bool × List String) :=
  let reasons := if reasons = [] ∧ quantized.accepted = false then quantized.errors else reasons
  if reasons ≠ [] then pure (false, reasons)
  else do
    let proposal ← TradeProposal.create s.instrument.symbol .sell quantized.quantity
      quantized.entryPrice quantized.notional quantized.projectedStopLoss true
    let decision := RiskEngine.evaluate proposal riskState s.riskLimits
    pure (decision.approved, decision.reasons)

/-- `_evaluate`, for the intent with this number. -/
def evaluate (level : HedgeLevel) (event : TriggerPriceEvent) (riskState : RiskState)
    (sequence : ℕ) : Except Failure ShadowIntent := do
  let reasons :=
    if level.state ≠ .ready then ["virtual level is not READY"]
    else if s.optionSpreadOpen = false then ["option spread is not OPEN"]
    else []
  let validation := normalizeAndValidateOrder s.instrument .sell s.desiredQuantity
    (some level.entryPrice) false none .passive
  let quantized ← recalculateQuantizedRisk validation s.instrument .sell level.tpPrice
    level.stopPrice riskState.confirmedRecoveryDebt s.riskLimits.maximumPerpNotional
    s.riskLimits.maximumProjectedStopLoss
  let decision ← s.gateDecision reasons quantized riskState
  ShadowIntent.create
    { sequence
      cycleId := s.cycleId
      levelId := level.levelId
      observedAtUtc := event.observedTimestamp
      connectionGeneration := event.connectionGeneration
      virtualCrossingPrice := level.entryPrice
      desiredQuantity := s.desiredQuantity
      quantizedQuantity := some quantized.quantity
      riskApproved := decision.1
      riskReasons := decision.2
      hypotheticalEntryPrice := some quantized.entryPrice
      hypotheticalTakeProfitPrice := some quantized.takeProfitPrice
      hypotheticalStopPrice := some quantized.stopPrice
      expectedTpPnl := some quantized.tpProfit
      projectedStopLoss := some quantized.projectedStopLoss }

/-- `self._armed[level_id] = False`, and the intent numbered and recorded. -/
def note (level : HedgeLevel) (intent : ShadowIntent) (state : ShadowState) : ShadowState :=
  { state with
    armed := Function.update state.armed level.levelId false
    sequence := state.sequence + 1
    recorded := if s.hasRecorder then state.recorded ++ [intent] else state.recorded }

/-- The loop over the crossed levels. -/
def visit (event : TriggerPriceEvent) : List HedgeLevel → RiskState → List ShadowIntent →
    ShadowState → Except Failure (ShadowTriggerResult × ShadowState)
  | [], _, intents, state => .ok ({ intents }, state)
  | level :: rest, riskState, intents, state => do
    let intent ← s.evaluate level event riskState (state.sequence + 1)
    let noted := s.note level intent state
    if intent.riskApproved = true then
      let decided := { noted with decidedLevels := insert level.levelId noted.decidedLevels }
      match intent.quantizedQuantity, intent.hypotheticalEntryPrice with
      | some quantity, some entryPrice => do
        let charged ← riskState.replaceCharged quantity (quantity * entryPrice)
        visit event rest charged (intents ++ [intent]) decided
      | _, _ => throw (.assertionError "approved shadow intent must be fully quantified")
    else visit event rest riskState (intents ++ [intent]) noted

/-- `crossed`: the armed levels the move comes down on, in ladder order. -/
def crossings (state : ShadowState) (previous current : ℚ) : List HedgeLevel :=
  s.levels.filter fun level =>
    state.armed level.levelId && previous > level.entryPrice && current ≤ level.entryPrice

/-- The undecided levels at or below a price are armed by it. -/
def arm (price : ℚ) (state : ShadowState) : ShadowState :=
  { state with
    armed := fun levelId => state.armed levelId || s.flags (reaches state price) levelId }

/-- The part of `on_trigger` for a price in the current segment. -/
def inSegment (event : TriggerPriceEvent) (riskState : RiskState) (state : ShadowState) :
    Except Failure (ShadowTriggerResult × ShadowState) :=
  match state.previousPrice with
  | none => throw (.assertionError "initialized shadow segment requires a previous price")
  | some previous =>
    let current := event.observedPrice
    let armed := s.arm current state
    s.visit event (s.crossings armed previous current) riskState []
      { armed with previousPrice := some current }

def onTrigger (observation : ShadowObservation) (state : ShadowState) :
    Except Failure (ShadowTriggerResult × ShadowState) :=
  let event := observation.event
  if event.symbol ≠ s.instrument.symbol then
    .ok ({ intents := [], reasons := ["trigger symbol does not match"] }, state)
  else if event.source ≠ .lastTrade then
    .ok ({ intents := [], reasons := ["trigger source is not LAST_TRADE"] }, state)
  else if observation.marketHealth.tradingAllowed = false then
    .ok ({ intents := [], reasons := observation.marketHealth.reasons }, state)
  else
    match state.connectionGeneration with
    | none => .ok ({ intents := [] }, s.resetSegment event state)
    | some generation =>
      if event.connectionGeneration < generation then
        .ok ({ intents := [], reasons := ["connection generation is stale"] }, state)
      else if generation < event.connectionGeneration then
        .ok ({ intents := [], reasons := ["connection generation changed"] },
          s.resetSegment event state)
      else s.inSegment event observation.riskState state

/-- `replay_shadow_observations`. -/
def replayShadowObservations :
    ShadowState → List ShadowObservation → Except Failure (List ShadowIntent)
  | _, [] => .ok []
  | state, observation :: rest => do
    let (result, state) ← s.onTrigger observation state
    let intents ← replayShadowObservations state rest
    pure (result.intents ++ intents)

end ShadowModeService

/-! ## It does not raise -/

/-- The prices of a ladder: entries are positive, and the exits not negative. -/
def HedgeLevel.Priced (level : HedgeLevel) : Prop :=
  0 < level.entryPrice ∧ 0 ≤ level.tpPrice ∧ 0 ≤ level.stopPrice

/-- An order with a price that is not negative, and a debt that is not, has amounts that are not. -/
theorem recalculateQuantizedRisk_nonneg {validation : OrderValidationResult}
    {instrument : InstrumentSpec} {entrySide : OrderSide} {takeProfitPrice stopPrice recoveryDebt
    maximumNotional maximumProjectedStopLoss price : ℚ}
    (hprice : validation.normalizedPrice = some price)
    (hquantity : 0 ≤ validation.normalizedQuantity) (htp : 0 ≤ takeProfitPrice)
    (hstop : 0 ≤ stopPrice) (hdebt : 0 ≤ recoveryDebt) :
    ∃ result, recalculateQuantizedRisk validation instrument entrySide takeProfitPrice stopPrice
        recoveryDebt maximumNotional maximumProjectedStopLoss = .ok result ∧
      result.entryPrice = price ∧ result.quantity = validation.normalizedQuantity ∧
      0 ≤ result.takeProfitPrice ∧ 0 ≤ result.stopPrice ∧ 0 ≤ result.tpProfit ∧
      0 ≤ result.projectedStopLoss := by
  unfold recalculateQuantizedRisk
  simp only [hprice, if_neg (not_lt.mpr hdebt)]
  have hmultiplier := instrument.contractMultiplier_pos.le
  refine ⟨_, rfl, rfl, rfl, ?_, ?_, ?_, ?_⟩
  · exact quantizeLimitPrice_nonneg instrument.priceFilter.tickSize_pos htp _ _
  · exact quantizeLimitPrice_nonneg instrument.priceFilter.tickSize_pos hstop _ _
  · exact mul_nonneg (mul_nonneg (le_max_right _ _) hmultiplier) hquantity
  · exact mul_nonneg (mul_nonneg (le_max_right _ _) hmultiplier) hquantity

theorem exists_replaceCharged (riskState : RiskState) {quantity notional : ℚ}
    (hquantity : 0 ≤ quantity) (hnotional : 0 ≤ notional) :
    ∃ charged, riskState.replaceCharged quantity notional = .ok charged := by
  unfold RiskState.replaceCharged
  rw [dif_neg (not_lt.mpr (add_nonneg riskState.currentPerpQuantity_nonneg hquantity)),
    dif_neg (not_lt.mpr (add_nonneg riskState.currentPerpNotional_nonneg hnotional))]
  exact ⟨_, rfl⟩

namespace ShadowModeService

variable (s : ShadowModeService) {level : HedgeLevel} {event : TriggerPriceEvent}

theorem exists_gateDecision (riskState : RiskState) (reasons : List String)
    {quantized : QuantizedRiskResult}
    (hquantity : quantized.accepted = true → 0 < quantized.quantity)
    (hprice : 0 < quantized.entryPrice)
    (hnotional : quantized.notional =
      quantized.entryPrice * quantized.quantity * s.instrument.contractMultiplier)
    (hloss : 0 ≤ quantized.projectedStopLoss)
    (herrors : quantized.accepted = false → quantized.errors ≠ []) :
    ∃ decision, s.gateDecision reasons quantized riskState = .ok decision := by
  unfold gateDecision
  dsimp only
  by_cases hnone : (if reasons = [] ∧ quantized.accepted = false then quantized.errors
      else reasons) = []
  · have haccepted : quantized.accepted = true := by
      by_contra hrefused
      have hrefused := Bool.not_eq_true _ ▸ hrefused
      split_ifs at hnone with hagainst
      · exact herrors hrefused hnone
      · exact hagainst ⟨hnone, hrefused⟩
    have hq := hquantity haccepted
    have hn : 0 < quantized.notional := by
      rw [hnotional]
      exact mul_pos (mul_pos hprice hq) s.instrument.contractMultiplier_pos
    have hsymbol : ¬ isBlank s.instrument.symbol = true := by
      rw [s.ethusdt_linear.2]
      decide
    rw [if_neg (not_not.mpr hnone)]
    unfold TradeProposal.create
    rw [dif_neg hsymbol, dif_neg (not_le.mpr hq), dif_neg (not_le.mpr hprice),
      dif_neg (not_le.mpr hn), dif_neg (not_lt.mpr hloss)]
    exact ⟨_, rfl⟩
  · rw [if_pos hnone]
    exact ⟨_, rfl⟩

/-- Every level of a priced ladder has its intent. -/
theorem exists_evaluate (hpriced : level.Priced) (hid : level.levelId ≠ 0)
    (hgeneration : 0 ≤ event.connectionGeneration) (riskState : RiskState) {sequence : ℕ}
    (hsequence : sequence ≠ 0) :
    ∃ intent quantity entryPrice, s.evaluate level event riskState sequence = .ok intent ∧
      intent.quantizedQuantity = some quantity ∧
      intent.hypotheticalEntryPrice = some entryPrice := by
  obtain ⟨hentry, htp, hstop⟩ := hpriced
  have htick := s.instrument.priceFilter.tickSize_pos
  have hprice : 0 < quantizeLimitPrice level.entryPrice s.instrument.priceFilter.tickSize .sell
      .passive := by
    unfold quantizeLimitPrice
    rw [if_pos (by simp)]
    exact hentry.trans_le (le_ceilToStep htick)
  have hfloor := floorToStep_nonneg s.instrument.lotSizeFilter.qtyStep_pos s.desiredQuantity_pos.le
  have hrisk : ∃ quantized, recalculateQuantizedRisk (normalizeAndValidateOrder s.instrument .sell
        s.desiredQuantity (some level.entryPrice) false none .passive) s.instrument .sell
        level.tpPrice level.stopPrice riskState.confirmedRecoveryDebt
        s.riskLimits.maximumPerpNotional s.riskLimits.maximumProjectedStopLoss = .ok quantized ∧ _ :=
    recalculateQuantizedRisk_nonneg rfl hfloor htp hstop riskState.confirmedRecoveryDebt_nonneg
  obtain ⟨quantized, hquantized, hentryPrice, hquantity, htp', hstop', hprofit, hloss⟩ := hrisk
  obtain ⟨-, -, hvalid, haccepted⟩ := recalculateQuantizedRisk_ok hquantized
  replace hprice : 0 < quantized.entryPrice := by
    rw [hentryPrice]
    exact hprice
  rw [normalizedQuantity_eq] at hquantity
  have hpos : quantized.accepted = true → 0 < quantized.quantity := by
    intro hok
    have hadmits := admits_of_accepted_limit (hvalid (haccepted.mp hok))
    rw [hquantity]
    exact s.instrument.lotSizeFilter.minOrderQty_pos.trans_le hadmits.minimum
  have herrors : quantized.accepted = false → quantized.errors ≠ [] := by
    intro hrefused hnone
    exact absurd (haccepted.mpr hnone) (by simp [hrefused])
  simp only [evaluate, bind_eq_ok]
  obtain ⟨decision, hdecision⟩ := s.exists_gateDecision riskState
    (if level.state ≠ .ready then ["virtual level is not READY"]
      else if s.optionSpreadOpen = false then ["option spread is not OPEN"] else [])
    hpos hprice (notional_of_recalculateQuantizedRisk hquantized) hloss herrors
  rw [← hquantity] at hfloor
  refine ⟨⟨_, ?_⟩, quantized.quantity, quantized.entryPrice,
    ⟨quantized, hquantized, decision, hdecision, ShadowIntent.create_eq_ok.mpr rfl⟩, rfl, rfl⟩
  simp only [ShadowIntentFields.check, bind_unit_eq_ok, refuseIf_eq_ok,
    ShadowIntentFields.checkAmounts_eq_ok, ShadowIntentFields.amounts, List.forall_mem_cons,
    Option.mem_some_iff, forall_eq']
  refine ⟨by simp [hsequence, hid], by simp [s.cycleId_text], not_lt.mpr hgeneration, ?_, ?_,
    by simp⟩
  · exact ⟨hentry.le, s.desiredQuantity_pos.le, hfloor, hprice.le, htp', hstop', hprofit, hloss,
      by simp⟩
  · exact not_or.mpr ⟨hentry.ne', s.desiredQuantity_pos.ne'⟩

/-- The loop comes to its end. -/
theorem exists_visit {levels : List HedgeLevel}
    (hlevels : ∀ level ∈ levels, level.Priced ∧ level.levelId ≠ 0)
    (hgeneration : 0 ≤ event.connectionGeneration) (riskState : RiskState)
    (intents : List ShadowIntent) (state : ShadowState) :
    ∃ outcome, s.visit event levels riskState intents state = .ok outcome := by
  induction levels generalizing riskState intents state with
  | nil => exact ⟨_, rfl⟩
  | cons level rest ih =>
    obtain ⟨hpriced, hid⟩ := hlevels level (List.mem_cons_self ..)
    have ih := ih fun l hl => hlevels l (List.mem_cons_of_mem _ hl)
    obtain ⟨intent, quantity, entryPrice, hintent, hquantity, hprice⟩ :=
      s.exists_evaluate hpriced hid hgeneration riskState (Nat.succ_ne_zero state.sequence)
    simp only [visit, bind_eq_ok]
    by_cases happroved : intent.riskApproved = true
    · obtain ⟨hq, hp⟩ := ShadowIntent.amounts_nonneg hquantity hprice
      obtain ⟨charged, hcharged⟩ := exists_replaceCharged riskState hq (mul_nonneg hq hp)
      obtain ⟨outcome, houtcome⟩ := ih charged (intents ++ [intent]) _
      refine ⟨outcome, intent, hintent, ?_⟩
      rw [if_pos happroved]
      simp only [hquantity, hprice]
      exact bind_eq_ok.mpr ⟨charged, hcharged, houtcome⟩
    · obtain ⟨outcome, houtcome⟩ := ih riskState (intents ++ [intent]) _
      refine ⟨outcome, intent, hintent, ?_⟩
      rw [if_neg happroved]
      exact houtcome

/-- A service that knows a connection knows a price. -/
def Started (state : ShadowState) : Prop :=
  state.connectionGeneration.isSome = true → state.previousPrice.isSome = true

theorem previousPrice_of_visit {levels : List HedgeLevel} {riskState : RiskState}
    {intents : List ShadowIntent} {state : ShadowState} {outcome : ShadowTriggerResult × ShadowState}
    (h : s.visit event levels riskState intents state = .ok outcome) :
    outcome.2.previousPrice = state.previousPrice := by
  induction levels generalizing riskState intents state with
  | nil =>
    obtain rfl := Except.ok.inj h
    rfl
  | cons level rest ih =>
    simp only [visit, bind_eq_ok] at h
    obtain ⟨intent, -, h⟩ := h
    split_ifs at h
    · split at h
      · rw [bind_eq_ok] at h
        obtain ⟨charged, -, h⟩ := h
        have hrest := ih h
        exact hrest
      · exact absurd h (by simp [throw, throwThe, MonadExceptOf.throw])
    · have hrest := ih h
      exact hrest

/-- Over a priced ladder, and told of a connection that exists, the service returns. -/
theorem exists_onTrigger (hpriced : ∀ level ∈ s.levels, level.Priced)
    {observation : ShadowObservation} (hgeneration : 0 ≤ observation.event.connectionGeneration)
    {state : ShadowState} (hstarted : Started state) :
    ∃ outcome, s.onTrigger observation state = .ok outcome ∧ Started outcome.2 := by
  have hids : ∀ level ∈ s.levels, level.levelId ≠ 0 := by
    intro level hl
    have hmem : level.levelId ∈ List.range' 1 s.levels.length :=
      s.levelIds_eq ▸ List.mem_map_of_mem hl
    have := (List.mem_range'_1.mp hmem).1
    omega
  unfold onTrigger
  dsimp only
  split_ifs
  · exact ⟨_, rfl, hstarted⟩
  · exact ⟨_, rfl, hstarted⟩
  · exact ⟨_, rfl, hstarted⟩
  · split
    · exact ⟨_, rfl, fun _ => rfl⟩
    · rename_i generation hcurrent
      obtain ⟨previous, hprevious⟩ := Option.isSome_iff_exists.mp (hstarted (by simp [hcurrent]))
      split_ifs
      · exact ⟨_, rfl, hstarted⟩
      · exact ⟨_, rfl, fun _ => rfl⟩
      · unfold inSegment
        simp only [hprevious]
        have hcrossed : ∀ level ∈ s.crossings (s.arm observation.event.observedPrice state) previous
            observation.event.observedPrice, level.Priced ∧ level.levelId ≠ 0 := by
          intro level hl
          have hmem := (List.mem_filter.mp hl).1
          exact ⟨hpriced level hmem, hids level hmem⟩
        obtain ⟨outcome, houtcome⟩ := s.exists_visit hcrossed hgeneration observation.riskState []
          { s.arm observation.event.observedPrice state with
            previousPrice := some observation.event.observedPrice }
        refine ⟨outcome, houtcome, fun _ => ?_⟩
        rw [s.previousPrice_of_visit houtcome]
        rfl

/-- **A replay returns**, however long it is. -/
theorem replay_returns (hpriced : ∀ level ∈ s.levels, level.Priced)
    {observations : List ShadowObservation}
    (hgenerations : ∀ observation ∈ observations, 0 ≤ observation.event.connectionGeneration)
    {state : ShadowState} (hstarted : Started state) :
    ∃ intents, s.replayShadowObservations state observations = .ok intents := by
  induction observations generalizing state with
  | nil => exact ⟨[], rfl⟩
  | cons observation rest ih =>
    obtain ⟨⟨result, state'⟩, htold, hstarted'⟩ :=
      s.exists_onTrigger hpriced (hgenerations observation (List.mem_cons_self ..)) hstarted
    obtain ⟨intents, hintents⟩ :=
      ih (fun o ho => hgenerations o (List.mem_cons_of_mem _ ho)) hstarted'
    refine ⟨result.intents ++ intents, ?_⟩
    exact bind_eq_ok.mpr ⟨_, htold, bind_eq_ok.mpr ⟨intents, hintents, rfl⟩⟩

end ShadowModeService

end CreditHedge
