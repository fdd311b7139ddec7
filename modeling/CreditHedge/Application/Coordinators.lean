import CreditHedge.Application.OneLevelEntry
import CreditHedge.Application.Process
import CreditHedge.Core.VirtualLevels
import CreditHedge.Domain.MarketData
import CreditHedge.Domain.OptionPosition
import CreditHedge.Domain.Risk

/-!
# Coordinators

`application/one_level_coordinator.py` and `application/multi_level_execution.py`: trigger prices
in, entry requests out. A level is armed by a price at or above its entry, and a move that comes
down on the entry from strictly above it is a crossing of an armed level. What a crossing is
offered to is the same in both, and is `offerEntry`: the order is validated and rounded, the risk
gate is asked, and the request is built. The two differ in what they check before, in the debt
they report to the rounding, and in that one loops over a ladder.

A coordinator is the attributes that never change; those that do are in `Memory`.
-/

set_option autoImplicit false

namespace CreditHedge

/-- What becomes of a crossing: a list of reasons against it, or a request to submit and the
    proposal the risk gate has approved for it. -/
inductive EntryOffer where
  | blocked (reasons : List String)
  | submit (request : PlaceOrderRequest) (proposal : TradeProposal)

/-- The fields of a market entry. -/
def marketEntryFields (symbol : String) (quantity : ℚ) (orderLinkId : String) :
    PlaceOrderFields where
  category := .linear
  symbol
  side := .sell
  orderType := .market
  quantity
  orderLinkId
  timeInForce := .ioc
  reduceOnly := false
  positionIdx := 0

/-- Both coordinators, from `normalize_and_validate_order` to the request. -/
def offerEntry (instrument : InstrumentSpec) (position : PutCreditSpreadPosition)
    (limits : RiskLimits) (level : HedgeLevel) (recoveryDebt : ℚ) (symbol orderLinkId : String)
    (riskState : RiskState) : Except Failure EntryOffer := do
  let validation := normalizeAndValidateOrder instrument .sell position.matchedQuantity
    (some level.entryPrice) false none .passive
  let quantized ← recalculateQuantizedRisk validation instrument .sell level.tpPrice
    level.stopPrice recoveryDebt limits.maximumPerpNotional limits.maximumProjectedStopLoss
  if quantized.accepted = false then pure (.blocked quantized.errors)
  else do
    let proposal ← TradeProposal.create symbol .sell quantized.quantity quantized.entryPrice
      quantized.notional quantized.projectedStopLoss true
    let decision := RiskEngine.evaluate proposal riskState limits
    if decision.approved = false then pure (.blocked decision.reasons)
    else if decision.approvedQuantity ≠ some quantized.quantity then
      throw (.assertionError "approved risk quantity must be exact")
    else do
      let request ← PlaceOrderRequest.create
        (marketEntryFields symbol quantized.quantity orderLinkId)
      pure (.submit request proposal)

/-- What is submitted is a market order for the matched quantity, rounded down to a lot, which
    was admitted as the quantity of a limit order at the rounded entry price. -/
theorem offerEntry_submit {instrument : InstrumentSpec} {position : PutCreditSpreadPosition}
    {limits : RiskLimits} {level : HedgeLevel} {recoveryDebt : ℚ} {symbol orderLinkId : String}
    {riskState : RiskState} {request : PlaceOrderRequest} {proposal : TradeProposal}
    (h : offerEntry instrument position limits level recoveryDebt symbol orderLinkId riskState =
      .ok (.submit request proposal)) :
    request.toPlaceOrderFields = marketEntryFields symbol
        (floorToStep position.matchedQuantity instrument.lotSizeFilter.qtyStep) orderLinkId ∧
      instrument.Admits false request.quantity
        (quantizeLimitPrice level.entryPrice instrument.priceFilter.tickSize .sell .passive) := by
  simp only [offerEntry, bind_eq_ok] at h
  obtain ⟨quantized, hquantized, h⟩ := h
  obtain ⟨-, hquantity, herrors, haccepted⟩ := recalculateQuantizedRisk_ok hquantized
  split at h
  · exact absurd (Except.ok.inj h) (by simp)
  · rename_i hok
    rw [bind_eq_ok] at h
    obtain ⟨proposal', -, h⟩ := h
    split at h
    · exact absurd (Except.ok.inj h) (by simp)
    · split at h
      · exact absurd h (by simp [throw, throwThe, MonadExceptOf.throw])
      · rw [bind_eq_ok] at h
        obtain ⟨request', hrequest, h⟩ := h
        obtain ⟨rfl, -⟩ := EntryOffer.submit.inj (Except.ok.inj h)
        have hfields := PlaceOrderRequest.create_eq_ok.mp hrequest
        have hnil : quantized.errors = [] := haccepted.mp (Bool.not_eq_false _ ▸ hok)
        have hadmits := admits_of_accepted_limit (herrors hnil)
        rw [hquantity, normalizedQuantity_eq] at hfields
        rw [hfields]
        exact ⟨rfl, hadmits⟩

/-! ## One level -/

structure OneLevelTriggerResult where
  triggered : Bool
  reasons : List String
  snapshot : Option EntryExecutionSnapshot := none
  request : Option PlaceOrderRequest := none

structure OneLevelCoordinator where
  optionPosition : PutCreditSpreadPosition
  level : HedgeLevel
  instrument : InstrumentSpec
  riskLimits : RiskLimits
  hasEntryGate : Bool
  levelId_eq : level.levelId = 1
  ethusdt_linear : instrument.category = .linear ∧ instrument.symbol = "ETHUSDT"

namespace OneLevelCoordinator

variable (c : OneLevelCoordinator)

/-- `_reset_segment`. -/
def resetSegment (event : TriggerPriceEvent) (s : OneLevelState) : OneLevelState :=
  { s with
    connectionGeneration := some event.connectionGeneration
    previousPrice := some event.observedPrice
    entryArmed := s.submitted = false ∧ c.level.entryPrice ≤ event.observedPrice }

/-- What stands against an entry before the order is looked at. -/
def preflight (memory : Memory) : Except Failure (List String) :=
  if memory.oneLevel.submitted = true then pure ["entry is already submitted"]
  else do
    let allowed ← memory.gateAllows c.hasEntryGate
    if allowed = false then pure ["kill switch blocks new entries"]
    else if c.level.state ≠ .ready then pure ["virtual level is not READY"]
    else if c.optionPosition.state ≠ .open then pure ["option spread is not OPEN"]
    else pure []

/-- A crossing, offered. -/
def offer (memory : Memory) (orderLinkId : String) (riskState : RiskState) :
    Except Failure EntryOffer := do
  let reasons ← c.preflight memory
  if reasons ≠ [] then pure (.blocked reasons)
  else
    offerEntry c.instrument c.optionPosition c.riskLimits c.level
      riskState.confirmedRecoveryDebt c.instrument.symbol orderLinkId riskState

/-- The stretch of `on_trigger` from a crossing on. -/
def crossed (orderLinkId : String) (riskState : RiskState) (memory : Memory) :
    Memory × Task OneLevelTriggerResult :=
  match c.offer memory orderLinkId riskState with
  | .error failure => (memory, throw failure)
  | .ok (.blocked reasons) => (memory, pure { triggered := false, reasons })
  | .ok (.submit request _) =>
    ({ memory with oneLevel := { memory.oneLevel with submitted := true } }, do
      let snapshot ← onPorts (OneLevelEntryService.submitEntry request)
      pure { triggered := true, reasons := [], snapshot := some snapshot, request := some request })

/-- The stretch of `on_trigger` for a price in the current segment. -/
def inSegment (orderLinkId : String) (event : TriggerPriceEvent) (riskState : RiskState)
    (memory : Memory) : Memory × Task OneLevelTriggerResult :=
  match memory.oneLevel.previousPrice with
  | none => (memory, throw (.assertionError "initialized segment must have a previous price"))
  | some previousPrice =>
    let s := memory.oneLevel
    let currentPrice := event.observedPrice
    let armed := s.entryArmed || (c.level.entryPrice ≤ currentPrice ∧ s.submitted = false)
    let seen := { s with entryArmed := armed, previousPrice := some currentPrice }
    if armed ∧ previousPrice > c.level.entryPrice ∧ currentPrice ≤ c.level.entryPrice then
      c.crossed orderLinkId riskState { memory with oneLevel := { seen with entryArmed := false } }
    else ({ memory with oneLevel := seen }, pure { triggered := false, reasons := [] })

/-- The first stretch of `on_trigger`: a price of a newer connection starts a new segment. -/
def observe (orderLinkId : String) (event : TriggerPriceEvent) (riskState : RiskState)
    (memory : Memory) : Memory × Task OneLevelTriggerResult :=
  let reset := { memory with oneLevel := c.resetSegment event memory.oneLevel }
  match memory.oneLevel.connectionGeneration with
  | none => (reset, pure { triggered := false, reasons := [] })
  | some generation =>
    if event.connectionGeneration < generation then
      (memory, pure { triggered := false, reasons := ["connection generation is stale"] })
    else if generation < event.connectionGeneration then
      (reset, pure { triggered := false, reasons := ["connection generation changed"] })
    else c.inSegment orderLinkId event riskState memory

/-- `on_trigger`. `orderLinkId` is what the id factory returns if it is asked. -/
def onTrigger (orderLinkId : String) (event : TriggerPriceEvent)
    (marketHealth : MarketDataHealthResult) (riskState : RiskState) :
    Task OneLevelTriggerResult :=
  if event.symbol ≠ c.instrument.symbol then
    pure { triggered := false, reasons := ["trigger symbol does not match"] }
  else if event.source ≠ .lastTrade then
    pure { triggered := false, reasons := ["trigger source is not LAST_TRADE"] }
  else if marketHealth.tradingAllowed = false then
    pure { triggered := false, reasons := marketHealth.reasons }
  else sync (c.observe orderLinkId event riskState)

/-- The first stretch ends in a result, raises, or has come to a crossing. It has not touched the
    kill switch. -/
theorem observe_cases {P : Memory × Task OneLevelTriggerResult → Prop} {orderLinkId : String}
    {event : TriggerPriceEvent} {riskState : RiskState} {memory : Memory}
    (hended : ∀ m result, m.killSwitch = memory.killSwitch → P (m, pure result))
    (hraised : ∀ failure, P (memory, throw failure))
    (hcrossed : ∀ m, m.killSwitch = memory.killSwitch → P (c.crossed orderLinkId riskState m)) :
    P (c.observe orderLinkId event riskState memory) := by
  unfold observe
  split
  · exact hended _ _ rfl
  · split_ifs
    · exact hended _ _ rfl
    · exact hended _ _ rfl
    · unfold inSegment
      split
      · exact hraised _
      · dsimp only
        split_ifs
        · exact hcrossed _ rfl
        · exact hended _ _ rfl

end OneLevelCoordinator

/-! ## A ladder of levels -/

structure LevelEntrySubmission where
  levelId : ℕ
  request : PlaceOrderRequest
  snapshot : EntryExecutionSnapshot

structure LevelEntryBlock where
  levelId : ℕ
  reasons : List String

structure MultiLevelTriggerResult where
  entries : List LevelEntrySubmission
  blocked : List LevelEntryBlock
  reasons : List String := []

structure MultiLevelCoordinator where
  optionPosition : PutCreditSpreadPosition
  levels : List HedgeLevel
  instrument : InstrumentSpec
  riskLimits : RiskLimits
  /-- The id of the level's next order, from the level id and the attempt. -/
  orderLinkIdFactory : ℕ → ℕ → String
  hasEntryGate : Bool
  levels_ne_nil : levels ≠ []
  levelIds_eq : levels.map HedgeLevel.levelId = List.range' 1 levels.length
  entryPrices_sorted : (levels.map HedgeLevel.entryPrice).Pairwise (· ≥ ·)
  ethusdt_linear : instrument.category = .linear ∧ instrument.symbol = "ETHUSDT"

namespace MultiLevelCoordinator

variable (c : MultiLevelCoordinator)

/-- The dictionary `_armed`, with `True` for the levels that satisfy `condition`. -/
def flags (condition : HedgeLevel → Bool) (levelId : ℕ) : Bool :=
  c.levels.any fun level => level.levelId = levelId && condition level

/-- `level_id not in self._submitted_order_ids`, of a level at or below the price. -/
def reaches (s : MultiLevelState) (price : ℚ) (level : HedgeLevel) : Bool :=
  level.entryPrice ≤ price && (s.submittedOrderIds level.levelId).isNone

/-- `_reset_segment`. -/
def resetSegment (event : TriggerPriceEvent) (s : MultiLevelState) : MultiLevelState :=
  { s with
    connectionGeneration := some event.connectionGeneration
    previousPrice := some event.observedPrice
    armed := c.flags (reaches s event.observedPrice) }

/-- `_preflight_reasons`. -/
def preflightReasons (s : MultiLevelState) (level : HedgeLevel) : List String :=
  if (s.submittedOrderIds level.levelId).isSome then ["level entry is already submitted"]
  else if level.state ≠ .ready then ["virtual level is not READY"]
  else if c.optionPosition.state ≠ .open then ["option spread is not OPEN"]
  else []

/-- One crossed level, offered. -/
def offer (memory : Memory) (riskState : RiskState) (level : HedgeLevel) :
    Except Failure EntryOffer := do
  let allowed ← memory.gateAllows c.hasEntryGate
  if allowed = false then pure (.blocked ["kill switch blocks new entries"])
  else
    let reasons := c.preflightReasons memory.multiLevel level
    if reasons ≠ [] then pure (.blocked reasons)
    else
      offerEntry c.instrument c.optionPosition c.riskLimits level 0 "ETHUSDT"
        (c.orderLinkIdFactory level.levelId (memory.multiLevel.attempts level.levelId + 1))
        riskState

/-- `self._armed[level_id] = False`. -/
def disarm (level : HedgeLevel) (memory : Memory) : Memory :=
  { memory with
    multiLevel :=
      { memory.multiLevel with
        armed := Function.update memory.multiLevel.armed level.levelId false } }

/-- The attempt is counted and the order id kept. -/
def noteSubmitted (level : HedgeLevel) (request : PlaceOrderRequest) (memory : Memory) : Memory :=
  let s := memory.multiLevel
  { memory with
    multiLevel :=
      { s with
        attempts := Function.update s.attempts level.levelId (s.attempts level.levelId + 1)
        submittedOrderIds :=
          Function.update s.submittedOrderIds level.levelId (some request.orderLinkId) } }

/-- The loop over the crossed levels, from one `await` to the next. It goes on in the same stretch
    after a level that is blocked, and in a new one after a submission. -/
def visit : List HedgeLevel → RiskState → List LevelEntrySubmission → List LevelEntryBlock →
    Memory → Memory × Task MultiLevelTriggerResult
  | [], _, entries, blocked, memory => (memory, pure { entries, blocked })
  | level :: rest, riskState, entries, blocked, memory =>
    let memory := disarm level memory
    match c.offer memory riskState level with
    | .error failure => (memory, throw failure)
    | .ok (.blocked reasons) =>
      visit rest riskState entries (blocked ++ [{ levelId := level.levelId, reasons }]) memory
    | .ok (.submit request proposal) =>
      (noteSubmitted level request memory,
        onPorts (OneLevelEntryService.submitEntry request) >>= fun snapshot =>
          sync (visit rest (riskState.afterEntry proposal)
            (entries ++ [{ levelId := level.levelId, request, snapshot }]) blocked))

/-- `crossed`: the armed levels the move comes down on, in ladder order. -/
def crossings (s : MultiLevelState) (previous current : ℚ) : List HedgeLevel :=
  c.levels.filter fun level =>
    s.armed level.levelId && previous > level.entryPrice && current ≤ level.entryPrice

/-- The levels at or below a price are armed by it. -/
def arm (price : ℚ) (s : MultiLevelState) : MultiLevelState :=
  { s with armed := fun levelId => s.armed levelId || c.flags (reaches s price) levelId }

/-- The stretch of `on_trigger` for a price in the current segment. -/
def inSegment (event : TriggerPriceEvent) (riskState : RiskState) (memory : Memory) :
    Memory × Task MultiLevelTriggerResult :=
  match memory.multiLevel.previousPrice with
  | none => (memory, throw (.assertionError "initialized segment must have a previous price"))
  | some previous =>
    let current := event.observedPrice
    let s := c.arm current memory.multiLevel
    c.visit (c.crossings s previous current) riskState [] []
      { memory with multiLevel := { s with previousPrice := some current } }

/-- The first stretch of `on_trigger`: a price of a newer connection starts a new segment. -/
def observe (event : TriggerPriceEvent) (riskState : RiskState) (memory : Memory) :
    Memory × Task MultiLevelTriggerResult :=
  let reset := { memory with multiLevel := c.resetSegment event memory.multiLevel }
  match memory.multiLevel.connectionGeneration with
  | none => (reset, pure { entries := [], blocked := [] })
  | some generation =>
    if event.connectionGeneration < generation then
      (memory,
        pure { entries := [], blocked := [], reasons := ["connection generation is stale"] })
    else if generation < event.connectionGeneration then
      (reset,
        pure { entries := [], blocked := [], reasons := ["connection generation changed"] })
    else c.inSegment event riskState memory

def onTrigger (event : TriggerPriceEvent) (marketHealth : MarketDataHealthResult)
    (riskState : RiskState) : Task MultiLevelTriggerResult :=
  if event.symbol ≠ c.instrument.symbol then
    pure { entries := [], blocked := [], reasons := ["trigger symbol does not match"] }
  else if event.source ≠ .lastTrade then
    pure { entries := [], blocked := [], reasons := ["trigger source is not LAST_TRADE"] }
  else if marketHealth.tradingAllowed = false then
    pure { entries := [], blocked := [], reasons := marketHealth.reasons }
  else sync (c.observe event riskState)

/-- The first stretch ends in a result, raises, or goes over the crossed levels. Up to there it has
    not touched the kill switch. -/
theorem observe_cases {P : Memory × Task MultiLevelTriggerResult → Prop}
    {event : TriggerPriceEvent} {riskState : RiskState} {memory : Memory}
    (hended : ∀ m result, m.killSwitch = memory.killSwitch → P (m, pure result))
    (hraised : ∀ failure, P (memory, throw failure))
    (hvisit : ∀ crossed m, (∀ level ∈ crossed, level ∈ c.levels) →
      m.killSwitch = memory.killSwitch → P (c.visit crossed riskState [] [] m)) :
    P (c.observe event riskState memory) := by
  unfold observe
  split
  · exact hended _ _ rfl
  · split_ifs
    · exact hended _ _ rfl
    · exact hended _ _ rfl
    · unfold inSegment
      split
      · exact hraised _
      · exact hvisit _ _ (fun level hl => (List.mem_filter.mp hl).1) rfl

end MultiLevelCoordinator

end CreditHedge
