import CreditHedge.Application.Coordinators
import CreditHedge.Application.SameLevelRecovery

/-!
# The size of a market entry

Every entry is a market order, and every entry path has its order validated before it is sent,
but as a limit order. The two validations differ in one point: the largest quantity. An instrument
may state a maximum for market orders that is below its maximum for limit orders, and a quantity
between the two passes here and is refused by the rules for the order that is sent.

That is the only way it can go wrong (`market_entries_valid_iff`). On the three paths the request
is built from the rounded quantity of the very validation that accepted it, so everything else
that the rules ask of a market order has been checked.
-/

set_option autoImplicit false

namespace CreditHedge

open Coroutine (Calls Comes Answered)

/-- The rules for a market order accept the request as it is, at the level's rounded entry
    price. -/
structure MarketValid (instrument : InstrumentSpec) (level : HedgeLevel)
    (request : PlaceOrderRequest) : Prop where
  accepted : (normalizeAndValidateOrder instrument request.side request.quantity none true
    (some (quantizeLimitPrice level.entryPrice instrument.priceFilter.tickSize .sell .passive))
    .passive).accepted = true
  on_grid : floorToStep request.quantity instrument.lotSizeFilter.qtyStep = request.quantity

/-- The largest market order of an instrument. -/
def InstrumentSpec.marketMaximum (instrument : InstrumentSpec) : ℚ :=
  instrument.lotSizeFilter.quantityMaximum true

/-- A request that was admitted as a limit order, on the grid. -/
theorem marketValid_iff {instrument : InstrumentSpec} {level : HedgeLevel}
    {request : PlaceOrderRequest}
    (hgrid : floorToStep request.quantity instrument.lotSizeFilter.qtyStep = request.quantity)
    (hadmits : instrument.Admits false request.quantity
      (quantizeLimitPrice level.entryPrice instrument.priceFilter.tickSize .sell .passive)) :
    MarketValid instrument level request ↔ request.quantity ≤ instrument.marketMaximum := by
  constructor
  · intro h
    have haccepted := accepted_market_iff.mp h.accepted
    rw [hgrid] at haccepted
    exact haccepted.maximum
  · intro hmax
    refine ⟨accepted_market_iff.mpr ?_, hgrid⟩
    rw [hgrid]
    exact hadmits.market_iff.mpr hmax

/-- The task comes to place this order, after these calls. -/
def Task.Places {α : Type} (t : Task α) (request : PlaceOrderRequest) : Prop :=
  ∃ history resume, Comes t history (.call (.port (.placeOrder request)) resume)

/-- The service comes to place this order, after these calls. -/
def Service.Places {α : Type} (t : Service α)
    (history : List (Answered Failure Call Call.Result)) (request : PlaceOrderRequest) : Prop :=
  ∃ resume, Comes t history (.call (.placeOrder request) resume)

/-! ## The two coordinators -/

/-- The orders a task places are all of this kind. -/
def PlacesAll {α : Type} (t : Task α) (kind : PlaceOrderRequest → Prop) : Prop :=
  t.Calls fun call => ∀ request, call = .port (.placeOrder request) → kind request

theorem PlacesAll.places {α : Type} {t : Task α} {kind : PlaceOrderRequest → Prop}
    (h : PlacesAll t kind) {request : PlaceOrderRequest} (hplaces : t.Places request) :
    kind request := by
  obtain ⟨history, resume, hcomes⟩ := hplaces
  exact (h.comes hcomes).1 request rfl

theorem placesAll_submitEntry {k : PlaceOrderRequest → Prop} {request : PlaceOrderRequest}
    (h : k request) :
    PlacesAll (onPorts (OneLevelEntryService.submitEntry request)) k := by
  refine calls_onPorts ((OneLevelEntryService.calls_submitEntry request).imp ?_)
  intro call hcall placed hplaced
  obtain rfl := ProcessCall.port.inj hplaced
  obtain rfl : placed = request := hcall
  exact h

theorem placesAll_sync {α : Type} {kind : PlaceOrderRequest → Prop}
    {stretch : Memory → Memory × Task α} (h : ∀ memory, PlacesAll (stretch memory).2 kind) :
    PlacesAll (sync stretch) kind :=
  calls_sync (by simp) h

/-- What a coordinator has been offered and submits. -/
theorem marketValid_of_offer {instrument : InstrumentSpec} {position : PutCreditSpreadPosition}
    {limits : RiskLimits} {level : HedgeLevel} {recoveryDebt : ℚ} {symbol orderLinkId : String}
    {riskState : RiskState} {request : PlaceOrderRequest} {proposal : TradeProposal}
    (h : offerEntry instrument position limits level recoveryDebt symbol orderLinkId riskState =
      .ok (.submit request proposal)) :
    request.orderLinkId = orderLinkId ∧ (MarketValid instrument level request ↔
      floorToStep position.matchedQuantity instrument.lotSizeFilter.qtyStep ≤
        instrument.marketMaximum) := by
  obtain ⟨hfields, hadmits⟩ := offerEntry_submit h
  have hquantity : request.quantity =
      floorToStep position.matchedQuantity instrument.lotSizeFilter.qtyStep := by
    rw [hfields, marketEntryFields]
  have hgrid : floorToStep request.quantity instrument.lotSizeFilter.qtyStep = request.quantity := by
    rw [hquantity]
    exact floorToStep_floorToStep instrument.lotSizeFilter.qtyStep_pos _
  refine ⟨by rw [hfields, marketEntryFields], ?_⟩
  rw [← hquantity]
  exact marketValid_iff hgrid hadmits

section Coordinators

variable (riskState : RiskState) (event : TriggerPriceEvent) (health : MarketDataHealthResult)

theorem OneLevelCoordinator.placesAll_onTrigger (c : OneLevelCoordinator) (orderLinkId : String) :
    PlacesAll (c.onTrigger orderLinkId event health riskState) fun request =>
      (MarketValid c.instrument c.level request ↔
        floorToStep c.optionPosition.matchedQuantity c.instrument.lotSizeFilter.qtyStep ≤
          c.instrument.marketMaximum) := by
  have hcrossed : ∀ memory, PlacesAll (c.crossed orderLinkId riskState memory).2 fun request =>
      (MarketValid c.instrument c.level request ↔
        floorToStep c.optionPosition.matchedQuantity c.instrument.lotSizeFilter.qtyStep ≤
          c.instrument.marketMaximum) := by
    intro memory
    unfold OneLevelCoordinator.crossed
    split
    · exact .throw _
    · exact .pure _
    · rename_i request proposal hoffer
      simp only [OneLevelCoordinator.offer, bind_eq_ok] at hoffer
      obtain ⟨reasons, -, hoffer⟩ := hoffer
      split at hoffer
      · exact absurd (Except.ok.inj hoffer) (by simp)
      · exact (placesAll_submitEntry (marketValid_of_offer hoffer).2).bind fun _ => .pure _
  unfold OneLevelCoordinator.onTrigger
  split_ifs
  · exact .pure _
  · exact .pure _
  · exact .pure _
  · refine placesAll_sync fun memory => ?_
    exact c.observe_cases (P := fun stretch => PlacesAll stretch.2 _) (fun _ _ _ => .pure _)
      (fun _ => .throw _) fun m _ => hcrossed m

/-- An order of one of the levels, made for it by the id factory. -/
def MultiLevelCoordinator.OrderOf (c : MultiLevelCoordinator) (level : HedgeLevel)
    (request : PlaceOrderRequest) : Prop :=
  ∃ attempt, request.orderLinkId = c.orderLinkIdFactory level.levelId attempt

theorem MultiLevelCoordinator.placesAll_visit (c : MultiLevelCoordinator)
    (crossed : List HedgeLevel) (hcrossed : ∀ level ∈ crossed, level ∈ c.levels)
    (riskState : RiskState) (entries : List LevelEntrySubmission)
    (blocked : List LevelEntryBlock) (memory : Memory) :
    PlacesAll (c.visit crossed riskState entries blocked memory).2 fun request =>
      ∃ level ∈ c.levels, c.OrderOf level request ∧ (MarketValid c.instrument level request ↔
        floorToStep c.optionPosition.matchedQuantity c.instrument.lotSizeFilter.qtyStep ≤
          c.instrument.marketMaximum) := by
  induction crossed generalizing riskState entries blocked memory with
  | nil => exact .pure _
  | cons level rest ih =>
    have hrest := fun l hl => hcrossed l (List.mem_cons_of_mem _ hl)
    unfold MultiLevelCoordinator.visit
    dsimp only
    split
    · exact .throw _
    · exact ih hrest _ _ _ _
    · rename_i request proposal hoffer
      simp only [MultiLevelCoordinator.offer, bind_eq_ok] at hoffer
      obtain ⟨allowed, -, hoffer⟩ := hoffer
      split_ifs at hoffer
      · exact absurd (Except.ok.inj hoffer) (by simp)
      · exact absurd (Except.ok.inj hoffer) (by simp)
      · obtain ⟨hid, hvalid⟩ := marketValid_of_offer hoffer
        have hkind := placesAll_submitEntry (k := fun request => ∃ level ∈ c.levels,
          c.OrderOf level request ∧ (MarketValid c.instrument level request ↔
            floorToStep c.optionPosition.matchedQuantity c.instrument.lotSizeFilter.qtyStep ≤
              c.instrument.marketMaximum))
          ⟨level, hcrossed level (List.mem_cons_self ..), ⟨_, hid⟩, hvalid⟩
        exact hkind.bind fun _ => placesAll_sync fun memory => ih hrest _ _ _ _

theorem MultiLevelCoordinator.placesAll_onTrigger (c : MultiLevelCoordinator) :
    PlacesAll (c.onTrigger event health riskState) fun request =>
      ∃ level ∈ c.levels, c.OrderOf level request ∧ (MarketValid c.instrument level request ↔
        floorToStep c.optionPosition.matchedQuantity c.instrument.lotSizeFilter.qtyStep ≤
          c.instrument.marketMaximum) := by
  unfold MultiLevelCoordinator.onTrigger
  split_ifs
  · exact .pure _
  · exact .pure _
  · exact .pure _
  · refine placesAll_sync fun memory => ?_
    exact c.observe_cases (P := fun stretch => PlacesAll stretch.2 _) (fun _ _ _ => .pure _)
      (fun _ => .throw _) fun crossed _ hlevels _ => c.placesAll_visit crossed hlevels _ _ _ _

end Coordinators

/-! ## Recovery -/

namespace SameLevelRecoveryService

open SameLevelRecoveryPlanner (plannedQuantity)

/-- What the gate leaves of a plan. -/
theorem calls_applyEntryGate {p : Call → Prop} (hp : p .entriesAllowed) {hasEntryGate : Bool}
    {planned : RecoveryEntryPlan} {α : Type} {f : RecoveryEntryPlan → Service α}
    (hplanned : (f planned).Calls p) (hblocked : (f (blockedByKillSwitch planned)).Calls p) :
    (applyEntryGate hasEntryGate planned >>= f).Calls p := by
  unfold applyEntryGate
  split
  · refine ⟨hp, fun answer => ?_⟩
    cases answer with
    | error failure => exact .throw failure
    | ok allowed =>
      cases allowed with
      | true => exact hplanned
      | false => exact hblocked
  · exact hplanned

/-- The order of a recovery is of the size planned for the debt that was loaded. -/
theorem places_submitRecovery {instrument : InstrumentSpec} {riskState : RiskState}
    {limits : RiskLimits} {hasEntryGate : Bool} {level : HedgeLevel} {orderLinkId : String}
    {history : List (Answered Failure Call Call.Result)} {request : PlaceOrderRequest}
    (h : (submitRecovery (fun level debt =>
        SameLevelRecoveryPlanner.plan level debt instrument riskState limits) hasEntryGate level
      orderLinkId).Places history request) :
    ∃ snapshot : RecoveryDebtSnapshot,
      ⟨.loadRecoveryDebtSnapshot level.levelId, .ok (some snapshot)⟩ ∈ history ∧
        (MarketValid instrument level request ↔
          plannedQuantity instrument level snapshot.debt ≤ instrument.marketMaximum) := by
  obtain ⟨resume, hcomes⟩ := h
  obtain ⟨loaded, rest, rfl, hrest⟩ := Coroutine.comes_call_bind (by simp) hcomes
  cases loaded with
  | none => exact absurd hrest Coroutine.not_comes_done
  | some snapshot =>
    refine ⟨snapshot, List.mem_cons_self .., ?_⟩
    have hcalls : ∀ planned, SameLevelRecoveryPlanner.plan level snapshot.debt instrument
        riskState limits = .ok planned → ∀ plan, plan = planned ∨ plan.approved = false →
        (submitPlan orderLinkId snapshot plan).Calls fun call =>
          ∀ request, call = .placeOrder request →
            (MarketValid instrument level request ↔
              plannedQuantity instrument level snapshot.debt ≤ instrument.marketMaximum) := by
      intro planned hplan plan hof
      unfold submitPlan
      split
      · rename_i quantity happroved hquantity
        obtain rfl : plan = planned := hof.resolve_right (by simp [happroved])
        obtain ⟨rfl, hadmits⟩ := SameLevelRecoveryPlanner.admits_of_plan hplan hquantity
        refine (calls_allocateAndSubmit orderLinkId snapshot plan _).imp ?_
        rintro call ⟨placed, hfields, hcall⟩ request rfl
        obtain rfl : request = placed := hcall
        have hsize : request.quantity = plannedQuantity instrument level snapshot.debt := by
          rw [hfields, recoveryFields]
        rw [← hsize] at hadmits ⊢
        refine marketValid_iff ?_ hadmits
        rw [hsize]
        exact floorToStep_ceilToStep instrument.lotSizeFilter.qtyStep_pos _
      · exact .pure _
    refine (Calls.comes (p := fun call => ∀ request, call = .placeOrder request →
      (MarketValid instrument level request ↔
        plannedQuantity instrument level snapshot.debt ≤ instrument.marketMaximum))
      ?_ hrest).1 request rfl
    refine .lift_bind fun planned hplan => ?_
    refine calls_applyEntryGate (by simp) ?_ ?_
    · exact hcalls planned hplan planned (.inl rfl)
    · exact hcalls planned hplan (blockedByKillSwitch planned) (.inr rfl)

end SameLevelRecoveryService

/-! ## All three paths -/

/-- **When a market entry is valid.** An order that a coordinator places is accepted by the rules
    for market orders, at the level's rounded entry price, exactly when the matched option
    quantity, rounded down to a lot, is within the instrument's market maximum; an order that a
    recovery places, exactly when the quantity planned for the loaded debt is. -/
theorem market_entries_valid_iff (riskState : RiskState) (request : PlaceOrderRequest) :
    (∀ (c : OneLevelCoordinator) (orderLinkId : String) (event : TriggerPriceEvent)
      (health : MarketDataHealthResult),
      (c.onTrigger orderLinkId event health riskState).Places request →
      (MarketValid c.instrument c.level request ↔
        floorToStep c.optionPosition.matchedQuantity c.instrument.lotSizeFilter.qtyStep ≤
          c.instrument.marketMaximum)) ∧
    (∀ (c : MultiLevelCoordinator) (event : TriggerPriceEvent) (health : MarketDataHealthResult),
      (c.onTrigger event health riskState).Places request →
      ∃ level ∈ c.levels, c.OrderOf level request ∧ (MarketValid c.instrument level request ↔
        floorToStep c.optionPosition.matchedQuantity c.instrument.lotSizeFilter.qtyStep ≤
          c.instrument.marketMaximum)) ∧
    ∀ (instrument : InstrumentSpec) (limits : RiskLimits) (hasEntryGate : Bool)
      (level : HedgeLevel) (orderLinkId : String)
      (history : List (Answered Failure Call Call.Result)),
      (SameLevelRecoveryService.submitRecovery (fun level debt =>
          SameLevelRecoveryPlanner.plan level debt instrument riskState limits) hasEntryGate level
        orderLinkId).Places history request →
      ∃ snapshot : RecoveryDebtSnapshot,
        ⟨.loadRecoveryDebtSnapshot level.levelId, .ok (some snapshot)⟩ ∈ history ∧
          (MarketValid instrument level request ↔
            SameLevelRecoveryPlanner.plannedQuantity instrument level snapshot.debt ≤
              instrument.marketMaximum) := by
  refine ⟨?_, ?_, ?_⟩
  · intro c orderLinkId event health hplaces
    exact (c.placesAll_onTrigger riskState event health orderLinkId).places hplaces
  · intro c event health hplaces
    exact (c.placesAll_onTrigger riskState event health).places hplaces
  · intro instrument limits hasEntryGate level orderLinkId history hplaces
    exact SameLevelRecoveryService.places_submitRecovery hplaces

/-! ## Two positions -/

/-- The order a task is about to place. -/
def Task.placing? {α : Type} (t : Task α) : Option PlaceOrderRequest :=
  match t with
  | .call (.port (.placeOrder request)) _ => some request
  | _ => none

/-- A task that has been run up to an order places it. -/
theorem Task.places_of_advances {α : Type} {t : Task α} {as : List ProcessAnswers} {p : Process}
    {request : PlaceOrderRequest}
    (h : Task.placing? (Coroutine.advances Process.handle as t p).1 = some request) :
    t.Places request := by
  obtain ⟨history, hcomes⟩ := Coroutine.exists_comes_advances Process.handle as t p
  refine ⟨history, ?_⟩
  unfold Task.placing? at h
  split at h
  · rename_i placed resume heq
    obtain rfl := Option.some.inj h
    exact ⟨resume, heq ▸ hcomes⟩
  · exact absurd h (by simp)

/-- An open spread with this much filled on both legs. -/
def openSpread (quantity : ℚ) (h : 0 < quantity) : PutCreditSpreadPosition where
  shortPut := ⟨quantity, quantity, h, h.le, le_rfl⟩
  longPut := ⟨quantity, quantity, h, h.le, le_rfl⟩
  state := .open
  protected_short := le_rfl
  open_matched := fun _ => ⟨lt_min h h, rfl⟩

def levelAt2000 : HedgeLevel where
  levelId := 1
  entryPrice := 2000
  tpPrice := 1990
  stopPrice := 2003
  optionBudget := 10

/-- A last trade at this price, on the first connection. -/
def tradeAt (price : ℚ) : TriggerPriceEvent where
  symbol := "ETHUSDT"
  source := .lastTrade
  observedPrice := price
  observedTimestamp := 0
  connectionGeneration := 1

def healthyMarket : MarketDataHealthResult where
  tradingAllowed := true
  reasons := []
  eventType := .marketDataRecovered

theorem ethPerp_linear : ethPerp.category = .linear ∧ ethPerp.symbol = "ETHUSDT" := ⟨rfl, rfl⟩

def coordinatorOf (quantity : ℚ) (h : 0 < quantity) : OneLevelCoordinator where
  optionPosition := openSpread quantity h
  level := levelAt2000
  instrument := ethPerp
  riskLimits := wideLimits
  hasEntryGate := false
  levelId_eq := rfl
  ethusdt_linear := ethPerp_linear

/-- The coordinator has last seen 2010, above its level. -/
def seenAbove : Process where
  world := { store := .empty, accepted := [] }
  memory :=
    { oneLevel :=
        { previousPrice := some 2010, connectionGeneration := some 1, entryArmed := true } }

/-- The entry on a trade at 1999. -/
def entryAt1999 (quantity : ℚ) (h : 0 < quantity) : Task OneLevelTriggerResult :=
  (coordinatorOf quantity h).onTrigger "ECH-A-C0001-L01-ENTRY-A01-0000" (tradeAt 1999) healthyMarket
    calmState

/-- The entry, run up to its order: the attributes, the clock and the store answer. -/
def entryOrder (quantity : ℚ) (h : 0 < quantity) : Option PlaceOrderRequest :=
  Task.placing? (Coroutine.advances Process.handle (List.replicate 6 default)
    (entryAt1999 quantity h) seenAbove).1

/-- The order of an entry of this size is the market order for it. -/
theorem places_of_entryOrder (quantity : ℚ) (h : 0 < quantity) (fields : PlaceOrderFields)
    (horder : (entryOrder quantity h).map PlaceOrderRequest.toPlaceOrderFields = some fields) :
    ∃ request, (entryAt1999 quantity h).Places request ∧ request.toPlaceOrderFields = fields := by
  obtain ⟨request, hrequest, hfields⟩ := Option.map_eq_some_iff.mp horder
  exact ⟨request, Task.places_of_advances hrequest, hfields⟩

/-- Four hundred are within the market maximum of five hundred. -/
theorem market_entries_valid_iff_fourHundred :
    ∃ request, (entryAt1999 400 (by decide +kernel)).Places request ∧
      MarketValid ethPerp levelAt2000 request := by
  obtain ⟨request, hplaces, -⟩ := places_of_entryOrder 400 (by decide +kernel)
    (marketEntryFields "ETHUSDT" 400 "ECH-A-C0001-L01-ENTRY-A01-0000") (by decide +kernel)
  refine ⟨request, hplaces, ?_⟩
  exact ((market_entries_valid_iff _ request).1 _ _ _ _ hplaces).mpr (by decide +kernel)

/-- Six hundred are above it, and are sent all the same. -/
theorem market_entry_above_maximum :
    ∃ request, (entryAt1999 600 (by decide +kernel)).Places request ∧
      request.toPlaceOrderFields =
        marketEntryFields "ETHUSDT" 600 "ECH-A-C0001-L01-ENTRY-A01-0000" ∧
      ¬ MarketValid ethPerp levelAt2000 request := by
  obtain ⟨request, hplaces, hfields⟩ := places_of_entryOrder 600 (by decide +kernel)
    (marketEntryFields "ETHUSDT" 600 "ECH-A-C0001-L01-ENTRY-A01-0000") (by decide +kernel)
  refine ⟨request, hplaces, hfields, fun hvalid => ?_⟩
  have haccepted := hvalid.accepted
  rw [hfields] at haccepted
  exact absurd haccepted (by decide +kernel)

end CreditHedge
