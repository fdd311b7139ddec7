import CreditHedge.Application.LiveEntries
import CreditHedge.Application.ShadowMode
import CreditHedge.Lib.Admission

/-!
# What a crossing is charged at

The shadow service and the coordinator of a ladder, at the levels that one move crosses. At every
crossing both ask the same gate about the same proposal (`levelProposal`): the debt, which only
the shadow service passes on, does not decide. What differs is what an approved entry is charged
at, for the levels that are crossed after it. The coordinator charges the notional of the
proposal; the shadow service multiplies the quantity and the price out, and leaves the contract
multiplier off (`liveCharge_eq_shadowCharge_iff`).

Both loops are cases of `Admission.admitted`: one list of levels, one gate, and two ways to charge
(`MultiLevelCoordinator.runs_visit`, `ShadowModeService.visit_spec`).
-/

set_option autoImplicit false

namespace CreditHedge

open Admission (admitted admitted_of_refused admitted_of_charged)

/-! ## Charges -/

/-- What an entry is charged at, against the limits. -/
structure Charge where
  levelId : ℕ
  quantity : ℚ
  notional : ℚ
  deriving DecidableEq, Repr

/-- The state after a charge. -/
def RiskState.plus (state : RiskState) (charge : Charge) : RiskState :=
  match state.replaceCharged charge.quantity charge.notional with
  | .ok charged => charged
  | .error _ => state

/-- A charge that is not negative goes through the checks. -/
theorem RiskState.replaceCharged_eq (state : RiskState) (charge : Charge)
    (hquantity : 0 ≤ charge.quantity) (hnotional : 0 ≤ charge.notional) :
    state.replaceCharged charge.quantity charge.notional = .ok (state.plus charge) := by
  have hq : ¬ state.currentPerpQuantity + charge.quantity < 0 :=
    not_lt.mpr (add_nonneg state.currentPerpQuantity_nonneg hquantity)
  have hn : ¬ state.currentPerpNotional + charge.notional < 0 :=
    not_lt.mpr (add_nonneg state.currentPerpNotional_nonneg hnotional)
  unfold plus replaceCharged
  rw [dif_neg hq, dif_neg hn]

/-- The coordinator's: the notional of the proposal. -/
def liveCharge (levelId : ℕ) (proposal : TradeProposal) : Charge where
  levelId
  quantity := proposal.quantity
  notional := proposal.notional

/-- The shadow service's: the quantity times the price. -/
def shadowCharge (levelId : ℕ) (proposal : TradeProposal) : Charge where
  levelId
  quantity := proposal.quantity
  notional := proposal.quantity * proposal.price

theorem afterEntry_eq (state : RiskState) (levelId : ℕ) (proposal : TradeProposal) :
    state.afterEntry proposal = state.plus (liveCharge levelId proposal) := by
  have hquantity := proposal.quantity_pos.le
  have hnotional := proposal.notional_pos.le
  have hentry : state.replaceCharged proposal.quantity proposal.notional =
      .ok (state.afterEntry proposal) := by
    unfold RiskState.replaceCharged
    rw [dif_neg (not_lt.mpr (add_nonneg state.currentPerpQuantity_nonneg hquantity)),
      dif_neg (not_lt.mpr (add_nonneg state.currentPerpNotional_nonneg hnotional))]
    rfl
  have hplus : state.replaceCharged proposal.quantity proposal.notional =
      .ok (state.plus (liveCharge levelId proposal)) :=
    state.replaceCharged_eq (liveCharge levelId proposal) hquantity hnotional
  exact Except.ok.inj (hentry.symm.trans hplus)

/-- What an intent is charged at, by the service that has recorded it. -/
def ShadowIntent.charge (intent : ShadowIntent) : Option Charge :=
  if intent.riskApproved = true then
    match intent.quantizedQuantity, intent.hypotheticalEntryPrice with
    | some quantity, some entryPrice =>
      some { levelId := intent.levelId, quantity, notional := quantity * entryPrice }
    | _, _ => none
  else none

/-- The level and the quantity of an entry. -/
def Charge.taken (charge : Charge) : ℕ × ℚ := (charge.levelId, charge.quantity)

def LevelEntrySubmission.taken (entry : LevelEntrySubmission) : ℕ × ℚ :=
  (entry.levelId, entry.request.quantity)

/-- The level and the quantity of a risk-approved intent. -/
def ShadowIntent.taken (intent : ShadowIntent) : Option (ℕ × ℚ) :=
  if intent.riskApproved = true then intent.quantizedQuantity.map fun quantity =>
    (intent.levelId, quantity)
  else none

/-! ## One level -/

/-- The proposal that is put to the gate for a level: there is none if the level is not ready or
    its rounded order is refused. -/
def levelProposal (instrument : InstrumentSpec) (limits : RiskLimits) (quantity : ℚ)
    (level : HedgeLevel) : Option TradeProposal :=
  let validation := normalizeAndValidateOrder instrument .sell quantity (some level.entryPrice)
    false none .passive
  match recalculateQuantizedRisk validation instrument .sell level.tpPrice level.stopPrice 0
    limits.maximumPerpNotional limits.maximumProjectedStopLoss with
  | .error _ => none
  | .ok quantized =>
    if level.state = .ready ∧ quantized.accepted = true then
      (TradeProposal.create "ETHUSDT" .sell quantized.quantity quantized.entryPrice
        quantized.notional quantized.projectedStopLoss true).toOption
    else none

/-- What the gate admits of a ladder under a risk state, charged in this way. -/
def judge (instrument : InstrumentSpec) (limits : RiskLimits) (quantity : ℚ)
    (chargeOf : ℕ → TradeProposal → Charge) (riskState : RiskState) (level : HedgeLevel) :
    Option Charge :=
  ((levelProposal instrument limits quantity level).filter fun proposal =>
    (RiskEngine.evaluate proposal riskState limits).approved).map (chargeOf level.levelId)

section Level

variable {instrument : InstrumentSpec} {limits : RiskLimits} {quantity : ℚ} {level : HedgeLevel}
  {riskState : RiskState} {proposal : TradeProposal}
  {chargeOf chargeOf' : ℕ → TradeProposal → Charge}

theorem isSome_judge : (judge instrument limits quantity chargeOf riskState level).isSome =
    (judge instrument limits quantity chargeOf' riskState level).isSome := by
  unfold judge
  rw [Option.isSome_map, Option.isSome_map]

theorem levelProposal_eq_some
    (h : levelProposal instrument limits quantity level = some proposal) :
    proposal.notional =
      proposal.price * proposal.quantity * instrument.contractMultiplier := by
  unfold levelProposal at h
  dsimp only at h
  split at h
  · exact absurd h (by simp)
  · rename_i quantized hquantized
    split_ifs at h
    cases hcreate : TradeProposal.create "ETHUSDT" .sell quantized.quantity quantized.entryPrice
      quantized.notional quantized.projectedStopLoss true with
    | error failure => simp [hcreate, Except.toOption] at h
    | ok created =>
      obtain rfl : created = proposal := by simpa [hcreate, Except.toOption] using h
      obtain ⟨hq, hp, hn⟩ := TradeProposal.of_create hcreate
      rw [hq, hp, hn]
      exact notional_of_recalculateQuantizedRisk hquantized

/-- The order of a level, as rounded: the gate is asked about it if it is accepted. -/
theorem levelProposal_of_quantized {quantized : QuantizedRiskResult}
    (h : recalculateQuantizedRisk
      (normalizeAndValidateOrder instrument .sell quantity (some level.entryPrice) false none
        .passive) instrument .sell level.tpPrice level.stopPrice 0 limits.maximumPerpNotional
      limits.maximumProjectedStopLoss = .ok quantized) :
    levelProposal instrument limits quantity level =
      if level.state = .ready ∧ quantized.accepted = true then
        (TradeProposal.create "ETHUSDT" .sell quantized.quantity quantized.entryPrice
          quantized.notional quantized.projectedStopLoss true).toOption
      else none := by
  unfold levelProposal
  simp only [h]

theorem judge_eq_none (h : levelProposal instrument limits quantity level = none) :
    judge instrument limits quantity chargeOf riskState level = none := by
  rw [judge, h]
  rfl

theorem judge_of_proposal (chargeOf : ℕ → TradeProposal → Charge) (riskState : RiskState)
    (h : levelProposal instrument limits quantity level = some proposal) :
    judge instrument limits quantity chargeOf riskState level =
      if (RiskEngine.evaluate proposal riskState limits).approved = true then
        some (chargeOf level.levelId proposal)
      else none := by
  rw [judge, h]
  cases happroved : (RiskEngine.evaluate proposal riskState limits).approved with
  | false => simp [happroved]
  | true => simp [happroved]

/-- What a ready level is offered: its proposal, if the gate admits it. -/
theorem judge_of_offerEntry {position : PutCreditSpreadPosition} {orderLinkId : String}
    {offer : EntryOffer} (hready : level.state = .ready)
    (h : offerEntry instrument position limits level 0 "ETHUSDT" orderLinkId riskState =
      .ok offer) :
    (∃ reasons, offer = .blocked reasons ∧
      judge instrument limits position.matchedQuantity liveCharge riskState level = none) ∨
    ∃ request proposal, offer = .submit request proposal ∧
      request.quantity = proposal.quantity ∧
      judge instrument limits position.matchedQuantity liveCharge riskState level =
        some (liveCharge level.levelId proposal) := by
  simp only [offerEntry, bind_eq_ok] at h
  obtain ⟨quantized, hquantized, h⟩ := h
  have hproposal := levelProposal_of_quantized hquantized
  split_ifs at h with hrefused
  · obtain rfl := Except.ok.inj h
    refine .inl ⟨_, rfl, judge_eq_none ?_⟩
    rw [hproposal, if_neg (by simp [hrefused])]
  · rw [if_pos ⟨hready, Bool.not_eq_false _ ▸ hrefused⟩] at hproposal
    rw [bind_eq_ok] at h
    obtain ⟨proposal, hcreate, h⟩ := h
    have hjudge := judge_of_proposal liveCharge riskState
      (hproposal.trans (by rw [hcreate, Except.toOption]))
    split_ifs at h with hvetoed
    · obtain rfl := Except.ok.inj h
      exact .inl ⟨_, rfl, hjudge.trans (if_neg (by simp [hvetoed]))⟩
    · rw [bind_eq_ok] at h
      obtain ⟨request, hrequest, h⟩ := h
      obtain rfl := Except.ok.inj h
      have hfields := PlaceOrderRequest.create_eq_ok.mp hrequest
      refine .inr ⟨request, proposal, rfl, ?_, hjudge.trans (if_pos (Bool.not_eq_false _ ▸ hvetoed))⟩
      rw [hfields, (TradeProposal.of_create hcreate).1]
      rfl

/-- What the gate says to the shadow service: nothing, of a level with a reason against it. -/
theorem gateDecision_eq_ok {s : ShadowModeService} {reasons : List String}
    {quantized : QuantizedRiskResult} (herrors : quantized.accepted = true ↔ quantized.errors = [])
    {decision : Bool × List String}
    (h : s.gateDecision reasons quantized riskState = .ok decision) :
    if reasons = [] ∧ quantized.accepted = true then
      ∃ proposal, TradeProposal.create s.instrument.symbol .sell quantized.quantity
          quantized.entryPrice quantized.notional quantized.projectedStopLoss true = .ok proposal ∧
        decision.1 = (RiskEngine.evaluate proposal riskState s.riskLimits).approved
    else decision.1 = false := by
  unfold ShadowModeService.gateDecision at h
  by_cases hagainst : reasons = []
  · cases haccepted : quantized.accepted with
    | false =>
      have hsome : quantized.errors ≠ [] := by simp [← herrors, haccepted]
      simp only [hagainst, haccepted, and_self, if_true, ne_eq, hsome, not_false_eq_true,
        pure, Except.pure, Except.ok.injEq] at h
      obtain rfl := h
      simp
    | true =>
      simp only [hagainst, haccepted, Bool.true_eq_false, and_false, if_false, ne_eq,
        not_true_eq_false, bind_eq_ok] at h
      obtain ⟨proposal, hcreate, h⟩ := h
      obtain rfl := Except.ok.inj h
      rw [if_pos ⟨hagainst, rfl⟩]
      exact ⟨proposal, hcreate, by dsimp only⟩
  · simp only [hagainst, false_and, if_false, ne_eq, not_false_eq_true, if_true, pure, Except.pure,
      Except.ok.injEq] at h
    obtain rfl := h
    simp [hagainst]

/-- **The intent of a level** says what the gate says of its proposal. -/
theorem charge_of_evaluate {s : ShadowModeService} (hopen : s.optionSpreadOpen = true)
    {event : TriggerPriceEvent} {sequence : ℕ} {intent : ShadowIntent}
    (h : s.evaluate level event riskState sequence = .ok intent) :
    intent.charge =
      judge s.instrument s.riskLimits s.desiredQuantity shadowCharge riskState level := by
  simp only [ShadowModeService.evaluate, bind_eq_ok] at h
  obtain ⟨quantized, hquantized, decision, hdecision, hintent⟩ := h
  obtain ⟨-, -, -, herrors⟩ := recalculateQuantizedRisk_ok hquantized
  obtain ⟨debtless, hdebtless, haccepted, hquantity, hprice, hnotional, hloss⟩ :=
    recalculateQuantizedRisk_debt hquantized
  have hproposal := levelProposal_of_quantized hdebtless
  rw [haccepted, hquantity, hprice, hnotional, hloss] at hproposal
  have hcharge : intent.charge = if decision.1 = true then
      some { levelId := level.levelId
             quantity := quantized.quantity
             notional := quantized.quantity * quantized.entryPrice } else none := by
    unfold ShadowIntent.charge
    rw [ShadowIntent.create_eq_ok.mp hintent]
  have hgate := gateDecision_eq_ok herrors hdecision
  by_cases hready : level.state = .ready
  · cases hok : quantized.accepted with
    | false =>
      rw [if_neg (by simp [hok])] at hgate hproposal
      rw [hcharge, hgate, judge_eq_none hproposal]
      rfl
    | true =>
      rw [if_pos ⟨by simp [hready, hopen], hok⟩] at hgate
      obtain ⟨proposal, hcreate, happroved⟩ := hgate
      rw [s.ethusdt_linear.2] at hcreate
      obtain ⟨hq, hp, -⟩ := TradeProposal.of_create hcreate
      rw [if_pos ⟨hready, hok⟩, hcreate, Except.toOption] at hproposal
      rw [hcharge, judge_of_proposal shadowCharge riskState hproposal, happroved, shadowCharge, hq,
        hp]
  · rw [if_neg (by simp [hready])] at hgate hproposal
    rw [hcharge, hgate, judge_eq_none hproposal]
    rfl

/-- An intent is of its level, and is charged if it is approved. -/
theorem taken_of_evaluate {s : ShadowModeService} {event : TriggerPriceEvent} {sequence : ℕ}
    {intent : ShadowIntent} (h : s.evaluate level event riskState sequence = .ok intent) :
    intent.levelId = level.levelId ∧ intent.taken = intent.charge.map Charge.taken := by
  simp only [ShadowModeService.evaluate, bind_eq_ok] at h
  obtain ⟨quantized, -, decision, -, hintent⟩ := h
  have hfields := ShadowIntent.create_eq_ok.mp hintent
  unfold ShadowIntent.taken ShadowIntent.charge
  rw [hfields]
  refine ⟨rfl, ?_⟩
  cases decision.1 with
  | false => rfl
  | true => rfl

/-- **The two charges of an entry are equal** exactly if the contract multiplier is one. -/
theorem liveCharge_eq_shadowCharge_iff
    (h : levelProposal instrument limits quantity level = some proposal) (levelId : ℕ) :
    liveCharge levelId proposal = shadowCharge levelId proposal ↔
      instrument.contractMultiplier = 1 := by
  have hpos : proposal.price * proposal.quantity ≠ 0 :=
    (mul_pos proposal.price_pos proposal.quantity_pos).ne'
  simp only [liveCharge, shadowCharge, Charge.mk.injEq, true_and, levelProposal_eq_some h]
  rw [mul_comm proposal.quantity, mul_eq_left₀ hpos]

/-- Over one list of levels. -/
theorem admitted_eq_admitted_iff (instrument : InstrumentSpec) (limits : RiskLimits)
    (quantity : ℚ) (riskState : RiskState) (crossed : List HedgeLevel) :
    admitted RiskState.plus (judge instrument limits quantity liveCharge) riskState crossed =
        admitted RiskState.plus (judge instrument limits quantity shadowCharge) riskState crossed ↔
      instrument.contractMultiplier = 1 ∨
        ∀ level ∈ crossed, judge instrument limits quantity liveCharge riskState level = none := by
  refine Admission.admitted_eq_iff (fun _ _ _ => isSome_judge) ?_
  intro load level _ charge charge' hlive hshadow
  unfold judge at hlive hshadow
  obtain ⟨proposal, hproposal, rfl⟩ := Option.map_eq_some_iff.mp hlive
  obtain ⟨proposal', hproposal', rfl⟩ := Option.map_eq_some_iff.mp hshadow
  obtain rfl := Option.some.inj (hproposal.symm.trans hproposal')
  exact liveCharge_eq_shadowCharge_iff (Option.eq_some_of_filter_eq_some hproposal) level.levelId

end Level

/-! ## The coordinator's loop -/

namespace MultiLevelCoordinator

variable (c : MultiLevelCoordinator)

/-- The same inputs: the open position has the quantity of the shadow service, and no gate stands
    before the entries. -/
structure Mirrors (c : MultiLevelCoordinator) (s : ShadowModeService) : Prop where
  levels_eq : s.levels = c.levels
  instrument_eq : s.instrument = c.instrument
  riskLimits_eq : s.riskLimits = c.riskLimits
  desiredQuantity_eq : s.desiredQuantity = c.optionPosition.matchedQuantity
  optionSpreadOpen : s.optionSpreadOpen = true
  position_open : c.optionPosition.state = .open
  ungated : c.hasEntryGate = false

/-- What the loop over the crossed levels adds to its effective risk state. -/
def charges : List HedgeLevel → RiskState → Memory → List Charge
  | [], _, _ => []
  | level :: rest, riskState, memory =>
    let memory := disarm level memory
    match c.offer memory riskState level with
    | .ok (.submit request proposal) =>
      liveCharge level.levelId proposal ::
        charges rest (riskState.afterEntry proposal) (noteSubmitted level request memory)
    | _ => charges rest riskState memory

/-- The gate of a coordinator. -/
def liveJudge : RiskState → HedgeLevel → Option Charge :=
  judge c.instrument c.riskLimits c.optionPosition.matchedQuantity liveCharge

/-- These levels were crossed, and of them these were submitted. -/
structure Visited (crossed submitted : List ℕ) (m m' : MultiLevelState) : Prop where
  previousPrice_eq : m'.previousPrice = m.previousPrice
  generation_eq : m'.connectionGeneration = m.connectionGeneration
  armed : ∀ levelId, m'.armed levelId = (m.armed levelId && levelId ∉ crossed)
  unsubmitted : ∀ levelId, (m'.submittedOrderIds levelId).isNone =
    ((m.submittedOrderIds levelId).isNone && levelId ∉ submitted)

theorem Visited.refl (m : MultiLevelState) : Visited [] [] m m :=
  ⟨rfl, rfl, fun _ => by simp, fun _ => by simp⟩

variable {level : HedgeLevel} {request : PlaceOrderRequest} {memory : Memory}
  {crossed submitted : List ℕ} {m' : MultiLevelState}

/-- One level that is blocked, and then others. -/
theorem Visited.cons_blocked (h : Visited crossed submitted (disarm level memory).multiLevel m') :
    Visited (level.levelId :: crossed) submitted memory.multiLevel m' := by
  refine ⟨h.previousPrice_eq, h.generation_eq, fun levelId => ?_, h.unsubmitted⟩
  rw [h.armed]
  by_cases hid : levelId = level.levelId
  · simp [disarm, hid]
  · simp [disarm, hid]

/-- One level that is submitted, and then others. -/
theorem Visited.cons_submitted
    (h : Visited crossed submitted (noteSubmitted level request (disarm level memory)).multiLevel
      m') :
    Visited (level.levelId :: crossed) (level.levelId :: submitted) memory.multiLevel m' := by
  refine ⟨h.previousPrice_eq, h.generation_eq, fun levelId => ?_, fun levelId => ?_⟩
  · rw [h.armed]
    by_cases hid : levelId = level.levelId
    · simp [noteSubmitted, disarm, hid]
    · simp [noteSubmitted, disarm, hid]
  · rw [h.unsubmitted]
    by_cases hid : levelId = level.levelId
    · simp [noteSubmitted, disarm, hid]
    · simp [noteSubmitted, disarm, hid]

variable {c} {s : ShadowModeService} {riskState : RiskState}

/-- What a crossed level is offered that was not submitted before. -/
theorem judge_of_offer (hmirrors : c.Mirrors s)
    (hnew : (memory.multiLevel.submittedOrderIds level.levelId).isNone = true) {offer : EntryOffer}
    (h : c.offer memory riskState level = .ok offer) :
    (∃ reasons, offer = .blocked reasons ∧ c.liveJudge riskState level = none) ∨
    ∃ request proposal, offer = .submit request proposal ∧
      request.quantity = proposal.quantity ∧
      c.liveJudge riskState level = some (liveCharge level.levelId proposal) := by
  have hallowed : memory.gateAllows c.hasEntryGate = .ok true := by
    rw [hmirrors.ungated]
    rfl
  have hold : (memory.multiLevel.submittedOrderIds level.levelId).isSome = false := by
    rw [Option.isNone_iff_eq_none.mp hnew]
    rfl
  simp only [MultiLevelCoordinator.offer, bind_eq_ok] at h
  obtain ⟨allowed, hgate, h⟩ := h
  obtain rfl := Except.ok.inj (hallowed.symm.trans hgate)
  by_cases hready : level.state = .ready
  · have hpreflight : c.preflightReasons memory.multiLevel level = [] := by
      simp [preflightReasons, hold, hready, hmirrors.position_open]
    rw [if_neg (by simp), if_neg (by simp [hpreflight])] at h
    exact judge_of_offerEntry hready h
  · have hpreflight : c.preflightReasons memory.multiLevel level =
        ["virtual level is not READY"] := by
      simp [preflightReasons, hold, hready]
    rw [if_neg (by simp), if_pos (by simp [hpreflight])] at h
    obtain rfl := Except.ok.inj h
    refine .inl ⟨_, rfl, judge_eq_none ?_⟩
    unfold levelProposal
    dsimp only
    split
    · rfl
    · exact if_neg (by simp [hready])

/-- **What the loop of the coordinator does**: it submits what its gate admits. -/
theorem runs_visit (hmirrors : c.Mirrors s) {levels : List HedgeLevel}
    (hnodup : (levels.map HedgeLevel.levelId).Nodup)
    (hnew : ∀ level ∈ levels,
      (memory.multiLevel.submittedOrderIds level.levelId).isNone = true)
    {entries : List LevelEntrySubmission} {blocked : List LevelEntryBlock} {p p' : Process}
    {result : MultiLevelTriggerResult}
    (h : Coroutine.Runs Process.handle (c.visit levels riskState entries blocked memory).2
      { p with memory := (c.visit levels riskState entries blocked memory).1 } (.ok result) p') :
    c.charges levels riskState memory = admitted RiskState.plus c.liveJudge riskState levels ∧
      result.entries.map LevelEntrySubmission.taken =
        entries.map LevelEntrySubmission.taken ++
          (admitted RiskState.plus c.liveJudge riskState levels).map Charge.taken ∧
      Visited (levels.map HedgeLevel.levelId)
        ((admitted RiskState.plus c.liveJudge riskState levels).map Charge.levelId)
        memory.multiLevel p'.memory.multiLevel := by
  induction levels generalizing riskState entries blocked memory p with
  | nil =>
    obtain ⟨hresult, rfl⟩ := Coroutine.runs_pure.mp h
    obtain rfl := Except.ok.inj hresult
    exact ⟨rfl, (List.append_nil _).symm, .refl _⟩
  | cons level rest ih =>
    rw [List.map_cons, List.nodup_cons] at hnodup
    have hnew : ∀ l ∈ level :: rest,
        ((disarm level memory).multiLevel.submittedOrderIds l.levelId).isNone = true := hnew
    have hnewRest := fun l hl => hnew l (List.mem_cons_of_mem _ hl)
    unfold visit at h
    unfold charges
    dsimp only at h ⊢
    cases hoffer : c.offer (disarm level memory) riskState level with
    | error failure =>
      simp only [hoffer] at h
      obtain ⟨hraised, -⟩ := Coroutine.runs_throw.mp h
      exact absurd hraised (by simp)
    | ok offer =>
      rcases judge_of_offer hmirrors (hnew level (List.mem_cons_self ..)) hoffer with
        ⟨reasons, rfl, hjudge⟩ | ⟨request, proposal, rfl, hquantity, hjudge⟩
      · simp only [hoffer] at h
        obtain ⟨hcharges, hentries, hvisited⟩ := ih hnodup.2 hnewRest h
        rw [admitted_of_refused hjudge]
        exact ⟨hcharges, hentries, hvisited.cons_blocked⟩
      · simp only [hoffer] at h
        rcases Coroutine.runs_bind.mp h with
          ⟨snapshot, p₁, hsubmitted, hrest⟩ | ⟨failure, -, hraised⟩
        · have hmemory := memory_of_runs_onPorts hsubmitted
          have hnewNoted : ∀ l ∈ rest, (p₁.memory.multiLevel.submittedOrderIds l.levelId).isNone =
              true := by
            intro l hl
            have hother : l.levelId ≠ level.levelId := fun hid =>
              hnodup.1 (hid ▸ List.mem_map_of_mem hl)
            rw [hmemory]
            simpa [noteSubmitted, hother] using hnewRest l hl
          obtain ⟨hcharges, hentries, hvisited⟩ := ih hnodup.2 hnewNoted (runs_sync.mp hrest)
          rw [hmemory] at hcharges hvisited
          rw [afterEntry_eq riskState level.levelId] at hcharges hentries hvisited
          rw [admitted_of_charged hjudge]
          refine ⟨?_, ?_, hvisited.cons_submitted⟩
          · rw [← afterEntry_eq riskState level.levelId] at hcharges ⊢
            exact congrArg _ hcharges
          · rw [hentries]
            simp [LevelEntrySubmission.taken, Charge.taken, liveCharge, hquantity]
        · exact absurd hraised (by simp)

end MultiLevelCoordinator

/-! ## The shadow service's loop -/

namespace ShadowModeService

/-- The gate of the service. -/
def shadowJudge (s : ShadowModeService) : RiskState → HedgeLevel → Option Charge :=
  judge s.instrument s.riskLimits s.desiredQuantity shadowCharge

/-- These levels were crossed, and of them these were decided. -/
structure Visited (crossed decided : List ℕ) (state state' : ShadowState) : Prop where
  previousPrice_eq : state'.previousPrice = state.previousPrice
  generation_eq : state'.connectionGeneration = state.connectionGeneration
  armed : ∀ levelId, state'.armed levelId = (state.armed levelId && levelId ∉ crossed)
  decided : ∀ levelId, levelId ∈ state'.decidedLevels ↔
    levelId ∈ state.decidedLevels ∨ levelId ∈ decided

theorem Visited.refl (state : ShadowState) : Visited [] [] state state :=
  ⟨rfl, rfl, fun _ => by simp, fun _ => by simp⟩

variable {s : ShadowModeService} {level : HedgeLevel} {intent : ShadowIntent}
  {crossed decided : List ℕ} {state state' : ShadowState}

/-- One level that is turned down, and then others. -/
theorem Visited.cons_refused (h : Visited crossed decided (s.note level intent state) state') :
    Visited (level.levelId :: crossed) decided state state' := by
  refine ⟨h.previousPrice_eq, h.generation_eq, fun levelId => ?_, h.decided⟩
  rw [h.armed]
  by_cases hid : levelId = level.levelId
  · simp [note, hid]
  · simp [note, hid]

/-- One level that is approved, and then others. -/
theorem Visited.cons_decided {noted : ShadowState} (hnoted : noted = s.note level intent state)
    (h : Visited crossed decided
      { noted with decidedLevels := insert level.levelId noted.decidedLevels } state') :
    Visited (level.levelId :: crossed) (level.levelId :: decided) state state' := by
  subst hnoted
  refine ⟨h.previousPrice_eq, h.generation_eq, fun levelId => ?_, fun levelId => ?_⟩
  · rw [h.armed]
    by_cases hid : levelId = level.levelId
    · simp [note, hid]
    · simp [note, hid]
  · rw [h.decided]
    simp only [note, Finset.mem_insert, List.mem_cons]
    tauto

/-- **What the loop of the shadow service does**: it approves what its gate admits. -/
theorem visit_spec (hopen : s.optionSpreadOpen = true) {event : TriggerPriceEvent}
    {levels : List HedgeLevel} {riskState : RiskState} {intents : List ShadowIntent}
    {result : ShadowTriggerResult}
    (h : s.visit event levels riskState intents state = .ok (result, state')) :
    result.intents.filterMap ShadowIntent.charge =
        intents.filterMap ShadowIntent.charge ++
          admitted RiskState.plus s.shadowJudge riskState levels ∧
      result.intents.filterMap ShadowIntent.taken =
        intents.filterMap ShadowIntent.taken ++
          (admitted RiskState.plus s.shadowJudge riskState levels).map Charge.taken ∧
      Visited (levels.map HedgeLevel.levelId)
        ((admitted RiskState.plus s.shadowJudge riskState levels).map Charge.levelId)
        state state' := by
  induction levels generalizing riskState intents state with
  | nil =>
    obtain ⟨rfl, rfl⟩ := Prod.mk.inj (Except.ok.inj h)
    exact ⟨(List.append_nil _).symm, (List.append_nil _).symm, .refl _⟩
  | cons level rest ih =>
    simp only [visit, bind_eq_ok] at h
    obtain ⟨intent, hintent, h⟩ := h
    have hcharge : intent.charge = s.shadowJudge riskState level :=
      charge_of_evaluate hopen hintent
    obtain ⟨hlevel, htaken⟩ := taken_of_evaluate hintent
    split_ifs at h with happroved
    · split at h
      · rename_i quantity entryPrice hquantity hprice
        have hcharged : intent.charge =
            some { levelId := level.levelId, quantity, notional := quantity * entryPrice } := by
          simp only [ShadowIntent.charge, happroved, if_true, hquantity, hprice, hlevel]
        obtain ⟨hq, hp⟩ := ShadowIntent.amounts_nonneg hquantity hprice
        rw [bind_eq_ok] at h
        obtain ⟨charged, hreplaced, h⟩ := h
        have hplus := riskState.replaceCharged_eq
          { levelId := level.levelId, quantity, notional := quantity * entryPrice } hq
          (mul_nonneg hq hp)
        obtain rfl := Except.ok.inj (hplus.symm.trans hreplaced)
        rw [hcharged] at htaken
        obtain ⟨hcharges, hintents, hvisited⟩ := ih h
        rw [admitted_of_charged (hcharge.symm.trans hcharged)]
        refine ⟨?_, ?_, hvisited.cons_decided rfl⟩
        · rw [hcharges, List.filterMap_append, List.append_assoc]
          simp [hcharged]
        · rw [hintents, List.filterMap_append, List.append_assoc]
          simp [htaken]
      · exact absurd h (by simp [throw, throwThe, MonadExceptOf.throw])
    · have hnone : intent.charge = none := by
        unfold ShadowIntent.charge
        exact if_neg happroved
      rw [hnone] at htaken
      obtain ⟨hcharges, hintents, hvisited⟩ := ih h
      rw [admitted_of_refused (hcharge.symm.trans hnone)]
      refine ⟨?_, ?_, hvisited.cons_refused⟩
      · rw [hcharges, List.filterMap_append]
        simp [hnone]
      · rw [hintents, List.filterMap_append]
        simp [htaken]

end ShadowModeService

end CreditHedge
