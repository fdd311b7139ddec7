import CreditHedge.Domain.InstrumentRules

/-!
# The risk gate

`domain/risk.py`: a veto over trade proposals. It approves a proposal as it is or not at all.

The constructors' checks are fields. `TradeProposal` is the one that is built from computed
values, so its constructor is written out and can refuse. So is that of `RiskState`, for a state
that is read from a file.
-/

set_option autoImplicit false

namespace CreditHedge

structure TradeProposal where
  symbol : String
  side : OrderSide
  quantity : ℚ
  price : ℚ
  notional : ℚ
  projectedStopLoss : ℚ
  opensNewLevel : Bool
  symbol_text : isBlank symbol = false
  quantity_pos : 0 < quantity
  price_pos : 0 < price
  notional_pos : 0 < notional
  projectedStopLoss_nonneg : 0 ≤ projectedStopLoss

/-- `TradeProposal.__post_init__`. -/
def TradeProposal.create (symbol : String) (side : OrderSide)
    (quantity price notional projectedStopLoss : ℚ) (opensNewLevel : Bool) :
    Except Failure TradeProposal :=
  if hs : isBlank symbol = true then .error (.valueError "symbol cannot be empty")
  else if hq : quantity ≤ 0 then .error (.valueError "quantity must be positive")
  else if hp : price ≤ 0 then .error (.valueError "price must be positive")
  else if hn : notional ≤ 0 then .error (.valueError "notional must be positive")
  else if hl : projectedStopLoss < 0 then
    .error (.valueError "projected stop loss cannot be negative")
  else
    .ok
      { symbol, side, quantity, price, notional, projectedStopLoss, opensNewLevel
        symbol_text := text_of_not_blank hs
        quantity_pos := pos_of_not_nonpos hq
        price_pos := pos_of_not_nonpos hp
        notional_pos := pos_of_not_nonpos hn
        projectedStopLoss_nonneg := nonneg_of_not_neg hl }

/-- A proposal that was created is of the values it was created from. -/
theorem TradeProposal.of_create {symbol : String} {side : OrderSide}
    {quantity price notional projectedStopLoss : ℚ} {opensNewLevel : Bool}
    {proposal : TradeProposal}
    (h : TradeProposal.create symbol side quantity price notional projectedStopLoss opensNewLevel =
      .ok proposal) :
    proposal.quantity = quantity ∧ proposal.price = price ∧ proposal.notional = notional := by
  unfold TradeProposal.create at h
  split_ifs at h
  obtain rfl := Except.ok.inj h
  exact ⟨rfl, rfl, rfl⟩

theorem TradeProposal.opensNewLevel_of_create {symbol : String} {side : OrderSide}
    {quantity price notional projectedStopLoss : ℚ} {opensNewLevel : Bool}
    {proposal : TradeProposal}
    (h : TradeProposal.create symbol side quantity price notional projectedStopLoss opensNewLevel =
      .ok proposal) :
    proposal.opensNewLevel = opensNewLevel := by
  unfold TradeProposal.create at h
  split_ifs at h
  obtain rfl := Except.ok.inj h
  rfl

structure RiskState where
  currentPerpQuantity : ℚ
  currentPerpNotional : ℚ
  postTradeMarginUsage : ℚ
  postTradeLiquidationDistance : ℚ
  confirmedRecoveryDebt : ℚ
  realizedCycleLoss : ℚ
  dailyRealizedLoss : ℚ
  entriesForLevel : ℕ
  activeLevels : ℕ
  orderRequestsLastMinute : ℕ
  consecutiveReconciliationFailures : ℕ
  marketDataFresh : Bool
  reconciliationSucceeded : Bool
  currentPerpQuantity_nonneg : 0 ≤ currentPerpQuantity
  currentPerpNotional_nonneg : 0 ≤ currentPerpNotional
  postTradeMarginUsage_nonneg : 0 ≤ postTradeMarginUsage
  postTradeLiquidationDistance_nonneg : 0 ≤ postTradeLiquidationDistance
  confirmedRecoveryDebt_nonneg : 0 ≤ confirmedRecoveryDebt
  realizedCycleLoss_nonneg : 0 ≤ realizedCycleLoss
  dailyRealizedLoss_nonneg : 0 ≤ dailyRealizedLoss

/-- `_nonnegative`. -/
def nonnegative (field : String) (value : ℚ) : Except Failure { value : ℚ // 0 ≤ value } :=
  if h : value < 0 then .error (.valueError s!"{field} cannot be negative")
  else .ok ⟨value, nonneg_of_not_neg h⟩

@[simp] theorem nonnegative_of_nonneg (field : String) {value : ℚ} (h : 0 ≤ value) :
    nonnegative field value = .ok ⟨value, h⟩ := dif_neg (not_lt.mpr h)

/-- `RiskState.__post_init__`. -/
def RiskState.create (currentPerpQuantity currentPerpNotional postTradeMarginUsage
    postTradeLiquidationDistance confirmedRecoveryDebt realizedCycleLoss dailyRealizedLoss : ℚ)
    (entriesForLevel activeLevels orderRequestsLastMinute consecutiveReconciliationFailures : ℤ)
    (marketDataFresh reconciliationSucceeded : Bool) : Except Failure RiskState := do
  let quantity ← nonnegative "current perp quantity" currentPerpQuantity
  let notional ← nonnegative "current perp notional" currentPerpNotional
  let marginUsage ← nonnegative "post trade margin usage" postTradeMarginUsage
  let liquidationDistance ←
    nonnegative "post trade liquidation distance" postTradeLiquidationDistance
  let recoveryDebt ← nonnegative "confirmed recovery debt" confirmedRecoveryDebt
  let cycleLoss ← nonnegative "realized cycle loss" realizedCycleLoss
  let dailyLoss ← nonnegative "daily realized loss" dailyRealizedLoss
  let entriesForLevel ← natural "entries for level cannot be negative" entriesForLevel
  let activeLevels ← natural "active levels cannot be negative" activeLevels
  let orderRequestsLastMinute ←
    natural "order requests last minute cannot be negative" orderRequestsLastMinute
  let consecutiveReconciliationFailures ←
    natural "consecutive reconciliation failures cannot be negative"
      consecutiveReconciliationFailures
  pure
    { currentPerpQuantity := quantity.1
      currentPerpNotional := notional.1
      postTradeMarginUsage := marginUsage.1
      postTradeLiquidationDistance := liquidationDistance.1
      confirmedRecoveryDebt := recoveryDebt.1
      realizedCycleLoss := cycleLoss.1
      dailyRealizedLoss := dailyLoss.1
      entriesForLevel, activeLevels, orderRequestsLastMinute, consecutiveReconciliationFailures
      marketDataFresh, reconciliationSucceeded
      currentPerpQuantity_nonneg := quantity.2
      currentPerpNotional_nonneg := notional.2
      postTradeMarginUsage_nonneg := marginUsage.2
      postTradeLiquidationDistance_nonneg := liquidationDistance.2
      confirmedRecoveryDebt_nonneg := recoveryDebt.2
      realizedCycleLoss_nonneg := cycleLoss.2
      dailyRealizedLoss_nonneg := dailyLoss.2 }

/-- A state passes its own checks. -/
theorem RiskState.create_self (state : RiskState) :
    RiskState.create state.currentPerpQuantity state.currentPerpNotional
      state.postTradeMarginUsage state.postTradeLiquidationDistance state.confirmedRecoveryDebt
      state.realizedCycleLoss state.dailyRealizedLoss state.entriesForLevel state.activeLevels
      state.orderRequestsLastMinute state.consecutiveReconciliationFailures
      state.marketDataFresh state.reconciliationSucceeded = .ok state := by
  unfold RiskState.create
  rw [nonnegative_of_nonneg _ state.currentPerpQuantity_nonneg,
    nonnegative_of_nonneg _ state.currentPerpNotional_nonneg,
    nonnegative_of_nonneg _ state.postTradeMarginUsage_nonneg,
    nonnegative_of_nonneg _ state.postTradeLiquidationDistance_nonneg,
    nonnegative_of_nonneg _ state.confirmedRecoveryDebt_nonneg,
    nonnegative_of_nonneg _ state.realizedCycleLoss_nonneg,
    nonnegative_of_nonneg _ state.dailyRealizedLoss_nonneg]
  simp only [ok_bind, natural_natCast]
  rfl

structure RiskLimits where
  maximumPerpQuantity : ℚ
  maximumPerpNotional : ℚ
  maximumMarginUsage : ℚ
  minimumLiquidationDistance : ℚ
  maximumRecoveryDebt : ℚ
  maximumProjectedStopLoss : ℚ
  maximumRealizedCycleLoss : ℚ
  maximumDailyRealizedLoss : ℚ
  maximumEntriesPerLevel : ℕ
  maximumActiveLevels : ℕ
  maximumOrderRequestsPerMinute : ℕ
  maximumReconciliationFailures : ℕ
  maximumPerpQuantity_pos : 0 < maximumPerpQuantity
  maximumPerpNotional_pos : 0 < maximumPerpNotional
  maximumMarginUsage_pos : 0 < maximumMarginUsage
  minimumLiquidationDistance_pos : 0 < minimumLiquidationDistance
  maximumRecoveryDebt_pos : 0 < maximumRecoveryDebt
  maximumProjectedStopLoss_pos : 0 < maximumProjectedStopLoss
  maximumRealizedCycleLoss_pos : 0 < maximumRealizedCycleLoss
  maximumDailyRealizedLoss_pos : 0 < maximumDailyRealizedLoss
  maximumEntriesPerLevel_pos : 0 < maximumEntriesPerLevel
  maximumActiveLevels_pos : 0 < maximumActiveLevels
  maximumOrderRequestsPerMinute_pos : 0 < maximumOrderRequestsPerMinute
  maximumReconciliationFailures_pos : 0 < maximumReconciliationFailures

def wideLimits : RiskLimits where
  maximumPerpQuantity := 10000
  maximumPerpNotional := 100000000
  maximumMarginUsage := 1
  minimumLiquidationDistance := 1 / 10
  maximumRecoveryDebt := 10000
  maximumProjectedStopLoss := 10000
  maximumRealizedCycleLoss := 10000
  maximumDailyRealizedLoss := 10000
  maximumEntriesPerLevel := 10
  maximumActiveLevels := 10
  maximumOrderRequestsPerMinute := 10
  maximumReconciliationFailures := 3
  maximumPerpQuantity_pos := by decide +kernel
  maximumPerpNotional_pos := by decide +kernel
  maximumMarginUsage_pos := unit_pos
  minimumLiquidationDistance_pos := by decide +kernel
  maximumRecoveryDebt_pos := by decide +kernel
  maximumProjectedStopLoss_pos := by decide +kernel
  maximumRealizedCycleLoss_pos := by decide +kernel
  maximumDailyRealizedLoss_pos := by decide +kernel
  maximumEntriesPerLevel_pos := by decide +kernel
  maximumActiveLevels_pos := by decide +kernel
  maximumOrderRequestsPerMinute_pos := by decide +kernel
  maximumReconciliationFailures_pos := by decide +kernel

/-- Nothing is open and nothing is wrong. -/
def calmState : RiskState where
  currentPerpQuantity := 0
  currentPerpNotional := 0
  postTradeMarginUsage := 0
  postTradeLiquidationDistance := 1
  confirmedRecoveryDebt := 0
  realizedCycleLoss := 0
  dailyRealizedLoss := 0
  entriesForLevel := 0
  activeLevels := 0
  orderRequestsLastMinute := 0
  consecutiveReconciliationFailures := 0
  marketDataFresh := true
  reconciliationSucceeded := true
  currentPerpQuantity_nonneg := le_rfl
  currentPerpNotional_nonneg := le_rfl
  postTradeMarginUsage_nonneg := le_rfl
  postTradeLiquidationDistance_nonneg := by decide +kernel
  confirmedRecoveryDebt_nonneg := le_rfl
  realizedCycleLoss_nonneg := le_rfl
  dailyRealizedLoss_nonneg := le_rfl

structure RiskDecision where
  approved : Bool
  approvedQuantity : Option ℚ
  reasons : List String
  requiresOperatorAck : Bool
  deriving DecidableEq, Repr

namespace RiskEngine

/-- The reasons an operator has to acknowledge. -/
def operatorReasons : List String :=
  ["maximum realized cycle loss exceeded", "maximum daily realized loss exceeded",
    "reconciliation has not succeeded"]

/-- The vetoes, in the order the source collects them. -/
def reasons (proposal : TradeProposal) (state : RiskState) (limits : RiskLimits) : List String :=
  reportIf (limits.maximumPerpQuantity < state.currentPerpQuantity + proposal.quantity)
      "maximum perpetual quantity exceeded" ++
    reportIf (limits.maximumPerpNotional < state.currentPerpNotional + proposal.notional)
      "maximum perpetual notional exceeded" ++
    reportIf (limits.maximumMarginUsage < state.postTradeMarginUsage)
      "maximum margin usage exceeded" ++
    reportIf (state.postTradeLiquidationDistance < limits.minimumLiquidationDistance)
      "minimum liquidation distance breached" ++
    reportIf (limits.maximumRecoveryDebt < state.confirmedRecoveryDebt)
      "maximum recovery debt exceeded" ++
    reportIf (limits.maximumProjectedStopLoss < proposal.projectedStopLoss)
      "maximum projected stop loss exceeded" ++
    reportIf (limits.maximumRealizedCycleLoss < state.realizedCycleLoss)
      "maximum realized cycle loss exceeded" ++
    reportIf (limits.maximumDailyRealizedLoss < state.dailyRealizedLoss)
      "maximum daily realized loss exceeded" ++
    reportIf (limits.maximumEntriesPerLevel ≤ state.entriesForLevel)
      "maximum entries per level reached" ++
    reportIf (proposal.opensNewLevel = true ∧ limits.maximumActiveLevels ≤ state.activeLevels)
      "maximum active levels reached" ++
    reportIf (limits.maximumOrderRequestsPerMinute ≤ state.orderRequestsLastMinute)
      "maximum order request rate reached" ++
    reportIf (limits.maximumReconciliationFailures ≤ state.consecutiveReconciliationFailures)
      "maximum reconciliation failures reached" ++
    reportIf (state.marketDataFresh = false) "market data is stale" ++
    reportIf (state.reconciliationSucceeded = false) "reconciliation has not succeeded"

def evaluate (proposal : TradeProposal) (state : RiskState) (limits : RiskLimits) :
    RiskDecision :=
  let reasons := reasons proposal state limits
  { approved := reasons.isEmpty
    approvedQuantity := if reasons.isEmpty then some proposal.quantity else none
    reasons
    requiresOperatorAck := reasons.any (operatorReasons.contains ·) }

@[simp] theorem evaluate_reasons (proposal : TradeProposal) (state : RiskState)
    (limits : RiskLimits) :
    (evaluate proposal state limits).reasons = reasons proposal state limits := by
  unfold evaluate
  rfl

theorem approved_iff {proposal : TradeProposal} {state : RiskState} {limits : RiskLimits} :
    (evaluate proposal state limits).approved = true ↔ reasons proposal state limits = [] := by
  unfold evaluate
  generalize reasons proposal state limits = vetoes
  simp only [List.isEmpty_iff]

/-- It never resizes: what is approved is the proposal's own quantity. -/
theorem approvedQuantity_of_approved {proposal : TradeProposal} {state : RiskState}
    {limits : RiskLimits} (h : (evaluate proposal state limits).approved = true) :
    (evaluate proposal state limits).approvedQuantity = some proposal.quantity := by
  unfold evaluate at h ⊢
  generalize reasons proposal state limits = vetoes at h ⊢
  simp only at h ⊢
  rw [if_pos h]

end RiskEngine

/-- `replace(state, …)` after an entry: its quantity, notional, level and request are counted. -/
def RiskState.afterEntry (state : RiskState) (proposal : TradeProposal) : RiskState :=
  { state with
    currentPerpQuantity := state.currentPerpQuantity + proposal.quantity
    currentPerpNotional := state.currentPerpNotional + proposal.notional
    activeLevels := state.activeLevels + 1
    orderRequestsLastMinute := state.orderRequestsLastMinute + 1
    currentPerpQuantity_nonneg :=
      add_nonneg state.currentPerpQuantity_nonneg proposal.quantity_pos.le
    currentPerpNotional_nonneg :=
      add_nonneg state.currentPerpNotional_nonneg proposal.notional_pos.le }

end CreditHedge
