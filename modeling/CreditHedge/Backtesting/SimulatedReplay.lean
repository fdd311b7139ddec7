import CreditHedge.Backtesting.SimulatedMoves
import Mathlib.Algebra.BigOperators.Group.List.Basic
import Mathlib.Algebra.Order.BigOperators.Group.List
import Mathlib.Algebra.Order.Field.Rat
import Mathlib.Tactic.Linarith
import Mathlib.Tactic.Ring

/-!
# The replay and the metrics

`replay_simulated_financials` reads the event log and `SimulatedExchange.metrics` the accounts. Both
count the same fills, and they agree on everything but one fee: a Buy that is neither a take profit
nor a stop adds to the exit fees of the exchange, and to no fee of the replay. The two agree exactly
when no such fill has had a fee (`replay_agrees_iff`).
-/

set_option autoImplicit false

namespace CreditHedge

namespace SimulatedExchange

/-! ## The replay -/

/-- The local variables of `replay_simulated_financials`. -/
structure ReplayState where
  positionQuantity : ℚ := 0
  positionAverage : ℚ := 0
  grossPnl : ℚ := 0
  entryFees : ℚ := 0
  tpFees : ℚ := 0
  stopFees : ℚ := 0
  funding : ℚ := 0
  deriving DecidableEq, Repr

/-- One round of the loop. -/
def replayPayload (r : ReplayState) : SimulatedPayload → ReplayState
  | .fundingApplied _ payment => { r with funding := r.funding + payment }
  | .execution _ _ price quantity fee .sell _ =>
    let totalNotional := r.positionAverage * r.positionQuantity + price * quantity
    let positionQuantity := r.positionQuantity + quantity
    { r with
      positionQuantity
      positionAverage := totalNotional / positionQuantity
      entryFees := r.entryFees + fee }
  | .execution _ _ price quantity fee .buy role =>
    let closed := min quantity r.positionQuantity
    let positionQuantity := r.positionQuantity - closed
    { r with
      grossPnl := r.grossPnl + (r.positionAverage - price) * closed
      positionQuantity
      positionAverage := if positionQuantity = 0 then 0 else r.positionAverage
      tpFees := if role = .hedgeTp then r.tpFees + fee else r.tpFees
      stopFees := if role = .hedgeStop then r.stopFees + fee else r.stopFees }
  | _ => r

structure ReplayedSimulatedFinancials where
  grossTradingPnl : ℚ
  entryFees : ℚ
  tpFees : ℚ
  stopFees : ℚ
  funding : ℚ
  netHedgePnl : ℚ
  deriving DecidableEq, Repr

def replaySimulatedFinancials (events : List SimulatedEvent) : ReplayedSimulatedFinancials :=
  let r := events.foldl (fun r event => replayPayload r event.payload) {}
  let totalFees := r.entryFees + r.tpFees + r.stopFees
  { grossTradingPnl := r.grossPnl
    entryFees := r.entryFees
    tpFees := r.tpFees
    stopFees := r.stopFees
    funding := r.funding
    netHedgePnl := r.grossPnl + r.funding - totalFees }

/-! ## The metrics -/

structure SimulatedMetrics where
  mode : String
  entryFees : ℚ
  exitFees : ℚ
  tpFees : ℚ
  stopFees : ℚ
  funding : ℚ
  grossTradingPnl : ℚ
  netHedgePnl : ℚ
  entrySlippage : ℚ
  stopSlippage : ℚ
  spreadCost : ℚ
  rejectionCount : ℕ
  partialFillCount : ℕ
  duplicateEventCount : ℕ
  maximumStaleDurationMs : ℤ
  publicDisconnectCount : ℕ
  maximumUnprotectedMs : ℤ
  deriving DecidableEq, Repr

variable {σ : Type}

def metrics (s : SimulatedExchange σ) : SimulatedMetrics where
  mode := "SIMULATED"
  entryFees := s.accounts.entryFees
  exitFees := s.accounts.exitFees
  tpFees := s.accounts.tpFees
  stopFees := s.accounts.stopFees
  funding := s.accounts.funding
  grossTradingPnl := s.accounts.realizedPnl
  netHedgePnl := s.accounts.realizedPnl + s.accounts.funding - s.accounts.entryFees -
    s.accounts.exitFees
  entrySlippage := s.attribution.entrySlippage
  stopSlippage := s.attribution.stopSlippage
  spreadCost := s.attribution.spreadCost
  rejectionCount := s.counts.rejectionCount
  partialFillCount := s.counts.partialFillCount
  duplicateEventCount := s.counts.duplicateEventCount
  maximumStaleDurationMs := s.currentMaximumStaleDuration
  publicDisconnectCount := s.counts.publicDisconnectCount
  maximumUnprotectedMs := s.currentMaximumUnprotected

/-- The replay of the log returns what the metrics say. -/
structure ReplayAgrees (s : SimulatedExchange σ) : Prop where
  grossTradingPnl : (replaySimulatedFinancials s.eventLog).grossTradingPnl =
    s.metrics.grossTradingPnl
  entryFees : (replaySimulatedFinancials s.eventLog).entryFees = s.metrics.entryFees
  tpFees : (replaySimulatedFinancials s.eventLog).tpFees = s.metrics.tpFees
  stopFees : (replaySimulatedFinancials s.eventLog).stopFees = s.metrics.stopFees
  funding : (replaySimulatedFinancials s.eventLog).funding = s.metrics.funding
  netHedgePnl : (replaySimulatedFinancials s.eventLog).netHedgePnl = s.metrics.netHedgePnl

/-- A Buy that is neither a take profit nor a stop: an emergency close, or an order of another
    role. -/
def IsOtherExit (e : ExecutionUpdate) : Prop :=
  e.side = .buy ∧ ¬ HasRole e.orderLinkId .hedgeTp ∧ ¬ HasRole e.orderLinkId .hedgeStop

instance (e : ExecutionUpdate) : Decidable (IsOtherExit e) := inferInstanceAs (Decidable (_ ∧ _))

/-- The fees the replay does not count. -/
def otherExitFees (executions : List ExecutionUpdate) : ℚ :=
  ((executions.filter fun e => IsOtherExit e).map fun e => e.fee).sum

/-! ## What the two have in common -/

/-- The replay sees the financial payloads only. -/
theorem replay_eq_ledger (events : List SimulatedEvent) (r : ReplayState) :
    events.foldl (fun r event => replayPayload r event.payload) r =
      (ledger events).foldl replayPayload r := by
  induction events generalizing r with
  | nil => rfl
  | cons event events ih =>
    unfold ledger at ih ⊢
    rw [List.foldl_cons, List.map_cons, ih]
    cases hpayload : event.payload with
    | fundingApplied rate payment => rfl
    | execution executionId orderLinkId price quantity fee side role => rfl
    | _ => rfl

/-- The accounts as the replay has them. -/
def replayOf (a : HedgeAccounts) : ReplayState where
  positionQuantity := a.positionQuantity
  positionAverage := a.positionAveragePrice
  grossPnl := a.realizedPnl
  entryFees := a.entryFees
  tpFees := a.tpFees
  stopFees := a.stopFees
  funding := a.funding

/-- **One fill, counted twice.** -/
theorem replayPayload_execution (a : HedgeAccounts) (e : ExecutionUpdate) (role : ClientOrderRole) :
    replayPayload (replayOf a) (executionPayload e role) = replayOf (applyPosition a e role) := by
  unfold executionPayload applyPosition
  cases e.side <;> rfl

/-- The exit fees of the exchange after a fill. -/
theorem exitFees_applyPosition (a : HedgeAccounts) {e : ExecutionUpdate} {role : ClientOrderRole}
    (hrole : HasRole e.orderLinkId role) :
    (applyPosition a e role).exitFees - (applyPosition a e role).tpFees -
        (applyPosition a e role).stopFees =
      a.exitFees - a.tpFees - a.stopFees + if IsOtherExit e then e.fee else 0 := by
  have hother : IsOtherExit e ↔ e.side = .buy ∧ role ≠ .hedgeTp ∧ role ≠ .hedgeStop := by
    refine and_congr_right fun _ => and_congr ?_ ?_
    · exact not_congr ⟨fun h => hrole.unique h, fun h => h ▸ hrole⟩
    · exact not_congr ⟨fun h => hrole.unique h, fun h => h ▸ hrole⟩
  unfold applyPosition
  cases hside : e.side with
  | sell =>
    have hnot : ¬ IsOtherExit e := fun h => absurd (hside.symm.trans h.1) (by simp)
    rw [if_neg hnot, add_zero]
  | buy =>
    by_cases hisOther : IsOtherExit e
    · obtain ⟨-, htp, hstop⟩ := hother.mp hisOther
      rw [if_pos hisOther]
      dsimp only
      rw [if_neg htp, if_neg hstop]
      ring
    · rw [if_neg hisOther]
      dsimp only
      -- The fee is that of the take profit or of the stop.
      have hcounted : role = .hedgeTp ∨ role = .hedgeStop := by
        by_contra hneither
        rw [not_or] at hneither
        exact hisOther (hother.mpr ⟨hside, hneither⟩)
      rcases hcounted with rfl | rfl
      · rw [if_pos rfl, if_neg (by simp)]
        ring
      · rw [if_neg (by simp), if_pos rfl]
        ring

/-- The accounts are what a replay of the ledger finds, and the exit fees are what it misses. -/
structure Replayed (s : SimulatedExchange σ) : Prop where
  ledger : (ledger s.eventLog).foldl replayPayload {} = replayOf s.accounts
  exitFees : s.accounts.exitFees - s.accounts.tpFees - s.accounts.stopFees =
    otherExitFees s.executions
  fees : ∀ e ∈ s.executions, 0 ≤ e.fee

theorem otherExitFees_append (es : List ExecutionUpdate) (e : ExecutionUpdate) :
    otherExitFees (es ++ [e]) = otherExitFees es + if IsOtherExit e then e.fee else 0 := by
  unfold otherExitFees
  rw [List.filter_append, List.map_append, List.sum_append]
  by_cases h : IsOtherExit e <;> simp [h]

variable {sim : Simulator σ} {conditions : Conditions} {s s' : SimulatedExchange σ}

theorem replayed_move (hmove : Move sim conditions s s') (h : Replayed s) :
    Replayed s' := by
  cases hmove with
  | quiet hquiet =>
    refine ⟨?_, ?_, ?_⟩
    · rw [hquiet.ledger, hquiet.accounts]
      exact h.ledger
    · rw [hquiet.accounts, hquiet.executions]
      exact h.exitFees
    · rw [hquiet.executions]
      exact h.fees
  | accept request partialPlanned _ => exact ⟨h.ledger, h.exitFees, h.fees⟩
  | change _ _ => exact ⟨h.ledger, h.exitFees, h.fees⟩
  | drain _ => exact ⟨h.ledger, h.exitFees, h.fees⟩
  | fund rate =>
    refine ⟨?_, h.exitFees, h.fees⟩
    rw [ledger_record_financial _ rfl, List.foldl_append]
    exact congrArg (fun r => replayPayload r
      (.fundingApplied rate (s.accounts.positionQuantity * s.marketPrice * rate))) h.ledger
  | @fill order execution role rng firstAvailable duplicated hfill =>
    have hresult := fillResult s rng order execution firstAvailable role duplicated
    refine ⟨?_, ?_, ?_⟩
    · rw [hresult.ledger, hresult.accounts, List.foldl_append, h.ledger]
      exact replayPayload_execution s.accounts execution role
    · rw [hresult.accounts, hresult.executions, exitFees_applyPosition _ hfill.hasRole, h.exitFees,
        otherExitFees_append]
    · rw [hresult.executions]
      exact List.forall_mem_append.mpr ⟨h.fees, List.forall_mem_singleton.mpr hfill.fee⟩

theorem replayed_create {initialPrice walletBalance : ℚ} {seed : σ}
    {faultInjector : Option FaultInjector}
    (h : create sim initialPrice seed walletBalance faultInjector = .ok s) : Replayed s := by
  simp only [create, bind_unit_eq_ok] at h
  obtain ⟨-, -, h⟩ := h
  obtain rfl := Except.ok.inj h
  exact ⟨rfl, by simp [otherExitFees], by simp⟩

/-- The replay, in terms of the accounts. -/
theorem Replayed.replay_eq (h : Replayed s) :
    replaySimulatedFinancials s.eventLog =
      { grossTradingPnl := s.accounts.realizedPnl
        entryFees := s.accounts.entryFees
        tpFees := s.accounts.tpFees
        stopFees := s.accounts.stopFees
        funding := s.accounts.funding
        netHedgePnl := s.accounts.realizedPnl + s.accounts.funding -
          (s.accounts.entryFees + s.accounts.tpFees + s.accounts.stopFees) } := by
  unfold replaySimulatedFinancials
  rw [replay_eq_ledger, h.ledger]
  rfl

theorem otherExitFees_eq_zero {executions : List ExecutionUpdate}
    (hfees : ∀ e ∈ executions, 0 ≤ e.fee) :
    otherExitFees executions = 0 ↔ ∀ e ∈ executions, IsOtherExit e → e.fee = 0 := by
  have hnonneg : ∀ fee ∈ (executions.filter fun e => IsOtherExit e).map (fun e => e.fee),
      0 ≤ fee := by
    intro fee hfee
    obtain ⟨e, he, rfl⟩ := List.mem_map.mp hfee
    exact hfees e (List.mem_filter.mp he).1
  unfold otherExitFees
  constructor
  · intro h e he hother
    exact List.all_zero_of_le_zero_le_of_sum_eq_zero hnonneg h
      (List.mem_map_of_mem (List.mem_filter.mpr ⟨he, decide_eq_true hother⟩))
  · intro h
    refine List.sum_eq_zero fun fee hfee => ?_
    obtain ⟨e, he, rfl⟩ := List.mem_map.mp hfee
    obtain ⟨he, hother⟩ := List.mem_filter.mp he
    exact h e he (of_decide_eq_true hother)

/-- **The replay misses the fees of the other exits**, and nothing else. -/
theorem Replayed.agrees_iff (h : Replayed s) :
    ReplayAgrees s ↔ ∀ e ∈ s.executions, IsOtherExit e → e.fee = 0 := by
  rw [← otherExitFees_eq_zero h.fees, ← h.exitFees]
  constructor
  · intro hagrees
    have hnet := hagrees.netHedgePnl
    rw [h.replay_eq] at hnet
    simp only [metrics] at hnet
    linarith
  · intro hzero
    rw [sub_sub, sub_eq_zero] at hzero
    refine ⟨?_, ?_, ?_, ?_, ?_, ?_⟩ <;> rw [h.replay_eq] <;> simp only [metrics]
    rw [hzero]
    ring

/-- **The replay of the log returns what the metrics say exactly when no Buy that is neither a take
    profit nor a stop has been filled for a fee.** For every exchange, whatever is done with it. -/
theorem replay_agrees_iff (sim : Simulator σ) {initialPrice walletBalance : ℚ} {seed : σ}
    {faultInjector : Option FaultInjector}
    (h : create sim initialPrice seed walletBalance faultInjector = .ok s)
    (operations : List SimulatedOperation) :
    ReplayAgrees (s.afterAll sim operations) ↔
      ∀ e ∈ (s.afterAll sim operations).executions, IsOtherExit e → e.fee = 0 := by
  have hreplayed : Replayed (s.afterAll sim operations) :=
    kept_afterAll (fun _ _ => replayed_move) (replayed_create h) (meetsAlong_any s operations)
  exact hreplayed.agrees_iff

/-- After a take profit the two agree. -/
theorem replay_agrees_iff_takeProfit :
    ReplayAgrees (openedExchange.afterAll promptExchange
      (boughtBack "ECH-A-C0001-L01-TP-A01-0000" check_takeProfit)) :=
  (replay_agrees_iff promptExchange createdExchange _).mpr (by decide +kernel)

/-- After an emergency close they differ: the exchange has lost four in fees, the replay finds
    two. -/
theorem replay_misses_emergency_fee :
    create promptExchange 2000 () 100000 none = .ok openedExchange ∧
      ¬ ReplayAgrees (openedExchange.afterAll promptExchange
        (boughtBack "ECH-A-C0001-L01-EC-A01-0000" (by decide +kernel))) := by
  refine ⟨createdExchange, fun h => absurd h.netHedgePnl ?_⟩
  decide +kernel

end SimulatedExchange

end CreditHedge
