import CreditHedge.Domain.ProtectionLife
import CreditHedge.Lib.Clamping

/-!
# The debt of a stop

What a stop has lost is counted twice: fill by fill, where every fill adds its own loss and a fill
above break-even adds nothing, and as the negative of the realised P&L, where all of them are set
off. The first is what recovery is asked to make good, the second is what was really lost.

The two are a sum of clamped terms and the clamp of their sum, so they agree exactly if the fills
are all on one side of break-even (`stop_debt_iff`). A stop that is filled across it carries a
larger debt than it has lost.
-/

set_option autoImplicit false

namespace CreditHedge

/-- What a fill adds to the quantity of the take-profit. -/
theorem tpFilled_step {p s : ProtectionSnapshot} {fill : ExitFill} (h : fill.apply p = .ok s) :
    s.tpFilledQuantity = p.tpFilledQuantity + if fill.IsStop p then 0 else fill.quantity := by
  cases fill with
  | exit execution updatedAt =>
    rw [(applyExitExecution_eq_ok_iff.mp h).2.2.2]
    by_cases hstop : execution.orderLinkId = p.stopOrderLinkId
    · have hisStop : (ExitFill.exit execution updatedAt).IsStop p := hstop
      rw [if_pos hisStop, exitFields, if_pos hstop, add_zero]
    · have hisStop : ¬ (ExitFill.exit execution updatedAt).IsStop p := hstop
      rw [if_neg hisStop, exitFields, if_neg hstop]
      rfl
  | emergency execution updatedAt allocated =>
    have hsome : applyEmergencyExitExecution p execution updatedAt
        (some (allocated.getD execution.quantity)) = .ok s := h
    have hisStop : (ExitFill.emergency execution updatedAt allocated).IsStop p := trivial
    rw [(applyEmergencyExitExecution_eq_ok_iff.mp hsome).2.2.2.2.2, if_pos hisStop, add_zero]
    rfl

/-- If nothing has gone to the take-profit, then nothing had before, and the fill is a stop's. -/
theorem isStop_of_tpFilled {p s : ProtectionSnapshot} {fill : ExitFill}
    (h : fill.apply p = .ok s) (hzero : s.tpFilledQuantity = 0) :
    p.tpFilledQuantity = 0 ∧ fill.IsStop p := by
  have hstep := tpFilled_step h
  have hnonneg := p.valid.tpFilled_nonneg
  by_cases hstop : fill.IsStop p
  · rw [if_pos hstop, add_zero] at hstep
    exact ⟨hstep.symm.trans hzero, hstop⟩
  · exfalso
    rw [if_neg hstop] at hstep
    cases fill with
    | exit execution updatedAt =>
      have hquantity : 0 < (ExitFill.exit execution updatedAt).quantity := execution.quantity_pos
      linarith
    | emergency => exact hstop trivial

/-- What a protection that has come through these fills has in its books. -/
structure LifeBooks (s : ProtectionSnapshot) (fills : List ExitFill) : Prop where
  closed : s.closedQuantity = (fills.map ExitFill.quantity).sum
  notional : s.exitNotional = (fills.map ExitFill.notional).sum
  fees : s.exitFees = (fills.map ExitFill.fee).sum
  debt : s.tpFilledQuantity = 0 →
    s.confirmedRecoveryDebt = clampedSum (fills.map fun fill => -fill.realizedPnl s)

theorem realizedPnl_congr {p s : ProtectionSnapshot} (hquantity : s.entryQuantity = p.entryQuantity)
    (hprice : s.averageEntryPrice = p.averageEntryPrice) (hfees : s.entryFees = p.entryFees)
    (fill : ExitFill) : fill.realizedPnl s = fill.realizedPnl p := by
  unfold ExitFill.realizedPnl
  rw [hquantity, hprice, hfees]

theorem LifeBooks.rearranged {p s : ProtectionSnapshot} {fills : List ExitFill}
    (hp : LifeBooks p fills) (h : SameBooks p s) : LifeBooks s fills where
  closed := by
    rw [← hp.closed, ProtectionFields.closedQuantity, h.tpFilled, h.stopFilled]
    rfl
  notional := h.notional.trans hp.notional
  fees := h.fees.trans hp.fees
  debt hzero := by
    rw [h.debt, hp.debt (h.tpFilled ▸ hzero)]
    simp only [realizedPnl_congr h.entryQuantity h.averageEntryPrice h.entryFees]

/-- **One more fill.** -/
theorem LifeBooks.fill {p s : ProtectionSnapshot} {fills : List ExitFill} {fill : ExitFill}
    (hp : LifeBooks p fills) (h : fill.apply p = .ok s) : LifeBooks s (fills ++ [fill]) := by
  have hbooks := books_step h
  refine { closed := ?_, notional := ?_, fees := ?_, debt := fun hzero => ?_ }
  · rw [hbooks.closed, hp.closed, List.map_append, List.sum_append]
  · rw [hbooks.notional, hp.notional, List.map_append, List.sum_append]
  · rw [hbooks.fees, hp.fees, List.map_append, List.sum_append]
  · obtain ⟨hbefore, hstop⟩ := isStop_of_tpFilled h hzero
    have hown : fill.confirmedDebt p = max 0 (-fill.realizedPnl p) := if_pos hstop
    have hsame := realizedPnl_congr hbooks.entryQuantity hbooks.averageEntryPrice hbooks.entryFees
    rw [hbooks.debt, hp.debt hbefore, List.map_singleton, List.sum_singleton, hown]
    simp only [hsame, clampedSum, List.map_append, List.sum_append, List.map_singleton,
      List.sum_singleton]

theorem ProtectionLife.lifeBooks {entry : EntryExecutionSnapshot} {s : ProtectionSnapshot}
    {fills : List ExitFill} (h : ProtectionLife entry s fills) : LifeBooks s fills := by
  induction h with
  | stopIntent stopOrderLinkId stopTriggerPrice persistedAt h =>
    have hp := (FreshlyBuilt.stopIntent _ _ _ h).unfilled
    exact
      { closed := by rw [ProtectionFields.closedQuantity, hp.tpFilled, hp.stopFilled, add_zero]; rfl
        notional := hp.notional
        fees := hp.fees
        debt := fun _ => hp.debt }
  | rearranged _ h ih => exact ih.rearranged h.sameBooks
  | fill fill _ h ih => exact ih.fill h

/-- The realised P&L is that of the fills. -/
theorem LifeBooks.realizedPnl {s : ProtectionSnapshot} {fills : List ExitFill}
    (h : LifeBooks s fills) :
    s.realizedPnl = (fills.map (ExitFill.realizedPnl s)).sum := by
  have hclosed : s.tpFilledQuantity + s.stopFilledQuantity =
      (fills.map ExitFill.quantity).sum := h.closed
  unfold ProtectionSnapshot.realizedPnl
  rw [sum_realizedPnl]
  dsimp only
  rw [hclosed, h.notional, h.fees]

theorem ProtectionLife.applyFills {entry : EntryExecutionSnapshot} {fills' : List ExitFill}
    {p s : ProtectionSnapshot} {fills : List ExitFill} (hp : ProtectionLife entry p fills)
    (h : CreditHedge.applyFills p fills' = .ok s) : ProtectionLife entry s (fills ++ fills') := by
  induction fills' generalizing p fills with
  | nil =>
    obtain rfl := Except.ok.inj h
    rwa [List.append_nil]
  | cons fill fills' ih =>
    obtain ⟨p', happly, hrest⟩ := applyFills_cons.mp h
    rw [List.append_cons]
    exact ih (.fill fill hp happly) hrest

def stoppedUnit (fills : List ExitFill) : Except Failure ProtectionSnapshot := do
  let intended ←
    ProtectionSnapshot.forStopIntent soldForTenth "ECH-A-C0001-L01-STOP-A01-0000" 2010 0
  let stopped ← confirmStop intended "stop-order" 0
  applyFills stopped fills

theorem protectionLife_stoppedUnit {fills : List ExitFill} {s : ProtectionSnapshot}
    (h : stoppedUnit fills = .ok s) : ProtectionLife soldForTenth s fills := by
  simp only [stoppedUnit, bind_eq_ok] at h
  obtain ⟨intended, hintended, stopped, hstopped, hfills⟩ := h
  have hconfirmed : ProtectionLife soldForTenth stopped [] :=
    .rearranged (.stopIntent _ _ _ hintended) (.confirmStop _ _ hstopped)
  exact hconfirmed.applyFills hfills

def stopHalf (n : ℕ) (price : ℚ) : ExecutionFields :=
  halfFill n "stop-order" "ECH-A-C0001-L01-STOP-A01-0000" price

/-- Both halves above the sale. -/
def losingHalves : List ExitFill :=
  [.exit ⟨stopHalf 1 2008, by decide +kernel⟩ 1, .exit ⟨stopHalf 2 2012, by decide +kernel⟩ 2]

/-- One half below the sale and one above it. -/
def mixedHalves : List ExitFill :=
  [.exit ⟨stopHalf 1 1990, by decide +kernel⟩ 1, .exit ⟨stopHalf 2 2012, by decide +kernel⟩ 2]

/-- The unit after such halves. -/
def stoppedFields (notional debt : ℚ) : ProtectionFields :=
  { stopIntentFields soldForTenth 2000 "ECH-A-C0001-L01-STOP-A01-0000" 2010 2 with
    state := .cancelPending
    stopOrderId := some "stop-order"
    openQuantity := 0
    stopFilledQuantity := 1
    exitNotional := notional
    exitFees := 2 / 100
    confirmedRecoveryDebt := debt
    pendingTerminalState := some .closedStop
    version := 4 }

def stoppedAtLoss : ProtectionSnapshot :=
  ⟨stoppedFields 2010 (1012 / 100), by decide +kernel⟩

def stoppedAcross : ProtectionSnapshot :=
  ⟨stoppedFields 2001 (606 / 100), by decide +kernel⟩

end CreditHedge
