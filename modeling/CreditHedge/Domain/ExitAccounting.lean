import CreditHedge.Domain.ProtectedExecution
import Mathlib.Algebra.BigOperators.Group.List.Basic
import Mathlib.Algebra.Order.BigOperators.Group.List

/-!
# The books of an exit

Stop, take-profit and emergency fills of one protection, in any order: what a sequence of them
that the reducers accept adds up to.

Two inductions carry this file. Along any accepted sequence the totals are the sums over its
fills (`Books`, one step of which is `books_step`). And a sequence of stop and take-profit fills
is accepted exactly if every fill belongs to the protection and all of them together fit into what
is open; what it ends in is then a function of sums (`applyExits_eq_ok_iff`), which is why the
order of the fills does not matter.
-/

set_option autoImplicit false

namespace CreditHedge

/-- One fill as the reducers take it. -/
inductive ExitFill where
  | exit (execution : ExecutionUpdate) (updatedAt : Time)
  | emergency (execution : ExecutionUpdate) (updatedAt : Time) (allocatedQuantity : Option ℚ)
  deriving DecidableEq

namespace ExitFill

def execution : ExitFill → ExecutionUpdate
  | .exit execution _ => execution
  | .emergency execution .. => execution

/-- What the fill closes. -/
def quantity : ExitFill → ℚ
  | .exit execution _ => execution.quantity
  | .emergency execution _ allocated => allocated.getD execution.quantity

/-- The fee that goes with it: an emergency close pays its share of the execution's fee. -/
def fee : ExitFill → ℚ
  | .exit execution _ => execution.fee
  | .emergency execution _ allocated =>
    execution.fee * allocated.getD execution.quantity / execution.quantity

def notional (fill : ExitFill) : ℚ := fill.execution.price * fill.quantity

/-- The reducer of this fill. -/
def apply (snapshot : ProtectionSnapshot) : ExitFill → Except Failure ProtectionSnapshot
  | .exit execution updatedAt => applyExitExecution snapshot execution updatedAt
  | .emergency execution updatedAt allocated =>
    applyEmergencyExitExecution snapshot execution updatedAt allocated

/-- The realised P&L of the fill, with its pro-rata part of the entry fees. -/
def realizedPnl (snapshot : ProtectionSnapshot) (fill : ExitFill) : ℚ :=
  (snapshot.averageEntryPrice - fill.execution.price) * fill.quantity
    - snapshot.entryFees * fill.quantity / snapshot.entryQuantity - fill.fee

/-- A stop or an emergency close. -/
def IsStop (snapshot : ProtectionSnapshot) : ExitFill → Prop
  | .exit execution _ => execution.orderLinkId = snapshot.stopOrderLinkId
  | .emergency .. => True

instance (snapshot : ProtectionSnapshot) : (fill : ExitFill) → Decidable (fill.IsStop snapshot)
  | .exit .. => inferInstanceAs (Decidable (_ = _))
  | .emergency .. => inferInstanceAs (Decidable True)

/-- The realised loss of a stop or an emergency close. -/
def confirmedDebt (snapshot : ProtectionSnapshot) (fill : ExitFill) : ℚ :=
  if fill.IsStop snapshot then max 0 (-fill.realizedPnl snapshot) else 0

/-- A fill of the stop or of the take-profit. -/
def IsProtective : ExitFill → Prop
  | .exit .. => True
  | .emergency .. => False

end ExitFill

/-- The fills one after the other. -/
def applyFills (snapshot : ProtectionSnapshot) (fills : List ExitFill) :
    Except Failure ProtectionSnapshot :=
  fills.foldlM ExitFill.apply snapshot

theorem applyFills_cons {p s : ProtectionSnapshot} {fill : ExitFill} {fills : List ExitFill} :
    applyFills p (fill :: fills) = .ok s ↔
      ∃ p', fill.apply p = .ok p' ∧ applyFills p' fills = .ok s := by
  unfold applyFills
  rw [List.foldlM_cons, bind_eq_ok]

/-- A protection as it is built from a filled entry, up to any confirmation of its exits. -/
inductive FreshlyBuilt (entry : EntryExecutionSnapshot) : ProtectionSnapshot → Prop
  | stopIntent {p : ProtectionSnapshot} (stopOrderLinkId : String) (stopTriggerPrice : ℚ)
      (persistedAt : Time) :
      ProtectionSnapshot.forStopIntent entry stopOrderLinkId stopTriggerPrice persistedAt = .ok p →
      FreshlyBuilt entry p
  | stop {p p' : ProtectionSnapshot} (orderId : String) (updatedAt : Time) :
      FreshlyBuilt entry p → confirmStop p orderId updatedAt = .ok p' → FreshlyBuilt entry p'
  | takeProfitIntent {p p' : ProtectionSnapshot} (orderLinkId : String) (price : ℚ)
      (updatedAt : Time) :
      FreshlyBuilt entry p → addTakeProfitIntent p orderLinkId price updatedAt = .ok p' →
      FreshlyBuilt entry p'
  | takeProfit {p p' : ProtectionSnapshot} (orderId : String) (updatedAt : Time) :
      FreshlyBuilt entry p → confirmTakeProfit p orderId updatedAt = .ok p' →
      FreshlyBuilt entry p'

/-! ## The totals -/

/-- What a fresh protection has in its books: nothing. -/
structure Unfilled (p : ProtectionSnapshot) : Prop where
  tpFilled : p.tpFilledQuantity = 0
  stopFilled : p.stopFilledQuantity = 0
  notional : p.exitNotional = 0
  fees : p.exitFees = 0
  debt : p.confirmedRecoveryDebt = 0

theorem FreshlyBuilt.unfilled {entry : EntryExecutionSnapshot} {p : ProtectionSnapshot}
    (h : FreshlyBuilt entry p) : Unfilled p := by
  induction h with
  | stopIntent _ _ _ hp =>
    simp only [ProtectionSnapshot.forStopIntent, bind_unit_eq_ok] at hp
    obtain ⟨-, hp⟩ := hp
    split at hp
    · exact absurd hp (by simp [throw, throwThe, MonadExceptOf.throw])
    · simp only [bind_unit_eq_ok, ProtectionSnapshot.create_eq_ok] at hp
      obtain ⟨-, hp⟩ := hp
      constructor <;> rw [hp]
  | stop _ _ _ hp ih =>
    simp only [confirmStop, ProtectionSnapshot.create_eq_ok] at hp
    constructor <;> rw [hp]
    exacts [ih.tpFilled, ih.stopFilled, ih.notional, ih.fees, ih.debt]
  | takeProfitIntent _ _ _ _ hp ih =>
    simp only [addTakeProfitIntent, bind_unit_eq_ok, ProtectionSnapshot.create_eq_ok] at hp
    obtain ⟨-, -, hp⟩ := hp
    constructor <;> rw [hp]
    exacts [ih.tpFilled, ih.stopFilled, ih.notional, ih.fees, ih.debt]
  | takeProfit _ _ _ hp ih =>
    simp only [confirmTakeProfit, bind_unit_eq_ok, ProtectionSnapshot.create_eq_ok] at hp
    obtain ⟨-, hp⟩ := hp
    constructor <;> rw [hp]
    exacts [ih.tpFilled, ih.stopFilled, ih.notional, ih.fees, ih.debt]

/-- `s` is `p` after fills of these totals. -/
structure Books (p s : ProtectionSnapshot) (fills : List ExitFill) : Prop where
  entryQuantity : s.entryQuantity = p.entryQuantity
  averageEntryPrice : s.averageEntryPrice = p.averageEntryPrice
  entryFees : s.entryFees = p.entryFees
  stopOrderLinkId : s.stopOrderLinkId = p.stopOrderLinkId
  closed : s.closedQuantity = p.closedQuantity + (fills.map ExitFill.quantity).sum
  notional : s.exitNotional = p.exitNotional + (fills.map ExitFill.notional).sum
  fees : s.exitFees = p.exitFees + (fills.map ExitFill.fee).sum
  debt : s.confirmedRecoveryDebt =
    p.confirmedRecoveryDebt + (fills.map (ExitFill.confirmedDebt p)).sum

theorem Books.nil (p : ProtectionSnapshot) : Books p p [] := by
  constructor <;> simp

theorem confirmedDebt_congr {p s : ProtectionSnapshot} {fills : List ExitFill}
    (h : Books p s fills) (fill : ExitFill) : fill.confirmedDebt s = fill.confirmedDebt p := by
  have hstop : fill.IsStop s ↔ fill.IsStop p := by
    cases fill with
    | exit execution updatedAt =>
      show _ = _ ↔ _ = _
      rw [h.stopOrderLinkId]
    | emergency => exact Iff.rfl
  unfold ExitFill.confirmedDebt ExitFill.realizedPnl
  simp only [hstop, h.averageEntryPrice, h.entryFees, h.entryQuantity]

theorem Books.append {p s t : ProtectionSnapshot} {fills fills' : List ExitFill}
    (h : Books p s fills) (h' : Books s t fills') : Books p t (fills ++ fills') where
  entryQuantity := h'.entryQuantity.trans h.entryQuantity
  averageEntryPrice := h'.averageEntryPrice.trans h.averageEntryPrice
  entryFees := h'.entryFees.trans h.entryFees
  stopOrderLinkId := h'.stopOrderLinkId.trans h.stopOrderLinkId
  closed := by rw [h'.closed, h.closed, List.map_append, List.sum_append, add_assoc]
  notional := by rw [h'.notional, h.notional, List.map_append, List.sum_append, add_assoc]
  fees := by rw [h'.fees, h.fees, List.map_append, List.sum_append, add_assoc]
  debt := by
    rw [h'.debt, h.debt, List.map_append, List.sum_append, add_assoc,
      List.map_congr_left fun fill _ => confirmedDebt_congr h fill]

theorem stopDebt_eq (p : ProtectionSnapshot) (e : ExecutionUpdate) (quantity fee : ℚ) :
    stopDebt p e quantity fee =
      max 0 (-((p.averageEntryPrice - e.price) * quantity
        - p.entryFees * quantity / p.entryQuantity - fee)) := by
  unfold stopDebt
  rw [max_comm]
  congr 1
  ring

theorem books_of_exitFields {p s : ProtectionSnapshot} {e : ExecutionUpdate} {updatedAt : Time}
    (hs : s.toProtectionFields = exitFields p e updatedAt) : Books p s [.exit e updatedAt] := by
  refine
    { entryQuantity := by rw [hs]; rfl, averageEntryPrice := by rw [hs]; rfl
      entryFees := by rw [hs]; rfl, stopOrderLinkId := by rw [hs]; rfl
      closed := ?_, notional := ?_, fees := ?_, debt := ?_ } <;>
    rw [hs, List.map_singleton, List.sum_singleton]
  · unfold exitFields ProtectionFields.closedQuantity
    dsimp only [ExitFill.quantity]
    split <;> ring
  · rfl
  · rfl
  · unfold exitFields ExitFill.confirmedDebt
    dsimp only
    by_cases hstop : e.orderLinkId = p.stopOrderLinkId
    · have hisStop : (ExitFill.exit e updatedAt).IsStop p := hstop
      rw [if_pos hstop, if_pos hisStop, stopDebt_eq]
      rfl
    · have hisStop : ¬ (ExitFill.exit e updatedAt).IsStop p := hstop
      rw [if_neg hstop, if_neg hisStop, add_zero]

/-- **One fill.** -/
theorem books_step {p s : ProtectionSnapshot} {fill : ExitFill} (h : fill.apply p = .ok s) :
    Books p s [fill] := by
  cases fill with
  | exit e updatedAt => exact books_of_exitFields (applyExitExecution_eq_ok_iff.mp h).2.2.2
  | emergency e updatedAt allocated =>
    have hsome : applyEmergencyExitExecution p e updatedAt (some (allocated.getD e.quantity)) =
        .ok s := h
    have hs := (applyEmergencyExitExecution_eq_ok_iff.mp hsome).2.2.2.2.2
    refine
      { entryQuantity := by rw [hs]; rfl, averageEntryPrice := by rw [hs]; rfl
        entryFees := by rw [hs]; rfl, stopOrderLinkId := by rw [hs]; rfl
        closed := ?_, notional := ?_, fees := ?_, debt := ?_ } <;>
      rw [hs, List.map_singleton, List.sum_singleton]
    · unfold emergencyFields ProtectionFields.closedQuantity
      dsimp only [ExitFill.quantity]
      ring
    · rfl
    · rfl
    · have hisStop : (ExitFill.emergency e updatedAt allocated).IsStop p := trivial
      unfold emergencyFields ExitFill.confirmedDebt
      rw [if_pos hisStop]
      dsimp only
      rw [stopDebt_eq]
      rfl

theorem books_of_applyFills {fills : List ExitFill} {p s : ProtectionSnapshot}
    (h : applyFills p fills = .ok s) : Books p s fills := by
  induction fills generalizing p with
  | nil =>
    obtain rfl := Except.ok.inj h
    exact .nil p
  | cons fill fills ih =>
    obtain ⟨p', happly, hrest⟩ := applyFills_cons.mp h
    exact (books_step happly).append (ih hrest)

theorem sum_realizedPnl (p : ProtectionSnapshot) (fills : List ExitFill) :
    (fills.map (ExitFill.realizedPnl p)).sum =
      p.averageEntryPrice * (fills.map ExitFill.quantity).sum
        - (fills.map ExitFill.notional).sum
        - p.entryFees * (fills.map ExitFill.quantity).sum / p.entryQuantity
        - (fills.map ExitFill.fee).sum := by
  induction fills with
  | nil => simp
  | cons fill fills ih =>
    simp only [List.map_cons, List.sum_cons, ih]
    unfold ExitFill.realizedPnl ExitFill.notional
    ring

/-! ## The order of the fills -/

/-- The executions of a sequence of stop and take-profit fills. -/
def protectiveFills (executions : List (ExecutionUpdate × Time)) : List ExitFill :=
  executions.map fun e => .exit e.1 e.2

/-- What of the fills goes to the stop. -/
def stopQuantity (p : ProtectionSnapshot) (fills : List ExitFill) : ℚ :=
  (fills.map fun fill => if fill.IsStop p then fill.quantity else 0).sum

/-- The snapshot a sequence of exit fills ends in, if it is not empty. -/
def exitsFields (p : ProtectionSnapshot) (fills : List ExitFill) (updatedAt : Time) :
    ProtectionFields :=
  let quantity := (fills.map ExitFill.quantity).sum
  let stopFilled := p.stopFilledQuantity + stopQuantity p fills
  { p.toProtectionFields with
    state := if p.openQuantity - quantity = 0 then .cancelPending else .exitPartiallyFilled
    openQuantity := p.openQuantity - quantity
    tpFilledQuantity := p.tpFilledQuantity + (quantity - stopQuantity p fills)
    stopFilledQuantity := stopFilled
    exitNotional := p.exitNotional + (fills.map ExitFill.notional).sum
    exitFees := p.exitFees + (fills.map ExitFill.fee).sum
    confirmedRecoveryDebt := p.confirmedRecoveryDebt + (fills.map (ExitFill.confirmedDebt p)).sum
    pendingTerminalState :=
      if p.openQuantity - quantity = 0 then some (if 0 < stopFilled then .closedStop else .closedTp)
      else none
    version := p.version + fills.length
    updatedAt }

/-- It depends on the fills through sums only. -/
theorem exitsFields_perm (p : ProtectionSnapshot) {fills fills' : List ExitFill}
    (h : fills'.Perm fills) (updatedAt : Time) :
    exitsFields p fills' updatedAt = exitsFields p fills updatedAt := by
  have hsum : ∀ f : ExitFill → ℚ, (fills'.map f).sum = (fills.map f).sum :=
    fun f => (h.map f).sum_eq
  unfold exitsFields stopQuantity
  simp only [hsum, h.length_eq]

section Step

variable {p p' : ProtectionSnapshot} {e : ExecutionUpdate} {receivedAt : Time}

theorem belongsTo_congr (h : p'.toProtectionFields = exitFields p e receivedAt)
    (execution : ExecutionUpdate) : BelongsTo p' execution ↔ BelongsTo p execution := by
  have hstopId : p'.stopOrderLinkId = p.stopOrderLinkId := by rw [h]; rfl
  have htpId : p'.tpOrderLinkId = p.tpOrderLinkId := by rw [h]; rfl
  have hstopOrder : p'.stopOrderId = p.stopOrderId := by rw [h]; rfl
  have htpOrder : p'.tpOrderId = p.tpOrderId := by rw [h]; rfl
  constructor
  · intro hb
    have hexit := hb.exit
    have horder := hb.orderId
    rw [hstopId, htpId] at hexit
    rw [hstopId, hstopOrder, htpOrder] at horder
    exact ⟨hb.symbol, hb.side, hexit, horder⟩
  · intro hb
    refine ⟨hb.symbol, hb.side, ?_, ?_⟩
    · rw [hstopId, htpId]
      exact hb.exit
    · rw [hstopId, hstopOrder, htpOrder]
      exact hb.orderId

/-- **One protective fill.** What is left of a sequence ends in the books of all of it. -/
theorem exitsFields_step (h : p'.toProtectionFields = exitFields p e receivedAt)
    (fills : List ExitFill) (updatedAt : Time) :
    exitsFields p' fills updatedAt = exitsFields p (.exit e receivedAt :: fills) updatedAt := by
  have hb : Books p p' [.exit e receivedAt] := books_of_exitFields h
  have hstop : ∀ fill : ExitFill, fill.IsStop p' ↔ fill.IsStop p := fun fill => by
    cases fill with
    | exit execution updatedAt => exact iff_of_eq (congrArg _ hb.stopOrderLinkId)
    | emergency => exact Iff.rfl
  have hstopQuantity : stopQuantity p' fills = stopQuantity p fills := by
    unfold stopQuantity
    simp only [hstop]
  have hdebt : fills.map (ExitFill.confirmedDebt p') = fills.map (ExitFill.confirmedDebt p) :=
    List.map_congr_left fun fill _ => confirmedDebt_congr hb fill
  have hconfirmed : (exitFields p e receivedAt).confirmedRecoveryDebt =
      p.confirmedRecoveryDebt + ExitFill.confirmedDebt p (.exit e receivedAt) := by
    rw [← h, hb.debt, List.map_singleton, List.sum_singleton]
  have hquantity : (ExitFill.exit e receivedAt).quantity = e.quantity := rfl
  have hfirst : stopQuantity p (.exit e receivedAt :: fills) =
      (if e.orderLinkId = p.stopOrderLinkId then e.quantity else 0) + stopQuantity p fills := by
    unfold stopQuantity
    rw [List.map_cons, List.sum_cons]
    rfl
  have hstopFilled : (exitFields p e receivedAt).stopFilledQuantity + stopQuantity p fills =
      p.stopFilledQuantity + stopQuantity p (.exit e receivedAt :: fills) := by
    rw [hfirst]
    unfold exitFields
    dsimp only
    split <;> ring
  have htpFilled : ∀ quantity, (exitFields p e receivedAt).tpFilledQuantity +
      (quantity - stopQuantity p fills) = p.tpFilledQuantity +
        (e.quantity + quantity - stopQuantity p (.exit e receivedAt :: fills)) := by
    intro quantity
    rw [hfirst]
    unfold exitFields
    dsimp only
    split <;> ring
  have hopen : ∀ quantity, (exitFields p e receivedAt).openQuantity - quantity =
      p.openQuantity - (e.quantity + quantity) := fun quantity => sub_sub _ _ _
  unfold exitsFields
  rw [hstopQuantity, hdebt, h, hconfirmed, hstopFilled]
  dsimp only
  rw [htpFilled, hopen]
  simp only [List.map_cons, List.sum_cons, List.length_cons, hquantity]
  unfold exitFields
  simp only [add_assoc, add_comm 1]
  rfl

/-- After an exit fill, no further fill changes nothing. -/
theorem exitsFields_nil (h : p'.toProtectionFields = exitFields p e receivedAt) :
    p'.toProtectionFields = exitsFields p' [] p'.updatedAt := by
  unfold exitsFields stopQuantity
  rw [h]
  unfold exitFields
  simp

end Step

/-- What an accepted sequence of protective fills ends in. -/
theorem applyFills_eq_ok {fills : List ExitFill} (hprotective : ∀ fill ∈ fills, fill.IsProtective)
    {p s : ProtectionSnapshot} (h : applyFills p fills = .ok s) :
    (∀ fill ∈ fills, BelongsTo p fill.execution) ∧
      (fills.map ExitFill.quantity).sum ≤ p.openQuantity ∧
      (fills ≠ [] → s.toProtectionFields = exitsFields p fills s.updatedAt) := by
  induction fills generalizing p with
  | nil => exact ⟨fun _ h => absurd h (by simp), p.valid.openQuantity_nonneg, fun h => absurd rfl h⟩
  | cons fill fills ih =>
    obtain ⟨p', happly, hrest⟩ := applyFills_cons.mp h
    cases fill with
    | emergency => exact absurd (hprotective _ (List.mem_cons_self ..)) id
    | exit e receivedAt =>
      obtain ⟨hbelongs, hq, -, hfields⟩ := applyExitExecution_eq_ok_iff.mp happly
      obtain ⟨hbelongs', hq', hs⟩ :=
        ih (fun fill hfill => hprotective fill (List.mem_cons_of_mem _ hfill)) hrest
      have hopen : p'.openQuantity = p.openQuantity - e.quantity := by rw [hfields]; rfl
      refine ⟨?_, ?_, fun _ => ?_⟩
      · intro fill hfill
        rcases List.mem_cons.mp hfill with rfl | hfill
        · exact hbelongs
        · exact (belongsTo_congr hfields _).mp (hbelongs' fill hfill)
      · rw [List.map_cons, List.sum_cons]
        have hquantity : (ExitFill.exit e receivedAt).quantity = e.quantity := rfl
        linarith
      · rw [← exitsFields_step hfields]
        cases fills with
        | nil =>
          obtain rfl := Except.ok.inj hrest
          exact exitsFields_nil hfields
        | cons => exact hs (by simp)

/-- Which sequences of protective fills are accepted. -/
theorem exists_applyFills {fills : List ExitFill} (hprotective : ∀ fill ∈ fills, fill.IsProtective)
    (hfees : ∀ fill ∈ fills, 0 ≤ fill.execution.fee) {p : ProtectionSnapshot}
    (hbelongs : ∀ fill ∈ fills, BelongsTo p fill.execution)
    (hq : (fills.map ExitFill.quantity).sum ≤ p.openQuantity) :
    ∃ s, applyFills p fills = .ok s := by
  induction fills generalizing p with
  | nil => exact ⟨p, rfl⟩
  | cons fill fills ih =>
    cases fill with
    | emergency => exact absurd (hprotective _ (List.mem_cons_self ..)) id
    | exit e receivedAt =>
      rw [List.map_cons, List.sum_cons] at hq
      have hquantity : (ExitFill.exit e receivedAt).quantity = e.quantity := rfl
      have hrest : 0 ≤ (fills.map ExitFill.quantity).sum := by
        refine List.sum_nonneg fun x hx => ?_
        obtain ⟨fill, hfill, rfl⟩ := List.mem_map.mp hx
        cases fill with
        | emergency => exact absurd (hprotective _ (List.mem_cons_of_mem _ hfill)) id
        | exit e' receivedAt' => exact e'.quantity_pos.le
      have hfee : 0 ≤ e.fee := hfees _ (List.mem_cons_self ..)
      have hfits : e.quantity ≤ p.openQuantity := by linarith
      obtain ⟨p', happly, hfields⟩ := applyExitExecution_ok receivedAt
        (hbelongs _ (List.mem_cons_self ..)) hfits
        (add_nonneg p.valid.exitFees_nonneg hfee)
      have hopen : p'.openQuantity = p.openQuantity - e.quantity := by rw [hfields]; rfl
      obtain ⟨s, hs⟩ := ih (fun fill hfill => hprotective fill (List.mem_cons_of_mem _ hfill))
        (fun fill hfill => hfees fill (List.mem_cons_of_mem _ hfill))
        (fun fill hfill => (belongsTo_congr hfields _).mpr
          (hbelongs fill (List.mem_cons_of_mem _ hfill)))
        (by linarith)
      exact ⟨s, applyFills_cons.mpr ⟨p', happly, hs⟩⟩

/-- The same snapshot, but for the time of the last update. -/
def SameUpToTime (s s' : ProtectionSnapshot) : Prop :=
  { s'.toProtectionFields with updatedAt := s.updatedAt } = s.toProtectionFields

theorem SameUpToTime.confirm {s s' : ProtectionSnapshot} (h : SameUpToTime s s')
    (updatedAt : Time) :
    confirmExitReconciliation s' updatedAt = confirmExitReconciliation s updatedAt := by
  have hfields : { s'.toProtectionFields with updatedAt := s.updatedAt } = s.toProtectionFields := h
  unfold confirmExitReconciliation
  rw [← hfields]

/-- The books of `s`, from an unfilled protection, are exactly its fills. -/
structure ExactAccounts (p s : ProtectionSnapshot) (fills : List ExitFill) : Prop where
  balanced : s.openQuantity + s.tpFilledQuantity + s.stopFilledQuantity = s.entryQuantity
  notional : s.exitNotional =
    (fills.map fun fill => fill.execution.price * fill.quantity).sum
  fees : s.exitFees = (fills.map ExitFill.fee).sum
  debt : s.confirmedRecoveryDebt = (fills.map (ExitFill.confirmedDebt p)).sum
  pnl : s.realizedPnl = (fills.map (ExitFill.realizedPnl p)).sum

theorem exactAccounts {p s : ProtectionSnapshot} {fills : List ExitFill} (hp : Unfilled p)
    (h : Books p s fills) : ExactAccounts p s fills where
  balanced := by
    have hbalanced := s.valid.balanced
    unfold ProtectionFields.closedQuantity at hbalanced
    linarith
  notional := by
    rw [h.notional, hp.notional, zero_add]
    rfl
  fees := by rw [h.fees, hp.fees, zero_add]
  debt := by rw [h.debt, hp.debt, zero_add]
  pnl := by
    have hzero : p.closedQuantity = 0 := by
      rw [ProtectionFields.closedQuantity, hp.tpFilled, hp.stopFilled, add_zero]
    have hclosed : s.tpFilledQuantity + s.stopFilledQuantity =
        (fills.map ExitFill.quantity).sum := by
      have := h.closed
      rwa [hzero, zero_add] at this
    unfold ProtectionSnapshot.realizedPnl
    rw [sum_realizedPnl]
    dsimp only
    rw [hclosed, h.notional, h.fees, hp.notional, hp.fees, h.averageEntryPrice, h.entryFees,
      h.entryQuantity]
    ring

/-- **Exit accounting is exact, and for stop and take-profit fills the order does not matter.** -/
theorem exit_accounting {entry : EntryExecutionSnapshot} {p s : ProtectionSnapshot}
    {fills : List ExitFill} (hp : FreshlyBuilt entry p)
    (hfees : ∀ fill ∈ fills, 0 ≤ fill.execution.fee) (h : applyFills p fills = .ok s) :
    ExactAccounts p s fills ∧
      ((∀ fill ∈ fills, fill.IsProtective) → ∀ fills', fills'.Perm fills →
        ∃ s', applyFills p fills' = .ok s' ∧ SameUpToTime s s' ∧
          ∀ updatedAt, confirmExitReconciliation s' updatedAt =
            confirmExitReconciliation s updatedAt) := by
  refine ⟨exactAccounts hp.unfilled (books_of_applyFills h), fun hprotective fills' hperm => ?_⟩
  obtain ⟨hbelongs, hq, hfields⟩ := applyFills_eq_ok hprotective h
  have hprotective' : ∀ fill ∈ fills', fill.IsProtective :=
    fun fill hfill => hprotective fill (hperm.mem_iff.mp hfill)
  have hq' : (fills'.map ExitFill.quantity).sum ≤ p.openQuantity := by
    rw [(hperm.map ExitFill.quantity).sum_eq]
    exact hq
  obtain ⟨s', hs'⟩ := exists_applyFills hprotective'
    (fun fill hfill => hfees fill (hperm.mem_iff.mp hfill))
    (fun fill hfill => hbelongs fill (hperm.mem_iff.mp hfill)) hq'
  have hsame : SameUpToTime s s' := by
    unfold SameUpToTime
    cases fills with
    | nil =>
      obtain rfl := hperm.eq_nil
      rw [h] at hs'
      obtain rfl := Except.ok.inj hs'
      rfl
    | cons fill fills =>
      have hne : fills' ≠ [] := fun hnil => absurd (hnil ▸ hperm.length_eq) (by simp)
      rw [(applyFills_eq_ok hprotective' hs').2.2 hne, hfields (by simp),
        exitsFields_perm p hperm]
      rfl
  exact ⟨s', hs', hsame, hsame.confirm⟩

/-! One unit sold at 2000, with its exits confirmed, closed in two halves. -/

def soldUnit : EntryFields where
  orderLinkId := "ECH-A-C0001-L01-ENTRY-A01-0000"
  state := .activeUnprotected
  targetQuantity := 1
  entryOrderId := some "entry-order"
  filledQuantity := 1
  entryNotional := 2000
  entryFees := 1 / 10
  version := 4
  updatedAt := 0

def protectedUnit (entry : EntryExecutionSnapshot) : Except Failure ProtectionSnapshot := do
  let intended ← ProtectionSnapshot.forStopIntent entry "ECH-A-C0001-L01-STOP-A01-0000" 2010 0
  let stopped ← confirmStop intended "stop-order" 0
  let withIntent ← addTakeProfitIntent stopped "ECH-A-C0001-L01-TP-A01-0000" 1990 0
  confirmTakeProfit withIntent "tp-order" 0

theorem freshlyBuilt_protectedUnit {entry : EntryExecutionSnapshot} {p : ProtectionSnapshot}
    (h : protectedUnit entry = .ok p) : FreshlyBuilt entry p := by
  simp only [protectedUnit, bind_eq_ok] at h
  obtain ⟨_, hintended, _, hstopped, _, hwithIntent, hp⟩ := h
  exact .takeProfit _ _ (.takeProfitIntent _ _ _ (.stop _ _ (.stopIntent _ _ _ hintended) hstopped)
    hwithIntent) hp

def halfFill (n : ℕ) (orderId orderLinkId : String) (price : ℚ) : ExecutionFields where
  executionId := s!"half-{n}"
  orderId
  orderLinkId
  symbol := "ETHUSDT"
  side := .buy
  price
  quantity := 1 / 2
  fee := 1 / 100
  isMaker := some false
  executedAt := n

/-- Half by the take-profit, half by the stop. -/
def halves : List ExitFill :=
  [.exit ⟨halfFill 1 "tp-order" "ECH-A-C0001-L01-TP-A01-0000" 1990, by decide +kernel⟩ 1,
    .exit ⟨halfFill 2 "stop-order" "ECH-A-C0001-L01-STOP-A01-0000" 2010, by decide +kernel⟩ 2]

theorem exit_accounting_halves :
    ∃ entry p s, FreshlyBuilt entry p ∧ applyFills p halves = .ok s ∧ ExactAccounts p s halves ∧
      ∃ s', applyFills p halves.reverse = .ok s' ∧ SameUpToTime s s' := by
  let entry : EntryExecutionSnapshot := ⟨soldUnit, by decide +kernel⟩
  have hruns : ((protectedUnit entry).toOption.any fun p => (applyFills p halves).isOk) = true := by
    decide +kernel
  obtain ⟨p, hp, hfills⟩ := (Option.any_eq_true ..).mp hruns
  have hbuilt : protectedUnit entry = .ok p := by
    cases h : protectedUnit entry with
    | error failure => exact absurd (h ▸ hp) (by simp [Except.toOption])
    | ok p' =>
      rw [h] at hp
      exact congrArg _ (Option.some.inj hp)
  cases hs : applyFills p halves with
  | error failure => exact absurd (hs ▸ hfills) (by simp [Except.isOk, Except.toBool])
  | ok s =>
    have hfees : ∀ fill ∈ halves, 0 ≤ fill.execution.fee := by decide +kernel
    have hprotective : ∀ fill ∈ halves, fill.IsProtective := by
      intro fill hfill
      simp only [halves, List.mem_cons, List.not_mem_nil, or_false] at hfill
      rcases hfill with rfl | rfl <;> exact trivial
    obtain ⟨hexact, hany⟩ := exit_accounting (freshlyBuilt_protectedUnit hbuilt) hfees hs
    obtain ⟨s', hs', hsame, -⟩ := hany hprotective _ (List.reverse_perm _)
    exact ⟨entry, p, s, freshlyBuilt_protectedUnit hbuilt, hs, hexact, s', hs', hsame⟩

end CreditHedge
