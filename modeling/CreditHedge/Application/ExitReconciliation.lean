import CreditHedge.Application.ExitCapacity

/-!
# Closing a level

`reconcile_after_exit` on a level whose position has been closed locally. It looks at the exchange
and then either closes the level or suspends it in `RECONCILING`.

Whatever the other levels do meanwhile, they leave this level's row alone; that is the relation
`SameRow` the service runs under here. The result is about any number of calls one after the
other (`Attempts`): the first call decides. If it saw nothing that speaks against it the level is
closed, and if it saw an exit order or a position that does not match, the level stays suspended,
because the guard of the service lets no later call past it (`reconciliation_decided_once`).
-/

set_option autoImplicit false

namespace CreditHedge

open Coroutine ProtectiveExitService

/-- The others have left this level's row as it was. -/
def SameRow (key : String) (w w' : World) : Prop :=
  w'.store.loadProtectionSnapshot key = w.store.loadProtectionSnapshot key

theorem SameRow.refl (key : String) (w : World) : SameRow key w w := rfl

theorem SameRow.trans {key : String} {w w' w'' : World} (h : SameRow key w w')
    (h' : SameRow key w' w'') : SameRow key w w'' :=
  Eq.trans h' h

/-- The exchange answers: queries with a result, a cancellation at least with an uncertain one. -/
structure Answers.Answering (a : Answers) : Prop where
  openOrders : a.openOrders.isOk = true
  positions : a.positions.isOk = true
  cancelled : a.cancelled.isOk = true ∨
    ∃ operation, a.cancelled = .error (.uncertainOrderOutcome operation)

/-- An answering exchange, whatever the call. -/
def Responsive (a : Answers) (_ : Call) (_ : World) : Prop := a.Answering

/-- Ends in `post`, beside the other levels and an answering exchange. -/
abbrev Settles {α : Type} (key : String) (post : Except Failure α → World → Prop) (t : Service α)
    (w : World) : Prop :=
  Ensures handle (SameRow key) Responsive post t w

/-- One run of the task beside the other levels. -/
abbrev Attempt {α : Type} (key : String) (t : Service α) (w : World) (outcome : Except Failure α)
    (w' : World) : Prop :=
  RunsAmong handle (SameRow key) Responsive t w outcome w'

/-! ## The parts of a call -/

section Parts

variable {key : String} {p : ProtectionSnapshot} {w : World}

theorem isOwn_of_isExitId {orderLinkId : String} (h : isExitId p orderLinkId = true) :
    IsOwnOrderLinkId orderLinkId := by
  unfold isExitId at h
  rw [Bool.or_eq_true, decide_eq_true_iff, decide_eq_true_iff] at h
  rcases h with rfl | h
  · exact p.valid.stopRole.isOwn
  · exact (p.valid.tpRole _ h.symm).isOwn

theorem cancelRequest_ok {orderLinkId : String} (h : IsOwnOrderLinkId orderLinkId) :
    ∃ request, CancelOrderRequest.create
      { category := .linear, symbol := "ETHUSDT", orderLinkId } = .ok request := by
  have hcheck : CancelOrderFields.check
      { category := .linear, symbol := "ETHUSDT", orderLinkId } = .ok () := by
    simp only [CancelOrderFields.check, bind_unit_eq_ok, requireText, refuseIf_eq_ok,
      requireOwnOrderLinkId_eq_ok]
    exact ⟨by decide +kernel, h⟩
  exact ⟨⟨_, hcheck⟩, build_eq_ok.mpr ⟨hcheck, rfl⟩⟩

theorem exists_of_isOk {α : Type} {x : Except Failure α} (h : x.isOk = true) : ∃ a, x = .ok a := by
  cases x with
  | ok a => exact ⟨a, rfl⟩
  | error e => exact absurd h (by simp [Except.isOk, Except.toBool])

/-- Cancelling raises at nothing, and writes nothing. -/
theorem settles_cancelExits (p : ProtectionSnapshot) (orders : List ExchangeOrder) (w : World) :
    Settles key (fun outcome w' => outcome = .ok () ∧ SameRow key w w')
      (cancelExits p orders) w := by
  induction orders generalizing w with
  | nil => exact fun w' hw' => ⟨rfl, hw'⟩
  | cons order orders ih =>
    have hrest : ∀ w₁, SameRow key w w₁ →
        Settles key (fun outcome w' => outcome = .ok () ∧ SameRow key w w')
          (cancelExits p orders) w₁ :=
      fun w₁ hw₁ => (ih w₁).imp fun outcome w' h => ⟨h.1, hw₁.trans h.2⟩
    unfold cancelExits
    by_cases hexit : isExitId p order.orderLinkId = true
    · rw [if_pos hexit]
      obtain ⟨request, hrequest⟩ := cancelRequest_ok (isOwn_of_isExitId hexit)
      rw [hrequest]
      refine .lift_bind (.bind (.refl key) (.tryCatch (.refl key) (.call_bind ?_)))
      intro w₁ hw₁ a ha
      rcases ha.cancelled with hok | ⟨operation, herror⟩
      · obtain ⟨acknowledgement, hanswer⟩ := exists_of_isOk hok
        have hcall : handle a (.cancelOrder request) w₁ = (.ok acknowledgement, w₁) :=
          Prod.ext hanswer rfl
        rw [hcall]
        exact fun w₂ hw₂ w₃ hw₃ => hrest w₃ ((hw₁.trans hw₂).trans hw₃)
      · have hcall : handle a (.cancelOrder request) w₁ =
            (.error (.uncertainOrderOutcome operation), w₁) := Prod.ext herror rfl
        rw [hcall]
        exact fun w₂ hw₂ w₃ hw₃ => hrest w₃ ((hw₁.trans hw₂).trans hw₃)
    · rw [if_neg hexit]
      exact hrest w (.refl key w)

/-- The look at the exchange is answered, and writes nothing. -/
theorem settles_inspectExits (p : ProtectionSnapshot) (w : World) :
    Settles key (fun outcome w' => (∃ seen, outcome = .ok seen) ∧ SameRow key w w')
      (inspectExits p) w := by
  refine .call_bind fun w₁ hw₁ a ha => ?_
  obtain ⟨orders, horders⟩ := exists_of_isOk ha.openOrders
  have hcall : handle a (.getOpenOrders .linear "ETHUSDT") w₁ = (.ok orders, w₁) :=
    Prod.ext horders rfl
  rw [hcall]
  refine .bind (.refl key) ((settles_cancelExits p orders w₁).imp ?_)
  rintro outcome w₂ ⟨rfl, hw₂⟩
  refine .call_bind fun w₃ hw₃ a ha => ?_
  obtain ⟨remaining, hremaining⟩ := exists_of_isOk ha.openOrders
  have hcall : handle a (.getOpenOrders .linear "ETHUSDT") w₃ = (.ok remaining, w₃) :=
    Prod.ext hremaining rfl
  rw [hcall]
  refine .call_bind fun w₄ hw₄ a ha => ?_
  obtain ⟨positions, hpositions⟩ := exists_of_isOk ha.positions
  have hcall : handle a (.getPositions .linear "ETHUSDT") w₄ = (.ok positions, w₄) :=
    Prod.ext hpositions rfl
  rw [hcall]
  refine .call_bind fun w₅ hw₅ a _ => ?_
  intro w₆ hw₆
  exact ⟨⟨_, rfl⟩, ((((hw₁.trans hw₂).trans hw₃).trans hw₄).trans hw₅).trans hw₆⟩

/-- A write over the row as it was read goes through, and stays. -/
theorem settles_transition {s : ProtectionSnapshot}
    (hrow : w.store.loadProtectionSnapshot key = some p) (hs : SqliteExecutionStore.Succeeds p s)
    {post : Except Failure ProtectionSnapshot → World → Prop}
    (hpost : ∀ w', w'.store.loadProtectionSnapshot key = some s → post (.ok s) w') :
    Settles key post
      (do
        awaitCall (.transitionProtectionSnapshot p.version s)
        pure s) w := by
  refine .call_bind fun w₁ hw₁ a _ => ?_
  have hkey : p.entryOrderLinkId = key :=
    (KeyedTable.find_eq_some.mp (show w.store.protectionSnapshots.find key = some p from hrow)).2
  have hrow₁ : w₁.store.loadProtectionSnapshot p.entryOrderLinkId = some p := by
    rw [hkey]
    exact Eq.trans hw₁ hrow
  obtain ⟨store', hstore, hreplaced, -⟩ :=
    SqliteExecutionStore.transitionProtectionSnapshot_ok hrow₁ hs
  have hcall : handle a (.transitionProtectionSnapshot p.version s) w₁ =
      (.ok (), { w₁ with store := store' }) := by
    show w₁.write _ = _
    rw [hstore]
    rfl
  rw [hcall]
  intro w₂ hw₂
  refine hpost w₂ (Eq.trans hw₂ ?_)
  have hfind := hreplaced.find key
  rwa [if_pos (by rw [hs.entry, hkey])] at hfind

/-- The row of a level that was suspended in this state. -/
def suspendedFields (p : ProtectionSnapshot) (updatedAt : Time) : ProtectionFields :=
  { p.toProtectionFields with state := .reconciling, version := p.version + 1, updatedAt }

/-- The row of a level that was closed from this state. -/
def closedFields (p : ProtectionSnapshot) (terminal : LiveExecutionState) (updatedAt : Time) :
    ProtectionFields :=
  { p.toProtectionFields with
    state := terminal
    pendingTerminalState := none
    version := p.version + 1
    updatedAt }

/-- A locally closed position whose exits may still be cancelled or filled. -/
structure Exited (p : ProtectionSnapshot) (terminal : LiveExecutionState) : Prop where
  state : p.state = .cancelPending
  pending : p.pendingTerminalState = some terminal

/-- Suspending is always possible. -/
theorem suspendedFields_valid (p : ProtectionSnapshot) (updatedAt : Time) :
    (suspendedFields p updatedAt).Valid :=
  { p.valid with
    state_mem := show LiveExecutionState.reconciling ∈ protectionStates by decide
    protected_stop := fun hs => absurd hs (show LiveExecutionState.reconciling ≠ _ by decide)
    cancelPending := fun hs => absurd hs (show LiveExecutionState.reconciling ≠ _ by decide)
    closed := fun hs => by
      rcases hs with hs | hs <;> exact absurd hs (show LiveExecutionState.reconciling ≠ _ by decide)
    version_pos := Nat.succ_pos _ }

theorem Exited.terminal_mem {terminal : LiveExecutionState} (h : Exited p terminal) :
    terminal = .closedTp ∨ terminal = .closedStop := by
  have hmem := p.valid.pending_mem
  rw [h.pending] at hmem
  simpa using hmem

/-- So is closing a level whose position is closed. -/
theorem Exited.closedFields_valid {terminal : LiveExecutionState} (h : Exited p terminal)
    (updatedAt : Time) : (closedFields p terminal updatedAt).Valid :=
  { p.valid with
    state_mem := by
      show terminal ∈ protectionStates
      rcases h.terminal_mem with rfl | rfl <;> decide
    protected_stop := fun hs => by
      rcases h.terminal_mem with rfl | rfl <;> exact absurd hs (by simp [closedFields])
    pending_mem := show (none : Option LiveExecutionState) ∈ _ by decide
    cancelPending := fun hs => by
      rcases h.terminal_mem with rfl | rfl <;> exact absurd hs (by simp [closedFields])
    closed := fun _ => ⟨(p.valid.cancelPending h.state).1, rfl⟩
    version_pos := Nat.succ_pos _ }

variable {terminal : LiveExecutionState}

theorem settles_setReconciling (hrow : w.store.loadProtectionSnapshot key = some p)
    (h : Exited p terminal) {post : Except Failure ProtectionSnapshot → World → Prop}
    (hpost : ∀ s w', w'.store.loadProtectionSnapshot key = some s →
      (∃ updatedAt, s.toProtectionFields = suspendedFields p updatedAt) → post (.ok s) w') :
    Settles key post (setReconciling p) w := by
  have hstate : p.state ≠ .reconciling := by
    rw [h.state]
    decide
  refine .call_bind fun w₁ hw₁ a _ => ?_
  obtain ⟨s, hs⟩ := ProtectionSnapshot.exists_create_iff.mpr (suspendedFields_valid p a.now)
  have hfields := ProtectionSnapshot.create_eq_ok.mp hs
  have hmark : markProtectionReconciling p a.now = .ok s := by
    unfold markProtectionReconciling
    rw [if_neg hstate]
    exact hs
  show Settles key post (do
    let reconciling ← markProtectionReconciling p a.now
    if p.state = .reconciling then pure reconciling
    else do
      awaitCall (.transitionProtectionSnapshot p.version reconciling)
      pure reconciling) w₁
  rw [hmark]
  refine .lift_bind ?_
  dsimp only
  rw [if_neg hstate]
  have hsucceeds : SqliteExecutionStore.Succeeds p s :=
    ⟨by rw [hfields]; rfl, by rw [hfields]; rfl, by rw [hfields]; rfl, by rw [hfields]; rfl⟩
  exact settles_transition (Eq.trans hw₁ hrow) hsucceeds
    fun w' hw' => hpost s w' hw' ⟨a.now, hfields⟩

/-- **The decision**, written down. -/
theorem settles_closeOrSuspend (hrow : w.store.loadProtectionSnapshot key = some p)
    (h : Exited p terminal) (seen : Inspection) :
    Settles key (fun outcome w' => ∃ s updatedAt, outcome = .ok s ∧
        w'.store.loadProtectionSnapshot key = some s ∧
        s.toProtectionFields =
          if seen.isClear p then closedFields p terminal updatedAt else suspendedFields p updatedAt)
      (closeOrSuspend p seen) w := by
  unfold closeOrSuspend
  split
  · refine .call_bind fun w₁ hw₁ a _ => ?_
    obtain ⟨s, hs⟩ := ProtectionSnapshot.exists_create_iff.mpr (h.closedFields_valid a.now)
    have hfields := ProtectionSnapshot.create_eq_ok.mp hs
    have hconfirm : confirmExitReconciliation p a.now = .ok s := by
      unfold confirmExitReconciliation
      rw [h.state, h.pending]
      exact hs
    show Settles key _ (do
      let closed ← confirmExitReconciliation p a.now
      awaitCall (.transitionProtectionSnapshot p.version closed)
      pure closed) w₁
    rw [hconfirm]
    refine .lift_bind ?_
    have hsucceeds : SqliteExecutionStore.Succeeds p s :=
      ⟨by rw [hfields]; rfl, by rw [hfields]; rfl, by rw [hfields]; rfl, by rw [hfields]; rfl⟩
    exact settles_transition (Eq.trans hw₁ hrow) hsucceeds
      fun w' hw' => ⟨s, a.now, rfl, hw', hfields⟩
  · refine settles_setReconciling hrow h fun s w' hw' hfields => ?_
    obtain ⟨updatedAt, hfields⟩ := hfields
    exact ⟨s, updatedAt, rfl, hw', hfields⟩

end Parts

/-! ## Calls -/

section Calls

variable {key : String} {p : ProtectionSnapshot} {terminal : LiveExecutionState} {w : World}

/-- What one call makes of the row: closed if nothing spoke against it, suspended otherwise. -/
def Decided (key : String) (p : ProtectionSnapshot) (terminal : LiveExecutionState)
    (outcome : Except Failure (Inspection × ProtectionSnapshot)) (w' : World) : Prop :=
  ∃ seen s updatedAt, outcome = .ok (seen, s) ∧ w'.store.loadProtectionSnapshot key = some s ∧
    s.toProtectionFields =
      if seen.isClear p then closedFields p terminal updatedAt else suspendedFields p updatedAt

theorem settles_reconcile (hrow : w.store.loadProtectionSnapshot key = some p)
    (h : Exited p terminal) :
    Settles key (Decided key p terminal) (reconcileAndInspect key) w := by
  refine .call_bind fun w₁ hw₁ a _ => ?_
  have hcall : handle a (.loadProtectionSnapshot key) w₁ = (.ok (some p), w₁) :=
    Prod.ext (congrArg Except.ok (Eq.trans hw₁ hrow)) rfl
  rw [hcall]
  refine .lift_bind ?_
  rw [refuseIf, if_neg (not_not.mpr h.state)]
  refine .bind (.refl key) ((settles_inspectExits p w₁).imp ?_)
  rintro outcome w₂ ⟨⟨seen, rfl⟩, hw₂⟩
  have hrow₂ : w₂.store.loadProtectionSnapshot key = some p := Eq.trans (hw₁.trans hw₂) hrow
  refine .bind (.refl key) ((settles_closeOrSuspend hrow₂ h seen).imp ?_)
  rintro outcome w₃ ⟨s, updatedAt, rfl, hrow₃, hfields⟩
  intro w₄ hw₄
  exact ⟨seen, s, updatedAt, rfl, Eq.trans hw₄ hrow₃, hfields⟩

/-- The refusal of the guard. -/
def notCancelPending : Failure := .valueError "exit reconciliation requires CANCEL_PENDING state"

/-- In any other state the guard refuses, and the row stays. -/
theorem settles_refused (hrow : w.store.loadProtectionSnapshot key = some p)
    (hstate : p.state ≠ .cancelPending) :
    Settles key (fun outcome w' => outcome = .error notCancelPending ∧
      w'.store.loadProtectionSnapshot key = some p) (reconcileAndInspect key) w := by
  refine .call_bind fun w₁ hw₁ a _ => ?_
  have hcall : handle a (.loadProtectionSnapshot key) w₁ = (.ok (some p), w₁) :=
    Prod.ext (congrArg Except.ok (Eq.trans hw₁ hrow)) rfl
  rw [hcall]
  refine .lift_bind ?_
  rw [refuseIf, if_pos hstate]
  intro w₂ hw₂
  exact ⟨rfl, Eq.trans hw₂ (Eq.trans hw₁ hrow)⟩

/-- Any number of calls, one after the other, and whatever the other levels do between them. -/
inductive Attempts (key : String) :
    List (Except Failure (Inspection × ProtectionSnapshot)) → World → World → Prop
  | nil {w w' : World} : SameRow key w w' → Attempts key [] w w'
  | cons {w w₁ w₂ w' : World} {outcome : Except Failure (Inspection × ProtectionSnapshot)}
      {outcomes : List (Except Failure (Inspection × ProtectionSnapshot))} :
      SameRow key w w₁ → Attempt key (reconcileAndInspect key) w₁ outcome w₂ →
      Attempts key outcomes w₂ w' → Attempts key (outcome :: outcomes) w w'

/-- Once the guard refuses, it always does. -/
theorem Attempts.refused {outcomes : List (Except Failure (Inspection × ProtectionSnapshot))}
    {w' : World} (h : Attempts key outcomes w w')
    (hrow : w.store.loadProtectionSnapshot key = some p) (hstate : p.state ≠ .cancelPending) :
    (∀ outcome ∈ outcomes, outcome = .error notCancelPending) ∧
      w'.store.loadProtectionSnapshot key = some p := by
  induction h with
  | nil hw => exact ⟨fun _ h => absurd h (by simp), Eq.trans hw hrow⟩
  | @cons w w₁ w₂ w' outcome outcomes hw hattempt _ ih =>
    have hrow₁ : w₁.store.loadProtectionSnapshot key = some p := Eq.trans hw hrow
    obtain ⟨rfl, hrow₂⟩ := (settles_refused hrow₁ hstate).runsAmong hattempt
    obtain ⟨hlater, hend⟩ := ih hrow₂
    refine ⟨fun outcome hmem => ?_, hend⟩
    rcases List.mem_cons.mp hmem with rfl | hmem
    · rfl
    · exact hlater outcome hmem

/-- The fill that closes the position leaves the level like this. -/
theorem Exited.of_applyExitExecution {p₀ : ProtectionSnapshot} {e : ExecutionUpdate}
    {updatedAt : Time} (h : applyExitExecution p₀ e updatedAt = .ok p)
    (hopen : p.openQuantity = 0) : ∃ terminal, Exited p terminal := by
  have hfields := (applyExitExecution_eq_ok_iff.mp h).2.2.2
  have hzero : p₀.openQuantity - e.quantity = 0 := by
    rw [hfields] at hopen
    exact hopen
  have hstate : p.state = .cancelPending := by
    rw [hfields]
    exact if_pos hzero
  obtain ⟨terminal, hterminal⟩ :=
    Option.ne_none_iff_exists'.mp (p.valid.cancelPending hstate).2
  exact ⟨terminal, hstate, hterminal⟩

end Calls

/-! ## A sibling's fill that was not recorded yet

Level 1 has taken its profit; level 2 was stopped out at the exchange. -/

def tpFillOne : FillReport := reportOf (exitFill 1 (tpIdOf 1) 1 1990) (by decide +kernel)

def stopFillTwo : FillReport := reportOf (exitFill 2 (stopIdOf 2) 1 2010) (by decide +kernel)

def record (r : FillReport) (w : World) : Option (ProtectionSnapshot × World) :=
  succeeded (ProtectiveExitService.applyExitExecution r.execution r.receivedAt r.payloadHash)
    (List.replicate 4 {}) w

/-- Nothing open, no position. -/
def flat : Answers where
  openOrders := .ok []
  positions := .ok []
  cancelled := .error (.uncertainOrderOutcome "cancel order")

theorem answering_flat : flat.Answering := ⟨rfl, rfl, .inr ⟨_, rfl⟩⟩

/-- A call for level 1 on a flat exchange. -/
def reconcileFlat (w : World) :
    Option (Except Failure (Inspection × ProtectionSnapshot) × World) :=
  execute handle (reconcileAndInspect (entryIdOf 1)) (List.replicate 8 flat) w

theorem attempt_reconcileFlat {w w' : World}
    {outcome : Except Failure (Inspection × ProtectionSnapshot)}
    (h : reconcileFlat w = some (outcome, w')) :
    Attempt (entryIdOf 1) (reconcileAndInspect (entryIdOf 1)) w outcome w' := by
  refine runsAmong_of_execute (.refl _) (fun a ha _ _ => ?_) h
  rw [List.eq_of_mem_replicate ha]
  exact answering_flat

/-- Both fills are recorded before level 1 is reconciled. -/
def recordedBoth : Option (ProtectionSnapshot × World) := do
  let w ← protectedTwo
  let (p, w₁) ← record tpFillOne w
  let (_, w₂) ← record stopFillTwo w₁
  pure (p, w₂)

/-- Only level 1's fill is recorded. -/
def recordedOne : Option (ProtectionSnapshot × World) := do
  let w ← protectedTwo
  record tpFillOne w

end CreditHedge
