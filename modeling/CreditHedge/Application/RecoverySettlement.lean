import CreditHedge.Application.RecoveryDebts
import CreditHedge.Domain.RecoveryPlanning

/-!
# Settling a submitted recovery

A recovery is planned for the zone budget and the confirmed debt together, so a level without
debt is hedged again as well. Its debt is then allocated, which leaves an allocation of zero, and
an allocation of zero is what `settle_take_profit` and `record_recovery_stop_debt` take for the
absence of a hedge: both raise, the second one with a stop loss to record.

So a submitted hedge can be settled exactly if there was debt when it was submitted
(`settleable_iff`). Everything else is accepted, by the store too: both methods read the row they
write and nothing comes in between.
-/

set_option autoImplicit false

namespace CreditHedge

open Coroutine OneLevelEntryService SameLevelRecoveryService

/-! ## The submission -/

/-- Before the order is sent: neither the debts nor what the exchange has changes. -/
structure Prepares (w w' : World) : Prop where
  recoveryDebts : KeepsDebts w w'
  accepted : w'.accepted = w.accepted

theorem Prepares.refl (w : World) : Prepares w w := ⟨.refl w, rfl⟩

theorem Prepares.trans {w₁ w₂ w₃ : World} (h : Prepares w₁ w₂) (h' : Prepares w₂ w₃) :
    Prepares w₁ w₃ :=
  ⟨h.recoveryDebts.trans h'.recoveryDebts, h'.accepted.trans h.accepted⟩

/-- A submission with an order to show for it: the exchange has taken one on, and the service does
    not report it as failed. -/
structure Places {α : Type} (w : World) (outcome : Except Failure α) (w' : World) : Prop where
  taken : w'.accepted ≠ w.accepted
  unfailed : ∀ failure, outcome = .error failure → failure.IsUncertain

section Submission

variable {levelId : ℕ} {w w' : World}

theorem accepted_write (w : World) (result : Except Failure SqliteExecutionStore) :
    (w.write result).2.accepted = w.accepted := by
  cases result <;> rfl

theorem prepares_persistEntryIntent (request : PlaceOrderRequest) :
    Guarantees handle Prepares (persistEntryIntent request) := by
  refine .call_bind (fun _ w => .refl w) fun _ => .lift_bind fun _ _ => ?_
  refine .call_bind (fun _ w => ⟨keepsDebts_write fun _ hr => ?_, accepted_write w _⟩) fun _ => .done
  obtain ⟨_, _, hstore⟩ := SqliteExecutionStore.persistEntryIntent_eq_ok hr
  rw [hstore]

theorem prepares_applyEntryGate (hasEntryGate : Bool) (plan : RecoveryEntryPlan) :
    Guarantees handle Prepares (applyEntryGate hasEntryGate plan) := by
  unfold applyEntryGate
  split
  · refine .call_bind (fun _ w => .refl w) fun allowed => ?_
    cases allowed <;> exact .done
  · exact .done

/-- A part of a submission before its order, and what follows it: a submission that places its
    order does not end there. -/
theorem runs_preparing_bind {α β : Type} {t : Service α} {f : α → Service β}
    {outcome : Except Failure β} {w₀ : World} (hprepares : Guarantees handle Prepares t)
    (hw : Prepares w₀ w) (hplaces : Places w₀ outcome w')
    (h : Coroutine.Runs handle (t >>= f) w outcome w') :
    ∃ a w₁, Prepares w₀ w₁ ∧ Coroutine.Runs handle (f a) w₁ outcome w' := by
  rcases runs_bind.mp h with ⟨a, w₁, ht, hf⟩ | ⟨failure, ht, -⟩
  · exact ⟨a, w₁, hw.trans (ht.guaranteed Prepares.refl Prepares.trans hprepares), hf⟩
  · have hkept := hw.trans (ht.guaranteed Prepares.refl Prepares.trans hprepares)
    exact absurd hkept.accepted hplaces.taken

theorem runs_allocateAndSubmit_places {orderLinkId : String} {current : RecoveryDebtSnapshot}
    {plan : RecoveryEntryPlan} {quantity : ℚ} {outcome : Except Failure RecoverySubmission}
    {w₀ : World} (hlevel : current.levelId = levelId) (hw : Prepares w₀ w)
    (hplaces : Places w₀ outcome w')
    (h : Coroutine.Runs handle (allocateAndSubmit orderLinkId current plan quantity) w outcome
      w') :
    ∃ allocated, allocateConfirmedDebt current.debt = .ok allocated ∧
      w'.debtOf levelId = some allocated := by
  obtain ⟨request, w₁, h₁, h⟩ := runs_preparing_bind .done hw hplaces h
  obtain ⟨entry, w₂, h₂, h⟩ := runs_preparing_bind (prepares_persistEntryIntent request) h₁ hplaces h
  rcases runs_allocateThenSubmit hlevel h with
    ⟨-, rfl⟩ | ⟨allocated, hallocate, hsame | ⟨⟨failure, hraised, hcertain⟩, -⟩⟩
  · exact absurd h₂.accepted hplaces.taken
  · exact ⟨allocated, hallocate, hsame⟩
  · exact absurd (hplaces.unfailed failure hraised) hcertain

/-- **A submission that places its order leaves the debt allocated**: all that was confirmed, which
    may be nothing. -/
theorem runs_submitRecovery_places {planner : RecoveryPlanner} {hasEntryGate : Bool}
    {level : HedgeLevel} {orderLinkId : String} {outcome : Except Failure RecoverySubmission}
    (hlevel : level.levelId = levelId)
    (h : Coroutine.Runs handle (submitRecovery planner hasEntryGate level orderLinkId) w outcome
      w') (hplaces : Places w outcome w') :
    ∃ debt allocated, w.debtOf levelId = some debt ∧
      w'.debtOf levelId = some allocated ∧ allocated.allocatedDebt = debt.confirmedDebt := by
  subst hlevel
  obtain ⟨a, h⟩ := runs_call.mp h
  have hanswer : (handle a (.loadRecoveryDebtSnapshot level.levelId) w).1 =
      .ok (w.store.loadRecoveryDebtSnapshot level.levelId) := rfl
  rw [hanswer] at h
  cases hload : w.store.loadRecoveryDebtSnapshot level.levelId with
  | none =>
    rw [hload] at h
    obtain ⟨-, rfl⟩ := runs_throw.mp h
    exact absurd rfl hplaces.taken
  | some current =>
    rw [hload] at h
    have h : Coroutine.Runs handle (liftM (planner level current.debt) >>= fun planned =>
        applyEntryGate hasEntryGate planned >>= submitPlan orderLinkId current) w outcome w' := h
    obtain ⟨planned, w₁, h₁, h⟩ := runs_preparing_bind .done (.refl w) hplaces h
    obtain ⟨plan, w₂, h₂, h⟩ :=
      runs_preparing_bind (prepares_applyEntryGate hasEntryGate planned) h₁ hplaces h
    unfold submitPlan at h
    split at h
    · obtain ⟨allocated, hallocate, hdebt⟩ :=
        runs_allocateAndSubmit_places (levelId_of_load hload) h₂ hplaces h
      exact ⟨current.debt, allocated, debtOf_of_load hload, hdebt,
        (allocateConfirmedDebt_eq_ok hallocate).1⟩
    · obtain ⟨-, rfl⟩ := runs_pure.mp h
      exact absurd h₂.accepted hplaces.taken

end Submission

/-! ## The settlement -/

/-- The run ended without an exception, and nothing of the level's debt is allocated any more. -/
structure SettlesDebt {α : Type} (levelId : ℕ) (outcome : Except Failure α) (w' : World) : Prop where
  accepted : outcome.isOk = true
  unallocated : ∀ debt, w'.debtOf levelId = some debt → debt.allocatedDebt = 0

/-- The hedge of the level can be settled: its take-profit of any amount and for any zone budget,
    and its stop with any debt. -/
structure Settleable (levelId : ℕ) (w : World) : Prop where
  takeProfit : ∀ realized zone, 0 ≤ zone → ∀ outcome w', Coroutine.Runs RecoveryCall.handle
    (settleTakeProfit levelId realized zone) w outcome w' → SettlesDebt levelId outcome w'
  stop : ∀ actual projected, 0 ≤ actual → 0 ≤ projected → ∀ outcome w',
    Coroutine.Runs RecoveryCall.handle (recordRecoveryStopDebt levelId actual projected) w outcome
      w' → SettlesDebt levelId outcome w'

/-- The two calls that settle a hedge. -/
def DebtCall.settles : DebtCall → Bool
  | .settleTakeProfit .. | .recordRecoveryStopDebt .. => true
  | _ => false

section Settlement

variable {levelId : ℕ} {w w' : World}

/-- A row that was just read is still what it was. -/
theorem exists_transitionRecoveryDebtSnapshot {current : RecoveryDebtSnapshot}
    (hload : w.store.loadRecoveryDebtSnapshot levelId = some current) (debt : RecoveryDebtState)
    (updatedAt : Time) : ∃ store', w.store.transitionRecoveryDebtSnapshot current.version
      (current.updated debt updatedAt) = .ok store' := by
  have hfind : w.store.recoveryDebts.find (current.updated debt updatedAt).levelId =
      some current := (levelId_of_load hload).symm ▸ hload
  obtain ⟨recoveryDebts, hswap⟩ : ∃ recoveryDebts, w.store.recoveryDebts.swap
      (fun d => d.version) current.version (current.updated debt updatedAt) = some recoveryDebts :=
    KeyedTable.exists_swap hfind rfl
  refine ⟨{ w.store with recoveryDebts, constraints := ?_ }, ?_⟩
  · exact ⟨w.store.constraints.stopIds, w.store.constraints.tpIds,
      w.store.constraints.entryIntents, w.store.constraints.executionIntents,
      w.store.constraints.protectionIntents⟩
  · unfold SqliteExecutionStore.transitionRecoveryDebtSnapshot
    refine bind_unit_eq_ok.mpr ⟨refuseIf_eq_ok.mpr (not_not.mpr rfl), ?_⟩
    exact bind_eq_ok.mpr ⟨recoveryDebts, by rw [hswap]; rfl,
      SqliteExecutionStore.commit_eq_ok.mpr rfl⟩

theorem settles_transitionDebt {current : RecoveryDebtSnapshot} {debt : RecoveryDebtState}
    {outcome : Except Failure RecoveryDebtSnapshot}
    (hload : w.store.loadRecoveryDebtSnapshot levelId = some current)
    (hdebt : debt.allocatedDebt = 0)
    (h : Coroutine.Runs RecoveryCall.handle (transitionDebt current debt) w outcome w') :
    SettlesDebt levelId outcome w' := by
  obtain ⟨updatedAt, h⟩ := runs_clock h
  obtain ⟨store', hresult⟩ := exists_transitionRecoveryDebtSnapshot hload debt updatedAt
  have hanswer : ∀ a, RecoveryCall.handle a (.port (.transitionRecoveryDebtSnapshot
      current.version (current.updated debt updatedAt))) w =
        (.ok (), { w with store := store' }) := fun _ => congrArg w.write hresult
  have hrest := (runs_call_bind hanswer).mp h
  obtain ⟨rfl, rfl⟩ := runs_pure.mp hrest
  refine ⟨rfl, fun after hafter => ?_⟩
  have hwritten : World.debtOf { w with store := store' } levelId = some debt :=
    debtOf_transition (levelId_of_load hload) hresult
  obtain rfl : debt = after := Option.some.inj (hwritten.symm.trans hafter)
  exact hdebt

/-- The row behind a level's debt. -/
theorem exists_load {debt : RecoveryDebtState} (h : w.debtOf levelId = some debt) :
    ∃ current, w.store.loadRecoveryDebtSnapshot levelId = some current ∧ current.debt = debt :=
  Option.map_eq_some_iff.mp h

/-- **With debt allocated, the hedge can be settled.** -/
theorem settleable_of_allocated {debt : RecoveryDebtState} (h : w.debtOf levelId = some debt)
    (hallocated : debt.allocatedDebt ≠ 0) : Settleable levelId w := by
  obtain ⟨current, hload, rfl⟩ := exists_load h
  constructor
  · intro realized zone hzone outcome w' hrun
    have hrun := runs_load hrun
    rw [hload] at hrun
    have hrest := runs_lift_bind.mp hrun
    cases hsettled : settleRecoveryTakeProfit current.debt realized zone with
    | ok settled =>
      rw [hsettled] at hrest
      exact settles_transitionDebt hload (settleRecoveryTakeProfit_eq_ok hsettled).2 hrest
    | error failure =>
      -- it raises only where nothing is allocated or the budget is negative
      unfold settleRecoveryTakeProfit at hsettled
      rw [if_neg hallocated, if_neg (not_lt.mpr hzone)] at hsettled
      cases hsettled
  · intro actual projected hactual hprojected outcome w' hrun
    have hrun := runs_load hrun
    rw [hload] at hrun
    dsimp only at hrun
    rw [if_neg hallocated] at hrun
    -- the allocation is released first, so the stop goes onto a debt of which nothing is allocated
    obtain ⟨base, hbase⟩ : ∃ base,
        (releaseAllocatedDebt current.debt).withProjectedDebt projected = .ok base :=
      ⟨_, dif_neg (not_lt.mpr hprojected)⟩
    obtain ⟨stopped, hstopped⟩ : ∃ stopped, addConfirmedStopDebt base actual = .ok stopped :=
      ⟨_, dif_neg (not_lt.mpr hactual)⟩
    have hrest := runs_lift_bind.mp hrun
    rw [hbase] at hrest
    have hrest := runs_lift_bind.mp hrest
    rw [hstopped] at hrest
    have hzero : stopped.allocatedDebt = 0 := by
      rw [(addConfirmedStopDebt_eq_ok hstopped).2, (withProjectedDebt_eq_ok hbase).2,
        (releaseAllocatedDebt_debts _).2]
    exact settles_transitionDebt hload hzero hrest

/-- With nothing allocated there is no settling: a take-profit raises. -/
theorem allocated_of_settleable {debt : RecoveryDebtState} (h : w.debtOf levelId = some debt)
    (hsettleable : Settleable levelId w) : debt.allocatedDebt ≠ 0 := by
  intro hzero
  obtain ⟨current, hload, rfl⟩ := exists_load h
  have hraises : Coroutine.Runs RecoveryCall.handle (settleTakeProfit levelId 0 0) w
      (.error (.valueError "recovery TP requires explicitly allocated debt")) w := by
    have hanswer : ∀ a, RecoveryCall.handle a (.port (.loadRecoveryDebtSnapshot levelId)) w =
        (.ok (some current), w) := fun _ => congrArg (fun row => (Except.ok row, w)) hload
    have hrefused : settleRecoveryTakeProfit current.debt 0 0 =
        .error (.valueError "recovery TP requires explicitly allocated debt") := if_pos hzero
    refine (runs_call_bind hanswer).mpr (runs_lift_bind.mpr ?_)
    rw [hrefused]
    exact ⟨rfl, rfl⟩
  have haccepted := (hsettleable.takeProfit 0 0 le_rfl _ _ hraises).accepted
  exact absurd haccepted (by simp [Except.isOk, Except.toBool])

/-- Recording another stop leaves an allocation as it is, and so does a submission, which refuses
    to allocate twice. -/
theorem DebtEntry.Possible.keepsAllocated {entry : DebtEntry} (h : entry.Possible)
    (hcall : entry.call.settles = false) {debt : RecoveryDebtState}
    (hbefore : entry.before = some debt) (hallocated : debt.allocatedDebt ≠ 0) :
    ∃ after, entry.after = some after ∧ after.allocatedDebt = debt.allocatedDebt := by
  obtain ⟨call, returned, before, after⟩ := entry
  cases h with
  | refused => exact ⟨debt, hbefore, rfl⟩
  | unapproved => exact ⟨debt, hbefore, rfl⟩
  | @stopped _ _ _ base stopped hbase hstopped =>
    obtain rfl := hbefore
    refine ⟨stopped, rfl, ?_⟩
    rw [(addConfirmedStopDebt_eq_ok hstopped).2, (withProjectedDebt_eq_ok hbase).2]
  | submitted _ hallocate =>
    obtain rfl := Option.some.inj hbefore
    exact absurd (allocateConfirmedDebt_unallocated hallocate) hallocated
  | released hallocate =>
    obtain rfl := Option.some.inj hbefore
    exact absurd (allocateConfirmedDebt_unallocated hallocate) hallocated
  | settled => cases hcall
  | stoppedAgain => cases hcall

/-- An allocation outlives every call of the service but a settlement. -/
theorem allocated_after {entries : List DebtEntry} (h : DebtRun levelId w entries w')
    (hbetween : ∀ entry ∈ entries, entry.call.settles = false) {debt : RecoveryDebtState}
    (hdebt : w.debtOf levelId = some debt) (hallocated : debt.allocatedDebt ≠ 0) :
    ∃ after, w'.debtOf levelId = some after ∧ after.allocatedDebt ≠ 0 := by
  induction h with
  | nil => exact ⟨debt, hdebt, hallocated⟩
  | elsewhere _ hkeeps ih =>
    rw [hkeeps.debtOf]
    exact ih hbetween
  | @call entries w₁ w₂ call returned _ hcall ih =>
    obtain ⟨before, hbefore, hstill⟩ := ih fun entry hentry =>
      hbetween entry (List.mem_append_left _ hentry)
    have hpossible : DebtEntry.Possible ⟨call, returned, w₁.debtOf levelId, w₂.debtOf levelId⟩ :=
      runs_effect hcall
    have hsettles := hbetween _ (List.mem_append_right _ (List.mem_singleton.mpr rfl))
    obtain ⟨after, hafter, hkept⟩ := hpossible.keepsAllocated hsettles hbefore hstill
    exact ⟨after, hafter, hkept ▸ hstill⟩

/-- **When a submitted hedge can be settled**: exactly if the level had confirmed debt when it was
    submitted. It then still can after other calls on the level, as long as none settles it. -/
theorem settleable_iff {planner : RecoveryPlanner} {hasEntryGate : Bool} {level : HedgeLevel}
    {orderLinkId : String} {outcome : Except Failure RecoverySubmission}
    (hlevel : level.levelId = levelId)
    (hsubmit : Coroutine.Runs handle (submitRecovery planner hasEntryGate level orderLinkId) w
      outcome w') (hplaces : Places w outcome w') :
    (Settleable levelId w' ↔ ∃ debt, w.debtOf levelId = some debt ∧ debt.confirmedDebt ≠ 0) ∧
    ((∃ debt, w.debtOf levelId = some debt ∧ debt.confirmedDebt ≠ 0) →
      ∀ entries later, DebtRun levelId w' entries later →
        (∀ entry ∈ entries, entry.call.settles = false) → Settleable levelId later) := by
  obtain ⟨debt, allocated, hdebt, hallocated, hsame⟩ :=
    runs_submitRecovery_places hlevel hsubmit hplaces
  have howed : (∃ debt, w.debtOf levelId = some debt ∧ debt.confirmedDebt ≠ 0) ↔
      allocated.allocatedDebt ≠ 0 := by
    rw [hdebt, hsame]
    exact ⟨fun ⟨_, h, hne⟩ => Option.some.inj h ▸ hne, fun hne => ⟨debt, rfl, hne⟩⟩
  rw [howed]
  refine ⟨⟨allocated_of_settleable hallocated, settleable_of_allocated hallocated⟩,
    fun hne entries later hrun hbetween => ?_⟩
  obtain ⟨after, hafter, hstill⟩ := allocated_after hrun hbetween hallocated hne
  exact settleable_of_allocated hafter hstill

end Settlement

/-! ## A level hedged again without debt -/

/-- The account while the level's stop is unpaid. -/
theorem five_nonneg : (0 : ℚ) ≤ 5 := by norm_num

def owingState : RiskState :=
  { calmState with confirmedRecoveryDebt := 5, confirmedRecoveryDebt_nonneg := five_nonneg }

/-- The planner as the service calls it. -/
def ethPlanner : RecoveryPlanner := fun level debt =>
  SameLevelRecoveryPlanner.plan level debt ethPerp owingState wideLimits

/-- The hedge of the stop of five. -/
def hedgedDebt : World :=
  leftBy handle (submitRecovery ethPlanner false stoppedLevel recoveryId) acknowledges afterStop

/-- Its take-profit: ten, of which five are the zone's and five pay the debt. -/
def paidOff : World := leftBy RecoveryCall.handle (settleTakeProfit 1 10 5) {} hedgedDebt

def secondHedgeId : String := "ECH-A-C0001-L01-ENTRY-A03-0000"

/-- The exchange takes the second hedge and says so. -/
def acknowledgesSecond : Answers where
  placed := .ok
    { requestKind := .place, orderId := "recovery-2", orderLinkId := secondHedgeId
      acknowledgedAt := 0 }

/-- The level is hedged once more, for its zone budget alone. -/
def hedgedNothing : World :=
  leftBy handle (submitRecovery ethPlanner false stoppedLevel secondHedgeId) acknowledgesSecond
    paidOff

/-- A run that returned and left the exchange with another order has placed it. -/
theorem Places.of_returned {α : Type} {w w' : World} {outcome : Except Failure α}
    (htaken : w'.accepted ≠ w.accepted) (hreturned : outcome.isOk = true) :
    Places w outcome w' := by
  refine ⟨htaken, fun failure hfailure => ?_⟩
  rw [hfailure] at hreturned
  cases hreturned

theorem settleable_iff_hedgedDebt : Settleable 1 hedgedDebt := by
  obtain ⟨outcome, hsubmit, hreturned⟩ : ∃ outcome, Coroutine.Runs handle
      (submitRecovery ethPlanner false stoppedLevel recoveryId) afterStop outcome hedgedDebt ∧
        outcome.isOk = true := runs_leftBy _ (by decide +kernel)
  obtain ⟨debt, hdebt, hfive⟩ := Option.map_eq_some_iff.mp
    (by decide +kernel : (afterStop.debtOf 1).map (fun debt => debt.confirmedDebt) = some 5)
  have hplaces : Places afterStop outcome hedgedDebt :=
    .of_returned (by decide +kernel) hreturned
  refine (settleable_iff rfl hsubmit hplaces).1.mpr ⟨debt, hdebt, ?_⟩
  rw [hfive]
  decide +kernel

/-- **A hedge that cannot be settled**: of a level whose debt was stopped, hedged and paid. Neither
    a take-profit nor a stop of it is accepted. -/
theorem second_hedge_unsettleable :
    ∃ entries outcome, DebtRun 1 nothingRecorded entries paidOff ∧
      Coroutine.Runs handle (submitRecovery ethPlanner false stoppedLevel secondHedgeId) paidOff
        outcome hedgedNothing ∧
      Places paidOff outcome hedgedNothing ∧ ¬ Settleable 1 hedgedNothing := by
  obtain ⟨stopped, hstop, -⟩ : ∃ outcome, Coroutine.Runs RecoveryCall.handle
      (recordConfirmedStopDebt 1 5 7) nothingRecorded outcome afterStop ∧ outcome.isOk = true :=
    runs_leftBy _ (by decide +kernel)
  obtain ⟨hedged, hhedge, -⟩ : ∃ outcome, Coroutine.Runs handle
      (submitRecovery ethPlanner false stoppedLevel recoveryId) afterStop outcome hedgedDebt ∧
        outcome.isOk = true := runs_leftBy _ (by decide +kernel)
  obtain ⟨paid, hpaid, -⟩ : ∃ outcome, Coroutine.Runs RecoveryCall.handle
      (settleTakeProfit 1 10 5) hedgedDebt outcome paidOff ∧ outcome.isOk = true :=
    runs_leftBy _ (by decide +kernel)
  obtain ⟨outcome, hsubmit, hreturned⟩ : ∃ outcome, Coroutine.Runs handle
      (submitRecovery ethPlanner false stoppedLevel secondHedgeId) paidOff outcome hedgedNothing ∧
        outcome.isOk = true := runs_leftBy _ (by decide +kernel)
  obtain ⟨debt, hdebt, hzero⟩ := Option.map_eq_some_iff.mp
    (by decide +kernel : (hedgedNothing.debtOf 1).map (fun debt => debt.allocatedDebt) = some 0)
  refine ⟨_, outcome, ((DebtRun.nil.call (.recordConfirmedStopDebt hstop)).call
    (.submitRecovery rfl hhedge)).call (.settleTakeProfit hpaid), hsubmit,
    .of_returned (by decide +kernel) hreturned, fun hsettleable => ?_⟩
  exact allocated_of_settleable hdebt hsettleable hzero

end CreditHedge
