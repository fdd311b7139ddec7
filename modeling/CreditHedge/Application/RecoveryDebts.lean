import CreditHedge.Application.RecoveryAllocation
import Mathlib.Algebra.BigOperators.Group.List.Basic

/-!
# A level's books over many calls

What the service does to the debt of one level is one of eight things (`Effect`), whatever the
planner says, the exchange answers and the store refuses: nothing at all, a stop recorded, a
payment settled, an allocation made, an allocation made and released again. `runs_effect` is
that inversion, once for each method; what follows about sequences of calls is about `Effect` and
never opens a method again.

A sequence is `DebtRun`: the calls of the service on one level, one after another, with anything
in between that leaves the debts alone. Its entries keep each call with the debt before and after,
and `recovery_debt_conserved` is the books: what is confirmed is what was recorded less what was
paid, whichever calls raised.
-/

set_option autoImplicit false

namespace CreditHedge

open Coroutine OneLevelEntryService SameLevelRecoveryService

/-- The debt of a level, if it has a record. -/
def World.debtOf (w : World) (levelId : ℕ) : Option RecoveryDebtState :=
  (w.store.loadRecoveryDebtSnapshot levelId).map fun row => row.debt

/-! ## One call -/

/-- A call of the service on a level. -/
inductive DebtCall where
  | recordConfirmedStopDebt (actualStopDebt projectedDebt : ℚ)
  | submitRecovery (planner : RecoveryPlanner) (hasEntryGate : Bool) (level : HedgeLevel)
      (orderLinkId : String)
  | settleTakeProfit (realizedTakeProfit zoneBudget : ℚ)
  | recordRecoveryStopDebt (actualStopDebt projectedDebt : ℚ)

/-- The call, run to its end: whether it returned, and the world it left. -/
inductive DebtCall.Runs (levelId : ℕ) : DebtCall → World → Bool → World → Prop
  | recordConfirmedStopDebt {actual projected : ℚ} {w w' : World}
      {outcome : Except Failure RecoveryDebtSnapshot} :
      Coroutine.Runs RecoveryCall.handle
        (SameLevelRecoveryService.recordConfirmedStopDebt levelId actual projected) w outcome w' →
      Runs levelId (.recordConfirmedStopDebt actual projected) w outcome.isOk w'
  | submitRecovery {planner : RecoveryPlanner} {hasEntryGate : Bool} {level : HedgeLevel}
      {orderLinkId : String} {w w' : World} {outcome : Except Failure RecoverySubmission} :
      level.levelId = levelId →
      Coroutine.Runs handle
        (SameLevelRecoveryService.submitRecovery planner hasEntryGate level orderLinkId) w outcome
        w' →
      Runs levelId (.submitRecovery planner hasEntryGate level orderLinkId) w outcome.isOk w'
  | settleTakeProfit {realized zone : ℚ} {w w' : World}
      {outcome : Except Failure RecoveryDebtSnapshot} :
      Coroutine.Runs RecoveryCall.handle
        (SameLevelRecoveryService.settleTakeProfit levelId realized zone) w outcome w' →
      Runs levelId (.settleTakeProfit realized zone) w outcome.isOk w'
  | recordRecoveryStopDebt {actual projected : ℚ} {w w' : World}
      {outcome : Except Failure RecoveryDebtSnapshot} :
      Coroutine.Runs RecoveryCall.handle
        (SameLevelRecoveryService.recordRecoveryStopDebt levelId actual projected) w outcome w' →
      Runs levelId (.recordRecoveryStopDebt actual projected) w outcome.isOk w'

/-- The debt a stop is added to: the level's with the new projection, or an empty one. -/
def projectedOnto (projected : ℚ) : Option RecoveryDebtState → Except Failure RecoveryDebtState
  | none => RecoveryDebtState.empty projected
  | some debt => debt.withProjectedDebt projected

/-- What a call does to the debt of its level. -/
inductive Effect : DebtCall → Option RecoveryDebtState → Bool → Option RecoveryDebtState → Prop
  | refused (call : DebtCall) (debt : Option RecoveryDebtState) : Effect call debt false debt
  | stopped {actual projected : ℚ} {debt : Option RecoveryDebtState}
      {base stopped : RecoveryDebtState} :
      projectedOnto projected debt = .ok base → addConfirmedStopDebt base actual = .ok stopped →
      Effect (.recordConfirmedStopDebt actual projected) debt true (some stopped)
  | unapproved {planner : RecoveryPlanner} {hasEntryGate : Bool} {level : HedgeLevel}
      {orderLinkId : String} (debt : Option RecoveryDebtState) :
      Effect (.submitRecovery planner hasEntryGate level orderLinkId) debt true debt
  | submitted {planner : RecoveryPlanner} {hasEntryGate : Bool} {level : HedgeLevel}
      {orderLinkId : String} {debt allocated : RecoveryDebtState} (returned : Bool) :
      allocateConfirmedDebt debt = .ok allocated →
      Effect (.submitRecovery planner hasEntryGate level orderLinkId) (some debt) returned
        (some allocated)
  | released {planner : RecoveryPlanner} {hasEntryGate : Bool} {level : HedgeLevel}
      {orderLinkId : String} {debt allocated : RecoveryDebtState} :
      allocateConfirmedDebt debt = .ok allocated →
      Effect (.submitRecovery planner hasEntryGate level orderLinkId) (some debt) false
        (some (releaseAllocatedDebt allocated))
  | settled {realized zone : ℚ} {debt settled : RecoveryDebtState} :
      settleRecoveryTakeProfit debt realized zone = .ok settled →
      Effect (.settleTakeProfit realized zone) (some debt) true (some settled)
  | stoppedAgain {actual projected : ℚ} {debt base stopped : RecoveryDebtState} :
      debt.allocatedDebt ≠ 0 →
      (releaseAllocatedDebt debt).withProjectedDebt projected = .ok base →
      addConfirmedStopDebt base actual = .ok stopped →
      Effect (.recordRecoveryStopDebt actual projected) (some debt) true (some stopped)

/-! ## What the methods do -/

section Methods

variable {levelId : ℕ} {w w' : World}

theorem KeepsDebts.debtOf (h : KeepsDebts w w') : w'.debtOf levelId = w.debtOf levelId := by
  unfold World.debtOf SqliteExecutionStore.loadRecoveryDebtSnapshot
  rw [show w'.store.recoveryDebts = w.store.recoveryDebts from h]

/-- A row of the level, written over. -/
theorem debtOf_transition {current : RecoveryDebtSnapshot} {debt : RecoveryDebtState}
    {updatedAt : Time} {store' : SqliteExecutionStore} (hlevel : current.levelId = levelId)
    (h : w.store.transitionRecoveryDebtSnapshot current.version (current.updated debt updatedAt) =
      .ok store') : World.debtOf { w with store := store' } levelId = some debt := by
  have hkey : levelId = (current.updated debt updatedAt).levelId := hlevel.symm
  unfold World.debtOf
  rw [SqliteExecutionStore.transitionRecoveryDebtSnapshot_eq_ok h, if_pos hkey]
  rfl

/-- The clock shows some time. -/
theorem runs_clock {α : Type} {f : Time → RecoveryMethod α} {outcome : Except Failure α}
    (h : Coroutine.Runs RecoveryCall.handle (awaitRecovery (.port .clock) >>= f) w outcome w') :
    ∃ now, Coroutine.Runs RecoveryCall.handle (f now) w outcome w' := by
  obtain ⟨a, h⟩ := runs_call.mp h
  exact ⟨a.now, h⟩

/-- The level's record is what the store has. -/
theorem runs_load {α : Type} {f : Option RecoveryDebtSnapshot → RecoveryMethod α}
    {outcome : Except Failure α} (h : Coroutine.Runs RecoveryCall.handle
      (awaitRecovery (.port (.loadRecoveryDebtSnapshot levelId)) >>= f) w outcome w') :
    Coroutine.Runs RecoveryCall.handle (f (w.store.loadRecoveryDebtSnapshot levelId)) w outcome
      w' := by
  obtain ⟨a, h⟩ := runs_call.mp h
  exact h

/-- A written row is the level's debt, unless the store refused it. -/
theorem runs_transitionDebt {current : RecoveryDebtSnapshot} {debt : RecoveryDebtState}
    {outcome : Except Failure RecoveryDebtSnapshot} (hlevel : current.levelId = levelId)
    (h : Coroutine.Runs RecoveryCall.handle (transitionDebt current debt) w outcome w') :
    outcome.isOk = true ∧ w'.debtOf levelId = some debt ∨
      outcome.isOk = false ∧ w'.debtOf levelId = w.debtOf levelId := by
  obtain ⟨updatedAt, h⟩ := runs_clock h
  cases hresult : w.store.transitionRecoveryDebtSnapshot current.version
      (current.updated debt updatedAt) with
  | error failure =>
    have hanswer : ∀ a, RecoveryCall.handle a (.port (.transitionRecoveryDebtSnapshot
        current.version (current.updated debt updatedAt))) w = (.error failure, w) := fun _ =>
      congrArg w.write hresult
    obtain ⟨rfl, rfl⟩ := (runs_call_bind hanswer).mp h
    exact .inr ⟨rfl, rfl⟩
  | ok store' =>
    have hanswer : ∀ a, RecoveryCall.handle a (.port (.transitionRecoveryDebtSnapshot
        current.version (current.updated debt updatedAt))) w =
          (.ok (), { w with store := store' }) := fun _ => congrArg w.write hresult
    have hrest := (runs_call_bind hanswer).mp h
    obtain ⟨rfl, rfl⟩ := runs_pure.mp hrest
    exact .inl ⟨rfl, debtOf_transition hlevel hresult⟩

theorem debtOf_of_load {row : Option RecoveryDebtSnapshot}
    (h : w.store.loadRecoveryDebtSnapshot levelId = row) :
    w.debtOf levelId = row.map fun row => row.debt := by
  rw [World.debtOf, h]

theorem levelId_of_load {row : RecoveryDebtSnapshot}
    (h : w.store.loadRecoveryDebtSnapshot levelId = some row) : row.levelId = levelId :=
  (KeyedTable.find_eq_some.mp h).2

/-- The call does one of the things it may do. -/
abbrev HasEffect {α : Type} (levelId : ℕ) (call : DebtCall) (w : World)
    (outcome : Except Failure α) (w' : World) : Prop :=
  Effect call (w.debtOf levelId) outcome.isOk (w'.debtOf levelId)

/-- A check that refuses leaves everything as it is. -/
theorem hasEffect_lift {call : DebtCall} {α β : Type} {x : Except Failure β}
    {f : β → RecoveryMethod α} {outcome : Except Failure α}
    (h : Coroutine.Runs RecoveryCall.handle ((liftM x : RecoveryMethod β) >>= f) w outcome w')
    (hok : ∀ v, x = .ok v → Coroutine.Runs RecoveryCall.handle (f v) w outcome w' →
      HasEffect levelId call w outcome w') : HasEffect levelId call w outcome w' := by
  have hrest := runs_lift_bind.mp h
  cases hx : x with
  | ok v =>
    rw [hx] at hrest
    exact hok v hx hrest
  | error failure =>
    rw [hx] at hrest
    obtain ⟨rfl, rfl⟩ := hrest
    exact .refused _ _

theorem hasEffect_transitionDebt {call : DebtCall} {current : RecoveryDebtSnapshot}
    {debt : RecoveryDebtState} {outcome : Except Failure RecoveryDebtSnapshot}
    (hload : w.store.loadRecoveryDebtSnapshot levelId = some current)
    (h : Coroutine.Runs RecoveryCall.handle (transitionDebt current debt) w outcome w')
    (heffect : Effect call (some current.debt) true (some debt)) :
    HasEffect levelId call w outcome w' := by
  rcases runs_transitionDebt (levelId_of_load hload) h with ⟨hok, hdebt⟩ | ⟨herror, hsame⟩
  · unfold HasEffect
    rw [hok, hdebt, debtOf_of_load hload]
    exact heffect
  · unfold HasEffect
    rw [herror, hsame]
    exact .refused _ _

theorem effect_recordConfirmedStopDebt {actual projected : ℚ}
    {outcome : Except Failure RecoveryDebtSnapshot}
    (h : Coroutine.Runs RecoveryCall.handle (recordConfirmedStopDebt levelId actual projected) w
      outcome w') :
    HasEffect levelId (.recordConfirmedStopDebt actual projected) w outcome w' := by
  have h := runs_load h
  cases hload : w.store.loadRecoveryDebtSnapshot levelId with
  | none =>
    rw [hload] at h
    refine hasEffect_lift h fun empty hempty h => hasEffect_lift h fun debt hdebt h => ?_
    obtain ⟨updatedAt, h⟩ := runs_clock h
    refine hasEffect_lift h fun snapshot hsnapshot h => ?_
    have hnone := debtOf_of_load hload
    obtain ⟨hlevel, hfirst⟩ := RecoveryDebtSnapshot.first_eq_ok hsnapshot
    cases hresult : w.store.persistRecoveryDebtSnapshot snapshot with
    | error failure =>
      have hanswer : ∀ a, RecoveryCall.handle a (.persistRecoveryDebtSnapshot snapshot) w =
          (.error failure, w) := fun _ => congrArg w.write hresult
      obtain ⟨rfl, rfl⟩ := (runs_call_bind hanswer).mp h
      exact .refused _ _
    | ok store' =>
      have hanswer : ∀ a, RecoveryCall.handle a (.persistRecoveryDebtSnapshot snapshot) w =
          (.ok (), { w with store := store' }) := fun _ => congrArg w.write hresult
      have hrest := (runs_call_bind hanswer).mp h
      obtain ⟨rfl, rfl⟩ := runs_pure.mp hrest
      have hdebt' : World.debtOf { w with store := store' } levelId = some debt := by
        unfold World.debtOf
        rw [SqliteExecutionStore.persistRecoveryDebtSnapshot_eq_ok hresult, if_pos hlevel.symm,
          Option.map_some, hfirst]
      unfold HasEffect
      rw [hdebt', hnone]
      exact .stopped hempty hdebt
  | some current =>
    rw [hload] at h
    refine hasEffect_lift h fun base hbase h => hasEffect_lift h fun debt hdebt h => ?_
    exact hasEffect_transitionDebt hload h (.stopped hbase hdebt)

theorem effect_settleTakeProfit {realized zone : ℚ}
    {outcome : Except Failure RecoveryDebtSnapshot}
    (h : Coroutine.Runs RecoveryCall.handle (settleTakeProfit levelId realized zone) w outcome
      w') : HasEffect levelId (.settleTakeProfit realized zone) w outcome w' := by
  have h := runs_load h
  cases hload : w.store.loadRecoveryDebtSnapshot levelId with
  | none =>
    rw [hload] at h
    obtain ⟨rfl, rfl⟩ := runs_throw.mp h
    exact .refused _ _
  | some current =>
    rw [hload] at h
    refine hasEffect_lift h fun debt hdebt h => ?_
    exact hasEffect_transitionDebt hload h (.settled hdebt)

theorem effect_recordRecoveryStopDebt {actual projected : ℚ}
    {outcome : Except Failure RecoveryDebtSnapshot}
    (h : Coroutine.Runs RecoveryCall.handle (recordRecoveryStopDebt levelId actual projected) w
      outcome w') :
    HasEffect levelId (.recordRecoveryStopDebt actual projected) w outcome w' := by
  have h := runs_load h
  cases hload : w.store.loadRecoveryDebtSnapshot levelId with
  | none =>
    rw [hload] at h
    obtain ⟨rfl, rfl⟩ := runs_throw.mp h
    exact .refused _ _
  | some current =>
    rw [hload] at h
    dsimp only at h
    split at h
    · obtain ⟨rfl, rfl⟩ := runs_throw.mp h
      exact .refused _ _
    · rename_i hallocated
      refine hasEffect_lift h fun base hbase h => hasEffect_lift h fun debt hdebt h => ?_
      exact hasEffect_transitionDebt hload h (.stoppedAgain hallocated hbase hdebt)

theorem keepsDebts_persistEntryIntent (request : PlaceOrderRequest) :
    Guarantees handle KeepsDebts (persistEntryIntent request) := by
  refine .call_bind (fun _ _ => rfl) fun _ => .lift_bind fun _ _ => ?_
  refine .call_bind (fun _ _ => keepsDebts_write fun _ hr => ?_) fun _ => .done
  obtain ⟨_, _, hstore⟩ := SqliteExecutionStore.persistEntryIntent_eq_ok hr
  rw [hstore]

theorem keepsDebts_applyEntryGate (hasEntryGate : Bool) (plan : RecoveryEntryPlan) :
    Guarantees handle KeepsDebts (applyEntryGate hasEntryGate plan) := by
  unfold applyEntryGate
  split
  · refine .call_bind (fun _ _ => rfl) fun allowed => ?_
    cases allowed <;> exact .done
  · exact .done

theorem KeepsDebts.refl (w : World) : KeepsDebts w w := rfl

theorem KeepsDebts.trans {w₁ w₂ w₃ : World} (h : KeepsDebts w₁ w₂) (h' : KeepsDebts w₂ w₃) :
    KeepsDebts w₁ w₃ :=
  Eq.trans (show w₃.store.recoveryDebts = _ from h') h

theorem keepsDebts_of_runs {α : Type} {t : Service α} {outcome : Except Failure α}
    (hkeeps : Guarantees handle KeepsDebts t) (h : Coroutine.Runs handle t w outcome w') :
    KeepsDebts w w' :=
  h.guaranteed KeepsDebts.refl KeepsDebts.trans hkeeps

/-- A part of a recovery that keeps the debts, and what follows it. -/
theorem runs_keeping_bind {α β : Type} {t : Service α} {f : α → Service β}
    {outcome : Except Failure β} (hkeeps : Guarantees handle KeepsDebts t)
    (h : Coroutine.Runs handle (t >>= f) w outcome w') :
    (∃ a w₁, KeepsDebts w w₁ ∧ Coroutine.Runs handle (f a) w₁ outcome w') ∨
      outcome.isOk = false ∧ KeepsDebts w w' := by
  rcases runs_bind.mp h with ⟨a, w₁, ht, hf⟩ | ⟨failure, ht, rfl⟩
  · exact .inl ⟨a, w₁, keepsDebts_of_runs hkeeps ht, hf⟩
  · exact .inr ⟨rfl, keepsDebts_of_runs hkeeps ht⟩

/-- The submission leaves the debt allocated, or has released it and raised. -/
theorem runs_submitOrRelease {request : PlaceOrderRequest} {entry : EntryExecutionSnapshot}
    {allocated : RecoveryDebtSnapshot} {outcome : Except Failure EntryExecutionSnapshot}
    (hdebt : w.debtOf levelId = some allocated.debt) (hlevel : allocated.levelId = levelId)
    (h : Coroutine.Runs handle (submitOrRelease request entry allocated) w outcome w') :
    w'.debtOf levelId = some allocated.debt ∨
      (∃ failure, outcome = .error failure ∧ ¬ failure.IsUncertain) ∧
        w'.debtOf levelId = some (releaseAllocatedDebt allocated.debt) := by
  rcases runs_tryCatch.mp h with ⟨a, hsubmit, rfl⟩ | ⟨failure, w₁, hsubmit, hhandler⟩
  · have hkeeps := keepsDebts_of_runs keepsDebts_submitPersistedEntry hsubmit
    exact .inl (hkeeps.debtOf.trans hdebt)
  · have hkeeps := keepsDebts_of_runs keepsDebts_submitPersistedEntry hsubmit
    have hdebt₁ : w₁.debtOf levelId = some allocated.debt := hkeeps.debtOf.trans hdebt
    split at hhandler
    · obtain ⟨rfl, rfl⟩ := runs_throw.mp hhandler
      exact .inl hdebt₁
    · rename_i hother
      have hcertain : ¬ failure.IsUncertain := by
        intro huncertain
        cases failure with
        | uncertainOrderOutcome operation => exact hother operation rfl
        | _ => exact huncertain
      obtain ⟨a, hrelease⟩ := runs_call.mp hhandler
      cases hresult : w₁.store.transitionRecoveryDebtSnapshot allocated.version
          (allocated.updated (releaseAllocatedDebt allocated.debt) a.now) with
      | error failure' =>
        have hanswer : ∀ b, handle b (.transitionRecoveryDebtSnapshot allocated.version
            (allocated.updated (releaseAllocatedDebt allocated.debt) a.now)) w₁ =
              (.error failure', w₁) := fun _ => congrArg w₁.write hresult
        obtain ⟨rfl, rfl⟩ := (runs_call_bind hanswer).mp hrelease
        exact .inl hdebt₁
      | ok store' =>
        have hanswer : ∀ b, handle b (.transitionRecoveryDebtSnapshot allocated.version
            (allocated.updated (releaseAllocatedDebt allocated.debt) a.now)) w₁ =
              (.ok (), { w₁ with store := store' }) := fun _ => congrArg w₁.write hresult
        have hrest := (runs_call_bind hanswer).mp hrelease
        obtain ⟨rfl, rfl⟩ := runs_throw.mp hrest
        exact .inr ⟨⟨failure, rfl, hcertain⟩, debtOf_transition hlevel hresult⟩

/-- The rest of `allocateAndSubmit`, once the entry is persisted. -/
def allocateThenSubmit (current : RecoveryDebtSnapshot) (plan : RecoveryEntryPlan)
    (request : PlaceOrderRequest) (entry : EntryExecutionSnapshot) :
    Service RecoverySubmission := do
  let debt ← allocateConfirmedDebt current.debt
  let updatedAt ← awaitCall .clock
  let allocated := current.updated debt updatedAt
  awaitCall (.transitionRecoveryDebtSnapshot current.version allocated)
  let entrySnapshot ← submitOrRelease request entry allocated
  pure { plan, entrySnapshot := some entrySnapshot, debtSnapshot := allocated }

/-- Either nothing came of the allocation, or it was written and it stands, unless it is released
    after a failure that is certain. -/
theorem runs_allocateThenSubmit {current : RecoveryDebtSnapshot} {plan : RecoveryEntryPlan}
    {request : PlaceOrderRequest} {entry : EntryExecutionSnapshot}
    {outcome : Except Failure RecoverySubmission} (hlevel : current.levelId = levelId)
    (h : Coroutine.Runs handle (allocateThenSubmit current plan request entry) w outcome w') :
    (outcome.isOk = false ∧ w' = w) ∨
      ∃ allocated, allocateConfirmedDebt current.debt = .ok allocated ∧
        (w'.debtOf levelId = some allocated ∨
          (∃ failure, outcome = .error failure ∧ ¬ failure.IsUncertain) ∧
            w'.debtOf levelId = some (releaseAllocatedDebt allocated)) := by
  have hrest := runs_lift_bind.mp h
  cases hallocate : allocateConfirmedDebt current.debt with
  | error failure =>
    rw [hallocate] at hrest
    obtain ⟨rfl, rfl⟩ := hrest
    exact .inl ⟨rfl, rfl⟩
  | ok debt =>
    rw [hallocate] at hrest
    obtain ⟨a, hwrite⟩ := runs_call.mp hrest
    cases hresult : w.store.transitionRecoveryDebtSnapshot current.version
        (current.updated debt a.now) with
    | error failure =>
      have hanswer : ∀ b, handle b (.transitionRecoveryDebtSnapshot current.version
          (current.updated debt a.now)) w = (.error failure, w) := fun _ =>
        congrArg w.write hresult
      obtain ⟨rfl, rfl⟩ := (runs_call_bind hanswer).mp hwrite
      exact .inl ⟨rfl, rfl⟩
    | ok store' =>
      have hanswer : ∀ b, handle b (.transitionRecoveryDebtSnapshot current.version
          (current.updated debt a.now)) w = (.ok (), { w with store := store' }) := fun _ =>
        congrArg w.write hresult
      have hsubmit := (runs_call_bind hanswer).mp hwrite
      have hallocated : World.debtOf { w with store := store' } levelId =
          some (current.updated debt a.now).debt := debtOf_transition hlevel hresult
      have hrow : (current.updated debt a.now).levelId = levelId := hlevel
      refine .inr ⟨debt, rfl, ?_⟩
      rcases runs_bind.mp hsubmit with ⟨entrySnapshot, w₁, hentry, hpure⟩ | ⟨failure, hentry, rfl⟩
      · obtain ⟨rfl, rfl⟩ := runs_pure.mp hpure
        rcases runs_submitOrRelease hallocated hrow hentry with hsame | ⟨⟨failure, hfailure, -⟩, -⟩
        · exact .inl hsame
        · exact absurd hfailure (by simp)
      · rcases runs_submitOrRelease hallocated hrow hentry with
          hsame | ⟨⟨raised, hraised, hcertain⟩, hreleased⟩
        · exact .inl hsame
        · obtain rfl := Except.error.inj hraised
          exact .inr ⟨⟨failure, rfl, hcertain⟩, hreleased⟩

theorem effect_allocateAndSubmit {planner : RecoveryPlanner} {hasEntryGate : Bool}
    {level : HedgeLevel} {orderLinkId : String} {current : RecoveryDebtSnapshot}
    {plan : RecoveryEntryPlan} {quantity : ℚ} {outcome : Except Failure RecoverySubmission}
    (hload : w.store.loadRecoveryDebtSnapshot levelId = some current)
    (h : Coroutine.Runs handle (allocateAndSubmit orderLinkId current plan quantity) w outcome
      w') :
    HasEffect levelId (.submitRecovery planner hasEntryGate level orderLinkId) w outcome w' := by
  have hlevel := levelId_of_load hload
  have hdebt : w.debtOf levelId = some current.debt := debtOf_of_load hload
  have hunchanged : ∀ {w₁ : World}, KeepsDebts w w₁ → outcome.isOk = false →
      HasEffect levelId (.submitRecovery planner hasEntryGate level orderLinkId) w outcome w₁ := by
    intro w₁ hkeeps hraised
    unfold HasEffect
    rw [hraised, hkeeps.debtOf]
    exact .refused _ _
  rcases runs_keeping_bind .done h with ⟨request, w₁, h₁, h⟩ | ⟨hraised, hkeeps⟩
  swap
  · exact hunchanged hkeeps hraised
  rcases runs_keeping_bind (keepsDebts_persistEntryIntent request) h with
    ⟨entry, w₂, h₂, h⟩ | ⟨hraised, hkeeps⟩
  swap
  · exact hunchanged (h₁.trans hkeeps) hraised
  rcases runs_allocateThenSubmit hlevel h with
    ⟨hraised, rfl⟩ | ⟨allocated, hallocate, hafter⟩
  · exact hunchanged (h₁.trans h₂) hraised
  unfold HasEffect
  rw [hdebt]
  rcases hafter with hsame | ⟨⟨failure, rfl, -⟩, hreleased⟩
  · rw [hsame]
    exact .submitted _ hallocate
  · rw [hreleased]
    exact .released hallocate

theorem effect_submitRecovery {planner : RecoveryPlanner} {hasEntryGate : Bool}
    {level : HedgeLevel} {orderLinkId : String} {outcome : Except Failure RecoverySubmission}
    (hlevel : level.levelId = levelId)
    (h : Coroutine.Runs handle (submitRecovery planner hasEntryGate level orderLinkId) w outcome
      w') :
    HasEffect levelId (.submitRecovery planner hasEntryGate level orderLinkId) w outcome w' := by
  subst hlevel
  obtain ⟨a, h⟩ := runs_call.mp h
  have hanswer : (handle a (.loadRecoveryDebtSnapshot level.levelId) w).1 =
      .ok (w.store.loadRecoveryDebtSnapshot level.levelId) := rfl
  rw [hanswer] at h
  cases hload : w.store.loadRecoveryDebtSnapshot level.levelId with
  | none =>
    rw [hload] at h
    obtain ⟨rfl, rfl⟩ := runs_throw.mp h
    exact .refused _ _
  | some current =>
    rw [hload] at h
    have h : Coroutine.Runs handle (liftM (planner level current.debt) >>= fun planned =>
        applyEntryGate hasEntryGate planned >>= submitPlan orderLinkId current) w outcome w' := h
    rcases runs_keeping_bind .done h with ⟨planned, w₁, h₁, h⟩ | ⟨hraised, hkeeps⟩
    swap
    · unfold HasEffect
      rw [hraised, hkeeps.debtOf]
      exact .refused _ _
    rcases runs_keeping_bind (keepsDebts_applyEntryGate hasEntryGate planned) h with
      ⟨plan, w₂, h₂, h⟩ | ⟨hraised, hkeeps⟩
    swap
    · unfold HasEffect
      rw [hraised, (h₁.trans hkeeps).debtOf]
      exact .refused _ _
    have hkeeps := h₁.trans h₂
    unfold HasEffect
    rw [← hkeeps.debtOf]
    unfold submitPlan at h
    split at h
    · refine effect_allocateAndSubmit ?_ h
      unfold SqliteExecutionStore.loadRecoveryDebtSnapshot
      rw [show w₂.store.recoveryDebts = w.store.recoveryDebts from hkeeps]
      exact hload
    · obtain ⟨rfl, rfl⟩ := runs_pure.mp h
      exact .unapproved _

/-- **Every call does one of these things to its level's debt.** -/
theorem runs_effect {call : DebtCall} {returned : Bool} (h : call.Runs levelId w returned w') :
    Effect call (w.debtOf levelId) returned (w'.debtOf levelId) := by
  cases h with
  | recordConfirmedStopDebt h => exact effect_recordConfirmedStopDebt h
  | submitRecovery hlevel h => exact effect_submitRecovery hlevel h
  | settleTakeProfit h => exact effect_settleTakeProfit h
  | recordRecoveryStopDebt h => exact effect_recordRecoveryStopDebt h

end Methods

/-! ## What one call does to the books -/

section Books

/-- A call of a sequence: whether it returned, and the level's debt before and after it. -/
structure DebtEntry where
  call : DebtCall
  returned : Bool
  before : Option RecoveryDebtState
  after : Option RecoveryDebtState

/-- The stop debt the call recorded. -/
def DebtEntry.recorded (entry : DebtEntry) : ℚ :=
  match entry.call with
  | .recordConfirmedStopDebt actual _ | .recordRecoveryStopDebt actual _ =>
    if entry.returned then actual else 0
  | _ => 0

/-- The amount the call paid. -/
def DebtEntry.paid (entry : DebtEntry) : ℚ :=
  match entry.call, entry.before with
  | .settleTakeProfit realized zone, some debt =>
    if entry.returned then paidDebt debt realized zone else 0
  | _, _ => 0

/-- Confirmed debt; a level without a record has none. -/
def confirmedOf (debt : Option RecoveryDebtState) : ℚ := debt.elim 0 fun debt => debt.confirmedDebt

theorem withProjectedDebt_eq_ok {state base : RecoveryDebtState} {projected : ℚ}
    (h : state.withProjectedDebt projected = .ok base) :
    base.confirmedDebt = state.confirmedDebt ∧ base.allocatedDebt = state.allocatedDebt := by
  unfold RecoveryDebtState.withProjectedDebt at h
  split at h
  · exact absurd h (by simp)
  · obtain rfl := Except.ok.inj h
    exact ⟨rfl, rfl⟩

theorem confirmedOf_projectedOnto {projected : ℚ} {debt : Option RecoveryDebtState}
    {base : RecoveryDebtState} (h : projectedOnto projected debt = .ok base) :
    base.confirmedDebt = confirmedOf debt := by
  cases debt with
  | none =>
    simp only [projectedOnto, RecoveryDebtState.empty] at h
    split at h
    · exact absurd h (by simp)
    · obtain rfl := Except.ok.inj h
      rfl
  | some debt => exact (withProjectedDebt_eq_ok h).1

theorem addConfirmedStopDebt_eq_ok {state stopped : RecoveryDebtState} {actual : ℚ}
    (h : addConfirmedStopDebt state actual = .ok stopped) :
    stopped.confirmedDebt = state.confirmedDebt + actual ∧
      stopped.allocatedDebt = state.allocatedDebt := by
  unfold addConfirmedStopDebt at h
  split at h
  · exact absurd h (by simp)
  · obtain rfl := Except.ok.inj h
    exact ⟨rfl, rfl⟩

theorem settleRecoveryTakeProfit_eq_ok {state settled : RecoveryDebtState} {realized zone : ℚ}
    (h : settleRecoveryTakeProfit state realized zone = .ok settled) :
    settled.confirmedDebt = state.confirmedDebt - paidDebt state realized zone ∧
      settled.allocatedDebt = 0 := by
  unfold settleRecoveryTakeProfit at h
  split at h
  · exact absurd h (by simp)
  · split at h
    · exact absurd h (by simp)
    · obtain rfl := Except.ok.inj h
      exact ⟨rfl, rfl⟩

theorem releaseAllocatedDebt_debts (state : RecoveryDebtState) :
    (releaseAllocatedDebt state).confirmedDebt = state.confirmedDebt ∧
      (releaseAllocatedDebt state).allocatedDebt = 0 := by
  unfold releaseAllocatedDebt
  split
  · rename_i hzero
    exact ⟨rfl, hzero⟩
  · exact ⟨rfl, rfl⟩

variable {entry : DebtEntry}

/-- An entry that is one of the things a call may do. -/
abbrev DebtEntry.Possible (entry : DebtEntry) : Prop :=
  Effect entry.call entry.before entry.returned entry.after

/-- What a call records it adds, what it pays it takes away, and it changes nothing else. -/
theorem DebtEntry.Possible.confirmed (h : entry.Possible) :
    confirmedOf entry.after = confirmedOf entry.before + entry.recorded - entry.paid := by
  obtain ⟨call, returned, before, after⟩ := entry
  cases h with
  | refused =>
    cases call with
    | settleTakeProfit realized zone => cases before <;> simp [recorded, paid]
    | _ => simp [recorded, paid]
  | stopped hbase hstopped =>
    have hadd := (addConfirmedStopDebt_eq_ok hstopped).1
    rw [confirmedOf_projectedOnto hbase] at hadd
    simpa [recorded, paid, confirmedOf] using hadd
  | unapproved => simp [recorded, paid]
  | submitted _ hallocate =>
    have hsame := (allocateConfirmedDebt_eq_ok hallocate).2.2
    simpa [recorded, paid, confirmedOf] using hsame
  | released hallocate =>
    have hsame := (allocateConfirmedDebt_eq_ok hallocate).2.2
    simpa [recorded, paid, confirmedOf, (releaseAllocatedDebt_debts _).1] using hsame
  | settled hsettled =>
    have hpaid := (settleRecoveryTakeProfit_eq_ok hsettled).1
    simpa [recorded, paid, confirmedOf] using hpaid
  | stoppedAgain _ hbase hstopped =>
    have hadd := (addConfirmedStopDebt_eq_ok hstopped).1
    rw [(withProjectedDebt_eq_ok hbase).1, (releaseAllocatedDebt_debts _).1] at hadd
    simpa [recorded, paid, confirmedOf] using hadd

/-- What a call pays. -/
theorem DebtEntry.paid_le {realized zone : ℚ} {debt : RecoveryDebtState}
    (hcall : entry.call = .settleTakeProfit realized zone) (hbefore : entry.before = some debt) :
    entry.paid ≤ debt.allocatedDebt ∧ entry.paid ≤ max (realized - zone) 0 := by
  obtain ⟨call, returned, before, after⟩ := entry
  subst hcall hbefore
  cases returned with
  | true => exact ⟨min_le_right _ _, min_le_left _ _⟩
  | false => exact ⟨debt.allocatedDebt_nonneg, le_max_right _ _⟩

/-- An allocation that is there after a call was there before it, or was made of all that was
    confirmed when nothing was allocated. -/
theorem DebtEntry.Possible.allocated (h : entry.Possible) {debt : RecoveryDebtState}
    (hafter : entry.after = some debt) (hdebt : debt.allocatedDebt ≠ 0) :
    ∃ before, entry.before = some before ∧ (debt.allocatedDebt = before.allocatedDebt ∨
      before.allocatedDebt = 0 ∧ debt.allocatedDebt = before.confirmedDebt) := by
  obtain ⟨call, returned, before, after⟩ := entry
  cases h with
  | refused => exact ⟨debt, hafter, .inl rfl⟩
  | stopped hbase hstopped =>
    obtain rfl := Option.some.inj hafter
    have hkept := (addConfirmedStopDebt_eq_ok hstopped).2
    cases before with
    | none =>
      have hempty : RecoveryDebtState.empty _ = .ok _ := hbase
      unfold RecoveryDebtState.empty at hempty
      split at hempty
      · exact absurd hempty (by simp)
      · obtain rfl := Except.ok.inj hempty
        exact absurd hkept hdebt
    | some before => exact ⟨before, rfl, .inl (hkept.trans (withProjectedDebt_eq_ok hbase).2)⟩
  | unapproved => exact ⟨debt, hafter, .inl rfl⟩
  | submitted _ hallocate =>
    obtain rfl := Option.some.inj hafter
    exact ⟨_, rfl, .inr ⟨allocateConfirmedDebt_unallocated hallocate,
      (allocateConfirmedDebt_eq_ok hallocate).1⟩⟩
  | released hallocate =>
    obtain rfl := Option.some.inj hafter
    exact absurd (releaseAllocatedDebt_debts _).2 hdebt
  | settled hsettled =>
    obtain rfl := Option.some.inj hafter
    exact absurd (settleRecoveryTakeProfit_eq_ok hsettled).2 hdebt
  | stoppedAgain _ hbase hstopped =>
    obtain rfl := Option.some.inj hafter
    have hkept := (addConfirmedStopDebt_eq_ok hstopped).2.trans (withProjectedDebt_eq_ok hbase).2
    exact absurd (hkept.trans (releaseAllocatedDebt_debts _).2) hdebt

/-- A submission that meets an allocation makes no other: it leaves the debt as it is. -/
theorem DebtEntry.Possible.outstanding (h : entry.Possible) {planner : RecoveryPlanner}
    {hasEntryGate : Bool} {level : HedgeLevel} {orderLinkId : String}
    (hcall : entry.call = .submitRecovery planner hasEntryGate level orderLinkId)
    {debt : RecoveryDebtState} (hbefore : entry.before = some debt)
    (hdebt : debt.allocatedDebt ≠ 0) : entry.after = some debt := by
  obtain ⟨call, returned, before, after⟩ := entry
  cases h with
  | refused => exact hbefore
  | unapproved => exact hbefore
  | submitted _ hallocate =>
    obtain rfl := Option.some.inj hbefore
    exact absurd (allocateConfirmedDebt_unallocated hallocate) hdebt
  | released hallocate =>
    obtain rfl := Option.some.inj hbefore
    exact absurd (allocateConfirmedDebt_unallocated hallocate) hdebt
  | stopped => exact absurd hcall (by simp)
  | settled => exact absurd hcall (by simp)
  | stoppedAgain => exact absurd hcall (by simp)

end Books

/-! ## Sequences of calls -/

/-- Calls of the service on one level, one after another; between them, anything that leaves the
    debts alone. -/
inductive DebtRun (levelId : ℕ) (start : World) : List DebtEntry → World → Prop
  | nil : DebtRun levelId start [] start
  | elsewhere {entries : List DebtEntry} {w w' : World} :
      DebtRun levelId start entries w → KeepsDebts w w' → DebtRun levelId start entries w'
  | call {entries : List DebtEntry} {w w' : World} {call : DebtCall} {returned : Bool} :
      DebtRun levelId start entries w → call.Runs levelId w returned w' →
      DebtRun levelId start
        (entries ++ [⟨call, returned, w.debtOf levelId, w'.debtOf levelId⟩]) w'

section Sequences

variable {levelId : ℕ} {start w : World} {entries : List DebtEntry}

theorem DebtRun.possible (h : DebtRun levelId start entries w) :
    ∀ entry ∈ entries, entry.Possible := by
  induction h with
  | nil => simp
  | elsewhere _ _ ih => exact ih
  | call _ hcall ih =>
    intro entry hentry
    rcases List.mem_append.mp hentry with hentry | hentry
    · exact ih entry hentry
    · obtain rfl := List.mem_singleton.mp hentry
      exact runs_effect hcall

/-- The confirmed debt is what was recorded, less what was paid. -/
theorem DebtRun.confirmed (h : DebtRun levelId start entries w)
    (hnew : start.debtOf levelId = none) :
    confirmedOf (w.debtOf levelId) =
      (entries.map DebtEntry.recorded).sum - (entries.map DebtEntry.paid).sum := by
  induction h with
  | nil => simp [hnew, confirmedOf]
  | elsewhere _ hkeeps ih => rwa [hkeeps.debtOf]
  | @call _ w w' call returned _ hcall ih =>
    have hpossible : DebtEntry.Possible ⟨call, returned, w.debtOf levelId, w'.debtOf levelId⟩ :=
      runs_effect hcall
    have hstep := hpossible.confirmed
    simp only [List.map_append, List.sum_append, List.map_cons, List.map_nil, List.sum_cons,
      List.sum_nil, add_zero]
    linarith

/-- **Recovery debt is conserved** over every sequence of calls on a level that starts without a
    record. The projections of the calls appear nowhere in what is confirmed. -/
theorem recovery_debt_conserved (h : DebtRun levelId start entries w)
    (hnew : start.debtOf levelId = none) :
    (∀ debt, w.debtOf levelId = some debt →
      debt.confirmedDebt = debt.allocatedDebt + debt.remainingDebt ∧
        0 ≤ debt.confirmedDebt ∧ 0 ≤ debt.allocatedDebt ∧ 0 ≤ debt.remainingDebt) ∧
    confirmedOf (w.debtOf levelId) =
      (entries.map DebtEntry.recorded).sum - (entries.map DebtEntry.paid).sum ∧
    (∀ entry ∈ entries, ∀ realized zone debt, entry.call = .settleTakeProfit realized zone →
      entry.before = some debt →
        entry.paid ≤ debt.allocatedDebt ∧ entry.paid ≤ max (realized - zone) 0) ∧
    (∀ entry ∈ entries, ∀ debt, entry.after = some debt → debt.allocatedDebt ≠ 0 →
      ∃ before, entry.before = some before ∧ (debt.allocatedDebt = before.allocatedDebt ∨
        before.allocatedDebt = 0 ∧ debt.allocatedDebt = before.confirmedDebt)) ∧
    ∀ entry ∈ entries, ∀ planner hasEntryGate level orderLinkId,
      entry.call = .submitRecovery planner hasEntryGate level orderLinkId →
        ∀ debt, entry.before = some debt → debt.allocatedDebt ≠ 0 → entry.after = some debt := by
  have hpossible := h.possible
  refine ⟨fun debt _ => ?_, h.confirmed hnew, fun entry _ realized zone debt hcall hbefore => ?_,
    fun entry hentry debt hafter hdebt => ?_,
    fun entry hentry _ _ _ _ hcall debt hbefore hdebt => ?_⟩
  · exact ⟨debt.balanced, debt.confirmedDebt_nonneg, debt.allocatedDebt_nonneg,
      debt.remainingDebt_nonneg⟩
  · exact DebtEntry.paid_le hcall hbefore
  · exact (hpossible entry hentry).allocated hafter hdebt
  · exact (hpossible entry hentry).outstanding hcall hbefore hdebt

end Sequences

/-! ## A level stopped, hedged again and paid -/

/-- A store with nothing in it. -/
def nothingRecorded : World := ⟨.empty, []⟩

section Running

variable {α Op : Type} {Res : Op → Type}
  (handle : Answers → (op : Op) → World → Except Failure (Res op) × World)

/-- The world a method leaves that is run alone, each of its calls answered the same. -/
def leftBy (t : Coroutine Failure Op Res α) (a : Answers) (w : World) : World :=
  (t.execute handle (List.replicate 20 a) w).elim w Prod.snd

theorem runs_leftBy {t : Coroutine Failure Op Res α} {a : Answers} {w : World} {returned : Bool}
    (h : (t.execute handle (List.replicate 20 a) w).map (fun run => run.1.isOk) = some returned) :
    ∃ outcome, Coroutine.Runs handle t w outcome (leftBy handle t a w) ∧
      outcome.isOk = returned := by
  obtain ⟨⟨outcome, w'⟩, hrun, hreturned⟩ := Option.map_eq_some_iff.mp h
  refine ⟨outcome, ?_, hreturned⟩
  unfold leftBy
  rw [hrun]
  exact runs_of_execute hrun

end Running

/-- A stop of five, with two more projected. -/
def afterStop : World :=
  leftBy RecoveryCall.handle (recordConfirmedStopDebt 1 5 7) {} nothingRecorded

/-- The hedge that is to earn it back. -/
def afterHedge : World :=
  leftBy handle (submitRecovery unitPlan false stoppedLevel recoveryId) acknowledges afterStop

/-- Its take-profit: four, of which one is the zone's. -/
def afterTakeProfit : World := leftBy RecoveryCall.handle (settleTakeProfit 1 4 1) {} afterHedge

theorem recovery_debt_conserved_hedgedAgain :
    ∃ entries, DebtRun 1 nothingRecorded entries afterTakeProfit ∧
      entries.map (fun entry => (entry.returned, entry.recorded, entry.paid)) =
        [(true, 5, 0), (true, 0, 0), (true, 0, 3)] ∧
      confirmedOf (afterTakeProfit.debtOf 1) =
        (entries.map DebtEntry.recorded).sum - (entries.map DebtEntry.paid).sum := by
  have hstop : ∃ outcome, Coroutine.Runs RecoveryCall.handle (recordConfirmedStopDebt 1 5 7)
      nothingRecorded outcome afterStop ∧ outcome.isOk = true :=
    runs_leftBy _ (by decide +kernel)
  have hhedge : ∃ outcome, Coroutine.Runs handle
      (submitRecovery unitPlan false stoppedLevel recoveryId) afterStop outcome afterHedge ∧
        outcome.isOk = true := runs_leftBy _ (by decide +kernel)
  have hpaid : ∃ outcome, Coroutine.Runs RecoveryCall.handle (settleTakeProfit 1 4 1) afterHedge
      outcome afterTakeProfit ∧ outcome.isOk = true := runs_leftBy _ (by decide +kernel)
  obtain ⟨stopped, hstop, hstopped⟩ := hstop
  obtain ⟨hedged, hhedge, hhedged⟩ := hhedge
  obtain ⟨paid, hpaid, hreturned⟩ := hpaid
  have hrun := ((DebtRun.nil.call (.recordConfirmedStopDebt hstop)).call
    (.submitRecovery rfl hhedge)).call (.settleTakeProfit hpaid)
  rw [hstopped, hhedged, hreturned] at hrun
  have hbooks := recovery_debt_conserved hrun (by decide +kernel)
  exact ⟨_, hrun, by decide +kernel, hbooks.2.1⟩

end CreditHedge
