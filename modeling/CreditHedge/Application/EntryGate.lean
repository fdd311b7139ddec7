import CreditHedge.Application.Coordinators
import CreditHedge.Application.KillSwitch
import CreditHedge.Application.SameLevelRecovery

/-!
# The entry gate

The three entry paths look at the kill switch once, and then await the store four times before
they place their order. An activation that returns in between does not stop them: the order is
placed behind a closed gate, and the emergency executor may by then have reported a flat position
(`entry_placed_after_flat`).

Nothing else goes wrong. A path that is not in that window looks at the gate before it can come
to an order (`EntryPath.gated`), so if no path is in it when the switch is thrown, no entry is
placed after the activation has returned (`activation_final`).
-/

set_option autoImplicit false

namespace CreditHedge

open Coroutine (Calls)

/-! ## The gate -/

/-- A new hedge entry is placed. A reduce-only order is none. -/
def ProcessCall.PlacesEntry : ProcessCall → Prop
  | .port (.placeOrder request) => request.reduceOnly = false
  | _ => False

/-- The attributes are looked at, with the kill switch's state among them. -/
def ProcessCall.ReadsGate : ProcessCall → Prop
  | .sync _ => True
  | .port .entriesAllowed => True
  | _ => False

instance : DecidablePred ProcessCall.PlacesEntry
  | .port call => by cases call <;> (dsimp only [ProcessCall.PlacesEntry]; infer_instance)
  | .sync _ => isFalse id
  | .saveKillSwitch _ _ => isFalse id
  | .sendNotification _ => isFalse id
  | .cancelAll _ _ => isFalse id
  | .persistOrderIntent _ _ => isFalse id
  | .reconcile => isFalse id

/-- The switch has been thrown. -/
def Memory.Halted (memory : Memory) : Prop := ∃ state ∈ memory.killSwitch, state.mode ≠ .running

def Process.Halted (p : Process) : Prop := p.memory.Halted

namespace Task

variable {α β : Type}

/-- Past its look at the gate, and before its order. -/
abbrev Committed (t : Task α) : Prop :=
  Coroutine.Committed ProcessCall.PlacesEntry ProcessCall.ReadsGate t

abbrev Gated (t : Task α) : Prop :=
  Coroutine.Gated ProcessCall.PlacesEntry ProcessCall.ReadsGate Process.handle Process.Halted t

end Task

/-- Only a stretch of code changes an attribute. -/
theorem halted_frame (a : ProcessAnswers) (call : ProcessCall) (p : Process)
    (h : ¬ call.ReadsGate) : (Process.handle a call p).2.Halted ↔ p.Halted := by
  unfold Process.Halted
  cases call with
  | sync change => exact absurd trivial h
  | port call => rw [memory_of_port]
  | _ => exact Iff.rfl

theorem Memory.Halted.congr {memory m : Memory} (h : memory.Halted)
    (hm : m.killSwitch = memory.killSwitch) : m.Halted := by
  unfold Memory.Halted
  rw [hm]
  exact h

/-- Behind a thrown switch the gate does not allow entries. -/
theorem Memory.Halted.entriesAllowed {memory : Memory} (h : memory.Halted) :
    memory.entriesAllowed = .ok false := by
  obtain ⟨state, hstate, hmode⟩ := h
  unfold Memory.entriesAllowed
  rw [Option.mem_def.mp hstate]
  simp [hmode]

section Rules

variable {α β : Type}

theorem gated_sync {stretch : Memory → Memory × Task α}
    (hhalted : ∀ memory, (stretch memory).1.Halted → ¬ (stretch memory).2.Committed)
    (hrest : ∀ memory, (stretch memory).2.Gated) : (sync stretch).Gated := by
  refine ⟨fun _ _ p hp => hhalted p.memory hp, fun answer => ?_⟩
  cases answer with
  | ok memory => exact hrest memory
  | error failure => exact trivial

theorem not_committed_sync {stretch : Memory → Memory × Task α} :
    ¬ Task.Committed (sync stretch) :=
  Coroutine.not_committed_of_checks trivial not_false

theorem gated_pure (a : α) : Task.Gated (pure a : Task α) := trivial

theorem gated_throw (failure : Failure) : Task.Gated (throw failure : Task α) := trivial

theorem not_committed_pure (a : α) : ¬ Task.Committed (pure a : Task α) :=
  Coroutine.not_committed_done

theorem not_committed_throw (failure : Failure) : ¬ Task.Committed (throw failure : Task α) :=
  Coroutine.not_committed_done

/-- The submission of an entry does not look at the gate again. -/
theorem unchecked_of_submissionCall {request : PlaceOrderRequest} {call : Call}
    (h : OneLevelEntryService.SubmissionCall request call) :
    ¬ ProcessCall.ReadsGate (.port call) := by
  intro hreads
  cases call <;> first | exact hreads | exact h

theorem unchecked_onPorts {request : PlaceOrderRequest} {t : Service α}
    (h : t.Calls (OneLevelEntryService.SubmissionCall request)) :
    (onPorts t).Calls fun call => ¬ call.ReadsGate :=
  calls_onPorts (h.imp fun _ => unchecked_of_submissionCall)

variable {call : Call} {f : call.Result → Service α}

theorem gated_onPorts_call (h : ¬ ProcessCall.ReadsGate (.port call))
    (hf : ∀ v, Task.Gated (onPorts (f v))) :
    Task.Gated (onPorts (awaitCall call >>= f)) := by
  refine ⟨fun hreads => absurd hreads h, fun answer => ?_⟩
  cases answer with
  | ok v => exact hf v
  | error failure => exact trivial

theorem not_committed_onPorts_call (h : ¬ ProcessCall.PlacesEntry (.port call))
    (hf : ∀ v, ¬ Task.Committed (onPorts (f v))) :
    ¬ Task.Committed (onPorts (awaitCall call >>= f)) := by
  intro hcommitted
  cases hcommitted with
  | act hact => exact h hact
  | onward answer _ hrest =>
    cases answer with
    | ok v => exact hf v hrest
    | error failure => exact not_committed_throw failure hrest

theorem gated_onPorts_lift {x : Except Failure β} {g : β → Service α}
    (hg : ∀ v, Task.Gated (onPorts (g v))) :
    Task.Gated (onPorts ((liftM x : Service β) >>= g)) := by
  cases x with
  | ok v => exact hg v
  | error failure => exact trivial

theorem not_committed_onPorts_lift {x : Except Failure β} {g : β → Service α}
    (hg : ∀ v, ¬ Task.Committed (onPorts (g v))) :
    ¬ Task.Committed (onPorts ((liftM x : Service β) >>= g)) := by
  cases x with
  | ok v => exact hg v
  | error failure => exact not_committed_throw failure

end Rules

/-! ## The entry paths -/

namespace OneLevelCoordinator

variable (c : OneLevelCoordinator) (orderLinkId : String) (event : TriggerPriceEvent)
  (health : MarketDataHealthResult) (riskState : RiskState)

theorem killSwitch_crossed (memory : Memory) :
    (c.crossed orderLinkId riskState memory).1.killSwitch = memory.killSwitch := by
  unfold crossed
  split <;> rfl

theorem killSwitch_observe (memory : Memory) :
    (c.observe orderLinkId event riskState memory).1.killSwitch = memory.killSwitch :=
  c.observe_cases (P := fun stretch => stretch.1.killSwitch = memory.killSwitch) (fun _ _ h => h)
    (fun _ => rfl) fun m h => (c.killSwitch_crossed orderLinkId riskState m).trans h

/-- Behind a thrown switch a crossing is blocked. -/
theorem crossed_of_halted (hgate : c.hasEntryGate = true) {memory : Memory}
    (h : memory.Halted) : ¬ Task.Committed (c.crossed orderLinkId riskState memory).2 := by
  have hoffer : ∃ reasons, c.offer memory orderLinkId riskState = .ok (.blocked reasons) := by
    unfold offer preflight Memory.gateAllows
    rw [hgate, if_pos rfl, h.entriesAllowed]
    by_cases hsubmitted : memory.oneLevel.submitted = true
    · exact ⟨_, by rw [if_pos hsubmitted]; rfl⟩
    · exact ⟨_, by rw [if_neg hsubmitted]; rfl⟩
  obtain ⟨reasons, hoffer⟩ := hoffer
  unfold crossed
  rw [hoffer]
  exact not_committed_pure _

theorem gated_crossed (memory : Memory) :
    Task.Gated (c.crossed orderLinkId riskState memory).2 := by
  unfold crossed
  split
  · exact gated_throw _
  · exact gated_pure _
  · rename_i request proposal hoffer
    exact .bind_of_calls (unchecked_onPorts (OneLevelEntryService.calls_submitEntry request))
      fun _ => gated_pure _

theorem gated_onTrigger (hgate : c.hasEntryGate = true) :
    Task.Gated (c.onTrigger orderLinkId event health riskState) := by
  unfold onTrigger
  split_ifs
  · exact gated_pure _
  · exact gated_pure _
  · exact gated_pure _
  · refine gated_sync (fun memory hhalted => ?_) fun memory => ?_
    · have hbefore := hhalted.congr (c.killSwitch_observe orderLinkId event riskState memory).symm
      exact c.observe_cases (P := fun stretch => ¬ Task.Committed stretch.2)
        (fun _ _ _ => not_committed_pure _) (fun _ => not_committed_throw _)
        fun m hm => c.crossed_of_halted orderLinkId riskState hgate (hbefore.congr hm)
    · exact c.observe_cases (P := fun stretch => Task.Gated stretch.2) (fun _ _ _ => gated_pure _)
        (fun _ => gated_throw _) fun m _ => c.gated_crossed orderLinkId riskState m

theorem not_committed_onTrigger :
    ¬ Task.Committed (c.onTrigger orderLinkId event health riskState) := by
  unfold onTrigger
  split_ifs
  · exact not_committed_pure _
  · exact not_committed_pure _
  · exact not_committed_pure _
  · exact not_committed_sync

end OneLevelCoordinator

namespace MultiLevelCoordinator

variable (c : MultiLevelCoordinator) (event : TriggerPriceEvent)
  (health : MarketDataHealthResult) (riskState : RiskState)

theorem killSwitch_visit (crossed : List HedgeLevel) (riskState : RiskState)
    (entries : List LevelEntrySubmission) (blocked : List LevelEntryBlock) (memory : Memory) :
    (c.visit crossed riskState entries blocked memory).1.killSwitch = memory.killSwitch := by
  induction crossed generalizing blocked memory with
  | nil => rfl
  | cons level rest ih =>
    unfold visit
    dsimp only
    split
    · rfl
    · rw [ih]
      rfl
    · rfl

theorem killSwitch_observe (memory : Memory) :
    (c.observe event riskState memory).1.killSwitch = memory.killSwitch :=
  c.observe_cases (P := fun stretch => stretch.1.killSwitch = memory.killSwitch) (fun _ _ h => h)
    (fun _ => rfl) fun crossed m _ h => (c.killSwitch_visit crossed riskState [] [] m).trans h

/-- Behind a thrown switch every crossed level is blocked, in one stretch. -/
theorem visit_of_halted (hgate : c.hasEntryGate = true) (crossed : List HedgeLevel)
    (riskState : RiskState) (entries : List LevelEntrySubmission)
    (blocked : List LevelEntryBlock) {memory : Memory} (h : memory.Halted) :
    ¬ Task.Committed (c.visit crossed riskState entries blocked memory).2 := by
  induction crossed generalizing blocked memory with
  | nil => exact not_committed_pure _
  | cons level rest ih =>
    have hdisarmed : (disarm level memory).Halted := h
    have hoffer : c.offer (disarm level memory) riskState level =
        .ok (.blocked ["kill switch blocks new entries"]) := by
      unfold offer Memory.gateAllows
      rw [hgate, if_pos rfl, hdisarmed.entriesAllowed]
      rfl
    unfold visit
    dsimp only
    rw [hoffer]
    exact ih _ hdisarmed

theorem gated_visit (hgate : c.hasEntryGate = true) (crossed : List HedgeLevel)
    (riskState : RiskState) (entries : List LevelEntrySubmission)
    (blocked : List LevelEntryBlock) (memory : Memory) :
    Task.Gated (c.visit crossed riskState entries blocked memory).2 := by
  induction crossed generalizing riskState entries blocked memory with
  | nil => exact gated_pure _
  | cons level rest ih =>
    unfold visit
    dsimp only
    split
    · exact gated_throw _
    · exact ih _ _ _ _
    · rename_i request proposal hoffer
      refine .bind_of_calls (unchecked_onPorts (OneLevelEntryService.calls_submitEntry request))
        fun snapshot => gated_sync (fun memory hhalted => ?_) fun memory => ih _ _ _ _
      exact c.visit_of_halted hgate _ _ _ _ (hhalted.congr (c.killSwitch_visit ..).symm)

theorem gated_onTrigger (hgate : c.hasEntryGate = true) :
    Task.Gated (c.onTrigger event health riskState) := by
  unfold onTrigger
  split_ifs
  · exact gated_pure _
  · exact gated_pure _
  · exact gated_pure _
  · refine gated_sync (fun memory hhalted => ?_) fun memory => ?_
    · have hbefore := hhalted.congr (c.killSwitch_observe event riskState memory).symm
      exact c.observe_cases (P := fun stretch => ¬ Task.Committed stretch.2)
        (fun _ _ _ => not_committed_pure _) (fun _ => not_committed_throw _)
        fun crossed m _ hm => c.visit_of_halted hgate crossed riskState [] [] (hbefore.congr hm)
    · exact c.observe_cases (P := fun stretch => Task.Gated stretch.2) (fun _ _ _ => gated_pure _)
        (fun _ => gated_throw _) fun crossed m _ _ => c.gated_visit hgate crossed riskState [] [] m

theorem not_committed_onTrigger : ¬ Task.Committed (c.onTrigger event health riskState) := by
  unfold onTrigger
  split_ifs
  · exact not_committed_pure _
  · exact not_committed_pure _
  · exact not_committed_pure _
  · exact not_committed_sync

end MultiLevelCoordinator

namespace SameLevelRecoveryService

/-- What is done with a plan after the gate. -/
def carryOut (orderLinkId : String) (debtSnapshot : RecoveryDebtSnapshot)
    (plan : RecoveryEntryPlan) : Service RecoverySubmission :=
  match plan.approved, plan.quantity with
  | true, some quantity => allocateAndSubmit orderLinkId debtSnapshot plan quantity
  | _, _ => pure { plan, entrySnapshot := none, debtSnapshot }

variable {orderLinkId : String} {debtSnapshot : RecoveryDebtSnapshot} {plan : RecoveryEntryPlan}

theorem gated_carryOut : Task.Gated (onPorts (carryOut orderLinkId debtSnapshot plan)) := by
  unfold carryOut
  split
  · refine .of_unchecked (calls_onPorts ?_)
    refine (calls_allocateAndSubmit orderLinkId debtSnapshot plan _).imp ?_
    rintro call ⟨request, -, hcall⟩
    exact unchecked_of_submissionCall hcall
  · exact gated_pure _

theorem not_committed_carryOut (h : plan.approved = false) :
    ¬ Task.Committed (onPorts (carryOut orderLinkId debtSnapshot plan)) := by
  unfold carryOut
  rw [h]
  exact not_committed_pure _

/-- An approved plan is carried out behind a look at the gate. -/
theorem gated_applyEntryGate :
    Task.Gated (onPorts (applyEntryGate true plan >>= carryOut orderLinkId debtSnapshot)) := by
  unfold applyEntryGate
  cases happroved : plan.approved with
  | false => exact gated_carryOut
  | true =>
    refine ⟨fun _ a p hp => ?_, fun answer => ?_⟩
    · have hanswer : (p.handle a (.port .entriesAllowed)).1 = .ok false :=
        Memory.Halted.entriesAllowed hp
      rw [hanswer]
      exact not_committed_carryOut rfl
    · cases answer with
      | error failure => exact trivial
      | ok allowed =>
        cases allowed with
        | true => exact gated_carryOut
        | false => exact gated_carryOut

theorem not_committed_applyEntryGate :
    ¬ Task.Committed
      (onPorts (applyEntryGate true plan >>= carryOut orderLinkId debtSnapshot)) := by
  unfold applyEntryGate
  cases happroved : plan.approved with
  | false => exact not_committed_carryOut happroved
  | true => exact Coroutine.not_committed_of_checks trivial not_false

variable (planner : RecoveryPlanner) (level : HedgeLevel)

theorem gated_submitRecovery :
    Task.Gated (onPorts (submitRecovery planner true level orderLinkId)) := by
  refine gated_onPorts_call not_false fun loaded => ?_
  cases loaded with
  | none => exact gated_throw _
  | some debtSnapshot => exact gated_onPorts_lift fun planned => gated_applyEntryGate

theorem not_committed_submitRecovery :
    ¬ Task.Committed (onPorts (submitRecovery planner true level orderLinkId)) := by
  refine not_committed_onPorts_call not_false fun loaded => ?_
  cases loaded with
  | none => exact not_committed_throw _
  | some debtSnapshot => exact not_committed_onPorts_lift fun planned => not_committed_applyEntryGate

end SameLevelRecoveryService

end CreditHedge
