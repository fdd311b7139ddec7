import CreditHedge.Application.ExitCapacity
import CreditHedge.Interfaces.EmergencyBookings
import Mathlib.Algebra.BigOperators.Ring.List
import Mathlib.Data.List.Dedup

/-!
# The accounts of emergency closes

Is an emergency execution accounted exactly once? Over a sequence of calls that means three
things (`AccountedOnce`): the protections shrink by no more than the distinct executions come to,
each execution's price and fee are booked for at most its own quantity, and a call that raises has
written nothing.

A call does not ask whether its execution was booked before, and its bookings are one transaction
each. So an execution that is reported again is booked again while anything of the cycle is open,
and a call that fails after its first booking leaves that booking behind
(`emergency_exit_booked_twice`). Neither can happen if no execution finds something to book on
twice (`BooksOnce`) and every call can carry out its plan or fails before it begins (`Settles`);
both are conditions on the stores the calls find, and under them the accounts are right, whatever
the sequence (`emergency_exits_accounted`). The loops of the runner make such sequences
(`calls_of_applyEach`).
-/

set_option autoImplicit false

namespace CreditHedge

namespace DemoRunner

/-! ## When a call is right -/

/-- The plan books a share of the execution on some protection. -/
def Plan.Books (plan' : Plan) (execution : ExecutionUpdate) (reading : Except Failure Time) :
    Prop :=
  match plan'.bookings with
  | .share snapshot allocation :: _ =>
    (Booking.share snapshot allocation).Possible execution reading
  | _ => False

/-- The plan can be carried out to its end, with nothing of the execution left over, or not even
    begun. -/
def Plan.Settles (plan' : Plan) (execution : ExecutionUpdate)
    (readings : ℕ → Except Failure Time) : Prop :=
  (AllPossible execution readings plan'.bookings ∧ plan'.unallocated = 0) ∨
    ∀ booking ∈ plan'.bookings.head?, ¬ booking.Possible execution (readings 0)

/-- The call finds an open protection to book the execution on. -/
def Books (execution : ExecutionUpdate) (w : DemoWorld) : Prop :=
  ∃ plan' ∈ (plan execution w.store).toOption, plan'.Books execution (w.readings 0)

/-- The call has nothing to book, or can book all of it, or fails before it has booked anything. -/
def Settles (execution : ExecutionUpdate) (w : DemoWorld) : Prop :=
  ∀ plan' ∈ (plan execution w.store).toOption, plan'.Settles execution w.readings

instance (plan' : Plan) (execution : ExecutionUpdate) (reading : Except Failure Time) :
    Decidable (plan'.Books execution reading) :=
  match plan' with
  | ⟨.share snapshot allocation :: _, _⟩ =>
    inferInstanceAs (Decidable ((Booking.share snapshot allocation).Possible execution reading))
  | ⟨.giveUp _ :: _, _⟩ => inferInstanceAs (Decidable False)
  | ⟨[], _⟩ => inferInstanceAs (Decidable False)

instance (plan' : Plan) (execution : ExecutionUpdate) (readings : ℕ → Except Failure Time) :
    Decidable (plan'.Settles execution readings) :=
  inferInstanceAs (Decidable (_ ∨ _))

instance (execution : ExecutionUpdate) (w : DemoWorld) : Decidable (Books execution w) :=
  inferInstanceAs (Decidable (∃ plan' ∈ (plan execution w.store).toOption, _))

instance (execution : ExecutionUpdate) (w : DemoWorld) : Decidable (Settles execution w) :=
  inferInstanceAs (Decidable (∀ plan' ∈ (plan execution w.store).toOption, _))

/-- **One call.** It books at most the execution, and on nothing but the protections; nothing if
    it finds none; and if it settles, it raises only with the store as it found it. -/
theorem call_spec {execution : ExecutionUpdate} {outcome : Except Failure Unit} {w w' : DemoWorld}
    (h : Coroutine.Runs handle (applyEmergencyExit execution) w outcome w') :
    (∃ amount, Booked execution amount w.store w'.store ∧ 0 ≤ amount ∧
        amount ≤ execution.quantity ∧ (¬ Books execution w → amount = 0)) ∧
      (Settles execution w → ∀ failure, outcome = .error failure → w'.store = w.store) := by
  rcases runs_applyEmergencyExit h with ⟨failure, -, rfl⟩ | ⟨plan', hplan, hrun⟩
  · exact ⟨⟨0, .refl _, le_rfl, execution.quantity_pos.le, fun _ => rfl⟩, fun _ _ _ => rfl⟩
  have hsound := plan_sound hplan
  have hplan' : plan' ∈ (plan execution w.store).toOption := by
    rw [hplan]
    rfl
  -- First the bookings, and then a check that writes nothing.
  obtain ⟨booked, hbooked, hchecked⟩ : ∃ booked : Except Failure Unit,
      Coroutine.Runs handle (bookAll execution plan'.bookings) w booked w' ∧
        (plan'.unallocated = 0 → booked = .ok () → outcome = .ok ()) := by
    rcases Coroutine.runs_bind.mp hrun with ⟨_, w₁, hbook, hcheck⟩ | ⟨failure, hbook, -⟩
    · unfold requireAllocated at hcheck
      split at hcheck
      · rename_i hleft
        obtain ⟨-, rfl⟩ := Coroutine.runs_throw.mp hcheck
        exact ⟨_, hbook, fun hzero _ => absurd hzero hleft⟩
      · obtain ⟨houtcome, rfl⟩ := Coroutine.runs_pure.mp hcheck
        exact ⟨_, hbook, fun _ _ => houtcome⟩
    · exact ⟨_, hbook, fun _ hok => absurd hok (by simp)⟩
  obtain ⟨⟨amount, hamount, hnonneg, hle⟩, hfirst, hall⟩ :=
    runs_bookAll hsound.inPlace hsound.rows hbooked
  refine ⟨⟨amount, hamount, hnonneg, hle.trans hsound.shared_le, fun hnot => ?_⟩, ?_⟩
  · have hnot' : ¬ plan'.Books execution (w.readings 0) :=
      fun hbooks => hnot ⟨plan', hplan', hbooks⟩
    have hnothing : shared plan'.bookings = 0 → amount = 0 := fun hzero =>
      le_antisymm (hle.trans hzero.le) hnonneg
    unfold Plan.Books at hnot'
    split at hnot'
    · rename_i heq
      have hkept : w'.store = w.store := by
        refine hfirst fun booking hhead => ?_
        rw [heq] at hhead
        obtain rfl := Option.some.inj hhead
        exact hnot'
      rw [hkept] at hamount
      exact hamount.amount_eq_zero
    · rename_i hshare
      cases heq : plan'.bookings with
      | nil => exact hnothing (by simp [shared, heq])
      | cons booking rest =>
        cases booking with
        | share snapshot allocation => exact absurd heq (hshare snapshot allocation rest)
        | giveUp snapshot => exact hnothing (hsound.giveUp_first snapshot (by rw [heq]; rfl))
  · intro hsettles failure houtcome
    rcases hsettles plan' hplan' with ⟨hpossible, hzero⟩ | hnone
    · exact absurd ((hchecked hzero (hall hpossible)).symm.trans houtcome) (by simp)
    · exact hfirst hnone

/-! ## Sequences of calls -/

/-- One call of `_apply_emergency_exit`, with the store it found and the one it left. -/
structure AccountingCall where
  execution : ExecutionUpdate
  before : DemoWorld
  outcome : Except Failure Unit
  after : DemoWorld
  runs : Coroutine.Runs handle (applyEmergencyExit execution) before outcome after

namespace AccountingCall

variable (call : AccountingCall)

/-- How much smaller the call has made the protections. -/
def removed : ℚ :=
  total call.before.store (fun p => p.openQuantity) -
    total call.after.store (fun p => p.openQuantity)

/-- What the call has added to the protections' exit notional. -/
def notional : ℚ :=
  total call.after.store (fun p => p.exitNotional) -
    total call.before.store (fun p => p.exitNotional)

/-- What the call has added to the protections' exit fees. -/
def fees : ℚ :=
  total call.after.store (fun p => p.exitFees) - total call.before.store (fun p => p.exitFees)

variable {call}

theorem removed_le : call.removed ≤ call.execution.quantity := by
  obtain ⟨⟨amount, hbooked, -, hle, -⟩, -⟩ := call_spec call.runs
  unfold removed
  rw [hbooked.openQuantity]
  linarith

theorem removed_eq_zero (h : ¬ Books call.execution call.before) : call.removed = 0 := by
  obtain ⟨⟨amount, hbooked, -, -, hzero⟩, -⟩ := call_spec call.runs
  unfold removed
  rw [hbooked.openQuantity, hzero h]
  ring

theorem notional_eq : call.notional = call.execution.price * call.removed := by
  obtain ⟨⟨amount, hbooked, -⟩, -⟩ := call_spec call.runs
  unfold notional removed
  rw [hbooked.exitNotional, hbooked.openQuantity]
  ring

theorem fees_eq :
    call.fees = call.execution.fee * call.removed / call.execution.quantity := by
  obtain ⟨⟨amount, hbooked, -⟩, -⟩ := call_spec call.runs
  unfold fees removed
  rw [hbooked.exitFees, hbooked.openQuantity]
  ring

end AccountingCall

/-- The calls with this execution. -/
def callsOf (execution : ExecutionUpdate) (calls : List AccountingCall) : List AccountingCall :=
  calls.filter fun call => call.execution = execution

/-- The emergency executions are accounted exactly once. -/
structure AccountedOnce (calls : List AccountingCall) : Prop where
  /-- All calls together remove no more than the distinct executions come to. -/
  removed_le : (calls.map AccountingCall.removed).sum ≤
    ((calls.map AccountingCall.execution).dedup.map fun execution => execution.quantity).sum
  /-- For each execution, at most its own quantity is booked, … -/
  booked_le : ∀ execution : ExecutionUpdate,
    ((callsOf execution calls).map AccountingCall.removed).sum ≤ execution.quantity
  /-- … at its price, … -/
  price : ∀ execution : ExecutionUpdate,
    ((callsOf execution calls).map AccountingCall.notional).sum =
      execution.price * ((callsOf execution calls).map AccountingCall.removed).sum
  /-- … and with the fee in proportion. -/
  fee : ∀ execution : ExecutionUpdate,
    ((callsOf execution calls).map AccountingCall.fees).sum =
      execution.fee * ((callsOf execution calls).map AccountingCall.removed).sum /
        execution.quantity
  /-- A call that raises leaves the store as it found it. -/
  raised : ∀ call ∈ calls, ∀ failure, call.outcome = .error failure →
    call.after.store = call.before.store

/-- At most one of several calls with one execution finds an open protection. -/
def BooksOnce (calls : List AccountingCall) : Prop :=
  calls.Pairwise fun call call' => call.execution = call'.execution →
    ¬ (Books call.execution call.before ∧ Books call'.execution call'.before)

instance (calls : List AccountingCall) : Decidable (BooksOnce calls) :=
  inferInstanceAs (Decidable (List.Pairwise _ calls))

section Sequences

variable {execution : ExecutionUpdate} {calls : List AccountingCall}

theorem execution_of_mem_callsOf {call : AccountingCall} (h : call ∈ callsOf execution calls) :
    call.execution = execution :=
  of_decide_eq_true (List.mem_filter.mp h).2

/-- The calls with one execution book at most the execution, if at most one of them books. -/
theorem sum_removed_le (h : BooksOnce calls) :
    ((callsOf execution calls).map AccountingCall.removed).sum ≤ execution.quantity := by
  have hown : ∀ call ∈ callsOf execution calls, call.execution = execution :=
    fun call hcall => execution_of_mem_callsOf hcall
  have honce : BooksOnce (callsOf execution calls) := h.sublist List.filter_sublist
  generalize callsOf execution calls = own at *
  induction own with
  | nil => exact execution.quantity_pos.le
  | cons call rest ih =>
    obtain ⟨hcall, hrest⟩ := List.forall_mem_cons.mp hown
    obtain ⟨hothers, honce⟩ := List.pairwise_cons.mp honce
    rw [List.map_cons, List.sum_cons]
    by_cases hbooks : Books call.execution call.before
    · -- It is this one, so none of the others finds anything.
      have hzero : (rest.map AccountingCall.removed).sum = 0 := by
        refine List.sum_eq_zero fun amount hamount => ?_
        obtain ⟨call', hcall', rfl⟩ := List.mem_map.mp hamount
        refine AccountingCall.removed_eq_zero fun hbooks' => ?_
        exact hothers call' hcall' (hcall.trans (hrest call' hcall').symm) ⟨hbooks, hbooks'⟩
      rw [hzero, add_zero, ← hcall]
      exact AccountingCall.removed_le
    · rw [AccountingCall.removed_eq_zero hbooks, zero_add]
      exact ih hrest honce

end Sequences

/-! ## The loops of the runner -/

/-- Calls one after the other, with nothing in between. -/
inductive Consecutive : DemoWorld → List AccountingCall → DemoWorld → Prop
  | nil (w : DemoWorld) : Consecutive w [] w
  | cons (call : AccountingCall) {calls : List AccountingCall} {w' : DemoWorld} :
      Consecutive call.after calls w' → Consecutive call.before (call :: calls) w'

/-- **A loop over executions is a sequence of calls**, one for each emergency execution, in order,
    up to the first that raises. -/
theorem calls_of_applyEach {executions : List ExecutionUpdate} {outcome : Except Failure Unit}
    {w w' : DemoWorld} (h : Coroutine.Runs handle (applyEach executions) w outcome w') :
    ∃ calls, Consecutive w calls w' ∧
      calls.map AccountingCall.execution <+: executions.filter isEmergencyClose := by
  induction executions generalizing w with
  | nil =>
    obtain ⟨-, rfl⟩ := Coroutine.runs_pure.mp h
    exact ⟨[], .nil _, List.nil_prefix⟩
  | cons execution rest ih =>
    unfold applyEach at h
    by_cases hclose : isEmergencyClose execution = true
    · rw [if_pos hclose] at h
      rw [List.filter_cons_of_pos hclose]
      rcases Coroutine.runs_bind.mp h with ⟨_, w₁, hcall, hrest⟩ | ⟨failure, hcall, -⟩
      · obtain ⟨calls, hcalls, hprefix⟩ := ih hrest
        let call : AccountingCall := ⟨execution, w, _, w₁, hcall⟩
        exact ⟨call :: calls, .cons call hcalls, List.cons_prefix_cons.mpr ⟨rfl, hprefix⟩⟩
      · let call : AccountingCall := ⟨execution, w, _, w', hcall⟩
        exact ⟨[call], .cons call (.nil w'), List.cons_prefix_cons.mpr ⟨rfl, List.nil_prefix⟩⟩
    · rw [if_neg hclose] at h
      rw [List.filter_cons_of_neg hclose]
      exact ih h

/-- The restart books what the store has recorded. -/
theorem calls_of_applyRecorded {outcome : Except Failure Unit} {w w' : DemoWorld}
    (h : Coroutine.Runs handle applyRecordedEmergencyExits w outcome w') :
    ∃ calls, Consecutive w calls w' ∧
      calls.map AccountingCall.execution <+:
        w.store.loadAllExecutions.filter isEmergencyClose :=
  calls_of_applyEach ((Coroutine.runs_call_bind fun _ => rfl).mp h)

/-! Two levels of one unit each, sold at 2000, and an emergency close at 2100. -/

def unitStop (level : ℕ) : PlaceOrderFields :=
  ProtectiveExitService.stopFields 1 2010 (stopIdOf level)

def stopIntent (level : ℕ) (h : (unitStop level).check = .ok ()) : OrderIntentRow where
  request := ⟨unitStop level, h⟩
  persistedAt := 0
  exchangeOrderId := some s!"order-{stopIdOf level}"
  acknowledgedAt := some 0

def unitProtection (level : ℕ) : ProtectionFields where
  entryOrderLinkId := entryIdOf level
  state := .activeProtected
  entryQuantity := 1
  openQuantity := 1
  averageEntryPrice := 2000
  entryFees := 1 / 10
  stopOrderLinkId := stopIdOf level
  stopOrderId := some s!"order-{stopIdOf level}"
  stopTriggerPrice := 2010
  tpOrderLinkId := none
  tpOrderId := none
  tpPrice := none
  tpFilledQuantity := 0
  stopFilledQuantity := 0
  exitNotional := 0
  exitFees := 0
  confirmedRecoveryDebt := 0
  pendingTerminalState := none
  version := 2
  updatedAt := 0

theorem check_unitOne : (unitRequest 1).check = .ok () := by decide +kernel

theorem check_unitTwo : (unitRequest 2).check = .ok () := by decide +kernel

/-- The first level has its stop, the second has not. -/
def protectedFirst : SqliteExecutionStore :=
  { openedTwo.store.toTables with
    orderIntents :=
      ⟨[unitIntent 1 check_unitOne, unitIntent 2 check_unitTwo,
        stopIntent 1 (by decide +kernel)], by decide +kernel⟩
    protectionSnapshots := ⟨[⟨unitProtection 1, by decide +kernel⟩], by decide +kernel⟩
    constraints := by decide +kernel }

/-- Both have. -/
def protectedBoth : SqliteExecutionStore :=
  { openedTwo.store.toTables with
    orderIntents :=
      ⟨[unitIntent 1 check_unitOne, unitIntent 2 check_unitTwo,
        stopIntent 1 (by decide +kernel), stopIntent 2 (by decide +kernel)], by decide +kernel⟩
    protectionSnapshots :=
      ⟨[⟨unitProtection 1, by decide +kernel⟩, ⟨unitProtection 2, by decide +kernel⟩],
        by decide +kernel⟩
    constraints := by decide +kernel }

/-- A fill of the close. -/
def closeFill (quantity : ℚ) : ExecutionFields where
  executionId := "close-fill"
  orderId := "close-order"
  orderLinkId := "ECH-A-C0001-L01-EC-A01-ABCD"
  symbol := "ETHUSDT"
  side := .buy
  price := 2100
  quantity
  fee := 1 / 100
  isMaker := some false
  executedAt := 0

/-- The call, run to its end. -/
def accountingCall (execution : ExecutionUpdate) (w : DemoWorld) : Option AccountingCall :=
  match h : Coroutine.execute handle (applyEmergencyExit execution) (List.replicate 6 ()) w with
  | some (outcome, after) =>
    some { execution, before := w, outcome, after, runs := Coroutine.runs_of_execute h }
  | none => none

/-- The calls for these executions, one after the other. -/
def reported : List ExecutionUpdate → DemoWorld → Option (List AccountingCall)
  | [], _ => some []
  | execution :: rest, w => do
    let call ← accountingCall execution w
    let calls ← reported rest call.after
    pure (call :: calls)

/-- The close fills as a whole, and the fill is reported twice. -/
def wholeFillTwice : Option (List AccountingCall) :=
  let execution : ExecutionUpdate := ⟨closeFill 2, by decide +kernel⟩
  reported [execution, execution] { store := protectedBoth, readings := fun _ => .ok 0 }

/-- The close fills in part, and the fill is reported twice. -/
def partialFillTwice : Option (List AccountingCall) :=
  let execution : ExecutionUpdate := ⟨closeFill 1, by decide +kernel⟩
  reported [execution, execution] { store := protectedBoth, readings := fun _ => .ok 0 }

/-- The close fills for one level and a half, and only the first has a protection. -/
def unprotectedSecond : Option (List AccountingCall) :=
  let execution : ExecutionUpdate := ⟨closeFill (3 / 2), by decide +kernel⟩
  reported [execution] { store := protectedFirst, readings := fun _ => .ok 0 }

end DemoRunner

end CreditHedge
