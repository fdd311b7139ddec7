import CreditHedge.Application.Ports
import CreditHedge.Domain.Control
import CreditHedge.Lib.Gates

/-!
# One process

The coordinators and the kill switch keep part of their state in attributes, and share one event
loop. What runs between two awaits runs alone: it reads attributes, writes them, and then awaits.
`ProcessCall.sync` is such a stretch, as the change it makes to the attributes (`Memory`); it is
answered the attributes it found, which decide how the task goes on (`sync`).

The rest are the ports. The calls of the services are `ProcessCall.port`, and a service is a task
of the process (`onPorts`). One of those calls reads an attribute: `entries_allowed` is the kill
switch's, and is answered from memory here.

`previous_price` and the other attributes of a coordinator are a record of their own for each of
the two coordinators. Their dictionaries have the ladder's level ids as keys from the start, so
they are functions of the level id.
-/

set_option autoImplicit false

namespace CreditHedge

/-- The attributes of a `MultiLevelCoordinator` that change. -/
structure MultiLevelState where
  previousPrice : Option ℚ := none
  connectionGeneration : Option ℤ := none
  armed : ℕ → Bool := fun _ => false
  attempts : ℕ → ℕ := fun _ => 0
  submittedOrderIds : ℕ → Option String := fun _ => none

/-- The attributes of a `OneLevelCoordinator` that change. -/
structure OneLevelState where
  previousPrice : Option ℚ := none
  connectionGeneration : Option ℤ := none
  entryArmed : Bool := false
  submitted : Bool := false

structure Memory where
  /-- `KillSwitchController._state`. -/
  killSwitch : Option KillSwitchState := none
  multiLevel : MultiLevelState := {}
  oneLevel : OneLevelState := {}

/-- `KillSwitchController.entries_allowed`. -/
def Memory.entriesAllowed (memory : Memory) : Except Failure Bool :=
  match memory.killSwitch with
  | none => .error (.runtimeError "kill switch has not been initialized")
  | some state => .ok (state.mode = .running)

/-- `self._entry_gate is None or self._entry_gate.entries_allowed`. -/
def Memory.gateAllows (memory : Memory) (hasEntryGate : Bool) : Except Failure Bool :=
  if hasEntryGate then memory.entriesAllowed else .ok true

inductive ProcessCall where
  | port (call : Call)
  | sync (change : Memory → Memory)
  | saveKillSwitch (state : KillSwitchState) (expectedVersion : Option ℕ)
  | sendNotification (notification : KillSwitchActivatedNotification)
  | cancelAll (category : Category) (symbol : Option String)
  | persistOrderIntent (request : PlaceOrderRequest) (persistedAt : Time)
  /-- The callback of the emergency executor. -/
  | reconcile

abbrev ProcessCall.Result : ProcessCall → Type
  | .port call => call.Result
  | .sync _ => Memory
  | .reconcile => Bool
  | _ => Unit

abbrev Task := Coroutine Failure ProcessCall ProcessCall.Result

/-- What the outside world answers the process. -/
structure ProcessAnswers extends Answers where
  saved : Except Failure Unit := .ok ()
  sent : Except Failure Unit := .ok ()
  allCancelled : Except Failure Unit := .ok ()
  reconciled : Except Failure Bool := .ok true

instance : Inhabited ProcessAnswers := ⟨{}⟩

structure Process where
  world : World
  memory : Memory

namespace Process

/-- `FileKillSwitchStore.save` and the other outside calls answer what the world says; a port is
    answered as before, but for the entry gate. -/
def handle (a : ProcessAnswers) :
    (call : ProcessCall) → Process → Except Failure call.Result × Process
  | .port .entriesAllowed, p => (p.memory.entriesAllowed, p)
  | .port call, p =>
    ((CreditHedge.handle a.toAnswers call p.world).1,
      { p with world := (CreditHedge.handle a.toAnswers call p.world).2 })
  | .sync change, p => (.ok p.memory, { p with memory := change p.memory })
  | .saveKillSwitch _ _, p => (a.saved, p)
  | .sendNotification _, p => (a.sent, p)
  | .cancelAll _ _, p => (a.allCancelled, p)
  | .persistOrderIntent request persistedAt, p =>
    let written := p.world.write (p.world.store.persistOrderIntent request persistedAt)
    (written.1, { p with world := written.2 })
  | .reconcile, p => (a.reconciled, p)

end Process

/-- A stretch without awaits, which ends in the rest of the task. -/
def sync {α : Type} (stretch : Memory → Memory × Task α) : Task α :=
  .call (.sync fun memory => (stretch memory).1) fun answer =>
    match answer with
    | .ok memory => (stretch memory).2
    | .error failure => .done (.error failure)

/-- A service, as a task of the process. -/
def onPorts {α : Type} : Service α → Task α
  | .done outcome => .done outcome
  | .call call resume => .call (.port call) fun answer => onPorts (resume answer)

/-! ## Rules -/

section Rules

variable {α β : Type}

/-- The calls of a service are calls of its ports. -/
theorem calls_onPorts {p : ProcessCall → Prop} {t : Service α}
    (h : t.Calls fun call => p (.port call)) : (onPorts t).Calls p := by
  induction t with
  | done outcome => exact trivial
  | call call resume ih => exact ⟨h.1, fun answer => ih answer (h.2 answer)⟩

/-- No port changes an attribute. -/
theorem memory_of_port (a : ProcessAnswers) (call : Call) (p : Process) :
    (p.handle a (.port call)).2.memory = p.memory := by
  cases call <;> rfl

theorem calls_sync {p : ProcessCall → Prop} {stretch : Memory → Memory × Task α}
    (h : p (.sync fun memory => (stretch memory).1)) (hrest : ∀ memory, (stretch memory).2.Calls p) :
    (sync stretch).Calls p := by
  refine ⟨h, fun answer => ?_⟩
  cases answer with
  | ok memory => exact hrest memory
  | error failure => exact trivial

variable {p p' : Process}

theorem runs_sync {stretch : Memory → Memory × Task α} {outcome : Except Failure α} :
    Coroutine.Runs Process.handle (sync stretch) p outcome p' ↔
      Coroutine.Runs Process.handle (stretch p.memory).2
        { p with memory := (stretch p.memory).1 } outcome p' := by
  refine Coroutine.runs_call.trans ⟨fun ⟨_, h⟩ => h, fun h => ⟨default, h⟩⟩

/-- A service run to its end has not touched an attribute. -/
theorem memory_of_runs_onPorts {t : Service α} {outcome : Except Failure α}
    (h : Coroutine.Runs Process.handle (onPorts t) p outcome p') : p'.memory = p.memory := by
  induction t generalizing p with
  | done outcome' =>
    obtain ⟨-, rfl⟩ := Coroutine.runs_done.mp h
    rfl
  | call call resume ih =>
    obtain ⟨a, h⟩ := Coroutine.runs_call.mp h
    exact (ih _ h).trans (memory_of_port a call p)

end Rules

end CreditHedge
