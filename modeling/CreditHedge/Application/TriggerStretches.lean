import CreditHedge.Application.Coordinators
import CreditHedge.Lib.Calls

/-!
# The stretches of a multi-level `on_trigger`

A call of `on_trigger` awaits in one place, the submission of an entry, so it runs in stretches:
the first one up to its first submission, and one more for each submission that returned. As a
task (`MultiLevelCoordinator.onTrigger`) a call shows what it asks of the ports. What it has
looked at on the way is gone by then: the levels it found crossed, what the gate said of each, and
what became of it.

Here a stretch is a value that has kept this. `sweep` is the loop over the crossed levels up to
the next await, `first` the first stretch of a call, and `Follows` says which task goes with how
far a call has come. That it is the same program is `follows_sweep` and `follows_first`: a task
that is answered once leaves the attributes as the stretch does, and goes on as it says.
-/

set_option autoImplicit false

namespace CreditHedge

/-- What `on_trigger` is called with. -/
structure Trigger where
  event : TriggerPriceEvent
  marketHealth : MarketDataHealthResult
  riskState : RiskState

/-- A crossed level as it was looked at: what the gate said, and what became of the offer. -/
structure Look where
  level : HedgeLevel
  gate : Except Failure Bool
  verdict : Except Failure EntryOffer

/-- How far a call has come. While an entry is submitted, it has the levels that are left, and the
    risk state they will be held against. -/
inductive Progress where
  | called
  | submitting (level : HedgeLevel) (request : PlaceOrderRequest) (rest : List HedgeLevel)
      (riskState : RiskState)
  | over

/-- The levels a call has left. -/
def Progress.rest : Progress → List HedgeLevel
  | .submitting _ _ rest _ => rest
  | _ => []

/-- The request a call is submitting. -/
def Progress.request? : Progress → Option PlaceOrderRequest
  | .submitting _ request _ _ => some request
  | _ => none

structure Stretch where
  memory : Memory
  looks : List Look
  progress : Progress
  /-- The price of the call has become the previous price. -/
  noted : Bool := false

namespace MultiLevelCoordinator

variable (c : MultiLevelCoordinator)

/-- The loop over the crossed levels, up to the next `await`. -/
def sweep : List HedgeLevel → RiskState → Memory → Stretch
  | [], _, memory => { memory, looks := [], progress := .over }
  | level :: rest, riskState, memory =>
    let memory := disarm level memory
    let look : Look :=
      { level
        gate := memory.gateAllows c.hasEntryGate
        verdict := c.offer memory riskState level }
    match look.verdict with
    | .error _ => { memory, looks := [look], progress := .over }
    | .ok (.blocked _) =>
      let later := sweep rest riskState memory
      { later with looks := look :: later.looks }
    | .ok (.submit request proposal) =>
      { memory := noteSubmitted level request memory
        looks := [look]
        progress := .submitting level request rest (riskState.afterEntry proposal) }

/-- A price in the current segment. -/
def firstInSegment (t : Trigger) (memory : Memory) : Stretch :=
  match memory.multiLevel.previousPrice with
  | none => { memory, looks := [], progress := .over }
  | some previous =>
    let current := t.event.observedPrice
    let s := c.arm current memory.multiLevel
    { c.sweep (c.crossings s previous current) t.riskState
        { memory with multiLevel := { s with previousPrice := some current } } with
      noted := true }

/-- The first stretch of a call. -/
def first (t : Trigger) (memory : Memory) : Stretch :=
  let ignored : Stretch := { memory, looks := [], progress := .over }
  let reset : Stretch :=
    { memory := { memory with multiLevel := c.resetSegment t.event memory.multiLevel }
      looks := []
      progress := .over
      noted := true }
  if t.event.symbol ≠ c.instrument.symbol then ignored
  else if t.event.source ≠ .lastTrade then ignored
  else if t.marketHealth.tradingAllowed = false then ignored
  else
    match memory.multiLevel.connectionGeneration with
    | none => reset
    | some generation =>
      if t.event.connectionGeneration < generation then ignored
      else if generation < t.event.connectionGeneration then reset
      else c.firstInSegment t memory

/-- The task of a call that has come so far. A submission may itself have been answered some of
    its calls. -/
inductive Follows (t : Trigger) : Progress → Task MultiLevelTriggerResult → Prop
  | called : Follows t .called (c.onTrigger t.event t.marketHealth t.riskState)
  | submitting {level : HedgeLevel} {request : PlaceOrderRequest} {rest : List HedgeLevel}
      {riskState : RiskState} {history : List (Coroutine.Answered Failure Call Call.Result)}
      {submission : Service EntryExecutionSnapshot} (entries : List LevelEntrySubmission)
      (blocked : List LevelEntryBlock) :
      Coroutine.Comes (OneLevelEntryService.submitEntry request) history submission →
      Follows t (.submitting level request rest riskState)
        (onPorts submission >>= fun snapshot =>
          sync (c.visit rest riskState
            (entries ++ [{ levelId := level.levelId, request, snapshot }]) blocked))
  | over (outcome : Except Failure MultiLevelTriggerResult) : Follows t .over (.done outcome)

variable {c}

/-- The loop as a task, and as a stretch. -/
theorem follows_sweep (t : Trigger) (crossed : List HedgeLevel) (riskState : RiskState)
    (entries : List LevelEntrySubmission) (blocked : List LevelEntryBlock) (memory : Memory) :
    (c.visit crossed riskState entries blocked memory).1 =
        (c.sweep crossed riskState memory).memory ∧
      c.Follows t (c.sweep crossed riskState memory).progress
        (c.visit crossed riskState entries blocked memory).2 := by
  induction crossed generalizing blocked memory with
  | nil => exact ⟨rfl, .over _⟩
  | cons level rest ih =>
    unfold visit sweep
    dsimp only
    cases c.offer (disarm level memory) riskState level with
    | error failure => exact ⟨rfl, .over _⟩
    | ok offer =>
      cases offer with
      | blocked reasons => exact ih _ _
      | submit request proposal => exact ⟨rfl, .submitting entries blocked .here⟩

theorem follows_firstInSegment (t : Trigger) (memory : Memory) :
    (c.inSegment t.event t.riskState memory).1 = (c.firstInSegment t memory).memory ∧
      c.Follows t (c.firstInSegment t memory).progress
        (c.inSegment t.event t.riskState memory).2 := by
  unfold inSegment firstInSegment
  cases memory.multiLevel.previousPrice with
  | none => exact ⟨rfl, .over _⟩
  | some previous => exact follows_sweep t _ _ _ _ _

/-- A call that was only made, and is answered once, has run its first stretch. -/
theorem follows_first (t : Trigger) (a : ProcessAnswers) (p : Process) :
    ((c.onTrigger t.event t.marketHealth t.riskState).advance Process.handle a p).2.memory =
        (c.first t p.memory).memory ∧
      c.Follows t (c.first t p.memory).progress
        ((c.onTrigger t.event t.marketHealth t.riskState).advance Process.handle a p).1 := by
  unfold onTrigger first
  split_ifs
  · exact ⟨rfl, .over _⟩
  · exact ⟨rfl, .over _⟩
  · exact ⟨rfl, .over _⟩
  · change (c.observe t.event t.riskState p.memory).1 = _ ∧
      c.Follows t _ (c.observe t.event t.riskState p.memory).2
    unfold observe
    dsimp only
    cases p.memory.multiLevel.connectionGeneration with
    | none => exact ⟨rfl, .over _⟩
    | some generation =>
      dsimp only
      split_ifs
      · exact ⟨rfl, .over _⟩
      · exact ⟨rfl, .over _⟩
      · exact follows_firstInSegment t p.memory

/-- A submission that is answered once more is the submission still, or has raised, or has
    returned and its call has run the next stretch. -/
theorem Follows.advance {t : Trigger} {level : HedgeLevel} {request : PlaceOrderRequest}
    {rest : List HedgeLevel} {riskState : RiskState} {task : Task MultiLevelTriggerResult}
    (h : c.Follows t (.submitting level request rest riskState) task) (a : ProcessAnswers)
    (p : Process) :
    ((task.advance Process.handle a p).2.memory = p.memory ∧
        (c.Follows t (.submitting level request rest riskState)
            (task.advance Process.handle a p).1 ∨
          c.Follows t .over (task.advance Process.handle a p).1)) ∨
      ((task.advance Process.handle a p).2.memory = (c.sweep rest riskState p.memory).memory ∧
        c.Follows t (c.sweep rest riskState p.memory).progress
          (task.advance Process.handle a p).1) := by
  cases h with
  | @submitting _ _ _ _ history submission entries blocked hcomes =>
    rw [Coroutine.bind_eq]
    cases submission with
    | done outcome =>
      cases outcome with
      | ok snapshot => exact .inr (follows_sweep t rest riskState _ blocked p.memory)
      | error failure => exact .inl ⟨rfl, .inr (.over _)⟩
    | call call resume =>
      obtain ⟨history', hcomes'⟩ := hcomes.answered (Process.handle a (.port call) p).1
      exact .inl ⟨memory_of_port a call p, .inl (.submitting entries blocked hcomes')⟩

end MultiLevelCoordinator

end CreditHedge
