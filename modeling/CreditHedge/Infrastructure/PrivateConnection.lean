import Mathlib.Data.List.Induction
import CreditHedge.Domain.Execution

/-!
# The private connection's supervisor

`PrivateConnectionSupervisor` of `infrastructure/bybit/private_ws.py`: a generation counter, the
state of the connection, and two flags, which six operations update each in its own way. The
README promises that the stream stays blocked for new entries until a snapshot reconciles the
*current* generation.

The promise is kept in one direction only. `mark_disconnected` asks for a reconciliation and
blocks; `begin_connection` blocks, but asks for nothing; and `mark_authenticated` puts the block
where the request is. So it is the request alone that carries "this generation has not been
reconciled" over to the authentication, and a generation that begins without an observed
disconnect begins without one. `blocked_until_reconciled_iff` says that nothing else can go
wrong: over any run, the promise holds at every point exactly if every authentication that the
supervisor admits finds the request in place.
-/

set_option autoImplicit false

namespace CreditHedge

inductive PrivateConnectionState where
  | connected
  | authenticated
  | disconnected
  | reconnecting
  deriving DecidableEq, Repr

structure PrivateConnectionEvent where
  state : PrivateConnectionState
  observedAt : Time
  connectionGeneration : ℤ
  reason : Option String := none
  deriving DecidableEq, Repr

/-- `PrivateConnectionEvent.__post_init__`. -/
def PrivateConnectionEvent.create (state : PrivateConnectionState) (observedAt : Time)
    (connectionGeneration : ℤ) (reason : Option String) :
    Except Failure PrivateConnectionEvent := do
  refuseIf (connectionGeneration < 0) "connection generation cannot be negative"
  refuseIf (∃ text ∈ reason, isBlank text = true) "connection reason cannot be empty"
  pure { state, observedAt, connectionGeneration, reason }

structure PrivateConnectionSupervisor where
  connectionGeneration : ℤ := 0
  state : PrivateConnectionState := .disconnected
  reconciliationRequired : Bool := true
  newEntriesBlocked : Bool := true
  lastActivityUtc : Option Time := none
  deriving DecidableEq, Repr

namespace PrivateConnectionSupervisor

/-- A method. What it wrote before it raised stays written. -/
abbrev Method (α : Type) : Type := ExceptT Failure (StateM PrivateConnectionSupervisor) α

/-- `_utc`, of a datetime that is `none` where it carries no time zone. -/
def utc (value : Option Time) (fieldName : String) : Except Failure Time :=
  match value with
  | some time => pure time
  | none => throw (.valueError (fieldName ++ " must be timezone-aware"))

def requireCurrentGeneration (generation : ℤ) : Method Unit := do
  if generation ≠ (← get).connectionGeneration then
    throw (.valueError "private connection generation is stale")

def beginConnection (observedAtUtc : Option Time) : Method ℤ := do
  let observedAt ← utc observedAtUtc "connection time"
  modify fun supervisor =>
    { supervisor with
      connectionGeneration := supervisor.connectionGeneration + 1
      state := .connected
      newEntriesBlocked := true
      lastActivityUtc := some observedAt }
  return (← get).connectionGeneration

def markAuthenticated (generation : ℤ) (observedAtUtc : Option Time) :
    Method PrivateConnectionEvent := do
  requireCurrentGeneration generation
  if (← get).state ≠ .connected then
    throw (.valueError "private connection must be connected before authentication")
  let observedAt ← utc observedAtUtc "authentication time"
  modify fun supervisor =>
    { supervisor with
      state := .authenticated
      lastActivityUtc := some observedAt
      newEntriesBlocked := supervisor.reconciliationRequired }
  PrivateConnectionEvent.create .authenticated observedAt generation none

def markDisconnected (generation : ℤ) (observedAtUtc : Option Time) (reason : String) :
    Method PrivateConnectionEvent := do
  requireCurrentGeneration generation
  let observedAt ← utc observedAtUtc "disconnect time"
  modify fun supervisor =>
    { supervisor with
      state := .disconnected
      reconciliationRequired := true
      newEntriesBlocked := true
      lastActivityUtc := some observedAt }
  PrivateConnectionEvent.create .disconnected observedAt generation
    (if reason = "" then "private WebSocket disconnected" else reason)

def markReconnecting (generation : ℤ) (observedAtUtc : Option Time) :
    Method PrivateConnectionEvent := do
  requireCurrentGeneration generation
  let observedAt ← utc observedAtUtc "reconnect time"
  modify fun supervisor =>
    { supervisor with
      state := .reconnecting
      newEntriesBlocked := true
      lastActivityUtc := some observedAt }
  PrivateConnectionEvent.create .reconnecting observedAt generation
    "reconciliation required after disconnect"

def acceptEvent (generation : ℤ) (observedAtUtc : Option Time) : Method Bool := do
  let supervisor ← get
  if generation ≠ supervisor.connectionGeneration ∨ supervisor.state ≠ .authenticated then
    return false
  let observedAt ← utc observedAtUtc "private event time"
  modify fun supervisor => { supervisor with lastActivityUtc := some observedAt }
  return true

def markReconciled (generation : ℤ) : Method Unit := do
  requireCurrentGeneration generation
  if (← get).state ≠ .authenticated then
    throw (.valueError "private connection must be authenticated to reconcile")
  modify fun supervisor =>
    { supervisor with reconciliationRequired := false, newEntriesBlocked := false }

/-! ## What a call does

`on` runs a method on a supervisor; its rules let `simp` go through a method's body, once it is
known which of the guards holds. -/

/-- What a method returns or raises, and the supervisor it leaves. -/
def Method.on {α : Type} (method : Method α) (supervisor : PrivateConnectionSupervisor) :
    Except Failure α × PrivateConnectionSupervisor :=
  (method.run).run supervisor

@[simp] theorem on_bind {α β : Type} (method : Method α) (next : α → Method β)
    (s : PrivateConnectionSupervisor) :
    (method >>= next).on s =
      match method.on s with
      | (.ok a, s') => (next a).on s'
      | (.error failure, s') => (.error failure, s') := by
  simp only [Method.on, ExceptT.run_bind, StateT.run_bind]
  rcases (method.run).run s with ⟨_ | a, s'⟩ <;> rfl

@[simp] theorem on_map {α β : Type} (f : α → β) (method : Method α)
    (s : PrivateConnectionSupervisor) :
    (f <$> method).on s = ((method.on s).1.map f, (method.on s).2) := by
  simp only [Method.on, ExceptT.run_map, StateT.run_map]
  rcases (method.run).run s with ⟨_ | a, s'⟩ <;> rfl

@[simp] theorem on_pure {α : Type} (a : α) (s : PrivateConnectionSupervisor) :
    (pure a : Method α).on s = (.ok a, s) := rfl

@[simp] theorem on_get (s : PrivateConnectionSupervisor) :
    (get : Method PrivateConnectionSupervisor).on s = (.ok s, s) := rfl

@[simp] theorem on_modify (f : PrivateConnectionSupervisor → PrivateConnectionSupervisor)
    (s : PrivateConnectionSupervisor) : (modify f : Method Unit).on s = (.ok (), f s) := rfl

@[simp] theorem on_throw {α : Type} (failure : Failure) (s : PrivateConnectionSupervisor) :
    (throw failure : Method α).on s = (.error failure, s) := rfl

@[simp] theorem on_lift {α : Type} (result : Except Failure α) (s : PrivateConnectionSupervisor) :
    (liftM result : Method α).on s = (result, s) := by
  cases result <;> rfl

@[simp] theorem utc_none (fieldName : String) :
    utc none fieldName = .error (.valueError (fieldName ++ " must be timezone-aware")) := rfl

@[simp] theorem utc_some (time : Time) (fieldName : String) :
    utc (some time) fieldName = .ok time := rfl

/-- A call that raised and changed nothing. -/
def Rejected {α : Type} (method : Method α) (s : PrivateConnectionSupervisor) : Prop :=
  ∃ failure, method.on s = (.error failure, s)

theorem beginConnection_cases (s : PrivateConnectionSupervisor) (observedAtUtc : Option Time) :
    Rejected (beginConnection observedAtUtc) s ∨
      ∃ generation time, (beginConnection observedAtUtc).on s =
        (.ok generation,
          { s with
            connectionGeneration := s.connectionGeneration + 1
            state := .connected
            newEntriesBlocked := true
            lastActivityUtc := some time }) := by
  cases observedAtUtc with
  | none => exact .inl ⟨_, by simp [beginConnection]; rfl⟩
  | some time => exact .inr ⟨_, time, rfl⟩

/-- A stale generation is refused by every method that is given one. -/
theorem rejected_of_stale {α : Type} {next : Method α} {generation : ℤ}
    {s : PrivateConnectionSupervisor} (h : generation ≠ s.connectionGeneration) :
    Rejected (requireCurrentGeneration generation >>= fun _ => next) s :=
  ⟨_, by simp [requireCurrentGeneration, h]; rfl⟩

/-- The guards of `mark_authenticated`. -/
def Authenticates (s : PrivateConnectionSupervisor) (generation : ℤ)
    (observedAtUtc : Option Time) : Prop :=
  generation = s.connectionGeneration ∧ s.state = .connected ∧ observedAtUtc ≠ none

theorem markAuthenticated_rejected {s : PrivateConnectionSupervisor} {generation : ℤ}
    {observedAtUtc : Option Time} (h : ¬ Authenticates s generation observedAtUtc) :
    Rejected (markAuthenticated generation observedAtUtc) s := by
  by_cases hg : generation = s.connectionGeneration
  · by_cases hc : s.state = .connected
    · cases observedAtUtc with
      | none => exact ⟨_, by simp [markAuthenticated, requireCurrentGeneration, hg, hc]; rfl⟩
      | some time => exact absurd ⟨hg, hc, by simp⟩ h
    · exact ⟨_, by simp [markAuthenticated, requireCurrentGeneration, hg, hc]; rfl⟩
  · exact rejected_of_stale hg

/-- **The block goes where the request is**: an authentication that gets through leaves entries
blocked exactly if a reconciliation is asked for. -/
theorem markAuthenticated_on {s : PrivateConnectionSupervisor} (hs : 0 ≤ s.connectionGeneration)
    {generation : ℤ} {observedAtUtc : Option Time}
    (h : Authenticates s generation observedAtUtc) :
    ∃ event time, (markAuthenticated generation observedAtUtc).on s =
      (.ok event,
        { s with
          state := .authenticated
          newEntriesBlocked := s.reconciliationRequired
          lastActivityUtc := some time }) := by
  obtain ⟨hg, hc, ht⟩ := h
  obtain ⟨time, rfl⟩ := Option.ne_none_iff_exists'.mp ht
  have hn : ¬ s.connectionGeneration < 0 := by omega
  refine ⟨⟨.authenticated, time, generation, none⟩, time, ?_⟩
  simp [markAuthenticated, requireCurrentGeneration, hg, hc, PrivateConnectionEvent.create,
    refuseIf, hn]

/-- A disconnect whose reason is blank writes all it has to write, and raises after it. -/
theorem markDisconnected_cases (s : PrivateConnectionSupervisor) (generation : ℤ)
    (observedAtUtc : Option Time) (reason : String) :
    Rejected (markDisconnected generation observedAtUtc reason) s ∨
      ∃ time, ((markDisconnected generation observedAtUtc reason).on s).2 =
        { s with
          state := .disconnected
          reconciliationRequired := true
          newEntriesBlocked := true
          lastActivityUtc := some time } := by
  by_cases hg : generation = s.connectionGeneration
  · cases observedAtUtc with
    | none => exact .inl ⟨_, by simp [markDisconnected, requireCurrentGeneration, hg]; rfl⟩
    | some time => exact .inr ⟨time, by simp [markDisconnected, requireCurrentGeneration, hg]⟩
  · exact .inl (rejected_of_stale hg)

theorem markReconnecting_cases (s : PrivateConnectionSupervisor) (generation : ℤ)
    (observedAtUtc : Option Time) :
    Rejected (markReconnecting generation observedAtUtc) s ∨
      ∃ time, ((markReconnecting generation observedAtUtc).on s).2 =
        { s with
          state := .reconnecting
          newEntriesBlocked := true
          lastActivityUtc := some time } := by
  by_cases hg : generation = s.connectionGeneration
  · cases observedAtUtc with
    | none => exact .inl ⟨_, by simp [markReconnecting, requireCurrentGeneration, hg]; rfl⟩
    | some time => exact .inr ⟨time, by simp [markReconnecting, requireCurrentGeneration, hg]⟩
  · exact .inl (rejected_of_stale hg)

/-- An event moves no more than the time of the last activity. -/
theorem acceptEvent_cases (s : PrivateConnectionSupervisor) (generation : ℤ)
    (observedAtUtc : Option Time) :
    ∃ activity, ((acceptEvent generation observedAtUtc).on s).2 =
      { s with lastActivityUtc := activity } := by
  by_cases h : generation ≠ s.connectionGeneration ∨ s.state ≠ .authenticated
  · exact ⟨s.lastActivityUtc, by simp [acceptEvent, h]⟩
  · cases observedAtUtc with
    | none => exact ⟨s.lastActivityUtc, by simp [acceptEvent, h]⟩
    | some time => exact ⟨some time, by simp [acceptEvent, h]⟩

theorem markReconciled_cases (s : PrivateConnectionSupervisor) (generation : ℤ) :
    Rejected (markReconciled generation) s ∨
      s.state = .authenticated ∧ (markReconciled generation).on s =
        (.ok (), { s with reconciliationRequired := false, newEntriesBlocked := false }) := by
  by_cases hg : generation = s.connectionGeneration
  · by_cases ha : s.state = .authenticated
    · exact .inr ⟨ha, by simp [markReconciled, requireCurrentGeneration, hg, ha]⟩
    · exact .inl ⟨_, by simp [markReconciled, requireCurrentGeneration, hg, ha]; rfl⟩
  · exact .inl (rejected_of_stale hg)

/-! ## Runs

A run is a list of calls on a new supervisor, in any order and with any arguments. What the
promise speaks of is no field of the supervisor, so a run carries it beside: whether a
`mark_reconciled` has returned since the last `begin_connection` that did. -/

inductive Operation where
  | beginConnection (observedAtUtc : Option Time)
  | markAuthenticated (generation : ℤ) (observedAtUtc : Option Time)
  | markDisconnected (generation : ℤ) (observedAtUtc : Option Time) (reason : String)
  | markReconnecting (generation : ℤ) (observedAtUtc : Option Time)
  | acceptEvent (generation : ℤ) (observedAtUtc : Option Time)
  | markReconciled (generation : ℤ)
  deriving DecidableEq, Repr

structure Observed where
  supervisor : PrivateConnectionSupervisor := {}
  reconciledSinceBegin : Bool := false
  deriving DecidableEq, Repr

/-- A call, and what it changes of the history. -/
def Observed.call (seen : Observed) : Operation → Observed
  | .beginConnection observedAtUtc =>
    match (beginConnection observedAtUtc).on seen.supervisor with
    | (.ok _, supervisor) => { supervisor, reconciledSinceBegin := false }
    | (.error _, supervisor) => { seen with supervisor }
  | .markAuthenticated generation observedAtUtc =>
    { seen with
      supervisor := ((markAuthenticated generation observedAtUtc).on seen.supervisor).2 }
  | .markDisconnected generation observedAtUtc reason =>
    { seen with
      supervisor := ((markDisconnected generation observedAtUtc reason).on seen.supervisor).2 }
  | .markReconnecting generation observedAtUtc =>
    { seen with
      supervisor := ((markReconnecting generation observedAtUtc).on seen.supervisor).2 }
  | .acceptEvent generation observedAtUtc =>
    { seen with supervisor := ((acceptEvent generation observedAtUtc).on seen.supervisor).2 }
  | .markReconciled generation =>
    match (markReconciled generation).on seen.supervisor with
    | (.ok _, supervisor) => { supervisor, reconciledSinceBegin := true }
    | (.error _, supervisor) => { seen with supervisor }

def run (operations : List Operation) : Observed :=
  operations.foldl Observed.call {}

@[simp] theorem run_concat (operations : List Operation) (operation : Operation) :
    run (operations ++ [operation]) = (run operations).call operation := by
  simp [run]

/-- "The private stream remains blocked for new entries until a […] snapshot […] reconciles the
current connection generation." -/
def HeldBack (seen : Observed) : Prop :=
  seen.supervisor.newEntriesBlocked = false →
    seen.supervisor.state = .authenticated ∧ seen.reconciledSinceBegin = true

/-- An authentication that the guards let through finds the request for a reconciliation in
place. -/
def RequestStands (s : PrivateConnectionSupervisor) : Operation → Prop
  | .markAuthenticated generation observedAtUtc =>
    Authenticates s generation observedAtUtc → s.reconciliationRequired = true
  | _ => True

/-- What holds of every run, the promise or no: only an authenticated connection lets entries in,
and a connection that is not authenticated yet has not been reconciled. -/
structure Fenced (seen : Observed) : Prop where
  generation_nonneg : 0 ≤ seen.supervisor.connectionGeneration
  authenticated : seen.supervisor.newEntriesBlocked = false →
    seen.supervisor.state = .authenticated
  fresh : seen.supervisor.state = .connected → seen.reconciledSinceBegin = false

theorem fenced_initial : Fenced (run []) :=
  ⟨le_refl _, fun h => absurd h (by decide), fun h => absurd h (by decide)⟩

theorem Fenced.call {seen : Observed} (h : Fenced seen) (operation : Operation) :
    Fenced (seen.call operation) := by
  cases operation with
  | beginConnection observedAtUtc =>
    rcases beginConnection_cases seen.supervisor observedAtUtc with
      ⟨failure, he⟩ | ⟨generation, time, he⟩
    · simpa [Observed.call, he] using h
    · have hg := h.generation_nonneg
      constructor <;> simp [Observed.call, he]
      omega
  | markAuthenticated generation observedAtUtc =>
    by_cases hp : Authenticates seen.supervisor generation observedAtUtc
    · obtain ⟨event, time, he⟩ := markAuthenticated_on h.generation_nonneg hp
      constructor <;> simp [Observed.call, he]
      exact h.generation_nonneg
    · obtain ⟨failure, he⟩ := markAuthenticated_rejected hp
      simpa [Observed.call, he] using h
  | markDisconnected generation observedAtUtc reason =>
    rcases markDisconnected_cases seen.supervisor generation observedAtUtc reason with
      ⟨failure, he⟩ | ⟨time, he⟩
    · simpa [Observed.call, he] using h
    · constructor <;> simp [Observed.call, he]
      exact h.generation_nonneg
  | markReconnecting generation observedAtUtc =>
    rcases markReconnecting_cases seen.supervisor generation observedAtUtc with
      ⟨failure, he⟩ | ⟨time, he⟩
    · simpa [Observed.call, he] using h
    · constructor <;> simp [Observed.call, he]
      exact h.generation_nonneg
  | acceptEvent generation observedAtUtc =>
    obtain ⟨activity, he⟩ := acceptEvent_cases seen.supervisor generation observedAtUtc
    constructor <;> simp only [Observed.call, he]
    · exact h.generation_nonneg
    · exact h.authenticated
    · exact h.fresh
  | markReconciled generation =>
    rcases markReconciled_cases seen.supervisor generation with ⟨failure, he⟩ | ⟨ha, he⟩
    · simpa [Observed.call, he] using h
    · constructor <;> simp [Observed.call, he, ha]
      exact h.generation_nonneg

theorem fenced_run (operations : List Operation) : Fenced (run operations) := by
  induction operations using List.reverseRecOn with
  | nil => exact fenced_initial
  | append_singleton operations operation ih =>
    rw [run_concat]
    exact ih.call operation

/-- **One call.** Where the promise holds, it still does after a call, unless the call is an
authentication of a generation that nobody asked to reconcile. -/
theorem heldBack_call_iff {seen : Observed} (hf : Fenced seen) (h : HeldBack seen)
    (operation : Operation) :
    HeldBack (seen.call operation) ↔ RequestStands seen.supervisor operation := by
  cases operation with
  | beginConnection observedAtUtc =>
    rcases beginConnection_cases seen.supervisor observedAtUtc with
      ⟨failure, he⟩ | ⟨generation, time, he⟩
    · simpa [Observed.call, he, RequestStands] using h
    · simp [Observed.call, he, RequestStands, HeldBack]
  | markAuthenticated generation observedAtUtc =>
    by_cases hp : Authenticates seen.supervisor generation observedAtUtc
    · -- The generation is connected, so nothing has reconciled it: it must stay blocked.
      obtain ⟨event, time, he⟩ := markAuthenticated_on hf.generation_nonneg hp
      simp [Observed.call, he, RequestStands, HeldBack, hp, hf.fresh hp.2.1]
    · obtain ⟨failure, he⟩ := markAuthenticated_rejected hp
      simpa [Observed.call, he, RequestStands, hp] using h
  | markDisconnected generation observedAtUtc reason =>
    rcases markDisconnected_cases seen.supervisor generation observedAtUtc reason with
      ⟨failure, he⟩ | ⟨time, he⟩
    · simpa [Observed.call, he, RequestStands] using h
    · simp [Observed.call, he, RequestStands, HeldBack]
  | markReconnecting generation observedAtUtc =>
    rcases markReconnecting_cases seen.supervisor generation observedAtUtc with
      ⟨failure, he⟩ | ⟨time, he⟩
    · simpa [Observed.call, he, RequestStands] using h
    · simp [Observed.call, he, RequestStands, HeldBack]
  | acceptEvent generation observedAtUtc =>
    obtain ⟨activity, he⟩ := acceptEvent_cases seen.supervisor generation observedAtUtc
    simpa [Observed.call, he, RequestStands, HeldBack] using h
  | markReconciled generation =>
    rcases markReconciled_cases seen.supervisor generation with ⟨failure, he⟩ | ⟨ha, he⟩
    · simpa [Observed.call, he, RequestStands] using h
    · simp [Observed.call, he, ha, RequestStands, HeldBack]

/-- **Entries stay blocked until the current generation is reconciled** at every point of a run,
exactly if every authentication of the run that gets through finds the request for a
reconciliation in place. -/
theorem blocked_until_reconciled_iff (operations : List Operation) :
    (∀ earlier, earlier <+: operations → HeldBack (run earlier)) ↔
      ∀ earlier operation, earlier ++ [operation] <+: operations →
        RequestStands (run earlier).supervisor operation := by
  constructor
  · intro h earlier operation hp
    have hbefore := h earlier ((List.prefix_append _ _).trans hp)
    have hafter := h _ hp
    rw [run_concat] at hafter
    exact (heldBack_call_iff (fenced_run earlier) hbefore operation).mp hafter
  · intro h earlier
    -- The calls are added one by one, so that each is judged by the state before it.
    induction earlier using List.reverseRecOn with
    | nil => intro _ hb; exact absurd hb (by decide)
    | append_singleton earlier operation ih =>
      intro hp
      rw [run_concat]
      exact (heldBack_call_iff (fenced_run earlier)
        (ih ((List.prefix_append _ _).trans hp)) operation).mpr (h earlier operation hp)

/-- A generation that begins while the last one is still up is let in as the last one was. -/
theorem reconnect_unblocked_unreconciled :
    ¬ ∀ operations : List Operation, HeldBack (run operations) := by
  intro h
  exact absurd
    (h [.beginConnection (some 0), .markAuthenticated 1 (some 1), .markReconciled 1,
      .beginConnection (some 2), .markAuthenticated 2 (some 3)] (by decide))
    (by decide)

end PrivateConnectionSupervisor

end CreditHedge
