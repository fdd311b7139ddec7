import CreditHedge.Infrastructure.PrivateConnection
import CreditHedge.Infrastructure.PrivateEvents

/-!
# The private stream

`BybitPrivateWebSocketClient` of `infrastructure/bybit/private_ws.py`. Its `stream_events` is a
generator, written down as a machine over the points where it is suspended, as the public stream
is; but its supervisor and its parser are the client's, and outlive it. Between two suspensions the
consumer may call `mark_reconciled`, at any time and with any generation, and after a stream has
ended it may start another one. That it has one stream at a time is what the model takes for
granted, and that the clock's times carry a zone, as those of the default clock do.

The supervisor's promise, that entries stay blocked until the current connection is reconciled, is
broken by a connection that begins while the last one is still up. `stream_events` never does this:
each way out of its `try` block goes through `finally`.
-/

set_option autoImplicit false

namespace CreditHedge

/-! ## The policy -/

structure PrivateReconnectPolicyFields extends ReconnectPolicyFields where
  maximumAttempts : ℤ := 5
  deriving DecidableEq, Repr

/-- `PrivateReconnectPolicy.__post_init__`: what `ReconnectPolicy` checks, and one thing more. -/
def PrivateReconnectPolicyFields.check (f : PrivateReconnectPolicyFields) :
    Except Failure Unit := do
  f.toReconnectPolicyFields.check
  refuseIf (f.maximumAttempts < 0) "maximum reconnect attempts cannot be negative"

structure PrivateReconnectPolicy extends PrivateReconnectPolicyFields where
  checked : toPrivateReconnectPolicyFields.check = .ok ()

namespace PrivateReconnectPolicy

variable (policy : PrivateReconnectPolicy)

/-- `delay`, of an attempt that is not negative. -/
def delay (attempt : ℕ) : ℚ :=
  min (policy.initialDelaySeconds * policy.multiplier ^ attempt) policy.maximumDelaySeconds

def canRetry (completedAttempts : ℕ) : Bool := completedAttempts < policy.maximumAttempts

/-- The policy, as far as it is one of the public stream's. -/
def reconnect : ReconnectPolicy where
  toReconnectPolicyFields := policy.toReconnectPolicyFields
  checked := (bind_unit_eq_ok.mp policy.checked).1

theorem maximumAttempts_nonneg : 0 ≤ policy.maximumAttempts := by
  have hchecked := (bind_unit_eq_ok.mp policy.checked).2
  rw [refuseIf_eq_ok] at hchecked
  exact not_lt.mp hchecked

end PrivateReconnectPolicy

/-! ## Messages -/

/-- `value is True`. -/
def Payload.isTrue : Payload → Bool
  | .boolean value => value
  | _ => false

/-- `PrivateStreamEvent`. -/
inductive PrivateStreamEvent where
  | parsed (event : PrivateParsedEvent)
  | connection (event : PrivateConnectionEvent)

namespace PrivateStream

/-- `_is_command_response`. -/
def isCommandResponse (message : JsonObject) : Bool :=
  (message.get "op").isText "auth" || (message.get "op").isText "subscribe" ||
    (message.get "type").isText "COMMAND_RESP"

/-- `PRIVATE_TOPICS`. -/
def privateTopics : List String := ["order", "execution", "position"]

/-! ## The generator -/

/-- How the block that holds the connection is left. -/
inductive Leaving where
  /-- With an `OSError`, a `TimeoutError` or a `ConnectionClosed`, and its text. -/
  | lost (reason : String)
  /-- With another exception. -/
  | raised (failure : Failure)
  /-- As the task is cancelled, or the consumer closes the generator. -/
  | stopped

/-- Where the generator is suspended. -/
inductive Point where
  | connecting
  | sendingAuth
  | awaitingAuth
  | sendingSubscription (authenticated : PrivateConnectionEvent)
  | awaitingSubscription (authenticated : PrivateConnectionEvent)
  | yielding
  | receiving
  | pinging
  | awaitingPong
  /-- The connection is being closed. -/
  | closing (leaving : Leaving)
  | yieldingDisconnected
  | sleeping
  /-- There is no generator, or it has ended. -/
  | ended

/-- How what the generator is suspended at ends. -/
inductive Answer where
  /-- The call returns; the consumer asks for the next event. -/
  | returned
  /-- `recv` gives a text, and this is what `_load_message` makes of it. -/
  | message (loaded : Except Failure JsonObject)
  /-- `wait_for` raises, as nothing has come. -/
  | silent
  /-- An exception is raised, or the generator is told to stop. -/
  | left (leaving : Leaving)

/-- What happens to a client. -/
inductive Input where
  /-- A new stream is asked for its first event. -/
  | start (now : Time)
  | resume (now : Time) (answer : Answer)
  | reconcile (generation : ℤ)

inductive Output where
  | started
  | called (operation : PrivateConnectionSupervisor.Operation)
  | sent (reqId op : String) (args : List String)
  | received (message : JsonObject)
  | yielded (event : PrivateStreamEvent)
  | slept (delay : ℚ)
  | raised (failure : Failure)
  /-- `PrivateReconnectExhausted`. -/
  | exhausted

end PrivateStream

open PrivateStream
open PrivateConnectionSupervisor (beginConnection markAuthenticated markDisconnected
  markReconnecting acceptEvent markReconciled)

/-- The client, and the locals of its stream. -/
structure BybitPrivateWebSocketClient where
  reconnectPolicy : PrivateReconnectPolicy
  supervisor : PrivateConnectionSupervisor := {}
  parser : BybitPrivateEventParser := {}
  generation : ℤ := 0
  reconnectAttempt : ℕ := 0
  point : Point := .ended

/-- What the client depends on: Python, and the arguments its signer makes of the time. -/
structure PrivateClientPorts where
  readings : PrivateReadings
  authArgs : Time → Except Failure (List String)

namespace BybitPrivateWebSocketClient

variable (ports : PrivateClientPorts) (c : BybitPrivateWebSocketClient) (now : Time)

/-- The top of the outer loop. -/
def connect : BybitPrivateWebSocketClient × List Output :=
  match (beginConnection (some now)).on c.supervisor with
  | (.ok generation, supervisor) =>
    ({ c with supervisor, generation, point := .connecting },
      [.called (.beginConnection (some now))])
  | (.error failure, supervisor) =>
    ({ c with supervisor, point := .ended },
      [.called (.beginConnection (some now)), .raised failure])

/-- `finally`, and how the generator ends, unless it goes on. -/
def leave (ending : List Output) : BybitPrivateWebSocketClient × List Output :=
  if c.supervisor.state = .connected ∨ c.supervisor.state = .authenticated then
    match (markDisconnected c.generation (some now) "private stream closed").on c.supervisor with
    | (.ok _, supervisor) =>
      ({ c with supervisor, point := .ended },
        .called (.markDisconnected c.generation (some now) "private stream closed") :: ending)
    | (.error failure, supervisor) =>
      ({ c with supervisor, point := .ended },
        [.called (.markDisconnected c.generation (some now) "private stream closed"),
          .raised failure])
  else ({ c with point := .ended }, ending)

/-- The clauses of the `try`, once the connection is closed. -/
def unwind : Leaving → BybitPrivateWebSocketClient × List Output
  | .stopped => c.leave now []
  | .raised failure => c.leave now [.raised failure]
  | .lost reason =>
    match (markDisconnected c.generation (some now) reason).on c.supervisor with
    | (.ok event, supervisor) =>
      ({ c with supervisor, point := .yieldingDisconnected },
        [.called (.markDisconnected c.generation (some now) reason),
          .yielded (.connection event)])
    | (.error failure, supervisor) =>
      let (next, outputs) := { c with supervisor }.leave now [.raised failure]
      (next, .called (.markDisconnected c.generation (some now) reason) :: outputs)

/-- The rest of the `except` clause, once the consumer has taken the event. -/
def retry : BybitPrivateWebSocketClient × List Output :=
  if !c.reconnectPolicy.canRetry c.reconnectAttempt then c.leave now [.exhausted]
  else
    match (markReconnecting c.generation (some now)).on c.supervisor with
    | (.ok _, supervisor) =>
      ({ c with supervisor, reconnectAttempt := c.reconnectAttempt + 1, point := .sleeping },
        [.called (.markReconnecting c.generation (some now)),
          .slept (c.reconnectPolicy.delay c.reconnectAttempt)])
    | (.error failure, supervisor) =>
      let (next, outputs) := { c with supervisor }.leave now [.raised failure]
      (next, .called (.markReconnecting c.generation (some now)) :: outputs)

/-- An exception inside the block that holds the connection. -/
def close (leaving : Leaving) : BybitPrivateWebSocketClient × List Output :=
  ({ c with point := .closing leaving }, [])

/-- `_authenticate`, up to its first suspension. -/
def authenticate : BybitPrivateWebSocketClient × List Output :=
  match ports.authArgs now with
  | .error failure => c.close (.raised failure)
  | .ok args =>
    ({ c with point := .sendingAuth }, [.sent s!"auth-generation-{c.generation}" "auth" args])

/-- The rest of `_authenticate`, and `_subscribe` up to its first suspension. -/
def authenticated (loaded : Except Failure JsonObject) :
    BybitPrivateWebSocketClient × List Output :=
  match loaded with
  | .error failure => c.close (.raised failure)
  | .ok message =>
    if !(message.get "op").isText "auth" || !(message.get "success").isTrue then
      let reason :=
        if (message.get "ret_msg").truthy then ports.readings.values.str (message.get "ret_msg")
        else "unknown error"
      c.close (.raised (.runtimeError s!"Bybit private authentication failed: {reason}"))
    else
      match (markAuthenticated c.generation (some now)).on c.supervisor with
      | (.ok event, supervisor) =>
        ({ c with supervisor, point := .sendingSubscription event },
          [.called (.markAuthenticated c.generation (some now)),
            .sent s!"subscribe-generation-{c.generation}" "subscribe" privateTopics])
      | (.error failure, supervisor) =>
        ({ c with supervisor, point := .closing (.raised failure) },
          [.called (.markAuthenticated c.generation (some now))])

/-- The rest of `_subscribe`. -/
def subscribed (event : PrivateConnectionEvent) (loaded : Except Failure JsonObject) :
    BybitPrivateWebSocketClient × List Output :=
  match loaded with
  | .error failure => c.close (.raised failure)
  | .ok message =>
    let failedTopics := PublicStream.failedSubscriptionTopics ports.readings.values message
    if !PublicStream.isSubscriptionResponse message || (message.get "success").isFalse ||
        !failedTopics.isEmpty then
      let reason :=
        if (message.get "ret_msg").truthy then ports.readings.values.str (message.get "ret_msg")
        else if !failedTopics.isEmpty then ports.readings.values.strOfTopics failedTopics
        else "unknown error"
      c.close (.raised (.runtimeError s!"Bybit private subscription failed: {reason}"))
    else ({ c with point := .yielding }, [.yielded (.connection event)])

/-- `isinstance(event, OrderUpdateBatch) and not event.updates`. -/
def hasNoNews : PrivateParsedEvent → Bool
  | .orders batch => batch.updates.isEmpty
  | _ => false

/-- An event that the supervisor has accepted. -/
def parse (message : JsonObject) : BybitPrivateWebSocketClient × List Output :=
  match c.parser.parseMessage ports.readings message with
  | (.error failure, parser) =>
    ({ c with parser, reconnectAttempt := 0, point := .closing (.raised failure) }, [])
  | (.ok event, parser) =>
    if hasNoNews event then
      ({ c with parser, reconnectAttempt := 0, point := .receiving }, [])
    else
      ({ c with parser, reconnectAttempt := 0, point := .yielding },
        [.yielded (.parsed event)])

/-- The body of the inner loop, once a text has come. -/
def receive (loaded : Except Failure JsonObject) : BybitPrivateWebSocketClient × List Output :=
  match loaded with
  | .error failure => c.close (.raised failure)
  | .ok message =>
    if PublicStream.isPong message || isCommandResponse message then
      ({ c with point := .receiving }, [.received message])
    else
      let called := Output.called (.acceptEvent c.generation (some now))
      match (acceptEvent c.generation (some now)).on c.supervisor with
      | (.error failure, supervisor) =>
        ({ c with supervisor, point := .closing (.raised failure) }, [.received message, called])
      | (.ok false, supervisor) =>
        ({ c with supervisor, point := .receiving }, [.received message, called])
      | (.ok true, supervisor) =>
        let (next, outputs) := { c with supervisor }.parse ports message
        (next, .received message :: called :: outputs)

/-- From one suspension to the next. -/
def resume (answer : Answer) : BybitPrivateWebSocketClient × List Output :=
  match c.point, answer with
  | .connecting, .returned => c.authenticate ports now
  | .connecting, .left leaving => c.unwind now leaving
  | .sendingAuth, .returned => ({ c with point := .awaitingAuth }, [])
  | .awaitingAuth, .message loaded => c.authenticated ports now loaded
  | .sendingSubscription event, .returned => ({ c with point := .awaitingSubscription event }, [])
  | .awaitingSubscription event, .message loaded => c.subscribed ports event loaded
  | .yielding, .returned => ({ c with point := .receiving }, [])
  | .receiving, .message loaded => c.receive ports now loaded
  | .receiving, .silent =>
    ({ c with point := .pinging }, [.sent s!"ping-generation-{c.generation}" "ping" []])
  | .pinging, .returned => ({ c with point := .awaitingPong }, [])
  | .awaitingPong, .message loaded => c.receive ports now loaded
  | .awaitingPong, .silent => c.close (.lost "")
  | .closing leaving, .returned => c.unwind now leaving
  | .closing _, .left leaving => c.unwind now leaving
  | .yieldingDisconnected, .returned => c.retry now
  | .yieldingDisconnected, .left .stopped => c.leave now []
  | .sleeping, .returned =>
    let (left, outputs) := c.leave now []
    let (next, outputs') := left.connect now
    (next, outputs ++ outputs')
  | .sleeping, .left .stopped => c.leave now []
  | .sendingAuth, .left leaving => c.close leaving
  | .awaitingAuth, .left leaving => c.close leaving
  | .sendingSubscription _, .left leaving => c.close leaving
  | .awaitingSubscription _, .left leaving => c.close leaving
  | .yielding, .left .stopped => c.close .stopped
  | .receiving, .left leaving => c.close leaving
  | .pinging, .left leaving => c.close leaving
  | .awaitingPong, .left leaving => c.close leaving
  | _, _ => (c, [])

/-- What happens to a client, and what it does. -/
def step : Input → BybitPrivateWebSocketClient × List Output
  | .start now =>
    match c.point with
    | .ended =>
      let (next, outputs) := { c with reconnectAttempt := 0 }.connect now
      (next, .started :: outputs)
    | _ => (c, [])
  | .resume now answer => c.resume ports now answer
  | .reconcile generation =>
    ({ c with supervisor := ((markReconciled generation).on c.supervisor).2 },
      [.called (.markReconciled generation)])

end BybitPrivateWebSocketClient

/-- A run of a client, from a new one. -/
def BybitPrivateWebSocketClient.run (ports : PrivateClientPorts)
    (reconnectPolicy : PrivateReconnectPolicy) (inputs : List Input) :
    Transcript BybitPrivateWebSocketClient Output :=
  Transcript.run (step ports) { state := { reconnectPolicy }, outputs := [] } inputs

/-! ## What a run has done -/

namespace PrivateStream

/-- What a run of a client puts out. -/
abbrev outputsOf (ports : PrivateClientPorts) (reconnectPolicy : PrivateReconnectPolicy)
    (inputs : List Input) : List Output :=
  (BybitPrivateWebSocketClient.run ports reconnectPolicy inputs).outputs

open PrivateConnectionSupervisor (Operation Observed HeldBack RequestStands)

/-- The calls of the supervisor. -/
def operations (outputs : List Output) : List Operation :=
  outputs.filterMap fun
    | .called operation => some operation
    | _ => none

/-- The message is none of the connection's own. -/
def isEvent (message : JsonObject) : Bool :=
  !(PublicStream.isPong message || isCommandResponse message)

/-- The events that have come, over all connections. -/
def events (outputs : List Output) : List JsonObject :=
  outputs.filterMap fun
    | .received message => if isEvent message then some message else none
    | _ => none

/-- What the consumer has been given. -/
def yields (outputs : List Output) : List PrivateStreamEvent :=
  outputs.filterMap fun
    | .yielded event => some event
    | _ => none

/-- What of it has been parsed from messages. -/
def parsedEvents (yields : List PrivateStreamEvent) : List PrivateParsedEvent :=
  yields.filterMap fun
    | .parsed event => some event
    | .connection _ => none

/-- The state of the connection, as the consumer has last been told. -/
def toldState (yields : List PrivateStreamEvent) : Option PrivateConnectionState :=
  (yields.filterMap fun
    | .parsed _ => none
    | .connection event => some event.state).getLast?

/-- What there is to give of what has been read. -/
def news (read : List (Except Failure PrivateParsedEvent)) : List PrivateParsedEvent :=
  read.filterMap fun
    | .ok event => if BybitPrivateWebSocketClient.hasNoNews event then none else some event
    | .error _ => none

/-- The run as a history of a caller that waits after it has failed: an event is a success, and a
    new stream begins anew. -/
def beats (outputs : List Output) : List (Beat ℚ) :=
  outputs.filterMap fun
    | .started => some .success
    | .received message => if isEvent message then some .success else none
    | .slept delay => some (.wait delay)
    | _ => none

/-- Nothing the history of a run is about. -/
def Output.Silent : Output → Prop
  | .sent _ _ _ => True
  | .raised _ => True
  | _ => False

section Appending

variable (outputs outputs' : List Output)

@[simp] theorem operations_append :
    operations (outputs ++ outputs') = operations outputs ++ operations outputs' :=
  List.filterMap_append

@[simp] theorem events_append : events (outputs ++ outputs') = events outputs ++ events outputs' :=
  List.filterMap_append

@[simp] theorem yields_append : yields (outputs ++ outputs') = yields outputs ++ yields outputs' :=
  List.filterMap_append

@[simp] theorem beats_append : beats (outputs ++ outputs') = beats outputs ++ beats outputs' :=
  List.filterMap_append

theorem parsedEvents_append (yields yields' : List PrivateStreamEvent) :
    parsedEvents (yields ++ yields') = parsedEvents yields ++ parsedEvents yields' :=
  List.filterMap_append

theorem news_append (read read' : List (Except Failure PrivateParsedEvent)) :
    news (read ++ read') = news read ++ news read' := List.filterMap_append

theorem parsedEvents_parsed (given : List PrivateParsedEvent) :
    parsedEvents (given.map .parsed) = given := by
  rw [parsedEvents, List.filterMap_map]
  exact List.filterMap_some

end Appending

/-! ## The promise of the supervisor -/

section Promise

variable {s : PrivateConnectionSupervisor}

/-- What an operation makes of a supervisor. -/
def applied (s : PrivateConnectionSupervisor) (operation : Operation) :
    PrivateConnectionSupervisor :=
  (Observed.call { supervisor := s } operation).supervisor

/-- As long as no connection is authenticated, a reconciliation is asked for. -/
def Requested (s : PrivateConnectionSupervisor) : Prop :=
  s.state ≠ .authenticated → s.reconciliationRequired = true

/-- An authenticated connection is not left for another one without a disconnect. -/
def Orderly (s : PrivateConnectionSupervisor) : Operation → Prop
  | .beginConnection _ => s.state ≠ .authenticated
  | .markReconnecting _ _ => s.state ≠ .authenticated
  | _ => True

theorem supervisor_call (seen : Observed) (operation : Operation) :
    (seen.call operation).supervisor = applied seen.supervisor operation := by
  unfold applied
  cases operation with
  | beginConnection observedAtUtc => cases observedAtUtc <;> rfl
  | markReconciled generation =>
    simp only [Observed.call]
    split <;> rfl
  | _ => rfl

theorem Requested.applied (h : Requested s) (hs : 0 ≤ s.connectionGeneration)
    {operation : Operation} (horderly : Orderly s operation) : Requested (applied s operation) := by
  unfold PrivateStream.applied
  cases operation with
  | beginConnection observedAtUtc =>
    rcases PrivateConnectionSupervisor.beginConnection_cases s observedAtUtc with
      ⟨failure, he⟩ | ⟨generation, time, he⟩
    · simpa [Observed.call, he] using h
    · simpa [Observed.call, he, Requested] using h horderly
  | markAuthenticated generation observedAtUtc =>
    by_cases hp : PrivateConnectionSupervisor.Authenticates s generation observedAtUtc
    · obtain ⟨event, time, he⟩ := PrivateConnectionSupervisor.markAuthenticated_on hs hp
      simp [Observed.call, he, Requested]
    · obtain ⟨failure, he⟩ := PrivateConnectionSupervisor.markAuthenticated_rejected hp
      simpa [Observed.call, he] using h
  | markDisconnected generation observedAtUtc reason =>
    rcases PrivateConnectionSupervisor.markDisconnected_cases s generation observedAtUtc reason with
      ⟨failure, he⟩ | ⟨time, he⟩
    · simpa [Observed.call, he] using h
    · simp [Observed.call, he, Requested]
  | markReconnecting generation observedAtUtc =>
    rcases PrivateConnectionSupervisor.markReconnecting_cases s generation observedAtUtc with
      ⟨failure, he⟩ | ⟨time, he⟩
    · simpa [Observed.call, he] using h
    · simpa [Observed.call, he, Requested] using h horderly
  | acceptEvent generation observedAtUtc =>
    obtain ⟨activity, he⟩ := PrivateConnectionSupervisor.acceptEvent_cases s generation observedAtUtc
    simpa [Observed.call, he, Requested] using h
  | markReconciled generation =>
    rcases PrivateConnectionSupervisor.markReconciled_cases s generation with
      ⟨failure, he⟩ | ⟨ha, he⟩
    · simpa [Observed.call, he] using h
    · simp [Observed.call, he, Requested, ha]

/-- What is authenticated has been asked to be reconciled. -/
theorem Requested.stands (h : Requested s) (operation : Operation) : RequestStands s operation := by
  cases operation with
  | markAuthenticated generation observedAtUtc =>
    intro hp
    exact h (by simp [hp.2.1])
  | _ => trivial

end Promise

/-! ## What the client has told, and what it knows

Three books are kept of a run: of the supervisor's calls, of what has come and what has been given,
and of the waits. -/

/-- The supervisor is what its calls have made of it, and has kept its promise throughout. -/
structure Kept (supervisor : PrivateConnectionSupervisor) (operations : List Operation) :
    Prop where
  supervisor_eq : supervisor = (PrivateConnectionSupervisor.run operations).supervisor
  requested : Requested supervisor
  held : ∀ earlier, earlier <+: operations → HeldBack (PrivateConnectionSupervisor.run earlier)

/-- The parser has read what has come, and the consumer has been given what there was to give,
    while it took the connection for authenticated. -/
structure Given (readings : PrivateReadings) (parser : BybitPrivateEventParser)
    (events : List JsonObject) (yields : List PrivateStreamEvent) : Prop where
  parser_eq : parser = (BybitPrivateEventParser.parseAll readings {} events).2
  given_eq : parsedEvents yields = news (BybitPrivateEventParser.parseAll readings {} events).1
  authenticated : ∀ earlier event later, yields = earlier ++ .parsed event :: later →
    toldState earlier = some .authenticated

/-- The waits are the policy's, there are never more in a row than it allows, and the client only
    gives up when there have been as many. -/
structure Patient (policy : PrivateReconnectPolicy) (attempt : ℕ) (outputs : List Output) :
    Prop where
  paced : policy.reconnect.backoff.Paced (beats outputs)
  attempt_eq : Beat.failures (beats outputs) = attempt
  within : ∀ earlier, earlier <+: beats outputs →
    (Beat.failures earlier : ℤ) ≤ policy.maximumAttempts
  spent : ∀ earlier later, outputs = earlier ++ .exhausted :: later →
    policy.maximumAttempts ≤ (Beat.failures (beats earlier) : ℤ)

section Books

variable {ports : PrivateClientPorts} {policy : PrivateReconnectPolicy}
  {supervisor : PrivateConnectionSupervisor} {parser : BybitPrivateEventParser} {attempt : ℕ}
  {outputs : List Output}

theorem Kept.call {operations : List Operation} (h : Kept supervisor operations)
    (operation : Operation) (horderly : Orderly supervisor operation) :
    Kept (applied supervisor operation) (operations ++ [operation]) := by
  have hfenced := PrivateConnectionSupervisor.fenced_run operations
  constructor
  · rw [PrivateConnectionSupervisor.run_concat, supervisor_call, ← h.supervisor_eq]
  · refine h.requested.applied ?_ horderly
    rw [h.supervisor_eq]
    exact hfenced.generation_nonneg
  · intro earlier hp
    rcases List.prefix_concat_iff.mp hp with rfl | hp
    · rw [PrivateConnectionSupervisor.run_concat]
      refine (PrivateConnectionSupervisor.heldBack_call_iff hfenced
        (h.held _ List.prefix_rfl) operation).mpr ?_
      rw [← h.supervisor_eq]
      exact h.requested.stands operation
    · exact h.held earlier hp

/-- The last element of a list, and the elements before it. -/
theorem concat_split {α : Type} {xs earlier later : List α} {x y : α}
    (h : xs ++ [x] = earlier ++ y :: later) :
    (earlier = xs ∧ y = x) ∨ ∃ middle, xs = earlier ++ y :: middle := by
  rcases List.eq_nil_or_concat later with rfl | ⟨middle, last, rfl⟩
  · obtain ⟨rfl, hsame⟩ := List.append_inj' h rfl
    exact .inl ⟨rfl, (List.singleton_inj.mp hsame).symm⟩
  · refine .inr ⟨middle, ?_⟩
    have hsplit : xs ++ [x] = (earlier ++ y :: middle) ++ [last] := by
      rw [h]
      simp
    exact (List.append_inj' hsplit rfl).1

theorem Given.announce {events : List JsonObject} {yields : List PrivateStreamEvent}
    (h : Given ports.readings parser events yields) (event : PrivateConnectionEvent) :
    Given ports.readings parser events (yields ++ [.connection event]) where
  parser_eq := h.parser_eq
  given_eq := by
    rw [parsedEvents_append]
    exact (List.append_nil (parsedEvents yields)).trans h.given_eq
  authenticated := fun earlier event later hsplit => by
    rcases concat_split hsplit with ⟨-, hsame⟩ | ⟨middle, hbefore⟩
    · exact absurd hsame (by simp)
    · exact h.authenticated earlier event middle hbefore

/-- A message is read, and what there is to give of it is given. -/
theorem Given.read {events : List JsonObject} {yields : List PrivateStreamEvent}
    (h : Given ports.readings parser events yields)
    (hstate : toldState yields = some .authenticated) (message : JsonObject) :
    Given ports.readings (parser.parseMessage ports.readings message).2 (events ++ [message])
      (yields ++ (news [(parser.parseMessage ports.readings message).1]).map .parsed) := by
  constructor
  · rw [BybitPrivateEventParser.parseAll_concat, ← h.parser_eq]
  · rw [BybitPrivateEventParser.parseAll_concat, ← h.parser_eq, news_append, parsedEvents_append,
      parsedEvents_parsed, h.given_eq]
  · intro earlier event later hsplit
    cases hnews : news [(parser.parseMessage ports.readings message).1] with
    | nil =>
      rw [hnews, List.map_nil, List.append_nil] at hsplit
      exact h.authenticated earlier event later hsplit
    | cons given rest =>
      have hrest : rest = [] := by
        have hlength : (news [(parser.parseMessage ports.readings message).1]).length ≤ 1 :=
          List.length_filterMap_le _ _
        rw [hnews] at hlength
        simpa using hlength
      rw [hnews, hrest, List.map_singleton] at hsplit
      rcases concat_split hsplit with ⟨rfl, -⟩ | ⟨middle, hbefore⟩
      · exact hstate
      · exact h.authenticated earlier event middle hbefore

theorem Patient.note (h : Patient policy attempt outputs) {output : Output}
    (hbeats : beats [output] = [])
    (hspent : output = .exhausted → policy.maximumAttempts ≤ (attempt : ℤ)) :
    Patient policy attempt (outputs ++ [output]) := by
  have hsame : beats (outputs ++ [output]) = beats outputs := by
    rw [beats_append, hbeats, List.append_nil]
  refine ⟨hsame ▸ h.paced, hsame ▸ h.attempt_eq, hsame ▸ h.within, fun earlier later hsplit => ?_⟩
  rcases concat_split hsplit with ⟨rfl, houtput⟩ | ⟨middle, hbefore⟩
  · rw [h.attempt_eq]
    exact hspent houtput.symm
  · exact h.spent earlier middle hbefore

theorem Patient.notes (h : Patient policy attempt outputs) {ending : List Output}
    (hbeats : ∀ output ∈ ending, beats [output] = []) (hspent : .exhausted ∉ ending) :
    Patient policy attempt (outputs ++ ending) := by
  induction ending generalizing outputs with
  | nil =>
    rw [List.append_nil]
    exact h
  | cons output ending ih =>
    obtain ⟨hfirst, hrest⟩ := List.forall_mem_cons.mp hbeats
    rw [List.append_cons]
    refine ih (h.note hfirst ?_) hrest fun hmem => hspent (List.mem_cons_of_mem _ hmem)
    rintro rfl
    exact absurd List.mem_cons_self hspent

theorem Patient.success (h : Patient policy attempt outputs) (output : Output)
    (hbeats : beats [output] = [.success]) : Patient policy 0 (outputs ++ [output]) := by
  have hmore : beats (outputs ++ [output]) = beats outputs ++ [.success] := by
    rw [beats_append, hbeats]
  constructor
  · rw [hmore]
    exact h.paced.success
  · rw [hmore, Beat.failures_success]
  · intro earlier hp
    rw [hmore] at hp
    rcases List.prefix_concat_iff.mp hp with rfl | hp
    · rw [Beat.failures_success]
      exact policy.maximumAttempts_nonneg
    · exact h.within earlier hp
  · intro earlier later hsplit
    rcases concat_split hsplit with ⟨-, rfl⟩ | ⟨middle, hbefore⟩
    · exact absurd hbeats (by simp [beats])
    · exact h.spent earlier middle hbefore

theorem Patient.wait (h : Patient policy attempt outputs) (hretry : policy.canRetry attempt = true) :
    Patient policy (attempt + 1) (outputs ++ [.slept (policy.delay attempt)]) := by
  have hmore : beats (outputs ++ [.slept (policy.delay attempt)]) =
      beats outputs ++ [.wait (policy.reconnect.backoff.delay (Beat.failures (beats outputs)))] := by
    rw [h.attempt_eq]
    exact beats_append _ _
  constructor
  · rw [hmore]
    exact h.paced.wait
  · rw [hmore, Beat.failures_wait, h.attempt_eq]
  · intro earlier hp
    rw [hmore] at hp
    rcases List.prefix_concat_iff.mp hp with rfl | hp
    · rw [Beat.failures_wait, h.attempt_eq]
      have hlt : (attempt : ℤ) < policy.maximumAttempts := by
        simpa [PrivateReconnectPolicy.canRetry] using hretry
      push_cast
      omega
    · exact h.within earlier hp
  · intro earlier later hsplit
    rcases concat_split hsplit with ⟨-, hsame⟩ | ⟨middle, hbefore⟩
    · exact absurd hsame (by simp)
    · exact h.spent earlier middle hbefore

end Books

/-- The point goes with the state of the connection. -/
def Point.Fits : Point → PrivateConnectionState → Prop
  | .connecting, state => state = .connected
  | .sendingAuth, state => state = .connected
  | .awaitingAuth, state => state = .connected
  | .sendingSubscription event, state => state = .authenticated ∧ event.state = .authenticated
  | .awaitingSubscription event, state => state = .authenticated ∧ event.state = .authenticated
  | .yielding, state => state = .authenticated
  | .receiving, state => state = .authenticated
  | .pinging, state => state = .authenticated
  | .awaitingPong, state => state = .authenticated
  | .closing _, state => state = .connected ∨ state = .authenticated
  | .yieldingDisconnected, state => state = .disconnected
  | .sleeping, state => state = .reconnecting
  | .ended, state => state = .disconnected ∨ state = .reconnecting

/-- The consumer has been told of the authentication, and of nothing later. -/
def Point.Live : Point → Prop
  | .yielding => True
  | .receiving => True
  | .pinging => True
  | .awaitingPong => True
  | _ => False

/-- The books of a run are in order, wherever the client is suspended. -/
structure Books (ports : PrivateClientPorts) (policy : PrivateReconnectPolicy)
    (c : BybitPrivateWebSocketClient) (outputs : List Output) : Prop where
  policy_eq : c.reconnectPolicy = policy
  kept : Kept c.supervisor (operations outputs)
  given : Given ports.readings c.parser (events outputs) (yields outputs)
  patient : Patient policy c.reconnectAttempt outputs
  generation_eq : c.generation = c.supervisor.connectionGeneration

structure Told (ports : PrivateClientPorts) (policy : PrivateReconnectPolicy)
    (c : BybitPrivateWebSocketClient) (outputs : List Output) : Prop
    extends Books ports policy c outputs where
  fits : c.point.Fits c.supervisor.state
  live : c.point.Live → toldState (yields outputs) = some .authenticated

/-- What a client may put out beside its books. -/
def Output.Aside (policy : PrivateReconnectPolicy) (attempt : ℕ) : Output → Prop
  | .sent _ _ _ => True
  | .raised _ => True
  | .exhausted => policy.maximumAttempts ≤ (attempt : ℤ)
  | _ => False

section Calls

variable {s : PrivateConnectionSupervisor} {generation : ℤ}

theorem disconnected_on (hs : generation = s.connectionGeneration) (now : Time) (reason : String) :
    (markDisconnected generation (some now) reason).on s =
      (PrivateConnectionEvent.create .disconnected now generation
          (if reason = "" then "private WebSocket disconnected" else reason),
        { s with
          state := .disconnected
          reconciliationRequired := true
          newEntriesBlocked := true
          lastActivityUtc := some now }) := by
  simp [markDisconnected, PrivateConnectionSupervisor.requireCurrentGeneration, hs]

theorem reconnecting_on (hs : generation = s.connectionGeneration) (now : Time) :
    (markReconnecting generation (some now)).on s =
      (PrivateConnectionEvent.create .reconnecting now generation
          "reconciliation required after disconnect",
        { s with
          state := .reconnecting
          newEntriesBlocked := true
          lastActivityUtc := some now }) := by
  simp [markReconnecting, PrivateConnectionSupervisor.requireCurrentGeneration, hs]

theorem authenticated_on (hs : generation = s.connectionGeneration) (hstate : s.state = .connected)
    (now : Time) :
    (markAuthenticated generation (some now)).on s =
      (PrivateConnectionEvent.create .authenticated now generation none,
        { s with
          state := .authenticated
          newEntriesBlocked := s.reconciliationRequired
          lastActivityUtc := some now }) := by
  simp [markAuthenticated, PrivateConnectionSupervisor.requireCurrentGeneration, hs, hstate]

theorem accepted_on (hs : generation = s.connectionGeneration) (hstate : s.state = .authenticated)
    (now : Time) :
    (acceptEvent generation (some now)).on s =
      (.ok true, { s with lastActivityUtc := some now }) := by
  simp [acceptEvent, hs, hstate]
  rfl

theorem create_state {state : PrivateConnectionState} {now : Time} {reason : Option String}
    {event : PrivateConnectionEvent}
    (h : PrivateConnectionEvent.create state now generation reason = .ok event) :
    event.state = state := by
  simp only [PrivateConnectionEvent.create, bind_unit_eq_ok] at h
  obtain rfl := Except.ok.inj h.2.2
  rfl

end Calls

section Turns

variable {ports : PrivateClientPorts} {policy : PrivateReconnectPolicy}
  {c : BybitPrivateWebSocketClient} {outputs : List Output} {now : Time}

theorem Books.turn (h : Books ports policy c outputs) (point : Point) :
    Books ports policy { c with point } outputs :=
  ⟨h.policy_eq, h.kept, h.given, h.patient, h.generation_eq⟩

theorem Books.aside (h : Books ports policy c outputs) {ending : List Output}
    (haside : ∀ output ∈ ending, output.Aside policy c.reconnectAttempt) :
    Books ports policy c (outputs ++ ending) := by
  induction ending generalizing outputs with
  | nil =>
    rw [List.append_nil]
    exact h
  | cons output ending ih =>
    obtain ⟨hfirst, hrest⟩ := List.forall_mem_cons.mp haside
    rw [List.append_cons]
    have hnone : operations [output] = [] ∧ events [output] = [] ∧ yields [output] = [] ∧
        beats [output] = [] := by
      cases output <;> first | exact ⟨rfl, rfl, rfl, rfl⟩ | exact absurd hfirst id
    refine ih ⟨h.policy_eq, ?_, ?_, h.patient.note hnone.2.2.2 ?_, h.generation_eq⟩ hrest
    · rw [operations_append, hnone.1, List.append_nil]
      exact h.kept
    · rw [events_append, yields_append, hnone.2.1, hnone.2.2.1, List.append_nil, List.append_nil]
      exact h.given
    · rintro rfl
      exact hfirst

/-- A call of the supervisor that keeps the generation. -/
theorem Books.call (h : Books ports policy c outputs)
    (operation : PrivateConnectionSupervisor.Operation) (horderly : Orderly c.supervisor operation)
    {supervisor : PrivateConnectionSupervisor}
    (hsupervisor : supervisor = applied c.supervisor operation)
    (hgeneration : supervisor.connectionGeneration = c.supervisor.connectionGeneration) :
    Books ports policy { c with supervisor } (outputs ++ [.called operation]) := by
  refine ⟨h.policy_eq, ?_, ?_, h.patient.note rfl (by simp), h.generation_eq.trans hgeneration.symm⟩
  · rw [operations_append, hsupervisor]
    exact h.kept.call operation horderly
  · rw [events_append, yields_append]
    exact (List.append_nil (events outputs)).symm ▸ (List.append_nil (yields outputs)).symm ▸ h.given

theorem Books.announce (h : Books ports policy c outputs) (event : PrivateConnectionEvent) :
    Books ports policy c (outputs ++ [.yielded (.connection event)]) := by
  refine ⟨h.policy_eq, ?_, ?_, h.patient.note rfl (by simp), h.generation_eq⟩
  · rw [operations_append]
    exact (List.append_nil (operations outputs)).symm ▸ h.kept
  · rw [events_append, yields_append]
    exact (List.append_nil (events outputs)).symm ▸ h.given.announce event

theorem Books.wait (h : Books ports policy c outputs)
    (hretry : c.reconnectPolicy.canRetry c.reconnectAttempt = true) :
    Books ports policy { c with reconnectAttempt := c.reconnectAttempt + 1 }
      (outputs ++ [.slept (c.reconnectPolicy.delay c.reconnectAttempt)]) := by
  obtain rfl := h.policy_eq
  refine ⟨rfl, ?_, ?_, h.patient.wait hretry, h.generation_eq⟩
  · rw [operations_append]
    exact (List.append_nil (operations outputs)).symm ▸ h.kept
  · rw [events_append, yields_append]
    exact (List.append_nil (events outputs)).symm ▸ (List.append_nil (yields outputs)).symm ▸ h.given

theorem toldState_announce (yields : List PrivateStreamEvent) (event : PrivateConnectionEvent) :
    toldState (yields ++ [.connection event]) = some event.state := by
  simp [toldState]

theorem toldState_parsed (yields : List PrivateStreamEvent) (given : List PrivateParsedEvent) :
    toldState (yields ++ given.map .parsed) = toldState yields := by
  simp [toldState, List.filterMap_map]

/-- **A connection begins**, as no other one is up. -/
theorem Books.connect (h : Books ports policy c outputs)
    (hstate : c.supervisor.state ≠ .authenticated) :
    Told ports policy (c.connect now).1 (outputs ++ (c.connect now).2) := by
  refine ⟨⟨h.policy_eq, ?_, ?_, h.patient.note rfl (by simp), rfl⟩, rfl, fun hlive => hlive.elim⟩
  · rw [operations_append]
    exact h.kept.call (.beginConnection (some now)) hstate
  · rw [events_append, yields_append]
    exact (List.append_nil (events outputs)).symm ▸ (List.append_nil (yields outputs)).symm ▸ h.given

/-- A disconnect is written down, whatever becomes of the event. -/
theorem Books.disconnect (h : Books ports policy c outputs) (now : Time) (reason : String) :
    Books ports policy
      { c with
        supervisor := ((markDisconnected c.generation (some now) reason).on c.supervisor).2 }
      (outputs ++ [.called (.markDisconnected c.generation (some now) reason)]) := by
  refine h.call (.markDisconnected c.generation (some now) reason) trivial rfl ?_
  rw [disconnected_on h.generation_eq]

/-- **A stream ends**, and with it the connection. -/
theorem Books.leave (h : Books ports policy c outputs) {ending : List Output}
    (haside : ∀ output ∈ ending, output.Aside policy c.reconnectAttempt) :
    Told ports policy (c.leave now ending).1 (outputs ++ (c.leave now ending).2) := by
  have hended : ∀ output : List Output,
      (∀ o ∈ output, o.Aside policy c.reconnectAttempt) →
      Told ports policy
        { c with
          supervisor :=
            ((markDisconnected c.generation (some now) "private stream closed").on c.supervisor).2
          point := .ended }
        (outputs ++
          .called (.markDisconnected c.generation (some now) "private stream closed") ::
            output) := by
    intro output houtput
    have hbooks := (h.disconnect now "private stream closed").aside houtput
    rw [← List.append_cons] at hbooks
    refine ⟨hbooks.turn .ended, ?_, fun hlive => hlive.elim⟩
    rw [disconnected_on h.generation_eq]
    exact .inl rfl
  unfold BybitPrivateWebSocketClient.leave
  split
  · split <;> rename_i hon
    · have hend := hended ending haside
      rwa [hon] at hend
    · rename_i failure supervisor
      have hend := hended [.raised failure] (by simp [Output.Aside])
      rwa [hon] at hend
  · rename_i hdown
    refine ⟨(h.turn .ended).aside haside, ?_, fun hlive => hlive.elim⟩
    cases hstate : c.supervisor.state <;> simp_all [Point.Fits]

theorem leave_point (c : BybitPrivateWebSocketClient) (now : Time) (ending : List Output) :
    (c.leave now ending).1.point = .ended := by
  unfold BybitPrivateWebSocketClient.leave
  split
  · split <;> rfl
  · rfl

/-- **The block that held the connection is left**. -/
theorem Books.unwind (h : Books ports policy c outputs) (leaving : Leaving) :
    Told ports policy (c.unwind now leaving).1 (outputs ++ (c.unwind now leaving).2) := by
  cases leaving with
  | stopped => exact h.leave (by simp)
  | raised failure => exact h.leave (by simp [Output.Aside])
  | lost reason =>
    have hbooks := h.disconnect now reason
    have hon := disconnected_on h.generation_eq now reason
    simp only [BybitPrivateWebSocketClient.unwind]
    split <;> rename_i hresult
    · rw [hresult] at hon hbooks
      obtain ⟨-, hsupervisor⟩ := Prod.mk.inj hon
      rw [List.append_cons]
      refine ⟨(hbooks.announce _).turn .yieldingDisconnected, ?_, fun hlive => hlive.elim⟩
      rw [hsupervisor]
      rfl
    · rw [hresult] at hbooks
      rw [List.append_cons]
      exact hbooks.leave (by simp [Output.Aside])

/-- **The next attempt, or the end of them.** -/
theorem Books.retry (h : Books ports policy c outputs)
    (hstate : c.supervisor.state = .disconnected) :
    Told ports policy (c.retry now).1 (outputs ++ (c.retry now).2) := by
  unfold BybitPrivateWebSocketClient.retry
  split
  · rename_i hspent
    refine h.leave fun output houtput => ?_
    obtain rfl := List.mem_singleton.mp houtput
    have hall : policy.maximumAttempts ≤ (c.reconnectAttempt : ℤ) := by
      simpa [PrivateReconnectPolicy.canRetry, h.policy_eq] using hspent
    exact hall
  · rename_i hretry
    have hon := reconnecting_on h.generation_eq now
    have hbooks := h.call (.markReconnecting c.generation (some now)) (by simp [Orderly, hstate])
      (show ((markReconnecting c.generation (some now)).on c.supervisor).2 = _ from rfl)
      (by rw [hon])
    split <;> rename_i hresult
    · rw [hresult] at hon hbooks
      obtain ⟨-, hsupervisor⟩ := Prod.mk.inj hon
      rw [List.append_cons]
      refine ⟨(hbooks.wait ?_).turn .sleeping, ?_, fun hlive => hlive.elim⟩
      · simpa using hretry
      · rw [hsupervisor]
        rfl
    · rw [hresult] at hbooks
      rw [List.append_cons]
      exact hbooks.leave (by simp [Output.Aside])

theorem Books.close (h : Books ports policy c outputs)
    (hstate : c.supervisor.state = .connected ∨ c.supervisor.state = .authenticated)
    (leaving : Leaving) :
    Told ports policy (c.close leaving).1 (outputs ++ (c.close leaving).2) := by
  rw [BybitPrivateWebSocketClient.close, List.append_nil]
  exact ⟨h.turn _, hstate, fun hlive => hlive.elim⟩

/-- The client goes on to another point, which goes with the same state of the connection. -/
theorem Told.turn (h : Told ports policy c outputs) {point : Point} {ending : List Output}
    (hfits : ∀ state, c.point.Fits state → point.Fits state) (hlive : point.Live → c.point.Live)
    (haside : ∀ output ∈ ending, output.Aside policy c.reconnectAttempt)
    (hyields : yields ending = []) :
    Told ports policy { c with point } (outputs ++ ending) := by
  refine ⟨(h.toBooks.turn point).aside haside, hfits _ h.fits, fun hp => ?_⟩
  rw [yields_append, hyields, List.append_nil]
  exact h.live (hlive hp)

theorem Told.authenticate (h : Told ports policy c outputs) (hpoint : c.point = .connecting) :
    Told ports policy (c.authenticate ports now).1 (outputs ++ (c.authenticate ports now).2) := by
  have hstate := h.fits
  rw [hpoint] at hstate
  unfold BybitPrivateWebSocketClient.authenticate
  split
  · exact h.toBooks.close (.inl hstate) _
  · exact h.turn (by simp [hpoint, Point.Fits]) (by simp [Point.Live]) (by simp [Output.Aside]) rfl

/-- **The connection is authenticated**, and asks for its topics. -/
theorem Told.authenticated (h : Told ports policy c outputs) (hpoint : c.point = .awaitingAuth)
    (loaded : Except Failure JsonObject) :
    Told ports policy (c.authenticated ports now loaded).1
      (outputs ++ (c.authenticated ports now loaded).2) := by
  have hstate := h.fits
  rw [hpoint] at hstate
  unfold BybitPrivateWebSocketClient.authenticated
  split
  · exact h.toBooks.close (.inl hstate) _
  · split
    · exact h.toBooks.close (.inl hstate) _
    · have hon := authenticated_on h.generation_eq hstate now
      have hbooks := h.toBooks.call (.markAuthenticated c.generation (some now)) trivial
        (show ((markAuthenticated c.generation (some now)).on c.supervisor).2 = _ from rfl)
        (by rw [hon])
      split <;> rename_i hresult
      · rw [hresult] at hon hbooks
        obtain ⟨hcreate, hsupervisor⟩ := Prod.mk.inj hon
        rw [List.append_cons]
        refine ⟨(hbooks.turn _).aside (by simp [Output.Aside]), ⟨?_, create_state hcreate.symm⟩,
          fun hlive => hlive.elim⟩
        rw [hsupervisor]
      · rw [hresult] at hon hbooks
        obtain ⟨-, hsupervisor⟩ := Prod.mk.inj hon
        refine ⟨hbooks.turn _, .inr ?_, fun hlive => hlive.elim⟩
        rw [hsupervisor]

/-- **The consumer is told of the authentication.** -/
theorem Told.subscribed (h : Told ports policy c outputs) {event : PrivateConnectionEvent}
    (hpoint : c.point = .awaitingSubscription event) (loaded : Except Failure JsonObject) :
    Told ports policy (c.subscribed ports event loaded).1
      (outputs ++ (c.subscribed ports event loaded).2) := by
  have hstate := h.fits
  rw [hpoint] at hstate
  unfold BybitPrivateWebSocketClient.subscribed
  split
  · exact h.toBooks.close (.inr hstate.1) _
  · dsimp only
    split
    · exact h.toBooks.close (.inr hstate.1) _
    · refine ⟨(h.toBooks.announce event).turn .yielding, hstate.1, fun _ => ?_⟩
      rw [yields_append]
      exact (toldState_announce _ event).trans (congrArg some hstate.2)

theorem Books.drop (h : Books ports policy c outputs) {message : JsonObject}
    (hnone : isEvent message = false) :
    Books ports policy c (outputs ++ [.received message]) := by
  have hevents : events [.received message] = [] := by simp [events, hnone]
  have hbeats : beats [.received message] = [] := by simp [beats, hnone]
  refine ⟨h.policy_eq, ?_, ?_, h.patient.note hbeats (by simp), h.generation_eq⟩
  · rw [operations_append]
    exact (List.append_nil (operations outputs)).symm ▸ h.kept
  · rw [events_append, hevents, List.append_nil, yields_append]
    exact (List.append_nil (yields outputs)).symm ▸ h.given

/-- What is put out as an event is read. -/
def readOutputs (c : BybitPrivateWebSocketClient) (now : Time) (message : JsonObject)
    (read : Except Failure PrivateParsedEvent) : List Output :=
  .received message :: .called (.acceptEvent c.generation (some now)) ::
    (news [read]).map fun event => .yielded (.parsed event)

/-- An event is accepted and read. -/
theorem Told.read (h : Told ports policy c outputs) (hlive : c.point.Live)
    (hstate : c.supervisor.state = .authenticated) {message : JsonObject}
    (hevent : isEvent message = true) (now : Time) :
    Books ports policy
        { c with
          supervisor := { c.supervisor with lastActivityUtc := some now }
          parser := (c.parser.parseMessage ports.readings message).2
          reconnectAttempt := 0 }
        (outputs ++
          readOutputs c now message (c.parser.parseMessage ports.readings message).1) ∧
      toldState (yields (outputs ++
        readOutputs c now message (c.parser.parseMessage ports.readings message).1)) =
          some .authenticated := by
  have hgiven := h.given.read (h.live hlive) message
  have hkept := h.kept.call (.acceptEvent c.generation (some now)) trivial
  have hon : applied c.supervisor (.acceptEvent c.generation (some now)) =
      { c.supervisor with lastActivityUtc := some now } :=
    congrArg Prod.snd (accepted_on h.generation_eq hstate now)
  rw [hon] at hkept
  generalize c.parser.parseMessage ports.readings message = parsed at hgiven ⊢
  obtain ⟨read, parser⟩ := parsed
  have hyields : yields (readOutputs c now message read) = (news [read]).map .parsed := by
    simp [readOutputs, yields, List.filterMap_map]
  have hoperations : operations (readOutputs c now message read) =
      [.acceptEvent c.generation (some now)] := by
    simp [readOutputs, operations, List.filterMap_map]
  have hevents : events (readOutputs c now message read) = [message] := by
    simp [readOutputs, events, List.filterMap_map, hevent]
  have hpatient : Patient policy 0 (outputs ++ readOutputs c now message read) := by
    rw [readOutputs, List.append_cons]
    refine (h.patient.success (.received message) (by simp [beats, hevent])).notes ?_
      (by simp)
    rintro output houtput
    rcases List.mem_cons.mp houtput with rfl | hgave
    · rfl
    · obtain ⟨event, -, rfl⟩ := List.mem_map.mp hgave
      rfl
  refine ⟨⟨h.policy_eq, ?_, ?_, hpatient, h.generation_eq⟩, ?_⟩
  · rw [operations_append, hoperations]
    exact hkept
  · rw [events_append, hevents, yields_append, hyields]
    exact hgiven
  · rw [yields_append, hyields, toldState_parsed]
    exact h.live hlive

/-- **A text has come** over a connection that the consumer takes for authenticated. -/
theorem Told.receive (h : Told ports policy c outputs) (hlive : c.point.Live)
    (loaded : Except Failure JsonObject) :
    Told ports policy (c.receive ports now loaded).1
      (outputs ++ (c.receive ports now loaded).2) := by
  have hstate : c.supervisor.state = .authenticated := by
    have hfits := h.fits
    cases hpoint : c.point <;> simp_all [Point.Live, Point.Fits]
  unfold BybitPrivateWebSocketClient.receive
  split
  · exact h.toBooks.close (.inr hstate) _
  · rename_i message
    split
    · rename_i hcommand
      refine ⟨(h.toBooks.drop (by simp [isEvent, hcommand])).turn .receiving, hstate, fun _ => ?_⟩
      rw [yields_append]
      exact (List.append_nil (yields outputs)).symm ▸ h.live hlive
    · rename_i hnone
      have hevent : isEvent message = true := by simpa [isEvent] using hnone
      obtain ⟨hbooks, htold⟩ := h.read hlive hstate hevent now
      rw [accepted_on h.generation_eq hstate]
      simp only [BybitPrivateWebSocketClient.parse]
      generalize c.parser.parseMessage ports.readings message = parsed at hbooks htold ⊢
      obtain ⟨read, parser⟩ := parsed
      cases read with
      | error failure => exact ⟨hbooks.turn _, .inr hstate, fun hp => hp.elim⟩
      | ok event =>
        dsimp only
        cases hnews : BybitPrivateWebSocketClient.hasNoNews event with
        | true =>
          have hout : readOutputs c now message (.ok event) =
              [.received message, .called (.acceptEvent c.generation (some now))] := by
            simp [readOutputs, news, hnews]
          rw [hout] at hbooks htold
          exact ⟨hbooks.turn _, hstate, fun _ => htold⟩
        | false =>
          have hout : readOutputs c now message (.ok event) =
              [.received message, .called (.acceptEvent c.generation (some now)),
                .yielded (.parsed event)] := by
            simp [readOutputs, news, hnews]
          rw [hout] at hbooks htold
          exact ⟨hbooks.turn _, hstate, fun _ => htold⟩

/-- **One step** keeps the books. -/
theorem Told.resume (h : Told ports policy c outputs) (answer : Answer) :
    Told ports policy (c.resume ports now answer).1 (outputs ++ (c.resume ports now answer).2) := by
  have hfits := h.fits
  unfold BybitPrivateWebSocketClient.resume
  split <;> rename_i hpoint
  · exact h.authenticate hpoint
  · exact h.toBooks.unwind _
  · exact h.turn (by simp [hpoint, Point.Fits]) (by simp [Point.Live]) (by simp) rfl
  · exact h.authenticated hpoint _
  · exact h.turn (by simp [hpoint, Point.Fits]) (by simp [Point.Live]) (by simp) rfl
  · exact h.subscribed hpoint _
  · exact h.turn (by simp [hpoint, Point.Fits]) (by simp [hpoint, Point.Live]) (by simp) rfl
  · exact h.receive (by simp [hpoint, Point.Live]) _
  · exact h.turn (by simp [hpoint, Point.Fits]) (by simp [hpoint, Point.Live])
      (by simp [Output.Aside]) rfl
  · exact h.turn (by simp [hpoint, Point.Fits]) (by simp [hpoint, Point.Live]) (by simp) rfl
  · exact h.receive (by simp [hpoint, Point.Live]) _
  · rw [hpoint] at hfits
    exact h.toBooks.close (.inr hfits) _
  · exact h.toBooks.unwind _
  · exact h.toBooks.unwind _
  · rw [hpoint] at hfits
    exact h.toBooks.retry hfits
  · exact h.toBooks.leave (by simp)
  · -- the next connection, once `finally` has found nothing to do
    have hleft : Told ports policy (c.leave now []).1 (outputs ++ (c.leave now []).2) :=
      h.toBooks.leave (by simp)
    dsimp only
    rw [← List.append_assoc]
    refine hleft.toBooks.connect ?_
    have hdown := hleft.fits
    rw [leave_point] at hdown
    rcases hdown with hstate | hstate <;> rw [hstate] <;> simp
  · exact h.toBooks.leave (by simp)
  · rw [hpoint] at hfits
    exact h.toBooks.close (.inl hfits) _
  · rw [hpoint] at hfits
    exact h.toBooks.close (.inl hfits) _
  · rw [hpoint] at hfits
    exact h.toBooks.close (.inr hfits.1) _
  · rw [hpoint] at hfits
    exact h.toBooks.close (.inr hfits.1) _
  · rw [hpoint] at hfits
    exact h.toBooks.close (.inr hfits) _
  · rw [hpoint] at hfits
    exact h.toBooks.close (.inr hfits) _
  · rw [hpoint] at hfits
    exact h.toBooks.close (.inr hfits) _
  · rw [hpoint] at hfits
    exact h.toBooks.close (.inr hfits) _
  · rw [List.append_nil]
    exact h

/-- The consumer reconciles, at whatever point. -/
theorem Told.reconcile (h : Told ports policy c outputs) (generation : ℤ) :
    Told ports policy
      { c with supervisor := ((markReconciled generation).on c.supervisor).2 }
      (outputs ++ [.called (.markReconciled generation)]) := by
  have hsame : ((markReconciled generation).on c.supervisor).2.state = c.supervisor.state ∧
      ((markReconciled generation).on c.supervisor).2.connectionGeneration =
        c.supervisor.connectionGeneration := by
    rcases PrivateConnectionSupervisor.markReconciled_cases c.supervisor generation with
      ⟨failure, he⟩ | ⟨-, he⟩ <;> rw [he] <;> exact ⟨rfl, rfl⟩
  have happlied : ((markReconciled generation).on c.supervisor).2 =
      applied c.supervisor (.markReconciled generation) := by
    rcases PrivateConnectionSupervisor.markReconciled_cases c.supervisor generation with
      ⟨failure, he⟩ | ⟨-, he⟩ <;> simp [applied, Observed.call, he]
  refine ⟨h.toBooks.call (.markReconciled generation) trivial happlied hsame.2, ?_,
    fun hlive => ?_⟩
  · rw [hsame.1]
    exact h.fits
  · rw [yields_append]
    exact (List.append_nil (yields outputs)).symm ▸ h.live hlive

theorem Books.start (h : Books ports policy c outputs) :
    Books ports policy { c with reconnectAttempt := 0 } (outputs ++ [.started]) := by
  refine ⟨h.policy_eq, ?_, ?_, h.patient.success .started rfl, h.generation_eq⟩
  · rw [operations_append]
    exact (List.append_nil (operations outputs)).symm ▸ h.kept
  · rw [events_append, yields_append]
    exact (List.append_nil (events outputs)).symm ▸ (List.append_nil (yields outputs)).symm ▸ h.given

theorem Told.step (h : Told ports policy c outputs) (input : Input) :
    Told ports policy (c.step ports input).1 (outputs ++ (c.step ports input).2) := by
  cases input with
  | start now =>
    simp only [BybitPrivateWebSocketClient.step]
    split
    · rename_i hpoint
      rw [List.append_cons]
      refine h.toBooks.start.connect ?_
      have hdown := h.fits
      rw [hpoint] at hdown
      rcases hdown with hstate | hstate <;> simp [hstate]
    · rw [List.append_nil]
      exact h
  | resume now answer => exact h.resume answer
  | reconcile generation => exact h.reconcile generation

end Turns

/-! ## Runs -/

section Runs

variable (ports : PrivateClientPorts) (policy : PrivateReconnectPolicy) (inputs : List Input)

theorem told_run :
    Told ports policy (BybitPrivateWebSocketClient.run ports policy inputs).state
      (outputsOf ports policy inputs) := by
  refine Transcript.invariant (I := Told ports policy) ?_ (fun _ _ input h => h.step input) inputs
  refine ⟨⟨rfl, ⟨rfl, fun _ => rfl, ?_⟩, ⟨rfl, rfl, ?_⟩, ⟨Backoff.paced_nil, rfl, ?_, ?_⟩, rfl⟩,
    .inl rfl, fun hlive => hlive.elim⟩
  · intro earlier hp
    obtain rfl := List.prefix_nil.mp hp
    exact fun hb => absurd hb (by decide)
  · exact fun _ _ _ h => absurd h (by simp [yields])
  · intro earlier hp
    obtain rfl := List.prefix_nil.mp hp
    exact policy.maximumAttempts_nonneg
  · exact fun _ _ h => absurd h (by simp)

end Runs

/-- Python's own, and a signer whose signature is of no matter. -/
def pythonPorts : PrivateClientPorts where
  readings := { toReadings := pythonReadings, values := PublicStream.pythonValues }
  authArgs _ := .ok ["key", "0", "signature"]

/-- The policy of the client's default. -/
def defaultPrivatePolicy : PrivateReconnectPolicy where
  checked := by decide +kernel

/-- A connection, from its first call to the consumer's taking the authentication. -/
def opening : List Input :=
  [.resume 0 .returned, .resume 0 .returned,
    .resume 0 (.message (.ok [("op", .text "auth"), ("success", .boolean true)])),
    .resume 0 .returned,
    .resume 0 (.message (.ok [("op", .text "subscribe"), ("success", .boolean true)])),
    .resume 0 .returned]

/-- A connection that is reconciled and lost, and the next one. -/
def reopened : List Input :=
  .start 0 :: opening ++
    [.reconcile 1, .resume 1 (.left (.lost "gone")), .resume 1 .returned, .resume 1 .returned,
      .resume 2 .returned] ++ opening

/-! The reconciliation of the first connection does not let entries in over the second. -/

example :
    (BybitPrivateWebSocketClient.run pythonPorts defaultPrivatePolicy
      reopened).state.supervisor.newEntriesBlocked = true ∧
    (BybitPrivateWebSocketClient.run pythonPorts defaultPrivatePolicy
      (reopened ++ [.reconcile 1])).state.supervisor.newEntriesBlocked = true ∧
    (BybitPrivateWebSocketClient.run pythonPorts defaultPrivatePolicy
      (reopened ++ [.reconcile 2])).state.supervisor.newEntriesBlocked = false := by
  decide +kernel

section Runs

variable (ports : PrivateClientPorts) (policy : PrivateReconnectPolicy) (inputs : List Input)

/-- The order updates of what there is to give. -/
theorem flatMap_news (read : List (Except Failure PrivateParsedEvent)) :
    (news read).flatMap (fun event => orderUpdatesIn (.ok event)) =
      read.flatMap orderUpdatesIn := by
  induction read with
  | nil => rfl
  | cons first read ih =>
    rw [List.flatMap_cons, ← ih]
    cases first with
    | error failure => rfl
    | ok event =>
      cases hnews : BybitPrivateWebSocketClient.hasNoNews event with
      | false => simp [news, hnews]
      | true =>
        have hempty : orderUpdatesIn (.ok event) = [] := by
          cases event with
          | orders batch =>
            simpa [BybitPrivateWebSocketClient.hasNoNews, orderUpdatesIn] using hnews
          | executions batch => rfl
          | positions positions => rfl
        simp [news, hnews, hempty]

end Runs

end PrivateStream

end CreditHedge
