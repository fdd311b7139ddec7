import Mathlib.Data.Finset.Sort
import Mathlib.Data.String.Basic
import CreditHedge.Data.BybitOptions
import CreditHedge.Lib.Backoff
import CreditHedge.Lib.Transducers

/-!
# The public stream

`_stream_payloads` of `infrastructure/bybit/public_ws.py`: a generator that subscribes to one
topic, gives on what comes over the connection, and connects again when the connection is lost,
with a higher generation and after a delay.

The generator is written down as a machine over the points where it is suspended: at an awaited
call, or at its `yield`. `resume` is what it does from one such point to the next, and `leave`,
`fail` and `backOff` are the ways out of its `try` block. The world decides how an awaited call
ends, and what comes (`Answer`); an answer that does not belong to the point changes nothing.

What a run gives on is what its connections brought (`Session`), each cut down by one rule that
says nothing of machines: the objects of the topic, from the first snapshot on where a snapshot is
required.
-/

set_option autoImplicit false

namespace CreditHedge

/-! ## The supervisor -/

structure ReconnectPolicyFields where
  initialDelaySeconds : ℚ := 1
  multiplier : ℚ := 2
  maximumDelaySeconds : ℚ := 30
  deriving DecidableEq, Repr

/-- `ReconnectPolicy.__post_init__`. -/
def ReconnectPolicyFields.check (f : ReconnectPolicyFields) : Except Failure Unit := do
  refuseIf (f.initialDelaySeconds ≤ 0) "initial reconnect delay must be positive"
  refuseIf (f.multiplier < 1) "reconnect multiplier must be at least one"
  refuseIf (f.maximumDelaySeconds < f.initialDelaySeconds)
    "maximum reconnect delay cannot be below initial"

structure ReconnectPolicy extends ReconnectPolicyFields where
  checked : toReconnectPolicyFields.check = .ok ()

def ReconnectPolicy.create : ReconnectPolicyFields → Except Failure ReconnectPolicy :=
  build ReconnectPolicyFields.check ReconnectPolicy.mk

/-- The rule that a policy is. -/
def ReconnectPolicy.backoff (policy : ReconnectPolicy) : Backoff ℚ :=
  have h : 0 < policy.initialDelaySeconds ∧ 1 ≤ policy.multiplier ∧
      policy.initialDelaySeconds ≤ policy.maximumDelaySeconds := by
    have hchecked := policy.checked
    simp only [ReconnectPolicyFields.check, bind_unit_eq_ok, refuseIf_eq_ok, not_le, not_lt]
      at hchecked
    exact hchecked
  { initial := policy.initialDelaySeconds
    multiplier := policy.multiplier
    maximum := policy.maximumDelaySeconds
    initial_pos := h.1
    one_le_multiplier := h.2.1
    initial_le_maximum := h.2.2 }

structure ConnectionRestorationPlan where
  generation : ℤ
  subscriptions : List String
  snapshotTopics : List String
  deriving DecidableEq, Repr

structure MarketDataConnectionSupervisor where
  reconnectPolicy : ReconnectPolicy
  generation : ℤ := 0
  connected : Bool := false
  subscriptions : Finset String := ∅
  snapshotTopics : Finset String := ∅
  lastActivityUtc : Option Time := none
  lastPingUtc : Option Time := none
  lastPongUtc : Option Time := none

namespace MarketDataConnectionSupervisor

def registerSubscription (s : MarketDataConnectionSupervisor) (topic : String)
    (requiresSnapshot : Bool) : Except Failure MarketDataConnectionSupervisor := do
  refuseIf (isBlank topic) "subscription topic cannot be empty"
  pure
    { s with
      subscriptions := insert topic s.subscriptions
      snapshotTopics :=
        if requiresSnapshot then insert topic s.snapshotTopics else s.snapshotTopics }

def beginConnection (s : MarketDataConnectionSupervisor) (connectedAt : Time) :
    ConnectionRestorationPlan × MarketDataConnectionSupervisor :=
  ({ generation := s.generation + 1
     subscriptions := s.subscriptions.sort
     snapshotTopics := s.snapshotTopics.sort },
    { s with
      generation := s.generation + 1
      connected := true
      lastActivityUtc := some connectedAt
      lastPingUtc := none
      lastPongUtc := none })

def disconnect (s : MarketDataConnectionSupervisor) : MarketDataConnectionSupervisor :=
  { s with connected := false }

def acceptEvent (s : MarketDataConnectionSupervisor) (generation : ℤ) (observedAt : Time) :
    Bool × MarketDataConnectionSupervisor :=
  if s.connected = false ∨ generation ≠ s.generation then (false, s)
  else (true, { s with lastActivityUtc := some observedAt })

def recordPing (s : MarketDataConnectionSupervisor) (sentAt : Time) :
    MarketDataConnectionSupervisor :=
  { s with lastPingUtc := some sentAt }

def recordPong (s : MarketDataConnectionSupervisor) (received : Time) :
    MarketDataConnectionSupervisor :=
  { s with lastPongUtc := some received, lastActivityUtc := some received }

/-- `reconnect_delay`, of an attempt that is not negative. -/
def reconnectDelay (s : MarketDataConnectionSupervisor) (attempt : ℕ) : ℚ :=
  min (s.reconnectPolicy.initialDelaySeconds * s.reconnectPolicy.multiplier ^ attempt)
    s.reconnectPolicy.maximumDelaySeconds

end MarketDataConnectionSupervisor

/-! ## Messages -/

namespace Payload

/-- `value is False`. -/
def isFalse : Payload → Bool
  | .boolean value => !value
  | _ => false

/-- `value == 1`. -/
def isOne : Payload → Bool
  | .boolean value => value
  | .integer value => value = 1
  | .real shown => shown = "1.0"
  | _ => false

end Payload

/-- What Python makes of a value of a message. -/
structure StreamValues extends PythonValues where
  /-- `Decimal(str(value))`. -/
  decimal : Payload → Except Failure ℚ
  /-- `str` of a tuple of topics. -/
  strOfTopics : List String → String
  /-- `raw_payload_hash`. -/
  payloadHash : JsonObject → String
  int_one : ∀ value : Payload, value.isOne = true → int value = .ok 1

namespace PublicStream

/-- `_is_pong`. -/
def isPong (message : JsonObject) : Bool :=
  (message.get "op").isText "pong" ||
    ((message.get "op").isText "ping" && (message.get "ret_msg").isText "pong")

/-- `_is_orderbook_snapshot`. -/
def isOrderbookSnapshot (message : JsonObject) : Bool :=
  (message.get "type").isText "snapshot" ||
    match message.get "data" with
    | .object data => (JsonObject.get data "u").isOne
    | _ => false

/-- `_is_subscription_response`. -/
def isSubscriptionResponse (message : JsonObject) : Bool :=
  (message.get "op").isText "subscribe" || (message.get "type").isText "COMMAND_RESP"

/-- `_failed_subscription_topics`. -/
def failedSubscriptionTopics (values : StreamValues) (message : JsonObject) : List String :=
  match message.get "data" with
  | .object data =>
    match JsonObject.get data "failTopics" with
    | .array topics => topics.map values.str
    | _ => []
  | _ => []

/-! ## The generator -/

/-- Where the generator is suspended. -/
inductive Point where
  | connecting
  | subscribing
  | receiving
  | pinging (sentAt : Time)
  | awaitingPong
  | yielding
  | sleeping
  | ended
  deriving DecidableEq, Repr

/-- How what the generator is suspended at ends. -/
inductive Answer where
  /-- The call returns; the consumer asks for the next event. -/
  | returned
  /-- `recv` gives a text, and this is what `_load_message` makes of it. -/
  | message (loaded : Except Failure JsonObject)
  /-- `wait_for` raises, as nothing has come. -/
  | silent
  /-- The call raises an `OSError`, a `TimeoutError` or a `ConnectionClosed`. -/
  | lost
  /-- The task is cancelled, or the consumer closes the generator. -/
  | stopped

inductive Output where
  | began (generation : ℤ)
  | sent (reqId op : String) (args : List String)
  | received (message : JsonObject)
  | yielded (message : JsonObject) (generation : ℤ)
  | slept (delay : ℚ)
  | raised (failure : Failure)

end PublicStream

open PublicStream

/-- What `_stream_payloads` was called with, and its locals. -/
structure PublicStream where
  topic : String
  requiresSnapshot : Bool
  supervisor : MarketDataConnectionSupervisor
  plan : ConnectionRestorationPlan
  attempt : ℕ := 0
  awaitingSnapshot : Bool := false
  point : Point := .connecting

namespace PublicStream

variable (values : StreamValues) (s : PublicStream)

/-- The top of the outer loop. -/
def connect (now : Time) : PublicStream × List Output :=
  let (plan, supervisor) := s.supervisor.beginConnection now
  ({ s with supervisor, plan, point := .connecting }, [.began plan.generation])

/-- `finally`. -/
def leave : PublicStream :=
  { s with supervisor := s.supervisor.disconnect, point := .ended }

/-- An exception that no `except` clause catches. -/
def fail (failure : Failure) : PublicStream × List Output := (s.leave, [.raised failure])

/-- `except (OSError, TimeoutError, ConnectionClosed)`. -/
def backOff : PublicStream × List Output :=
  ({ s with attempt := s.attempt + 1, point := .sleeping },
    [.slept (s.supervisor.reconnectDelay s.attempt)])

/-- The body of the inner loop, once a message has been loaded. -/
def handle (observedAt : Time) (message : JsonObject) : PublicStream × List Output :=
  if isPong message then
    ({ s with supervisor := s.supervisor.recordPong observedAt, point := .receiving }, [])
  else if isSubscriptionResponse message then
    let failedTopics := failedSubscriptionTopics values message
    if (message.get "success").isFalse || !failedTopics.isEmpty then
      let reason :=
        if (message.get "ret_msg").truthy then values.str (message.get "ret_msg")
        else values.strOfTopics failedTopics
      s.fail (.valueError s!"Bybit subscription failed: {reason}")
    else ({ s with point := .receiving }, [])
  else if !(message.get "topic").isText s.topic then ({ s with point := .receiving }, [])
  else if s.awaitingSnapshot && !isOrderbookSnapshot message then
    ({ s with point := .receiving }, [])
  else
    match s.supervisor.acceptEvent s.plan.generation observedAt with
    | (false, supervisor) =>
      ({ s with awaitingSnapshot := false, supervisor, point := .receiving }, [])
    | (true, supervisor) =>
      ({ s with awaitingSnapshot := false, supervisor, attempt := 0, point := .yielding },
        [.yielded message s.plan.generation])

/-- A text has come. -/
def receive (observedAt : Time) (loaded : Except Failure JsonObject) :
    PublicStream × List Output :=
  match loaded with
  | .error failure => s.fail failure
  | .ok message =>
    let (next, outputs) := s.handle values observedAt message
    (next, .received message :: outputs)

/-- From one suspension to the next; `now` is what the clock shows. -/
def resume (input : Time × Answer) : PublicStream × List Output :=
  match s.point, input.2 with
  | .connecting, .returned =>
    ({ s with point := .subscribing },
      [.sent s!"generation-{s.plan.generation}" "subscribe" s.plan.subscriptions])
  | .subscribing, .returned =>
    ({ s with
      awaitingSnapshot := decide (s.topic ∈ s.plan.snapshotTopics)
      point := .receiving }, [])
  | .receiving, .message loaded => s.receive values input.1 loaded
  | .receiving, .silent =>
    ({ s with point := .pinging input.1 }, [.sent s!"ping-{s.plan.generation}" "ping" []])
  | .pinging sentAt, .returned =>
    ({ s with supervisor := s.supervisor.recordPing sentAt, point := .awaitingPong }, [])
  | .awaitingPong, .message loaded => s.receive values input.1 loaded
  | .awaitingPong, .silent => s.backOff
  | .yielding, .returned => ({ s with point := .receiving }, [])
  | .sleeping, .returned =>
    -- the `finally` of the connection that was lost
    connect { s with supervisor := s.supervisor.disconnect } input.1
  | .connecting, .lost => s.backOff
  | .subscribing, .lost => s.backOff
  | .receiving, .lost => s.backOff
  | .pinging _, .lost => s.backOff
  | .awaitingPong, .lost => s.backOff
  | .ended, _ => (s, [])
  | _, .stopped => (s.leave, [])
  | _, _ => (s, [])

end PublicStream

/-- The call of `_stream_payloads`, up to its first suspension. -/
def streamPayloads (policy : ReconnectPolicy) (topic : String) (requiresSnapshot : Bool)
    (now : Time) : Except Failure (Transcript PublicStream Output) := do
  let supervisor ←
    MarketDataConnectionSupervisor.registerSubscription { reconnectPolicy := policy } topic
      requiresSnapshot
  let stream : PublicStream :=
    { topic
      requiresSnapshot
      supervisor
      plan := { generation := 0, subscriptions := [], snapshotTopics := [] } }
  let (state, outputs) := stream.connect now
  pure { state, outputs }

/-! ## What a run gives on -/

namespace PublicStream

/-- What came over one connection. -/
structure Session where
  generation : ℤ
  received : List JsonObject

/-- The sessions so far, the last one first. -/
def Session.note : List Session → Output → List Session
  | sessions, .began generation => { generation, received := [] } :: sessions
  | session :: earlier, .received message =>
    { session with received := session.received ++ [message] } :: earlier
  | sessions, _ => sessions

def sessionsBack (outputs : List Output) : List Session := outputs.foldl Session.note []

/-- The connections of a run, in their order. -/
def sessions (outputs : List Output) : List Session := (sessionsBack outputs).reverse

/-- The message is one of the topic, and none of the connection's own. -/
def onTopic (topic : String) (message : JsonObject) : Bool :=
  !isPong message && !isSubscriptionResponse message && (message.get "topic").isText topic

/-- The messages of the topic; from the first snapshot on, where one is required. -/
def Session.kept (topic : String) (requiresSnapshot : Bool) (session : Session) :
    List JsonObject :=
  (session.received.filter (onTopic topic)).dropWhile fun message =>
    requiresSnapshot && !isOrderbookSnapshot message

def Session.delivered (topic : String) (requiresSnapshot : Bool) (session : Session) :
    List (JsonObject × ℤ) :=
  (session.kept topic requiresSnapshot).map fun message => (message, session.generation)

/-- What the generator has yielded. -/
def yields (outputs : List Output) : List (JsonObject × ℤ) :=
  outputs.filterMap fun
    | .yielded message generation => some (message, generation)
    | _ => none

/-- The run as a history of a caller that waits after it has failed. -/
def beats (outputs : List Output) : List (Beat ℚ) :=
  outputs.filterMap fun
    | .yielded _ _ => some .success
    | .slept delay => some (.wait delay)
    | _ => none

theorem sessionsBack_append (outputs outputs' : List Output) :
    sessionsBack (outputs ++ outputs') = outputs'.foldl Session.note (sessionsBack outputs) :=
  List.foldl_append

@[simp] theorem yields_append (outputs outputs' : List Output) :
    yields (outputs ++ outputs') = yields outputs ++ yields outputs' :=
  List.filterMap_append

@[simp] theorem beats_append (outputs outputs' : List Output) :
    beats (outputs ++ outputs') = beats outputs ++ beats outputs' :=
  List.filterMap_append

section Sessions

variable {topic : String} {requiresSnapshot : Bool} {session : Session} {message : JsonObject}

/-- One message more, and what the session keeps of it. -/
theorem kept_receive :
    ({ session with received := session.received ++ [message] } : Session).kept topic
        requiresSnapshot =
      session.kept topic requiresSnapshot ++
        (if onTopic topic message && !(requiresSnapshot &&
            (session.kept topic requiresSnapshot).isEmpty && !isOrderbookSnapshot message)
          then [message] else []) := by
  unfold Session.kept
  rw [List.filter_append]
  cases htopic : onTopic topic message with
  | false => simp [htopic]
  | true =>
    rw [List.filter_singleton, htopic, Bool.cond_true, List.dropWhile_append]
    split
    · rename_i hempty
      rw [List.isEmpty_iff] at hempty
      rw [hempty]
      cases requiresSnapshot <;> cases hsnapshot : isOrderbookSnapshot message <;>
        simp [hsnapshot]
    · rename_i hne
      simp [hne]

end Sessions

/-! ## Steps

What `resume` can do, as far as the history of a run is concerned. -/

/-- The connection is being made. -/
def Point.Fresh : Point → Prop
  | .connecting => True
  | .subscribing => True
  | _ => False

/-- The connection stands, and the topic has been subscribed to. -/
def Point.Live : Point → Prop
  | .receiving => True
  | .pinging _ => True
  | .awaitingPong => True
  | .yielding => True
  | _ => False

/-- Nothing the history of a run is about. -/
def Output.Silent : Output → Prop
  | .sent _ _ _ => True
  | .raised _ => True
  | _ => False

structure Keeps (s s' : PublicStream) : Prop where
  topic : s'.topic = s.topic
  requiresSnapshot : s'.requiresSnapshot = s.requiresSnapshot
  plan : s'.plan = s.plan
  attempt : s'.attempt = s.attempt
  awaitingSnapshot : s'.awaitingSnapshot = s.awaitingSnapshot
  generation : s'.supervisor.generation = s.supervisor.generation
  policy : s'.supervisor.reconnectPolicy = s.supervisor.reconnectPolicy
  snapshotTopics : s'.supervisor.snapshotTopics = s.supervisor.snapshotTopics
  connected : s'.point ≠ .ended → s'.supervisor.connected = s.supervisor.connected

/-- The message is not given on. -/
def Dropped (s : PublicStream) (message : JsonObject) : Prop :=
  onTopic s.topic message = false ∨
    s.awaitingSnapshot = true ∧ isOrderbookSnapshot message = false

inductive Step (s : PublicStream) : PublicStream → List Output → Prop where
  | quiet {s' : PublicStream} {outputs : List Output} (keeps : Keeps s s')
      (live : s'.point.Live → s.point.Live) (fresh : s'.point.Fresh → s.point.Fresh)
      (silent : ∀ output ∈ outputs, output.Silent) : Step s s' outputs
  | listen (hpoint : s.point = .subscribing) :
      Step s
        { s with
          awaitingSnapshot := decide (s.topic ∈ s.plan.snapshotTopics)
          point := .receiving } []
  | drop {s' : PublicStream} {message : JsonObject} {outputs : List Output}
      (live : s.point.Live) (keeps : Keeps s s') (live' : ¬ s'.point.Fresh)
      (dropped : Dropped s message) (silent : ∀ output ∈ outputs, output.Silent) :
      Step s s' (.received message :: outputs)
  | give {supervisor : MarketDataConnectionSupervisor} {message : JsonObject}
      (live : s.point.Live) (given : ¬ Dropped s message)
      (hsupervisor : ∃ now, supervisor = { s.supervisor with lastActivityUtc := some now }) :
      Step s
        { s with awaitingSnapshot := false, supervisor, attempt := 0, point := .yielding }
        [.received message, .yielded message s.plan.generation]
  | backOff : Step s s.backOff.1 s.backOff.2
  | connect (now : Time) :
      Step s (connect { s with supervisor := s.supervisor.disconnect } now).1
        (connect { s with supervisor := s.supervisor.disconnect } now).2

section Steps

variable {s : PublicStream}

theorem Keeps.refl (s : PublicStream) : Keeps s s :=
  ⟨rfl, rfl, rfl, rfl, rfl, rfl, rfl, rfl, fun _ => rfl⟩

theorem Keeps.leave (s : PublicStream) : Keeps s s.leave :=
  ⟨rfl, rfl, rfl, rfl, rfl, rfl, rfl, rfl, fun h => absurd rfl h⟩

theorem step_stay (s : PublicStream) : Step s s [] :=
  .quiet (.refl s) id id (by simp)

theorem step_leave (s : PublicStream) {outputs : List Output}
    (silent : ∀ output ∈ outputs, output.Silent) : Step s s.leave outputs :=
  .quiet (.leave s) (fun h => absurd h (by simp [PublicStream.leave, Point.Live]))
    (fun h => absurd h (by simp [PublicStream.leave, Point.Fresh])) silent

theorem silent_fail (failure : Failure) : ∀ output ∈ (s.fail failure).2, output.Silent := by
  simp [PublicStream.fail, Output.Silent]

/-- A connected supervisor accepts the events of its own generation. -/
theorem acceptEvent_current (hconnected : s.supervisor.connected = true)
    (hplan : s.plan.generation = s.supervisor.generation) (now : Time) :
    s.supervisor.acceptEvent s.plan.generation now =
      (true, { s.supervisor with lastActivityUtc := some now }) := by
  unfold MarketDataConnectionSupervisor.acceptEvent
  rw [if_neg (by simp [hconnected, hplan])]

theorem step_receive (values : StreamValues) (hlive : s.point.Live)
    (hconnected : s.supervisor.connected = true)
    (hplan : s.plan.generation = s.supervisor.generation) (now : Time)
    (loaded : Except Failure JsonObject) :
    Step s (s.receive values now loaded).1 (s.receive values now loaded).2 := by
  have hnotFresh : ∀ {s' : PublicStream}, s'.point = .receiving → ¬ s'.point.Fresh := by
    intro s' h
    simp [h, Point.Fresh]
  cases loaded with
  | error failure => exact step_leave s (silent_fail failure)
  | ok message =>
    simp only [PublicStream.receive, PublicStream.handle]
    split
    · -- a pong
      rename_i hpong
      exact .drop hlive ⟨rfl, rfl, rfl, rfl, rfl, rfl, rfl, rfl, fun _ => rfl⟩ (hnotFresh rfl)
        (.inl (by simp [onTopic, hpong])) (by simp)
    · split
      · -- an answer to the subscription
        rename_i hresponse
        have hdropped : Dropped s message := .inl (by simp [onTopic, hresponse])
        split
        · exact .drop hlive (.leave s)
            (by simp [PublicStream.fail, PublicStream.leave, Point.Fresh]) hdropped
            (silent_fail _)
        · exact .drop hlive ⟨rfl, rfl, rfl, rfl, rfl, rfl, rfl, rfl, fun _ => rfl⟩ (hnotFresh rfl)
            hdropped (by simp)
      · rename_i hpong hresponse
        split
        · -- a message of another topic
          rename_i htopic
          have htopic' : (message.get "topic").isText s.topic = false := by simpa using htopic
          exact .drop hlive ⟨rfl, rfl, rfl, rfl, rfl, rfl, rfl, rfl, fun _ => rfl⟩ (hnotFresh rfl)
            (.inl (by simp [onTopic, htopic'])) (by simp)
        · rename_i htopic
          have hon : onTopic s.topic message = true := by
            simpa [onTopic, hpong, hresponse] using htopic
          split
          · -- a snapshot is awaited, and this is none
            rename_i hawaiting
            exact .drop hlive ⟨rfl, rfl, rfl, rfl, rfl, rfl, rfl, rfl, fun _ => rfl⟩
              (hnotFresh rfl) (.inr (by simpa using hawaiting)) (by simp)
          · rename_i hawaiting
            rw [acceptEvent_current hconnected hplan]
            refine .give hlive ?_ ⟨now, rfl⟩
            rintro (hoff | hdrop)
            · simp [hon] at hoff
            · exact hawaiting (by simpa using hdrop)

/-- **What `resume` does** is one of the steps, in every state whose connection is the
    supervisor's current one. -/
theorem step_resume (values : StreamValues)
    (hready : s.point.Live → s.supervisor.connected = true ∧
      s.plan.generation = s.supervisor.generation) (input : Time × Answer) :
    Step s (s.resume values input).1 (s.resume values input).2 := by
  obtain ⟨now, answer⟩ := input
  have hkeeps : ∀ point : Point, Keeps s { s with point } := fun point =>
    ⟨rfl, rfl, rfl, rfl, rfl, rfl, rfl, rfl, fun _ => rfl⟩
  unfold resume
  split <;> rename_i hpoint hanswer
  · exact .quiet (hkeeps _) (by simp [Point.Live]) (by simp [hpoint, Point.Fresh])
      (by simp [Output.Silent])
  · exact .listen hpoint
  · have hlive : s.point.Live := by simp [hpoint, Point.Live]
    exact step_receive values hlive (hready hlive).1 (hready hlive).2 now _
  · exact .quiet (hkeeps _) (by simp [hpoint, Point.Live]) (by simp [Point.Fresh])
      (by simp [Output.Silent])
  · exact .quiet ⟨rfl, rfl, rfl, rfl, rfl, rfl, rfl, rfl, fun _ => rfl⟩
      (by simp [hpoint, Point.Live]) (by simp [Point.Fresh]) (by simp)
  · have hlive : s.point.Live := by simp [hpoint, Point.Live]
    exact step_receive values hlive (hready hlive).1 (hready hlive).2 now _
  · exact .backOff
  · exact .quiet (hkeeps _) (by simp [hpoint, Point.Live]) (by simp [Point.Fresh]) (by simp)
  · exact .connect now
  · exact .backOff
  · exact .backOff
  · exact .backOff
  · exact .backOff
  · exact .backOff
  · exact step_stay s
  · exact step_leave s (by simp)
  · exact step_stay s

end Steps

/-! ## Runs -/

section Silence

variable {outputs outputs' : List Output}

theorem sessionsBack_silent (h : ∀ output ∈ outputs', output.Silent) :
    sessionsBack (outputs ++ outputs') = sessionsBack outputs := by
  induction outputs' generalizing outputs with
  | nil => rw [List.append_nil]
  | cons output outputs' ih =>
    obtain ⟨hfirst, hrest⟩ := List.forall_mem_cons.mp h
    rw [List.append_cons, ih hrest, sessionsBack_append]
    cases output with
    | sent reqId op args => cases hback : sessionsBack outputs <;> rfl
    | raised failure => cases hback : sessionsBack outputs <;> rfl
    | _ => exact absurd hfirst (by simp [Output.Silent])

theorem yields_silent (h : ∀ output ∈ outputs, output.Silent) : yields outputs = [] := by
  refine List.filterMap_eq_nil_iff.mpr fun output houtput => ?_
  have hsilent := h output houtput
  cases output <;> first | rfl | exact absurd hsilent (by simp [Output.Silent])

theorem beats_silent (h : ∀ output ∈ outputs, output.Silent) : beats outputs = [] := by
  refine List.filterMap_eq_nil_iff.mpr fun output houtput => ?_
  have hsilent := h output houtput
  cases output <;> first | rfl | exact absurd hsilent (by simp [Output.Silent])

end Silence

/-- The generations of the first connections. -/
def numbered (n : ℕ) : List ℤ := (List.range n).map fun i : ℕ => (i : ℤ) + 1

/-- What the machine still knows, told by what it has put out. -/
structure Told (policy : ReconnectPolicy) (topic : String) (requiresSnapshot : Bool)
    (s : PublicStream) (outputs : List Output) : Prop where
  topic_eq : s.topic = topic
  policy_eq : s.supervisor.reconnectPolicy = policy
  topics_eq : s.supervisor.snapshotTopics = if requiresSnapshot then {topic} else ∅
  planned : s.plan.snapshotTopics = s.supervisor.snapshotTopics.sort
  generation_eq : s.plan.generation = s.supervisor.generation
  connected : s.point.Fresh ∨ s.point.Live → s.supervisor.connected = true
  numbered_eq : (sessions outputs).map Session.generation = numbered (sessions outputs).length
  counted : s.supervisor.generation = (sessions outputs).length
  delivered :
    yields outputs = (sessions outputs).flatMap (Session.delivered topic requiresSnapshot)
  current : ∃ session earlier, sessionsBack outputs = session :: earlier ∧
    session.generation = s.plan.generation ∧
    (s.point.Fresh → session.received = []) ∧
    (s.point.Live → s.awaitingSnapshot =
      (requiresSnapshot && (session.kept topic requiresSnapshot).isEmpty))
  paced : policy.backoff.Paced (beats outputs)
  attempt_eq : Beat.failures (beats outputs) = s.attempt

section Telling

variable {policy : ReconnectPolicy} {topic : String} {requiresSnapshot : Bool} {s s' : PublicStream}
  {outputs outputs' : List Output}

theorem Told.ready (h : Told policy topic requiresSnapshot s outputs) (hlive : s.point.Live) :
    s.supervisor.connected = true ∧ s.plan.generation = s.supervisor.generation :=
  ⟨h.connected (.inr hlive), h.generation_eq⟩

theorem not_ended {point : Point} (h : point.Fresh ∨ point.Live) : point ≠ .ended := by
  rintro rfl
  simp [Point.Fresh, Point.Live] at h

theorem not_live_of_fresh {point : Point} (h : point.Fresh) : ¬ point.Live := by
  cases point <;> simp_all [Point.Fresh, Point.Live]

/-- A message more over the connection that stands. -/
theorem sessionsBack_received {session : Session} {earlier : List Session} {message : JsonObject}
    (h : sessionsBack outputs = session :: earlier) :
    sessionsBack (outputs ++ [.received message]) =
      { session with received := session.received ++ [message] } :: earlier := by
  rw [sessionsBack_append, h]
  rfl

theorem sessions_eq {session : Session} {earlier : List Session}
    (h : sessionsBack outputs = session :: earlier) :
    sessions outputs = earlier.reverse ++ [session] := by
  rw [sessions, h, List.reverse_cons]

theorem generations_received {session : Session} {earlier : List Session} {message : JsonObject}
    (h : sessionsBack outputs = session :: earlier) :
    (sessions (outputs ++ [.received message])).map Session.generation =
      (sessions outputs).map Session.generation := by
  simp [sessions_eq (sessionsBack_received h), sessions_eq h]

theorem length_received {session : Session} {earlier : List Session} {message : JsonObject}
    (h : sessionsBack outputs = session :: earlier) :
    (sessions (outputs ++ [.received message])).length = (sessions outputs).length := by
  simp [sessions_eq (sessionsBack_received h), sessions_eq h]

/-- What a session with another message delivers. -/
theorem delivered_received {session : Session} {earlier : List Session} {message : JsonObject}
    {given : List JsonObject} (hback : sessionsBack outputs = session :: earlier)
    (hyields : yields outputs =
      (sessions outputs).flatMap (Session.delivered topic requiresSnapshot))
    (hkept : ({ session with received := session.received ++ [message] } : Session).kept topic
      requiresSnapshot = session.kept topic requiresSnapshot ++ given) :
    yields outputs ++ given.map (fun message => (message, session.generation)) =
      (sessions (outputs ++ [.received message])).flatMap
        (Session.delivered topic requiresSnapshot) := by
  rw [sessions_eq (sessionsBack_received hback), hyields, sessions_eq hback]
  simp only [List.flatMap_append, List.flatMap_singleton, List.append_assoc]
  refine congrArg _ ?_
  unfold Session.delivered
  rw [hkept, List.map_append]

theorem Told.quiet (h : Told policy topic requiresSnapshot s outputs) (keeps : Keeps s s')
    (live : s'.point.Live → s.point.Live) (fresh : s'.point.Fresh → s.point.Fresh)
    (silent : ∀ output ∈ outputs', output.Silent) :
    Told policy topic requiresSnapshot s' (outputs ++ outputs') := by
  have hback : sessionsBack (outputs ++ outputs') = sessionsBack outputs :=
    sessionsBack_silent silent
  have hsessions : sessions (outputs ++ outputs') = sessions outputs := by
    rw [sessions, hback, sessions]
  obtain ⟨session, earlier, hcurrent, hgeneration, hfresh, hlive⟩ := h.current
  constructor
  · exact keeps.topic.trans h.topic_eq
  · exact keeps.policy.trans h.policy_eq
  · exact keeps.snapshotTopics.trans h.topics_eq
  · rw [keeps.plan, keeps.snapshotTopics]
    exact h.planned
  · rw [keeps.plan, keeps.generation]
    exact h.generation_eq
  · intro hpoint
    rw [keeps.connected (not_ended hpoint)]
    exact h.connected (hpoint.imp fresh live)
  · rw [hsessions]
    exact h.numbered_eq
  · rw [hsessions, keeps.generation]
    exact h.counted
  · rw [yields_append, yields_silent silent, List.append_nil, hsessions]
    exact h.delivered
  · refine ⟨session, earlier, hback.trans hcurrent, ?_, fun hf => hfresh (fresh hf), fun hl => ?_⟩
    · rw [keeps.plan]
      exact hgeneration
    · rw [keeps.awaitingSnapshot]
      exact hlive (live hl)
  · rw [beats_append, beats_silent silent, List.append_nil]
    exact h.paced
  · rw [beats_append, beats_silent silent, List.append_nil, keeps.attempt]
    exact h.attempt_eq

/-- A message that is not given on. -/
theorem Told.drop (h : Told policy topic requiresSnapshot s outputs) {message : JsonObject}
    (live : s.point.Live) (keeps : Keeps s s') (notFresh : ¬ s'.point.Fresh)
    (dropped : Dropped s message) (silent : ∀ output ∈ outputs', output.Silent) :
    Told policy topic requiresSnapshot s' (outputs ++ .received message :: outputs') := by
  obtain ⟨session, earlier, hcurrent, hgeneration, -, hlive⟩ := h.current
  have hsame : ({ session with received := session.received ++ [message] } : Session).kept topic
      requiresSnapshot = session.kept topic requiresSnapshot ++ [] := by
    rw [kept_receive]
    refine congrArg _ (if_neg ?_)
    rw [← hlive live, ← h.topic_eq]
    rcases dropped with hoff | ⟨hawaiting, hsnapshot⟩
    · simp [hoff]
    · simp [hawaiting, hsnapshot]
  have hdelivered := delivered_received hcurrent h.delivered hsame
  rw [List.map_nil, List.append_nil] at hdelivered
  have hback : sessionsBack (outputs ++ [.received message]) = _ :=
    sessionsBack_received hcurrent
  -- First the message is heard, then the machine goes on quietly.
  have hheard : Told policy topic requiresSnapshot s (outputs ++ [.received message]) := by
    constructor
    · exact h.topic_eq
    · exact h.policy_eq
    · exact h.topics_eq
    · exact h.planned
    · exact h.generation_eq
    · exact h.connected
    · rw [generations_received hcurrent, length_received hcurrent]
      exact h.numbered_eq
    · rw [length_received hcurrent]
      exact h.counted
    · rw [yields_append]
      exact (List.append_nil _).trans hdelivered
    · refine ⟨_, earlier, hback, hgeneration, fun hf => ?_, fun hl => ?_⟩
      · exact absurd live (not_live_of_fresh hf)
      · rw [hsame, List.append_nil]
        exact hlive hl
    · rw [beats_append]
      exact (List.append_nil (beats outputs)).symm ▸ h.paced
    · rw [beats_append]
      exact (List.append_nil (beats outputs)).symm ▸ h.attempt_eq
  rw [List.append_cons]
  exact hheard.quiet keeps (fun _ => live) (fun hf => absurd hf notFresh) silent

/-- A message that is given on. -/
theorem Told.give (h : Told policy topic requiresSnapshot s outputs) {message : JsonObject}
    {supervisor : MarketDataConnectionSupervisor} (live : s.point.Live)
    (given : ¬ Dropped s message)
    (hsupervisor : ∃ now, supervisor = { s.supervisor with lastActivityUtc := some now }) :
    Told policy topic requiresSnapshot
      { s with awaitingSnapshot := false, supervisor, attempt := 0, point := .yielding }
      (outputs ++ [.received message, .yielded message s.plan.generation]) := by
  obtain ⟨session, earlier, hcurrent, hgeneration, -, hlive⟩ := h.current
  obtain ⟨now, rfl⟩ := hsupervisor
  obtain ⟨hon, hsnapshot⟩ := not_or.mp given
  rw [h.topic_eq, Bool.not_eq_false] at hon
  have hmore : ({ session with received := session.received ++ [message] } : Session).kept topic
      requiresSnapshot = session.kept topic requiresSnapshot ++ [message] := by
    rw [kept_receive]
    refine congrArg _ (if_pos ?_)
    rw [← hlive live, hon]
    cases hawaiting : s.awaitingSnapshot with
    | false => simp
    | true =>
      have hsnapshot' : isOrderbookSnapshot message = true := by simpa [hawaiting] using hsnapshot
      simp [hsnapshot']
  have hdelivered := delivered_received hcurrent h.delivered hmore
  rw [List.map_singleton, hgeneration] at hdelivered
  have hback : sessionsBack (outputs ++ [.received message]) = _ :=
    sessionsBack_received hcurrent
  have hsplit : outputs ++ [.received message, .yielded message s.plan.generation] =
      (outputs ++ [.received message]) ++ [.yielded message s.plan.generation] := by simp
  have hbackYield : sessionsBack
      (outputs ++ [.received message, .yielded message s.plan.generation]) =
        sessionsBack (outputs ++ [.received message]) := by
    rw [hsplit, sessionsBack_append, hback]
    rfl
  have hsessions : sessions
      (outputs ++ [.received message, .yielded message s.plan.generation]) =
        sessions (outputs ++ [.received message]) := congrArg List.reverse hbackYield
  have hbeats : beats (outputs ++ [.received message, .yielded message s.plan.generation]) =
      beats outputs ++ [.success] := beats_append _ _
  constructor
  · exact h.topic_eq
  · exact h.policy_eq
  · exact h.topics_eq
  · exact h.planned
  · exact h.generation_eq
  · exact fun _ => h.connected (.inr live)
  · rw [hsessions, generations_received hcurrent, length_received hcurrent]
    exact h.numbered_eq
  · rw [hsessions, length_received hcurrent]
    exact h.counted
  · rw [hsessions, ← hdelivered, yields_append]
    rfl
  · refine ⟨_, earlier, hbackYield.trans hback, hgeneration, fun hf => ?_, fun _ => ?_⟩
    · simp [Point.Fresh] at hf
    · rw [hmore]
      simp
  · rw [hbeats]
    exact h.paced.success
  · rw [hbeats, Beat.failures_success]

theorem Told.backOff (h : Told policy topic requiresSnapshot s outputs) :
    Told policy topic requiresSnapshot s.backOff.1 (outputs ++ s.backOff.2) := by
  obtain ⟨session, earlier, hcurrent, hgeneration, -, -⟩ := h.current
  have hback : sessionsBack (outputs ++ s.backOff.2) = sessionsBack outputs := by
    rw [sessionsBack_append, hcurrent]
    rfl
  have hsessions : sessions (outputs ++ s.backOff.2) = sessions outputs :=
    congrArg List.reverse hback
  have hdelay : s.supervisor.reconnectDelay s.attempt =
      policy.backoff.delay (Beat.failures (beats outputs)) := by
    rw [h.attempt_eq, ← h.policy_eq]
    rfl
  have hbeats : beats (outputs ++ s.backOff.2) =
      beats outputs ++ [.wait (policy.backoff.delay (Beat.failures (beats outputs)))] := by
    rw [← hdelay]
    exact beats_append _ _
  constructor
  · exact h.topic_eq
  · exact h.policy_eq
  · exact h.topics_eq
  · exact h.planned
  · exact h.generation_eq
  · intro hpoint
    simp [PublicStream.backOff, Point.Fresh, Point.Live] at hpoint
  · rw [hsessions]
    exact h.numbered_eq
  · rw [hsessions]
    exact h.counted
  · rw [hsessions, ← h.delivered, yields_append]
    exact List.append_nil _
  · refine ⟨session, earlier, hback.trans hcurrent, hgeneration, fun hf => ?_, fun hl => ?_⟩
    · simp [PublicStream.backOff, Point.Fresh] at hf
    · simp [PublicStream.backOff, Point.Live] at hl
  · rw [hbeats]
    exact h.paced.wait
  · rw [hbeats, Beat.failures_wait, h.attempt_eq]
    rfl

/-- The next connection. -/
theorem told_connect {now : Time} (topic_eq : s.topic = topic)
    (policy_eq : s.supervisor.reconnectPolicy = policy)
    (topics_eq : s.supervisor.snapshotTopics = if requiresSnapshot then {topic} else ∅)
    (numbered_eq : (sessions outputs).map Session.generation = numbered (sessions outputs).length)
    (counted : s.supervisor.generation = (sessions outputs).length)
    (delivered :
      yields outputs = (sessions outputs).flatMap (Session.delivered topic requiresSnapshot))
    (paced : policy.backoff.Paced (beats outputs))
    (attempt_eq : Beat.failures (beats outputs) = s.attempt) :
    Told policy topic requiresSnapshot (s.connect now).1 (outputs ++ (s.connect now).2) := by
  have hback : sessionsBack (outputs ++ (s.connect now).2) =
      { generation := s.supervisor.generation + 1, received := [] } :: sessionsBack outputs := by
    rw [sessionsBack_append]
    rfl
  have hsessions : sessions (outputs ++ (s.connect now).2) =
      sessions outputs ++ [{ generation := s.supervisor.generation + 1, received := [] }] :=
    sessions_eq hback
  constructor
  · exact topic_eq
  · exact policy_eq
  · exact topics_eq
  · rfl
  · rfl
  · exact fun _ => rfl
  · rw [hsessions, List.map_append, numbered_eq, List.length_append, List.length_singleton,
      numbered, numbered, List.range_succ, List.map_append, counted]
    rfl
  · rw [hsessions, List.length_append, List.length_singleton, Nat.cast_add, Nat.cast_one,
      ← counted]
    rfl
  · rw [hsessions, List.flatMap_append, ← delivered, yields_append]
    rfl
  · refine ⟨_, _, hback, rfl, fun _ => rfl, fun hl => ?_⟩
    simp [PublicStream.connect, Point.Live] at hl
  · rw [beats_append]
    exact (List.append_nil (beats outputs)).symm ▸ paced
  · rw [beats_append]
    exact (List.append_nil (beats outputs)).symm ▸ attempt_eq

theorem Told.listen (h : Told policy topic requiresSnapshot s outputs)
    (hpoint : s.point = .subscribing) :
    Told policy topic requiresSnapshot
      { s with
        awaitingSnapshot := decide (s.topic ∈ s.plan.snapshotTopics)
        point := .receiving } (outputs ++ []) := by
  obtain ⟨session, earlier, hcurrent, hgeneration, hfresh, -⟩ := h.current
  have hnew : session.received = [] := hfresh (by simp [hpoint, Point.Fresh])
  rw [List.append_nil]
  refine ⟨h.topic_eq, h.policy_eq, h.topics_eq, h.planned, h.generation_eq, fun _ => ?_,
    h.numbered_eq, h.counted, h.delivered, ?_, h.paced, h.attempt_eq⟩
  · exact h.connected (.inl (by simp [hpoint, Point.Fresh]))
  · refine ⟨session, earlier, hcurrent, hgeneration, fun hf => ?_, fun _ => ?_⟩
    · simp [Point.Fresh] at hf
    · -- Nothing has come yet, so a snapshot is awaited if one is required at all.
      have hkept : session.kept topic requiresSnapshot = [] := by simp [Session.kept, hnew]
      rw [hkept, h.planned, h.topics_eq, h.topic_eq]
      cases requiresSnapshot <;> simp

/-- **One step** keeps the machine and its history in line. -/
theorem Told.step (h : Told policy topic requiresSnapshot s outputs) (hstep : Step s s' outputs') :
    Told policy topic requiresSnapshot s' (outputs ++ outputs') := by
  cases hstep with
  | quiet keeps live fresh silent => exact h.quiet keeps live fresh silent
  | listen hpoint => exact h.listen hpoint
  | drop live keeps notFresh dropped silent => exact h.drop live keeps notFresh dropped silent
  | give live given hsupervisor => exact h.give live given hsupervisor
  | backOff => exact h.backOff
  | connect now =>
    exact told_connect h.topic_eq h.policy_eq h.topics_eq h.numbered_eq h.counted h.delivered
      h.paced h.attempt_eq

end Telling

theorem told_start {policy : ReconnectPolicy} {topic : String} {requiresSnapshot : Bool}
    {now : Time} {start : Transcript PublicStream Output}
    (h : streamPayloads policy topic requiresSnapshot now = .ok start) :
    Told policy topic requiresSnapshot start.state start.outputs := by
  simp only [streamPayloads, MarketDataConnectionSupervisor.registerSubscription, bind_eq_ok,
    refuseIf_eq_ok] at h
  obtain ⟨supervisor, ⟨_, _, hregistered⟩, hstart⟩ := h
  obtain rfl := Except.ok.inj hregistered
  obtain rfl := Except.ok.inj hstart
  have hnone : Beat.failures (beats []) = 0 := rfl
  change Told _ _ _ _ ([] ++ _)
  refine told_connect rfl rfl ?_ rfl rfl rfl Backoff.paced_nil hnone
  cases requiresSnapshot <;> simp

/-- **A run, told by what it has put out.** -/
theorem told_run (values : StreamValues) {policy : ReconnectPolicy} {topic : String}
    {requiresSnapshot : Bool} {now : Time} {start : Transcript PublicStream Output}
    (h : streamPayloads policy topic requiresSnapshot now = .ok start)
    (inputs : List (Time × Answer)) :
    Told policy topic requiresSnapshot (start.run (resume values) inputs).state
      (start.run (resume values) inputs).outputs :=
  Transcript.invariant (told_start h)
    (fun _ _ input htold => htold.step (step_resume values htold.ready input)) inputs

/-- **What the stream gives on** is what its connections brought: of each, in order, the messages
    of the topic, from the first snapshot on where one is required; and the connections are
    numbered from one. So nothing of an earlier connection comes after something of a later one,
    nothing is given twice, and nothing of the topic is lost. -/
theorem stream_payloads_delivers (values : StreamValues) {policy : ReconnectPolicy}
    {topic : String} {requiresSnapshot : Bool} {now : Time}
    {start : Transcript PublicStream Output}
    (h : streamPayloads policy topic requiresSnapshot now = .ok start)
    (inputs : List (Time × Answer)) :
    let outputs := (start.run (resume values) inputs).outputs
    yields outputs = (sessions outputs).flatMap (Session.delivered topic requiresSnapshot) ∧
      (sessions outputs).map Session.generation = numbered (sessions outputs).length :=
  ⟨(told_run values h inputs).delivered, (told_run values h inputs).numbered_eq⟩

/-- `int(value)`. -/
def pythonInt : Payload → Except Failure ℤ
  | .boolean value => .ok (if value then 1 else 0)
  | .integer value => .ok value
  | .real shown =>
    match decimalOfText shown with
    | .finite q => .ok (q.num.tdiv q.den)
    | _ => .error (.valueError "cannot convert float to integer")
  | .text value =>
    match intOfText value with
    | some n => .ok n
    | none => .error (.valueError "invalid literal for int() with base 10")
  | value => .error (.typeError s!"int() does not take a {value.typeName}")

/-- `Decimal(str(value))`. -/
def pythonDecimal : Payload → Except Failure ℚ
  | .integer value => .ok value
  | .real shown => ofReading (decimalOfText shown)
  | .text value => ofReading (decimalOfText value)
  | _ => .error .invalidOperation
where
  ofReading : DecimalReading → Except Failure ℚ
    | .finite value => .ok value
    | _ => .error .invalidOperation

/-- Python's own, but for the digits of the hash, and for how it shows what has parts. -/
def pythonValues : StreamValues where
  strOfParts value := value.typeName
  int := pythonInt
  fromTimestamp milliseconds :=
    if milliseconds ≤ lastMillisecond then .ok milliseconds
    else .error (.valueError "year is out of range")
  decimal := pythonDecimal
  strOfTopics topics := s!"{topics}"
  payloadHash _ := "0"
  int_one value hone := by
    cases value with
    | boolean value =>
      obtain rfl : value = true := hone
      rfl
    | integer value =>
      have hvalue : value = 1 := by simpa [Payload.isOne] using hone
      rw [hvalue]
      rfl
    | real shown =>
      have hshown : shown = "1.0" := by simpa [Payload.isOne] using hone
      have hread : decimalOfText "1.0" = .finite 1 := by decide +kernel
      rw [hshown, pythonInt, hread]
      rfl
    | _ => simp [Payload.isOne] at hone

/-- A message of the order book, as the exchange writes it. -/
def bookMessage (kind : String) (updateId : ℤ) (bid : String) : JsonObject :=
  [("topic", .text "orderbook.50.ETHUSDT"), ("type", .text kind), ("ts", .integer 1000),
    ("data", .object
      [("s", .text "ETHUSDT"), ("b", .array [.array [.text bid, .text "2"]]),
        ("a", .array [.array [.text "3001", .text "1"]]), ("u", .integer updateId),
        ("seq", .integer updateId)])]

/-- The policy of the client's default. -/
def defaultPolicy : ReconnectPolicy where
  checked := by decide +kernel

/-- A snapshot, the loss of the connection, and a snapshot again, with a delta before it. -/
def lostOnce : List (Time × Answer) :=
  [(0, .returned), (0, .returned), (1, .message (.ok (bookMessage "snapshot" 10 "3000"))),
    (1, .returned), (2, .lost), (3, .returned), (4, .returned), (4, .returned),
    (5, .message (.ok (bookMessage "delta" 19 "2899"))),
    (6, .message (.ok (bookMessage "snapshot" 20 "2900")))]

/-- One snapshot of each connection is given on, the delta between them is not. -/
theorem stream_payloads_delivers_lostOnce : ∃ start,
    streamPayloads defaultPolicy "orderbook.50.ETHUSDT" true 0 = .ok start ∧
      (let outputs := (start.run (resume pythonValues) lostOnce).outputs
       yields outputs = (sessions outputs).flatMap (Session.delivered "orderbook.50.ETHUSDT" true) ∧
        (sessions outputs).map Session.generation = numbered (sessions outputs).length ∧
        (yields outputs).map Prod.snd = [1, 2]) := by
  refine ⟨_, rfl, ?_⟩
  have hopen : streamPayloads defaultPolicy "orderbook.50.ETHUSDT" true 0 = .ok _ := rfl
  obtain ⟨hyields, hnumbered⟩ := stream_payloads_delivers pythonValues hopen lostOnce
  exact ⟨hyields, hnumbered, by decide +kernel⟩

/-- **The waits of the stream** are those of its policy: each is the one due after the connections
    lost since the last message was given on. So between two such messages they never get shorter,
    the first is the initial one, and all are within the policy's bounds. -/
theorem stream_payloads_paced (values : StreamValues) {policy : ReconnectPolicy}
    {topic : String} {requiresSnapshot : Bool} {now : Time}
    {start : Transcript PublicStream Output}
    (h : streamPayloads policy topic requiresSnapshot now = .ok start)
    (inputs : List (Time × Answer)) :
    let history := beats (start.run (resume values) inputs).outputs
    policy.backoff.Paced history ∧
    (∀ earlier (delays : List ℚ) later, history = earlier ++ delays.map .wait ++ later →
      delays.Pairwise (· ≤ ·)) ∧
    (∀ earlier delay later, history = earlier ++ .success :: .wait delay :: later →
      delay = policy.initialDelaySeconds) ∧
    ∀ delay, .wait delay ∈ history →
      policy.initialDelaySeconds ≤ delay ∧ delay ≤ policy.maximumDelaySeconds := by
  have hpaced := (told_run values h inputs).paced
  exact ⟨hpaced, fun _ _ _ hsplit => hpaced.pairwise hsplit,
    fun _ _ _ hsplit => hpaced.after_success hsplit, fun _ hmem => hpaced.bounds hmem⟩

/-- Two connections that fail, one that brings a message and is lost, and one more. -/
def lostThrice : List (Time × Answer) :=
  [(0, .lost), (1, .returned), (1, .returned), (1, .lost), (3, .returned), (3, .returned),
    (3, .returned), (4, .message (.ok (bookMessage "snapshot" 10 "3000"))), (4, .returned),
    (5, .lost), (6, .returned), (6, .lost)]

/-- A run whose waits are 1, 2, and after the message 1, 2 again. -/
theorem stream_payloads_paced_lostThrice : ∃ start,
    streamPayloads defaultPolicy "orderbook.50.ETHUSDT" true 0 = .ok start ∧
      (let history := beats (start.run (resume pythonValues) lostThrice).outputs
       history = [.wait 1, .wait 2, .success, .wait 1, .wait 2] ∧
        defaultPolicy.backoff.Paced history) := by
  refine ⟨_, rfl, ?_⟩
  have hopen : streamPayloads defaultPolicy "orderbook.50.ETHUSDT" true 0 = .ok _ := rfl
  exact ⟨by decide +kernel, (stream_payloads_paced pythonValues hopen lostThrice).1⟩

end PublicStream

end CreditHedge
