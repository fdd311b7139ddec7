import CreditHedge.Application.Ports
import CreditHedge.Lib.Calls

/-!
# One entry, submitted and filled

`application/one_level_entry.py`: a market order to open a short, and the fills of it.

An entry is persisted before it is sent, and every later write of its row names the version it
was read at. A submission holds on to the row it has itself written (`submitted`), while the
execution stream applies fills to the row in the store: the two meet at the version.

The `_active_order_link_id` the service remembers is read by its position check alone, once and
before anything is awaited, so it is an argument of `reconcilePosition`.
-/

set_option autoImplicit false

namespace CreditHedge

namespace OneLevelEntryService

/-- `_required_snapshot`. -/
def requiredSnapshot (orderLinkId : String) : Service EntryExecutionSnapshot := do
  match ← awaitCall (.loadEntrySnapshot orderLinkId) with
  | none => throw (.valueError s!"no persisted entry for {orderLinkId}")
  | some snapshot => pure snapshot

def persistEntryIntent (request : PlaceOrderRequest) : Service EntryExecutionSnapshot := do
  let persistedAt ← awaitCall .clock
  let snapshot ← EntryExecutionSnapshot.forIntent request persistedAt
  awaitCall (.persistEntryIntent request snapshot persistedAt)
  pure snapshot

/-- The entry row is moved on to this state, and the failure goes on. -/
def raiseWithState {α : Type} (submitted : EntryExecutionSnapshot) (state : LiveExecutionState)
    (failure : Failure) : Service α := do
  let updatedAt ← awaitCall .clock
  let moved ← transitionEntrySnapshot submitted state updatedAt
  awaitCall (.transitionEntrySnapshot submitted.version moved)
  throw failure

/-- `try: place_order(request)` with its two `except` branches: an uncertain outcome is looked up
    under the client id, any other failure means that the order was not placed. -/
def placeEntry (request : PlaceOrderRequest) (submitted : EntryExecutionSnapshot) :
    Service OrderRequestAck :=
  tryCatch (awaitCall (.placeOrder request)) fun failure =>
    match failure with
    | .uncertainOrderOutcome _ => do
      match ← awaitCall
          (.getOrderByLinkId request.category request.symbol request.orderLinkId) with
      | none => raiseWithState submitted .reconciling failure
      | some discovered => do
        let acknowledgedAt ← awaitCall .clock
        let acknowledgement ←
          OrderRequestAck.create .place discovered.orderId discovered.orderLinkId acknowledgedAt
        pure acknowledgement
    | _ => raiseWithState submitted .error failure

def submitPersistedEntry (request : PlaceOrderRequest) (snapshot : EntryExecutionSnapshot) :
    Service EntryExecutionSnapshot := do
  refuseIf (snapshot.orderLinkId ≠ request.orderLinkId)
    "request and persisted entry client IDs differ"
  refuseIf (snapshot.state ≠ .entryRequestPersisted) "entry snapshot is not ready for submission"
  let persistedRequest ← awaitCall (.loadOrderIntent request.orderLinkId)
  refuseIf (persistedRequest ≠ some request) "entry request is not durably persisted"
  let updatedAt ← awaitCall .clock
  let submitted ← transitionEntrySnapshot snapshot .entrySubmitted updatedAt
  awaitCall (.transitionEntrySnapshot snapshot.version submitted)
  let acknowledgement ← placeEntry request submitted
  let updatedAt ← awaitCall .clock
  let acknowledged ← transitionEntrySnapshot submitted .entryAcknowledged updatedAt
    (some acknowledgement.orderId)
  awaitCall
    (.recordAcknowledgementAndSnapshot submitted.version acknowledgement acknowledged)
  pure acknowledged

/-- `apply_execution`. -/
def applyExecution (execution : ExecutionUpdate) (receivedAt : Time)
    (payloadHash : PayloadHash) : Service EntryExecutionSnapshot := do
  let snapshot ← requiredSnapshot execution.orderLinkId
  if ← awaitCall (.hasExecution execution.executionId) then pure snapshot
  else do
    let updated ← applyEntryExecution snapshot execution receivedAt
    if ← awaitCall
        (.recordExecutionAndSnapshot snapshot.version execution receivedAt payloadHash
          updated) then
      pure updated
    else requiredSnapshot execution.orderLinkId

def submitEntry (request : PlaceOrderRequest) : Service EntryExecutionSnapshot := do
  let snapshot ← persistEntryIntent request
  submitPersistedEntry request snapshot

/-- Whether the position is the entry's; if not, the entry is suspended. -/
def reconcilePosition (activeOrderLinkId : Option String) (positions : List ExchangePosition) :
    Service Bool :=
  match activeOrderLinkId with
  | none => throw (.runtimeError "no entry has been submitted by this service")
  | some orderLinkId => do
    let snapshot ← requiredSnapshot orderLinkId
    if entryPositionMatches snapshot positions then pure true
    else if snapshot.state = .reconciling then pure false
    else do
      let updatedAt ← awaitCall .clock
      let reconciling ← transitionEntrySnapshot snapshot .reconciling updatedAt
      awaitCall (.transitionEntrySnapshot snapshot.version reconciling)
      pure false

def finalizePartialFill (orderLinkId : String) : Service EntryExecutionSnapshot := do
  let snapshot ← requiredSnapshot orderLinkId
  let updatedAt ← awaitCall .clock
  let finalized ← finalizePartialEntry snapshot updatedAt
  awaitCall (.transitionEntrySnapshot snapshot.version finalized)
  pure finalized

/-! ## What a submission calls -/

/-- The calls of an entry submission, with those of a recovery's debt: the one order it places is
    its own, and it does not look at the entry gate. -/
def SubmissionCall (request : PlaceOrderRequest) : Call → Prop
  | .placeOrder placed => placed = request
  | .clock | .persistEntryIntent .. | .loadOrderIntent _ | .transitionEntrySnapshot ..
  | .getOrderByLinkId .. | .recordAcknowledgementAndSnapshot ..
  | .transitionRecoveryDebtSnapshot .. => True
  | _ => False

variable (request : PlaceOrderRequest)

theorem calls_raiseWithState {α : Type} (submitted : EntryExecutionSnapshot)
    (state : LiveExecutionState) (failure : Failure) :
    (raiseWithState submitted state failure : Service α).Calls (SubmissionCall request) := by
  refine .call_bind trivial fun updatedAt => ?_
  refine .lift_bind fun moved _ => ?_
  exact .call_bind trivial fun _ => .throw failure

theorem calls_placeEntry (submitted : EntryExecutionSnapshot) :
    (placeEntry request submitted).Calls (SubmissionCall request) := by
  refine Coroutine.Calls.tryCatch (.perform rfl) fun failure => ?_
  split
  · refine .call_bind trivial fun found => ?_
    cases found with
    | none => exact calls_raiseWithState request submitted _ _
    | some discovered =>
      refine .call_bind trivial fun acknowledgedAt => ?_
      exact .lift _
  · exact calls_raiseWithState request submitted _ _

theorem calls_persistEntryIntent :
    (persistEntryIntent request).Calls (SubmissionCall request) := by
  refine .call_bind trivial fun persistedAt => ?_
  refine .lift_bind fun snapshot _ => ?_
  exact .call_bind trivial fun _ => .pure snapshot

theorem calls_submitPersistedEntry (snapshot : EntryExecutionSnapshot) :
    (submitPersistedEntry request snapshot).Calls (SubmissionCall request) := by
  refine .lift_bind fun _ _ => .lift_bind fun _ _ => ?_
  refine .call_bind trivial fun persistedRequest => ?_
  refine .lift_bind fun _ _ => ?_
  refine .call_bind trivial fun updatedAt => ?_
  refine .lift_bind fun submitted _ => ?_
  refine .call_bind trivial fun _ => ?_
  refine (calls_placeEntry request submitted).bind fun acknowledgement => ?_
  refine .call_bind trivial fun updatedAt => ?_
  refine .lift_bind fun acknowledged _ => ?_
  exact .call_bind trivial fun _ => .pure acknowledged

theorem calls_submitEntry : (submitEntry request).Calls (SubmissionCall request) :=
  (calls_persistEntryIntent request).bind (calls_submitPersistedEntry request)

end OneLevelEntryService

end CreditHedge
