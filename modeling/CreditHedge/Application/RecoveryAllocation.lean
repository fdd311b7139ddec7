import CreditHedge.Application.SameLevelRecovery

/-!
# Debt stays with its hedge

While the exchange may hold a recovery order, the debt that order was sized for must stay
allocated; a debt released by mistake is allocated a second time, to a second hedge.

A submission runs beside the execution stream, which records fills of the same order as they
come. The stream touches entries and executions only (`FillsOnly`), so the debt itself is the
submission's alone, and the question is one about control flow: which exceptions can reach
`except Exception` although the order was taken on. `AnsweredInOrder` lists what has to hold of
each call for there to be none. The call that matters is the write of the acknowledgement. It
names the version the submission left the row at, and a fill recorded before it has moved the row
on (`released_while_live`).

The placement and its answer are one move here. A fill that the stream records while the reply is
still under way is, for the store, a fill recorded right after that move.
-/

set_option autoImplicit false

namespace CreditHedge

open Coroutine OneLevelEntryService SameLevelRecoveryService

/-- `UncertainOrderOutcomeError`: the one failure that says nothing about the order. -/
def Failure.IsUncertain : Failure → Prop
  | .uncertainOrderOutcome _ => True
  | _ => False

/-! ## The execution stream -/

/-- All the execution stream does: entries and executions may change. -/
structure FillsOnly (w w' : World) : Prop where
  orderIntents : w'.store.orderIntents = w.store.orderIntents
  recoveryDebts : w'.store.recoveryDebts = w.store.recoveryDebts
  accepted : w'.accepted = w.accepted

theorem FillsOnly.refl (w : World) : FillsOnly w w := ⟨rfl, rfl, rfl⟩

theorem FillsOnly.trans {w w' w'' : World} (h : FillsOnly w w') (h' : FillsOnly w' w'') :
    FillsOnly w w'' :=
  ⟨h'.1.trans h.1, h'.2.trans h.2, h'.3.trans h.3⟩

theorem FillsOnly.not_accepted {w w' : World} (h : FillsOnly w w') {orderLinkId : String}
    (hw : ¬ w.Accepted orderLinkId) : ¬ w'.Accepted orderLinkId := by
  unfold World.Accepted
  rw [h.accepted]
  exact hw

theorem FillsOnly.known {w w' : World} (h : FillsOnly w w') {orderLinkId : String}
    (hw : w.store.Known orderLinkId) : w'.store.Known orderLinkId := by
  unfold Tables.Known
  rw [h.orderIntents]
  exact hw

theorem guarantees_requiredSnapshot (orderLinkId : String) :
    Guarantees handle FillsOnly (requiredSnapshot orderLinkId) := by
  refine .call_bind (fun _ w => .refl w) fun snapshot => ?_
  cases snapshot with
  | none => exact trivial
  | some snapshot => exact trivial

theorem guarantees_applyExecution (execution : ExecutionUpdate) (receivedAt : Time)
    (payloadHash : PayloadHash) :
    Guarantees handle FillsOnly (applyExecution execution receivedAt payloadHash) := by
  refine .bind (guarantees_requiredSnapshot _) fun snapshot => ?_
  refine .call_bind (fun _ w => .refl w) fun known => ?_
  cases known with
  | true => exact trivial
  | false =>
    refine .lift_bind fun updated _ => .call_bind (fun _ w => ?_) fun inserted => ?_
    · show FillsOnly w (w.writeWith _).2
      cases hr : w.store.recordExecutionAndSnapshot snapshot.version execution receivedAt
        payloadHash updated with
      | error failure => exact .refl w
      | ok result =>
        obtain ⟨_, _, hstore⟩ := SqliteExecutionStore.recordExecutionAndSnapshot_eq_ok hr
        exact ⟨by rw [World.writeWith, hstore], by rw [World.writeWith, hstore], rfl⟩
    · cases inserted with
      | true => exact trivial
      | false => exact guarantees_requiredSnapshot _

/-- The recording of a fill of this order, which the exchange has taken on. -/
def FillOf (orderLinkId : String) (w : World) (t : Service EntryExecutionSnapshot) : Prop :=
  w.Accepted orderLinkId ∧ ∃ execution receivedAt payloadHash,
    execution.orderLinkId = orderLinkId ∧ t = applyExecution execution receivedAt payloadHash

/-! ## The submission -/

/-- The entry row is still at this version. -/
def AtVersion (w : World) (orderLinkId : String) (version : ℕ) : Prop :=
  ∃ snapshot, w.store.loadEntrySnapshot orderLinkId = some snapshot ∧ snapshot.version = version

/-- The exchange does not report an order it takes on as failed, and acknowledges it as the order
    it is. -/
def ReportsPlacement (a : Answers) (request : PlaceOrderRequest) : Prop :=
  match a.placed with
  | .error failure => a.accepts = true → failure.IsUncertain
  | .ok acknowledgement =>
    acknowledgement.orderLinkId = request.orderLinkId ∧ ¬ isBlank acknowledgement.orderId

/-- An order it took on can be looked up, and is found as the order it is. -/
def ReportsLookup (a : Answers) (orderLinkId : String) (w : World) : Prop :=
  match a.found with
  | .error failure => w.Accepted orderLinkId → failure.IsUncertain
  | .ok none => True
  | .ok (some order) => order.orderLinkId = orderLinkId ∧ ¬ isBlank order.orderId

/-- What a call of the submission has to meet: the exchange reports truthfully, and no fill comes
    between the placement and the write that follows it. -/
def AnsweredInOrder (a : Answers) : Call → World → Prop
  | .placeOrder request, _ => ReportsPlacement a request
  | .getOrderByLinkId _ _ orderLinkId, w => ReportsLookup a orderLinkId w
  | .transitionEntrySnapshot previousVersion snapshot, w =>
    w.Accepted snapshot.orderLinkId → AtVersion w snapshot.orderLinkId previousVersion
  | .recordAcknowledgementAndSnapshot previousVersion _ snapshot, w =>
    AtVersion w snapshot.orderLinkId previousVersion
  | _, _ => True

/-- No debt is touched. -/
def KeepsDebts (w w' : World) : Prop := w'.store.recoveryDebts = w.store.recoveryDebts

section Submission

variable {request : PlaceOrderRequest} {snapshot submitted : EntryExecutionSnapshot} {w : World}

theorem keepsDebts_write {result : Except Failure SqliteExecutionStore}
    (h : ∀ store', result = .ok store' → store'.recoveryDebts = w.store.recoveryDebts) :
    KeepsDebts w (w.write result).2 := by
  cases hr : result with
  | error failure => exact rfl
  | ok store' => exact h store' hr

theorem keepsDebts_transition (previousVersion : ℕ) (a : Answers) (w : World) :
    KeepsDebts w (handle a (.transitionEntrySnapshot previousVersion snapshot) w).2 :=
  keepsDebts_write fun _ hr => by
    obtain ⟨_, hstore⟩ := SqliteExecutionStore.transitionEntrySnapshot_eq_ok hr
    rw [hstore]

theorem keepsDebts_raiseWithState {α : Type} (state : LiveExecutionState) (failure : Failure) :
    Guarantees handle KeepsDebts (raiseWithState submitted state failure : Service α) :=
  .call_bind (fun _ _ => rfl) fun _ => .lift_bind fun _ _ =>
    .call_bind (keepsDebts_transition _) fun _ => trivial

theorem keepsDebts_placeEntry : Guarantees handle KeepsDebts (placeEntry request submitted) := by
  refine .tryCatch (.perform fun a w => ?_) fun failure => ?_
  · show KeepsDebts w (if a.takes then w.accept _ else w)
    split <;> exact rfl
  · cases failure with
    | uncertainOrderOutcome operation =>
      refine .call_bind (fun a w => ?_) fun found => ?_
      · show KeepsDebts w (if a.shows then w.accept _ else w)
        split <;> exact rfl
      · cases found with
        | none => exact keepsDebts_raiseWithState _ _
        | some order =>
          exact .call_bind (fun _ _ => rfl) fun _ => .done
    | _ => exact keepsDebts_raiseWithState _ _

theorem keepsDebts_submitPersistedEntry :
    Guarantees handle KeepsDebts (submitPersistedEntry request snapshot) := by
  refine .lift_bind fun _ _ => .lift_bind fun _ _ => .call_bind (fun _ _ => rfl) fun _ => ?_
  refine .lift_bind fun _ _ => .call_bind (fun _ _ => rfl) fun _ => .lift_bind fun _ _ => ?_
  refine .call_bind (keepsDebts_transition _) fun _ => .bind keepsDebts_placeEntry fun _ => ?_
  refine .call_bind (fun _ _ => rfl) fun _ => .lift_bind fun _ _ => ?_
  refine .call_bind (fun _ _ => keepsDebts_write fun _ hr => ?_) fun _ => .done
  obtain ⟨_, _, hstore⟩ := SqliteExecutionStore.recordAcknowledgementAndSnapshot_eq_ok hr
  rw [hstore]

/-- If an order was taken on, the only way for its submission to raise is the uncertain outcome. -/
def RaisesUncertain (orderLinkId : String) {α : Type} (outcome : Except Failure α)
    (w : World) : Prop :=
  ∀ failure, outcome = .error failure → w.Accepted orderLinkId → failure.IsUncertain

theorem RaisesUncertain.of_not_accepted {orderLinkId : String} {α : Type}
    {outcome : Except Failure α} (h : ¬ w.Accepted orderLinkId) :
    RaisesUncertain orderLinkId outcome w :=
  fun _ _ haccepted => absurd haccepted h

theorem RaisesUncertain.of_ok {orderLinkId : String} {α : Type} {a : α} :
    RaisesUncertain orderLinkId (.ok a) w :=
  fun _ h => absurd h (by simp)

/-- `Ensures`, for a submission among fills. -/
abbrev Achieves {α : Type} (post : Except Failure α → World → Prop) : Service α → World → Prop :=
  Ensures handle FillsOnly AnsweredInOrder post

/-- A row moved on and the failure raised again: the failure itself, or, only if the order was not
    taken on, the conflict. -/
theorem achieves_raiseWithState {orderLinkId : String} {α : Type} {state : LiveExecutionState}
    {failure : Failure} {post : Except Failure α → World → Prop}
    (hstate : state ∈ [LiveExecutionState.entrySubmitted, .entryAcknowledged, .reconciling, .error])
    (hack : state ≠ .entryAcknowledged) (hid : submitted.orderLinkId = orderLinkId)
    (hfailure : w.Accepted orderLinkId → failure.IsUncertain)
    (hpost : ∀ raised w', (w'.Accepted orderLinkId → raised.IsUncertain) →
      post (.error raised) w') :
    Achieves post (raiseWithState submitted state failure : Service α) w := by
  refine .call_bind fun w₁ hw₁ a _ => ?_
  obtain ⟨moved, hmoved⟩ : ∃ moved, transitionEntrySnapshot submitted state a.now = .ok moved :=
    transitionEntrySnapshot_total submitted a.now hstate (by simp) fun h => absurd h hack
  obtain ⟨hkey, hversion, -, -⟩ := transitionEntrySnapshot_eq_ok hmoved
  refine .lift_bind ?_
  rw [hmoved]
  refine .call_bind fun w₂ hw₂ a' hallowed => ?_
  -- Whether the order was taken on has not changed since `w`; the store call does not change it.
  have haccepted : ∀ {w₃ : World}, w₃.accepted = w₂.accepted → w₃.Accepted orderLinkId →
      w.Accepted orderLinkId := by
    intro w₃ h₃ h
    unfold World.Accepted at h ⊢
    rwa [h₃, hw₂.accepted, hw₁.accepted] at h
  rw [show handle a' (.transitionEntrySnapshot submitted.version moved) w₂ =
    w₂.write (w₂.store.transitionEntrySnapshot submitted.version moved) from rfl]
  cases hr : w₂.store.transitionEntrySnapshot submitted.version moved with
  | ok store' =>
    exact fun w₃ hw₃ => hpost failure w₃ fun h => hfailure (haccepted hw₃.accepted h)
  | error conflict =>
    refine fun w₃ hw₃ => hpost conflict w₃ fun h => ?_
    have hw₂accepted : w₂.Accepted moved.orderLinkId := by
      rw [hkey, hid]
      unfold World.Accepted at h ⊢
      rwa [hw₃.accepted] at h
    obtain ⟨previous, hfind, hprevious⟩ := hallowed hw₂accepted
    obtain ⟨store', hok⟩ := SqliteExecutionStore.transitionEntrySnapshot_ok hfind hprevious hversion
    exact absurd (hr.symm.trans hok) (by simp)

/-- What placing an entry leaves for the acknowledgement to be written. -/
structure Placed (orderLinkId : String) (outcome : Except Failure OrderRequestAck)
    (w : World) : Prop where
  acknowledged : ∀ acknowledgement, outcome = .ok acknowledgement →
    acknowledgement.orderLinkId = orderLinkId ∧ ¬ isBlank acknowledgement.orderId ∧
      w.store.Known orderLinkId
  raises : RaisesUncertain orderLinkId outcome w

theorem Placed.of_error {orderLinkId : String} {failure : Failure}
    (h : w.Accepted orderLinkId → failure.IsUncertain) : Placed orderLinkId (.error failure) w where
  acknowledged := fun _ hok => absurd hok (by simp)
  raises := fun _ hfailure haccepted => Except.error.inj hfailure ▸ h haccepted

theorem Placed.of_ok {orderLinkId : String} {acknowledgement : OrderRequestAck}
    (hid : acknowledgement.orderLinkId = orderLinkId) (htext : ¬ isBlank acknowledgement.orderId)
    (hknown : w.store.Known orderLinkId) : Placed orderLinkId (.ok acknowledgement) w where
  acknowledged := fun _ hok => Except.ok.inj hok ▸ ⟨hid, htext, hknown⟩
  raises := .of_ok

theorem achieves_placeEntry (hid : submitted.orderLinkId = request.orderLinkId)
    (hfresh : ¬ w.Accepted request.orderLinkId) (hknown : w.store.Known request.orderLinkId) :
    Achieves (Placed request.orderLinkId) (placeEntry request submitted) w := by
  refine .tryCatch FillsOnly.refl (.perform fun w₁ hw₁ a hallowed w₂ hw₂ => ?_)
  have hreports : ReportsPlacement a request := hallowed
  unfold ReportsPlacement at hreports
  have hfresh₁ := hw₁.not_accepted hfresh
  have hstore : (handle a (.placeOrder request) w₁).2.store = w₁.store := by
    show (if a.takes then w₁.accept _ else w₁).store = _
    split <;> rfl
  have hanswer : (handle a (.placeOrder request) w₁).1 = a.placed := rfl
  rw [hanswer]
  cases hplaced : a.placed with
  | ok acknowledgement =>
    rw [hplaced] at hreports
    obtain ⟨hackId, htext⟩ := hreports
    refine fun w₃ hw₃ => .of_ok hackId htext (hw₃.known (hw₂.known ?_))
    unfold Tables.Known
    rw [hstore]
    exact hw₁.known hknown
  | error failure =>
    rw [hplaced] at hreports
    -- The order was taken on only if the exchange did so without saying it.
    have htaken : w₂.Accepted request.orderLinkId → failure.IsUncertain := by
      intro h
      refine hreports ?_
      by_contra hnot
      have hnottaken : a.takes = false := by
        simpa [Answers.takes, hplaced, Except.isOk, Except.toBool] using hnot
      refine hw₂.not_accepted ?_ h
      show ¬ World.Accepted (if a.takes then w₁.accept _ else w₁) _
      rw [hnottaken]
      exact hfresh₁
    cases failure with
    | uncertainOrderOutcome operation =>
      refine .call_bind fun w₃ hw₃ a' hallowed' => ?_
      have hlookup : ReportsLookup a' request.orderLinkId w₃ := hallowed'
      unfold ReportsLookup at hlookup
      have hknown₃ : w₃.store.Known request.orderLinkId := by
        refine hw₃.known (hw₂.known ?_)
        unfold Tables.Known
        rw [hstore]
        exact hw₁.known hknown
      rw [show handle a' (.getOrderByLinkId request.category request.symbol request.orderLinkId) w₃ =
        (a'.found, if a'.shows then w₃.accept request.orderLinkId else w₃) from rfl]
      cases hfound : a'.found with
      | error raised =>
        rw [hfound] at hlookup
        have hshows : a'.shows = false := by simp [Answers.shows, hfound]
        rw [hshows]
        refine fun w₄ hw₄ => .of_error fun h => hlookup ?_
        unfold World.Accepted at h ⊢
        rwa [hw₄.accepted] at h
      | ok found =>
        cases found with
        | none =>
          exact achieves_raiseWithState (by decide) (by decide) hid (fun _ => trivial)
            fun _ _ h => .of_error h
        | some order =>
          rw [hfound] at hlookup
          obtain ⟨horderId, htext⟩ := hlookup
          refine .call_bind fun w₄ hw₄ a'' _ => ?_
          obtain ⟨acknowledgement, hcreate, hackId, hackOrder⟩ :=
            OrderRequestAck.create_ok .place a''.now htext
              (horderId ▸ request.isOwn : IsOwnOrderLinkId order.orderLinkId)
          refine fun w₅ hw₅ => ?_
          rw [hcreate]
          refine .of_ok (hackId.trans horderId) (hackOrder ▸ htext) (hw₅.known ?_)
          refine hw₄.known ?_
          show Tables.Known (if a'.shows then w₃.accept _ else w₃).store.toTables _
          split <;> exact hknown₃
    | _ =>
      exact achieves_raiseWithState (by decide) (by decide) hid htaken fun _ _ h => .of_error h

/-- **A submission raises over a live order only with the uncertain outcome.** -/
theorem achieves_submitPersistedEntry {orderLinkId : String}
    (hid : request.orderLinkId = orderLinkId)
    (hfresh : ¬ w.Accepted orderLinkId) :
    Achieves (RaisesUncertain orderLinkId) (submitPersistedEntry request snapshot) w := by
  subst hid
  have hfails : ∀ {w' : World}, ¬ w'.Accepted request.orderLinkId → ∀ {failure : Failure} {w''},
      FillsOnly w' w'' → RaisesUncertain request.orderLinkId
        (.error failure : Except Failure EntryExecutionSnapshot) w'' :=
    fun hnot _ _ hw => .of_not_accepted (hw.not_accepted hnot)
  refine .lift_bind ?_
  cases hkey : refuseIf (snapshot.orderLinkId ≠ request.orderLinkId)
    "request and persisted entry client IDs differ" with
  | error failure => exact fun _ hw => hfails hfresh hw
  | ok _ =>
  refine .lift_bind ?_
  cases refuseIf (snapshot.state ≠ .entryRequestPersisted)
    "entry snapshot is not ready for submission" with
  | error failure => exact fun _ hw => hfails hfresh hw
  | ok _ =>
  refine .call_bind fun w₁ hw₁ _ _ => ?_
  have hfresh₁ := hw₁.not_accepted hfresh
  refine .lift_bind ?_
  cases hintent : refuseIf (w₁.store.loadOrderIntent request.orderLinkId ≠ some request)
    "entry request is not durably persisted" with
  | error failure => exact fun _ hw => hfails hfresh₁ hw
  | ok _ =>
  have hknown : w₁.store.Known request.orderLinkId := by
    have hloaded := not_not.mp (refuseIf_eq_ok.mp hintent)
    obtain ⟨row, hrow, -⟩ := Option.map_eq_some_iff.mp hloaded
    exact ⟨row, KeyedTable.find_eq_some.mp hrow⟩
  refine .call_bind fun w₂ hw₂ a _ => .lift_bind ?_
  have hfresh₂ := hw₂.not_accepted hfresh₁
  cases hsubmitted : transitionEntrySnapshot snapshot .entrySubmitted a.now with
  | error failure => exact fun _ hw => hfails hfresh₂ hw
  | ok submitted =>
  have hsubmittedId : submitted.orderLinkId = request.orderLinkId :=
    (transitionEntrySnapshot_eq_ok hsubmitted).1.trans (not_not.mp (refuseIf_eq_ok.mp hkey))
  refine .call_bind fun w₃ hw₃ a' _ => ?_
  have hfresh₃ := hw₃.not_accepted hfresh₂
  rw [show handle a' (.transitionEntrySnapshot snapshot.version submitted) w₃ =
    w₃.write (w₃.store.transitionEntrySnapshot snapshot.version submitted) from rfl]
  cases hwrite : w₃.store.transitionEntrySnapshot snapshot.version submitted with
  | error failure => exact fun _ hw => hfails hfresh₃ hw
  | ok store' =>
  have hknown' : Tables.Known store'.toTables request.orderLinkId := by
    obtain ⟨_, hstore⟩ := SqliteExecutionStore.transitionEntrySnapshot_eq_ok hwrite
    rw [hstore]
    exact hw₃.known (hw₂.known hknown)
  have hfresh' : ¬ World.Accepted { w₃ with store := store' } request.orderLinkId := hfresh₃
  refine .bind FillsOnly.refl ((achieves_placeEntry hsubmittedId hfresh' hknown').imp ?_)
  intro outcome w₄ hplaced
  cases outcome with
  | error failure =>
    refine fun w₅ hw₅ raised hraised h => ?_
    obtain rfl := Except.error.inj hraised
    refine hplaced.raises failure rfl ?_
    unfold World.Accepted at h ⊢
    rwa [hw₅.accepted] at h
  | ok acknowledgement =>
  obtain ⟨hackId, htext, hknown₄⟩ := hplaced.acknowledged acknowledgement rfl
  refine .call_bind fun w₅ hw₅ a'' _ => .lift_bind ?_
  obtain ⟨acknowledged, hmoved⟩ : ∃ s, transitionEntrySnapshot submitted .entryAcknowledged a''.now
      (some acknowledgement.orderId) = .ok s :=
    transitionEntrySnapshot_total submitted a''.now (by decide)
      (by simpa using htext) (fun _ => by simp)
  obtain ⟨hmovedKey, hmovedVersion, -, -⟩ := transitionEntrySnapshot_eq_ok hmoved
  rw [hmoved]
  refine .call_bind fun w₆ hw₆ a₆ hallowed => ?_
  -- The row is where the submission left it, so the acknowledgement is written.
  obtain ⟨previous, hfind, hprevious⟩ := hallowed
  have hmovedId : acknowledged.orderLinkId = request.orderLinkId := hmovedKey.trans hsubmittedId
  obtain ⟨store₆, hok⟩ := SqliteExecutionStore.recordAcknowledgementAndSnapshot_ok
    (hackId.trans hmovedId.symm) (hmovedId ▸ hw₆.known (hw₅.known hknown₄)) hfind hprevious
    hmovedVersion
  rw [show handle a₆ (.recordAcknowledgementAndSnapshot submitted.version acknowledgement
    acknowledged) w₆ = w₆.write (w₆.store.recordAcknowledgementAndSnapshot submitted.version
    acknowledgement acknowledged) from rfl, hok]
  exact fun _ _ => .of_ok

/-- Submitting, and releasing the debt if that fails: as long as the order may be live, the debts
    are what they were. -/
theorem achieves_submitOrRelease {orderLinkId : String} {allocated : RecoveryDebtSnapshot}
    (hid : request.orderLinkId = orderLinkId) (hfresh : ¬ w.Accepted orderLinkId) :
    Achieves (fun _ w' => w'.Accepted orderLinkId → KeepsDebts w w')
      (submitOrRelease request snapshot allocated) w := by
  have hkeeps : Achieves (fun _ w' => KeepsDebts w w') (submitPersistedEntry request snapshot) w :=
    keepsDebts_submitPersistedEntry.ensures (fun h h' => h'.trans h) (fun h => h.recoveryDebts) rfl
  refine .tryCatch FillsOnly.refl
    (((achieves_submitPersistedEntry hid hfresh).and hkeeps).imp ?_)
  rintro outcome w₁ ⟨hraises, hdebts⟩
  cases outcome with
  | ok entry => exact fun w₂ hw₂ _ => hw₂.recoveryDebts.trans hdebts
  | error failure =>
    by_cases haccepted : w₁.Accepted orderLinkId
    · -- The order may be live, so the failure is the uncertain one, and goes on as it is.
      have huncertain := hraises failure rfl haccepted
      cases failure with
      | uncertainOrderOutcome operation => exact fun w₂ hw₂ _ => hw₂.recoveryDebts.trans hdebts
      | _ => exact absurd huncertain id
    · -- Nothing from here on has the exchange take an order on.
      have hnever : ∀ t : Service EntryExecutionSnapshot,
          Guarantees handle (fun w w' : World => w'.accepted = w.accepted) t →
          Achieves (fun _ w' => w'.Accepted orderLinkId → KeepsDebts w w') t w₁ := by
        intro t ht
        have hall : Achieves (fun _ w' => w'.accepted = w₁.accepted) t w₁ :=
          ht.ensures (fun h h' => h'.trans h) (fun h => h.accepted) rfl
        refine hall.imp fun _ w' hsame h => absurd ?_ haccepted
        unfold World.Accepted at h ⊢
        rwa [hsame] at h
      cases failure with
      | uncertainOrderOutcome operation => exact hnever _ trivial
      | _ =>
        refine hnever _ (.call_bind (fun _ _ => rfl) fun _ =>
          .call_bind (fun a w => ?_) fun _ => trivial)
        show (w.write _).2.accepted = w.accepted
        generalize w.store.transitionRecoveryDebtSnapshot _ _ = result
        cases result <;> rfl

/-- Everything that was confirmed is allocated, and can be allocated to nothing else. -/
def DebtAllocated (levelId : ℕ) (w w' : World) : Prop :=
  ∃ before after, w.store.loadRecoveryDebtSnapshot levelId = some before ∧
    w'.store.loadRecoveryDebtSnapshot levelId = some after ∧
    after.debt.allocatedDebt = before.debt.confirmedDebt ∧ after.debt.remainingDebt = 0 ∧
    ∀ again, allocateConfirmedDebt after.debt = .ok again → before.debt.confirmedDebt = 0

theorem allocateConfirmedDebt_unallocated {state allocated : RecoveryDebtState}
    (h : allocateConfirmedDebt state = .ok allocated) : state.allocatedDebt = 0 := by
  unfold allocateConfirmedDebt at h
  split at h
  · exact absurd h (by simp)
  · rename_i hzero
    exact not_ne_iff.mp hzero

theorem DebtAllocated.of_allocated {levelId : ℕ} {w w' : World} {before after : RecoveryDebtSnapshot}
    (hbefore : w.store.loadRecoveryDebtSnapshot levelId = some before)
    (hafter : w'.store.loadRecoveryDebtSnapshot levelId = some after)
    (h : allocateConfirmedDebt before.debt = .ok after.debt) : DebtAllocated levelId w w' := by
  obtain ⟨hallocated, hremaining, -⟩ := allocateConfirmedDebt_eq_ok h
  refine ⟨before, after, hbefore, hafter, hallocated, hremaining, fun again hagain => ?_⟩
  rw [← hallocated]
  exact allocateConfirmedDebt_unallocated hagain

theorem achieves_allocateAndSubmit {orderLinkId : String} {before : RecoveryDebtSnapshot}
    {plan : RecoveryEntryPlan} {quantity : ℚ} (hfresh : ¬ w.Accepted orderLinkId)
    (hbefore : w.store.loadRecoveryDebtSnapshot before.levelId = some before) :
    Achieves (fun _ w' => w'.Accepted orderLinkId → DebtAllocated before.levelId w w')
      (allocateAndSubmit orderLinkId before plan quantity) w := by
  have hfails : ∀ {w' w'' : World}, ¬ w'.Accepted orderLinkId → FillsOnly w' w'' →
      w''.Accepted orderLinkId → DebtAllocated before.levelId w w'' :=
    fun hnot hw h => absurd h (hw.not_accepted hnot)
  refine .lift_bind ?_
  cases hrequest : PlaceOrderRequest.create (recoveryFields quantity orderLinkId) with
  | error failure => exact fun _ hw => hfails hfresh hw
  | ok request =>
  have hid : request.orderLinkId = orderLinkId := by
    rw [PlaceOrderRequest.create_eq_ok.mp hrequest]
    rfl
  -- Persisting the entry: the exchange is not asked, whatever comes of it.
  refine .bind FillsOnly.refl ?_
  refine .call_bind fun w₁ hw₁ a _ => .lift_bind ?_
  have hfresh₁ := hw₁.not_accepted hfresh
  cases EntryExecutionSnapshot.forIntent request a.now with
  | error failure => exact fun _ hw _ hw' => hfails hfresh₁ (hw.trans hw')
  | ok entry =>
  refine .call_bind fun w₂ hw₂ a₂ _ => ?_
  have hfresh₂ := hw₂.not_accepted hfresh₁
  rw [show handle a₂ (.persistEntryIntent request entry a.now) w₂ =
    w₂.write (w₂.store.persistEntryIntent request entry a.now) from rfl]
  cases w₂.store.persistEntryIntent request entry a.now with
  | error failure => exact fun _ hw _ hw' => hfails hfresh₂ (hw.trans hw')
  | ok store₂ =>
  have hfresh₂' : ¬ World.Accepted { w₂ with store := store₂ } orderLinkId := hfresh₂
  refine fun w₃ hw₃ => .lift_bind ?_
  have hfresh₃ := hw₃.not_accepted hfresh₂'
  cases hdebt : allocateConfirmedDebt before.debt with
  | error failure => exact fun _ hw => hfails hfresh₃ hw
  | ok debt =>
  refine .call_bind fun w₄ hw₄ a₄ _ => .call_bind fun w₅ hw₅ a₅ _ => ?_
  have hfresh₅ := hw₅.not_accepted (hw₄.not_accepted hfresh₃)
  rw [show
    handle a₅ (.transitionRecoveryDebtSnapshot before.version (before.updated debt a₄.now)) w₅ =
    w₅.write (w₅.store.transitionRecoveryDebtSnapshot before.version
      (before.updated debt a₄.now)) from rfl]
  cases hwrite : w₅.store.transitionRecoveryDebtSnapshot before.version
      (before.updated debt a₄.now) with
  | error failure => exact fun _ hw => hfails hfresh₅ hw
  | ok store₅ =>
  have hafter : store₅.loadRecoveryDebtSnapshot before.levelId =
      some (before.updated debt a₄.now) := by
    rw [SqliteExecutionStore.transitionRecoveryDebtSnapshot_eq_ok hwrite]
    exact if_pos rfl
  have hfresh₅' : ¬ World.Accepted { w₅ with store := store₅ } orderLinkId := hfresh₅
  -- From here the debt is allocated, and stays so while the order may be live.
  refine .bind FillsOnly.refl ((achieves_submitOrRelease hid hfresh₅').imp ?_)
  intro outcome w₆ hdebts
  have hallocated : ∀ {w₇ : World}, FillsOnly w₆ w₇ → w₇.Accepted orderLinkId →
      DebtAllocated before.levelId w w₇ := by
    intro w₇ hw₇ h
    have hlive : w₆.Accepted orderLinkId := by
      unfold World.Accepted at h ⊢
      rwa [hw₇.accepted] at h
    have hnow : w₇.store.loadRecoveryDebtSnapshot before.levelId =
        some (before.updated debt a₄.now) := by
      show w₇.store.recoveryDebts.find before.levelId = _
      rw [hw₇.recoveryDebts, hdebts hlive]
      exact hafter
    exact .of_allocated hbefore hnow hdebt
  cases outcome with
  | error failure => exact fun w₇ hw₇ => hallocated hw₇
  | ok entrySnapshot => exact fun w₇ hw₇ => hallocated hw₇

theorem achieves_submitRecovery {planner : RecoveryPlanner} {hasEntryGate : Bool}
    {level : HedgeLevel} {orderLinkId : String} (hfresh : ¬ w.Accepted orderLinkId) :
    Achieves (fun _ w' => w'.Accepted orderLinkId → DebtAllocated level.levelId w w')
      (submitRecovery planner hasEntryGate level orderLinkId) w := by
  have hfails : ∀ {w' w'' : World}, ¬ w'.Accepted orderLinkId → FillsOnly w' w'' →
      w''.Accepted orderLinkId → DebtAllocated level.levelId w w'' :=
    fun hnot hw h => absurd h (hw.not_accepted hnot)
  refine .call_bind fun w₁ hw₁ _ _ => ?_
  have hfresh₁ := hw₁.not_accepted hfresh
  cases hloaded : w₁.store.loadRecoveryDebtSnapshot level.levelId with
  | none =>
    rw [show handle _ (.loadRecoveryDebtSnapshot level.levelId) w₁ =
      (.ok (w₁.store.loadRecoveryDebtSnapshot level.levelId), w₁) from rfl, hloaded]
    exact fun _ hw => hfails hfresh₁ hw
  | some before =>
  rw [show handle _ (.loadRecoveryDebtSnapshot level.levelId) w₁ =
    (.ok (w₁.store.loadRecoveryDebtSnapshot level.levelId), w₁) from rfl, hloaded]
  obtain hlevel : before.levelId = level.levelId := (KeyedTable.find_eq_some.mp hloaded).2
  refine .lift_bind ?_
  cases planner level before.debt with
  | error failure => exact fun _ hw => hfails hfresh₁ hw
  | ok planned =>
  -- Asking the gate changes nothing, so whatever plan comes of it meets the same store.
  have hgate : Achieves (fun _ w' => FillsOnly w₁ w') (applyEntryGate hasEntryGate planned) w₁ := by
    refine Guarantees.ensures (fun h h' => h.trans h') (fun h => h) ?_ (.refl w₁)
    unfold applyEntryGate
    split
    · refine .call_bind (fun _ w => .refl w) fun allowed => ?_
      cases allowed <;> exact trivial
    · exact trivial
  refine .bind FillsOnly.refl (hgate.imp ?_)
  intro outcome w₂ hw₂
  have hfresh₂ := hw₂.not_accepted hfresh₁
  cases outcome with
  | error failure => exact fun _ hw => hfails hfresh₂ hw
  | ok plan =>
  dsimp only
  split
  · rename_i quantity _ _
    have hdebts : w₂.store.recoveryDebts = w.store.recoveryDebts :=
      hw₂.recoveryDebts.trans hw₁.recoveryDebts
    have hsame : ∀ levelId, w₂.store.loadRecoveryDebtSnapshot levelId =
        w.store.loadRecoveryDebtSnapshot levelId := fun levelId => by
      unfold SqliteExecutionStore.loadRecoveryDebtSnapshot
      rw [hdebts]
    have hbefore : w₂.store.loadRecoveryDebtSnapshot before.levelId = some before := by
      rw [hlevel, ← hloaded]
      unfold SqliteExecutionStore.loadRecoveryDebtSnapshot
      rw [hw₂.recoveryDebts]
    refine (achieves_allocateAndSubmit hfresh₂ hbefore).imp fun _ w' h hlive => ?_
    obtain ⟨before', after, hbefore', hrest⟩ := h hlive
    rw [hlevel, hsame] at hbefore'
    rw [hlevel] at hrest
    exact ⟨before', after, hbefore', hrest⟩
  · exact fun _ hw => hfails hfresh₂ hw

end Submission

/-! ## Runs -/

/-- A submission about to run, and nothing beside it yet. -/
def submission (planner : RecoveryPlanner) (hasEntryGate : Bool) (level : HedgeLevel)
    (orderLinkId : String) (w : World) :
    EventLoop Failure Call Call.Result World RecoverySubmission EntryExecutionSnapshot where
  main := submitRecovery planner hasEntryGate level orderLinkId
  others := []
  world := w

/-- **Debt stays with its hedge.** However the submission and the recording of its order's fills
    interleave, if every call is answered in order, a recovery order that was taken on has its
    debt allocated when the submission returns or raises. -/
theorem debt_allocated_while_live {planner : RecoveryPlanner} {hasEntryGate : Bool}
    {level : HedgeLevel} {orderLinkId : String} {w : World}
    {moves : List (EventLoop.Move Failure Call Call.Result Answers EntryExecutionSnapshot)}
    {outcome : Except Failure RecoverySubmission} (hfresh : ¬ w.Accepted orderLinkId)
    (hadmits : (submission planner hasEntryGate level orderLinkId w).Admits handle
      AnsweredInOrder (FillOf orderLinkId) moves)
    (hdone : ((submission planner hasEntryGate level orderLinkId w).run handle moves).main =
      .done outcome)
    (hlive : ((submission planner hasEntryGate level orderLinkId w).run handle
      moves).world.Accepted orderLinkId) :
    DebtAllocated level.levelId w
      ((submission planner hasEntryGate level orderLinkId w).run handle moves).world := by
  have hstream : ∀ {w : World} {t : Service EntryExecutionSnapshot}, FillOf orderLinkId w t →
      Guarantees handle FillsOnly t := by
    rintro w t ⟨-, execution, receivedAt, payloadHash, -, rfl⟩
    exact guarantees_applyExecution execution receivedAt payloadHash
  have hnone : ∀ t ∈ (submission planner hasEntryGate level orderLinkId w).others,
      Guarantees handle FillsOnly t := fun t ht => absurd ht (by simp [submission])
  exact EventLoop.ensures_run FillsOnly.refl FillsOnly.trans hstream
    (achieves_submitRecovery hfresh) hnone hadmits hdone hlive

/-! ## One level of five units of debt -/

instance (failure : Failure) : Decidable failure.IsUncertain :=
  match failure with
  | .uncertainOrderOutcome _ => isTrue trivial
  | .valueError _ | .runtimeError _ | .assertionError _ | .indexError | .outOfFuel
  | .integrityError | .invalidOperation | .overflowError | .typeError _ | .keyError _
  | .concurrentSnapshotUpdate _ | .protectionNotConfirmed _ | .timeoutError _
  | .optionSpreadNotOpened _ | .demoMutationRefused _ | .exchangeError _ => isFalse id

instance (a : Answers) (request : PlaceOrderRequest) : Decidable (ReportsPlacement a request) :=
  match h : a.placed with
  | .error failure =>
    decidable_of_iff (a.accepts = true → failure.IsUncertain) (by simp [ReportsPlacement, h])
  | .ok acknowledgement =>
    decidable_of_iff
      (acknowledgement.orderLinkId = request.orderLinkId ∧ ¬ isBlank acknowledgement.orderId)
      (by simp [ReportsPlacement, h])

instance (a : Answers) (orderLinkId : String) (w : World) :
    Decidable (ReportsLookup a orderLinkId w) :=
  match h : a.found with
  | .error failure =>
    decidable_of_iff (w.Accepted orderLinkId → failure.IsUncertain) (by simp [ReportsLookup, h])
  | .ok none => isTrue (by simp [ReportsLookup, h])
  | .ok (some order) =>
    decidable_of_iff (order.orderLinkId = orderLinkId ∧ ¬ isBlank order.orderId)
      (by simp [ReportsLookup, h])

instance (w : World) (orderLinkId : String) (version : ℕ) :
    Decidable (AtVersion w orderLinkId version) :=
  decidable_of_iff ((w.store.loadEntrySnapshot orderLinkId).any fun s => s.version = version)
    (by simp [AtVersion, Option.any_eq_true])

instance (a : Answers) (call : Call) (w : World) : Decidable (AnsweredInOrder a call w) := by
  apply Call.casesOn (motive := fun call => Decidable (AnsweredInOrder a call w)) call
  all_goals
    intros
    unfold AnsweredInOrder
    infer_instance

/-- A stopped level. -/
def stoppedLevel : HedgeLevel where
  levelId := 1
  entryPrice := 2000
  tpPrice := 1990
  stopPrice := 2010
  optionBudget := 5

def stopDebt5 : RecoveryDebtSnapshot where
  levelId := 1
  debt :=
    { projectedDebt := 0
      confirmedDebt := 5
      allocatedDebt := 0
      remainingDebt := 5
      projectedDebt_nonneg := by decide +kernel
      confirmedDebt_nonneg := by decide +kernel
      allocatedDebt_nonneg := by decide +kernel
      remainingDebt_nonneg := by decide +kernel
      balanced := by decide +kernel }
  version := 1
  updatedAt := 0
  levelId_pos := Nat.one_pos
  version_pos := Nat.one_pos

/-- The world before the recovery: the debt, and nothing else. -/
def beforeRecovery : World where
  accepted := []
  store :=
    { orderIntents := .empty
      entrySnapshots := .empty
      executions := .empty
      protectionSnapshots := .empty
      recoveryDebts := ⟨[stopDebt5], by decide⟩
      constraints := by decide +kernel }

/-- The plan for five units of budget and five of debt, ten below the entry. -/
def unitPlan : RecoveryPlanner := fun _ debt => .ok
  { approved := true
    rawDesiredQuantity := 1
    entryPrice := 2000
    quantity := some 1
    expectedTakeProfit := 10
    allocatedDebt := debt.confirmedDebt
    reasons := []
    lockedAction := none }

def recoveryId : String := "ECH-A-C0001-L01-ENTRY-A02-0000"

/-- The exchange takes the order and says so. -/
def acknowledges : Answers where
  placed := .ok
    { requestKind := .place, orderId := "recovery-1", orderLinkId := recoveryId
      acknowledgedAt := 0 }

/-- The recovery order filled at once. -/
def recoveryFill : ExecutionUpdate where
  toExecutionFields :=
    { executionId := "fill-1"
      orderId := "recovery-1"
      orderLinkId := recoveryId
      symbol := "ETHUSDT"
      side := .sell
      price := 2000
      quantity := 1
      fee := 1 / 10
      isMaker := some false
      executedAt := 1 }
  checked := by decide +kernel

def recoveryHash : PayloadHash where
  text := String.ofList (List.replicate 64 'a')
  isDigest := by decide +kernel

abbrev RecoveryMove := EventLoop.Move Failure Call Call.Result Answers EntryExecutionSnapshot

/-- The submission goes on for this many calls. -/
def goOn (n : ℕ) : List RecoveryMove := List.replicate n (.main acknowledges)

/-- The fill is recorded, from beginning to end. -/
def recordFill : List RecoveryMove :=
  .start (applyExecution recoveryFill 1 recoveryHash) :: List.replicate 3 (.other 0 {})

def recoverOnce :
    EventLoop Failure Call Call.Result World RecoverySubmission EntryExecutionSnapshot :=
  submission unitPlan false stoppedLevel recoveryId beforeRecovery

/-- A run cut in two at the recording of the fill admits its calls if both parts do. -/
theorem admits_recordFill {allowed : Answers → Call → World → Prop}
    [∀ a call w, Decidable (allowed a call w)] {n m : ℕ}
    (hfirst : recoverOnce.Admits handle allowed (fun _ _ => False) (goOn n))
    (hlive : (recoverOnce.run handle (goOn n)).world.Accepted recoveryId)
    (hrest : ((recoverOnce.run handle (goOn n)).move handle
      (.start (applyExecution recoveryFill 1 recoveryHash))).Admits handle allowed
        (fun _ _ => False) (List.replicate 3 (.other 0 {}) ++ goOn m)) :
    recoverOnce.Admits handle allowed (FillOf recoveryId) (goOn n ++ (recordFill ++ goOn m)) :=
  (hfirst.imp fun _ _ => False.elim).append
    ⟨⟨hlive, recoveryFill, 1, recoveryHash, rfl, rfl⟩, hrest.imp fun _ _ => False.elim⟩

/-- The acknowledgement first, then the fill: the debt is allocated. -/
theorem debt_allocated_while_live_ackFirst :
    DebtAllocated 1 beforeRecovery
      (recoverOnce.run handle (goOn 11 ++ (recordFill ++ goOn 0))).world := by
  obtain ⟨outcome, hdone⟩ : ∃ outcome,
      (recoverOnce.run handle (goOn 11 ++ (recordFill ++ goOn 0))).main = .done outcome := by
    have hended : (recoverOnce.run handle (goOn 11 ++ (recordFill ++ goOn 0))).main.outcome?.isSome =
        true := by decide +kernel
    obtain ⟨outcome, houtcome⟩ := Option.isSome_iff_exists.mp hended
    exact ⟨outcome, outcome?_eq_some.mp houtcome⟩
  exact debt_allocated_while_live (by decide)
    (admits_recordFill (by decide +kernel) (by decide +kernel) (by decide +kernel)) hdone
    (by decide +kernel)

/-- **Released while live.** The fill first: the acknowledgement finds the row moved on, the
    conflict reaches `except Exception`, and the debt of a filled hedge is free again. -/
theorem released_while_live :
    ∃ moves failure, recoverOnce.Admits handle (fun _ _ _ => True) (FillOf recoveryId) moves ∧
      (recoverOnce.run handle moves).main = .done (.error failure) ∧
      (recoverOnce.run handle moves).world.Accepted recoveryId ∧
      ¬ DebtAllocated 1 beforeRecovery (recoverOnce.run handle moves).world := by
  refine ⟨goOn 9 ++ (recordFill ++ goOn 4), .concurrentSnapshotUpdate
      "entry snapshot version changed before transaction commit",
    admits_recordFill (by decide +kernel) (by decide +kernel) (by decide +kernel),
    raised?_eq_some.mp (by decide +kernel), by decide +kernel, ?_⟩
  rintro ⟨before, after, hbefore, hafter, hallocated, -, -⟩
  have hconfirmed : (beforeRecovery.store.loadRecoveryDebtSnapshot 1).map
      (fun d => d.debt.confirmedDebt) = some 5 := by decide +kernel
  have hreleased : ((recoverOnce.run handle (goOn 9 ++ (recordFill ++ goOn 4))).world.store
      |>.loadRecoveryDebtSnapshot 1).map (fun d => d.debt.allocatedDebt) = some 0 := by
    decide +kernel
  rw [hbefore] at hconfirmed
  rw [hafter] at hreleased
  have h₅ : before.debt.confirmedDebt = 5 := Option.some.inj hconfirmed
  have h₀ : after.debt.allocatedDebt = 0 := Option.some.inj hreleased
  rw [h₅, h₀] at hallocated
  exact absurd hallocated (by norm_num)

end CreditHedge
