import CreditHedge.Application.EntryFills
import CreditHedge.Application.StartupOrders

/-!
# Entries whose submission was never resolved

A submission may end anywhere: the process may stop at any of its awaits, and `place_order` may
raise without saying whether the exchange has the order. What is left is the entry's row, and the
startup comparison has to make out from the row alone that an order may be under way.

It does so for the three states of an entry under way: an order that is shown neither open nor in
the history is then a difference. The fourth state is missing from that check. When the outcome of
`place_order` is uncertain and the lookup finds nothing, the row becomes `RECONCILING`; nothing
asks for the order of a `RECONCILING` entry, and if nothing was filled nothing else notices it
(`clears_reconciling`). The lookup that finds nothing is the only way there
(`unresolved_entry_blocks_restart`): wherever else a submission is interrupted, and whatever fills
are recorded meanwhile, trading is not allowed before the order is seen.
-/

set_option autoImplicit false

namespace CreditHedge

open Coroutine OneLevelEntryService

/-- What a restart loads of the store: `LocalExecutionRecoveryState(…)` in `reconcile`. -/
def SqliteExecutionStore.recoveryState (store : SqliteExecutionStore)
    (expectedOptionPositions : List ExpectedPosition) : LocalExecutionRecoveryState where
  orderIntents := store.orderIntents.mapRows OrderIntentRow.request fun _ => rfl
  entrySnapshots := store.entrySnapshots
  protectionSnapshots := store.protectionSnapshots
  expectedOptionPositions
  executions := store.executions.mapRows ExecutionRow.execution fun _ => rfl

/-- The states of an entry whose submission is not resolved. -/
def unresolvedStates : List LiveExecutionState :=
  [.entrySubmitted, .entryAcknowledged, .entryPartiallyFilled, .reconciling]

/-! ## Calls that do not suspend an entry -/

/-- The entry's row is not suspended by what happens between these worlds. -/
def StaysUnsuspended (orderLinkId : String) (w w' : World) : Prop :=
  (∀ entry ∈ w.store.loadEntrySnapshot orderLinkId, entry.state ≠ .reconciling) →
    ∀ entry ∈ w'.store.loadEntrySnapshot orderLinkId, entry.state ≠ .reconciling

/-- The calls of a submission and of a recording, but for a write of `RECONCILING`. -/
def Unsuspending : Call → Prop
  | .transitionEntrySnapshot _ snapshot => snapshot.state ≠ .reconciling
  | .recordAcknowledgementAndSnapshot _ _ snapshot => snapshot.state ≠ .reconciling
  | .recordExecutionAndSnapshot _ _ _ _ snapshot => snapshot.state ≠ .reconciling
  | .clock | .loadOrderIntent _ | .loadEntrySnapshot _ | .hasExecution _ | .placeOrder _
  | .getOrderByLinkId .. => True
  | _ => False

section Calls

variable {orderLinkId : String} {w : World}

theorem StaysUnsuspended.refl (w : World) : StaysUnsuspended orderLinkId w w := id

theorem StaysUnsuspended.trans {w w' w'' : World} (h : StaysUnsuspended orderLinkId w w')
    (h' : StaysUnsuspended orderLinkId w' w'') : StaysUnsuspended orderLinkId w w'' :=
  fun hw => h' (h hw)

theorem staysUnsuspended_of_store_eq {w' : World} (h : w'.store = w.store) :
    StaysUnsuspended orderLinkId w w' := by
  intro hw
  rw [h]
  exact hw

theorem staysUnsuspended_of_writes {store' : SqliteExecutionStore} {previousVersion : ℕ}
    {snapshot : EntryExecutionSnapshot} {new : List ExecutionRow}
    (hstate : snapshot.state ≠ .reconciling)
    (h : SqliteExecutionStore.WritesEntry w.store.toTables store'.toTables previousVersion snapshot
      new) : StaysUnsuspended orderLinkId w { w with store := store' } := by
  intro hw entry hentry
  have hfind := KeyedTable.find_swap h.swap orderLinkId
  rw [Option.mem_def, SqliteExecutionStore.loadEntrySnapshot, hfind] at hentry
  split at hentry
  · obtain rfl := Option.some.inj hentry
    exact hstate
  · exact hw entry hentry

theorem staysUnsuspended_write {result : Except Failure SqliteExecutionStore}
    (h : ∀ store', result = .ok store' →
      StaysUnsuspended orderLinkId w { w with store := store' }) :
    StaysUnsuspended orderLinkId w (w.write result).2 := by
  cases result with
  | ok store' => exact h store' rfl
  | error failure => exact .refl w

/-- **A call that does not write `RECONCILING`** leaves no entry suspended that was not. -/
theorem Unsuspending.stays {call : Call} (h : Unsuspending call) (a : Answers) (w : World) :
    StaysUnsuspended orderLinkId w (handle a call w).2 := by
  cases call with
  | transitionEntrySnapshot previousVersion snapshot =>
    exact staysUnsuspended_write fun store' hstore =>
      staysUnsuspended_of_writes h (SqliteExecutionStore.writesEntry_of_transition hstore)
  | recordAcknowledgementAndSnapshot previousVersion acknowledgement snapshot =>
    exact staysUnsuspended_write fun store' hstore =>
      staysUnsuspended_of_writes h (SqliteExecutionStore.writesEntry_of_acknowledgement hstore)
  | recordExecutionAndSnapshot previousVersion execution receivedAt payloadHash snapshot =>
    have hanswer : handle a
        (.recordExecutionAndSnapshot previousVersion execution receivedAt payloadHash snapshot) w =
        w.writeWith (w.store.recordExecutionAndSnapshot previousVersion execution receivedAt
          payloadHash snapshot) := rfl
    rw [hanswer]
    cases hresult : w.store.recordExecutionAndSnapshot previousVersion execution receivedAt
        payloadHash snapshot with
    | error failure => exact .refl w
    | ok recorded =>
      obtain ⟨inserted, store'⟩ := recorded
      rcases SqliteExecutionStore.writesEntry_of_record hresult with ⟨-, rfl⟩ | ⟨-, hwrites⟩
      · exact .refl w
      · exact staysUnsuspended_of_writes h hwrites
  | placeOrder request =>
    refine staysUnsuspended_of_store_eq ?_
    show (if a.takes then w.accept _ else w).store = _
    split <;> rfl
  | getOrderByLinkId category symbol id =>
    refine staysUnsuspended_of_store_eq ?_
    show (if a.shows then w.accept _ else w).store = _
    split <;> rfl
  | clock => exact .refl w
  | loadOrderIntent id => exact .refl w
  | loadEntrySnapshot id => exact .refl w
  | hasExecution id => exact .refl w
  | _ => exact absurd h id

end Calls

/-! ## The tasks -/

section Tasks

variable {orderLinkId : String} {α : Type} {w : World}

/-- The lookup of an order finds it, or fails itself. -/
def NeverAbsent (a : Answers) : Call → World → Prop
  | .getOrderByLinkId .., _ => a.found ≠ .ok none
  | _, _ => True

instance (a : Answers) : (call : Call) → (w : World) → Decidable (NeverAbsent a call w)
  | .getOrderByLinkId .., _ => inferInstanceAs (Decidable (a.found ≠ .ok none))
  | .clock, _ | .entriesAllowed, _ | .loadOrderIntent _, _ | .recordAcknowledgement _, _
  | .persistEntryIntent .., _ | .loadEntrySnapshot _, _ | .loadAllEntrySnapshots, _
  | .transitionEntrySnapshot .., _ | .recordAcknowledgementAndSnapshot .., _
  | .hasExecution _, _ | .recordExecutionAndSnapshot .., _ | .persistProtectionIntent .., _
  | .persistTakeProfitIntent .., _ | .persistReplacementStopIntent .., _
  | .loadProtectionSnapshot _, _ | .loadProtectionSnapshotByExitId _, _
  | .loadAllProtectionSnapshots, _ | .transitionProtectionSnapshot .., _
  | .recordExitExecutionAndSnapshot .., _ | .loadRecoveryDebtSnapshot _, _
  | .transitionRecoveryDebtSnapshot .., _ | .placeOrder _, _ | .getOpenOrders .., _
  | .cancelOrder _, _ | .getPositions .., _ => isTrue trivial

/-- Among others that do not suspend the entry, the task does not, as long as lookups find. -/
abbrev UpholdUnsuspended (orderLinkId : String) (t : Service α) (w : World) : Prop :=
  Upholds handle (StaysUnsuspended orderLinkId) NeverAbsent (fun _ _ => True) t w

theorem upholds_of_calls {t : Service α} (h : t.Calls Unsuspending) (w : World) :
    UpholdUnsuspended orderLinkId t w :=
  (h.guarantees fun _ hcall => hcall.stays).upholds w

theorem upholds_then {β : Type} {t : Service α} {f : α → Service β}
    (ht : UpholdUnsuspended orderLinkId t w)
    (hf : ∀ a w', UpholdUnsuspended orderLinkId (f a) w') :
    UpholdUnsuspended orderLinkId (t >>= f) w := by
  refine .bind .refl (ht.imp ?_)
  intro outcome w' _
  cases outcome with
  | ok a => exact hf a w'
  | error failure => exact fun _ _ => trivial

theorem unsuspending_requiredSnapshot (id : String) :
    (requiredSnapshot id).Calls Unsuspending := by
  refine .call_bind trivial fun found => ?_
  cases found with
  | none => exact .throw _
  | some snapshot => exact .pure snapshot

theorem unsuspending_applyExecution (e : ExecutionUpdate) (receivedAt : Time)
    (payloadHash : PayloadHash) :
    (applyExecution e receivedAt payloadHash).Calls Unsuspending := by
  refine (unsuspending_requiredSnapshot _).bind fun snapshot => .call_bind trivial fun known => ?_
  split
  · exact .pure snapshot
  · refine .lift_bind fun updated hupdated => .call_bind ?_ fun inserted => ?_
    · simp only [applyEntryExecution, bind_unit_eq_ok, EntryExecutionSnapshot.create_eq_ok]
        at hupdated
      obtain ⟨-, -, -, -, hfields⟩ := hupdated
      show updated.toEntryFields.state ≠ .reconciling
      rw [hfields]
      dsimp only
      split <;> decide
    · split
      · exact .pure updated
      · exact unsuspending_requiredSnapshot _

theorem unsuspending_finalizePartialFill (id : String) :
    (finalizePartialFill id).Calls Unsuspending := by
  refine (unsuspending_requiredSnapshot _).bind fun snapshot => .call_bind trivial fun now => ?_
  refine .lift_bind fun finalized hfinalized => .call_bind ?_ fun _ => .pure finalized
  simp only [finalizePartialEntry, bind_unit_eq_ok, EntryExecutionSnapshot.create_eq_ok]
    at hfinalized
  obtain ⟨-, hfields⟩ := hfinalized
  show finalized.toEntryFields.state ≠ .reconciling
  rw [hfields]
  simp

theorem unsuspending_raiseWithState (submitted : EntryExecutionSnapshot)
    {state : LiveExecutionState} (hstate : state ≠ .reconciling) (failure : Failure) :
    (raiseWithState submitted state failure : Service α).Calls Unsuspending := by
  refine .call_bind trivial fun now => .lift_bind fun moved hmoved => .call_bind ?_ fun _ =>
    .throw failure
  show moved.state ≠ .reconciling
  rw [(transitionEntrySnapshot_eq_ok hmoved).2.2.1]
  exact hstate

/-- **The lookup is where it is decided.** -/
theorem upholds_placeEntryFound (request : PlaceOrderRequest)
    (submitted : EntryExecutionSnapshot) (w : World) :
    UpholdUnsuspended orderLinkId (placeEntry request submitted) w := by
  have hplaced : UpholdUnsuspended orderLinkId (awaitCall (.placeOrder request)) w := by
    refine upholds_of_calls (.perform ?_) w
    exact trivial
  refine .tryCatch .refl (hplaced.imp ?_)
  intro outcome w₁ _
  cases outcome with
  | ok acknowledgement => exact fun _ _ => trivial
  | error failure =>
    cases failure with
    | uncertainOrderOutcome operation =>
      have hlookup : Unsuspending
          (.getOrderByLinkId request.category request.symbol request.orderLinkId) := trivial
      refine .call_bind fun w₂ _ a hfound =>
        ⟨hlookup.stays a w₂, fun found hok => ?_, fun _ _ _ _ => trivial⟩
      cases found with
      | none => exact absurd hok hfound
      | some discovered =>
        refine upholds_of_calls (.call_bind ?_ fun now => .lift _) _
        exact trivial
    | _ => exact upholds_of_calls (unsuspending_raiseWithState submitted (by decide) _) _

theorem upholds_submission (request : PlaceOrderRequest) (snapshot : EntryExecutionSnapshot)
    (w : World) : UpholdUnsuspended orderLinkId (submitPersistedEntry request snapshot) w := by
  have hcall : ∀ call : Call, Unsuspending call → ∀ w,
      UpholdUnsuspended orderLinkId (awaitCall call) w :=
    fun _ h w => upholds_of_calls (.perform h) w
  have hlift : ∀ {β : Type} (x : Except Failure β) w,
      UpholdUnsuspended orderLinkId (liftM x : Service β) w :=
    fun x w => upholds_of_calls (.lift x) w
  refine upholds_then (hlift _ w) fun _ w => upholds_then (hlift _ w) fun _ w => ?_
  refine upholds_then (hcall (.loadOrderIntent request.orderLinkId) trivial w) fun _ w => ?_
  refine upholds_then (hlift _ w) fun _ w => ?_
  refine upholds_then (hcall .clock trivial w) fun updatedAt w => .lift_bind ?_
  cases hsubmitted : transitionEntrySnapshot snapshot .entrySubmitted updatedAt with
  | error failure => exact fun _ _ => trivial
  | ok submitted =>
    have hwrite : Unsuspending (.transitionEntrySnapshot snapshot.version submitted) := by
      show submitted.state ≠ .reconciling
      rw [(transitionEntrySnapshot_eq_ok hsubmitted).2.2.1]
      decide
    refine upholds_then (hcall _ hwrite w) fun _ w => ?_
    refine upholds_then (upholds_placeEntryFound request submitted w) fun acknowledgement w => ?_
    refine upholds_then (hcall .clock trivial w) fun now w => .lift_bind ?_
    cases hack : transitionEntrySnapshot submitted .entryAcknowledged now
        (some acknowledgement.orderId) with
    | error failure => exact fun _ _ => trivial
    | ok acknowledged =>
      have hwrite' : Unsuspending (.recordAcknowledgementAndSnapshot submitted.version
          acknowledgement acknowledged) := by
        show acknowledged.state ≠ .reconciling
        rw [(transitionEntrySnapshot_eq_ok hack).2.2.1]
        decide
      exact upholds_then (hcall _ hwrite' w) fun _ w => upholds_of_calls (.pure acknowledged) w

end Tasks

/-! ## Runs and restarts -/

/-- The tasks that record the fills of entries, beside a submission. -/
inductive FillTask : Service Unit → Prop
  | applyExecution (e : ExecutionUpdate) (receivedAt : Time) (payloadHash : PayloadHash) :
      FillTask (forEffect (applyExecution e receivedAt payloadHash))
  | finalizePartialFill (id : String) : FillTask (forEffect (finalizePartialFill id))

theorem FillTask.upholds {orderLinkId : String} {t : Service Unit} (h : FillTask t) (w : World) :
    UpholdUnsuspended orderLinkId t w := by
  refine upholds_of_calls ?_ w
  cases h with
  | applyExecution e receivedAt payloadHash =>
    exact (unsuspending_applyExecution e receivedAt payloadHash).bind fun _ => .pure ()
  | finalizePartialFill id => exact (unsuspending_finalizePartialFill id).bind fun _ => .pure ()

/-- A submission of an entry that is about to begin. -/
def entrySubmission (request : PlaceOrderRequest) (snapshot : EntryExecutionSnapshot) (w : World) :
    EntryLoop where
  main := submitPersistedEntry request snapshot
  others := []
  world := w

/-- The snapshot shows the order neither as open nor in the history. -/
def Hidden (exchange : PrivateAccountSnapshot) (orderLinkId : String) : Prop :=
  orderOf exchange.openOrders orderLinkId = none ∧
    orderOf exchange.recentOrders orderLinkId = none

instance (exchange : PrivateAccountSnapshot) (orderLinkId : String) :
    Decidable (Hidden exchange orderLinkId) :=
  inferInstanceAs (Decidable (_ ∧ _))

/-- The comparison asks for the order of an entry under way. -/
theorem Cleared.not_hidden {localState : LocalExecutionRecoveryState}
    {exchange : PrivateAccountSnapshot} (h : Cleared localState exchange)
    {entry : EntryExecutionSnapshot} (hentry : entry ∈ localState.entrySnapshots.rows)
    (hstate : entry.state ∈ unresolvedStates) (hne : entry.state ≠ .reconciling) :
    ¬ Hidden exchange entry.orderLinkId := by
  intro hhidden
  have hunderWay : entry.state ∈
      [LiveExecutionState.entrySubmitted, .entryAcknowledged, .entryPartiallyFilled] := by
    simp only [unresolvedStates, List.mem_cons, List.not_mem_nil, or_false] at hstate ⊢
    rcases hstate with h | h | h | h
    · exact .inl h
    · exact .inr (.inl h)
    · exact .inr (.inr h)
    · exact absurd h hne
  have hvisible := h.entries entry hentry hunderWay
  rw [hhidden.1, hhidden.2] at hvisible
  simp at hvisible

/-- **A submission that was not resolved blocks the restart**, at whichever await it was
interrupted and whatever the exchange answered, fills recorded beside it included, as long as no
lookup of the order was answered that there is none. -/
theorem unresolved_entry_blocks_restart {request : PlaceOrderRequest}
    {snapshot : EntryExecutionSnapshot} {w₀ : World}
    (hrow : w₀.store.loadEntrySnapshot request.orderLinkId = some snapshot)
    (hready : snapshot.state = .entryRequestPersisted) {moves : List EntryMove}
    (hallows : (entrySubmission request snapshot w₀).Allows handle NeverAbsent
      (fun _ t => FillTask t) moves) {entry : EntryExecutionSnapshot}
    (hentry : ((entrySubmission request snapshot w₀).run handle moves).world.store.loadEntrySnapshot
      request.orderLinkId = some entry)
    (hstate : entry.state ∈ unresolvedStates) (strategyInstance : String) (cycleNumber : ℕ)
    (expected : List ExpectedPosition) {exchange : PrivateAccountSnapshot}
    (hhidden : Hidden exchange request.orderLinkId) {report : ReconciliationReport}
    (hreport : evaluateStartupReconciliation strategyInstance cycleNumber
      (((entrySubmission request snapshot w₀).run handle moves).world.store.recoveryState expected)
      exchange = .ok report) :
    report.tradingAllowed = false := by
  have hupheld : (entrySubmission request snapshot w₀).Upheld handle
      (StaysUnsuspended request.orderLinkId) NeverAbsent (fun _ _ => True) fun _ _ => True :=
    ⟨upholds_submission request snapshot w₀, fun t ht => absurd ht (by simp [entrySubmission])⟩
  obtain ⟨hstays, -⟩ := EventLoop.upholds_run .refl (fun h h' => h.trans h')
    (fun w t _ ht => ht.upholds w) (.refl w₀) hupheld hallows
  have hstart : ∀ entry ∈ w₀.store.loadEntrySnapshot request.orderLinkId,
      entry.state ≠ .reconciling := by
    intro entry' hentry'
    obtain rfl : snapshot = entry' := Option.some.inj (hrow.symm.trans hentry')
    rw [hready]
    decide
  have hne := hstays hstart entry hentry
  obtain ⟨hmem, hid⟩ := KeyedTable.find_eq_some.mp hentry
  by_contra hallowed
  have hcleared := (tradingAllowed_iff hreport).mp (Bool.eq_true_of_not_eq_false hallowed)
  exact hcleared.not_hidden hmem hstate hne (hid ▸ hhidden)

/-! ## One submission, interrupted and uncertain -/

/-- The row of the entry, as its intent was persisted. -/
def readyEntry : EntryExecutionSnapshot where
  orderLinkId := halvesId
  state := .entryRequestPersisted
  targetQuantity := 1
  entryOrderId := none
  filledQuantity := 0
  entryNotional := 0
  entryFees := 0
  version := 1
  updatedAt := 0
  checked := by decide +kernel

def entryReady : World where
  store :=
    { SqliteExecutionStore.empty with
      orderIntents :=
        ⟨[{ request := halvesRequest, persistedAt := 0, exchangeOrderId := none
            acknowledgedAt := none }], by decide +kernel⟩
      entrySnapshots := ⟨[readyEntry], by decide +kernel⟩
      constraints := by decide +kernel }
  accepted := []

def nothingShown : PrivateAccountSnapshot where
  openOrders := []
  recentOrders := []
  executions := []
  positions := []

/-- The process stops while `place_order` is awaited. -/
theorem unresolved_entry_blocks_restart_interrupted :
    ∃ report, evaluateStartupReconciliation "A" 1
        (((entrySubmission halvesRequest readyEntry entryReady).run handle
          [.main {}, .main {}, .main {}]).world.store.recoveryState []) nothingShown = .ok report ∧
      report.tradingAllowed = false := by
  obtain ⟨report, hreport⟩ := exists_report "A" 1
    (((entrySubmission halvesRequest readyEntry entryReady).run handle
      [.main {}, .main {}, .main {}]).world.store.recoveryState []) nothingShown
  have hmoves : (entrySubmission halvesRequest readyEntry entryReady).Allows handle NeverAbsent
      (fun _ _ => False) [.main {}, .main {}, .main {}] := by decide +kernel
  have hsubmitted : (((entrySubmission halvesRequest readyEntry entryReady).run handle
      [.main {}, .main {}, .main {}]).world.store.loadEntrySnapshot halvesId).any
        (fun entry => entry.state ∈ unresolvedStates) = true := by decide +kernel
  obtain ⟨entry, hentry, hstate⟩ := (Option.any_eq_true ..).mp hsubmitted
  exact ⟨report, hreport, unresolved_entry_blocks_restart (by decide +kernel) rfl
    (hmoves.imp (fun _ _ _ h => h) fun _ _ h => h.elim) hentry (decide_eq_true_eq.mp hstate) "A" 1
    [] (by decide +kernel) hreport⟩

/-- The exchange takes the order on, and shows it only later. -/
def takesSilently : Answers where
  accepts := true
  placed := .error (.uncertainOrderOutcome "place_order")

theorem clears_reconciling :
    let final := (entrySubmission halvesRequest readyEntry entryReady).run handle
      [.main {}, .main {}, .main {}, .main takesSilently, .main { found := .ok none }, .main {},
        .main {}]
    final.main.raised? = some (.uncertainOrderOutcome "place_order") ∧
      final.world.Accepted halvesId ∧
      (final.world.store.loadEntrySnapshot halvesId).map (fun entry => entry.state) =
        some .reconciling ∧
      Hidden nothingShown halvesId ∧
      evaluateStartupReconciliation "A" 1 (final.world.store.recoveryState []) nothingShown =
        .ok clearedReport ∧ clearedReport.tradingAllowed = true := by
  decide +kernel

end CreditHedge
