import CreditHedge.Application.ExitCapacity
import CreditHedge.Application.KillSwitch

/-!
# The fills of an emergency close

`EmergencyFlattenService.record_fill` of `application/emergency_flatten.py`. The fill of a close is
written without a snapshot, and the service takes an execution for such a fill by the shape of its
order: a reduce-only market buy of ETHUSDT.

The stop of a level has that shape too. The executions of all orders are one table, in which
`ProtectiveExitService.apply_exit_execution` looks whether it has seen a fill before, so a stop
fill that was recorded here is not applied to the stop's protection any more. `onlyCloses_iff` is
the exact account: over the intents that the strategy persists, the recorder keeps to emergency
closes unless it is given the fill of a stop.
-/

set_option autoImplicit false

namespace CreditHedge

/-- The calls of the recorder: the ports', and the insert of an execution alone. -/
inductive FillCall where
  | port (call : Call)
  | recordExecution (execution : ExecutionUpdate) (receivedAt : Time) (payloadHash : PayloadHash)

abbrev FillCall.Result : FillCall → Type
  | .port call => call.Result
  | .recordExecution .. => Bool

abbrev FillMethod := Coroutine Failure FillCall FillCall.Result

def FillCall.handle (a : Answers) :
    (call : FillCall) → World → Except Failure call.Result × World
  | .port call, w => CreditHedge.handle a call w
  | .recordExecution execution receivedAt payloadHash, w =>
    w.writeWith (w.store.recordExecution execution receivedAt payloadHash)

namespace EmergencyFlattenService

/-- The order can have been filled so, as far as the recorder looks. -/
structure Covers (request : PlaceOrderRequest) (execution : ExecutionUpdate) : Prop where
  symbol : request.symbol = "ETHUSDT"
  side : request.side = .buy
  orderType : request.orderType = .market
  reduceOnly : request.reduceOnly = true
  orderId : execution.orderId ≠ ""
  executionSymbol : execution.symbol = "ETHUSDT"
  executionSide : execution.side = .buy
  quantity : execution.quantity ≤ request.quantity

instance (request : PlaceOrderRequest) (execution : ExecutionUpdate) :
    Decidable (Covers request execution) :=
  decidable_of_iff
    (request.symbol = "ETHUSDT" ∧ request.side = .buy ∧ request.orderType = .market ∧
      request.reduceOnly = true ∧ execution.orderId ≠ "" ∧ execution.symbol = "ETHUSDT" ∧
      execution.side = .buy ∧ execution.quantity ≤ request.quantity)
    ⟨fun ⟨h₁, h₂, h₃, h₄, h₅, h₆, h₇, h₈⟩ => ⟨h₁, h₂, h₃, h₄, h₅, h₆, h₇, h₈⟩,
      fun h => ⟨h.1, h.2, h.3, h.4, h.5, h.6, h.7, h.8⟩⟩

/-- The `if` of `record_fill`. -/
def checkFill (execution : ExecutionUpdate) : Option PlaceOrderRequest → Except Failure Unit
  | none => throw (.valueError "execution is not a persisted emergency close fill")
  | some request =>
    refuseIf
      (request.symbol ≠ "ETHUSDT" ∨ request.side ≠ .buy ∨ request.orderType ≠ .market ∨
        ¬ request.reduceOnly ∨ execution.orderId = "" ∨ execution.symbol ≠ "ETHUSDT" ∨
        execution.side ≠ .buy ∨ request.quantity < execution.quantity)
      "execution is not a persisted emergency close fill"

def recordFill (execution : ExecutionUpdate) (receivedAt : Time) (payloadHash : PayloadHash) :
    FillMethod Bool := do
  let request ← Coroutine.perform (FillCall.port (.loadOrderIntent execution.orderLinkId))
  checkFill execution request
  Coroutine.perform (FillCall.recordExecution execution receivedAt payloadHash)

end EmergencyFlattenService

/-! ## What a call does -/

section Recording

open EmergencyFlattenService Coroutine

variable {execution : ExecutionUpdate} {w w' : World}

theorem checkFill_eq_ok {request : Option PlaceOrderRequest} {u : Unit} :
    checkFill execution request = .ok u ↔
      ∃ r, request = some r ∧ EmergencyFlattenService.Covers r execution := by
  cases request with
  | none =>
    constructor
    · intro h
      cases h
    · rintro ⟨r, hr, -⟩
      cases hr
  | some request =>
    unfold checkFill
    rw [refuseIf_eq_ok]
    simp only [not_or, not_not, not_lt]
    constructor
    · rintro ⟨h₁, h₂, h₃, h₄, h₅, h₆, h₇, h₈⟩
      exact ⟨request, rfl, ⟨h₁, h₂, h₃, h₄, h₅, h₆, h₇, h₈⟩⟩
    · rintro ⟨r, hr, h⟩
      obtain rfl := Option.some.inj hr
      exact ⟨h.symbol, h.side, h.orderType, h.reduceOnly, h.orderId, h.executionSymbol,
        h.executionSide, h.quantity⟩

/-- The execution is in the store now, and was not before. -/
def Stores (execution : ExecutionUpdate) (w w' : World) : Prop :=
  w.store.hasExecution execution.executionId = false ∧
    w'.store.hasExecution execution.executionId = true

instance : Decidable (Stores execution w w') := inferInstanceAs (Decidable (_ ∧ _))

/-- A new execution of a persisted order is always written, and no other table with it. -/
theorem exists_recordExecution (receivedAt : Time) (payloadHash : PayloadHash)
    {store : SqliteExecutionStore} (hnew : store.hasExecution execution.executionId = false)
    (hknown : store.Known execution.orderLinkId) :
    ∃ store', store.recordExecution execution receivedAt payloadHash = .ok (true, store') ∧
      store'.hasExecution execution.executionId = true ∧
      store'.protectionSnapshots = store.protectionSnapshots := by
  have hfind : store.executions.find execution.executionId = none :=
    Option.not_isSome_iff_eq_none.mp (ne_true_of_eq_false hnew)
  obtain ⟨executions, hinsert⟩ : ∃ executions, store.executions.insert
      (SqliteExecutionStore.executionRow execution receivedAt payloadHash) = some executions :=
    KeyedTable.exists_insert hfind
  have hrows := (KeyedTable.insert_eq_some.mp hinsert).2
  -- the row names an order that is known, so the commit goes through
  have hconstraints : Tables.Constraints { store.toTables with executions } := by
    refine ⟨store.constraints.stopIds, store.constraints.tpIds, store.constraints.entryIntents, ?_,
      store.constraints.protectionIntents⟩
    intro id hid
    rw [hrows, List.map_append, List.mem_append] at hid
    rcases hid with hold | hadded
    · exact store.constraints.executionIntents id hold
    · obtain rfl := List.mem_singleton.mp hadded
      exact hknown
  refine ⟨{ store with executions, constraints := hconstraints }, ?_, ?_, rfl⟩
  · have hnewTables : SqliteExecutionStore.insertExecutionIfNew execution receivedAt payloadHash
        store.toTables = .ok (some { store.toTables with executions }) := by
      unfold SqliteExecutionStore.insertExecutionIfNew
      rw [hinsert]
      exact if_pos hknown
    unfold SqliteExecutionStore.recordExecution
    refine bind_eq_ok.mpr ⟨_, hnewTables, ?_⟩
    exact bind_eq_ok.mpr ⟨_, SqliteExecutionStore.commit_eq_ok.mpr rfl, rfl⟩
  · have hfound : executions.find execution.executionId = some
        (SqliteExecutionStore.executionRow execution receivedAt payloadHash) :=
      (KeyedTable.find_insert hinsert _).trans (if_pos rfl)
    exact Option.isSome_iff_exists.mpr ⟨_, hfound⟩

/-- An intent that loads is in the table. -/
theorem known_of_load {store : SqliteExecutionStore} {orderLinkId : String}
    {request : PlaceOrderRequest} (h : store.loadOrderIntent orderLinkId = some request) :
    ∃ row ∈ store.orderIntents.rows, row.request = request ∧ request.orderLinkId = orderLinkId := by
  obtain ⟨row, hfind, rfl⟩ := Option.map_eq_some_iff.mp h
  obtain ⟨hrow, hid⟩ := KeyedTable.find_eq_some.mp hfind
  exact ⟨row, hrow, rfl, hid⟩

/-- **Which executions a call stores**: the new ones of an order that covers them. -/
theorem stores_iff (receivedAt : Time) (payloadHash : PayloadHash) :
    (∃ outcome w', Coroutine.Runs FillCall.handle (recordFill execution receivedAt payloadHash) w
        outcome w' ∧ Stores execution w w') ↔
      w.store.hasExecution execution.executionId = false ∧
        ∃ request, w.store.loadOrderIntent execution.orderLinkId = some request ∧
          EmergencyFlattenService.Covers request execution := by
  have hload : ∀ a, FillCall.handle a (.port (.loadOrderIntent execution.orderLinkId)) w =
      (.ok (w.store.loadOrderIntent execution.orderLinkId), w) := fun _ => rfl
  constructor
  · rintro ⟨outcome, w', h, hnew, hstored⟩
    have hchecked : checkFill execution (w.store.loadOrderIntent execution.orderLinkId) =
        .ok () := by
      have hrest := runs_lift_bind.mp ((runs_call_bind hload).mp h)
      cases hcheck : checkFill execution (w.store.loadOrderIntent execution.orderLinkId) with
      | ok u => rfl
      | error failure =>
        -- a refused execution leaves the store as it was
        rw [hcheck] at hrest
        obtain ⟨-, rfl⟩ := hrest
        exact absurd hstored (by simp [hnew])
    exact ⟨hnew, checkFill_eq_ok.mp hchecked⟩
  · rintro ⟨hnew, request, hrequest, hcovers⟩
    -- both checks pass, so the one run there is records it
    obtain ⟨row, hrow, rfl, hid⟩ := known_of_load hrequest
    obtain ⟨store', hrecord, hstored, -⟩ :=
      exists_recordExecution receivedAt payloadHash hnew ⟨row, hrow, hid⟩
    have hchecked : checkFill execution (w.store.loadOrderIntent execution.orderLinkId) = .ok () :=
      checkFill_eq_ok.mpr ⟨_, hrequest, hcovers⟩
    have hanswer : ∀ a, FillCall.handle a (.recordExecution execution receivedAt payloadHash) w =
        (.ok true, { w with store := store' }) := fun _ => congrArg w.writeWith hrecord
    refine ⟨.ok true, { w with store := store' }, (runs_call_bind hload).mpr ?_, hnew, hstored⟩
    refine runs_lift_bind.mpr ?_
    rw [hchecked]
    refine runs_call.mpr ⟨default, ?_⟩
    rw [hanswer]
    exact runs_done.mpr ⟨rfl, rfl⟩

end Recording

/-! ## The orders of the strategy

What the services persist on the linear side: the sale that opens a level, the two exits of its
protection, and the close of an emergency. -/

/-- The order that `install_stop` and `restore_stop` build. -/
def IsStopOrder (f : PlaceOrderFields) : Prop :=
  ∃ triggerPrice ∈ f.triggerPrice,
    f = ProtectiveExitService.stopFields f.quantity triggerPrice f.orderLinkId

/-- The order of `install_take_profit`. -/
def IsTakeProfitOrder (f : PlaceOrderFields) : Prop :=
  ∃ price ∈ f.price, f = ProtectiveExitService.takeProfitFields f.quantity price f.orderLinkId

inductive Intended (f : PlaceOrderFields) : Prop
  | entry : f.side = .sell → Intended f
  | stop : IsStopOrder f → HasRole f.orderLinkId .hedgeStop → Intended f
  | takeProfit : IsTakeProfitOrder f → Intended f
  | emergencyClose :
      f = EmergencyFlattenService.flattenFields f.quantity f.orderLinkId →
      HasRole f.orderLinkId .emergencyClose → Intended f

/-- A fill of a stop that is not in the store yet: an ETHUSDT buy of no more than the stop's
    quantity. -/
structure StopFill (store : SqliteExecutionStore) (execution : ExecutionUpdate) : Prop where
  isNew : store.hasExecution execution.executionId = false
  ofStop : ∃ request, store.loadOrderIntent execution.orderLinkId = some request ∧
    IsStopOrder request.toPlaceOrderFields ∧ execution.quantity ≤ request.quantity
  symbol : execution.symbol = "ETHUSDT"
  side : execution.side = .buy

/-- The fill is passed over: whoever applies it is answered with a protection, and nothing is
    written. -/
def Swallows (w : World) (execution : ExecutionUpdate) : Prop :=
  ∃ receivedAt payloadHash p, Coroutine.Runs handle
    (ProtectiveExitService.applyExitExecution execution receivedAt payloadHash) w (.ok p) w

/-- What the recorder is to keep to, from one world to the next. -/
structure OnlyCloses (execution : ExecutionUpdate) (w w' : World) : Prop where
  role : Stores execution w w' → HasRole execution.orderLinkId .emergencyClose
  /-- If the execution is one of an exit, the exit's protection is not what it was. -/
  updated : Stores execution w w' → ∀ p ∈ w'.store.protectionSnapshots.rows,
    p.stopOrderLinkId = execution.orderLinkId ∨ p.tpOrderLinkId = some execution.orderLinkId →
    p ∉ w.store.protectionSnapshots.rows
  /-- In no later world is it passed over. -/
  applied : Stores execution w w' → ∀ later : World,
    later.store.hasExecution execution.executionId = true → ¬ Swallows later execution

section Closes

open EmergencyFlattenService Coroutine

variable {execution : ExecutionUpdate} {w w' : World}

/-- Of the strategy's orders, those of the recorder's shape are stops and closes. -/
theorem Intended.of_covers {request : PlaceOrderRequest}
    (h : Intended request.toPlaceOrderFields)
    (hcovers : EmergencyFlattenService.Covers request execution) :
    IsStopOrder request.toPlaceOrderFields ∨ HasRole request.orderLinkId .emergencyClose := by
  cases h with
  | entry hside => exact absurd (hside.symm.trans hcovers.side) (by simp)
  | stop hstop hrole => exact .inl hstop
  | takeProfit htp =>
    obtain ⟨price, -, hfields⟩ := htp
    have htype : request.orderType = .limit := congrArg PlaceOrderFields.orderType hfields
    exact absurd (htype.symm.trans hcovers.orderType) (by simp)
  | emergencyClose hfields hrole => exact .inr hrole

/-- A stop has a stop's id, and no close has a trigger. -/
theorem Intended.role_of_stop {f : PlaceOrderFields} (h : Intended f) (hstop : IsStopOrder f) :
    HasRole f.orderLinkId .hedgeStop := by
  obtain ⟨triggerPrice, htrigger, hfields⟩ := hstop
  cases h with
  | entry hside =>
    have hbuy : f.side = .buy := congrArg PlaceOrderFields.side hfields
    exact absurd (hside.symm.trans hbuy) (by simp)
  | stop _ hrole => exact hrole
  | takeProfit htp =>
    obtain ⟨price, -, hlimit⟩ := htp
    have htype : f.orderType = .limit := congrArg PlaceOrderFields.orderType hlimit
    have hmarket : f.orderType = .market := congrArg PlaceOrderFields.orderType hfields
    exact absurd (htype.symm.trans hmarket) (by simp)
  | emergencyClose hclose _ =>
    have hnone : f.triggerPrice = none := congrArg PlaceOrderFields.triggerPrice hclose
    exact absurd (hnone.symm.trans htrigger) (by simp)

/-- Stops have the recorder's shape. -/
theorem StopFill.covers {store : SqliteExecutionStore} (h : StopFill store execution) :
    ∃ request, store.loadOrderIntent execution.orderLinkId = some request ∧
      IsStopOrder request.toPlaceOrderFields ∧
        EmergencyFlattenService.Covers request execution := by
  obtain ⟨request, hload, hstop, hquantity⟩ := h.ofStop
  obtain ⟨triggerPrice, -, hfields⟩ := id hstop
  refine ⟨request, hload, hstop, ?_⟩
  exact
    { symbol := congrArg PlaceOrderFields.symbol hfields
      side := congrArg PlaceOrderFields.side hfields
      orderType := congrArg PlaceOrderFields.orderType hfields
      reduceOnly := congrArg PlaceOrderFields.reduceOnly hfields
      orderId := fun hblank => execution.orderId_text (hblank ▸ rfl)
      executionSymbol := h.symbol
      executionSide := h.side
      quantity := hquantity }

/-- No protection has the id of a close for an exit. -/
theorem not_exit_of_close (h : HasRole execution.orderLinkId .emergencyClose)
    (p : ProtectionSnapshot) : ¬ (p.stopOrderLinkId = execution.orderLinkId ∨
      p.tpOrderLinkId = some execution.orderLinkId) := by
  rintro (hstop | htp)
  · exact absurd (h.unique (hstop ▸ p.valid.stopRole :
      HasRole execution.orderLinkId .hedgeStop)) (by simp)
  · exact absurd (h.unique (p.valid.tpRole _ htp)) (by simp)

/-- So the fill of a close is never passed over: applying it raises. -/
theorem not_swallows_of_close (h : HasRole execution.orderLinkId .emergencyClose) (later : World) :
    ¬ Swallows later execution := by
  rintro ⟨receivedAt, payloadHash, p, hrun⟩
  have hload : later.store.loadProtectionSnapshotByExitId execution.orderLinkId = none := by
    refine List.find?_eq_none.mpr fun q _ hq => not_exit_of_close h q ?_
    exact of_decide_eq_true hq
  have hanswer : ∀ a, handle a (.loadProtectionSnapshotByExitId execution.orderLinkId) later =
      (.ok none, later) := fun _ => congrArg (fun found => (Except.ok found, later)) hload
  obtain ⟨houtcome, -⟩ := runs_throw.mp ((runs_call_bind hanswer).mp hrun)
  exact absurd houtcome (by simp)

/-- **What the recorder records**: over the strategy's intents it keeps to the fills of emergency
    closes, exactly unless it is given a new fill of a stop. -/
theorem onlyCloses_iff {receivedAt : Time} {payloadHash : PayloadHash}
    (hintended : ∀ row ∈ w.store.orderIntents.rows, Intended row.request.toPlaceOrderFields) :
    (∀ outcome w', Coroutine.Runs FillCall.handle (recordFill execution receivedAt payloadHash) w
        outcome w' → OnlyCloses execution w w') ↔ ¬ StopFill w.store execution := by
  constructor
  · intro hcloses hfill
    obtain ⟨request, hload, hstop, hcovers⟩ := hfill.covers
    obtain ⟨outcome, w', hrun, hstores⟩ :=
      (stores_iff receivedAt payloadHash).mpr ⟨hfill.isNew, request, hload, hcovers⟩
    obtain ⟨row, hrow, rfl, hid⟩ := known_of_load hload
    have hclose := (hcloses outcome w' hrun).role hstores
    have hrole := (hintended row hrow).role_of_stop hstop
    rw [hid] at hrole
    exact absurd (hclose.unique hrole) (by simp)
  · intro hno outcome w' hrun
    have hclose : Stores execution w w' → HasRole execution.orderLinkId .emergencyClose := by
      intro hstores
      obtain ⟨hnew, request, hload, hcovers⟩ := (stores_iff _ _).mp ⟨outcome, w', hrun, hstores⟩
      obtain ⟨row, hrow, rfl, hid⟩ := known_of_load hload
      rcases (hintended row hrow).of_covers hcovers with hstop | hrole
      · exact absurd ⟨hnew, ⟨_, hload, hstop, hcovers.quantity⟩, hcovers.executionSymbol,
          hcovers.executionSide⟩ hno
      · exact hid ▸ hrole
    exact
      { role := hclose
        updated := fun hstores p _ hexit => absurd hexit (not_exit_of_close (hclose hstores) p)
        applied := fun hstores later _ => not_swallows_of_close (hclose hstores) later }

end Closes

/-! ## Two protected levels and a close -/

instance (f : PlaceOrderFields) : Decidable (IsStopOrder f) :=
  inferInstanceAs (Decidable (∃ triggerPrice ∈ f.triggerPrice, _))

instance (f : PlaceOrderFields) : Decidable (IsTakeProfitOrder f) :=
  inferInstanceAs (Decidable (∃ price ∈ f.price, _))

instance (f : PlaceOrderFields) : Decidable (Intended f) :=
  decidable_of_iff
    (f.side = .sell ∨ (IsStopOrder f ∧ HasRole f.orderLinkId .hedgeStop) ∨ IsTakeProfitOrder f ∨
      f = EmergencyFlattenService.flattenFields f.quantity f.orderLinkId ∧
        HasRole f.orderLinkId .emergencyClose)
    ⟨fun h => by
      rcases h with h | ⟨h, hrole⟩ | h | ⟨h, hrole⟩
      · exact .entry h
      · exact .stop h hrole
      · exact .takeProfit h
      · exact .emergencyClose h hrole,
    fun h => by
      cases h with
      | entry h => exact .inl h
      | stop h hrole => exact .inr (.inl ⟨h, hrole⟩)
      | takeProfit h => exact .inr (.inr (.inl h))
      | emergencyClose h hrole => exact .inr (.inr (.inr ⟨h, hrole⟩))⟩

deriving instance DecidableEq for World

def closeId : String := "ECH-A-C0001-L00-EC-A01-0000"

def closeRequest : PlaceOrderRequest :=
  ⟨EmergencyFlattenService.flattenFields 2 closeId, by decide +kernel⟩

/-- Both levels are protected, and a close of the whole short is on its way. -/
def closingTwo : Option World := do
  let w ← protectedTwo
  let store ← (w.store.persistOrderIntent closeRequest 0).toOption
  pure { w with store }

def closeFill : ExecutionUpdate := ⟨exitFill 1 closeId 2 2005, by decide +kernel⟩

/-- The stop of level 1, filled after all. -/
theorem check_lateStopFill : (exitFill 2 (stopIdOf 1) 1 2010).check = .ok () := by decide +kernel

def lateStopFill : ExecutionUpdate := ⟨exitFill 2 (stopIdOf 1) 1 2010, check_lateStopFill⟩

def recordedFill (execution : ExecutionUpdate) (w : World) : Option (Except Failure Bool × World) :=
  Coroutine.execute FillCall.handle
    (EmergencyFlattenService.recordFill execution execution.executedAt zeroHash)
    (List.replicate 2 default) w

/-- Both fills are recorded, and the stop's is then applied without effect. -/
theorem exists_closingTwo :
    ∃ w, (∀ row ∈ w.store.orderIntents.rows, Intended row.request.toPlaceOrderFields) ∧
      (∃ w', recordedFill closeFill w = some (.ok true, w') ∧ Stores closeFill w w') ∧
      ∃ w' p, recordedFill lateStopFill w = some (.ok true, w') ∧ Stores lateStopFill w w' ∧
        w.store.loadProtectionSnapshot (entryIdOf 1) = some p ∧ p.openQuantity = 1 ∧
        w'.store.loadProtectionSnapshot (entryIdOf 1) = some p ∧
        succeeded (ProtectiveExitService.applyExitExecution lateStopFill 2 zeroHash)
          (List.replicate 4 {}) w' = some (p, w') := by
  have hruns : (closingTwo.any fun w =>
      (w.store.orderIntents.rows.all fun row =>
        decide (Intended row.request.toPlaceOrderFields)) &&
      ((recordedFill closeFill w).any fun (outcome, w') =>
        decide (outcome = .ok true ∧ Stores closeFill w w')) &&
      (recordedFill lateStopFill w).any fun (outcome, w') =>
        (w.store.loadProtectionSnapshot (entryIdOf 1)).any fun p =>
          decide (outcome = .ok true ∧ Stores lateStopFill w w' ∧ p.openQuantity = 1 ∧
            w'.store.loadProtectionSnapshot (entryIdOf 1) = some p ∧
            succeeded (ProtectiveExitService.applyExitExecution lateStopFill 2 zeroHash)
              (List.replicate 4 {}) w' = some (p, w'))) = true := by decide +kernel
  obtain ⟨w, -, hrun⟩ := (Option.any_eq_true ..).mp hruns
  rw [Bool.and_eq_true, Bool.and_eq_true] at hrun
  obtain ⟨⟨hintended, hclose⟩, hstop⟩ := hrun
  obtain ⟨⟨closed, w₁⟩, hclosed, hclose⟩ := (Option.any_eq_true ..).mp hclose
  obtain ⟨rfl, hcloseStored⟩ := of_decide_eq_true hclose
  obtain ⟨⟨stopped, w₂⟩, hstopped, hstop⟩ := (Option.any_eq_true ..).mp hstop
  obtain ⟨p, hp, hstop⟩ := (Option.any_eq_true ..).mp hstop
  obtain ⟨rfl, hstopStored, hopen, hsame, happlied⟩ := of_decide_eq_true hstop
  exact ⟨w, fun row hrow => of_decide_eq_true (List.all_eq_true.mp hintended row hrow),
    ⟨w₁, hclosed, hcloseStored⟩, w₂, p, hstopped, hstopStored, hp, hopen, hsame, happlied⟩

/-- The close's fill is recorded as it should be. -/
theorem onlyCloses_iff_closeFill :
    ∃ w w', Coroutine.Runs FillCall.handle
        (EmergencyFlattenService.recordFill closeFill 1 zeroHash) w (.ok true) w' ∧
      Stores closeFill w w' ∧ OnlyCloses closeFill w w' := by
  obtain ⟨w, hintended, ⟨w', hrecord, hstores⟩, -⟩ := exists_closingTwo
  have hrun := Coroutine.runs_of_execute hrecord
  refine ⟨w, w', hrun, hstores, (onlyCloses_iff hintended).mpr ?_ _ _ hrun⟩
  rintro ⟨-, ⟨request, hload, hstop, -⟩, -, -⟩
  obtain ⟨row, hrow, rfl, hid⟩ := known_of_load hload
  have hrole := (hintended row hrow).role_of_stop hstop
  rw [hid] at hrole
  exact absurd hrole (by decide +kernel)

/-- **A stop fill that is recorded and passed over.** It comes in while a close is on its way: the
    recorder stores it, the protection of its level still shows the whole unit open, and when the
    fill is then applied to the protection, nothing is written. -/
theorem stop_fill_swallowed :
    ∃ w w' p, (∀ row ∈ w.store.orderIntents.rows, Intended row.request.toPlaceOrderFields) ∧
      Coroutine.Runs FillCall.handle
        (EmergencyFlattenService.recordFill lateStopFill 2 zeroHash) w (.ok true) w' ∧
      Stores lateStopFill w w' ∧ ¬ HasRole lateStopFill.orderLinkId .emergencyClose ∧
      w.store.loadProtectionSnapshot (entryIdOf 1) = some p ∧ p.openQuantity = 1 ∧
      w'.store.loadProtectionSnapshot (entryIdOf 1) = some p ∧
      Coroutine.Runs handle (ProtectiveExitService.applyExitExecution lateStopFill 2 zeroHash) w'
        (.ok p) w' ∧
      ¬ OnlyCloses lateStopFill w w' := by
  obtain ⟨w, hintended, -, w', p, hrecord, hstores, hp, hopen, hsame, happlied⟩ := exists_closingTwo
  have hstop : ¬ HasRole lateStopFill.orderLinkId .emergencyClose := by decide +kernel
  exact ⟨w, w', p, hintended, Coroutine.runs_of_execute hrecord, hstores, hstop, hp, hopen, hsame,
    succeeded_runs happlied, fun hcloses => hstop (hcloses.role hstores)⟩

end CreditHedge
