import CreditHedge.Domain.LiveOptionExecution
import CreditHedge.Infrastructure.SqliteExecutionStore

/-!
# The option spreads in the database

The `option_spread_snapshots` table of the execution store, and the transactions that write it.
The other services never touch it, so it stands here beside their tables: `tables` is the rest of
the same database, whose order intents and executions the option orders share.

What a transaction that went through has done is said once (`OptionWrites`): which intents and
which executions are new. What it did to the row of the cycle is an insertion or a swap, as of any
versioned row.
-/

set_option autoImplicit false

namespace CreditHedge

open SqliteExecutionStore

structure OptionTables where
  tables : SqliteExecutionStore
  optionSpreads : KeyedTable fun row : OptionSpreadExecutionSnapshot => row.cycleId

/-- `UNIQUE` and `REFERENCES` of the table. A missing short id is `NULL`, which `UNIQUE` does not
    compare. -/
structure OptionTables.Constraints (t : OptionTables) : Prop where
  longIds : (t.optionSpreads.rows.map fun s => s.longOrderLinkId).Nodup
  shortIds : (t.optionSpreads.rows.filterMap fun s => s.shortOrderLinkId).Nodup
  longIntents : ∀ id ∈ t.optionSpreads.rows.map fun s => s.longOrderLinkId,
    t.tables.toTables.Known id
  shortIntents : ∀ id ∈ t.optionSpreads.rows.filterMap fun s => s.shortOrderLinkId,
    t.tables.toTables.Known id

instance (t : OptionTables) : Decidable t.Constraints :=
  decidable_of_iff
    ((t.optionSpreads.rows.map fun s => s.longOrderLinkId).Nodup ∧
      (t.optionSpreads.rows.filterMap fun s => s.shortOrderLinkId).Nodup ∧
      (∀ id ∈ t.optionSpreads.rows.map fun s => s.longOrderLinkId, t.tables.toTables.Known id) ∧
      ∀ id ∈ t.optionSpreads.rows.filterMap fun s => s.shortOrderLinkId,
        t.tables.toTables.Known id)
    ⟨fun ⟨h₁, h₂, h₃, h₄⟩ => ⟨h₁, h₂, h₃, h₄⟩, fun h => ⟨h.1, h.2, h.3, h.4⟩⟩

structure OptionSpreadStore extends OptionTables where
  constraints : toOptionTables.Constraints

namespace OptionSpreadStore

def empty : OptionSpreadStore where
  tables := .empty
  optionSpreads := .empty
  constraints := by decide

/-- The end of a transaction. -/
def commitOptions (t : OptionTables) : Except Failure OptionSpreadStore :=
  if h : t.Constraints then .ok { toOptionTables := t, constraints := h }
  else .error .integrityError

/-- `_update_option_spread_snapshot`. -/
def updateOptionSpreadSnapshot (previousVersion : ℕ) (snapshot : OptionSpreadExecutionSnapshot)
    (t : OptionTables) : Except Failure OptionTables := do
  refuseIf (snapshot.version ≠ previousVersion + 1)
    "new option snapshot version must increment exactly once"
  let optionSpreads ← orFail
    (.concurrentSnapshotUpdate "option snapshot version changed before transaction commit")
    (t.optionSpreads.swap (fun s => s.version) previousVersion snapshot)
  pure { t with optionSpreads }

variable (store : OptionSpreadStore)

def persistOptionLongIntent (request : PlaceOrderRequest)
    (snapshot : OptionSpreadExecutionSnapshot) (persistedAt : Time) :
    Except Failure OptionSpreadStore :=
  integrityAs "option long intent is already persisted" do
    let t ← insertOrderIntent request persistedAt store.tables.toTables
    let tables ← commit t
    let optionSpreads ← orFail .integrityError (store.optionSpreads.insert snapshot)
    commitOptions { tables, optionSpreads }

def persistOptionShortIntent (previousVersion : ℕ) (request : PlaceOrderRequest)
    (snapshot : OptionSpreadExecutionSnapshot) (persistedAt : Time) :
    Except Failure OptionSpreadStore :=
  integrityAs "option short intent is already persisted" do
    let t ← insertOrderIntent request persistedAt store.tables.toTables
    let tables ← commit t
    commitOptions (← updateOptionSpreadSnapshot previousVersion snapshot
      { store.toOptionTables with tables })

def loadOrderIntent (orderLinkId : String) : Option PlaceOrderRequest :=
  store.tables.loadOrderIntent orderLinkId

def hasExecution (executionId : String) : Bool := store.tables.hasExecution executionId

def loadOptionSpreadSnapshot (cycleId : String) : Option OptionSpreadExecutionSnapshot :=
  store.optionSpreads.find cycleId

/-- `ORDER BY cycle_id`. -/
def loadAllOptionSpreadSnapshots : List OptionSpreadExecutionSnapshot :=
  store.optionSpreads.rows.insertionSort fun s s' => s.cycleId ≤ s'.cycleId

def transitionOptionSpreadSnapshot (previousVersion : ℕ)
    (snapshot : OptionSpreadExecutionSnapshot) : Except Failure OptionSpreadStore := do
  commitOptions (← updateOptionSpreadSnapshot previousVersion snapshot store.toOptionTables)

def recordOptionAcknowledgementAndSnapshot (previousVersion : ℕ)
    (acknowledgement : OrderRequestAck) (snapshot : OptionSpreadExecutionSnapshot) :
    Except Failure OptionSpreadStore := do
  refuseIf (store.tables.orderIntents.find acknowledgement.orderLinkId = none)
    "option acknowledgement has no persisted intent"
  let t ← acknowledge acknowledgement store.tables.toTables
  let tables ← commit t
  commitOptions (← updateOptionSpreadSnapshot previousVersion snapshot
    { store.toOptionTables with tables })

def recordOptionExecutionAndSnapshot (previousVersion : ℕ) (execution : ExecutionUpdate)
    (receivedAt : Time) (payloadHash : PayloadHash) (snapshot : OptionSpreadExecutionSnapshot) :
    Except Failure (Bool × OptionSpreadStore) := do
  match ← insertExecutionIfNew execution receivedAt payloadHash store.tables.toTables with
  | none => pure (false, store)
  | some t => do
    let tables ← commit t
    let written ← commitOptions (← updateOptionSpreadSnapshot previousVersion snapshot
      { store.toOptionTables with tables })
    pure (true, written)

/-! ## What a transaction has done -/

/-- The executions the database has. -/
def recordedExecutions : List ExecutionUpdate :=
  store.tables.executions.rows.map fun row => row.execution

variable {store} {store' : OptionSpreadStore} {request : PlaceOrderRequest}
  {snapshot : OptionSpreadExecutionSnapshot} {persistedAt : Time} {previousVersion : ℕ}

theorem commitOptions_eq_ok {t : OptionTables} {s : OptionSpreadStore} :
    commitOptions t = .ok s ↔ s.toOptionTables = t := by
  unfold commitOptions
  constructor
  · intro h
    split at h
    · obtain rfl := Except.ok.inj h
      rfl
    · exact absurd h (by simp)
  · rintro rfl
    rw [dif_pos s.constraints]

theorem updateOptionSpreadSnapshot_eq_ok {t t' : OptionTables}
    (h : updateOptionSpreadSnapshot previousVersion snapshot t = .ok t') :
    ∃ optionSpreads, t.optionSpreads.swap (fun s => s.version) previousVersion snapshot =
      some optionSpreads ∧ t' = { t with optionSpreads } := by
  simp only [updateOptionSpreadSnapshot, bind_eq_ok, orFail_eq_ok] at h
  obtain ⟨-, -, optionSpreads, hswap, ht⟩ := h
  exact ⟨optionSpreads, hswap, (Except.ok.inj ht).symm⟩

/-- The intents and executions that a transaction adds. An intent is under an id that had none. -/
structure OptionWrites (store store' : OptionSpreadStore) (intents : List PlaceOrderRequest)
    (executions : List ExecutionUpdate) : Prop where
  fresh : ∀ request ∈ intents, store.loadOrderIntent request.orderLinkId = none
  intents : ∀ id, store'.loadOrderIntent id =
    (intents.find? fun request => request.orderLinkId = id).or (store.loadOrderIntent id)
  executions : store'.recordedExecutions = store.recordedExecutions ++ executions

theorem OptionWrites.of_insertOrderIntent {t : Tables}
    (ht : insertOrderIntent request persistedAt store.tables.toTables = .ok t)
    (htables : store'.tables.toTables = t) : OptionWrites store store' [request] [] := by
  simp only [insertOrderIntent, bind_eq_ok, orFail_eq_ok] at ht
  obtain ⟨orderIntents, hinsert, ht⟩ := ht
  obtain rfl := Except.ok.inj ht
  have hfind := KeyedTable.find_insert hinsert
  refine ⟨fun r hr => ?_, fun id => ?_, ?_⟩
  · rw [List.mem_singleton.mp hr]
    show Option.map _ (store.tables.orderIntents.find request.orderLinkId) = none
    rw [(KeyedTable.insert_eq_some.mp hinsert).1]
    rfl
  · show Option.map _ (store'.tables.orderIntents.find id) = _
    rw [htables]
    show Option.map OrderIntentRow.request (orderIntents.find id) = _
    rw [hfind]
    by_cases hid : id = request.orderLinkId
    · rw [if_pos hid, List.find?_cons_of_pos (by simp [hid])]
      rfl
    · rw [if_neg hid, List.find?_cons_of_neg (by simpa using Ne.symm hid)]
      rfl
  · unfold recordedExecutions
    rw [htables, List.append_nil]

/-- The intent that is acknowledged keeps its request. -/
theorem requests_of_acknowledge {acknowledgement : OrderRequestAck} {t t' : Tables}
    (h : acknowledge acknowledgement t = .ok t') (id : String) :
    (t'.orderIntents.find id).map OrderIntentRow.request =
      (t.orderIntents.find id).map OrderIntentRow.request := by
  unfold acknowledge at h
  split at h
  · exact absurd h (by simp)
  · rename_i row hrow
    simp only [bind_eq_ok, orFail_eq_ok] at h
    obtain ⟨orderIntents, hswap, ht⟩ := h
    obtain rfl := Except.ok.inj ht
    obtain ⟨hmem, hkey⟩ := KeyedTable.find_eq_some.mp hrow
    show Option.map _ (orderIntents.find id) = _
    rw [KeyedTable.find_swap hswap]
    split
    · rename_i hid
      have hfind : t.orderIntents.find id = some row := by
        rw [hid]
        exact KeyedTable.find_of_mem hmem
      rw [hfind]
      rfl
    · rfl

/-- The same intents and executions. -/
theorem OptionWrites.of_same (htables : store'.tables = store.tables) :
    OptionWrites store store' [] [] := by
  refine ⟨fun _ h => absurd h (by simp), fun id => ?_, ?_⟩
  · unfold loadOrderIntent
    rw [htables]
    rfl
  · unfold recordedExecutions
    rw [htables, List.append_nil]

theorem persistOptionLongIntent_eq_ok
    (h : store.persistOptionLongIntent request snapshot persistedAt = .ok store') :
    OptionWrites store store' [request] [] ∧
      store.optionSpreads.insert snapshot = some store'.optionSpreads := by
  simp only [persistOptionLongIntent, bind_eq_ok, integrityAs_eq_ok, orFail_eq_ok, commit_eq_ok,
    commitOptions_eq_ok] at h
  obtain ⟨t, ht, tables, htables, optionSpreads, hinsert, hstore⟩ := h
  refine ⟨.of_insertOrderIntent ht ?_, ?_⟩
  · rw [hstore]
    exact htables
  · rw [hstore]
    exact hinsert

theorem persistOptionShortIntent_eq_ok
    (h : store.persistOptionShortIntent previousVersion request snapshot persistedAt = .ok store') :
    OptionWrites store store' [request] [] ∧
      store.optionSpreads.swap (fun s => s.version) previousVersion snapshot =
        some store'.optionSpreads := by
  simp only [persistOptionShortIntent, bind_eq_ok, integrityAs_eq_ok, commit_eq_ok,
    commitOptions_eq_ok] at h
  obtain ⟨t, ht, tables, htables, t', ht', hstore⟩ := h
  obtain ⟨optionSpreads, hswap, rfl⟩ := updateOptionSpreadSnapshot_eq_ok ht'
  refine ⟨.of_insertOrderIntent ht ?_, ?_⟩
  · rw [hstore]
    exact htables
  · rw [hstore]
    exact hswap

theorem transitionOptionSpreadSnapshot_eq_ok
    (h : store.transitionOptionSpreadSnapshot previousVersion snapshot = .ok store') :
    OptionWrites store store' [] [] ∧
      store.optionSpreads.swap (fun s => s.version) previousVersion snapshot =
        some store'.optionSpreads := by
  simp only [transitionOptionSpreadSnapshot, bind_eq_ok, commitOptions_eq_ok] at h
  obtain ⟨t, ht, hstore⟩ := h
  obtain ⟨optionSpreads, hswap, rfl⟩ := updateOptionSpreadSnapshot_eq_ok ht
  refine ⟨.of_same ?_, ?_⟩
  · rw [hstore]
  · rw [hstore]
    exact hswap

theorem recordOptionAcknowledgementAndSnapshot_eq_ok {acknowledgement : OrderRequestAck}
    (h : store.recordOptionAcknowledgementAndSnapshot previousVersion acknowledgement snapshot =
      .ok store') :
    OptionWrites store store' [] [] ∧
      store.optionSpreads.swap (fun s => s.version) previousVersion snapshot =
        some store'.optionSpreads := by
  simp only [recordOptionAcknowledgementAndSnapshot, bind_eq_ok, commit_eq_ok,
    commitOptions_eq_ok] at h
  obtain ⟨-, -, t, ht, tables, htables, t', ht', hstore⟩ := h
  obtain ⟨optionSpreads, hswap, rfl⟩ := updateOptionSpreadSnapshot_eq_ok ht'
  refine ⟨⟨fun _ h => absurd h (by simp), fun id => ?_, ?_⟩, ?_⟩
  · show Option.map _ (store'.tables.orderIntents.find id) = _
    rw [hstore]
    show Option.map _ (tables.toTables.orderIntents.find id) = _
    rw [htables]
    exact requests_of_acknowledge ht id
  · obtain ⟨orderIntents, rfl⟩ := acknowledge_eq_ok ht
    unfold recordedExecutions
    rw [hstore, htables, List.append_nil]
  · rw [hstore]
    exact hswap

/-- An execution that is new goes in together with the snapshot; one that is not changes
    nothing. -/
theorem recordOptionExecutionAndSnapshot_eq_ok {execution : ExecutionUpdate} {receivedAt : Time}
    {payloadHash : PayloadHash} {inserted : Bool}
    (h : store.recordOptionExecutionAndSnapshot previousVersion execution receivedAt payloadHash
      snapshot = .ok (inserted, store')) :
    (inserted = false ∧ store.hasExecution execution.executionId = true ∧ store' = store) ∨
      (inserted = true ∧ OptionWrites store store' [] [execution] ∧
        store.optionSpreads.swap (fun s => s.version) previousVersion snapshot =
          some store'.optionSpreads) := by
  simp only [recordOptionExecutionAndSnapshot, bind_eq_ok] at h
  obtain ⟨t, ht, h⟩ := h
  unfold insertExecutionIfNew at ht
  split at ht
  · rename_i hinsert
    obtain rfl := Except.ok.inj ht
    obtain ⟨rfl, rfl⟩ := Prod.mk.inj (Except.ok.inj h)
    refine .inl ⟨rfl, ?_, rfl⟩
    unfold hasExecution SqliteExecutionStore.hasExecution
    by_contra hnew
    rw [Option.not_isSome_iff_eq_none] at hnew
    obtain ⟨executions, hexecutions⟩ := KeyedTable.exists_insert
      (r := executionRow execution receivedAt payloadHash) hnew
    exact absurd (hinsert.symm.trans hexecutions) (by simp)
  · rename_i executions hinsert
    split at ht
    · obtain rfl := Except.ok.inj ht
      simp only [bind_eq_ok, commit_eq_ok, commitOptions_eq_ok] at h
      obtain ⟨tables, htables, t', ht', written, hwritten, h⟩ := h
      obtain ⟨rfl, rfl⟩ := Prod.mk.inj (Except.ok.inj h)
      obtain ⟨optionSpreads, hswap, rfl⟩ := updateOptionSpreadSnapshot_eq_ok ht'
      refine .inr ⟨rfl, ⟨fun _ h => absurd h (by simp), fun id => ?_, ?_⟩, ?_⟩
      · show Option.map _ (written.tables.orderIntents.find id) = _
        rw [hwritten, htables]
        rfl
      · unfold recordedExecutions
        rw [hwritten, htables]
        show List.map _ executions.rows = _
        rw [(KeyedTable.insert_eq_some.mp hinsert).2, List.map_append]
        rfl
      · rw [hwritten]
        exact hswap
    · exact absurd ht (by simp)

/-- An acknowledgement of a persisted order over the row that was read is recorded: the row keeps
    the ids it refers to. -/
theorem recordOptionAcknowledgementAndSnapshot_ok {acknowledgement : OrderRequestAck}
    {previous : OptionSpreadExecutionSnapshot}
    (hrow : previous ∈ store.optionSpreads.rows) (hcycle : snapshot.cycleId = previous.cycleId)
    (hversion : snapshot.version = previous.version + 1)
    (hlong : snapshot.longOrderLinkId = previous.longOrderLinkId)
    (hshort : snapshot.shortOrderLinkId = previous.shortOrderLinkId)
    (hknown : store.loadOrderIntent acknowledgement.orderLinkId ≠ none) :
    ∃ store', store.recordOptionAcknowledgementAndSnapshot previous.version acknowledgement
      snapshot = .ok store' := by
  obtain ⟨row, hfind⟩ : ∃ row, store.tables.orderIntents.find acknowledgement.orderLinkId =
      some row := by
    rw [← Option.ne_none_iff_exists']
    refine fun hnone => hknown ?_
    unfold loadOrderIntent SqliteExecutionStore.loadOrderIntent
    rw [hnone]
    rfl
  obtain ⟨hmem, hkey⟩ := KeyedTable.find_eq_some.mp hfind
  let acknowledged : OrderIntentRow :=
    { row with
      exchangeOrderId := some acknowledgement.orderId
      acknowledgedAt := some acknowledgement.acknowledgedAt }
  have hrow' : store.tables.orderIntents.find acknowledged.request.orderLinkId = some row :=
    KeyedTable.find_of_mem hmem
  obtain ⟨orderIntents, hswap⟩ :
      ∃ orderIntents, store.tables.orderIntents.swap (fun _ => 0) 0 acknowledged =
        some orderIntents :=
    KeyedTable.exists_swap hrow' rfl
  have hacknowledge : acknowledge acknowledgement store.tables.toTables =
      .ok { store.tables.toTables with orderIntents } := by
    unfold acknowledge
    rw [hfind]
    simp only [bind_eq_ok, orFail_eq_ok]
    exact ⟨orderIntents, hswap, rfl⟩
  have hsame := known_of_acknowledge hacknowledge
  have hc := store.tables.constraints
  have htables : Tables.Constraints { store.tables.toTables with orderIntents } :=
    ⟨hc.stopIds, hc.tpIds, fun id h => (hsame id).mpr (hc.entryIntents id h),
      fun id h => (hsame id).mpr (hc.executionIntents id h),
      fun ids hids id h => (hsame id).mpr (hc.protectionIntents ids hids id h)⟩
  have hrowFind : store.optionSpreads.find snapshot.cycleId = some previous := by
    rw [hcycle]
    exact KeyedTable.find_of_mem hrow
  obtain ⟨optionSpreads, hspreads⟩ : ∃ optionSpreads,
      store.optionSpreads.swap (fun s => s.version) previous.version snapshot =
        some optionSpreads :=
    KeyedTable.exists_swap hrowFind rfl
  have hlongs := KeyedTable.map_swap (f := fun s => s.longOrderLinkId) hspreads hrowFind hlong
  have hshorts : optionSpreads.rows.filterMap (fun s => s.shortOrderLinkId) =
      store.optionSpreads.rows.filterMap fun s => s.shortOrderLinkId := by
    have hmap := KeyedTable.map_swap (f := fun s => s.shortOrderLinkId) hspreads hrowFind hshort
    have hfilter : ∀ rows : List OptionSpreadExecutionSnapshot,
        rows.filterMap (fun s => s.shortOrderLinkId) =
          (rows.map fun s => s.shortOrderLinkId).filterMap id := fun rows => by
      rw [List.filterMap_map]
      rfl
    rw [hfilter, hfilter, hmap]
  let tables : SqliteExecutionStore :=
    { store.tables.toTables with orderIntents, constraints := htables }
  have hoptions : OptionTables.Constraints { tables, optionSpreads } := by
    have hold := store.constraints
    refine ⟨?_, ?_, fun id hid => ?_, fun id hid => ?_⟩
    · rw [hlongs]
      exact hold.longIds
    · rw [hshorts]
      exact hold.shortIds
    · rw [hlongs] at hid
      exact (hsame id).mpr (hold.longIntents id hid)
    · rw [hshorts] at hid
      exact (hsame id).mpr (hold.shortIntents id hid)
  refine ⟨⟨{ tables, optionSpreads }, hoptions⟩, ?_⟩
  simp only [recordOptionAcknowledgementAndSnapshot, updateOptionSpreadSnapshot, bind_eq_ok,
    refuseIf_eq_ok, exists_const, commit_eq_ok, commitOptions_eq_ok, orFail_eq_ok]
  refine ⟨by rw [hfind]; simp, _, hacknowledge, tables, rfl, _, ⟨not_not.mpr hversion,
    optionSpreads, hspreads, rfl⟩, rfl⟩

end OptionSpreadStore

end CreditHedge
