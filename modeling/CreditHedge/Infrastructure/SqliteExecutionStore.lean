import CreditHedge.Domain.LiveRecovery
import CreditHedge.Domain.ProtectedExecution
import CreditHedge.Lib.Keyed
import Mathlib.Data.List.Sort

/-!
# The execution store

`infrastructure/persistence/sqlite_execution_store.py`: the durable tables behind the live
services. Each method is one transaction, so it is a function from a store to either a failure,
and then nothing was written, or a result and the store after it.

A table is a `KeyedTable` on its primary key. The schema's other constraints (`UNIQUE`,
`REFERENCES`) are `Tables.Constraints`, and a `SqliteExecutionStore` is tables that satisfy them:
`commit` is where SQLite would raise `IntegrityError`. Every update of a snapshot is guarded by
the version the writer read.

The option-spread table and the schema migrations are left out: nothing modelled reads them.
-/

set_option autoImplicit false

namespace CreditHedge

/-- A SHA-256 digest in hexadecimal, the only payload hash the store takes. -/
structure PayloadHash where
  text : String
  isDigest : text.length = 64 ∧
    text.toList.all (fun c => c.isDigit || ('a' ≤ c.toLower && c.toLower ≤ 'f')) = true
  deriving DecidableEq

structure OrderIntentRow where
  request : PlaceOrderRequest
  persistedAt : Time
  exchangeOrderId : Option String
  acknowledgedAt : Option Time
  deriving DecidableEq

structure ExecutionRow where
  execution : ExecutionUpdate
  receivedAt : Time
  payloadHash : String
  deriving DecidableEq

structure Tables where
  orderIntents : KeyedTable fun row : OrderIntentRow => row.request.orderLinkId
  entrySnapshots : KeyedTable fun row : EntryExecutionSnapshot => row.orderLinkId
  executions : KeyedTable fun row : ExecutionRow => row.execution.executionId
  protectionSnapshots : KeyedTable fun row : ProtectionSnapshot => row.entryOrderLinkId
  recoveryDebts : KeyedTable fun row : RecoveryDebtSnapshot => row.levelId
  deriving DecidableEq

namespace Tables

/-- The id has a row in `order_intents`. -/
def Known (t : Tables) (orderLinkId : String) : Prop :=
  ∃ row ∈ t.orderIntents.rows, row.request.orderLinkId = orderLinkId

instance (t : Tables) (orderLinkId : String) : Decidable (t.Known orderLinkId) :=
  inferInstanceAs (Decidable (∃ row ∈ t.orderIntents.rows, _))

/-- The ids a protection row refers to. -/
def references (p : ProtectionSnapshot) : List String :=
  [p.entryOrderLinkId, p.stopOrderLinkId] ++ p.tpOrderLinkId.toList

/-- `UNIQUE` and `REFERENCES`. A missing TP id is `NULL`, which `UNIQUE` does not compare. -/
structure Constraints (t : Tables) : Prop where
  stopIds : (t.protectionSnapshots.rows.map fun p => p.stopOrderLinkId).Nodup
  tpIds : (t.protectionSnapshots.rows.filterMap fun p => p.tpOrderLinkId).Nodup
  entryIntents : ∀ id ∈ t.entrySnapshots.rows.map fun s => s.orderLinkId, t.Known id
  executionIntents : ∀ id ∈ t.executions.rows.map fun e => e.execution.orderLinkId, t.Known id
  protectionIntents : ∀ ids ∈ t.protectionSnapshots.rows.map references, ∀ id ∈ ids, t.Known id

instance (t : Tables) : Decidable t.Constraints :=
  decidable_of_iff
    ((t.protectionSnapshots.rows.map fun p => p.stopOrderLinkId).Nodup ∧
      (t.protectionSnapshots.rows.filterMap fun p => p.tpOrderLinkId).Nodup ∧
      (∀ id ∈ t.entrySnapshots.rows.map fun s => s.orderLinkId, t.Known id) ∧
      (∀ id ∈ t.executions.rows.map fun e => e.execution.orderLinkId, t.Known id) ∧
      ∀ ids ∈ t.protectionSnapshots.rows.map references, ∀ id ∈ ids, t.Known id)
    ⟨fun ⟨h₁, h₂, h₃, h₄, h₅⟩ => ⟨h₁, h₂, h₃, h₄, h₅⟩, fun h => ⟨h.1, h.2, h.3, h.4, h.5⟩⟩

end Tables

structure SqliteExecutionStore extends Tables where
  constraints : toTables.Constraints
  deriving DecidableEq

namespace SqliteExecutionStore

def empty : SqliteExecutionStore where
  orderIntents := .empty
  entrySnapshots := .empty
  executions := .empty
  protectionSnapshots := .empty
  recoveryDebts := .empty
  constraints := by decide

/-- The end of a transaction: the constraints are checked, or SQLite rolls it back. -/
def commit (t : Tables) : Except Failure SqliteExecutionStore :=
  if h : t.Constraints then .ok { toTables := t, constraints := h } else .error .integrityError

/-- `except sqlite3.IntegrityError: raise ValueError(message)`. -/
def integrityAs {α : Type} (message : String) : Except Failure α → Except Failure α
  | .error .integrityError => .error (.valueError message)
  | result => result

/-- A refused insertion or swap, as the failure it is reported as. -/
def orFail {α : Type} (failure : Failure) : Option α → Except Failure α
  | some a => .ok a
  | none => .error failure

variable (store : SqliteExecutionStore)

/-! ## Order intents and acknowledgements -/

/-- `_insert_order_intent`. -/
def insertOrderIntent (request : PlaceOrderRequest) (persistedAt : Time) (t : Tables) :
    Except Failure Tables := do
  let orderIntents ← orFail .integrityError
    (t.orderIntents.insert
      { request, persistedAt, exchangeOrderId := none, acknowledgedAt := none })
  pure { t with orderIntents }

def persistOrderIntent (request : PlaceOrderRequest) (persistedAt : Time) :
    Except Failure SqliteExecutionStore :=
  integrityAs "order intent is already persisted" do
    let t ← insertOrderIntent request persistedAt store.toTables
    commit t

def loadOrderIntent (orderLinkId : String) : Option PlaceOrderRequest :=
  (store.orderIntents.find orderLinkId).map OrderIntentRow.request

/-- The `UPDATE order_intents` of an acknowledgement. The row has no version to guard it. -/
def acknowledge (acknowledgement : OrderRequestAck) (t : Tables) : Except Failure Tables :=
  match t.orderIntents.find acknowledgement.orderLinkId with
  | none => .error (.valueError "acknowledgement has no persisted intent")
  | some row => do
    let orderIntents ← orFail .integrityError
      (t.orderIntents.swap (fun _ => 0) 0
        { row with
          exchangeOrderId := some acknowledgement.orderId
          acknowledgedAt := some acknowledgement.acknowledgedAt })
    pure { t with orderIntents }

def recordAcknowledgement (acknowledgement : OrderRequestAck) :
    Except Failure SqliteExecutionStore := do
  commit (← acknowledge acknowledgement store.toTables)

/-! ## Entries -/

/-- `_update_snapshot`. -/
def updateSnapshot (previousVersion : ℕ) (snapshot : EntryExecutionSnapshot) (t : Tables) :
    Except Failure Tables := do
  refuseIf (snapshot.version ≠ previousVersion + 1)
    "new snapshot version must increment exactly once"
  let entrySnapshots ← orFail
    (.concurrentSnapshotUpdate "entry snapshot version changed before transaction commit")
    (t.entrySnapshots.swap (fun s => s.version) previousVersion snapshot)
  pure { t with entrySnapshots }

def persistEntryIntent (request : PlaceOrderRequest) (snapshot : EntryExecutionSnapshot)
    (persistedAt : Time) : Except Failure SqliteExecutionStore := do
  refuseIf (request.orderLinkId ≠ snapshot.orderLinkId) "request and snapshot client IDs differ"
  integrityAs "entry intent is already persisted" do
    let t ← insertOrderIntent request persistedAt store.toTables
    let entrySnapshots ← orFail .integrityError (t.entrySnapshots.insert snapshot)
    commit { t with entrySnapshots }

def loadEntrySnapshot (orderLinkId : String) : Option EntryExecutionSnapshot :=
  store.entrySnapshots.find orderLinkId

/-- `ORDER BY order_link_id`. -/
def loadAllEntrySnapshots : List EntryExecutionSnapshot :=
  store.entrySnapshots.rows.insertionSort fun s s' => s.orderLinkId ≤ s'.orderLinkId

def transitionEntrySnapshot (previousVersion : ℕ) (snapshot : EntryExecutionSnapshot) :
    Except Failure SqliteExecutionStore := do
  commit (← updateSnapshot previousVersion snapshot store.toTables)

def recordAcknowledgementAndSnapshot (previousVersion : ℕ) (acknowledgement : OrderRequestAck)
    (snapshot : EntryExecutionSnapshot) : Except Failure SqliteExecutionStore := do
  refuseIf (acknowledgement.orderLinkId ≠ snapshot.orderLinkId)
    "acknowledgement and snapshot client IDs differ"
  let t ← acknowledge acknowledgement store.toTables
  commit (← updateSnapshot previousVersion snapshot t)

/-! ## Executions -/

def hasExecution (executionId : String) : Bool := (store.executions.find executionId).isSome

/-- `ORDER BY executed_at, execution_id`. -/
def loadAllExecutions : List ExecutionUpdate :=
  ((store.executions.rows.map ExecutionRow.execution).insertionSort fun e e' =>
    e.executedAt < e'.executedAt ∨ e.executedAt = e'.executedAt ∧ e.executionId ≤ e'.executionId)

/-- The row of an execution; the digest is stored in lower case. -/
def executionRow (execution : ExecutionUpdate) (receivedAt : Time) (payloadHash : PayloadHash) :
    ExecutionRow :=
  { execution, receivedAt, payloadHash := payloadHash.text.toLower }

/-- `INSERT OR IGNORE INTO executions`: whether the execution is new, and the tables with it. -/
def insertExecutionIfNew (execution : ExecutionUpdate) (receivedAt : Time)
    (payloadHash : PayloadHash) (t : Tables) : Except Failure (Option Tables) :=
  match t.executions.insert (executionRow execution receivedAt payloadHash) with
  | none => .ok none
  | some executions =>
    if t.Known execution.orderLinkId then .ok (some { t with executions })
    else .error .integrityError

def recordExecution (execution : ExecutionUpdate) (receivedAt : Time) (payloadHash : PayloadHash) :
    Except Failure (Bool × SqliteExecutionStore) := do
  match ← insertExecutionIfNew execution receivedAt payloadHash store.toTables with
  | none => pure (false, store)
  | some t => pure (true, ← commit t)

def recordExecutionAndSnapshot (previousVersion : ℕ) (execution : ExecutionUpdate)
    (receivedAt : Time) (payloadHash : PayloadHash) (snapshot : EntryExecutionSnapshot) :
    Except Failure (Bool × SqliteExecutionStore) := do
  refuseIf (execution.orderLinkId ≠ snapshot.orderLinkId)
    "execution and snapshot client IDs differ"
  match ← insertExecutionIfNew execution receivedAt payloadHash store.toTables with
  | none => pure (false, store)
  | some t => pure (true, ← commit (← updateSnapshot previousVersion snapshot t))

/-! ## Protections -/

/-- `_update_protection_snapshot`. -/
def updateProtectionSnapshot (previousVersion : ℕ) (snapshot : ProtectionSnapshot) (t : Tables) :
    Except Failure Tables := do
  refuseIf (snapshot.version ≠ previousVersion + 1)
    "new protection version must increment exactly once"
  let protectionSnapshots ← orFail
    (.concurrentSnapshotUpdate "protection snapshot version changed before transaction commit")
    (t.protectionSnapshots.swap (fun p => p.version) previousVersion snapshot)
  pure { t with protectionSnapshots }

def persistProtectionIntent (request : PlaceOrderRequest) (snapshot : ProtectionSnapshot)
    (persistedAt : Time) : Except Failure SqliteExecutionStore := do
  refuseIf (request.orderLinkId ≠ snapshot.stopOrderLinkId)
    "request and stop snapshot client IDs differ"
  integrityAs "protection intent is already persisted" do
    let t ← insertOrderIntent request persistedAt store.toTables
    let protectionSnapshots ← orFail .integrityError (t.protectionSnapshots.insert snapshot)
    commit { t with protectionSnapshots }

def persistTakeProfitIntent (previousVersion : ℕ) (request : PlaceOrderRequest)
    (snapshot : ProtectionSnapshot) (persistedAt : Time) :
    Except Failure SqliteExecutionStore := do
  refuseIf (some request.orderLinkId ≠ snapshot.tpOrderLinkId)
    "request and TP snapshot client IDs differ"
  integrityAs "TP intent is already persisted" do
    let t ← insertOrderIntent request persistedAt store.toTables
    commit (← updateProtectionSnapshot previousVersion snapshot t)

def persistReplacementStopIntent (previousVersion : ℕ) (request : PlaceOrderRequest)
    (snapshot : ProtectionSnapshot) (persistedAt : Time) :
    Except Failure SqliteExecutionStore := do
  refuseIf (request.orderLinkId ≠ snapshot.stopOrderLinkId)
    "request and replacement stop client IDs differ"
  integrityAs "replacement stop intent is already persisted" do
    let t ← insertOrderIntent request persistedAt store.toTables
    commit (← updateProtectionSnapshot previousVersion snapshot t)

def loadProtectionSnapshot (entryOrderLinkId : String) : Option ProtectionSnapshot :=
  store.protectionSnapshots.find entryOrderLinkId

/-- `WHERE stop_order_link_id = ? OR tp_order_link_id = ?`, the first row. -/
def loadProtectionSnapshotByExitId (orderLinkId : String) : Option ProtectionSnapshot :=
  store.protectionSnapshots.rows.find? fun p =>
    p.stopOrderLinkId = orderLinkId ∨ p.tpOrderLinkId = some orderLinkId

/-- `ORDER BY entry_order_link_id`. -/
def loadAllProtectionSnapshots : List ProtectionSnapshot :=
  store.protectionSnapshots.rows.insertionSort fun p p' =>
    p.entryOrderLinkId ≤ p'.entryOrderLinkId

def transitionProtectionSnapshot (previousVersion : ℕ) (snapshot : ProtectionSnapshot) :
    Except Failure SqliteExecutionStore := do
  commit (← updateProtectionSnapshot previousVersion snapshot store.toTables)

def recordExitExecutionAndSnapshot (previousVersion : ℕ) (execution : ExecutionUpdate)
    (receivedAt : Time) (payloadHash : PayloadHash) (snapshot : ProtectionSnapshot) :
    Except Failure (Bool × SqliteExecutionStore) := do
  match ← insertExecutionIfNew execution receivedAt payloadHash store.toTables with
  | none => pure (false, store)
  | some t => pure (true, ← commit (← updateProtectionSnapshot previousVersion snapshot t))

/-! ## Recovery debts -/

def loadRecoveryDebtSnapshot (levelId : ℕ) : Option RecoveryDebtSnapshot :=
  store.recoveryDebts.find levelId

def persistRecoveryDebtSnapshot (snapshot : RecoveryDebtSnapshot) :
    Except Failure SqliteExecutionStore := do
  let recoveryDebts ← orFail (.valueError "recovery debt snapshot already exists")
    (store.recoveryDebts.insert snapshot)
  commit { store.toTables with recoveryDebts }

def transitionRecoveryDebtSnapshot (previousVersion : ℕ) (snapshot : RecoveryDebtSnapshot) :
    Except Failure SqliteExecutionStore := do
  refuseIf (snapshot.version ≠ previousVersion + 1)
    "new debt version must increment exactly once"
  let recoveryDebts ← orFail
    (.concurrentSnapshotUpdate "recovery debt version changed before transaction commit")
    (store.recoveryDebts.swap (fun d => d.version) previousVersion snapshot)
  commit { store.toTables with recoveryDebts }

/-! ## What the transactions do

A snapshot that keeps the ids of the row it replaces breaks no constraint, so its update depends
on the version alone. -/

variable {store : SqliteExecutionStore}

theorem commit_eq_ok {t : Tables} {s : SqliteExecutionStore} :
    commit t = .ok s ↔ s.toTables = t := by
  unfold commit
  constructor
  · intro h
    split at h
    · obtain rfl := Except.ok.inj h
      rfl
    · exact absurd h (by simp)
  · rintro rfl
    rw [dif_pos s.constraints]

theorem orFail_eq_ok {α : Type} {failure : Failure} {x : Option α} {a : α} :
    orFail failure x = .ok a ↔ x = some a := by
  cases x <;> simp [orFail]

theorem integrityAs_eq_ok {α : Type} {message : String} {x : Except Failure α} {a : α} :
    integrityAs message x = .ok a ↔ x = .ok a := by
  cases x with
  | ok b => exact Iff.rfl
  | error failure => cases failure <;> simp [integrityAs]

theorem insertOrderIntent_eq_ok {request : PlaceOrderRequest} {persistedAt : Time}
    {t t' : Tables} (h : insertOrderIntent request persistedAt t = .ok t') :
    ∃ orderIntents, t' = { t with orderIntents } := by
  simp only [insertOrderIntent, bind_eq_ok] at h
  obtain ⟨orderIntents, -, ht⟩ := h
  exact ⟨orderIntents, (Except.ok.inj ht).symm⟩

theorem acknowledge_eq_ok {acknowledgement : OrderRequestAck} {t t' : Tables}
    (h : acknowledge acknowledgement t = .ok t') : ∃ orderIntents, t' = { t with orderIntents } := by
  unfold acknowledge at h
  split at h
  · exact absurd h (by simp)
  · simp only [bind_eq_ok] at h
    obtain ⟨orderIntents, -, ht⟩ := h
    exact ⟨orderIntents, (Except.ok.inj ht).symm⟩

theorem updateProtectionSnapshot_eq_ok {previousVersion : ℕ} {snapshot : ProtectionSnapshot}
    {t t' : Tables} (h : updateProtectionSnapshot previousVersion snapshot t = .ok t') :
    ∃ protectionSnapshots, t.protectionSnapshots.swap (fun p => p.version) previousVersion snapshot =
        some protectionSnapshots ∧ t' = { t with protectionSnapshots } := by
  simp only [updateProtectionSnapshot, bind_eq_ok, orFail_eq_ok] at h
  obtain ⟨-, -, protectionSnapshots, hswap, ht⟩ := h
  exact ⟨protectionSnapshots, hswap, (Except.ok.inj ht).symm⟩

/-- The rows after a swap are rows that were there, or the new one. -/
theorem mem_of_update {previousVersion : ℕ} {snapshot p : ProtectionSnapshot} {t t' : Tables}
    (h : updateProtectionSnapshot previousVersion snapshot t = .ok t')
    (hp : p ∈ t'.protectionSnapshots.rows) : p ∈ t.protectionSnapshots.rows ∨ p = snapshot := by
  obtain ⟨protectionSnapshots, hswap, rfl⟩ := updateProtectionSnapshot_eq_ok h
  rw [(KeyedTable.swap_eq_some.mp hswap).2, List.mem_map] at hp
  obtain ⟨q, hq, rfl⟩ := hp
  split
  · exact .inr rfl
  · exact .inl hq

/-- `p'` may stand where `p` stood: same ids, next version. -/
structure Succeeds (p p' : ProtectionSnapshot) : Prop where
  entry : p'.entryOrderLinkId = p.entryOrderLinkId
  stop : p'.stopOrderLinkId = p.stopOrderLinkId
  tp : p'.tpOrderLinkId = p.tpOrderLinkId
  version : p'.version = p.version + 1

/-- The store after a protection row was replaced and nothing else was touched but, perhaps, the
    executions. -/
structure Replaced (store store' : SqliteExecutionStore) (p' : ProtectionSnapshot) : Prop where
  swap : store.protectionSnapshots.swap (fun p => p.version) (p'.version - 1) p' =
    some store'.protectionSnapshots
  orderIntents : store'.orderIntents = store.orderIntents
  entrySnapshots : store'.entrySnapshots = store.entrySnapshots
  recoveryDebts : store'.recoveryDebts = store.recoveryDebts

theorem Replaced.find {store' : SqliteExecutionStore} {p' : ProtectionSnapshot}
    (h : Replaced store store' p') (k : String) :
    store'.loadProtectionSnapshot k =
      if k = p'.entryOrderLinkId then some p' else store.loadProtectionSnapshot k :=
  KeyedTable.find_swap h.swap k

theorem constraints_of_swap {t : Tables} (h : t.Constraints) {p p' : ProtectionSnapshot}
    {protectionSnapshots : KeyedTable fun row : ProtectionSnapshot => row.entryOrderLinkId}
    (hp : t.protectionSnapshots.find p'.entryOrderLinkId = some p) (hs : Succeeds p p')
    (hswap : t.protectionSnapshots.swap (fun p => p.version) p.version p' =
      some protectionSnapshots) :
    Tables.Constraints { t with protectionSnapshots } where
  stopIds := by
    have := KeyedTable.map_swap (f := fun p => p.stopOrderLinkId) hswap hp hs.stop
    simpa only [this] using h.stopIds
  tpIds := by
    have := KeyedTable.map_swap (f := fun p => p.tpOrderLinkId) hswap hp hs.tp
    have hfilter : ∀ rows : List ProtectionSnapshot, rows.filterMap (fun p => p.tpOrderLinkId) =
        (rows.map fun p => p.tpOrderLinkId).filterMap id := fun rows => by
      rw [List.filterMap_map]
      rfl
    rw [hfilter, this, ← hfilter]
    exact h.tpIds
  entryIntents := h.entryIntents
  executionIntents := h.executionIntents
  protectionIntents := by
    have := KeyedTable.map_swap (f := Tables.references) hswap hp
      (by simp [Tables.references, hs.entry, hs.stop, hs.tp])
    intro ids hids
    rw [this] at hids
    exact h.protectionIntents ids hids

theorem transitionProtectionSnapshot_ok {p p' : ProtectionSnapshot}
    (hp : store.loadProtectionSnapshot p.entryOrderLinkId = some p) (hs : Succeeds p p') :
    ∃ store', store.transitionProtectionSnapshot p.version p' = .ok store' ∧
      Replaced store store' p' ∧ store'.executions = store.executions := by
  have hp' : store.protectionSnapshots.find p'.entryOrderLinkId = some p := by
    rw [hs.entry]
    exact hp
  obtain ⟨t', hswap⟩ := KeyedTable.exists_swap hp' rfl
  have hc := constraints_of_swap store.constraints hp' hs hswap
  refine ⟨⟨{ store.toTables with protectionSnapshots := t' }, hc⟩, ?_, ?_, rfl⟩
  · simp only [transitionProtectionSnapshot, updateProtectionSnapshot, bind_eq_ok, refuseIf_eq_ok,
      exists_const, orFail_eq_ok, commit_eq_ok]
    exact ⟨_, ⟨not_not.mpr hs.version, t', hswap, rfl⟩, rfl⟩
  · exact ⟨by rw [hs.version]; exact hswap, rfl, rfl, rfl⟩

theorem recordExitExecutionAndSnapshot_ok {p p' : ProtectionSnapshot} {e : ExecutionUpdate}
    (receivedAt : Time) (payloadHash : PayloadHash)
    (hp : store.loadProtectionSnapshot p.entryOrderLinkId = some p) (hs : Succeeds p p')
    (hnew : store.hasExecution e.executionId = false)
    (hknown : store.Known e.orderLinkId) :
    ∃ store', store.recordExitExecutionAndSnapshot p.version e receivedAt payloadHash p' =
        .ok (true, store') ∧ Replaced store store' p' ∧
      ∀ id, store'.hasExecution id = (decide (id = e.executionId) || store.hasExecution id) := by
  have hp' : store.protectionSnapshots.find p'.entryOrderLinkId = some p := by
    rw [hs.entry]
    exact hp
  obtain ⟨t', hswap⟩ := KeyedTable.exists_swap hp' rfl
  have hfree : store.executions.find e.executionId = none :=
    Option.isNone_iff_eq_none.mp (by simpa [hasExecution] using hnew)
  obtain ⟨executions, hinsert⟩ :=
    KeyedTable.exists_insert (r := executionRow e receivedAt payloadHash) hfree
  have hinserted : ({ store.toTables with executions } : Tables).Constraints :=
    { stopIds := store.constraints.stopIds
      tpIds := store.constraints.tpIds
      entryIntents := store.constraints.entryIntents
      protectionIntents := store.constraints.protectionIntents
      executionIntents := by
        intro id hid
        simp only [(KeyedTable.insert_eq_some.mp hinsert).2, List.map_append, List.mem_append,
          List.map_cons, List.map_nil, List.mem_singleton] at hid
        rcases hid with hid | rfl
        · exact store.constraints.executionIntents id hid
        · exact hknown }
  have hc := constraints_of_swap hinserted hp' hs hswap
  refine ⟨⟨{ store.toTables with executions, protectionSnapshots := t' }, hc⟩, ?_, ?_, ?_⟩
  · have hnew' : insertExecutionIfNew e receivedAt payloadHash store.toTables =
        .ok (some { store.toTables with executions }) := by
      unfold insertExecutionIfNew
      rw [hinsert]
      exact if_pos hknown
    simp only [recordExitExecutionAndSnapshot, hnew', updateProtectionSnapshot, bind_eq_ok,
      refuseIf_eq_ok, exists_const, orFail_eq_ok, Except.ok.injEq, exists_eq_left']
    exact ⟨_, ⟨not_not.mpr hs.version, t', hswap, rfl⟩, _, commit_eq_ok.mpr rfl, rfl⟩
  · exact ⟨by rw [hs.version]; exact hswap, rfl, rfl, rfl⟩
  · intro id
    unfold hasExecution
    rw [KeyedTable.find_insert hinsert]
    by_cases hid : id = e.executionId
    · subst hid
      simp [executionRow]
    · simp [executionRow, hid]

/-! Entries and debts. A write of an entry goes through when the row is at the version it was read
at, and touches no debt. -/

section Entries

variable {store' : SqliteExecutionStore} {previousVersion : ℕ}
  {snapshot : EntryExecutionSnapshot}

theorem updateSnapshot_eq_ok {t t' : Tables}
    (h : updateSnapshot previousVersion snapshot t = .ok t') :
    ∃ entrySnapshots, t' = { t with entrySnapshots } := by
  simp only [updateSnapshot, bind_eq_ok] at h
  obtain ⟨-, -, entrySnapshots, -, ht⟩ := h
  exact ⟨entrySnapshots, (Except.ok.inj ht).symm⟩

theorem transitionEntrySnapshot_eq_ok
    (h : store.transitionEntrySnapshot previousVersion snapshot = .ok store') :
    ∃ entrySnapshots, store'.toTables = { store.toTables with entrySnapshots } := by
  simp only [transitionEntrySnapshot, bind_eq_ok, commit_eq_ok] at h
  obtain ⟨t, ht, hstore⟩ := h
  exact hstore ▸ updateSnapshot_eq_ok ht

theorem recordAcknowledgementAndSnapshot_eq_ok {acknowledgement : OrderRequestAck}
    (h : store.recordAcknowledgementAndSnapshot previousVersion acknowledgement snapshot =
      .ok store') :
    ∃ orderIntents entrySnapshots,
      store'.toTables = { store.toTables with orderIntents, entrySnapshots } := by
  simp only [recordAcknowledgementAndSnapshot, bind_eq_ok, commit_eq_ok] at h
  obtain ⟨-, -, t, ht, t', ht', hstore⟩ := h
  obtain ⟨orderIntents, rfl⟩ := acknowledge_eq_ok ht
  obtain ⟨entrySnapshots, rfl⟩ := updateSnapshot_eq_ok ht'
  exact ⟨orderIntents, entrySnapshots, hstore⟩

theorem persistEntryIntent_eq_ok {request : PlaceOrderRequest} {persistedAt : Time}
    (h : store.persistEntryIntent request snapshot persistedAt = .ok store') :
    ∃ orderIntents entrySnapshots,
      store'.toTables = { store.toTables with orderIntents, entrySnapshots } := by
  simp only [persistEntryIntent, bind_eq_ok, integrityAs_eq_ok, orFail_eq_ok, commit_eq_ok] at h
  obtain ⟨-, -, t, ht, entrySnapshots, -, hstore⟩ := h
  obtain ⟨orderIntents, rfl⟩ := insertOrderIntent_eq_ok ht
  exact ⟨orderIntents, entrySnapshots, hstore⟩

theorem insertExecutionIfNew_eq_ok {execution : ExecutionUpdate} {receivedAt : Time}
    {payloadHash : PayloadHash} {t t' : Tables}
    (h : insertExecutionIfNew execution receivedAt payloadHash t = .ok (some t')) :
    ∃ executions, t' = { t with executions } := by
  unfold insertExecutionIfNew at h
  split at h
  · exact absurd h (by simp)
  · split at h
    · exact ⟨_, (Option.some.inj (Except.ok.inj h)).symm⟩
    · exact absurd h (by simp)

theorem recordExecutionAndSnapshot_eq_ok {execution : ExecutionUpdate} {receivedAt : Time}
    {payloadHash : PayloadHash} {inserted : Bool}
    (h : store.recordExecutionAndSnapshot previousVersion execution receivedAt payloadHash
      snapshot = .ok (inserted, store')) :
    ∃ executions entrySnapshots,
      store'.toTables = { store.toTables with executions, entrySnapshots } := by
  simp only [recordExecutionAndSnapshot, bind_eq_ok] at h
  obtain ⟨-, -, t, ht, h⟩ := h
  cases t with
  | none =>
    obtain ⟨-, rfl⟩ := Prod.mk.inj (Except.ok.inj h)
    exact ⟨_, _, rfl⟩
  | some t =>
    obtain ⟨executions, rfl⟩ := insertExecutionIfNew_eq_ok ht
    simp only [bind_eq_ok] at h
    obtain ⟨t', ht', s, hs, h⟩ := h
    obtain ⟨-, rfl⟩ := Prod.mk.inj (Except.ok.inj h)
    obtain ⟨entrySnapshots, rfl⟩ := updateSnapshot_eq_ok ht'
    exact ⟨executions, entrySnapshots, commit_eq_ok.mp hs⟩

/-! Which entry rows and executions each write leaves behind. -/

/-- The entry's row was at the version that was read, and is the snapshot now; with it, these
    executions. -/
structure WritesEntry (t t' : Tables) (previousVersion : ℕ) (snapshot : EntryExecutionSnapshot)
    (new : List ExecutionRow) : Prop where
  swap : t.entrySnapshots.swap (fun s => s.version) previousVersion snapshot =
    some t'.entrySnapshots
  executions : t'.executions.rows = t.executions.rows ++ new

theorem writesEntry_of_update {t t' : Tables}
    (h : updateSnapshot previousVersion snapshot t = .ok t') :
    WritesEntry t t' previousVersion snapshot [] := by
  simp only [updateSnapshot, bind_eq_ok, orFail_eq_ok] at h
  obtain ⟨-, -, entrySnapshots, hswap, ht⟩ := h
  obtain rfl := Except.ok.inj ht
  exact ⟨hswap, (List.append_nil _).symm⟩

theorem writesEntry_of_transition
    (h : store.transitionEntrySnapshot previousVersion snapshot = .ok store') :
    WritesEntry store.toTables store'.toTables previousVersion snapshot [] := by
  simp only [transitionEntrySnapshot, bind_eq_ok, commit_eq_ok] at h
  obtain ⟨t, ht, hstore⟩ := h
  rw [hstore]
  exact writesEntry_of_update ht

theorem writesEntry_of_acknowledgement {acknowledgement : OrderRequestAck}
    (h : store.recordAcknowledgementAndSnapshot previousVersion acknowledgement snapshot =
      .ok store') :
    WritesEntry store.toTables store'.toTables previousVersion snapshot [] := by
  simp only [recordAcknowledgementAndSnapshot, bind_eq_ok, commit_eq_ok] at h
  obtain ⟨-, -, t, ht, t', ht', hstore⟩ := h
  obtain ⟨orderIntents, rfl⟩ := acknowledge_eq_ok ht
  rw [hstore]
  obtain ⟨hswap, hexecutions⟩ := writesEntry_of_update ht'
  exact ⟨hswap, hexecutions⟩

/-- An execution that is new goes in together with the snapshot; one that is not changes
    nothing. -/
theorem writesEntry_of_record {execution : ExecutionUpdate} {receivedAt : Time}
    {payloadHash : PayloadHash} {inserted : Bool}
    (h : store.recordExecutionAndSnapshot previousVersion execution receivedAt payloadHash
      snapshot = .ok (inserted, store')) :
    (inserted = false ∧ store' = store) ∨
      (inserted = true ∧ WritesEntry store.toTables store'.toTables previousVersion snapshot
        [executionRow execution receivedAt payloadHash]) := by
  simp only [recordExecutionAndSnapshot, bind_eq_ok] at h
  obtain ⟨-, -, t, ht, h⟩ := h
  unfold insertExecutionIfNew at ht
  split at ht
  · obtain rfl := Except.ok.inj ht
    obtain ⟨rfl, rfl⟩ := Prod.mk.inj (Except.ok.inj h)
    exact .inl ⟨rfl, rfl⟩
  · rename_i executions hinsert
    split at ht
    · obtain rfl := Except.ok.inj ht
      simp only [bind_eq_ok, commit_eq_ok] at h
      obtain ⟨t', ht', s, hs, h⟩ := h
      obtain ⟨rfl, rfl⟩ := Prod.mk.inj (Except.ok.inj h)
      obtain ⟨hswap, hexecutions⟩ := writesEntry_of_update ht'
      refine .inr ⟨rfl, ?_⟩
      rw [hs]
      refine ⟨hswap, ?_⟩
      rw [hexecutions, List.append_nil]
      exact (KeyedTable.insert_eq_some.mp hinsert).2
    · exact absurd ht (by simp)

/-- A new entry has a client id nothing was known of. -/
theorem persistEntryIntent_writes {request : PlaceOrderRequest} {persistedAt : Time}
    (h : store.persistEntryIntent request snapshot persistedAt = .ok store') :
    ¬ store.Known snapshot.orderLinkId ∧
      store.entrySnapshots.insert snapshot = some store'.entrySnapshots ∧
      store'.executions = store.executions := by
  simp only [persistEntryIntent, bind_eq_ok, integrityAs_eq_ok, orFail_eq_ok, commit_eq_ok,
    refuseIf_eq_ok, not_not] at h
  obtain ⟨-, hid, t, ht, entrySnapshots, hinsert, hstore⟩ := h
  simp only [insertOrderIntent, bind_eq_ok, orFail_eq_ok] at ht
  obtain ⟨orderIntents, hintent, ht⟩ := ht
  obtain rfl := Except.ok.inj ht
  refine ⟨?_, by rw [hstore]; exact hinsert, by rw [hstore]⟩
  rintro ⟨row, hrow, hrowId⟩
  exact KeyedTable.find_eq_none.mp (KeyedTable.insert_eq_some.mp hintent).1 row hrow
    (hrowId.trans hid.symm)

theorem persistRecoveryDebtSnapshot_eq_ok {debt : RecoveryDebtSnapshot}
    (h : store.persistRecoveryDebtSnapshot debt = .ok store') (levelId : ℕ) :
    store'.loadRecoveryDebtSnapshot levelId =
      if levelId = debt.levelId then some debt else store.loadRecoveryDebtSnapshot levelId := by
  simp only [persistRecoveryDebtSnapshot, bind_eq_ok, orFail_eq_ok, commit_eq_ok] at h
  obtain ⟨recoveryDebts, hinsert, hstore⟩ := h
  have hdebts : store'.recoveryDebts = recoveryDebts := by rw [hstore]
  unfold loadRecoveryDebtSnapshot
  rw [hdebts]
  exact KeyedTable.find_insert hinsert levelId

theorem transitionRecoveryDebtSnapshot_eq_ok {debt : RecoveryDebtSnapshot}
    (h : store.transitionRecoveryDebtSnapshot previousVersion debt = .ok store') (levelId : ℕ) :
    store'.loadRecoveryDebtSnapshot levelId =
      if levelId = debt.levelId then some debt else store.loadRecoveryDebtSnapshot levelId := by
  simp only [transitionRecoveryDebtSnapshot, bind_eq_ok, orFail_eq_ok, commit_eq_ok] at h
  obtain ⟨-, -, recoveryDebts, hswap, hstore⟩ := h
  have hdebts : store'.recoveryDebts = recoveryDebts := by rw [hstore]
  unfold loadRecoveryDebtSnapshot
  rw [hdebts]
  exact KeyedTable.find_swap hswap levelId

/-- A swap of an entry row, over intents that know the same ids, breaks no constraint. -/
theorem exists_updateSnapshot {t : Tables} (ht : t.Constraints) {previous : EntryExecutionSnapshot}
    (hfind : t.entrySnapshots.find snapshot.orderLinkId = some previous)
    (hprevious : previous.version = previousVersion)
    (hversion : snapshot.version = previousVersion + 1) :
    ∃ t', updateSnapshot previousVersion snapshot t = .ok t' ∧ t'.Constraints := by
  obtain ⟨entrySnapshots, hswap⟩ : ∃ entrySnapshots,
      t.entrySnapshots.swap (fun s => s.version) previousVersion snapshot = some entrySnapshots :=
    KeyedTable.exists_swap hfind hprevious
  have hkeys := KeyedTable.map_swap (f := fun s => s.orderLinkId) hswap hfind
    (KeyedTable.find_eq_some.mp hfind).2.symm
  refine ⟨{ t with entrySnapshots }, ?_, ht.stopIds, ht.tpIds, ?_, ht.executionIntents,
    ht.protectionIntents⟩
  · simp only [updateSnapshot, bind_eq_ok, refuseIf_eq_ok, exists_const, orFail_eq_ok]
    exact ⟨not_not.mpr hversion, entrySnapshots, hswap, rfl⟩
  · intro id hid
    rw [hkeys] at hid
    exact ht.entryIntents id hid

theorem transitionEntrySnapshot_ok {previous : EntryExecutionSnapshot}
    (hfind : store.loadEntrySnapshot snapshot.orderLinkId = some previous)
    (hprevious : previous.version = previousVersion)
    (hversion : snapshot.version = previousVersion + 1) :
    ∃ store', store.transitionEntrySnapshot previousVersion snapshot = .ok store' := by
  obtain ⟨t, ht, hc⟩ := exists_updateSnapshot store.constraints hfind hprevious hversion
  refine ⟨⟨t, hc⟩, ?_⟩
  simp only [transitionEntrySnapshot, bind_eq_ok, commit_eq_ok]
  exact ⟨t, ht, rfl⟩

theorem recordAcknowledgementAndSnapshot_ok {previous : EntryExecutionSnapshot}
    {acknowledgement : OrderRequestAck}
    (hid : acknowledgement.orderLinkId = snapshot.orderLinkId)
    (hknown : store.Known snapshot.orderLinkId)
    (hfind : store.loadEntrySnapshot snapshot.orderLinkId = some previous)
    (hprevious : previous.version = previousVersion)
    (hversion : snapshot.version = previousVersion + 1) :
    ∃ store', store.recordAcknowledgementAndSnapshot previousVersion acknowledgement snapshot =
      .ok store' := by
  obtain ⟨row, hrow, hrowId⟩ := hknown
  have hintent : store.orderIntents.find acknowledgement.orderLinkId = some row :=
    KeyedTable.find_eq_some.mpr ⟨hrow, hrowId.trans hid.symm⟩
  let acknowledged : OrderIntentRow :=
    { row with
      exchangeOrderId := some acknowledgement.orderId
      acknowledgedAt := some acknowledgement.acknowledgedAt }
  have hrow' : store.orderIntents.find acknowledged.request.orderLinkId = some row :=
    KeyedTable.find_of_mem hrow
  obtain ⟨orderIntents, hswap⟩ :
      ∃ orderIntents, store.orderIntents.swap (fun _ => 0) 0 acknowledged = some orderIntents :=
    KeyedTable.exists_swap hrow' rfl
  -- The row keeps its client id, so whatever was known still is.
  have hkeys := KeyedTable.map_swap (f := fun r => r.request.orderLinkId) hswap hrow' rfl
  have hsame : ∀ id, store.Known id → Tables.Known { store.toTables with orderIntents } id := by
    rintro id ⟨r, hr, rfl⟩
    have hmem := List.mem_map_of_mem (f := fun r : OrderIntentRow => r.request.orderLinkId) hr
    rw [← hkeys, List.mem_map] at hmem
    exact hmem
  have hc : Tables.Constraints { store.toTables with orderIntents } :=
    ⟨store.constraints.stopIds, store.constraints.tpIds,
      fun id h => hsame id (store.constraints.entryIntents id h),
      fun id h => hsame id (store.constraints.executionIntents id h),
      fun ids hids id h => hsame id (store.constraints.protectionIntents ids hids id h)⟩
  obtain ⟨t, ht, hc'⟩ := exists_updateSnapshot hc hfind hprevious hversion
  refine ⟨⟨t, hc'⟩, ?_⟩
  simp only [recordAcknowledgementAndSnapshot, bind_eq_ok, refuseIf_eq_ok, exists_const,
    commit_eq_ok]
  refine ⟨not_not.mpr hid, { store.toTables with orderIntents }, ?_, t, ht, rfl⟩
  unfold acknowledge
  rw [hintent]
  simp only [bind_eq_ok, orFail_eq_ok]
  exact ⟨orderIntents, hswap, rfl⟩

end Entries

/-! Which protection rows each of the writes of an installation can leave behind. -/

section Rows

variable {store' : SqliteExecutionStore} {previousVersion : ℕ} {request : PlaceOrderRequest}
  {snapshot : ProtectionSnapshot} {persistedAt : Time}

theorem rows_of_recordAcknowledgement {acknowledgement : OrderRequestAck}
    (h : store.recordAcknowledgement acknowledgement = .ok store') :
    store'.protectionSnapshots = store.protectionSnapshots := by
  simp only [recordAcknowledgement, bind_eq_ok, commit_eq_ok] at h
  obtain ⟨t, ht, hstore⟩ := h
  obtain ⟨orderIntents, rfl⟩ := acknowledge_eq_ok ht
  rw [hstore]

theorem rows_of_persistProtectionIntent
    (h : store.persistProtectionIntent request snapshot persistedAt = .ok store') :
    store'.protectionSnapshots.rows = store.protectionSnapshots.rows ++ [snapshot] := by
  simp only [persistProtectionIntent, bind_eq_ok, integrityAs_eq_ok, orFail_eq_ok,
    commit_eq_ok] at h
  obtain ⟨-, -, t, ht, protectionSnapshots, hinsert, hstore⟩ := h
  obtain ⟨orderIntents, rfl⟩ := insertOrderIntent_eq_ok ht
  rw [hstore]
  exact (KeyedTable.insert_eq_some.mp hinsert).2

theorem mem_of_persistTakeProfitIntent
    (h : store.persistTakeProfitIntent previousVersion request snapshot persistedAt = .ok store')
    {p : ProtectionSnapshot} (hp : p ∈ store'.protectionSnapshots.rows) :
    p ∈ store.protectionSnapshots.rows ∨ p = snapshot := by
  simp only [persistTakeProfitIntent, bind_eq_ok, integrityAs_eq_ok, commit_eq_ok] at h
  obtain ⟨-, -, t, ht, t', ht', hstore⟩ := h
  obtain ⟨orderIntents, rfl⟩ := insertOrderIntent_eq_ok ht
  rw [hstore] at hp
  have hrows := mem_of_update ht' hp
  exact hrows

theorem mem_of_transitionProtectionSnapshot
    (h : store.transitionProtectionSnapshot previousVersion snapshot = .ok store')
    {p : ProtectionSnapshot} (hp : p ∈ store'.protectionSnapshots.rows) :
    p ∈ store.protectionSnapshots.rows ∨ p = snapshot := by
  simp only [transitionProtectionSnapshot, bind_eq_ok, commit_eq_ok] at h
  obtain ⟨t, ht, hstore⟩ := h
  rw [hstore] at hp
  exact mem_of_update ht hp

end Rows

/-! What a write over a protection row, and a new intent, leave behind. -/

section Writes

variable {store' : SqliteExecutionStore} {previousVersion : ℕ} {request : PlaceOrderRequest}
  {snapshot : ProtectionSnapshot} {persistedAt : Time}

/-- The row of the snapshot's level was at the version that was read, and is the snapshot now. -/
structure Overwrites (t t' : Tables) (previousVersion : ℕ) (snapshot : ProtectionSnapshot) :
    Prop where
  previous : ∃ p ∈ t.protectionSnapshots.rows,
    p.entryOrderLinkId = snapshot.entryOrderLinkId ∧ p.version = previousVersion
  rows : t'.protectionSnapshots.rows = t.protectionSnapshots.rows.map fun p =>
    if p.entryOrderLinkId = snapshot.entryOrderLinkId then snapshot else p
  executions : t'.executions = t.executions

/-- A new intent, and nothing else that is read for exits. -/
structure Intends (t t' : Tables) (orderLinkId : String) : Prop where
  unknown : ¬ t.Known orderLinkId
  known : ∀ id, t'.Known id ↔ id = orderLinkId ∨ t.Known id

theorem overwrites_of_update {t t' : Tables}
    (h : updateProtectionSnapshot previousVersion snapshot t = .ok t') :
    Overwrites t t' previousVersion snapshot ∧ t'.orderIntents = t.orderIntents := by
  obtain ⟨protectionSnapshots, hswap, rfl⟩ := updateProtectionSnapshot_eq_ok h
  obtain ⟨⟨p, hp, hversion⟩, hrows⟩ := KeyedTable.swap_eq_some.mp hswap
  obtain ⟨hmem, hkey⟩ := KeyedTable.find_eq_some.mp hp
  exact ⟨⟨⟨p, hmem, hkey, hversion⟩, hrows, rfl⟩, rfl⟩

theorem intends_of_insert {t t' : Tables} (h : insertOrderIntent request persistedAt t = .ok t') :
    Intends t t' request.orderLinkId ∧ t'.protectionSnapshots = t.protectionSnapshots ∧
      t'.executions = t.executions := by
  simp only [insertOrderIntent, bind_eq_ok, orFail_eq_ok] at h
  obtain ⟨orderIntents, hinsert, ht⟩ := h
  obtain rfl := Except.ok.inj ht
  obtain ⟨hnone, hrows⟩ := KeyedTable.insert_eq_some.mp hinsert
  refine ⟨⟨?_, fun id => ?_⟩, rfl, rfl⟩
  · rintro ⟨row, hrow, hid⟩
    exact KeyedTable.find_eq_none.mp hnone row hrow hid
  · unfold Tables.Known
    simp only [hrows, List.mem_append, List.mem_singleton]
    constructor
    · rintro ⟨row, hrow | rfl, rfl⟩
      · exact .inr ⟨row, hrow, rfl⟩
      · exact .inl rfl
    · rintro (rfl | ⟨row, hrow, rfl⟩)
      · exact ⟨_, .inr rfl, rfl⟩
      · exact ⟨row, .inl hrow, rfl⟩

theorem known_of_acknowledge {acknowledgement : OrderRequestAck} {t t' : Tables}
    (h : acknowledge acknowledgement t = .ok t') (id : String) : t'.Known id ↔ t.Known id := by
  unfold acknowledge at h
  split at h
  · exact absurd h (by simp)
  · rename_i row hrow
    simp only [bind_eq_ok, orFail_eq_ok] at h
    obtain ⟨orderIntents, hswap, ht⟩ := h
    obtain rfl := Except.ok.inj ht
    have hfind : t.orderIntents.find row.request.orderLinkId = some row :=
      KeyedTable.find_of_mem (KeyedTable.find_eq_some.mp hrow).1
    have hkeys := KeyedTable.map_swap (f := fun r => r.request.orderLinkId) hswap hfind rfl
    have hmem : ∀ rows : List OrderIntentRow, (∃ r ∈ rows, r.request.orderLinkId = id) ↔
        id ∈ rows.map fun r => r.request.orderLinkId := fun rows => List.mem_map.symm
    unfold Tables.Known
    rw [hmem, hmem, hkeys]

theorem known_of_recordAcknowledgement {acknowledgement : OrderRequestAck}
    (h : store.recordAcknowledgement acknowledgement = .ok store') :
    (∀ id, store'.Known id ↔ store.Known id) ∧
      store'.protectionSnapshots = store.protectionSnapshots ∧
      store'.executions = store.executions := by
  simp only [recordAcknowledgement, bind_eq_ok, commit_eq_ok] at h
  obtain ⟨t, ht, hstore⟩ := h
  have hknown := known_of_acknowledge ht
  obtain ⟨orderIntents, rfl⟩ := acknowledge_eq_ok ht
  exact ⟨fun id => by rw [hstore, hknown], by rw [hstore], by rw [hstore]⟩

theorem overwrites_of_transition
    (h : store.transitionProtectionSnapshot previousVersion snapshot = .ok store') :
    Overwrites store.toTables store'.toTables previousVersion snapshot ∧
      store'.orderIntents = store.orderIntents := by
  simp only [transitionProtectionSnapshot, bind_eq_ok, commit_eq_ok] at h
  obtain ⟨t, ht, hstore⟩ := h
  rw [hstore]
  exact overwrites_of_update ht

/-- A new intent together with the snapshot that refers to it. -/
theorem overwrites_of_intent {t t' : Tables} {t₁ : Tables}
    (hinsert : insertOrderIntent request persistedAt t = .ok t₁)
    (hupdate : updateProtectionSnapshot previousVersion snapshot t₁ = .ok t') :
    Overwrites t t' previousVersion snapshot ∧ Intends t t' request.orderLinkId := by
  obtain ⟨hintends, hrows, hexecutions⟩ := intends_of_insert hinsert
  obtain ⟨hoverwrites, hintents⟩ := overwrites_of_update hupdate
  refine ⟨⟨?_, ?_, ?_⟩, hintends.unknown, fun id => ?_⟩
  · rw [← hrows]
    exact hoverwrites.previous
  · rw [← hrows]
    exact hoverwrites.rows
  · rw [← hexecutions]
    exact hoverwrites.executions
  · unfold Tables.Known
    rw [hintents]
    exact hintends.known id

theorem overwrites_of_persistTakeProfitIntent
    (h : store.persistTakeProfitIntent previousVersion request snapshot persistedAt = .ok store') :
    some request.orderLinkId = snapshot.tpOrderLinkId ∧
      Overwrites store.toTables store'.toTables previousVersion snapshot ∧
      Intends store.toTables store'.toTables request.orderLinkId := by
  simp only [persistTakeProfitIntent, bind_eq_ok, integrityAs_eq_ok, commit_eq_ok,
    refuseIf_eq_ok, not_not] at h
  obtain ⟨-, hid, t, ht, t', ht', hstore⟩ := h
  rw [hstore]
  exact ⟨hid, overwrites_of_intent ht ht'⟩

theorem overwrites_of_persistReplacementStopIntent
    (h : store.persistReplacementStopIntent previousVersion request snapshot persistedAt =
      .ok store') :
    request.orderLinkId = snapshot.stopOrderLinkId ∧
      Overwrites store.toTables store'.toTables previousVersion snapshot ∧
      Intends store.toTables store'.toTables request.orderLinkId := by
  simp only [persistReplacementStopIntent, bind_eq_ok, integrityAs_eq_ok, commit_eq_ok,
    refuseIf_eq_ok, not_not] at h
  obtain ⟨-, hid, t, ht, t', ht', hstore⟩ := h
  rw [hstore]
  exact ⟨hid, overwrites_of_intent ht ht'⟩

theorem intends_of_persistProtectionIntent
    (h : store.persistProtectionIntent request snapshot persistedAt = .ok store') :
    request.orderLinkId = snapshot.stopOrderLinkId ∧
      (∀ p ∈ store.protectionSnapshots.rows, p.entryOrderLinkId ≠ snapshot.entryOrderLinkId) ∧
      store'.protectionSnapshots.rows = store.protectionSnapshots.rows ++ [snapshot] ∧
      Intends store.toTables store'.toTables request.orderLinkId ∧
      store'.executions = store.executions := by
  simp only [persistProtectionIntent, bind_eq_ok, integrityAs_eq_ok, orFail_eq_ok,
    commit_eq_ok, refuseIf_eq_ok, not_not] at h
  obtain ⟨-, hid, t, ht, protectionSnapshots, hinsert, hstore⟩ := h
  obtain ⟨hintends, hrows, hexecutions⟩ := intends_of_insert ht
  obtain ⟨hnone, hrows'⟩ := KeyedTable.insert_eq_some.mp hinsert
  refine ⟨hid, fun p hp => ?_, ?_, ⟨hintends.unknown, fun id => ?_⟩, ?_⟩
  · rw [← hrows] at hp
    exact KeyedTable.find_eq_none.mp hnone p hp
  · rw [hstore, ← hrows]
    exact hrows'
  · rw [hstore]
    exact hintends.known id
  · rw [hstore]
    exact hexecutions

/-- A fill that is new goes into the executions together with the snapshot; one that is not
    changes nothing. -/
theorem overwrites_of_recordExit {execution : ExecutionUpdate} {receivedAt : Time}
    {payloadHash : PayloadHash} {inserted : Bool}
    (h : store.recordExitExecutionAndSnapshot previousVersion execution receivedAt payloadHash
      snapshot = .ok (inserted, store')) :
    (inserted = false ∧ store' = store) ∨
      (inserted = true ∧ store.hasExecution execution.executionId = false ∧
        store'.executions.rows =
          store.executions.rows ++ [executionRow execution receivedAt payloadHash] ∧
        store'.orderIntents = store.orderIntents ∧
        (∃ p ∈ store.protectionSnapshots.rows,
          p.entryOrderLinkId = snapshot.entryOrderLinkId ∧ p.version = previousVersion) ∧
        store'.protectionSnapshots.rows = store.protectionSnapshots.rows.map fun p =>
          if p.entryOrderLinkId = snapshot.entryOrderLinkId then snapshot else p) := by
  simp only [recordExitExecutionAndSnapshot, bind_eq_ok] at h
  obtain ⟨t, ht, h⟩ := h
  unfold insertExecutionIfNew at ht
  split at ht
  · obtain rfl := Except.ok.inj ht
    obtain ⟨rfl, rfl⟩ := Prod.mk.inj (Except.ok.inj h)
    exact .inl ⟨rfl, rfl⟩
  · rename_i executions hinsert
    split at ht
    · obtain rfl := Except.ok.inj ht
      simp only [bind_eq_ok, commit_eq_ok] at h
      obtain ⟨t', ht', s, hs, h⟩ := h
      obtain ⟨rfl, rfl⟩ := Prod.mk.inj (Except.ok.inj h)
      obtain ⟨hnone, hrows⟩ := KeyedTable.insert_eq_some.mp hinsert
      obtain ⟨hoverwrites, hintents⟩ := overwrites_of_update ht'
      refine .inr ⟨rfl, ?_, ?_, ?_, hoverwrites.previous, ?_⟩
      · rw [hasExecution]
        exact Option.isSome_eq_false_iff.mpr (Option.isNone_iff_eq_none.mpr hnone)
      · rw [hs, hoverwrites.executions]
        exact hrows
      · rw [hs]
        exact hintents
      · rw [hs]
        exact hoverwrites.rows
    · exact absurd ht (by simp)

end Writes

/-- What a protection row refers to has an intent. -/
theorem known_of_references {p : ProtectionSnapshot}
    (hp : p ∈ store.protectionSnapshots.rows) {id : String} (hid : id ∈ Tables.references p) :
    store.Known id :=
  store.constraints.protectionIntents _ (List.mem_map_of_mem hp) id hid

end SqliteExecutionStore

end CreditHedge
