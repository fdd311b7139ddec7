import CreditHedge.Infrastructure.ExecutionRows
import CreditHedge.Infrastructure.SqliteExecutionStore

/-!
# The execution store, column by column

The tables of `infrastructure/persistence/sqlite_execution_store.py` as the database has them: rows
of cells, and statements that name columns and values. The typed tables elsewhere take for granted
that a record comes back as it was written; here that is the result. Every insertion and every
versioned update is followed by the load of the record, and everything else in the database is as
it was (`executionStore_roundTrips`).

The methods that only put these statements together in other ways are left out, and so is the check
that a column declared `NOT NULL` is not: no statement binds `NULL` to one.
-/

set_option autoImplicit false

namespace CreditHedge

variable {Text : Type} [DecidableEq Text]

/-- SQLite keeps integers of 64 bits. -/
def Cell.Fits : Cell Text → Prop
  | .integer value => -2 ^ 63 ≤ value ∧ value < 2 ^ 63
  | _ => True

instance : DecidablePred (Cell.Fits : Cell Text → Prop)
  | .integer _ => inferInstanceAs (Decidable (_ ∧ _))
  | .null => isTrue trivial
  | .text _ => isTrue trivial

/-- What a column declared `INTEGER NOT NULL` holds. -/
def Cell.IsInteger (cell : Cell Text) : Prop := (∃ value, cell = .integer value) ∧ cell.Fits

instance : DecidablePred (Cell.IsInteger : Cell Text → Prop)
  | .integer value => decidable_of_iff (Cell.Fits (.integer value : Cell Text))
    ⟨fun h => ⟨⟨value, rfl⟩, h⟩, fun h => h.2⟩
  | .null => isFalse fun ⟨⟨_, h⟩, _⟩ => by cases h
  | .text _ => isFalse fun ⟨⟨_, h⟩, _⟩ => by cases h

/-! ## The schema -/

variable (Text) in
structure ExecutionTables where
  orderIntents : Sql.Rows OrderIntentColumn.orderLinkId (Cell Text)
  entrySnapshots : Sql.Rows EntryColumn.orderLinkId (Cell Text)
  executions : Sql.Rows ExecutionColumn.executionId (Cell Text)
  protectionSnapshots : Sql.Rows ProtectionColumn.entryOrderLinkId (Cell Text)
  optionSpreadSnapshots : Sql.Rows OptionSpreadColumn.cycleId (Cell Text)
  recoveryDebts : Sql.Rows DebtColumn.levelId (Cell Text)

namespace ExecutionTables

/-- `REFERENCES order_intents(order_link_id)`, which `NULL` satisfies. -/
def Known (t : ExecutionTables Text) (cell : Cell Text) : Prop :=
  cell = .null ∨ ∃ row ∈ t.orderIntents.rows, row .orderLinkId = cell

instance (t : ExecutionTables Text) (cell : Cell Text) : Decidable (t.Known cell) :=
  inferInstanceAs (Decidable (_ ∨ ∃ row ∈ t.orderIntents.rows, _))

/-- `UNIQUE`, which does not compare `NULL`. -/
def Unique (cells : List (Cell Text)) : Prop := (cells.filter fun cell => cell ≠ .null).Nodup

instance (cells : List (Cell Text)) : Decidable (Unique cells) :=
  inferInstanceAs (Decidable (List.Nodup _))

/-- What the schema demands beyond the primary keys. -/
structure Constraints (t : ExecutionTables Text) : Prop where
  entryIntents : ∀ row ∈ t.entrySnapshots.rows, t.Known (row .orderLinkId)
  executionIntents : ∀ row ∈ t.executions.rows, t.Known (row .orderLinkId)
  protectionIntents : ∀ row ∈ t.protectionSnapshots.rows,
    t.Known (row .entryOrderLinkId) ∧ t.Known (row .stopOrderLinkId) ∧
      t.Known (row .tpOrderLinkId)
  optionIntents : ∀ row ∈ t.optionSpreadSnapshots.rows,
    t.Known (row .longOrderLinkId) ∧ t.Known (row .shortOrderLinkId)
  stopIds : Unique (t.protectionSnapshots.rows.map fun row => row .stopOrderLinkId)
  tpIds : Unique (t.protectionSnapshots.rows.map fun row => row .tpOrderLinkId)
  longIds : Unique (t.optionSpreadSnapshots.rows.map fun row => row .longOrderLinkId)
  shortIds : Unique (t.optionSpreadSnapshots.rows.map fun row => row .shortOrderLinkId)
  entryVersions : ∀ row ∈ t.entrySnapshots.rows, (row .version).IsInteger
  protectionVersions : ∀ row ∈ t.protectionSnapshots.rows, (row .version).IsInteger
  optionVersions : ∀ row ∈ t.optionSpreadSnapshots.rows, (row .version).IsInteger
  debtVersions : ∀ row ∈ t.recoveryDebts.rows, (row .version).IsInteger ∧ (row .levelId).IsInteger

instance (t : ExecutionTables Text) : Decidable t.Constraints :=
  decidable_of_iff
    ((∀ row ∈ t.entrySnapshots.rows, t.Known (row .orderLinkId)) ∧
      (∀ row ∈ t.executions.rows, t.Known (row .orderLinkId)) ∧
      (∀ row ∈ t.protectionSnapshots.rows,
        t.Known (row .entryOrderLinkId) ∧ t.Known (row .stopOrderLinkId) ∧
          t.Known (row .tpOrderLinkId)) ∧
      (∀ row ∈ t.optionSpreadSnapshots.rows,
        t.Known (row .longOrderLinkId) ∧ t.Known (row .shortOrderLinkId)) ∧
      Unique (t.protectionSnapshots.rows.map fun row => row .stopOrderLinkId) ∧
      Unique (t.protectionSnapshots.rows.map fun row => row .tpOrderLinkId) ∧
      Unique (t.optionSpreadSnapshots.rows.map fun row => row .longOrderLinkId) ∧
      Unique (t.optionSpreadSnapshots.rows.map fun row => row .shortOrderLinkId) ∧
      (∀ row ∈ t.entrySnapshots.rows, (row .version).IsInteger) ∧
      (∀ row ∈ t.protectionSnapshots.rows, (row .version).IsInteger) ∧
      (∀ row ∈ t.optionSpreadSnapshots.rows, (row .version).IsInteger) ∧
      ∀ row ∈ t.recoveryDebts.rows, (row .version).IsInteger ∧ (row .levelId).IsInteger)
    ⟨fun ⟨h₁, h₂, h₃, h₄, h₅, h₆, h₇, h₈, h₉, h₁₀, h₁₁, h₁₂⟩ =>
        ⟨h₁, h₂, h₃, h₄, h₅, h₆, h₇, h₈, h₉, h₁₀, h₁₁, h₁₂⟩,
      fun h => ⟨h.1, h.2, h.3, h.4, h.5, h.6, h.7, h.8, h.9, h.10, h.11, h.12⟩⟩

/-- An order that a row may name: it is persisted, and no other row names it. -/
def MayName {κ : Type} {key : κ} (t : ExecutionTables Text) (rows : Sql.Rows key (Cell Text))
    (column : κ) (k cell : Cell Text) : Prop :=
  t.Known cell ∧ (cell ≠ .null → ∀ row ∈ rows.rows, row column = cell → row key = k)

/-- The exit orders of a protection snapshot are its own. -/
def MayProtect (c : Conversions Text) (t : ExecutionTables Text) (snapshot : ProtectionSnapshot) :
    Prop :=
  t.MayName t.protectionSnapshots .stopOrderLinkId (.text (c.ofString snapshot.entryOrderLinkId))
      (.text (c.ofString snapshot.stopOrderLinkId)) ∧
    t.MayName t.protectionSnapshots .tpOrderLinkId (.text (c.ofString snapshot.entryOrderLinkId))
      (.ofOption c.ofString snapshot.tpOrderLinkId)

/-- The legs' orders of an option snapshot are its own. -/
def MaySpread (c : Conversions Text) (t : ExecutionTables Text)
    (snapshot : OptionSpreadExecutionSnapshot) : Prop :=
  t.MayName t.optionSpreadSnapshots .longOrderLinkId (.text (c.ofString snapshot.cycleId))
      (.text (c.ofString snapshot.longOrderLinkId)) ∧
    t.MayName t.optionSpreadSnapshots .shortOrderLinkId (.text (c.ofString snapshot.cycleId))
      (.ofOption c.ofString snapshot.shortOrderLinkId)

end ExecutionTables

variable (Text) in
structure ExecutionDatabase extends ExecutionTables Text where
  constraints : toExecutionTables.Constraints

/-! ## Statements -/

/-- The end of a transaction. -/
def commitTables (t : ExecutionTables Text) : Except Failure (ExecutionDatabase Text) :=
  if h : t.Constraints then .ok { toExecutionTables := t, constraints := h }
  else .error .integrityError

/-- The values are bound before a statement runs. -/
def bindValues (values : List (Cell Text)) : Except Failure Unit :=
  if ∀ value ∈ values, value.Fits then .ok () else .error .overflowError

section Statements

variable {κ : Type} [DecidableEq κ] {key : κ}

/-- `INSERT INTO t(columns) VALUES (values)`. -/
def insertRow (rows : Sql.Rows key (Cell Text)) (columns : List κ) (values : List (Cell Text)) :
    Except Failure (Sql.Rows key (Cell Text)) := do
  bindValues values
  SqliteExecutionStore.orFail .integrityError
    (rows.insert (Sql.assign columns values fun _ => .null))

/-- `UPDATE t SET columns = values WHERE key = ? AND version = ?`, which has to hit its row. -/
def updateRow (rows : Sql.Rows key (Cell Text)) (columns : List κ) (hkey : key ∉ columns)
    (versionColumn : κ) (values : List (Cell Text)) (k : Cell Text) (previousVersion : ℕ)
    (message : String) : Except Failure (Sql.Rows key (Cell Text)) := do
  bindValues (values ++ [k, .integer previousVersion])
  if Sql.rowcount rows
      (fun row => row key = k ∧ row versionColumn = .integer previousVersion) = 1 then
    .ok (Sql.update rows columns values hkey
      fun row => row key = k ∧ row versionColumn = .integer previousVersion)
  else .error (.concurrentSnapshotUpdate message)

end Statements

namespace ExecutionDatabase

open SqliteExecutionStore (integrityAs)

variable (c : Conversions Text)

/-! ## Writing -/

/-- `_insert_order_intent`. -/
def insertOrderIntent (request : PlaceOrderRequest) (persistedAt : Time)
    (t : ExecutionTables Text) : Except Failure (ExecutionTables Text) := do
  let orderIntents ←
    insertRow t.orderIntents orderIntentColumns (orderIntentValues c request persistedAt)
  pure { t with orderIntents }

variable (db : ExecutionDatabase Text)

def persistOrderIntent (request : PlaceOrderRequest) (persistedAt : Time) :
    Except Failure (ExecutionDatabase Text) :=
  integrityAs "order intent is already persisted" do
    commitTables (← insertOrderIntent c request persistedAt db.toExecutionTables)

def persistEntryIntent (request : PlaceOrderRequest) (snapshot : EntryExecutionSnapshot)
    (persistedAt : Time) : Except Failure (ExecutionDatabase Text) := do
  refuseIf (request.orderLinkId ≠ snapshot.orderLinkId) "request and snapshot client IDs differ"
  integrityAs "entry intent is already persisted" do
    let t ← insertOrderIntent c request persistedAt db.toExecutionTables
    let entrySnapshots ← insertRow t.entrySnapshots entryColumns (snapshotValues c snapshot)
    commitTables { t with entrySnapshots }

def persistProtectionIntent (request : PlaceOrderRequest) (snapshot : ProtectionSnapshot)
    (persistedAt : Time) : Except Failure (ExecutionDatabase Text) := do
  refuseIf (request.orderLinkId ≠ snapshot.stopOrderLinkId)
    "request and stop snapshot client IDs differ"
  integrityAs "protection intent is already persisted" do
    let t ← insertOrderIntent c request persistedAt db.toExecutionTables
    let protectionSnapshots ←
      insertRow t.protectionSnapshots protectionColumns (protectionValues c snapshot)
    commitTables { t with protectionSnapshots }

def persistOptionLongIntent (request : PlaceOrderRequest)
    (snapshot : OptionSpreadExecutionSnapshot) (persistedAt : Time) :
    Except Failure (ExecutionDatabase Text) :=
  integrityAs "option long intent is already persisted" do
    let t ← insertOrderIntent c request persistedAt db.toExecutionTables
    let optionSpreadSnapshots ←
      insertRow t.optionSpreadSnapshots optionSpreadColumns (optionSpreadValues c snapshot)
    commitTables { t with optionSpreadSnapshots }

def persistRecoveryDebtSnapshot (snapshot : RecoveryDebtSnapshot) :
    Except Failure (ExecutionDatabase Text) :=
  integrityAs "recovery debt snapshot already exists" do
    let recoveryDebts ← insertRow db.recoveryDebts debtColumns (recoveryDebtValues c snapshot)
    commitTables { db.toExecutionTables with recoveryDebts }

/-- `record_execution`: `INSERT OR IGNORE`, and whether the execution is new. -/
def recordExecution (execution : ExecutionUpdate) (receivedAt : Time)
    (payloadHash : PayloadHash) : Except Failure (Bool × ExecutionDatabase Text) := do
  let values := executionValues c execution receivedAt payloadHash.text.toLower
  bindValues values
  match db.executions.insert (Sql.assign executionColumns values fun _ => .null) with
  | none => pure (false, db)
  | some executions => pure (true, ← commitTables { db.toExecutionTables with executions })

/-- `_update_snapshot`, as a transaction of its own. -/
def transitionEntrySnapshot (previousVersion : ℕ) (snapshot : EntryExecutionSnapshot) :
    Except Failure (ExecutionDatabase Text) := do
  refuseIf (snapshot.version ≠ previousVersion + 1)
    "new snapshot version must increment exactly once"
  let entrySnapshots ← updateRow db.entrySnapshots entryUpdateColumns (by decide) .version
    (snapshotUpdateValues c snapshot) (.text (c.ofString snapshot.orderLinkId)) previousVersion
    "entry snapshot version changed before transaction commit"
  commitTables { db.toExecutionTables with entrySnapshots }

/-- `_update_protection_snapshot`, as a transaction of its own. -/
def transitionProtectionSnapshot (previousVersion : ℕ) (snapshot : ProtectionSnapshot) :
    Except Failure (ExecutionDatabase Text) := do
  refuseIf (snapshot.version ≠ previousVersion + 1)
    "new protection version must increment exactly once"
  let protectionSnapshots ← updateRow db.protectionSnapshots protectionUpdateColumns (by decide)
    .version (protectionUpdateValues c snapshot) (.text (c.ofString snapshot.entryOrderLinkId))
    previousVersion "protection snapshot version changed before transaction commit"
  commitTables { db.toExecutionTables with protectionSnapshots }

/-- `_update_option_spread_snapshot`, as a transaction of its own: the values are those of the
    insertion without the first, `(*values[1:], …)`. -/
def transitionOptionSpreadSnapshot (previousVersion : ℕ)
    (snapshot : OptionSpreadExecutionSnapshot) : Except Failure (ExecutionDatabase Text) := do
  refuseIf (snapshot.version ≠ previousVersion + 1)
    "new option snapshot version must increment exactly once"
  let optionSpreadSnapshots ← updateRow db.optionSpreadSnapshots optionSpreadUpdateColumns
    (by decide) .version ((optionSpreadValues c snapshot).drop 1)
    (.text (c.ofString snapshot.cycleId)) previousVersion
    "option snapshot version changed before transaction commit"
  commitTables { db.toExecutionTables with optionSpreadSnapshots }

def transitionRecoveryDebtSnapshot (previousVersion : ℕ) (snapshot : RecoveryDebtSnapshot) :
    Except Failure (ExecutionDatabase Text) := do
  refuseIf (snapshot.version ≠ previousVersion + 1) "new debt version must increment exactly once"
  let recoveryDebts ← updateRow db.recoveryDebts debtUpdateColumns (by decide) .version
    (recoveryDebtUpdateValues c snapshot) (.integer snapshot.levelId) previousVersion
    "recovery debt version changed before transaction commit"
  commitTables { db.toExecutionTables with recoveryDebts }

end ExecutionDatabase

/-! ## Loading -/

namespace ExecutionTables

variable (c : Conversions Text) (t : ExecutionTables Text)

/-- `None if row is None else …`. -/
def loadRow {Row α : Type} (fromRow : Row → Except Failure α) :
    Option Row → Except Failure (Option α)
  | none => .ok none
  | some row => (fromRow row).map some

def loadOrderIntent (orderLinkId : String) : Except Failure (Option PlaceOrderRequest) :=
  loadRow (fun row => deserializeRequest c ((row .requestJson).str c))
    (t.orderIntents.find (.text (c.ofString orderLinkId)))

def loadEntrySnapshot (orderLinkId : String) : Except Failure (Option EntryExecutionSnapshot) :=
  loadRow (snapshotFromRow c) (t.entrySnapshots.find (.text (c.ofString orderLinkId)))

def loadProtectionSnapshot (entryOrderLinkId : String) :
    Except Failure (Option ProtectionSnapshot) :=
  loadRow (protectionFromRow c)
    (t.protectionSnapshots.find (.text (c.ofString entryOrderLinkId)))

def loadOptionSpreadSnapshot (cycleId : String) :
    Except Failure (Option OptionSpreadExecutionSnapshot) :=
  loadRow (optionSpreadFromRow c) (t.optionSpreadSnapshots.find (.text (c.ofString cycleId)))

def loadRecoveryDebtSnapshot (levelId : ℕ) : Except Failure (Option RecoveryDebtSnapshot) :=
  loadRow (recoveryDebtFromRow c) (t.recoveryDebts.find (.integer levelId))

/-- `ORDER BY executed_at, execution_id`: how texts compare is SQLite's. -/
def loadAllExecutions (before : Sql.Row ExecutionColumn (Cell Text) →
    Sql.Row ExecutionColumn (Cell Text) → Prop) [DecidableRel before] :
    Except Failure (List ExecutionUpdate) :=
  (t.executions.rows.insertionSort before).mapM (executionFromRow c)

end ExecutionTables

/-! ## What a statement leaves behind -/

section Statements

variable {κ : Type} [DecidableEq κ] {key : κ} {rows rows' : Sql.Rows key (Cell Text)}
  {columns : List κ} {values : List (Cell Text)}

omit [DecidableEq Text] in
theorem bindValues_eq_ok {u : Unit} :
    bindValues values = .ok u ↔ ∀ value ∈ values, value.Fits := by
  unfold bindValues
  split
  · rename_i hfits
    exact ⟨fun _ => hfits, fun _ => rfl⟩
  · rename_i hfits
    refine ⟨fun h => ?_, fun h => absurd h hfits⟩
    cases h

/-- Under one key there is now this row, and under every other what was there. -/
structure Wrote (rows rows' : Sql.Rows key (Cell Text)) (k : Cell Text)
    (row : Sql.Row κ (Cell Text)) : Prop where
  here : rows'.find k = some row
  elsewhere : ∀ k', k' ≠ k → rows'.find k' = rows.find k'

omit [DecidableEq κ] in
theorem wrote_of_insert {row : Sql.Row κ (Cell Text)} (h : rows.insert row = some rows') :
    Wrote rows rows' (row key) row where
  here := (KeyedTable.find_insert h (row key)).trans (if_pos rfl)
  elsewhere k' hk' := (KeyedTable.find_insert h k').trans (if_neg hk')

theorem wrote_of_insertRow (h : insertRow rows columns values = .ok rows') :
    Wrote rows rows' (Sql.assign columns values (fun _ => .null) key)
      (Sql.assign columns values fun _ => .null) := by
  simp only [insertRow, bind_unit_eq_ok, SqliteExecutionStore.orFail_eq_ok] at h
  exact wrote_of_insert h.2

variable {hkey : key ∉ columns} {versionColumn : κ} {k : Cell Text} {previousVersion : ℕ}
  {message : String}

/-- What an update makes of the rows: the one it found is assigned, and what holds of every row
    before and after the assignment holds of every row still. -/
structure Updated (rows rows' : Sql.Rows key (Cell Text)) (k : Cell Text) (columns : List κ)
    (values : List (Cell Text)) (row : Sql.Row κ (Cell Text)) : Prop
    extends Wrote rows rows' k (Sql.assign columns values row) where
  forall_rows : ∀ P : Sql.Row κ (Cell Text) → Prop, (∀ r ∈ rows.rows, P r) →
    (∀ r ∈ rows.rows, P r → P (Sql.assign columns values r)) → ∀ r ∈ rows'.rows, P r

/-- Where the row is at the version that was read, only an integer that does not fit stops it. -/
theorem updateRow_cases (hkey : key ∉ columns) (values : List (Cell Text)) {versionColumn : κ}
    {k : Cell Text} {previousVersion : ℕ} (message : String) {row : Sql.Row κ (Cell Text)}
    (hrow : rows.find k = some row) (hversion : row versionColumn = .integer previousVersion) :
    ((¬ ∀ value ∈ values ++ [k, .integer previousVersion], value.Fits) ∧
        updateRow rows columns hkey versionColumn values k previousVersion message =
          .error .overflowError) ∨
      (∀ value ∈ values ++ [k, .integer previousVersion], value.Fits) ∧
        ∃ rows', updateRow rows columns hkey versionColumn values k previousVersion message =
            .ok rows' ∧ Updated rows rows' k columns values row := by
  by_cases hfits : ∀ value ∈ values ++ [k, .integer previousVersion], value.Fits
  · right
    refine ⟨hfits, Sql.update rows columns values hkey fun row =>
      row key = k ∧ row versionColumn = .integer previousVersion, ?_, ?_⟩
    · unfold updateRow
      rw [(bindValues_eq_ok (u := ())).mpr hfits]
      exact if_pos (Sql.rowcount_eq_one.mpr ⟨row, hrow, hversion⟩)
    · -- the row that was hit is assigned, and the rows that were not are left
      refine ⟨⟨Sql.find_update_hit hrow hversion, fun k' hk' => Sql.find_update_other hk'⟩, ?_⟩
      intro P h hassign r hr
      obtain ⟨old, hold, rfl⟩ := List.mem_map.mp hr
      split
      · exact hassign old hold (h old hold)
      · exact h old hold
  · left
    refine ⟨hfits, ?_⟩
    unfold updateRow bindValues
    rw [if_neg hfits]
    rfl

omit [DecidableEq κ] in
theorem Wrote.mem {k : Cell Text} {row r : Sql.Row κ (Cell Text)} (h : Wrote rows rows' k row)
    (hr : r ∈ rows'.rows) : r key = k ∧ r = row ∨ r key ≠ k ∧ r ∈ rows.rows := by
  have hfind : rows'.find (r key) = some r := KeyedTable.find_eq_some.mpr ⟨hr, rfl⟩
  by_cases hk : r key = k
  · rw [hk, h.here] at hfind
    exact .inl ⟨hk, (Option.some.inj hfind).symm⟩
  · rw [h.elsewhere _ hk] at hfind
    exact .inr ⟨hk, (KeyedTable.find_eq_some.mp hfind).1⟩

omit [DecidableEq κ] in
theorem unique_iff {column : κ} : ExecutionTables.Unique (rows.rows.map fun row => row column) ↔
    ∀ r ∈ rows.rows, ∀ s ∈ rows.rows, r column = s column → r column ≠ .null → r = s := by
  unfold ExecutionTables.Unique
  -- the rows have different keys, so equal cells in two of them are what is excluded
  rw [List.filter_map, List.nodup_map_iff_inj_on (rows.nodup.of_map.filter _)]
  simp only [List.mem_filter, Function.comp_apply, decide_eq_true_eq]
  constructor
  · intro h r hr s hs heq hnull
    exact h r ⟨hr, hnull⟩ s ⟨hs, heq ▸ hnull⟩ heq
  · rintro h r ⟨hr, hnull⟩ s ⟨hs, -⟩ heq
    exact h r hr s hs heq hnull

omit [DecidableEq κ] in
/-- A column stays unique when what is written into it is in no other row. -/
theorem Wrote.unique {column : κ} {k : Cell Text} {row : Sql.Row κ (Cell Text)}
    (h : Wrote rows rows' k row)
    (hunique : ExecutionTables.Unique (rows.rows.map fun r => r column))
    (hfree : row column ≠ .null → ∀ r ∈ rows.rows, r column = row column → r key = k) :
    ExecutionTables.Unique (rows'.rows.map fun r => r column) := by
  rw [unique_iff] at hunique ⊢
  intro r hr s hs heq hnull
  -- each of the two is the written row or an old one
  rcases h.mem hr with ⟨-, rfl⟩ | ⟨hrk, hr⟩ <;> rcases h.mem hs with ⟨-, rfl⟩ | ⟨hsk, hs⟩
  · rfl
  · exact absurd (hfree hnull s hs heq.symm) hsk
  · exact absurd (hfree (heq ▸ hnull) r hr heq) hrk
  · exact hunique r hr s hs heq hnull

end Statements

/-! ## Records and their rows -/

/-- A record of the database. -/
inductive RecordKey where
  | orderIntent (orderLinkId : String)
  | entry (orderLinkId : String)
  | execution (executionId : String)
  | protection (entryOrderLinkId : String)
  | optionSpread (cycleId : String)
  | recoveryDebt (levelId : ℕ)
  deriving DecidableEq

namespace ExecutionTables

variable (c : Conversions Text) (t : ExecutionTables Text)

/-- The row of a record, as its cells. -/
def cells : RecordKey → Option (List (Cell Text))
  | .orderIntent id => (t.orderIntents.find (.text (c.ofString id))).map fun row =>
      [row .orderLinkId, row .requestJson, row .persistedAt, row .exchangeOrderId,
        row .acknowledgedAt]
  | .entry id => (t.entrySnapshots.find (.text (c.ofString id))).map entryColumns.map
  | .execution id => (t.executions.find (.text (c.ofString id))).map executionColumns.map
  | .protection id =>
    (t.protectionSnapshots.find (.text (c.ofString id))).map protectionColumns.map
  | .optionSpread id =>
    (t.optionSpreadSnapshots.find (.text (c.ofString id))).map optionSpreadColumns.map
  | .recoveryDebt level => (t.recoveryDebts.find (.integer level)).map debtColumns.map

/-- No other record differs, is gone or is new. -/
def OnlyChanged (t t' : ExecutionTables Text) (keys : List RecordKey) : Prop :=
  ∀ key, key ∉ keys → t'.cells c key = t.cells c key

variable {c t}

theorem OnlyChanged.trans {t' t'' : ExecutionTables Text} {keys keys' : List RecordKey}
    (h : OnlyChanged c t t' keys) (h' : OnlyChanged c t' t'' keys') :
    OnlyChanged c t t'' (keys ++ keys') := by
  intro key hkey
  rw [List.mem_append, not_or] at hkey
  exact (h' key hkey.2).trans (h key hkey.1)

omit [DecidableEq Text] in
/-- Different strings are different cells. -/
theorem text_ne {value value' : String} (h : value' ≠ value) :
    Cell.text (c.ofString value') ≠ .text (c.ofString value) := fun heq =>
  h (c.ofString_injective (Cell.text.inj heq))

/-! ### Loads after a write

Each table's load and its share of `OnlyChanged`. -/

section Writes

variable {id : String}

omit [DecidableEq Text] in
theorem loadRow_of_read {Row α : Type} {fromRow : Row → Except Failure α} {row : Row} {a : α}
    (h : fromRow row = .ok a) : loadRow fromRow (some row) = .ok (some a) :=
  congrArg (Except.map some) h

/-- What is found under the other texts. -/
theorem map_find_of_wrote {κ β : Type} {key : κ} {rows rows' : Sql.Rows key (Cell Text)}
    {row : Sql.Row κ (Cell Text)} (h : Wrote rows rows' (.text (c.ofString id)) row)
    (record : String → RecordKey) {id' : String} (hkey : record id' ∉ [record id])
    (f : Sql.Row κ (Cell Text) → β) :
    (rows'.find (.text (c.ofString id'))).map f = (rows.find (.text (c.ofString id'))).map f := by
  have hne : id' ≠ id := fun heq => hkey (heq ▸ List.mem_singleton_self _)
  rw [h.elsewhere _ (text_ne hne)]

theorem loadOrderIntent_of_wrote {orderIntents : Sql.Rows OrderIntentColumn.orderLinkId (Cell Text)}
    {row : Sql.Row OrderIntentColumn (Cell Text)} {request : PlaceOrderRequest}
    (h : Wrote t.orderIntents orderIntents (.text (c.ofString id)) row)
    (hrow : row .requestJson = .text (serializeRequest c request)) :
    loadOrderIntent c { t with orderIntents } id = .ok (some request) ∧
      OnlyChanged c t { t with orderIntents } [.orderIntent id] := by
  constructor
  · unfold loadOrderIntent
    rw [h.here]
    refine loadRow_of_read ?_
    rw [hrow]
    exact deserializeRequest_serializeRequest request
  · intro key hkey
    cases key with
    | orderIntent id' => exact map_find_of_wrote h .orderIntent hkey _
    | _ => rfl

theorem loadEntrySnapshot_of_wrote
    {entrySnapshots : Sql.Rows EntryColumn.orderLinkId (Cell Text)}
    {row : Sql.Row EntryColumn (Cell Text)} {snapshot : EntryExecutionSnapshot}
    (h : Wrote t.entrySnapshots entrySnapshots (.text (c.ofString id)) row)
    (hrow : entryColumns.map row = snapshotValues c snapshot) :
    loadEntrySnapshot c { t with entrySnapshots } id = .ok (some snapshot) ∧
      OnlyChanged c t { t with entrySnapshots } [.entry id] := by
  constructor
  · unfold loadEntrySnapshot
    rw [h.here]
    exact loadRow_of_read (snapshotFromRow_eq hrow)
  · intro key hkey
    cases key with
    | entry id' => exact map_find_of_wrote h .entry hkey _
    | _ => rfl

theorem loadProtectionSnapshot_of_wrote
    {protectionSnapshots : Sql.Rows ProtectionColumn.entryOrderLinkId (Cell Text)}
    {row : Sql.Row ProtectionColumn (Cell Text)} {snapshot : ProtectionSnapshot}
    (h : Wrote t.protectionSnapshots protectionSnapshots (.text (c.ofString id)) row)
    (hrow : protectionColumns.map row = protectionValues c snapshot) :
    loadProtectionSnapshot c { t with protectionSnapshots } id = .ok (some snapshot) ∧
      OnlyChanged c t { t with protectionSnapshots } [.protection id] := by
  constructor
  · unfold loadProtectionSnapshot
    rw [h.here]
    exact loadRow_of_read (protectionFromRow_eq hrow)
  · intro key hkey
    cases key with
    | protection id' => exact map_find_of_wrote h .protection hkey _
    | _ => rfl

theorem loadOptionSpreadSnapshot_of_wrote
    {optionSpreadSnapshots : Sql.Rows OptionSpreadColumn.cycleId (Cell Text)}
    {row : Sql.Row OptionSpreadColumn (Cell Text)} {snapshot : OptionSpreadExecutionSnapshot}
    (h : Wrote t.optionSpreadSnapshots optionSpreadSnapshots (.text (c.ofString id)) row)
    (hrow : optionSpreadColumns.map row = optionSpreadValues c snapshot) :
    loadOptionSpreadSnapshot c { t with optionSpreadSnapshots } id = .ok (some snapshot) ∧
      OnlyChanged c t { t with optionSpreadSnapshots } [.optionSpread id] := by
  constructor
  · unfold loadOptionSpreadSnapshot
    rw [h.here]
    exact loadRow_of_read (optionSpreadFromRow_eq hrow)
  · intro key hkey
    cases key with
    | optionSpread id' => exact map_find_of_wrote h .optionSpread hkey _
    | _ => rfl

theorem loadRecoveryDebtSnapshot_of_wrote
    {recoveryDebts : Sql.Rows DebtColumn.levelId (Cell Text)}
    {row : Sql.Row DebtColumn (Cell Text)} {snapshot : RecoveryDebtSnapshot} {level : ℕ}
    (h : Wrote t.recoveryDebts recoveryDebts (.integer level) row)
    (hrow : debtColumns.map row = recoveryDebtValues c snapshot) :
    loadRecoveryDebtSnapshot c { t with recoveryDebts } level = .ok (some snapshot) ∧
      OnlyChanged c t { t with recoveryDebts } [.recoveryDebt level] := by
  constructor
  · unfold loadRecoveryDebtSnapshot
    rw [h.here]
    exact loadRow_of_read (recoveryDebtFromRow_eq hrow)
  · intro key hkey
    cases key with
    | recoveryDebt level' =>
      have hne : (Cell.integer level' : Cell Text) ≠ .integer level := fun heq =>
        hkey (Int.ofNat_inj.mp (Cell.integer.inj heq) ▸ List.mem_singleton_self _)
      exact congrArg (Option.map _) (h.elsewhere _ hne)
    | _ => rfl

end Writes

end ExecutionTables

/-! ## Insertions -/

namespace ExecutionDatabase

open SqliteExecutionStore (integrityAs_eq_ok)

variable {c : Conversions Text} {db db' : ExecutionDatabase Text} {t t' : ExecutionTables Text}

theorem commitTables_eq_ok : commitTables t = .ok db ↔ db.toExecutionTables = t := by
  unfold commitTables
  constructor
  · intro h
    split at h
    · obtain rfl := Except.ok.inj h
      rfl
    · cases h
  · rintro rfl
    exact dif_pos db.constraints

theorem insertOrderIntent_spec {request : PlaceOrderRequest} {persistedAt : Time}
    (h : insertOrderIntent c request persistedAt t = .ok t') :
    (∃ orderIntents, t' = { t with orderIntents }) ∧
      t'.loadOrderIntent c request.orderLinkId = .ok (some request) ∧
      t.OnlyChanged c t' [.orderIntent request.orderLinkId] := by
  simp only [insertOrderIntent, bind_eq_ok] at h
  obtain ⟨orderIntents, hinsert, ht⟩ := h
  obtain rfl := Except.ok.inj ht
  exact ⟨⟨orderIntents, rfl⟩,
    ExecutionTables.loadOrderIntent_of_wrote (wrote_of_insertRow hinsert) rfl⟩

theorem persistOrderIntent_spec {request : PlaceOrderRequest} {persistedAt : Time}
    (h : db.persistOrderIntent c request persistedAt = .ok db') :
    db'.loadOrderIntent c request.orderLinkId = .ok (some request) ∧
      db.OnlyChanged c db'.toExecutionTables [.orderIntent request.orderLinkId] := by
  simp only [persistOrderIntent, integrityAs_eq_ok, bind_eq_ok] at h
  obtain ⟨t, hinsert, hcommit⟩ := h
  rw [commitTables_eq_ok.mp hcommit]
  exact (insertOrderIntent_spec hinsert).2

theorem persistEntryIntent_spec {request : PlaceOrderRequest} {snapshot : EntryExecutionSnapshot}
    {persistedAt : Time} (h : db.persistEntryIntent c request snapshot persistedAt = .ok db') :
    db'.loadEntrySnapshot c snapshot.orderLinkId = .ok (some snapshot) ∧
      db'.loadOrderIntent c request.orderLinkId = .ok (some request) ∧
      db.OnlyChanged c db'.toExecutionTables
        [.orderIntent request.orderLinkId, .entry snapshot.orderLinkId] := by
  simp only [persistEntryIntent, integrityAs_eq_ok, bind_eq_ok] at h
  obtain ⟨_, -, t, hintent, entrySnapshots, hsnapshot, hcommit⟩ := h
  obtain ⟨-, hrequest, honly⟩ := insertOrderIntent_spec hintent
  obtain ⟨hload, honly'⟩ := ExecutionTables.loadEntrySnapshot_of_wrote
    (wrote_of_insertRow hsnapshot) (entryRow_inserted snapshot _)
  rw [commitTables_eq_ok.mp hcommit]
  exact ⟨hload, hrequest, honly.trans honly'⟩

theorem persistProtectionIntent_spec {request : PlaceOrderRequest} {snapshot : ProtectionSnapshot}
    {persistedAt : Time}
    (h : db.persistProtectionIntent c request snapshot persistedAt = .ok db') :
    db'.loadProtectionSnapshot c snapshot.entryOrderLinkId = .ok (some snapshot) ∧
      db'.loadOrderIntent c request.orderLinkId = .ok (some request) ∧
      db.OnlyChanged c db'.toExecutionTables
        [.orderIntent request.orderLinkId, .protection snapshot.entryOrderLinkId] := by
  simp only [persistProtectionIntent, integrityAs_eq_ok, bind_eq_ok] at h
  obtain ⟨_, -, t, hintent, protectionSnapshots, hsnapshot, hcommit⟩ := h
  obtain ⟨-, hrequest, honly⟩ := insertOrderIntent_spec hintent
  obtain ⟨hload, honly'⟩ := ExecutionTables.loadProtectionSnapshot_of_wrote
    (wrote_of_insertRow hsnapshot) (protectionRow_inserted snapshot _)
  rw [commitTables_eq_ok.mp hcommit]
  exact ⟨hload, hrequest, honly.trans honly'⟩

theorem persistOptionLongIntent_spec {request : PlaceOrderRequest}
    {snapshot : OptionSpreadExecutionSnapshot} {persistedAt : Time}
    (h : db.persistOptionLongIntent c request snapshot persistedAt = .ok db') :
    db'.loadOptionSpreadSnapshot c snapshot.cycleId = .ok (some snapshot) ∧
      db'.loadOrderIntent c request.orderLinkId = .ok (some request) ∧
      db.OnlyChanged c db'.toExecutionTables
        [.orderIntent request.orderLinkId, .optionSpread snapshot.cycleId] := by
  simp only [persistOptionLongIntent, integrityAs_eq_ok, bind_eq_ok] at h
  obtain ⟨t, hintent, optionSpreadSnapshots, hsnapshot, hcommit⟩ := h
  obtain ⟨-, hrequest, honly⟩ := insertOrderIntent_spec hintent
  obtain ⟨hload, honly'⟩ := ExecutionTables.loadOptionSpreadSnapshot_of_wrote
    (wrote_of_insertRow hsnapshot) (optionSpreadRow_inserted snapshot _)
  rw [commitTables_eq_ok.mp hcommit]
  exact ⟨hload, hrequest, honly.trans honly'⟩

theorem persistRecoveryDebtSnapshot_spec {snapshot : RecoveryDebtSnapshot}
    (h : db.persistRecoveryDebtSnapshot c snapshot = .ok db') :
    db'.loadRecoveryDebtSnapshot c snapshot.levelId = .ok (some snapshot) ∧
      db.OnlyChanged c db'.toExecutionTables [.recoveryDebt snapshot.levelId] := by
  simp only [persistRecoveryDebtSnapshot, integrityAs_eq_ok, bind_eq_ok] at h
  obtain ⟨recoveryDebts, hsnapshot, hcommit⟩ := h
  rw [commitTables_eq_ok.mp hcommit]
  exact ExecutionTables.loadRecoveryDebtSnapshot_of_wrote (wrote_of_insertRow hsnapshot)
    (debtRow_inserted snapshot _)

theorem recordExecution_spec {execution : ExecutionUpdate} {receivedAt : Time}
    {payloadHash : PayloadHash}
    (h : db.recordExecution c execution receivedAt payloadHash = .ok (true, db')) :
    (∀ (before : Sql.Row ExecutionColumn (Cell Text) → Sql.Row ExecutionColumn (Cell Text) → Prop)
        [DecidableRel before] (executions : List ExecutionUpdate),
      db.loadAllExecutions c before = .ok executions →
        ∃ executions', db'.loadAllExecutions c before = .ok executions' ∧
          executions'.Perm (execution :: executions)) ∧
      db.OnlyChanged c db'.toExecutionTables [.execution execution.executionId] := by
  simp only [recordExecution, bind_unit_eq_ok] at h
  obtain ⟨-, h⟩ := h
  split at h
  · cases h
  · rename_i table hinsert
    rw [bind_eq_ok] at h
    obtain ⟨_, hcommit, hpure⟩ := h
    obtain ⟨-, rfl⟩ := Prod.mk.inj (Except.ok.inj hpure)
    rw [commitTables_eq_ok.mp hcommit]
    obtain ⟨-, hrows⟩ := KeyedTable.insert_eq_some.mp hinsert
    have hnew : executionFromRow c (Sql.assign executionColumns
        (executionValues c execution receivedAt payloadHash.text.toLower) fun _ => .null) =
          .ok execution := executionFromRow_eq (executionRow_inserted ..)
    refine ⟨fun before _ executions hload => ?_, fun key hkey => ?_⟩
    · -- read in the order of insertion, the new row comes last
      unfold ExecutionTables.loadAllExecutions at hload ⊢
      rw [mapM_eq_ok] at hload
      obtain ⟨inserted, hinserted, hperm⟩ := List.perm_comp_forall₂
        (List.perm_insertionSort before db.executions.rows).symm hload
      have hall : List.Forall₂ (fun row e => executionFromRow c row = .ok e) table.rows
          (inserted ++ [execution]) := by
        rw [hrows]
        exact List.rel_append hinserted (.cons hnew .nil)
      obtain ⟨sorted, hsorted, hperm'⟩ := List.perm_comp_forall₂
        (List.perm_insertionSort before table.rows) hall
      refine ⟨sorted, mapM_eq_ok.mpr hsorted, hperm'.trans ?_⟩
      exact (List.perm_append_singleton execution inserted).trans (hperm.cons execution)
    · cases key with
      | execution id =>
        have hwrote : Wrote db.executions table (.text (c.ofString execution.executionId)) _ :=
          wrote_of_insert hinsert
        exact ExecutionTables.map_find_of_wrote hwrote .execution hkey _
      | _ => rfl

/-! ## Updates -/

omit [DecidableEq Text] in
/-- The version a row holds is the one that is read. -/
theorem version_eq {cell : Cell Text} {message : String} {value : ℤ} {version : ℕ}
    (hinteger : cell.IsInteger) (hvalue : cell.int c = .ok value)
    (hversion : natural message value = .ok version) : cell = .integer version := by
  obtain ⟨⟨n, rfl⟩, -⟩ := hinteger
  rw [← natural_eq_ok hversion]
  exact congrArg Cell.integer (Except.ok.inj hvalue)

theorem loadRow_eq_some {Row α : Type} {fromRow : Row → Except Failure α} {found : Option Row}
    {a : α} (h : ExecutionTables.loadRow fromRow found = .ok (some a)) :
    ∃ row, found = some row ∧ fromRow row = .ok a := by
  cases found with
  | none => cases h
  | some row =>
    refine ⟨row, rfl, ?_⟩
    have hmap : (fromRow row).map some = .ok (some a) := h
    cases hread : fromRow row with
    | error failure =>
      rw [hread] at hmap
      cases hmap
    | ok b =>
      rw [hread] at hmap
      exact congrArg Except.ok (Option.some.inj (Except.ok.inj hmap))

omit [DecidableEq Text] in
theorem entry_row {row : Sql.Row EntryColumn (Cell Text)} {snapshot : EntryExecutionSnapshot}
    (hinteger : (row .version).IsInteger) (h : snapshotFromRow c row = .ok snapshot) :
    row .version = .integer snapshot.version := by
  simp only [snapshotFromRow, bind_eq_ok] at h
  obtain ⟨_, -, _, -, _, -, _, -, _, -, _, -, _, -, value, hvalue, version, hversion, _, -,
    hcreate⟩ := h
  rw [version_eq hinteger hvalue hversion, EntryExecutionSnapshot.create_eq_ok.mp hcreate]

omit [DecidableEq Text] in
theorem protection_row {row : Sql.Row ProtectionColumn (Cell Text)} {snapshot : ProtectionSnapshot}
    (hinteger : (row .version).IsInteger) (h : protectionFromRow c row = .ok snapshot) :
    row .version = .integer snapshot.version := by
  simp only [protectionFromRow, bind_eq_ok] at h
  obtain ⟨_, -, _, -, _, -, _, -, _, -, _, -, _, -, _, -, _, -, _, -, _, -, _, -, _, -, _, -, _, -,
    _, -, _, -, _, -, value, hvalue, version, hversion, _, -, hcreate⟩ := h
  rw [version_eq hinteger hvalue hversion, ProtectionSnapshot.create_eq_ok.mp hcreate]

omit [DecidableEq Text] in
theorem optionSpread_row {row : Sql.Row OptionSpreadColumn (Cell Text)}
    {snapshot : OptionSpreadExecutionSnapshot} (hinteger : (row .version).IsInteger)
    (h : optionSpreadFromRow c row = .ok snapshot) :
    row .version = .integer snapshot.version := by
  simp only [optionSpreadFromRow, bind_eq_ok] at h
  obtain ⟨_, -, _, -, _, -, _, -, _, -, _, -, _, -, _, -, _, -, _, -, _, -, _, -, _, -, _, -, _, -,
    _, -, _, -, _, -, value, hvalue, version, hversion, _, -, hcreate⟩ := h
  rw [version_eq hinteger hvalue hversion, OptionSpreadExecutionSnapshot.create_eq_ok.mp hcreate]

omit [DecidableEq Text] in
theorem debt_row {row : Sql.Row DebtColumn (Cell Text)} {snapshot : RecoveryDebtSnapshot}
    (hinteger : (row .version).IsInteger) (h : recoveryDebtFromRow c row = .ok snapshot) :
    row .version = .integer snapshot.version := by
  simp only [recoveryDebtFromRow, bind_eq_ok] at h
  obtain ⟨_, -, _, -, _, -, _, -, _, -, _, -, _, -, value, hvalue, version, hversion, _, -,
    hcreate⟩ := h
  rw [version_eq hinteger hvalue hversion]
  unfold RecoveryDebtSnapshot.create at hcreate
  split at hcreate
  · split at hcreate
    · obtain rfl := Except.ok.inj hcreate
      rfl
    · cases hcreate
  · cases hcreate

omit [DecidableEq Text] in
@[simp] theorem fits_text (text : Text) : (Cell.text text).Fits := trivial

omit [DecidableEq Text] in
@[simp] theorem fits_ofOption {α : Type} (write : α → Text) (a : Option α) :
    (Cell.ofOption write a).Fits := by
  cases a <;> trivial

omit [DecidableEq Text] in
@[simp] theorem fits_integer (n : ℕ) : (Cell.integer n : Cell Text).Fits ↔ n < 2 ^ 63 := by
  have hfits : (Cell.integer n : Cell Text).Fits ↔ -2 ^ 63 ≤ (n : ℤ) ∧ (n : ℤ) < 2 ^ 63 := Iff.rfl
  rw [hfits]
  omega

theorem commitTables_of (h : t.Constraints) : commitTables t = .ok ⟨t, h⟩ := dif_pos h

theorem commitTables_cases (t : ExecutionTables Text) :
    commitTables t = .error .integrityError ∨
      ∃ db, commitTables t = .ok db ∧ db.toExecutionTables = t := by
  by_cases h : t.Constraints
  · exact .inr ⟨⟨t, h⟩, commitTables_of h, rfl⟩
  · exact .inl (dif_neg h)

omit [DecidableEq Text] in
/-- The new version is all that can be too large. -/
theorem fits_update {values : List (Cell Text)} {k : Cell Text} {old new : ℕ}
    (hvalues : (∀ value ∈ values, value.Fits) ↔ new < 2 ^ 63) (hk : k.Fits)
    (hversion : new = old + 1) :
    (∀ value ∈ values ++ [k, .integer old], value.Fits) ↔ new < 2 ^ 63 := by
  simp only [List.mem_append, List.mem_cons, List.not_mem_nil, or_false, or_imp, forall_and,
    forall_eq, hvalues, hk, fits_integer, true_and]
  omega

/-- Every transition is a check, an update and a commit, and comes to its commit unless the new
    version does not fit. -/
theorem transition_cases {κ : Type} [DecidableEq κ] {key versionColumn : κ} {columns : List κ}
    {values : List (Cell Text)} {k : Cell Text} {rows : Sql.Rows key (Cell Text)}
    {row : Sql.Row κ (Cell Text)} {old new : ℕ} (hkey : key ∉ columns)
    (hvalues : (∀ value ∈ values, value.Fits) ↔ new < 2 ^ 63) (hk : k.Fits)
    (hrow : rows.find k = some row) (hrowVersion : row versionColumn = .integer old)
    (hversion : new = old + 1) (mismatch changed : String)
    (commit : Sql.Rows key (Cell Text) → Except Failure (ExecutionDatabase Text)) :
    (2 ^ 63 ≤ new ∧
        (do
          refuseIf (new ≠ old + 1) mismatch
          let rows' ← updateRow rows columns hkey versionColumn values k old changed
          commit rows') = .error .overflowError) ∨
      new < 2 ^ 63 ∧ ∃ rows', Updated rows rows' k columns values row ∧
        (do
          refuseIf (new ≠ old + 1) mismatch
          let rows' ← updateRow rows columns hkey versionColumn values k old changed
          commit rows') = commit rows' := by
  have hfits := fits_update hvalues hk hversion
  rw [(refuseIf_eq_ok (u := ())).mpr (not_not.mpr hversion), ok_bind]
  rcases updateRow_cases hkey values changed hrow hrowVersion with
    ⟨hover, hupdate⟩ | ⟨hall, rows', hupdate, hupdated⟩
  · left
    rw [hupdate]
    exact ⟨not_lt.mp fun h => hover (hfits.mpr h), rfl⟩
  · right
    rw [hupdate, ok_bind]
    exact ⟨hfits.mp hall, rows', hupdated, rfl⟩

theorem transitionEntrySnapshot_spec {old new : EntryExecutionSnapshot}
    (hold : db.loadEntrySnapshot c old.orderLinkId = .ok (some old))
    (hkey : new.orderLinkId = old.orderLinkId) (hversion : new.version = old.version + 1) :
    (2 ^ 63 ≤ new.version ∧
        db.transitionEntrySnapshot c old.version new = .error .overflowError) ∨
      ∃ db', db.transitionEntrySnapshot c old.version new = .ok db' ∧
        db'.loadEntrySnapshot c new.orderLinkId = .ok (some new) ∧
        db.OnlyChanged c db'.toExecutionTables [.entry new.orderLinkId] := by
  rw [← hkey] at hold
  obtain ⟨row, hrow, hread⟩ := loadRow_eq_some hold
  obtain ⟨hmem, hid⟩ := KeyedTable.find_eq_some.mp hrow
  have hrowVersion := entry_row (db.constraints.entryVersions row hmem) hread
  have hvalues : (∀ value ∈ snapshotUpdateValues c new, value.Fits) ↔
      new.version < 2 ^ 63 := by
    simp [snapshotUpdateValues]
  unfold transitionEntrySnapshot
  rcases transition_cases (show EntryColumn.orderLinkId ∉ entryUpdateColumns by decide) hvalues
      (fits_text _) hrow hrowVersion hversion "new snapshot version must increment exactly once"
      "entry snapshot version changed before transaction commit"
      (fun rows => commitTables { db.toExecutionTables with entrySnapshots := rows }) with
    ⟨hover, herror⟩ | ⟨hfits, rows, hupdated, hcommit⟩
  · exact .inl ⟨hover, herror⟩
  right
  rw [hcommit]
  -- the update leaves the client IDs and writes a version that fits
  have hconstraints : ExecutionTables.Constraints
      { db.toExecutionTables with entrySnapshots := rows } :=
    { db.constraints with
      entryIntents := hupdated.forall_rows _ db.constraints.entryIntents fun _ _ h => h
      entryVersions := hupdated.forall_rows _ db.constraints.entryVersions fun _ _ _ =>
        ⟨⟨new.version, rfl⟩, (fits_integer new.version).mpr hfits⟩ }
  exact ⟨_, commitTables_of hconstraints,
    ExecutionTables.loadEntrySnapshot_of_wrote hupdated.toWrote (entryRow_updated hid)⟩

theorem transitionRecoveryDebtSnapshot_spec {old new : RecoveryDebtSnapshot}
    (hold : db.loadRecoveryDebtSnapshot c old.levelId = .ok (some old))
    (hkey : new.levelId = old.levelId) (hversion : new.version = old.version + 1) :
    (2 ^ 63 ≤ new.version ∧
        db.transitionRecoveryDebtSnapshot c old.version new = .error .overflowError) ∨
      ∃ db', db.transitionRecoveryDebtSnapshot c old.version new = .ok db' ∧
        db'.loadRecoveryDebtSnapshot c new.levelId = .ok (some new) ∧
        db.OnlyChanged c db'.toExecutionTables [.recoveryDebt new.levelId] := by
  rw [← hkey] at hold
  obtain ⟨row, hrow, hread⟩ := loadRow_eq_some hold
  obtain ⟨hmem, hid⟩ := KeyedTable.find_eq_some.mp hrow
  obtain ⟨hinteger, -, hlevel⟩ := db.constraints.debtVersions row hmem
  rw [hid] at hlevel
  have hrowVersion := debt_row hinteger hread
  have hvalues : (∀ value ∈ recoveryDebtUpdateValues c new, value.Fits) ↔
      new.version < 2 ^ 63 := by
    simp [recoveryDebtUpdateValues]
  unfold transitionRecoveryDebtSnapshot
  rcases transition_cases (show DebtColumn.levelId ∉ debtUpdateColumns by decide) hvalues
      hlevel hrow hrowVersion hversion "new debt version must increment exactly once"
      "recovery debt version changed before transaction commit"
      (fun rows => commitTables { db.toExecutionTables with recoveryDebts := rows }) with
    ⟨hover, herror⟩ | ⟨hfits, rows, hupdated, hcommit⟩
  · exact .inl ⟨hover, herror⟩
  right
  rw [hcommit]
  have hconstraints : ExecutionTables.Constraints
      { db.toExecutionTables with recoveryDebts := rows } :=
    { db.constraints with
      debtVersions := hupdated.forall_rows _ db.constraints.debtVersions fun _ _ h =>
        ⟨⟨⟨new.version, rfl⟩, (fits_integer new.version).mpr hfits⟩, h.2⟩ }
  exact ⟨_, commitTables_of hconstraints,
    ExecutionTables.loadRecoveryDebtSnapshot_of_wrote hupdated.toWrote (debtRow_updated hid)⟩

theorem transitionProtectionSnapshot_spec {old new : ProtectionSnapshot}
    (hold : db.loadProtectionSnapshot c old.entryOrderLinkId = .ok (some old))
    (hkey : new.entryOrderLinkId = old.entryOrderLinkId)
    (hversion : new.version = old.version + 1) :
    (2 ^ 63 ≤ new.version ∧
        db.transitionProtectionSnapshot c old.version new = .error .overflowError) ∨
      (¬ db.MayProtect c new ∧
        db.transitionProtectionSnapshot c old.version new = .error .integrityError) ∨
      ∃ db', db.transitionProtectionSnapshot c old.version new = .ok db' ∧
        db'.loadProtectionSnapshot c new.entryOrderLinkId = .ok (some new) ∧
        db.OnlyChanged c db'.toExecutionTables [.protection new.entryOrderLinkId] := by
  rw [← hkey] at hold
  obtain ⟨row, hrow, hread⟩ := loadRow_eq_some hold
  obtain ⟨hmem, hid⟩ := KeyedTable.find_eq_some.mp hrow
  have hrowVersion := protection_row (db.constraints.protectionVersions row hmem) hread
  have hvalues : (∀ value ∈ protectionUpdateValues c new, value.Fits) ↔
      new.version < 2 ^ 63 := by
    simp [protectionUpdateValues]
  unfold transitionProtectionSnapshot
  rcases transition_cases
      (show ProtectionColumn.entryOrderLinkId ∉ protectionUpdateColumns by decide) hvalues
      (fits_text _) hrow hrowVersion hversion "new protection version must increment exactly once"
      "protection snapshot version changed before transaction commit"
      (fun rows => commitTables { db.toExecutionTables with protectionSnapshots := rows }) with
    ⟨hover, herror⟩ | ⟨hfits, rows, hupdated, hcommit⟩
  · exact .inl ⟨hover, herror⟩
  right
  rw [hcommit]
  have hload := ExecutionTables.loadProtectionSnapshot_of_wrote hupdated.toWrote
    (protectionRow_updated hid)
  -- orders of its own break no constraint; of others the commit may be refused
  by_cases hname : db.MayProtect c new
  · right
    obtain ⟨⟨hstop, hstopFree⟩, htp, htpFree⟩ := hname
    have hconstraints : ExecutionTables.Constraints
        { db.toExecutionTables with protectionSnapshots := rows } :=
      { db.constraints with
        protectionIntents := hupdated.forall_rows _ db.constraints.protectionIntents
          fun _ _ h => ⟨h.1, hstop, htp⟩
        stopIds := hupdated.unique db.constraints.stopIds hstopFree
        tpIds := hupdated.unique db.constraints.tpIds htpFree
        protectionVersions := hupdated.forall_rows _ db.constraints.protectionVersions fun _ _ _ =>
          ⟨⟨new.version, rfl⟩, (fits_integer new.version).mpr hfits⟩ }
    exact ⟨_, commitTables_of hconstraints, hload⟩
  · rcases commitTables_cases { db.toExecutionTables with protectionSnapshots := rows } with
      hrefused | ⟨db', hdb, htables⟩
    · exact .inl ⟨hname, hrefused⟩
    · refine .inr ⟨db', hdb, ?_⟩
      rw [htables]
      exact hload

theorem transitionOptionSpreadSnapshot_spec {old new : OptionSpreadExecutionSnapshot}
    (hold : db.loadOptionSpreadSnapshot c old.cycleId = .ok (some old))
    (hkey : new.cycleId = old.cycleId) (hversion : new.version = old.version + 1) :
    (2 ^ 63 ≤ new.version ∧
        db.transitionOptionSpreadSnapshot c old.version new = .error .overflowError) ∨
      (¬ db.MaySpread c new ∧
        db.transitionOptionSpreadSnapshot c old.version new = .error .integrityError) ∨
      ∃ db', db.transitionOptionSpreadSnapshot c old.version new = .ok db' ∧
        db'.loadOptionSpreadSnapshot c new.cycleId = .ok (some new) ∧
        db.OnlyChanged c db'.toExecutionTables [.optionSpread new.cycleId] := by
  rw [← hkey] at hold
  obtain ⟨row, hrow, hread⟩ := loadRow_eq_some hold
  obtain ⟨hmem, hid⟩ := KeyedTable.find_eq_some.mp hrow
  have hrowVersion := optionSpread_row (db.constraints.optionVersions row hmem) hread
  have hvalues : (∀ value ∈ (optionSpreadValues c new).drop 1, value.Fits) ↔
      new.version < 2 ^ 63 := by
    simp [optionSpreadValues]
  unfold transitionOptionSpreadSnapshot
  rcases transition_cases
      (show OptionSpreadColumn.cycleId ∉ optionSpreadUpdateColumns by decide) hvalues
      (fits_text _) hrow hrowVersion hversion
      "new option snapshot version must increment exactly once"
      "option snapshot version changed before transaction commit"
      (fun rows => commitTables { db.toExecutionTables with optionSpreadSnapshots := rows }) with
    ⟨hover, herror⟩ | ⟨hfits, rows, hupdated, hcommit⟩
  · exact .inl ⟨hover, herror⟩
  right
  rw [hcommit]
  have hload := ExecutionTables.loadOptionSpreadSnapshot_of_wrote hupdated.toWrote
    (optionSpreadRow_updated hid)
  -- orders of its own break no constraint; of others the commit may be refused
  by_cases hname : db.MaySpread c new
  · right
    obtain ⟨⟨hlong, hlongFree⟩, hshort, hshortFree⟩ := hname
    have hconstraints : ExecutionTables.Constraints
        { db.toExecutionTables with optionSpreadSnapshots := rows } :=
      { db.constraints with
        optionIntents := hupdated.forall_rows _ db.constraints.optionIntents
          fun _ _ _ => ⟨hlong, hshort⟩
        longIds := hupdated.unique db.constraints.longIds hlongFree
        shortIds := hupdated.unique db.constraints.shortIds hshortFree
        optionVersions := hupdated.forall_rows _ db.constraints.optionVersions fun _ _ _ =>
          ⟨⟨new.version, rfl⟩, (fits_integer new.version).mpr hfits⟩ }
    exact ⟨_, commitTables_of hconstraints, hload⟩
  · rcases commitTables_cases { db.toExecutionTables with optionSpreadSnapshots := rows } with
      hrefused | ⟨db', hdb, htables⟩
    · exact .inl ⟨hname, hrefused⟩
    · refine .inr ⟨db', hdb, ?_⟩
      rw [htables]
      exact hload

/-- **What is stored is what is loaded**, column by column, and nothing else in the database is
    touched. An update that is one version ahead is stored, unless its version does not fit in 64
    bits or an order it names is unknown or is another record's. -/
theorem executionStore_roundTrips (c : Conversions Text) (db : ExecutionDatabase Text) :
    (∀ request persistedAt db', db.persistOrderIntent c request persistedAt = .ok db' →
      db'.loadOrderIntent c request.orderLinkId = .ok (some request) ∧
        db.OnlyChanged c db'.toExecutionTables [.orderIntent request.orderLinkId]) ∧
    (∀ request snapshot persistedAt db',
      db.persistEntryIntent c request snapshot persistedAt = .ok db' →
        db'.loadEntrySnapshot c snapshot.orderLinkId = .ok (some snapshot) ∧
          db'.loadOrderIntent c request.orderLinkId = .ok (some request) ∧
          db.OnlyChanged c db'.toExecutionTables
            [.orderIntent request.orderLinkId, .entry snapshot.orderLinkId]) ∧
    (∀ request snapshot persistedAt db',
      db.persistProtectionIntent c request snapshot persistedAt = .ok db' →
        db'.loadProtectionSnapshot c snapshot.entryOrderLinkId = .ok (some snapshot) ∧
          db'.loadOrderIntent c request.orderLinkId = .ok (some request) ∧
          db.OnlyChanged c db'.toExecutionTables
            [.orderIntent request.orderLinkId, .protection snapshot.entryOrderLinkId]) ∧
    (∀ request snapshot persistedAt db',
      db.persistOptionLongIntent c request snapshot persistedAt = .ok db' →
        db'.loadOptionSpreadSnapshot c snapshot.cycleId = .ok (some snapshot) ∧
          db'.loadOrderIntent c request.orderLinkId = .ok (some request) ∧
          db.OnlyChanged c db'.toExecutionTables
            [.orderIntent request.orderLinkId, .optionSpread snapshot.cycleId]) ∧
    (∀ snapshot db', db.persistRecoveryDebtSnapshot c snapshot = .ok db' →
      db'.loadRecoveryDebtSnapshot c snapshot.levelId = .ok (some snapshot) ∧
        db.OnlyChanged c db'.toExecutionTables [.recoveryDebt snapshot.levelId]) ∧
    (∀ execution receivedAt payloadHash db',
      db.recordExecution c execution receivedAt payloadHash = .ok (true, db') →
        (∀ (before : Sql.Row ExecutionColumn (Cell Text) →
              Sql.Row ExecutionColumn (Cell Text) → Prop) [DecidableRel before]
            (executions : List ExecutionUpdate),
          db.loadAllExecutions c before = .ok executions →
            ∃ executions', db'.loadAllExecutions c before = .ok executions' ∧
              executions'.Perm (execution :: executions)) ∧
          db.OnlyChanged c db'.toExecutionTables [.execution execution.executionId]) ∧
    (∀ old new : EntryExecutionSnapshot,
      db.loadEntrySnapshot c old.orderLinkId = .ok (some old) →
      new.orderLinkId = old.orderLinkId → new.version = old.version + 1 →
        (2 ^ 63 ≤ new.version ∧
            db.transitionEntrySnapshot c old.version new = .error .overflowError) ∨
          ∃ db', db.transitionEntrySnapshot c old.version new = .ok db' ∧
            db'.loadEntrySnapshot c new.orderLinkId = .ok (some new) ∧
            db.OnlyChanged c db'.toExecutionTables [.entry new.orderLinkId]) ∧
    (∀ old new : ProtectionSnapshot,
      db.loadProtectionSnapshot c old.entryOrderLinkId = .ok (some old) →
      new.entryOrderLinkId = old.entryOrderLinkId → new.version = old.version + 1 →
        (2 ^ 63 ≤ new.version ∧
            db.transitionProtectionSnapshot c old.version new = .error .overflowError) ∨
          (¬ db.MayProtect c new ∧
            db.transitionProtectionSnapshot c old.version new = .error .integrityError) ∨
          ∃ db', db.transitionProtectionSnapshot c old.version new = .ok db' ∧
            db'.loadProtectionSnapshot c new.entryOrderLinkId = .ok (some new) ∧
            db.OnlyChanged c db'.toExecutionTables [.protection new.entryOrderLinkId]) ∧
    (∀ old new : OptionSpreadExecutionSnapshot,
      db.loadOptionSpreadSnapshot c old.cycleId = .ok (some old) →
      new.cycleId = old.cycleId → new.version = old.version + 1 →
        (2 ^ 63 ≤ new.version ∧
            db.transitionOptionSpreadSnapshot c old.version new = .error .overflowError) ∨
          (¬ db.MaySpread c new ∧
            db.transitionOptionSpreadSnapshot c old.version new = .error .integrityError) ∨
          ∃ db', db.transitionOptionSpreadSnapshot c old.version new = .ok db' ∧
            db'.loadOptionSpreadSnapshot c new.cycleId = .ok (some new) ∧
            db.OnlyChanged c db'.toExecutionTables [.optionSpread new.cycleId]) ∧
    (∀ old new : RecoveryDebtSnapshot,
      db.loadRecoveryDebtSnapshot c old.levelId = .ok (some old) →
      new.levelId = old.levelId → new.version = old.version + 1 →
        (2 ^ 63 ≤ new.version ∧
            db.transitionRecoveryDebtSnapshot c old.version new = .error .overflowError) ∨
          ∃ db', db.transitionRecoveryDebtSnapshot c old.version new = .ok db' ∧
            db'.loadRecoveryDebtSnapshot c new.levelId = .ok (some new) ∧
            db.OnlyChanged c db'.toExecutionTables [.recoveryDebt new.levelId]) := by
  refine ⟨?_, ?_, ?_, ?_, ?_, ?_, ?_, ?_, ?_, ?_⟩
  · intro request persistedAt db' h
    exact persistOrderIntent_spec h
  · intro request snapshot persistedAt db' h
    exact persistEntryIntent_spec h
  · intro request snapshot persistedAt db' h
    exact persistProtectionIntent_spec h
  · intro request snapshot persistedAt db' h
    exact persistOptionLongIntent_spec h
  · intro snapshot db' h
    exact persistRecoveryDebtSnapshot_spec h
  · intro execution receivedAt payloadHash db' h
    exact recordExecution_spec h
  · intro old new hold hkey hversion
    exact transitionEntrySnapshot_spec hold hkey hversion
  · intro old new hold hkey hversion
    exact transitionProtectionSnapshot_spec hold hkey hversion
  · intro old new hold hkey hversion
    exact transitionOptionSpreadSnapshot_spec hold hkey hversion
  · intro old new hold hkey hversion
    exact transitionRecoveryDebtSnapshot_spec hold hkey hversion

/-- A database nothing was written to. -/
def fresh (Text : Type) [DecidableEq Text] : ExecutionDatabase Text where
  orderIntents := KeyedTable.empty
  entrySnapshots := KeyedTable.empty
  executions := KeyedTable.empty
  protectionSnapshots := KeyedTable.empty
  optionSpreadSnapshots := KeyedTable.empty
  recoveryDebts := KeyedTable.empty
  constraints := by
    constructor <;> simp [KeyedTable.empty, ExecutionTables.Unique]

/-- A debt of a dollar. -/
def dollarDebt : RecoveryDebtSnapshot where
  levelId := 1
  debt :=
    { projectedDebt := 0
      confirmedDebt := 1
      allocatedDebt := 0
      remainingDebt := 1
      projectedDebt_nonneg := zero_nonneg
      confirmedDebt_nonneg := zero_le_one
      allocatedDebt_nonneg := zero_nonneg
      remainingDebt_nonneg := zero_le_one
      balanced := by norm_num }
  version := 1
  updatedAt := 0
  levelId_pos := one_pos
  version_pos := one_pos

open Classical in
/-- A debt written and updated. -/
theorem executionStore_roundTrips_debt : ∃ db db' : ExecutionDatabase WrittenText,
    (fresh WrittenText).persistRecoveryDebtSnapshot writtenConversions dollarDebt = .ok db ∧
    db.transitionRecoveryDebtSnapshot writtenConversions 1
      { dollarDebt with version := 2, version_pos := two_pos } = .ok db' ∧
    db'.loadRecoveryDebtSnapshot writtenConversions 1 =
      .ok (some { dollarDebt with version := 2, version_pos := two_pos }) := by
  have hbind : bindValues (recoveryDebtValues writtenConversions dollarDebt) = .ok () :=
    bindValues_eq_ok.mpr (by simp [recoveryDebtValues, dollarDebt, Cell.Fits])
  obtain ⟨db, hdb⟩ : ∃ db,
      (fresh WrittenText).persistRecoveryDebtSnapshot writtenConversions dollarDebt = .ok db := by
    refine ⟨⟨{ (fresh WrittenText).toExecutionTables with
      recoveryDebts := ⟨[Sql.assign debtColumns (recoveryDebtValues writtenConversions dollarDebt)
        fun _ => .null], List.nodup_singleton _⟩ }, { (fresh WrittenText).constraints with
          debtVersions := ?_ }⟩, ?_⟩
    · simp [Sql.assign, debtColumns, recoveryDebtValues, dollarDebt, Cell.IsInteger, Cell.Fits]
    · rw [persistRecoveryDebtSnapshot, SqliteExecutionStore.integrityAs_eq_ok, bind_eq_ok]
      refine ⟨_, ?_, commitTables_of _⟩
      rw [insertRow, hbind]
      rfl
  have hstore := executionStore_roundTrips writtenConversions
  have hload := ((hstore (fresh WrittenText)).2.2.2.2.1 _ _ hdb).1
  rcases (hstore db).2.2.2.2.2.2.2.2.2 dollarDebt
      { dollarDebt with version := 2, version_pos := two_pos } hload rfl rfl with
    ⟨hover, -⟩ | ⟨db', hdb', hload', -⟩
  · exact absurd hover (by norm_num)
  · exact ⟨db, db', hdb, hdb', hload'⟩

end ExecutionDatabase

end CreditHedge
