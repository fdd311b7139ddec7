import CreditHedge.Application.OperatorCommands
import CreditHedge.Infrastructure.FileDocuments
import CreditHedge.Lib.AtomicFiles

/-!
# The file of the operator commands

`FileOperatorCommandStore` of `infrastructure/persistence/file_operator_command_store.py`: one
object, a record under each command id. `Application.OperatorCommands` has the store as a table of
records; here is the file, in which commands and results are objects of texts, and which every
method reads anew and every write replaces.

`file_operator_store` says that the file is that table, over any history of calls and crashes. What
makes it so is that every text is read back as the field it was written for (`parseCommand_eq`,
`parseResult_eq`), and that two results are told apart by their texts (`isTexts_resultFields`).
-/

set_option autoImplicit false

namespace CreditHedge

instance : TextEnum OperatorCommandType where
  members :=
    [.softPause, .resumeAfterReconciliation, .cancelPendingEntry, .restoreProtection,
      .closeHedgePosition, .closeOptionSpread, .flattenStrategy, .acknowledgeIncident]
  value
    | .softPause => "SOFT_PAUSE"
    | .resumeAfterReconciliation => "RESUME_AFTER_RECONCILIATION"
    | .cancelPendingEntry => "CANCEL_PENDING_ENTRY"
    | .restoreProtection => "RESTORE_PROTECTION"
    | .closeHedgePosition => "CLOSE_HEDGE_POSITION"
    | .closeOptionSpread => "CLOSE_OPTION_SPREAD"
    | .flattenStrategy => "FLATTEN_STRATEGY"
    | .acknowledgeIncident => "ACKNOWLEDGE_INCIDENT"
  mem_members type := by cases type <;> decide
  nodup_values := by decide

namespace FileOperatorCommandStore

open OperatorCommands AtomicFile

variable {Text : Type} (c : FileConversions Text)

/-! ## What is written and read -/

/-- `_command_payload`. -/
def commandFields (command : OperatorCommand) : List (String × String) :=
  [("command_id", command.commandId), ("command_type", TextEnum.value command.commandType),
    ("operator_id", command.operatorId), ("reason", command.reason),
    ("issued_at_utc", c.isoformat command.issuedAtUtc)]

/-- `_result_payload`. -/
def resultFields (result : OperatorCommandResult) : List (String × String) :=
  [("command_id", result.commandId), ("command_type", TextEnum.value result.commandType),
    ("outcome", result.outcome), ("detail", result.detail),
    ("completed_at_utc", c.isoformat result.completedAtUtc)]

/-- `str(raw[key])`; nothing, if there is no such key. -/
def shown (raw : JsonObject) (key : String) : Option String := (raw.lookup key).map c.str

/-- What `_parse_command` tries. -/
def commandOf (raw : JsonObject) : Option OperatorCommand := do
  let commandId ← shown c raw "command_id"
  let commandType ← TextEnum.ofValue (← shown c raw "command_type")
  let operatorId ← shown c raw "operator_id"
  let reason ← shown c raw "reason"
  let issuedAtUtc ← c.fromisoformat (← shown c raw "issued_at_utc")
  (OperatorCommand.create commandId commandType operatorId reason issuedAtUtc).toOption

/-- What `_parse_result` tries. -/
def resultOf (raw : JsonObject) : Option OperatorCommandResult := do
  let commandId ← shown c raw "command_id"
  let commandType ← TextEnum.ofValue (← shown c raw "command_type")
  let outcome ← shown c raw "outcome"
  let detail ← shown c raw "detail"
  let completedAtUtc ← c.fromisoformat (← shown c raw "completed_at_utc")
  (OperatorCommandResult.create commandId commandType outcome detail completedAtUtc).toOption

/-- `raise RuntimeError(message) from exc`, where there is nothing. -/
def orRaise {α : Type} (message : String) : Option α → Except Raised α
  | some a => .ok a
  | none => .error (.runtimeError message)

/-- `_parse_command`. -/
def parseCommand (raw : JsonObject) : Except Raised OperatorCommand :=
  orRaise "persisted operator command is invalid" (commandOf c raw)

/-- `_parse_result`. -/
def parseResult (raw : JsonObject) : Except Raised OperatorCommandResult :=
  orRaise "persisted operator command result is invalid" (resultOf c raw)

/-- `_object`. -/
def objectOf (parent : JsonObject) (name : String) : Except Raised JsonObject :=
  match JsonObject.get parent name with
  | .object members => .ok members
  | _ => .error (.runtimeError s!"persisted operator {name} is invalid")

/-- The records of a file, under their ids. -/
abbrev Records := List (String × JsonObject)

/-- A member of the document, if it is an object. -/
def recordOf (item : String × Payload) : Option (String × JsonObject) :=
  match item.2 with
  | .object record => some (item.1, record)
  | _ => none

/-- The records of a document, if all of them are objects. -/
def recordsOf : Payload → Option Records
  | .object raw => raw.mapM recordOf
  | _ => none

/-- `_records`. -/
def records : Option Text → Except Raised Records
  | none => .ok []
  | some text =>
    orRaise "operator command store is unreadable" ((c.loads text).bind recordsOf)

/-- What `_write` writes. -/
def document (records : Records) : Text :=
  c.dumps (.object (records.map fun item => (item.1, .object item.2)))

/-! ## The methods -/

inductive StoreCall where
  | loadCommand (commandId : String)
  | loadResult (commandId : String)
  | persistIntent (command : OperatorCommand)
  | complete (result : OperatorCommandResult)

abbrev StoreCall.Answer : StoreCall → Type
  | .loadCommand _ => Option OperatorCommand
  | .loadResult _ => Option OperatorCommandResult
  | .persistIntent _ => Bool
  | .complete _ => Unit

/-- `load_command`. -/
def loadCommand (commandId : String) (file : Option Text) :
    Except Raised (Option OperatorCommand) := do
  let records ← records c file
  match records.lookup commandId with
  | none => pure none
  | some record => do
    let raw ← objectOf record "command"
    let command ← parseCommand c raw
    pure (some command)

/-- `load_result`. -/
def loadResult (commandId : String) (file : Option Text) :
    Except Raised (Option OperatorCommandResult) := do
  let records ← records c file
  match records.lookup commandId with
  | none => pure none
  | some record =>
    if (JsonObject.get record "result").isNull then pure none
    else do
      let raw ← objectOf record "result"
      let result ← parseResult c raw
      pure (some result)

/-- The record of an intent. -/
def intentRecord (command : OperatorCommand) : JsonObject :=
  [("command", .object (textMembers (commandFields c command))), ("result", .null)]

/-- The record, with its result. -/
def completedRecord (record : JsonObject) (result : OperatorCommandResult) : JsonObject :=
  setItem record "result" (.object (textMembers (resultFields c result)))

/-- `persist_intent`. -/
def persistIntent (command : OperatorCommand) (file : Option Text) :
    Except Raised (Bool × Option Text) := do
  let records ← records c file
  if (records.lookup command.commandId).isSome then pure (false, none)
  else
    pure (true, some (document c (setItem records command.commandId (intentRecord c command))))

/-- `complete`. -/
def complete (result : OperatorCommandResult) (file : Option Text) :
    Except Raised (Unit × Option Text) := do
  let records ← records c file
  match records.lookup result.commandId with
  | none => throw (.runtimeError "operator command intent is not persisted")
  | some record =>
    let existing := JsonObject.get record "result"
    if !existing.isNull && !existing.isTexts (resultFields c result) then
      throw (.runtimeError "operator command already has a different result")
    else
      pure ((), some (document c
        (setItem records result.commandId (completedRecord c record result))))

/-- A method that only reads. -/
def reading {α : Type} (outcome : Except Raised α) : Except Raised (α × Option Text) :=
  outcome.map fun answer => (answer, none)

/-- `FileOperatorCommandStore`. -/
def method : AtomicFile.Method Text Raised StoreCall.Answer
  | .loadCommand commandId, file => reading (loadCommand c commandId file)
  | .loadResult commandId, file => reading (loadResult c commandId file)
  | .persistIntent command, file => persistIntent c command file
  | .complete result, file => complete c result file

/-- The table of the records. -/
def table : Spec OperatorRecords Raised StoreCall.Answer
  | .loadCommand commandId, records =>
    (.ok ((records.find commandId).map OperatorRecord.command), records)
  | .loadResult commandId, records =>
    (.ok ((records.find commandId).bind OperatorRecord.result), records)
  | .persistIntent command, records =>
    (.ok (OperatorCommands.persistIntent records command).1,
      (OperatorCommands.persistIntent records command).2)
  | .complete result, records =>
    match OperatorCommands.complete records result with
    | .error raised => (.error raised, records)
    | .ok records => (.ok (), records)

/-! ## What was written is read -/

theorem nodup_commandFields (command : OperatorCommand) :
    ((commandFields c command).map Prod.fst).Nodup := by
  show ["command_id", "command_type", "operator_id", "reason", "issued_at_utc"].Nodup
  decide

theorem nodup_resultFields (result : OperatorCommandResult) :
    ((resultFields c result).map Prod.fst).Nodup := by
  show ["command_id", "command_type", "outcome", "detail", "completed_at_utc"].Nodup
  decide

variable {c}

theorem shown_of_perm {raw : JsonObject} {fields : List (String × String)}
    (h : raw.Perm (textMembers fields)) (hnodup : (fields.map Prod.fst).Nodup) (key : String) :
    shown c raw key = fields.lookup key := by
  unfold shown
  rw [lookup_of_perm_texts h hnodup]
  cases fields.lookup key with
  | none => rfl
  | some value => rfl

theorem parseCommand_eq {raw : JsonObject} {command : OperatorCommand}
    (h : raw.Perm (textMembers (commandFields c command))) :
    parseCommand c raw = .ok command := by
  have hshown := shown_of_perm (c := c) h (nodup_commandFields c command)
  have hcommand : commandOf c raw = some command := by
    unfold commandOf
    simp only [hshown]
    simp [commandFields, lookup_cons_eq, c.fromisoformat_isoformat, command.create_self,
      Except.toOption]
  unfold parseCommand
  rw [hcommand]
  rfl

theorem parseResult_eq {raw : JsonObject} {result : OperatorCommandResult}
    (h : raw.Perm (textMembers (resultFields c result))) : parseResult c raw = .ok result := by
  have hshown := shown_of_perm (c := c) h (nodup_resultFields c result)
  have hresult : resultOf c raw = some result := by
    unfold resultOf
    simp only [hshown]
    simp [resultFields, lookup_cons_eq, c.fromisoformat_isoformat, result.create_self,
      Except.toOption]
  unfold parseResult
  rw [hresult]
  rfl

variable (c)

theorem resultFields_injective : Function.Injective (resultFields c) := by
  intro result result' h
  simp only [resultFields, List.cons.injEq, Prod.mk.injEq, true_and, and_true] at h
  obtain ⟨hid, htype, houtcome, hdetail, htime⟩ := h
  have htype' := TextEnum.value_injective htype
  have htime' := c.isoformat_injective htime
  cases result
  cases result'
  simp_all

/-! ## The records of a file -/

/-- The object of a record. -/
structure Stored (raw : JsonObject) (record : OperatorRecord) : Prop where
  keys : (raw.map Prod.fst).Nodup
  command : HoldsTexts (JsonObject.get raw "command") (commandFields c record.command)
  unanswered : record.result = none → JsonObject.get raw "result" = .null
  answered : ∀ result, record.result = some result →
    HoldsTexts (JsonObject.get raw "result") (resultFields c result)

/-- The file is the table: the objects of its records, each under its id. -/
def Holds (file : Option Text) (table : OperatorRecords) : Prop :=
  ∃ loaded, records c file = .ok loaded ∧ (loaded.map Prod.fst).Nodup ∧
    ∀ id, Option.Rel (Stored c) (loaded.lookup id) (table.find id)

variable {c}

theorem Holds.empty : Holds c none KeyedTable.empty :=
  ⟨[], rfl, List.nodup_nil, fun _ => .none⟩

theorem Stored.sorted {raw : JsonObject} {record : OperatorRecord} (h : Stored c raw record) :
    Stored c (Payload.sortedMembers raw) record where
  keys := Payload.nodup_sortedMembers h.keys
  command := by
    rw [Payload.get_sortedMembers h.keys]
    exact h.command.sorted
  unanswered hresult := by
    rw [Payload.get_sortedMembers h.keys, h.unanswered hresult]
    rfl
  answered result hresult := by
    rw [Payload.get_sortedMembers h.keys]
    exact (h.answered result hresult).sorted

theorem holdsTexts_textMembers (fields : List (String × String)) :
    HoldsTexts (.object (textMembers fields)) fields :=
  ⟨_, rfl, List.Perm.refl _⟩

/-- The record of an intent. -/
theorem Stored.intent (command : OperatorCommand) :
    Stored c (intentRecord c command) { command, result := none } where
  keys := by
    show ["command", "result"].Nodup
    decide
  command := holdsTexts_textMembers _
  unanswered _ := rfl
  answered _ hresult := by cases hresult

/-- The record of a command that is completed. -/
theorem Stored.completed {raw : JsonObject} {record : OperatorRecord} (h : Stored c raw record)
    (result : OperatorCommandResult) :
    Stored c (completedRecord c raw result) { record with result := some result } where
  keys := nodup_setItem h.keys _ _
  command := by
    rw [completedRecord, get_setItem, if_neg (by decide)]
    exact h.command
  unanswered hresult := by cases hresult
  answered result' hresult := by
    obtain rfl := Option.some.inj hresult
    rw [completedRecord, get_setItem, if_pos rfl]
    exact holdsTexts_textMembers _

theorem recordsOf_objects (records : Records) :
    recordsOf (.object (records.map fun item => (item.1, .object item.2))) = some records := by
  show (records.map fun item => (item.1, Payload.object item.2)).mapM recordOf = some records
  induction records with
  | nil => rfl
  | cons item records ih =>
    rw [List.map_cons, List.mapM_cons, ih]
    rfl

/-- What is read of what was written: the same records, sorted. -/
theorem records_document (loaded : Records) :
    records c (some (document c loaded)) =
      .ok ((byKey loaded).map fun item => (item.1, Payload.sortedMembers item.2)) := by
  have hsorted : (Payload.object (loaded.map fun item => (item.1, .object item.2))).sorted =
      .object (((byKey loaded).map fun item => (item.1, Payload.sortedMembers item.2)).map
        fun item => (item.1, .object item.2)) := by
    rw [Payload.sorted_object]
    unfold Payload.sortedMembers
    rw [Payload.sortedValues_eq, List.map_map, List.map_map]
    exact congrArg Payload.object
      (byKey_map loaded fun raw => (Payload.object raw).sorted)
  show orRaise _ ((c.loads (c.dumps _)).bind recordsOf) = _
  rw [c.loads_dumps, hsorted, Option.bind_some, recordsOf_objects]
  rfl

theorem rel_sortedMembers {raw : Option JsonObject} {record : Option OperatorRecord}
    (h : Option.Rel (Stored c) raw record) :
    Option.Rel (Stored c) (raw.map Payload.sortedMembers) record := by
  cases h with
  | some h => exact .some h.sorted
  | none => exact .none

/-- What is written of the records holds the table that the records are. -/
theorem Holds.document {loaded : Records} {table : OperatorRecords}
    (hnodup : (loaded.map Prod.fst).Nodup)
    (h : ∀ id, Option.Rel (Stored c) (loaded.lookup id) (table.find id)) :
    Holds c (some (document c loaded)) table := by
  have hperm := byKey_perm loaded
  have hnodup' : ((byKey loaded).map Prod.fst).Nodup := (hperm.map Prod.fst).nodup_iff.mpr hnodup
  refine ⟨_, records_document loaded, ?_, fun id => ?_⟩
  · rw [keys_map]
    exact hnodup'
  · rw [lookup_map, lookup_eq_of_perm hperm hnodup']
    exact rel_sortedMembers (h id)

/-! ## Every method, on a file that holds the table -/

section Methods

variable {file : Option Text} {table : OperatorRecords}

theorem objectOf_eq {parent : JsonObject} {name : String} {members : JsonObject}
    (h : JsonObject.get parent name = .object members) : objectOf parent name = .ok members := by
  unfold objectOf
  rw [h]

theorem loadCommand_eq (h : Holds c file table) (id : String) :
    loadCommand c id file = .ok ((table.find id).map OperatorRecord.command) := by
  obtain ⟨loaded, hloaded, -, hrel⟩ := h
  have hid := hrel id
  unfold loadCommand
  rw [hloaded]
  show (match loaded.lookup id with | none => _ | some record => _) = _
  generalize loaded.lookup id = raw, table.find id = record at hid
  cases hid with
  | none => rfl
  | some hstored =>
    obtain ⟨members, hmembers, hperm⟩ := hstored.command
    simp only [objectOf_eq hmembers]
    show (parseCommand c members >>= fun command => pure (some command)) = _
    rw [parseCommand_eq hperm]
    rfl

theorem loadResult_eq (h : Holds c file table) (id : String) :
    loadResult c id file = .ok ((table.find id).bind OperatorRecord.result) := by
  obtain ⟨loaded, hloaded, -, hrel⟩ := h
  have hid := hrel id
  unfold loadResult
  rw [hloaded]
  show (match loaded.lookup id with | none => _ | some record => _) = _
  generalize loaded.lookup id = raw, table.find id = record at hid
  cases hid with
  | none => rfl
  | @some raw record hstored =>
    rw [Option.bind_some]
    cases hresult : record.result with
    | none =>
      simp only [hstored.unanswered hresult]
      rfl
    | some result =>
      obtain ⟨members, hmembers, hperm⟩ := hstored.answered result hresult
      simp only [hmembers, objectOf_eq hmembers]
      show (parseResult c members >>= fun result => pure (some result)) = _
      rw [parseResult_eq hperm]
      rfl

/-- An id that is taken. -/
theorem persistIntent_of_bound (h : Holds c file table) {command : OperatorCommand}
    {record : OperatorRecord} (hbound : table.find command.commandId = some record) :
    persistIntent c command file = .ok (false, none) := by
  obtain ⟨loaded, hloaded, -, hrel⟩ := h
  have hid := hrel command.commandId
  rw [hbound] at hid
  unfold persistIntent
  rw [hloaded]
  show (if (loaded.lookup command.commandId).isSome then _ else _) = _
  generalize loaded.lookup command.commandId = raw at hid
  cases hid with
  | some hstored => rfl

/-- An id that is free. -/
theorem persistIntent_of_free (h : Holds c file table) {command : OperatorCommand}
    {table' : OperatorRecords} (hfree : table.find command.commandId = none)
    (hinsert : table.insert { command, result := none } = some table') :
    ∃ text, persistIntent c command file = .ok (true, some text) ∧ Holds c (some text) table' := by
  obtain ⟨loaded, hloaded, hnodup, hrel⟩ := h
  have hid := hrel command.commandId
  have hlookup : loaded.lookup command.commandId = none := by
    rw [hfree] at hid
    generalize loaded.lookup command.commandId = raw at hid ⊢
    cases hid with
    | none => rfl
  refine ⟨document c (setItem loaded command.commandId (intentRecord c command)), ?_,
    Holds.document (nodup_setItem hnodup _ _) fun id => ?_⟩
  · unfold persistIntent
    rw [hloaded]
    show (if (loaded.lookup command.commandId).isSome then _ else _) = _
    rw [hlookup]
    rfl
  · rw [lookup_setItem, KeyedTable.find_insert hinsert]
    show Option.Rel _ _ (if id = command.commandId then _ else _)
    split
    · exact .some (Stored.intent command)
    · exact hrel id

/-- What is compared of two results. -/
theorem Stored.compare {raw : JsonObject} {record : OperatorRecord} (h : Stored c raw record)
    (result : OperatorCommandResult) :
    (!(JsonObject.get raw "result").isNull &&
      !(JsonObject.get raw "result").isTexts (resultFields c result)) = true ↔
      record.result ≠ none ∧ record.result ≠ some result := by
  cases hresult : record.result with
  | none =>
    rw [h.unanswered hresult]
    simp [Payload.isNull]
  | some existing =>
    have htexts := h.answered existing hresult
    have hsame : _ = true ↔ resultFields c existing = resultFields c result :=
      htexts.isTexts_iff (nodup_resultFields c existing) rfl
    rw [(resultFields_injective c).eq_iff] at hsame
    obtain ⟨members, hmembers, -⟩ := htexts
    rw [hmembers] at hsame ⊢
    by_cases heq : existing = result
    · simp [heq, hsame.mpr heq]
    · have hdifferent := mt hsame.mp heq
      simp [heq, hdifferent, Payload.isNull]

/-- A result for an id that is free, or that has another one. -/
theorem complete_of_error (h : Holds c file table) {result : OperatorCommandResult}
    {raised : Raised} (herror : OperatorCommands.complete table result = .error raised) :
    complete c result file = .error raised := by
  obtain ⟨loaded, hloaded, -, hrel⟩ := h
  have hid := hrel result.commandId
  unfold complete
  rw [hloaded]
  show (match loaded.lookup result.commandId with | none => _ | some record => _) = _
  unfold OperatorCommands.complete at herror
  generalize loaded.lookup result.commandId = raw, table.find result.commandId = record at hid herror
  cases hid with
  | none =>
    obtain rfl := Except.error.inj herror
    rfl
  | some hstored =>
    simp only [← hstored.compare result] at herror
    split at herror
    · rename_i hdifferent
      simp only [hdifferent, if_true]
      obtain rfl := Except.error.inj herror
      rfl
    · cases herror

theorem complete_of_ok (h : Holds c file table) {result : OperatorCommandResult}
    {table' : OperatorRecords} (hok : OperatorCommands.complete table result = .ok table') :
    ∃ text, complete c result file = .ok ((), some text) ∧ Holds c (some text) table' := by
  obtain ⟨loaded, hloaded, hnodup, hrel⟩ := h
  obtain ⟨record, hfound, hsame, hafter⟩ := complete_eq_ok hok
  have hid := hrel result.commandId
  rw [hfound] at hid
  cases hraw : loaded.lookup result.commandId with
  | none =>
    rw [hraw] at hid
    cases hid
  | some raw =>
    rw [hraw] at hid
    cases hid with
    | some hstored =>
      have hcompare : ¬ (record.result ≠ none ∧ record.result ≠ some result) := by
        rintro ⟨hsome, hdifferent⟩
        obtain ⟨existing, hexisting⟩ := Option.ne_none_iff_exists'.mp hsome
        exact hdifferent (hexisting.trans (congrArg some (hsame existing hexisting)))
      rw [← hstored.compare result, Bool.not_eq_true] at hcompare
      refine ⟨document c (setItem loaded result.commandId (completedRecord c raw result)), ?_,
        Holds.document (nodup_setItem hnodup _ _) fun id => ?_⟩
      · unfold complete
        rw [hloaded]
        show (match loaded.lookup result.commandId with | none => _ | some record => _) = _
        rw [hraw]
        simp only [hcompare]
        rfl
      · rw [lookup_setItem, hafter]
        split
        · exact .some (hstored.completed result)
        · exact hrel id

end Methods

theorem insert_of_bound {records : OperatorRecords} {command : OperatorCommand}
    {record : OperatorRecord} (hbound : records.find command.commandId = some record) :
    records.insert { command, result := none } = none := by
  cases hinserted : records.insert { command, result := none } with
  | none => rfl
  | some records' =>
    have hfree : records.find command.commandId = none :=
      (KeyedTable.insert_eq_some.mp hinserted).1
    rw [hbound] at hfree
    cases hfree

/-- **Every method does to the file what it is to do to the table.** -/
theorem method_implements : Implements (method c) table (Holds c) := by
  intro call disk records h
  cases call with
  | loadCommand id =>
    simp only [method, reading, loadCommand_eq h]
    exact ⟨rfl, h⟩
  | loadResult id =>
    simp only [method, reading, loadResult_eq h]
    exact ⟨rfl, h⟩
  | persistIntent command =>
    simp only [method, table, OperatorCommands.persistIntent]
    cases hbound : records.find command.commandId with
    | some record =>
      simp only [persistIntent_of_bound h hbound, insert_of_bound hbound]
      exact ⟨rfl, h⟩
    | none =>
      obtain ⟨records', hinsert⟩ :=
        KeyedTable.exists_insert (t := records) (r := { command, result := none }) hbound
      obtain ⟨text, hpersist, hholds⟩ := persistIntent_of_free h hbound hinsert
      simp only [hpersist, hinsert]
      exact ⟨rfl, hholds⟩
  | complete result =>
    simp only [method, table]
    cases hcomplete : OperatorCommands.complete records result with
    | error raised =>
      simp only [complete_of_error h hcomplete]
      exact ⟨rfl, h⟩
    | ok records' =>
      obtain ⟨text, hwritten, hholds⟩ := complete_of_ok h hcomplete
      simp only [hwritten]
      exact ⟨rfl, hholds⟩

/-! ## What an answer promises -/

/-- The call, as the service makes it. -/
def StoreCall.toOperatorCall : (call : StoreCall) → OperatorCall
  | .loadCommand commandId => .loadCommand commandId
  | .loadResult commandId => .loadResult commandId
  | .persistIntent command => .persistIntent command
  | .complete result => .complete result

/-- The table is the store that the service is run with. -/
theorem handle_toOperatorCall (call : StoreCall) (w : OperatorWorld) :
    (OperatorCommands.handle {} call.toOperatorCall w).2 =
      { w with records := (table call w.records).2 } := by
  cases call with
  | loadCommand id => rfl
  | loadResult id => rfl
  | persistIntent command => rfl
  | complete result =>
    simp only [StoreCall.toOperatorCall, OperatorCommands.handle, table]
    cases OperatorCommands.complete w.records result with
    | error raised => rfl
    | ok records => rfl

theorem keeps_table (call : StoreCall) (records : OperatorRecords) :
    Keeps { records } { records := (table call records).2 } := by
  rw [← handle_toOperatorCall call { records }]
  exact keeps_handle {} call.toOperatorCall { records }

/-- What a caller may know of the store. -/
inductive Fact where
  /-- The id is bound to this command. -/
  | bound (command : OperatorCommand)
  | completed (commandId : String) (result : OperatorCommandResult)

def Fact.Holds : Fact → OperatorRecords → Prop
  | .bound command, records =>
    ∃ record, records.find command.commandId = some record ∧ record.command = command
  | .completed commandId result, records =>
    ∃ record, records.find commandId = some record ∧ record.result = some result

abbrev StoreReply := Reply Raised StoreCall.Answer

/-- What is learned from an answer. -/
def learned : StoreReply → Option Fact
  | ⟨.loadCommand _, some (.ok (some command))⟩ => some (.bound command)
  | ⟨.loadResult commandId, some (.ok (some result))⟩ => some (.completed commandId result)
  | ⟨.persistIntent command, some (.ok true)⟩ => some (.bound command)
  | ⟨.complete result, some (.ok ())⟩ => some (.completed result.commandId result)
  | _ => none

/-- What can still be answered. -/
def Fact.Respected : Fact → StoreReply → Prop
  | .bound command, ⟨.loadCommand id, some answer⟩ =>
    id = command.commandId → answer = .ok (some command)
  | .bound command, ⟨.persistIntent command', some answer⟩ =>
    command'.commandId = command.commandId → answer = .ok false
  | .completed commandId result, ⟨.loadResult id, some answer⟩ =>
    id = commandId → answer = .ok (some result)
  | .completed commandId result, ⟨.complete result', some answer⟩ =>
    result'.commandId = commandId → (answer = .ok () ↔ result' = result)
  | _, _ => True

theorem Fact.holds_table (fact : Fact) (call : StoreCall) (records : OperatorRecords)
    (h : fact.Holds records) : fact.Holds (table call records).2 := by
  cases fact with
  | bound command =>
    obtain ⟨record, hfind, hcommand⟩ := h
    obtain ⟨record', hfind', hsame, -⟩ := keeps_table call records _ record hfind
    exact ⟨record', hfind', hsame.trans hcommand⟩
  | completed commandId result =>
    obtain ⟨record, hfind, hresult⟩ := h
    obtain ⟨record', hfind', -, hkept⟩ := keeps_table call records _ record hfind
    exact ⟨record', hfind', hkept result hresult⟩

theorem Fact.respected_table (fact : Fact) (call : StoreCall) (records : OperatorRecords)
    (h : fact.Holds records) : fact.Respected ⟨call, some (table call records).1⟩ := by
  cases fact with
  | bound command =>
    obtain ⟨record, hfind, rfl⟩ := h
    cases call with
    | loadCommand id =>
      rintro rfl
      show Except.ok ((records.find _).map OperatorRecord.command) = _
      rw [hfind]
      rfl
    | loadResult id => exact trivial
    | persistIntent command' =>
      intro hid
      rw [← hid] at hfind
      simp only [table, OperatorCommands.persistIntent, insert_of_bound hfind]
    | complete result => exact trivial
  | completed commandId result =>
    obtain ⟨record, hfind, hresult⟩ := h
    cases call with
    | loadCommand id => exact trivial
    | loadResult id =>
      rintro rfl
      show Except.ok ((records.find _).bind OperatorRecord.result) = _
      rw [hfind, Option.bind_some, hresult]
    | persistIntent command' => exact trivial
    | complete result' =>
      intro hid
      rw [← hid] at hfind
      simp only [table, OperatorCommands.complete, hfind, hresult]
      by_cases hsame : result' = result
      · simp [hsame]
      · simp [hsame, Ne.symm hsame]

theorem Fact.holds_of_learned (call : StoreCall) (records : OperatorRecords) (fact : Fact)
    (h : fact ∈ learned ⟨call, some (table call records).1⟩) :
    fact.Holds (table call records).2 := by
  cases call with
  | loadCommand id =>
    cases hfind : records.find id with
    | none =>
      simp only [table, hfind] at h
      cases h
    | some record =>
      simp only [table, hfind] at h
      obtain rfl := Option.some.inj h
      have hid : record.command.commandId = id := (KeyedTable.find_eq_some.mp hfind).2
      refine ⟨record, ?_, rfl⟩
      rw [hid]
      exact hfind
  | loadResult id =>
    cases hfind : records.find id with
    | none =>
      simp only [table, hfind] at h
      cases h
    | some record =>
      cases hresult : record.result with
      | none =>
        simp only [table, hfind, Option.bind_some, hresult] at h
        cases h
      | some result =>
        simp only [table, hfind, Option.bind_some, hresult] at h
        obtain rfl := Option.some.inj h
        exact ⟨record, hfind, hresult⟩
  | persistIntent command =>
    cases hinsert : records.insert { command, result := none } with
    | none =>
      simp only [table, OperatorCommands.persistIntent, hinsert] at h
      cases h
    | some records' =>
      simp only [table, OperatorCommands.persistIntent, hinsert] at h ⊢
      obtain rfl := Option.some.inj h
      exact ⟨_, (KeyedTable.find_insert hinsert _).trans (if_pos rfl), rfl⟩
  | complete result =>
    cases hcomplete : OperatorCommands.complete records result with
    | error raised =>
      simp only [table, hcomplete] at h
      cases h
    | ok records' =>
      simp only [table, hcomplete] at h ⊢
      obtain rfl := Option.some.inj h
      obtain ⟨record, -, -, hafter⟩ := complete_eq_ok hcomplete
      exact ⟨_, (hafter _).trans (if_pos rfl), rfl⟩

end FileOperatorCommandStore

section

open FileOperatorCommandStore AtomicFile

variable {Text : Type} (c : FileConversions Text) (calls : List (StoreCall × Fate Text))

/-- **A file of operator commands is a table of them, over any history of calls and crashes.** -/
theorem file_operator_store :
    (AtomicFile.history (method c) {} calls).1 = (table.history KeyedTable.empty calls).1 ∧
      FileOperatorCommandStore.Holds c (AtomicFile.history (method c) {} calls).2.file
        (table.history KeyedTable.empty calls).2 :=
  method_implements.history FileOperatorCommandStore.Holds.empty calls

/-- **What the store has answered once, no crash and no later call takes back.** -/
theorem file_operator_store_durable :
    (AtomicFile.history (method c) {} calls).1.Pairwise fun reply later =>
      ∀ fact ∈ learned reply, fact.Respected later := by
  rw [(method_implements.history FileOperatorCommandStore.Holds.empty calls).1]
  refine Spec.pairwise_respected Fact.holds_table Fact.respected_table Fact.holds_of_learned
    ?_ ?_ _ _
  · intro fact call
    cases fact <;> cases call <;> exact trivial
  · intro call
    cases call <;> rfl

end

end CreditHedge
