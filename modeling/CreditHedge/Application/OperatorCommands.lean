import CreditHedge.Domain.OperatorCommands
import CreditHedge.Lib.Dicts
import CreditHedge.Lib.Licences

/-!
# Operator commands at most once

`OperatorCommandService.execute` of `application/operator_commands.py` over
`FileOperatorCommandStore`, for any number of callers at a time. The store's operations are atomic,
everything between two of them may interleave, and every call may raise, before or after it has
done its work.

That an action runs at most once is the store's doing: it binds an id to one command, and only the
caller that has bound it goes on to the action. The licence to act is granted once, and used at most
once (`EventLoop.used_le_one`).

That a caller gets the result of its own command is the service's doing, and it is done on one of
two ways only. A caller that finds its id bound compares the commands. A caller that finds the id
free, and loses the race for it, takes the result under the id as it is. So the result is its own as
long as such a caller finds no other command's (`operator_commands`).
-/

set_option autoImplicit false

namespace CreditHedge

namespace OperatorCommands

/-! ## The service -/

inductive OperatorCall where
  | authenticate (operatorId : String) (credential : OperatorCredential)
  | clock
  /-- `self._audit.record`. -/
  | record (event : OperatorCommandAudit)
  | loadCommand (commandId : String)
  | loadResult (commandId : String)
  | persistIntent (command : OperatorCommand)
  /-- `load_result(command.command_id)`, after the intent was refused. -/
  | reloadResult (command : OperatorCommand)
  /-- `self._actions.execute`. -/
  | act (command : OperatorCommand)
  | complete (result : OperatorCommandResult)

abbrev OperatorCall.Result : OperatorCall → Type
  | .authenticate .. => Bool
  | .clock => Time
  | .record _ => Unit
  | .loadCommand _ => Option OperatorCommand
  | .loadResult _ => Option OperatorCommandResult
  | .persistIntent _ => Bool
  | .reloadResult _ => Option OperatorCommandResult
  | .act _ => String
  | .complete _ => Unit

abbrev OperatorTask := Coroutine Raised OperatorCall OperatorCall.Result

def await (call : OperatorCall) : OperatorTask call.Result := .perform call

def recordAudit (command : OperatorCommand) (outcome detail : String) : OperatorTask Unit := do
  let timestampUtc ← await .clock
  await (.record
    { commandId := command.commandId
      commandType := command.commandType
      operatorId := command.operatorId
      outcome
      timestampUtc
      detail })

/-- `if result is not None: return result`, `raise RuntimeError(message)`. -/
def resultOr (message : String) : Option OperatorCommandResult → OperatorTask OperatorCommandResult
  | some result => pure result
  | none => throw (.runtimeError message)

/-- What is recorded of an action that has answered. -/
def conclude (command : OperatorCommand) (detail : String) : OperatorTask OperatorCommandResult := do
  let completedAtUtc ← await .clock
  let completed ← OperatorCommandResult.create command.commandId command.commandType "COMPLETED"
    detail completedAtUtc
  await (.complete completed)
  recordAudit command "COMPLETED" detail
  pure completed

def carryOut (command : OperatorCommand) : OperatorTask OperatorCommandResult := do
  let detail ← MonadExcept.tryCatch (await (.act command)) fun exc => do
    recordAudit command "FAILED" (exc.typeName ++ ": action failed")
    throw exc
  conclude command detail

/-- A command whose id was found free. -/
def bindCommand (command : OperatorCommand) : OperatorTask OperatorCommandResult := do
  match ← await (.persistIntent command) with
  | true => carryOut command
  | false => do
    let result ← await (.reloadResult command)
    resultOr "operator command was concurrently started and its outcome is unknown" result

/-- `OperatorCommandService.execute`. -/
def execute (command : OperatorCommand) (credential : OperatorCredential) :
    OperatorTask OperatorCommandResult := do
  match ← await (.authenticate command.operatorId credential) with
  | false => do
    recordAudit command "DENIED" "authentication failed"
    throw (.permissionError "operator authentication failed")
  | true => do
    let existing ← await (.loadCommand command.commandId)
    let result ← await (.loadResult command.commandId)
    match existing with
    | some bound =>
      if bound ≠ command then
        throw (.valueError "operator command ID is already bound to other input")
      else resultOr "operator command was started but its outcome is unknown" result
    | none => bindCommand command

/-! ## The store -/

structure OperatorRecord where
  command : OperatorCommand
  result : Option OperatorCommandResult
  deriving DecidableEq

def OperatorRecord.commandId (record : OperatorRecord) : String := record.command.commandId

abbrev OperatorRecords := KeyedTable OperatorRecord.commandId

/-- `FileOperatorCommandStore.persist_intent`. -/
def persistIntent (records : OperatorRecords) (command : OperatorCommand) :
    Bool × OperatorRecords :=
  match records.insert { command, result := none } with
  | some records' => (true, records')
  | none => (false, records)

/-- `FileOperatorCommandStore.complete`. -/
def complete (records : OperatorRecords) (result : OperatorCommandResult) :
    Except Raised OperatorRecords :=
  match records.find result.commandId with
  | none => .error (.runtimeError "operator command intent is not persisted")
  | some record =>
    if record.result ≠ none ∧ record.result ≠ some result then
      .error (.runtimeError "operator command already has a different result")
    else .ok (records.upsert { record with result := some result })

/-! ## The callers and their store -/

structure OperatorWorld where
  records : OperatorRecords
  audits : List OperatorCommandAudit := []
  /-- The ids of the commands the action port was invoked with. -/
  executed : List String := []

structure Fault where
  raised : Raised
  afterEffect : Bool

/-- What the outside world decides. -/
structure OperatorAnswers where
  authenticated : Bool := true
  now : Time := 0
  detail : String := ""
  fault : Option Fault := none

/-- A call that goes through as `outcome`, unless it raises. -/
def OperatorAnswers.settle {α : Type} (a : OperatorAnswers) (w : OperatorWorld)
    (outcome : Except Raised α × OperatorWorld) : Except Raised α × OperatorWorld :=
  match a.fault with
  | none => outcome
  | some fault => (.error fault.raised, if fault.afterEffect then outcome.2 else w)

def handle (a : OperatorAnswers) :
    (call : OperatorCall) → OperatorWorld → Except Raised call.Result × OperatorWorld
  | .authenticate _ _, w => a.settle w (.ok a.authenticated, w)
  | .clock, w => (.ok a.now, w)
  | .record event, w => a.settle w (.ok (), { w with audits := w.audits ++ [event] })
  | .loadCommand commandId, w =>
    a.settle w (.ok ((w.records.find commandId).map OperatorRecord.command), w)
  | .loadResult commandId, w =>
    a.settle w (.ok ((w.records.find commandId).bind OperatorRecord.result), w)
  | .persistIntent command, w =>
    let persisted := persistIntent w.records command
    a.settle w (.ok persisted.1, { w with records := persisted.2 })
  | .reloadResult command, w =>
    a.settle w (.ok ((w.records.find command.commandId).bind OperatorRecord.result), w)
  | .act command, w =>
    let w' := { w with executed := w.executed ++ [command.commandId] }
    a.settle w' (.ok a.detail, w')
  | .complete result, w =>
    match complete w.records result with
    | .error raised => (.error raised, w)
    | .ok records => a.settle w (.ok (), { w with records })

/-! ## What the store keeps -/

/-- Commands stay bound to their ids, and results to their commands. -/
def Keeps (w w' : OperatorWorld) : Prop :=
  ∀ id record, w.records.find id = some record → ∃ record', w'.records.find id = some record' ∧
    record'.command = record.command ∧ ∀ result, record.result = some result →
      record'.result = some result

theorem Keeps.refl (w : OperatorWorld) : Keeps w w :=
  fun _ record h => ⟨record, h, rfl, fun _ hresult => hresult⟩

theorem Keeps.trans {w w' w'' : OperatorWorld} (h : Keeps w w') (h' : Keeps w' w'') :
    Keeps w w'' := by
  intro id record hfind
  obtain ⟨record', hfind', hcommand', hresult'⟩ := h id record hfind
  obtain ⟨record'', hfind'', hcommand'', hresult''⟩ := h' id record' hfind'
  exact ⟨record'', hfind'', hcommand''.trans hcommand',
    fun result hresult => hresult'' result (hresult' result hresult)⟩

/-- A call keeps what its undisturbed outcome keeps. -/
theorem settle_keeps {α : Type} {a : OperatorAnswers} {w : OperatorWorld}
    {outcome : Except Raised α × OperatorWorld} (keeps : OperatorWorld → Prop) (hw : keeps w)
    (houtcome : keeps outcome.2) : keeps (a.settle w outcome).2 := by
  unfold OperatorAnswers.settle
  split
  · exact houtcome
  · dsimp only
    split
    · exact houtcome
    · exact hw

theorem settle_eq_ok {α : Type} {a : OperatorAnswers} {w : OperatorWorld}
    {outcome : Except Raised α × OperatorWorld} {answer : α}
    (h : (a.settle w outcome).1 = .ok answer) :
    outcome.1 = .ok answer ∧ a.settle w outcome = outcome := by
  unfold OperatorAnswers.settle at h ⊢
  split at h
  · exact ⟨h, rfl⟩
  · exact absurd h (by simp)

theorem keeps_persistIntent (w : OperatorWorld) (command : OperatorCommand) :
    Keeps w { w with records := (persistIntent w.records command).2 } := by
  unfold persistIntent
  split
  · rename_i records hinsert
    intro id record hfind
    refine ⟨record, ?_, rfl, fun _ hresult => hresult⟩
    rw [KeyedTable.find_insert hinsert, if_neg]
    · exact hfind
    · rintro rfl
      exact absurd (hfind.symm.trans (KeyedTable.insert_eq_some.mp hinsert).1) (by simp)
  · exact Keeps.refl w

/-- What a completion that goes through comes to. -/
theorem complete_eq_ok {records records' : OperatorRecords} {result : OperatorCommandResult}
    (h : complete records result = .ok records') :
    ∃ record, records.find result.commandId = some record ∧
      (∀ previous, record.result = some previous → previous = result) ∧
      ∀ id, records'.find id =
        if id = result.commandId then some { record with result := some result }
        else records.find id := by
  unfold complete at h
  split at h
  · exact absurd h (by simp)
  · rename_i record hfind
    split at h
    · exact absurd h (by simp)
    · rename_i hsame
      obtain rfl := Except.ok.inj h
      have hkey : OperatorRecord.commandId { record with result := some result } =
          result.commandId := (KeyedTable.find_eq_some.mp hfind).2
      refine ⟨record, hfind, fun previous hprevious => ?_, fun id => ?_⟩
      · rw [hprevious] at hsame
        by_contra hne
        exact hsame ⟨by simp, fun heq => hne (Option.some.inj heq)⟩
      · rw [KeyedTable.find_upsert, hkey]

theorem keeps_complete {w : OperatorWorld} {records : OperatorRecords}
    {result : OperatorCommandResult} (h : complete w.records result = .ok records) :
    Keeps w { w with records } := by
  obtain ⟨record, hfind, hsame, hrecords⟩ := complete_eq_ok h
  intro id bound hbound
  by_cases hid : id = result.commandId
  · subst hid
    obtain rfl := Option.some.inj (hbound.symm.trans hfind)
    refine ⟨_, (hrecords _).trans (if_pos rfl), rfl, fun previous hprevious => ?_⟩
    exact congrArg some (hsame previous hprevious).symm
  · exact ⟨bound, (hrecords id).trans ((if_neg hid).trans hbound), rfl, fun _ hresult => hresult⟩

/-- **Every call keeps what is bound.** -/
theorem keeps_handle (a : OperatorAnswers) (call : OperatorCall) (w : OperatorWorld) :
    Keeps w (handle a call w).2 := by
  have hrefl := Keeps.refl w
  cases call with
  | authenticate operatorId credential => exact settle_keeps _ hrefl hrefl
  | clock => exact hrefl
  | record event => exact settle_keeps _ hrefl hrefl
  | loadCommand commandId => exact settle_keeps _ hrefl hrefl
  | loadResult commandId => exact settle_keeps _ hrefl hrefl
  | persistIntent command => exact settle_keeps _ hrefl (keeps_persistIntent w command)
  | reloadResult command => exact settle_keeps _ hrefl hrefl
  | act command => exact settle_keeps (Keeps w) hrefl hrefl
  | complete result =>
    simp only [handle]
    split
    · exact hrefl
    · rename_i records hcomplete
      exact settle_keeps _ hrefl (keeps_complete hcomplete)

/-! ## At most once -/

def Acts (id : String) : OperatorCall → Prop
  | .act command => command.commandId = id
  | _ => False

def Binds (id : String) : OperatorCall → Prop
  | .persistIntent command => command.commandId = id
  | _ => False

/-- The intent was not there before. -/
def Inserted : (call : OperatorCall) → Except Raised call.Result → Prop
  | .persistIntent _, .ok inserted => inserted = true
  | _, _ => False

/-- What the service does besides binding and acting. -/
def IsAside (call : OperatorCall) : Prop := ∀ id, ¬ Acts id call ∧ ¬ Binds id call

theorem recordAudit_calls {command : OperatorCommand} {outcome detail : String} :
    (recordAudit command outcome detail).Calls IsAside :=
  .call_bind (fun _ => ⟨id, id⟩) fun _ => .perform fun _ => ⟨id, id⟩

theorem resultOr_calls {message : String} {result : Option OperatorCommandResult} :
    (resultOr message result).Calls IsAside := by
  cases result with
  | none => exact trivial
  | some result => exact trivial

theorem conclude_calls {command : OperatorCommand} {detail : String} :
    (conclude command detail).Calls IsAside :=
  .call_bind (fun _ => ⟨id, id⟩) fun _ => .lift_bind fun _ _ =>
    .call_bind (fun _ => ⟨id, id⟩) fun _ => .bind recordAudit_calls fun _ => .pure _

variable {id : String} {command : OperatorCommand} {credential : OperatorCredential}

theorem not_acts {call : OperatorCall} (h : IsAside call) : ¬ Acts id call := (h id).1

theorem carryOut_licensed : (carryOut command).Licensed (Acts id) (Binds id) Inserted := by
  have hconclude : ∀ detail, (conclude command detail).Calls fun call => ¬ Acts id call :=
    fun detail => conclude_calls.imp fun _ => not_acts
  refine Coroutine.Licensed.spend (fun h => h) fun answer => ?_
  cases answer with
  | ok detail => exact hconclude detail
  | error exc =>
    have hfailed : Coroutine.Calls (fun call => ¬ Acts id call) (do
        recordAudit command "FAILED" (exc.typeName ++ ": action failed")
        throw exc : OperatorTask String) :=
      .bind (recordAudit_calls.imp fun _ => not_acts) fun _ => .throw _
    exact hfailed.bind hconclude

theorem bindCommand_licensed : (bindCommand command).Licensed (Acts id) (Binds id) Inserted := by
  have hreload : Coroutine.Calls (fun call => ¬ Acts id call) (do
      let result ← await (.reloadResult command)
      resultOr "operator command was concurrently started and its outcome is unknown" result) :=
    .call_bind (fun h => h) fun _ => resultOr_calls.imp fun _ => not_acts
  refine Coroutine.Licensed.claim_bind (fun h => h) (fun inserted hrefused => ?_) fun inserted => ?_
  · cases inserted with
    | true => exact absurd rfl hrefused
    | false => exact hreload.not_committed
  · cases inserted with
    | true => exact carryOut_licensed
    | false => exact .of_never hreload

/-- A caller comes to the action of its own id only, and not before it has bound it. -/
theorem bindCommand_not_committed : ¬ (bindCommand command).Committed (Acts id) (Binds id) := by
  by_cases hid : command.commandId = id
  · exact Coroutine.not_committed_of_checks hid fun h => h
  · have hact : ¬ Acts id (.act command) := hid
    have hcarryOut : (carryOut command).Calls fun call => ¬ Acts id call := by
      refine .bind (.tryCatch (.perform hact) fun exc => ?_) fun _ =>
        conclude_calls.imp fun _ => not_acts
      exact .bind (recordAudit_calls.imp fun _ => not_acts) fun _ => .throw _
    refine Coroutine.Calls.not_committed (.call_bind (fun h => h) fun inserted => ?_)
    cases inserted with
    | true => exact hcarryOut
    | false => exact .call_bind (fun h => h) fun _ => resultOr_calls.imp fun _ => not_acts

/-- A caller that has not bound the id and will not act under it otherwise. -/
structure Unbound (id : String) (t : OperatorTask OperatorCommandResult) : Prop where
  licensed : t.Licensed (Acts id) (Binds id) Inserted
  not_committed : ¬ t.Committed (Acts id) (Binds id)

theorem Unbound.of_calls {t : OperatorTask OperatorCommandResult} (h : t.Calls IsAside) :
    Unbound id t := by
  have hnever : t.Calls fun call => ¬ Acts id call := h.imp fun _ => not_acts
  exact ⟨.of_never hnever, hnever.not_committed⟩

theorem Unbound.aside_bind {call : OperatorCall} (hcall : IsAside call)
    {f : call.Result → OperatorTask OperatorCommandResult} (hf : ∀ answer, Unbound id (f answer)) :
    Unbound id (await call >>= f) where
  licensed := .bind_of_calls (.perform (hcall id)) fun answer => (hf answer).licensed
  not_committed :=
    Coroutine.not_committed_bind (.perform (hcall id).1) fun answer => (hf answer).not_committed

theorem execute_unbound : Unbound id (execute command credential) := by
  refine .aside_bind ?_ fun authenticated => ?_
  · exact fun _ => ⟨fun h => h, fun h => h⟩
  cases authenticated with
  | false => exact .of_calls (.bind recordAudit_calls fun _ => .throw _)
  | true =>
    refine .aside_bind ?_ fun existing => .aside_bind ?_ fun result => ?_
    · exact fun _ => ⟨fun h => h, fun h => h⟩
    · exact fun _ => ⟨fun h => h, fun h => h⟩
    cases existing with
    | none => exact ⟨bindCommand_licensed, bindCommand_not_committed⟩
    | some bound =>
      refine .of_calls ?_
      dsimp only
      split
      · exact .throw _
      · exact resultOr_calls

/-- The id is bound. -/
def Bound (id : String) (w : OperatorWorld) : Prop := w.records.find id ≠ none

/-- An intent that was inserted was not there before, and is there after. -/
theorem records_of_inserted {a : OperatorAnswers} {w : OperatorWorld}
    (h : (handle a (.persistIntent command) w).1 = .ok true) :
    w.records.find command.commandId = none ∧
      (handle a (.persistIntent command) w).2.records.find command.commandId =
        some { command, result := none } := by
  obtain ⟨hpersisted, hsettled⟩ := settle_eq_ok h
  simp only [handle, hsettled]
  simp only [persistIntent] at hpersisted ⊢
  split at hpersisted
  · rename_i records hinsert
    have hkey : command.commandId = OperatorRecord.commandId ⟨command, none⟩ := rfl
    refine ⟨(KeyedTable.insert_eq_some.mp hinsert).1, ?_⟩
    rw [KeyedTable.find_insert hinsert, if_pos hkey]
  · exact absurd (Except.ok.inj hpersisted) (by simp)

/-- The action port is invoked by an act, and by nothing else. -/
theorem executed_handle (a : OperatorAnswers) (call : OperatorCall) (w : OperatorWorld) :
    (handle a call w).2.executed = w.executed ∨
      ∃ command, call = .act command ∧
        (handle a call w).2.executed = w.executed ++ [command.commandId] := by
  let sameExecuted : OperatorWorld → Prop := fun w' => w'.executed = w.executed
  cases call with
  | act command =>
    exact .inr ⟨command, rfl,
      settle_keeps (fun w' => w'.executed = w.executed ++ [command.commandId]) rfl rfl⟩
  | authenticate operatorId credential => exact .inl (settle_keeps sameExecuted rfl rfl)
  | clock => exact .inl rfl
  | record event => exact .inl (settle_keeps sameExecuted rfl rfl)
  | loadCommand commandId => exact .inl (settle_keeps sameExecuted rfl rfl)
  | loadResult commandId => exact .inl (settle_keeps sameExecuted rfl rfl)
  | persistIntent command => exact .inl (settle_keeps sameExecuted rfl rfl)
  | reloadResult command => exact .inl (settle_keeps sameExecuted rfl rfl)
  | complete result =>
    refine .inl ?_
    simp only [handle]
    split
    · rfl
    · exact settle_keeps sameExecuted rfl rfl

theorem licensing (id : String) :
    Coroutine.Licensing handle (Acts id) (Binds id) Inserted (Bound id)
      fun w => w.executed.count id where
  granted a call w hbinds hinserted := by
    cases call with
    | persistIntent command =>
      obtain rfl : command.commandId = id := hbinds
      cases hanswer : (handle a (.persistIntent command) w).1 with
      | error raised =>
        rw [hanswer] at hinserted
        exact hinserted.elim
      | ok inserted =>
        rw [hanswer] at hinserted
        obtain rfl : inserted = true := hinserted
        obtain ⟨hbefore, hafter⟩ := records_of_inserted hanswer
        refine ⟨fun hbound => hbound hbefore, fun hnone => ?_⟩
        exact absurd (hafter.symm.trans hnone) (by simp)
    | _ => exact hbinds.elim
  stays a call w hbound := by
    obtain ⟨record, hrecord⟩ := Option.ne_none_iff_exists'.mp hbound
    obtain ⟨record', hrecord', -⟩ := keeps_handle a call w id record hrecord
    rw [Bound, hrecord']
    simp
  counts a call w _ := by
    rcases executed_handle a call w with h | ⟨command, -, h⟩
    · rw [h]
      exact Nat.le_succ _
    · rw [h, List.count_append]
      exact Nat.add_le_add_left List.count_le_length _
  frame a call w hacts := by
    rcases executed_handle a call w with h | ⟨command, rfl, h⟩
    · rw [h]
    · have hother : command.commandId ≠ id := hacts
      rw [h, List.count_append, List.count_singleton, if_neg (by simpa using hother), Nat.add_zero]
  apart call hacts := by
    cases call with
    | act command => exact fun h => h
    | _ => exact hacts.elim

/-! ## Results and their commands -/

/-- Under the id of the command there is this command, completed with this result. -/
def Completed (command : OperatorCommand) (result : OperatorCommandResult) (w : OperatorWorld) :
    Prop :=
  w.records.find command.commandId = some { command, result := some result }

/-- A caller that was refused finds no other command's result. -/
def FindsOwn (_ : OperatorAnswers) : OperatorCall → OperatorWorld → Prop
  | .reloadResult command, w =>
    ∀ record ∈ w.records.find command.commandId, record.result ≠ none → record.command = command
  | _, _ => True

instance (a : OperatorAnswers) (call : OperatorCall) (w : OperatorWorld) :
    Decidable (FindsOwn a call w) := by
  cases call with
  | reloadResult command =>
    exact inferInstanceAs (Decidable (∀ record ∈ w.records.find command.commandId,
      record.result ≠ none → record.command = command))
  | _ => exact isTrue trivial

theorem Keeps.completed {w w' : OperatorWorld} {result : OperatorCommandResult} (h : Keeps w w')
    (hw : Completed command result w) : Completed command result w' := by
  obtain ⟨record, hrecord, hcommand, hresult⟩ := h _ _ hw
  rw [Completed, hrecord]
  congr 1
  cases record
  simp only at hcommand hresult
  rw [hcommand, hresult result rfl]

/-- What the caller of a command is to get. -/
def Owned (command : OperatorCommand) : Except Raised OperatorCommandResult → OperatorWorld → Prop :=
  Coroutine.IfReturned (Completed command)

theorem ensures_throw {raised : Raised} {w : OperatorWorld} :
    Coroutine.Ensures handle Keeps FindsOwn (Owned command)
      (.done (.error raised) : OperatorTask OperatorCommandResult) w :=
  fun _ _ => trivial

/-- What has been found in the store is given back. -/
theorem ensures_resultOr {message : String} {found : Option OperatorCommandResult}
    {w : OperatorWorld} (h : ∀ result, found = some result → Completed command result w) :
    Coroutine.Ensures handle Keeps FindsOwn (Owned command) (resultOr message found) w := by
  cases found with
  | none => exact ensures_throw
  | some result => exact fun w' hw' => hw'.completed (h result rfl)

theorem guarantees {α : Type} (t : OperatorTask α) : t.Guarantees handle Keeps := by
  induction t with
  | done outcome => exact trivial
  | call call resume ih => exact ⟨fun a w => keeps_handle a call w, ih⟩

/-- A call that is answered, and what follows it. -/
theorem ensures_call {call : OperatorCall} {f : call.Result → OperatorTask OperatorCommandResult}
    {w : OperatorWorld}
    (h : ∀ w' a answer, Keeps w w' → FindsOwn a call w' → (handle a call w').1 = .ok answer →
      Coroutine.Ensures handle Keeps FindsOwn (Owned command) (f answer) (handle a call w').2) :
    Coroutine.Ensures handle Keeps FindsOwn (Owned command) (await call >>= f) w := by
  refine .call_bind fun w' hw' a ha => ?_
  have hanswer := h w' a
  generalize handle a call w' = answered at hanswer ⊢
  obtain ⟨answer, w₁⟩ := answered
  cases answer with
  | ok answer => exact hanswer answer hw' ha rfl
  | error raised => exact ensures_throw

/-- Any task, and what follows it in the world it leaves. -/
theorem ensures_after {α : Type} {t : OperatorTask α} {f : α → OperatorTask OperatorCommandResult}
    {w : OperatorWorld} (h : ∀ answer w', Keeps w w' →
      Coroutine.Ensures handle Keeps FindsOwn (Owned command) (f answer) w') :
    Coroutine.Ensures handle Keeps FindsOwn (Owned command) (t >>= f) w := by
  refine .bind Keeps.refl
    (((guarantees t).ensures (fun h => h.trans) (fun h => h) (Keeps.refl w)).imp ?_)
  intro outcome w' hw'
  cases outcome with
  | ok answer => exact h answer w' hw'
  | error raised => exact ensures_throw

/-- The id of the command is bound to it. -/
def BoundTo (command : OperatorCommand) (w : OperatorWorld) : Prop :=
  ∃ record, w.records.find command.commandId = some record ∧ record.command = command

theorem Keeps.boundTo {w w' : OperatorWorld} (h : Keeps w w') (hw : BoundTo command w) :
    BoundTo command w' := by
  obtain ⟨record, hrecord, hcommand⟩ := hw
  obtain ⟨record', hrecord', hcommand', -⟩ := h _ record hrecord
  exact ⟨record', hrecord', hcommand'.trans hcommand⟩

theorem completed_of_complete {a : OperatorAnswers} {w : OperatorWorld}
    {result : OperatorCommandResult} (hresult : result.commandId = command.commandId)
    (hw : BoundTo command w) (h : (handle a (.complete result) w).1 = .ok ()) :
    Completed command result (handle a (.complete result) w).2 := by
  simp only [handle] at h ⊢
  split at h
  · exact absurd h (by simp)
  · rename_i records hcomplete
    rw [(settle_eq_ok h).2]
    obtain ⟨record, hrecord, -, hrecords⟩ := complete_eq_ok hcomplete
    obtain ⟨record', hrecord', hcommand⟩ := hw
    rw [hresult] at hrecord hrecords
    obtain rfl := Option.some.inj (hrecord.symm.trans hrecord')
    rw [Completed, hrecords, if_pos rfl, hcommand]

theorem conclude_ensures {detail : String} {w : OperatorWorld} (hw : BoundTo command w) :
    Coroutine.Ensures handle Keeps FindsOwn (Owned command) (conclude command detail) w := by
  refine ensures_after fun completedAtUtc w₁ hw₁ => .lift_bind ?_
  cases hcreate : OperatorCommandResult.create command.commandId command.commandType "COMPLETED"
    detail completedAtUtc with
  | error raised => exact ensures_throw
  | ok result =>
    refine ensures_call fun w₂ a _ hw₂ _ hcompleted => ensures_after fun _ w₃ hw₃ => ?_
    have hdone := completed_of_complete (OperatorCommandResult.commandId_of_create hcreate)
      (hw₂.boundTo (hw₁.boundTo hw)) hcompleted
    exact fun w' hw' => hw'.completed (hw₃.completed hdone)

theorem completed_of_find {w : OperatorWorld} {record : OperatorRecord}
    {result : OperatorCommandResult} (hfind : w.records.find command.commandId = some record)
    (hcommand : record.command = command) (hresult : record.result = some result) :
    Completed command result w := by
  obtain ⟨bound, found⟩ := record
  simp only at hcommand hresult
  rw [Completed, hfind, hcommand, hresult]

/-- A refused caller finds its own result, by assumption; an inserted one completes it. -/
theorem bindCommand_ensures (w : OperatorWorld) :
    Coroutine.Ensures handle Keeps FindsOwn (Owned command) (bindCommand command) w := by
  refine ensures_call fun w₁ a inserted _ _ hinserted => ?_
  cases inserted with
  | true =>
    have hbound : BoundTo command (handle a (.persistIntent command) w₁).2 :=
      ⟨_, (records_of_inserted hinserted).2, rfl⟩
    exact ensures_after fun detail w₂ hw₂ => conclude_ensures (hw₂.boundTo hbound)
  | false =>
    refine ensures_call fun w₂ a₂ found _ hown hfound => ensures_resultOr fun result hresult => ?_
    obtain ⟨hfound, hsettled⟩ := settle_eq_ok hfound
    rw [hresult] at hfound
    obtain ⟨record, hrecord, hown'⟩ := Option.bind_eq_some_iff.mp (Except.ok.inj hfound)
    have hcommand := hown record hrecord (by rw [hown']; simp)
    simp only [handle, hsettled]
    exact completed_of_find hrecord hcommand hown'

theorem execute_ensures (w : OperatorWorld) :
    Coroutine.Ensures handle Keeps FindsOwn (Owned command) (execute command credential) w := by
  refine ensures_call fun w₁ a authenticated _ _ _ => ?_
  cases authenticated with
  | false => exact ensures_after fun _ _ _ => ensures_throw
  | true =>
    refine ensures_call fun w₂ a₂ existing _ _ hexisting => ?_
    refine ensures_call fun w₃ a₃ found hw₃ _ hfound => ?_
    cases existing with
    | none => exact bindCommand_ensures _
    | some bound =>
      dsimp only
      split
      · exact ensures_throw
      · rename_i hsame
        refine ensures_resultOr fun result hresult => ?_
        obtain ⟨hexisting, hsettled⟩ := settle_eq_ok hexisting
        obtain ⟨record, hrecord, hbound⟩ := Option.map_eq_some_iff.mp (Except.ok.inj hexisting)
        obtain ⟨hfound, hsettled₃⟩ := settle_eq_ok hfound
        rw [hresult] at hfound
        obtain ⟨record₃, hrecord₃, hresult₃⟩ :=
          Option.bind_eq_some_iff.mp (Except.ok.inj hfound)
        simp only [handle, hsettled] at hw₃
        obtain ⟨record', hrecord', hcommand', -⟩ := hw₃ _ record hrecord
        obtain rfl := Option.some.inj (hrecord₃.symm.trans hrecord')
        simp only [handle, hsettled₃]
        exact completed_of_find hrecord₃ (hcommand'.trans (hbound.trans (not_not.mp hsame))) hresult₃

/-! ## All callers -/

/-- No action has been executed twice, and none without its id being bound. -/
structure ExecutedOnce (w : OperatorWorld) : Prop where
  once : w.executed.Nodup
  bound : ∀ id ∈ w.executed, Bound id w

abbrev Callers := EventLoop Raised OperatorCall OperatorCall.Result OperatorWorld
  OperatorCommandResult OperatorCommandResult

abbrev CallerMove := EventLoop.Move Raised OperatorCall OperatorCall.Result OperatorAnswers
  OperatorCommandResult

def IsCaller (t : OperatorTask OperatorCommandResult) : Prop :=
  ∃ command credential, t = execute command credential

theorem executedOnce_run {w : OperatorWorld} (hw : ExecutedOnce w) {moves : List CallerMove}
    (hcallers : ∀ t, .start t ∈ moves → IsCaller t) :
    ExecutedOnce
      (EventLoop.run handle ⟨execute command credential, [], w⟩ moves : Callers).world := by
  have hstart : ∀ id t, .start t ∈ moves →
      t.Licensed (Acts id) (Binds id) Inserted ∧ ¬ t.Committed (Acts id) (Binds id) := by
    intro id t ht
    obtain ⟨command, credential, rfl⟩ := hcallers t ht
    exact ⟨execute_unbound.licensed, execute_unbound.not_committed⟩
  have hid := fun id => EventLoop.used_le_one (licensing id) (hstart id)
    (s := (⟨execute command credential, [], w⟩ : Callers))
    ⟨execute_unbound.licensed, execute_unbound.not_committed⟩ rfl
    (fun hfree => List.count_eq_zero.mpr fun hmem => hfree (hw.bound id hmem))
    (List.nodup_iff_count_le_one.mp hw.once id)
  constructor
  · exact List.nodup_iff_count_le_one.mpr fun id => (hid id).1
  · intro id hmem
    by_contra hfree
    exact absurd ((hid id).2 hfree) (List.count_pos_iff.mpr hmem).ne'

/-- **Operator commands.** However the calls of any number of callers interleave and fail, every
    action is executed at most once, under an id that is bound. And as long as a caller whose intent
    was refused finds no other command's result, what it returns is the result its own command has
    been completed with. -/
theorem operator_commands {w : OperatorWorld} (hw : ExecutedOnce w) (command : OperatorCommand)
    (credential : OperatorCredential) {moves : List CallerMove}
    (hcallers : ∀ t, .start t ∈ moves → IsCaller t) :
    let s : Callers := ⟨execute command credential, [], w⟩
    ExecutedOnce (s.run handle moves).world ∧
      (s.Admits handle FindsOwn (fun _ _ => True) moves →
        ∀ result, (s.run handle moves).main = .done (.ok result) →
          Completed command result (s.run handle moves).world) := by
  refine ⟨executedOnce_run hw hcallers, fun hadmits result hdone => ?_⟩
  exact EventLoop.ensures_run Keeps.refl (fun h => h.trans) (fun _ => guarantees _)
    (execute_ensures w) (by simp) hadmits hdone

/-! Two operators, one id. -/

def softPause : OperatorCommand where
  commandId := "command-1"
  commandType := .softPause
  operatorId := "operator-1"
  reason := "operator test"
  issuedAtUtc := 0
  commandId_text := by decide +kernel
  operatorId_text := by decide +kernel
  reason_text := by decide +kernel

def flattenStrategy : OperatorCommand :=
  { softPause with commandType := .flattenStrategy }

def validToken : OperatorCredential := ⟨"valid-token", by decide +kernel⟩

def emptyStore : OperatorWorld where
  records := .empty

/-- What the soft pause is completed with. -/
def pauseResult : OperatorCommandResult where
  commandId := "command-1"
  commandType := .softPause
  outcome := "COMPLETED"
  detail := "paused"
  completedAtUtc := 0
  texts := by decide +kernel

def paused : OperatorAnswers where
  detail := "paused"

/-- The soft pause alone, with an earlier caller of the same command beside it. -/
def repeatedMoves : List CallerMove :=
  .start (execute softPause validToken) :: List.replicate 9 (.other 0 paused) ++
    List.replicate 3 (.main paused)

theorem operator_commands_repeated :
    let s : Callers := ⟨execute softPause validToken, [], emptyStore⟩
    Completed softPause pauseResult (s.run handle repeatedMoves).world := by
  intro s
  have hcallers : ∀ t, .start t ∈ repeatedMoves → IsCaller t := by
    intro t ht
    simp only [repeatedMoves, List.cons_append, List.mem_cons, List.mem_append, List.mem_replicate,
      reduceCtorEq, and_false, or_false, EventLoop.Move.start.injEq] at ht
    exact ⟨_, _, ht⟩
  have hempty : ExecutedOnce emptyStore := ⟨List.nodup_nil, by simp [emptyStore]⟩
  have hadmits : s.Admits handle FindsOwn (fun _ _ => True) repeatedMoves := by
    decide +kernel
  have hdone : (s.run handle repeatedMoves).main = .done (.ok pauseResult) :=
    Coroutine.returned?_eq_some.mp (by decide +kernel)
  exact (operator_commands hempty softPause validToken hcallers).2 hadmits pauseResult hdone

/-- The strategy is to be flattened, and in the meantime it is paused under the same id. -/
def racingMoves : List CallerMove :=
  List.replicate 3 (.main paused) ++
    .start (execute softPause validToken) :: List.replicate 9 (.other 0 paused) ++
    List.replicate 2 (.main paused)

/-- The flattening is told that it was completed: with the result of the pause. -/
theorem race_answers_other :
    let s : Callers := ⟨execute flattenStrategy validToken, [], emptyStore⟩
    (s.run handle racingMoves).main.returned? = some pauseResult ∧
      (s.run handle racingMoves).world.executed = ["command-1"] ∧
      (s.run handle racingMoves).world.records.find "command-1" =
        some { command := softPause, result := some pauseResult } ∧
      softPause ≠ flattenStrategy := by
  decide +kernel

end OperatorCommands

end CreditHedge
