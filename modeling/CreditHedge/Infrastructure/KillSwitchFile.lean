import CreditHedge.Application.SharedKillSwitch
import CreditHedge.Infrastructure.FileDocuments
import CreditHedge.Lib.AtomicFiles

/-!
# The file of the kill switch

`FileKillSwitchStore` of `infrastructure/persistence/file_kill_switch_store.py`: the state, as one
object, which is written only over the version it is to replace. `Application.SharedKillSwitch` has
the file as the state itself; here is what is in it, and what a crash can do to it.
-/

set_option autoImplicit false

namespace CreditHedge

instance : TextEnum KillSwitchMode where
  members := [.running, .softPause, .strategyClose, .emergencyFlatten]
  value
    | .running => "RUNNING"
    | .softPause => "SOFT_PAUSE"
    | .strategyClose => "STRATEGY_CLOSE"
    | .emergencyFlatten => "EMERGENCY_FLATTEN"
  mem_members mode := by cases mode <;> decide
  nodup_values := by decide

namespace FileKillSwitchStore

open SharedKillSwitch AtomicFile

variable {Text : Type} (c : FileConversions Text)

/-! ## The file -/

/-- What `save` writes. -/
def stateMembers (state : KillSwitchState) : JsonObject :=
  [("mode", .text (TextEnum.value state.mode)), ("reason", .text state.reason),
    ("requested_by", .text state.requestedBy),
    ("changed_at_utc", .text (c.isoformat state.changedAtUtc)),
    ("version", .integer state.version)]

/-- `str(raw[key])`. -/
def shown (raw : JsonObject) (key : String) : Except Failure String := do
  let value ← JsonObject.item raw key
  pure (c.str value)

/-- `KillSwitchMode(text)`. -/
def mode (text : String) : Except Failure KillSwitchMode :=
  match TextEnum.ofValue text with
  | some mode => .ok mode
  | none => .error (.valueError s!"'{text}' is not a valid KillSwitchMode")

/-- `datetime.fromisoformat(text)`; a time without its zone is refused with the state. -/
def timestamp (text : String) : Except Failure Time :=
  match c.fromisoformat text with
  | some time => .ok time
  | none => .error (.valueError s!"Invalid isoformat string: '{text}'")

/-- The state of an object. -/
def stateOf (raw : JsonObject) : Except Failure KillSwitchState := do
  let mode ← mode (← shown c raw "mode")
  let reason ← shown c raw "reason"
  let requestedBy ← shown c raw "requested_by"
  let changedAtUtc ← timestamp c (← shown c raw "changed_at_utc")
  let version ← c.int (← JsonObject.item raw "version")
  KillSwitchState.create mode reason requestedBy changedAtUtc version.toNat

/-- `except (KeyError, TypeError, ValueError, json.JSONDecodeError)`. -/
def orUnreadable {α : Type} : Except Failure α → Except Failure α
  | .error (.keyError _) | .error (.typeError _) | .error (.valueError _) =>
    .error (.runtimeError "kill-switch state is unreadable")
  | outcome => outcome

/-- `_load`. -/
def loadState : Option Text → Except Failure (Option KillSwitchState)
  | none => .ok none
  | some text =>
    match c.loads text with
    | some (.object raw) => (orUnreadable (stateOf c raw)).map some
    | _ => .error (.runtimeError "kill-switch state is unreadable")

inductive FileCall where
  | load
  | save (state : KillSwitchState) (expectedVersion : Option ℕ)

abbrev FileCall.Answer : FileCall → Type
  | .load => Option KillSwitchState
  | .save _ _ => Unit

/-- `FileKillSwitchStore`. -/
def method : AtomicFile.Method Text Failure FileCall.Answer
  | .load, file => (loadState c file).map fun state => (state, none)
  | .save state expectedVersion, file => do
    let current ← loadState c file
    if current.map KillSwitchState.version ≠ expectedVersion then
      throw (.runtimeError "kill-switch state changed concurrently")
    pure ((), some (c.dumps (.object (stateMembers c state))))

/-- The state that the file is. -/
def cell : Spec (Option KillSwitchState) Failure FileCall.Answer
  | .load, current => (.ok current, current)
  | .save state expectedVersion, current =>
    if current.map KillSwitchState.version ≠ expectedVersion then
      (.error (.runtimeError "kill-switch state changed concurrently"), current)
    else (.ok (), some state)

/-- The call, as a controller makes it. -/
def FileCall.toSwitchCall : (call : FileCall) → SwitchCall
  | .load => .load
  | .save state expectedVersion => .save state expectedVersion

/-- The state is the file that the controllers are run with. -/
theorem handleFor_toSwitchCall {ι : Type} [DecidableEq ι] (request : Request ι) (call : FileCall)
    (w : Controllers ι) :
    (handleFor request {} call.toSwitchCall w).2.file = (cell call w.file).2 := by
  cases call with
  | load => rfl
  | save state expectedVersion =>
    simp only [FileCall.toSwitchCall, handleFor, cell]
    split
    · rfl
    · rfl

/-! ## What was written is read -/

variable {c}

theorem nodup_stateMembers (state : KillSwitchState) :
    ((stateMembers c state).map Prod.fst).Nodup := by
  show ["mode", "reason", "requested_by", "changed_at_utc", "version"].Nodup
  decide

/-- A member of the state that was written. -/
theorem item_sortedMembers (state : KillSwitchState) (key : String) (value : Payload)
    (h : (stateMembers c state).lookup key = some value) :
    JsonObject.item (Payload.sortedMembers (stateMembers c state)) key = .ok value.sorted := by
  unfold JsonObject.item
  rw [Payload.lookup_sortedMembers (nodup_stateMembers state), h]
  rfl

theorem shown_sortedMembers (state : KillSwitchState) (key text : String)
    (h : (stateMembers c state).lookup key = some (.text text)) :
    shown c (Payload.sortedMembers (stateMembers c state)) key = .ok text := by
  unfold shown
  rw [item_sortedMembers state key _ h]
  rfl

theorem stateOf_sortedMembers (state : KillSwitchState) :
    stateOf c (Payload.sortedMembers (stateMembers c state)) = .ok state := by
  have hmode := shown_sortedMembers (c := c) state "mode" (TextEnum.value state.mode)
    (by simp [stateMembers])
  have hreason := shown_sortedMembers (c := c) state "reason" state.reason
    (by simp [stateMembers, lookup_cons_eq])
  have hrequestedBy := shown_sortedMembers (c := c) state "requested_by" state.requestedBy
    (by simp [stateMembers, lookup_cons_eq])
  have hchangedAt := shown_sortedMembers (c := c) state "changed_at_utc"
    (c.isoformat state.changedAtUtc) (by simp [stateMembers, lookup_cons_eq])
  have hversion := item_sortedMembers (c := c) state "version" (.integer state.version)
    (by simp [stateMembers, lookup_cons_eq])
  have htime : timestamp c (c.isoformat state.changedAtUtc) = .ok state.changedAtUtc := by
    unfold timestamp
    rw [c.fromisoformat_isoformat]
  have hparsed : mode (TextEnum.value state.mode) = .ok state.mode := by
    unfold mode
    rw [TextEnum.ofValue_value]
  unfold stateOf
  rw [hmode, hreason, hrequestedBy, hchangedAt, hversion]
  simp only [ok_bind, hparsed, htime, Payload.sorted, c.int_integer, Int.toNat_natCast,
    state.create_self]

theorem loadState_dumps (state : KillSwitchState) :
    loadState c (some (c.dumps (.object (stateMembers c state)))) = .ok (some state) := by
  unfold loadState
  simp only [c.loads_dumps, Payload.sorted_object, stateOf_sortedMembers]
  rfl

theorem method_implements :
    Implements (method c) cell fun file state => loadState c file = .ok state := by
  intro call disk current h
  cases call with
  | load =>
    simp only [method, h]
    exact ⟨rfl, h⟩
  | save state expectedVersion =>
    simp only [method, h, cell, ok_bind]
    by_cases hversion : current.map KillSwitchState.version = expectedVersion
    · rw [if_neg (not_not.mpr hversion), if_neg (not_not.mpr hversion)]
      exact ⟨rfl, loadState_dumps state⟩
    · rw [if_pos hversion, if_pos hversion]
      exact ⟨rfl, h⟩

end FileKillSwitchStore

open FileKillSwitchStore AtomicFile in
/-- **The kill switch's file is its state, over any history of calls and crashes.** -/
theorem file_kill_switch_store {Text : Type} (c : FileConversions Text)
    (calls : List (FileCall × Fate Text)) :
    (AtomicFile.history (method c) {} calls).1 = (cell.history none calls).1 ∧
      loadState c (AtomicFile.history (method c) {} calls).2.file =
        .ok (cell.history none calls).2 :=
  method_implements.history rfl calls

end CreditHedge
