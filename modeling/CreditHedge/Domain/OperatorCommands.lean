import CreditHedge.Domain.Execution

/-!
# Operator commands

`domain/operator_commands.py`: what an operator asks for, the result that is kept of it, and the
record of who asked. A command and a result exist only with their texts filled in. The ports behind
a command may raise anything, so an exception is kept here as its type's name and its message: the
audit of a failed action writes the name down.
-/

set_option autoImplicit false

namespace CreditHedge

/-- An exception of any type. -/
structure Raised where
  typeName : String
  message : String
  deriving DecidableEq, Repr

namespace Raised

def valueError (message : String) : Raised := ⟨"ValueError", message⟩

def runtimeError (message : String) : Raised := ⟨"RuntimeError", message⟩

def permissionError (message : String) : Raised := ⟨"PermissionError", message⟩

end Raised

inductive OperatorCommandType where
  | softPause
  | resumeAfterReconciliation
  | cancelPendingEntry
  | restoreProtection
  | closeHedgePosition
  | closeOptionSpread
  | flattenStrategy
  | acknowledgeIncident
  deriving DecidableEq, Repr

structure OperatorCredential where
  value : String
  value_text : value ≠ ""

structure OperatorCommand where
  commandId : String
  commandType : OperatorCommandType
  operatorId : String
  reason : String
  issuedAtUtc : Time
  commandId_text : isBlank commandId = false
  operatorId_text : isBlank operatorId = false
  reason_text : isBlank reason = false
  deriving DecidableEq

/-- `OperatorCommand.__post_init__`. -/
def OperatorCommand.create (commandId : String) (commandType : OperatorCommandType)
    (operatorId reason : String) (issuedAtUtc : Time) : Except Raised OperatorCommand :=
  if hid : isBlank commandId = true then
    .error (.valueError "operator command command_id cannot be empty")
  else if hoperator : isBlank operatorId = true then
    .error (.valueError "operator command operator_id cannot be empty")
  else if hreason : isBlank reason = true then
    .error (.valueError "operator command reason cannot be empty")
  else
    .ok
      { commandId, commandType, operatorId, reason, issuedAtUtc
        commandId_text := Bool.not_eq_true _ ▸ hid
        operatorId_text := Bool.not_eq_true _ ▸ hoperator
        reason_text := Bool.not_eq_true _ ▸ hreason }

/-- A command is one that can be created. -/
theorem OperatorCommand.create_self (command : OperatorCommand) :
    create command.commandId command.commandType command.operatorId command.reason
      command.issuedAtUtc = .ok command := by
  unfold create
  rw [dif_neg (by simp [command.commandId_text]), dif_neg (by simp [command.operatorId_text]),
    dif_neg (by simp [command.reason_text])]

structure OperatorCommandResult where
  commandId : String
  commandType : OperatorCommandType
  outcome : String
  detail : String
  completedAtUtc : Time
  texts : isBlank commandId = false ∧ isBlank outcome = false ∧ isBlank detail = false
  deriving DecidableEq

/-- `OperatorCommandResult.__post_init__`. -/
def OperatorCommandResult.create (commandId : String) (commandType : OperatorCommandType)
    (outcome detail : String) (completedAtUtc : Time) : Except Raised OperatorCommandResult :=
  if texts : isBlank commandId = false ∧ isBlank outcome = false ∧ isBlank detail = false then
    .ok { commandId, commandType, outcome, detail, completedAtUtc, texts }
  else .error (.valueError "operator command result fields cannot be empty")

theorem OperatorCommandResult.create_self (result : OperatorCommandResult) :
    create result.commandId result.commandType result.outcome result.detail
      result.completedAtUtc = .ok result := by
  unfold create
  rw [dif_pos result.texts]

theorem OperatorCommandResult.commandId_of_create {commandId outcome detail : String}
    {commandType : OperatorCommandType} {completedAtUtc : Time} {result : OperatorCommandResult}
    (h : create commandId commandType outcome detail completedAtUtc = .ok result) :
    result.commandId = commandId := by
  unfold create at h
  split at h
  · obtain rfl := Except.ok.inj h
    rfl
  · exact absurd h (by simp)

structure OperatorCommandAudit where
  commandId : String
  commandType : OperatorCommandType
  operatorId : String
  outcome : String
  timestampUtc : Time
  detail : String
  deriving DecidableEq

end CreditHedge
