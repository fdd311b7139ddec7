import CreditHedge.Domain.Execution

/-!
# Kill-switch state

`domain/control.py`: the mode the kill switch is in, who asked for it, and the version of its
record.
-/

set_option autoImplicit false

namespace CreditHedge

inductive KillSwitchMode where
  | running
  | softPause
  | strategyClose
  | emergencyFlatten
  deriving DecidableEq, Repr

structure KillSwitchState where
  mode : KillSwitchMode
  reason : String
  requestedBy : String
  changedAtUtc : Time
  version : ℕ
  reason_text : isBlank reason = false
  requestedBy_text : isBlank requestedBy = false
  version_pos : 0 < version

instance : DecidableEq KillSwitchState := fun s t =>
  decidable_of_iff
    (s.mode = t.mode ∧ s.reason = t.reason ∧ s.requestedBy = t.requestedBy ∧
      s.changedAtUtc = t.changedAtUtc ∧ s.version = t.version)
    (by cases s; cases t; simp)

/-- `KillSwitchState.__post_init__`. -/
def KillSwitchState.create (mode : KillSwitchMode) (reason requestedBy : String)
    (changedAtUtc : Time) (version : ℕ) : Except Failure KillSwitchState :=
  if hr : isBlank reason = true ∨ isBlank requestedBy = true then
    .error (.valueError "kill-switch reason and requester cannot be empty")
  else if hv : version = 0 then .error (.valueError "kill-switch version must be positive")
  else
    .ok
      { mode, reason, requestedBy, changedAtUtc, version
        reason_text := Bool.not_eq_true _ ▸ (not_or.mp hr).1
        requestedBy_text := Bool.not_eq_true _ ▸ (not_or.mp hr).2
        version_pos := Nat.pos_of_ne_zero hv }

/-- A state is one that can be created. -/
theorem KillSwitchState.create_self (state : KillSwitchState) :
    create state.mode state.reason state.requestedBy state.changedAtUtc state.version =
      .ok state := by
  have hversion := state.version_pos
  unfold create
  rw [dif_neg (by simp [state.reason_text, state.requestedBy_text]), dif_neg (by omega)]

theorem KillSwitchState.mode_of_create {mode : KillSwitchMode} {reason requestedBy : String}
    {changedAtUtc : Time} {version : ℕ} {state : KillSwitchState}
    (h : create mode reason requestedBy changedAtUtc version = .ok state) : state.mode = mode := by
  unfold create at h
  split at h
  · exact absurd h (by simp)
  · split at h
    · exact absurd h (by simp)
    · obtain rfl := Except.ok.inj h
      rfl

theorem KillSwitchState.version_of_create {mode : KillSwitchMode} {reason requestedBy : String}
    {changedAtUtc : Time} {version : ℕ} {state : KillSwitchState}
    (h : create mode reason requestedBy changedAtUtc version = .ok state) :
    state.version = version := by
  unfold create at h
  split at h
  · exact absurd h (by simp)
  · split at h
    · exact absurd h (by simp)
    · obtain rfl := Except.ok.inj h
      rfl

structure KillSwitchActivatedNotification where
  code : String
  severity : String
  message : String
  deriving DecidableEq, Repr

end CreditHedge
