import CreditHedge.Application.KillSwitch

/-!
# Kill-switch controllers over one file

`KillSwitchController` of `application/kill_switch.py` and `FileKillSwitchStore`, with any number
of controllers over one file. `Application.KillSwitch` has the controller of a process, and leaves
it to the outside world whether a save succeeds; here the file is what decides it.

A controller's gate reads `_state`, which is the state this controller has last loaded or saved.
The file may have moved on since, so no gate is global: another controller's activation closes it
only when this controller looks at the file again, which it never does after `initialize`. And an
activation decided by a `_state` that the file has left behind is refused, be it as a
de-escalation or by the store's version check, whatever mode the file is in. What the version check
does give is the other half. A write goes through only if `_state` *is* the file's state
(`Seen.current`), so every write is judged against the state it replaces: versions go up, and a
milder mode is written by an acknowledged reset or not at all (`shared_kill_switch`).

Every access to the file, to `_state` and to the clock is a call of its own here, and the calls of
all controllers interleave in any order. A call carries the request it is made for.
-/

set_option autoImplicit false

namespace CreditHedge

namespace SharedKillSwitch

/-! ## The controller -/

/-- What a controller's method awaits, or reads and writes of its controller. -/
inductive SwitchCall where
  | load
  | save (state : KillSwitchState) (expectedVersion : Option ℕ)
  | clock
  /-- `self._state`. -/
  | readState
  | writeState (state : KillSwitchState)

abbrev SwitchCall.Result : SwitchCall → Type
  | .load => Option KillSwitchState
  | .save _ _ => Unit
  | .clock => Time
  | .readState => Option KillSwitchState
  | .writeState _ => Unit

abbrev Method := Coroutine Failure SwitchCall SwitchCall.Result

def await (call : SwitchCall) : Method call.Result := .perform call

/-- `await self._store.save(updated, …)`, `self._state = updated`, `return updated`. -/
def persist (updated : KillSwitchState) (expectedVersion : Option ℕ) : Method KillSwitchState := do
  await (.save updated expectedVersion)
  await (.writeState updated)
  pure updated

/-- `KillSwitchController.initialize`. -/
def initializeState : Method KillSwitchState := do
  match ← await .load with
  | some persisted => do
    await (.writeState persisted)
    pure persisted
  | none => do
    let changedAt ← await .clock
    let persisted ← KillSwitchState.create .running "initial state" "system" changedAt 1
    persist persisted none

/-- The `state` property, and what is done with it. -/
def withState (next : KillSwitchState → Method KillSwitchState) : Method KillSwitchState := do
  match ← await .readState with
  | none => throw (.runtimeError "kill switch has not been initialized")
  | some current => next current

/-- The successor of a state, saved over it. -/
def succeedBy (mode : KillSwitchMode) (reason requestedBy : String) (current : KillSwitchState) :
    Method KillSwitchState := do
  let changedAt ← await .clock
  let updated ← KillSwitchState.create mode reason requestedBy changedAt (current.version + 1)
  persist updated (some current.version)

def activate (mode : KillSwitchMode) (reason requestedBy : String) : Method KillSwitchState :=
  if mode = .running then
    throw (.valueError "use reset to return the kill switch to RUNNING")
  else
    withState fun current =>
      if KillSwitchController.escalation mode < KillSwitchController.escalation current.mode then
        throw (.valueError "kill switch cannot de-escalate without explicit reset")
      else succeedBy mode reason requestedBy current

def reset (requestedBy : String) (operatorAcknowledged : Bool) : Method KillSwitchState :=
  if operatorAcknowledged = false then
    throw (.valueError "operator acknowledgement is required to reset")
  else withState (succeedBy .running "operator acknowledged reset" requestedBy)

/-! ## The controllers and their file -/

/-- A call of one of the controllers' methods. -/
inductive Request (ι : Type) where
  | initializeState (controller : ι)
  | activate (controller : ι) (mode : KillSwitchMode) (reason requestedBy : String)
  | reset (controller : ι) (requestedBy : String) (operatorAcknowledged : Bool)
  deriving DecidableEq

variable {ι : Type}

def Request.controller : Request ι → ι
  | .initializeState controller => controller
  | .activate controller _ _ _ => controller
  | .reset controller _ _ => controller

def Request.method : Request ι → Method KillSwitchState
  | .initializeState _ => SharedKillSwitch.initializeState
  | .activate _ mode reason requestedBy => SharedKillSwitch.activate mode reason requestedBy
  | .reset _ requestedBy operatorAcknowledged =>
    SharedKillSwitch.reset requestedBy operatorAcknowledged

/-- A write of the file: for whom, and over what. -/
structure Save (ι : Type) where
  request : Request ι
  before : Option KillSwitchState
  after : KillSwitchState
  deriving DecidableEq

structure Controllers (ι : Type) where
  file : Option KillSwitchState
  state : ι → Option KillSwitchState := fun _ => none
  /-- All writes of the file so far. -/
  saves : List (Save ι) := []

/-- `entries_allowed` of a controller. -/
def Controllers.entriesAllowed (w : Controllers ι) (controller : ι) : Except Failure Bool :=
  match w.state controller with
  | none => .error (.runtimeError "kill switch has not been initialized")
  | some state => .ok (state.mode = .running)

/-- What the outside world decides: the time, and whether the file can be read and written. -/
structure SwitchAnswers where
  now : Time := 0
  fault : Option Failure := none

/-- A call made for `request`. The file is replaced as a whole, or left as it is. -/
def handleFor [DecidableEq ι] (request : Request ι) (a : SwitchAnswers) :
    (call : SwitchCall) → Controllers ι → Except Failure call.Result × Controllers ι
  | .load, w =>
    match a.fault with
    | some failure => (.error failure, w)
    | none => (.ok w.file, w)
  | .save state expectedVersion, w =>
    match a.fault with
    | some failure => (.error failure, w)
    | none =>
      if w.file.map KillSwitchState.version ≠ expectedVersion then
        (.error (.runtimeError "kill-switch state changed concurrently"), w)
      else
        (.ok (),
          { w with
            file := some state
            saves := w.saves ++ [{ request, before := w.file, after := state }] })
  | .clock, w => (.ok a.now, w)
  | .readState, w => (.ok (w.state request.controller), w)
  | .writeState state, w =>
    (.ok (), { w with state := Function.update w.state request.controller (some state) })

/-- A call, with the request it is made for. -/
structure Attributed (ι : Type) where
  request : Request ι
  call : SwitchCall

abbrev Attributed.Result (op : Attributed ι) : Type := op.call.Result

/-- A method's calls, made for a request. -/
def onBehalf (request : Request ι) :
    Method KillSwitchState → Coroutine Failure (Attributed ι) Attributed.Result KillSwitchState
  | .done outcome => .done outcome
  | .call call resume => .call ⟨request, call⟩ fun answer => onBehalf request (resume answer)

def Request.task (request : Request ι) :
    Coroutine Failure (Attributed ι) Attributed.Result KillSwitchState :=
  onBehalf request request.method

def handle [DecidableEq ι] (a : SwitchAnswers) (op : Attributed ι) (w : Controllers ι) :
    Except Failure op.Result × Controllers ι :=
  handleFor op.request a op.call w

/-! ## What was seen of the file

A state that a controller holds is the file's state, or the file has got a later version since.
So at its own version it is the file's state. -/

def Seen (file : Option KillSwitchState) (state : KillSwitchState) : Prop :=
  ∃ current, file = some current ∧ (current = state ∨ state.version < current.version)

/-- The file stays, or gets later versions. -/
def Advances (file file' : Option KillSwitchState) : Prop :=
  ∀ current, file = some current → Seen file' current

theorem Advances.refl (file : Option KillSwitchState) : Advances file file :=
  fun current h => ⟨current, h, .inl rfl⟩

theorem Seen.advances {file file' : Option KillSwitchState} {state : KillSwitchState}
    (h : Seen file state) (ha : Advances file file') : Seen file' state := by
  obtain ⟨current, hfile, hversion⟩ := h
  obtain ⟨current', hfile', hversion'⟩ := ha current hfile
  refine ⟨current', hfile', ?_⟩
  rcases hversion' with rfl | hlt
  · exact hversion
  · rcases hversion with rfl | hlt'
    · exact .inr hlt
    · exact .inr (hlt'.trans hlt)

theorem Advances.trans {file file' file'' : Option KillSwitchState} (h : Advances file file')
    (h' : Advances file' file'') : Advances file file'' :=
  fun current hcurrent => (h current hcurrent).advances h'

/-- **At its own version, a state that was seen is the file's.** -/
theorem Seen.current {file : Option KillSwitchState} {state : KillSwitchState}
    (h : Seen file state) (hversion : file.map KillSwitchState.version = some state.version) :
    file = some state := by
  obtain ⟨current, rfl, rfl | hlt⟩ := h
  · rfl
  · rw [Option.map_some, Option.some.injEq] at hversion
    omega

/-! ## What a write may do -/

/-- Only an acknowledged reset is allowed to make the mode milder. -/
def Request.Acknowledged : Request ι → Prop
  | .reset _ _ operatorAcknowledged => operatorAcknowledged = true
  | _ => False

/-- The mode a request asks for, of an activation. -/
def Request.activates : Request ι → Option KillSwitchMode
  | .activate _ mode _ _ => some mode
  | _ => none

structure Save.Lawful (save : Save ι) : Prop where
  version_lt : ∀ state ∈ save.before, state.version < save.after.version
  escalates : ∀ state ∈ save.before, ¬ save.request.Acknowledged →
    KillSwitchController.escalation state.mode ≤ KillSwitchController.escalation save.after.mode
  activated : ∀ mode ∈ save.request.activates, save.after.mode = mode

/-- The writes lead from one state of the file to another, each over the state the last one
left. -/
def Linked (file : Option KillSwitchState) : List (Save ι) → Option KillSwitchState → Prop
  | [], file' => file' = file
  | save :: saves, file' => save.before = file ∧ Linked (some save.after) saves file'

theorem Linked.append {saves saves' : List (Save ι)} {file file' file'' : Option KillSwitchState}
    (h : Linked file saves file') (h' : Linked file' saves' file'') :
    Linked file (saves ++ saves') file'' := by
  induction saves generalizing file with
  | nil =>
    obtain rfl : file' = file := h
    exact h'
  | cons save saves ih => exact ⟨h.1, ih h.2⟩

/-- Writes that are lawful, one on top of the other, take the file to later versions. -/
theorem Linked.advances {saves : List (Save ι)} {file file' : Option KillSwitchState}
    (h : Linked file saves file') (hlawful : ∀ save ∈ saves, save.Lawful) :
    Advances file file' := by
  induction saves generalizing file with
  | nil =>
    obtain rfl : file' = file := h
    exact .refl _
  | cons save saves ih =>
    have hrest := ih h.2 fun s hs => hlawful s (List.mem_cons_of_mem _ hs)
    refine Advances.trans (fun current hcurrent => ?_) hrest
    have hlt := (hlawful save (List.mem_cons_self ..)).version_lt current
      (by rw [h.1]; exact hcurrent)
    exact ⟨save.after, rfl, .inr hlt⟩

/-- Whatever the controllers hold, they have seen in the file. -/
def Consistent (w : Controllers ι) : Prop :=
  ∀ controller state, w.state controller = some state → Seen w.file state

/-- **What the controllers do together**: lawful writes, each over the one before, and no
controller takes up a state that was not the file's. -/
structure Reaches (w w' : Controllers ι) : Prop where
  writes : ∃ added, w'.saves = w.saves ++ added ∧ (∀ save ∈ added, save.Lawful) ∧
    Linked w.file added w'.file
  consistent : Consistent w → Consistent w'

theorem Reaches.refl (w : Controllers ι) : Reaches w w :=
  ⟨⟨[], by simp, by simp, rfl⟩, id⟩

theorem Reaches.trans {w w' w'' : Controllers ι} (h : Reaches w w') (h' : Reaches w' w'') :
    Reaches w w'' := by
  obtain ⟨added, hsaves, hlawful, hlinked⟩ := h.writes
  obtain ⟨added', hsaves', hlawful', hlinked'⟩ := h'.writes
  refine ⟨⟨added ++ added', ?_, fun save hs => ?_, hlinked.append hlinked'⟩,
    fun hc => h'.consistent (h.consistent hc)⟩
  · rw [hsaves', hsaves, List.append_assoc]
  · rcases List.mem_append.mp hs with hs | hs
    · exact hlawful save hs
    · exact hlawful' save hs

theorem Reaches.advances {w w' : Controllers ι} (h : Reaches w w') : Advances w.file w'.file := by
  obtain ⟨added, -, hlawful, hlinked⟩ := h.writes
  exact hlinked.advances hlawful

theorem Reaches.mem_saves {w w' : Controllers ι} (h : Reaches w w') {save : Save ι}
    (hs : save ∈ w.saves) : save ∈ w'.saves := by
  obtain ⟨added, hsaves, -, -⟩ := h.writes
  rw [hsaves]
  exact List.mem_append_left _ hs

/-! ## The methods -/

section Methods

variable [DecidableEq ι] {request : Request ι}

/-- An activation that has returned has written the state it returns. -/
def Persisted (request : Request ι) (outcome : Except Failure KillSwitchState)
    (w : Controllers ι) : Prop :=
  ∀ state, outcome = .ok state → request.activates ≠ none →
    ∃ save ∈ w.saves, save.request = request ∧ save.after = state

abbrev UpheldBy (request : Request ι) (t : Method KillSwitchState) (w : Controllers ι) : Prop :=
  t.Upholds (handleFor request) Reaches (fun _ _ _ => True) (Persisted request) w

omit [DecidableEq ι] in
theorem persisted_of_raised {failure : Failure} {w : Controllers ι} :
    Persisted request (.error failure) w :=
  fun _ h => absurd h (by simp)

theorem upheldBy_throw (failure : Failure) (w : Controllers ι) :
    UpheldBy request (throw failure) w :=
  fun _ _ => persisted_of_raised

/-- A write that would be lawful wherever it goes through. -/
theorem upheldBy_persist {updated : KillSwitchState} {expectedVersion : Option ℕ}
    {w : Controllers ι}
    (h : ∀ w', Reaches w w' → w'.file.map KillSwitchState.version = expectedVersion →
      Save.Lawful { request, before := w'.file, after := updated }) :
    UpheldBy request (persist updated expectedVersion) w := by
  refine Coroutine.Upholds.call_bind fun w₁ h₁ a _ => ?_
  cases hfault : a.fault with
  | some failure =>
    simp only [handleFor, hfault]
    exact ⟨.refl _, fun _ hok => absurd hok (by simp), fun _ _ _ _ => persisted_of_raised⟩
  | none =>
    by_cases hversion : w₁.file.map KillSwitchState.version = expectedVersion
    · simp only [handleFor, hfault, hversion, ne_eq, not_true_eq_false, if_false]
      have hlawful := h w₁ h₁ hversion
      have hmove : Reaches w₁
          { w₁ with
            file := some updated
            saves := w₁.saves ++ [{ request, before := w₁.file, after := updated }] } := by
        have hlinked : Linked w₁.file [{ request, before := w₁.file, after := updated }]
            (some updated) := ⟨rfl, rfl⟩
        have hone : ∀ save ∈ [({ request, before := w₁.file, after := updated } : Save ι)],
            save.Lawful := by
          intro save hs
          rw [List.mem_singleton.mp hs]
          exact hlawful
        exact ⟨⟨_, rfl, hone, hlinked⟩,
          fun hc controller state hs => (hc controller state hs).advances (hlinked.advances hone)⟩
      refine ⟨hmove, fun _ _ => ?_, fun _ he => absurd he (by simp)⟩
      -- The controller takes up what it has written; the file may have moved on meanwhile.
      refine Coroutine.Upholds.call_bind fun w₂ h₂ _ _ => ?_
      have hseen : Seen w₂.file updated :=
        Seen.advances ⟨updated, rfl, .inl rfl⟩ h₂.advances
      have hwritten := h₂.mem_saves (List.mem_append_right w₁.saves (List.mem_singleton_self _))
      refine ⟨⟨⟨[], by simp [handleFor], by simp, rfl⟩, fun hc controller state hs => ?_⟩,
        fun _ _ w₃ h₃ state hstate _ => ?_, fun _ he => absurd he (by simp [handleFor])⟩
      · by_cases hself : controller = request.controller
        · subst hself
          simp only [handleFor, Function.update_self, Option.some.injEq] at hs
          obtain rfl := hs
          exact hseen
        · simp only [handleFor, Function.update_of_ne hself] at hs
          exact hc controller state hs
      · exact ⟨_, h₃.mem_saves hwritten, rfl, Except.ok.inj hstate⟩
    · simp only [handleFor, hfault, ne_eq, hversion, not_false_eq_true, if_true]
      exact ⟨.refl _, fun _ hok => absurd hok (by simp), fun _ _ _ _ => persisted_of_raised⟩

/-- `_state` is read, and stays a state that the file has had. -/
theorem upheldBy_withState {next : KillSwitchState → Method KillSwitchState} {w : Controllers ι}
    (hw : Consistent w)
    (h : ∀ current w', Reaches w w' → Seen w'.file current → UpheldBy request (next current) w') :
    UpheldBy request (withState next) w := by
  refine Coroutine.Upholds.call_bind fun w₁ h₁ _ _ => ⟨.refl _, fun v hv => ?_,
    fun _ he => absurd he (by simp [handleFor])⟩
  obtain rfl : w₁.state request.controller = v := by simpa [handleFor] using hv
  cases hstate : w₁.state request.controller with
  | none => exact upheldBy_throw _ _
  | some current =>
    have hseen := h₁.consistent hw request.controller current hstate
    exact h current w₁ h₁ hseen

/-- **A write over `_state`** finds the file at `_state` if it goes through. -/
theorem upheldBy_succeedBy {mode : KillSwitchMode} {reason requestedBy : String}
    {current : KillSwitchState} {w : Controllers ι} (hseen : Seen w.file current)
    (hmilder : ¬ request.Acknowledged →
      KillSwitchController.escalation current.mode ≤ KillSwitchController.escalation mode)
    (hmode : ∀ requested ∈ request.activates, mode = requested) :
    UpheldBy request (succeedBy mode reason requestedBy current) w := by
  refine Coroutine.Upholds.call_bind fun w₁ h₁ a _ => ⟨.refl _, fun changedAt _ => ?_,
    fun _ he => absurd he (by simp [handleFor])⟩
  refine Coroutine.Upholds.lift_bind ?_
  cases hcreate : KillSwitchState.create mode reason requestedBy changedAt (current.version + 1) with
  | error failure => exact fun _ _ => persisted_of_raised
  | ok updated =>
    refine upheldBy_persist fun w₂ h₂ hversion => ?_
    have hseen₂ : Seen w₂.file current := (hseen.advances h₁.advances).advances h₂.advances
    have hfile : w₂.file = some current := hseen₂.current hversion
    refine ⟨fun state hs => ?_, fun state hs hnot => ?_, fun requested hr => ?_⟩
    · obtain rfl : current = state := by simpa [hfile] using hs
      rw [KillSwitchState.version_of_create hcreate]
      exact Nat.lt_succ_self _
    · obtain rfl : current = state := by simpa [hfile] using hs
      rw [KillSwitchState.mode_of_create hcreate]
      exact hmilder hnot
    · rw [KillSwitchState.mode_of_create hcreate]
      exact hmode requested hr

theorem upheldBy_initializeState {controller : ι} {w : Controllers ι} :
    UpheldBy (.initializeState controller) initializeState w := by
  refine Coroutine.Upholds.call_bind fun w₁ h₁ a _ => ?_
  cases hfault : a.fault with
  | some failure =>
    simp only [handleFor, hfault]
    exact ⟨.refl _, fun _ hok => absurd hok (by simp), fun _ _ _ _ => persisted_of_raised⟩
  | none =>
    simp only [handleFor, hfault]
    refine ⟨.refl _, fun v hv => ?_, fun _ he => absurd he (by simp)⟩
    obtain rfl : w₁.file = v := by simpa using hv
    cases hfile : w₁.file with
    | some persisted =>
      refine Coroutine.Upholds.call_bind fun w₂ h₂ _ _ => ?_
      have hseen : Seen w₂.file persisted :=
        Seen.advances ⟨persisted, hfile, .inl rfl⟩ h₂.advances
      refine ⟨⟨⟨[], by simp [handleFor], by simp, rfl⟩, fun hc other state hs => ?_⟩,
        fun _ _ _ _ _ _ hne => absurd rfl hne, fun _ he => absurd he (by simp [handleFor])⟩
      by_cases hself : other = controller
      · subst hself
        simp only [handleFor, Request.controller, Function.update_self, Option.some.injEq] at hs
        obtain rfl := hs
        exact hseen
      · simp only [handleFor, Request.controller, Function.update_of_ne hself] at hs
        exact hc other state hs
    | none =>
      refine Coroutine.Upholds.call_bind fun w₂ _ _ _ => ⟨.refl _, fun changedAt _ => ?_,
        fun _ he => absurd he (by simp [handleFor])⟩
      refine Coroutine.Upholds.lift_bind ?_
      cases hcreate : KillSwitchState.create .running "initial state" "system" changedAt 1 with
      | error failure => exact fun _ _ => persisted_of_raised
      | ok persisted =>
        refine upheldBy_persist fun w₃ _ hversion => ?_
        have hnone : w₃.file = none := by simpa using hversion
        exact ⟨fun _ hs => absurd hs (by simp [hnone]), fun _ hs => absurd hs (by simp [hnone]),
          fun _ hr => absurd hr (by simp [Request.activates])⟩

theorem upheldBy_activate {controller : ι} {mode : KillSwitchMode} {reason requestedBy : String}
    {w : Controllers ι} (hw : Consistent w) :
    UpheldBy (.activate controller mode reason requestedBy) (activate mode reason requestedBy)
      w := by
  unfold activate
  split
  · exact upheldBy_throw _ _
  · refine upheldBy_withState hw fun current w₁ _ hseen => ?_
    split
    · exact upheldBy_throw _ _
    · rename_i hnot
      exact upheldBy_succeedBy hseen (fun _ => Nat.not_lt.mp hnot)
        fun requested hr => Option.some.inj hr

theorem upheldBy_reset {controller : ι} {requestedBy : String} {operatorAcknowledged : Bool}
    {w : Controllers ι} (hw : Consistent w) :
    UpheldBy (.reset controller requestedBy operatorAcknowledged)
      (reset requestedBy operatorAcknowledged) w := by
  unfold reset
  split
  · exact upheldBy_throw _ _
  · rename_i hack
    refine upheldBy_withState hw fun current w₁ _ hseen => ?_
    exact upheldBy_succeedBy hseen
      (fun hnot => absurd (Bool.eq_true_of_not_eq_false hack) hnot)
      fun requested hr => absurd hr (by simp [Request.activates])

/-- A method's calls are the same task, made for a request. -/
theorem upholds_onBehalf {t : Method KillSwitchState} {w : Controllers ι}
    (h : UpheldBy request t w) :
    (onBehalf request t).Upholds handle Reaches (fun _ _ _ => True) (Persisted request) w := by
  induction t generalizing w with
  | done outcome => exact h
  | call call resume ih =>
    intro w' hw' a _
    obtain ⟨hmove, hrest⟩ := h w' hw' a trivial
    exact ⟨hmove, ih _ hrest⟩

theorem upholds_task (request : Request ι) {w : Controllers ι} (hw : Consistent w) :
    request.task.Upholds handle Reaches (fun _ _ _ => True) (Persisted request) w := by
  refine upholds_onBehalf ?_
  cases request with
  | initializeState controller => exact upheldBy_initializeState
  | activate controller mode reason requestedBy => exact upheldBy_activate hw
  | reset controller requestedBy operatorAcknowledged => exact upheldBy_reset hw

end Methods

/-! ## Runs -/

section Runs

variable [DecidableEq ι]

abbrev Loop (ι : Type) :=
  EventLoop Failure (Attributed ι) Attributed.Result (Controllers ι) KillSwitchState
    KillSwitchState

/-- What happens next: the call that is looked at goes on, another call does, or one is made. -/
inductive Step (ι : Type) where
  | main (a : SwitchAnswers)
  | other (i : ℕ) (a : SwitchAnswers)
  | start (request : Request ι)

def Step.move : Step ι →
    EventLoop.Move Failure (Attributed ι) Attributed.Result SwitchAnswers KillSwitchState
  | .main a => .main a
  | .other i a => .other i a
  | .start request => .start request.task

/-- One call, looked at among all the others that are made, on a file as it was found. -/
def run (file : Option KillSwitchState) (request : Request ι) (steps : List (Step ι)) : Loop ι :=
  EventLoop.run handle
    { main := request.task, others := [], world := { file } } (steps.map Step.move)

theorem allows_steps (loop : Loop ι) (steps : List (Step ι)) :
    loop.Allows handle (fun _ _ _ => True) (fun _ t => ∃ request : Request ι, t = request.task)
      (steps.map Step.move) := by
  refine EventLoop.allows_of_starts fun t ht _ => ?_
  obtain ⟨step, -, hstep⟩ := List.mem_map.mp ht
  cases step with
  | start request => exact ⟨request, (EventLoop.Move.start.inj hstep).symm⟩
  | main a => exact absurd hstep (by simp [Step.move])
  | other i a => exact absurd hstep (by simp [Step.move])

/-- A run is what its controllers do together. -/
theorem reaches_run (file : Option KillSwitchState) (request : Request ι) (steps : List (Step ι)) :
    Reaches { file } (run file request steps).world ∧
      ∀ outcome, (run file request steps).main = .done outcome →
        Persisted request outcome (run file request steps).world := by
  have hw : Consistent ({ file } : Controllers ι) := fun _ _ h => absurd h (by simp)
  have hstart : ∀ (w : Controllers ι) t, Reaches { file } w →
      (∃ request : Request ι, t = request.task) →
      t.Upholds handle Reaches (fun _ _ _ => True) (fun _ _ => True) w := by
    intro w t hreach ⟨other, ht⟩
    rw [ht]
    exact (upholds_task other (hreach.consistent hw)).imp fun _ _ _ => trivial
  have hupheld : EventLoop.Upheld handle Reaches (fun _ _ _ => True) (Persisted request)
      (fun _ _ => True) ({ main := request.task, others := [], world := { file } } : Loop ι) :=
    ⟨upholds_task request hw, fun _ ht => absurd ht (by simp)⟩
  exact EventLoop.upholds_run Reaches.refl Reaches.trans hstart (Reaches.refl _) hupheld
    (allows_steps _ steps)

/-- **Controllers over one file.** However their calls interleave: the file goes from version to
later version; it gets a milder mode by an acknowledged reset only; an activation that has returned
has written its mode; and a controller at the file's version holds the file's state, so its gate is
shut unless the file's mode is running. -/
theorem shared_kill_switch (file : Option KillSwitchState) (request : Request ι)
    (steps : List (Step ι)) :
    let final := run file request steps
    Linked file final.world.saves final.world.file ∧
    (∀ save ∈ final.world.saves, save.Lawful) ∧
    (∀ state, final.main = .done (.ok state) → ∀ mode ∈ request.activates,
      state.mode = mode ∧ ∃ save ∈ final.world.saves, save.request = request ∧ save.after = state) ∧
    ∀ controller state, final.world.state controller = some state →
      ∃ persisted, final.world.file = some persisted ∧ state.version ≤ persisted.version ∧
        (state.version = persisted.version → state = persisted ∧
          (persisted.mode ≠ .running → final.world.entriesAllowed controller = .ok false)) := by
  dsimp only
  obtain ⟨hreaches, hpost⟩ := reaches_run file request steps
  obtain ⟨added, hsaves, hlawful, hlinked⟩ := hreaches.writes
  obtain rfl : (run file request steps).world.saves = added := by simpa using hsaves
  refine ⟨hlinked, hlawful, fun state hdone mode hmode => ?_, fun controller state hstate => ?_⟩
  · have hne : request.activates ≠ none := fun hnone => by simp [hnone] at hmode
    obtain ⟨save, hsave, hrequest, hafter⟩ := hpost _ hdone state rfl hne
    refine ⟨?_, save, hsave, hrequest, hafter⟩
    rw [← hafter]
    exact (hlawful save hsave).activated mode (hrequest ▸ hmode)
  · have hw : Consistent ({ file } : Controllers ι) := fun _ _ h => absurd h (by simp)
    obtain ⟨persisted, hfile, hversion⟩ := hreaches.consistent hw controller state hstate
    refine ⟨persisted, hfile, ?_, fun heq => ?_⟩
    · rcases hversion with rfl | hlt
      · exact le_refl _
      · exact hlt.le
    · obtain rfl : persisted = state := by
        rcases hversion with h | hlt
        · exact h
        · omega
      exact ⟨rfl, fun hmode => by simp [Controllers.entriesAllowed, hstate, hmode]⟩

end Runs

/-- A gate that is open although the file says to flatten; and an activation, refused, that leaves
the file running. -/
theorem stale_controllers :
    (∃ steps : List (Step Bool),
      let w := (run none (.initializeState false) steps).world
      w.file.map KillSwitchState.mode = some .emergencyFlatten ∧
        w.entriesAllowed true = .ok true) ∧
    ∃ steps : List (Step Bool),
      let final := run none (.activate true .softPause "pause" "operator") steps
      final.main.raised? = some (.runtimeError "kill-switch state changed concurrently") ∧
        final.world.file.map KillSwitchState.mode = some .running := by
  refine ⟨⟨[.main {}, .main {}, .main {}, .main {},
    .start (.initializeState true), .other 0 {}, .other 0 {},
    .start (.activate false .emergencyFlatten "flatten" "operator"),
    .other 1 {}, .other 1 {}, .other 1 {}, .other 1 {}], ?_⟩,
    ⟨[.start (.initializeState false), .other 0 {}, .other 0 {}, .other 0 {}, .other 0 {},
      .start (.initializeState true), .other 1 {}, .other 1 {},
      .start (.reset false "operator" true), .other 2 {}, .other 2 {}, .other 2 {}, .other 2 {},
      .main {}, .main {}, .main {}], ?_⟩⟩
  · decide +kernel
  · decide +kernel

end SharedKillSwitch

end CreditHedge
