import CreditHedge.Application.EntryGate
import CreditHedge.Application.MarketOrders

/-!
# Activations

What closes the entry gate, among the tasks that ask it. An activation is in force from its last
stretch on, which sets the controller's state; nothing but a reset opens the gate again, and no
task here is one. So the tasks keep a thrown switch thrown (`ProcessCall.KeepsHalted`), an
activation that returns has thrown it (`Activation.returnsHalted`), and with the entry paths gated
the rest is `EventLoop.quiet_while_closed`.
-/

set_option autoImplicit false

namespace CreditHedge

open Coroutine (Calls)

/-! ## Keeping the switch thrown -/

/-- The attributes are left with the switch as it is, or thrown. -/
def ProcessCall.KeepsHalted : ProcessCall → Prop
  | .sync change => ∀ memory, memory.Halted → (change memory).Halted
  | _ => True

/-- What a task does that acts on an activation: it closes positions, and throws the switch. -/
def ProcessCall.Controls (call : ProcessCall) : Prop := ¬ call.PlacesEntry ∧ call.KeepsHalted

/-- A process in which the switch is not reset. -/
def StaysHalted (p p' : Process) : Prop := p.Halted → p'.Halted

theorem staysHalted_of_keepsHalted {call : ProcessCall} (h : call.KeepsHalted)
    (a : ProcessAnswers) (p : Process) : StaysHalted p (Process.handle a call p).2 := by
  intro hp
  cases call with
  | sync change => exact h p.memory hp
  | port call => exact hp.congr (congrArg Memory.killSwitch (memory_of_port a call p))
  | _ => exact hp

namespace Task

variable {α β : Type}

/-- If the task returns, the switch is thrown by then, whatever happens beside it. -/
def ReturnsHalted (t : Task α) : Prop :=
  ∀ p, t.Ensures Process.handle StaysHalted (fun _ _ _ => True)
    (fun outcome p' => ∀ a, outcome = .ok a → p'.Halted) p

/-- The task as one of those in the background, whose result nobody waits for. -/
def forEffect (t : Task α) : Task Unit := t >>= fun _ => pure ()

theorem guarantees_of_keepsHalted {t : Task α} (h : t.Calls ProcessCall.KeepsHalted) :
    t.Guarantees Process.handle StaysHalted :=
  h.guarantees fun _ => staysHalted_of_keepsHalted

theorem ReturnsHalted.bind {t : Task α} {f : α → Task β} (ht : ReturnsHalted t)
    (hf : ∀ a, (f a).Calls ProcessCall.KeepsHalted) : ReturnsHalted (t >>= f) := by
  intro p
  refine .bind (fun _ hp => hp) ((ht p).imp fun outcome p' hpost => ?_)
  cases outcome with
  | error failure => exact fun _ _ a ha => absurd ha (by simp)
  | ok a =>
    exact ((guarantees_of_keepsHalted (hf a)).ensures_kept (hpost a rfl)).imp fun _ _ hp _ _ => hp

theorem ReturnsHalted.of_last {t : Task α} {f : α → Task β} (hf : ∀ a, ReturnsHalted (f a)) :
    ReturnsHalted (t >>= f) :=
  .bind_of_forall (fun _ _ _ h => absurd h (by simp)) hf

theorem ReturnsHalted.throw (failure : Failure) : ReturnsHalted (throw failure : Task α) :=
  fun _ _ _ _ h => absurd h (by simp)

theorem ReturnsHalted.lift_bind {x : Except Failure β} {f : β → Task α}
    (hf : ∀ v, x = .ok v → ReturnsHalted (f v)) :
    ReturnsHalted ((liftM x : Task β) >>= f) := by
  cases x with
  | ok v => exact hf v rfl
  | error failure => exact .throw failure

theorem ReturnsHalted.sync {stretch : Memory → Memory × Task α}
    (h : ∀ memory, ReturnsHalted (stretch memory).2) : ReturnsHalted (sync stretch) :=
  fun _ p _ _ _ => h p.memory _

/-- A stretch that throws the switch. -/
theorem returnsHalted_of_thrown {stretch : Memory → Memory × Task α}
    (h : ∀ memory, (stretch memory).1.Halted)
    (hrest : ∀ memory, (stretch memory).2.Calls ProcessCall.KeepsHalted) :
    ReturnsHalted (CreditHedge.sync stretch) := by
  intro _ p _ _ _
  have hthrown : Process.Halted { p with memory := (stretch p.memory).1 } := h p.memory
  exact ((guarantees_of_keepsHalted (hrest p.memory)).ensures_kept hthrown).imp
    fun _ _ hp _ _ => hp

end Task

/-! ## Activations -/

section Rules

variable {α : Type} {p : ProcessCall → Prop}

theorem calls_awaitPort {call : Call} (h : p (.port call)) : (awaitPort call).Calls p := .perform h

theorem calls_awaitProcess {call : ProcessCall} (h : p call) : (awaitProcess call).Calls p :=
  .perform h

end Rules

namespace KillSwitchController

theorem controls_saveState {mode : KillSwitchMode} (hmode : mode ≠ .running)
    (reason requestedBy : String) (current : KillSwitchState) :
    (saveState mode reason requestedBy current).Calls ProcessCall.Controls := by
  refine .bind (calls_awaitPort ⟨not_false, trivial⟩) fun changedAt => ?_
  refine .lift_bind fun updated hupdated => ?_
  refine .bind (calls_awaitProcess ⟨not_false, trivial⟩) fun _ => ?_
  have hthrown : updated.mode ≠ .running := by
    rw [KillSwitchState.mode_of_create hupdated]
    exact hmode
  exact calls_sync ⟨not_false, fun _ _ => ⟨updated, rfl, hthrown⟩⟩ fun _ => .pure _

theorem controls_activate (mode : KillSwitchMode) (reason requestedBy : String) :
    (activate mode reason requestedBy).Calls ProcessCall.Controls := by
  unfold activate
  split_ifs with hmode
  · exact .throw _
  · refine calls_sync ⟨not_false, fun memory h => ?_⟩ fun memory => ?_
    · dsimp only
      split <;> exact h
    · split
      · exact .throw _
      · dsimp only
        split_ifs
        · exact .throw _
        · exact controls_saveState hmode reason requestedBy _

/-- The last stretch throws the switch. -/
theorem returnsHalted_saveState {mode : KillSwitchMode} (hmode : mode ≠ .running)
    (reason requestedBy : String) (current : KillSwitchState) :
    Task.ReturnsHalted (saveState mode reason requestedBy current) := by
  refine .of_last fun changedAt => .lift_bind fun updated hupdated => .of_last fun _ => ?_
  have hthrown : updated.mode ≠ .running := by
    rw [KillSwitchState.mode_of_create hupdated]
    exact hmode
  exact Task.returnsHalted_of_thrown (fun _ => ⟨updated, rfl, hthrown⟩) fun _ => .pure _

theorem returnsHalted_activate (mode : KillSwitchMode) (reason requestedBy : String) :
    Task.ReturnsHalted (activate mode reason requestedBy) := by
  unfold activate
  split_ifs with hmode
  · exact .throw _
  · refine .sync fun memory => ?_
    split
    · exact .throw _
    · dsimp only
      split_ifs
      · exact .throw _
      · exact returnsHalted_saveState hmode reason requestedBy _

end KillSwitchController

namespace EmergencyFlattenService

/-- The close is no entry. -/
theorem controls_flattenShort (orderLinkId : String) :
    (flattenShort orderLinkId).Calls ProcessCall.Controls := by
  refine .bind (calls_awaitPort ⟨not_false, trivial⟩) fun positions => ?_
  refine .lift_bind fun position _ => .lift_bind fun request hrequest => ?_
  have hreduce : request.reduceOnly = true := by
    rw [PlaceOrderRequest.create_eq_ok.mp hrequest]
    rfl
  have hplace : (awaitPort (.placeOrder request)).Calls ProcessCall.Controls :=
    calls_awaitPort ⟨fun hentry => absurd (hreduce.symm.trans hentry) (by simp), trivial⟩
  refine .bind (calls_awaitPort ⟨not_false, trivial⟩) fun persistedAt => ?_
  refine .bind (calls_awaitProcess ⟨not_false, trivial⟩) fun _ => ?_
  refine .bind (.tryCatch hplace fun failure => ?_) fun acknowledgement => ?_
  · split
    · refine .bind (calls_awaitPort ⟨not_false, trivial⟩) fun found => ?_
      cases found with
      | none => exact .throw _
      | some discovered =>
        exact .bind (calls_awaitPort ⟨not_false, trivial⟩) fun acknowledgedAt => .lift _
    · exact .throw _
  · exact .bind (calls_awaitPort ⟨not_false, trivial⟩) fun _ => .pure _

theorem controls_confirmFlattened : confirmFlattened.Calls ProcessCall.Controls :=
  .bind (calls_awaitPort ⟨not_false, trivial⟩) fun _ => .pure _

end EmergencyFlattenService

namespace EmergencyKillSwitchExecutor

open EmergencyFlattenService

theorem controls_flattenIfOpen (orderLinkId : String) :
    (flattenIfOpen orderLinkId).Calls ProcessCall.Controls := by
  refine .bind controls_confirmFlattened fun flat => ?_
  cases flat with
  | true => exact .pure _
  | false => exact .bind (controls_flattenShort orderLinkId) fun _ => controls_confirmFlattened

theorem controls_attempts (orderLinkIdFactory : ℕ → String) (left attempt : ℕ) :
    (attempts orderLinkIdFactory left attempt).Calls ProcessCall.Controls := by
  induction left generalizing attempt with
  | zero => exact .throw _
  | succ left ih =>
    refine .bind (controls_flattenIfOpen _) fun positionFlat => ?_
    refine .bind (calls_awaitProcess ⟨not_false, trivial⟩) fun reconciled => ?_
    split_ifs
    · exact .pure _
    · exact ih _

/-- What follows the activation. -/
def closeOut (orderLinkIdFactory : ℕ → String) (maximumAttempts : ℕ) (reason : String) :
    Task EmergencyKillSwitchResult := do
  awaitProcess (.sendNotification
    { code := "KILL_SWITCH"
      severity := "IMMEDIATE"
      message := "emergency flatten activated: " ++ reason })
  awaitProcess (.cancelAll .linear (some "ETHUSDT"))
  awaitProcess (.cancelAll .option none)
  attempts orderLinkIdFactory maximumAttempts 1

theorem controls_closeOut (orderLinkIdFactory : ℕ → String) (maximumAttempts : ℕ)
    (reason : String) :
    (closeOut orderLinkIdFactory maximumAttempts reason).Calls ProcessCall.Controls := by
  refine .bind (calls_awaitProcess ⟨not_false, trivial⟩) fun _ => ?_
  refine .bind (calls_awaitProcess ⟨not_false, trivial⟩) fun _ => ?_
  exact .bind (calls_awaitProcess ⟨not_false, trivial⟩) fun _ => controls_attempts _ _ _

end EmergencyKillSwitchExecutor

/-- A task that throws the switch and then closes what is open. The operations of a strategy close
    are the caller's. -/
inductive Activation : {α : Type} → Task α → Prop
  | activate (mode : KillSwitchMode) (reason requestedBy : String) :
      Activation (KillSwitchController.activate mode reason requestedBy)
  | execute (orderLinkIdFactory : ℕ → String) (maximumAttempts : ℕ)
      (reason requestedBy : String) :
      Activation (EmergencyKillSwitchExecutor.execute orderLinkIdFactory maximumAttempts reason
        requestedBy)
  | close {closeHedges closeOptionSpread : Task Unit} {verifyStrategyClosed : Task Bool}
      (reason requestedBy : String) :
      closeHedges.Calls ProcessCall.Controls → closeOptionSpread.Calls ProcessCall.Controls →
      verifyStrategyClosed.Calls ProcessCall.Controls →
      Activation (StrategyCloseService.close closeHedges closeOptionSpread verifyStrategyClosed
        reason requestedBy)

/-- An activation, and what it does then. -/
theorem Activation.exists_bind {α : Type} {t : Task α} (h : Activation t) :
    ∃ (mode : KillSwitchMode) (reason requestedBy : String) (rest : KillSwitchState → Task α),
      t = KillSwitchController.activate mode reason requestedBy >>= rest ∧
        ∀ state, (rest state).Calls ProcessCall.Controls := by
  cases h with
  | activate mode reason requestedBy =>
    exact ⟨mode, reason, requestedBy, pure, (Coroutine.bind_pure _).symm, fun _ => .pure _⟩
  | execute orderLinkIdFactory maximumAttempts reason requestedBy =>
    exact ⟨_, reason, requestedBy, _, rfl, fun _ =>
      EmergencyKillSwitchExecutor.controls_closeOut orderLinkIdFactory maximumAttempts reason⟩
  | close reason requestedBy hhedges hspread hverify =>
    refine ⟨_, reason, requestedBy, _, rfl, fun _ => ?_⟩
    refine .bind (calls_awaitProcess ⟨not_false, trivial⟩) fun _ => ?_
    refine .bind (calls_awaitProcess ⟨not_false, trivial⟩) fun _ => ?_
    exact .bind hhedges fun _ => .bind hspread fun _ => .bind hverify fun _ => .pure _

theorem Activation.controls {α : Type} {t : Task α} (h : Activation t) :
    t.Calls ProcessCall.Controls := by
  obtain ⟨mode, reason, requestedBy, rest, rfl, hrest⟩ := h.exists_bind
  exact .bind (KillSwitchController.controls_activate mode reason requestedBy) hrest

/-- **An activation that has returned is in force.** -/
theorem Activation.returnsHalted {α : Type} {t : Task α} (h : Activation t) :
    Task.ReturnsHalted t := by
  obtain ⟨mode, reason, requestedBy, rest, rfl, hrest⟩ := h.exists_bind
  exact (KillSwitchController.returnsHalted_activate mode reason requestedBy).bind
    fun state => (hrest state).imp fun _ hcall => hcall.2

/-! ## The entry paths -/

section Rules

variable {α : Type}

theorem keepsHalted_onPorts (t : Service α) : (onPorts t).Calls ProcessCall.KeepsHalted := by
  induction t with
  | done outcome => exact trivial
  | call call resume ih => exact ⟨trivial, ih⟩

end Rules

theorem OneLevelCoordinator.keepsHalted_onTrigger (c : OneLevelCoordinator) (orderLinkId : String)
    (event : TriggerPriceEvent) (health : MarketDataHealthResult) (riskState : RiskState) :
    (c.onTrigger orderLinkId event health riskState).Calls ProcessCall.KeepsHalted := by
  unfold onTrigger
  split_ifs
  · exact .pure _
  · exact .pure _
  · exact .pure _
  · refine calls_sync (fun memory h => ?_) fun memory => ?_
    · exact h.congr (c.killSwitch_observe orderLinkId event riskState memory)
    · refine c.observe_cases (P := fun stretch => stretch.2.Calls ProcessCall.KeepsHalted)
        (fun _ _ _ => .pure _) (fun _ => .throw _) fun m _ => ?_
      unfold crossed
      split
      · exact .throw _
      · exact .pure _
      · exact .bind (keepsHalted_onPorts _) fun _ => .pure _

theorem MultiLevelCoordinator.keepsHalted_visit (c : MultiLevelCoordinator)
    (crossed : List HedgeLevel) (riskState : RiskState) (entries : List LevelEntrySubmission)
    (blocked : List LevelEntryBlock) (memory : Memory) :
    (c.visit crossed riskState entries blocked memory).2.Calls ProcessCall.KeepsHalted := by
  induction crossed generalizing riskState entries blocked memory with
  | nil => exact .pure _
  | cons level rest ih =>
    unfold visit
    dsimp only
    split
    · exact .throw _
    · exact ih _ _ _ _
    · refine .bind (keepsHalted_onPorts _) fun snapshot => calls_sync (fun m h => ?_) fun m => ?_
      · exact h.congr (c.killSwitch_visit ..)
      · exact ih _ _ _ _

theorem MultiLevelCoordinator.keepsHalted_onTrigger (c : MultiLevelCoordinator)
    (event : TriggerPriceEvent) (health : MarketDataHealthResult) (riskState : RiskState) :
    (c.onTrigger event health riskState).Calls ProcessCall.KeepsHalted := by
  unfold onTrigger
  split_ifs
  · exact .pure _
  · exact .pure _
  · exact .pure _
  · refine calls_sync (fun memory h => ?_) fun memory => ?_
    · exact h.congr (c.killSwitch_observe event riskState memory)
    · exact c.observe_cases (P := fun stretch => stretch.2.Calls ProcessCall.KeepsHalted)
        (fun _ _ _ => .pure _) (fun _ => .throw _) fun crossed m _ _ =>
          c.keepsHalted_visit crossed riskState [] [] m

/-- The tasks that place entries, with the controller as their entry gate. -/
inductive EntryPath : {α : Type} → Task α → Prop
  | oneLevel (c : OneLevelCoordinator) (orderLinkId : String) (event : TriggerPriceEvent)
      (marketHealth : MarketDataHealthResult) (riskState : RiskState) :
      c.hasEntryGate = true → EntryPath (c.onTrigger orderLinkId event marketHealth riskState)
  | multiLevel (c : MultiLevelCoordinator) (event : TriggerPriceEvent)
      (marketHealth : MarketDataHealthResult) (riskState : RiskState) :
      c.hasEntryGate = true → EntryPath (c.onTrigger event marketHealth riskState)
  | recovery (planner : RecoveryPlanner) (level : HedgeLevel) (orderLinkId : String) :
      EntryPath (onPorts (SameLevelRecoveryService.submitRecovery planner true level orderLinkId))

namespace EntryPath

variable {α : Type} {t : Task α}

theorem gated (h : EntryPath t) : Task.Gated t := by
  cases h with
  | oneLevel c orderLinkId event marketHealth riskState hgate =>
    exact c.gated_onTrigger orderLinkId event marketHealth riskState hgate
  | multiLevel c event marketHealth riskState hgate =>
    exact c.gated_onTrigger event marketHealth riskState hgate
  | recovery planner level orderLinkId =>
    exact SameLevelRecoveryService.gated_submitRecovery planner level

/-- A path that has not started has not been past the gate. -/
theorem not_committed (h : EntryPath t) : ¬ Task.Committed t := by
  cases h with
  | oneLevel c orderLinkId event marketHealth riskState _ =>
    exact c.not_committed_onTrigger orderLinkId event marketHealth riskState
  | multiLevel c event marketHealth riskState _ =>
    exact c.not_committed_onTrigger event marketHealth riskState
  | recovery planner level orderLinkId =>
    exact SameLevelRecoveryService.not_committed_submitRecovery planner level

theorem keepsHalted (h : EntryPath t) : t.Calls ProcessCall.KeepsHalted := by
  cases h with
  | oneLevel c orderLinkId event marketHealth riskState _ =>
    exact c.keepsHalted_onTrigger orderLinkId event marketHealth riskState
  | multiLevel c event marketHealth riskState _ =>
    exact c.keepsHalted_onTrigger event marketHealth riskState
  | recovery planner level orderLinkId => exact keepsHalted_onPorts _

end EntryPath

/-! ## The tasks together -/

abbrev ProcessLoop (α : Type) := EventLoop Failure ProcessCall ProcessCall.Result Process α Unit

abbrev ProcessMove := EventLoop.Move Failure ProcessCall ProcessCall.Result ProcessAnswers Unit

/-- What is started beside an activation: entry paths, and further activations. -/
def Beside (_ : Process) (t : Task Unit) : Prop :=
  ∃ (α : Type) (t' : Task α), (EntryPath t' ∨ Activation t') ∧ t = Task.forEffect t'

theorem Beside.gated {p : Process} {t : Task Unit} (h : Beside p t) :
    Task.Gated t ∧ ¬ Task.Committed t := by
  obtain ⟨α, t', ht', rfl⟩ := h
  have hnot : ¬ Task.Committed t' := by
    rcases ht' with hpath | hactivation
    · exact hpath.not_committed
    · exact (hactivation.controls.imp fun _ hcall => hcall.1).not_committed
  have hgated : Task.Gated t' := by
    rcases ht' with hpath | hactivation
    · exact hpath.gated
    · exact .of_never (hactivation.controls.imp fun _ hcall => hcall.1)
  refine ⟨.bind hgated (fun _ => gated_pure _) fun _ => not_committed_pure _, fun hcommitted => ?_⟩
  rcases hcommitted.of_bind with hcommitted | ⟨_, hcommitted⟩
  · exact hnot hcommitted
  · exact not_committed_pure _ hcommitted

theorem Beside.guarantees {p : Process} {t : Task Unit} (h : Beside p t) :
    t.Guarantees Process.handle StaysHalted := by
  obtain ⟨α, t', ht', rfl⟩ := h
  refine Task.guarantees_of_keepsHalted (.bind ?_ fun _ => .pure _)
  rcases ht' with hpath | hactivation
  · exact hpath.keepsHalted
  · exact hactivation.controls.imp fun _ hcall => hcall.2

/-- An activation that starts beside nothing yet. -/
def activating {α : Type} (main : Task α) (p : Process) : ProcessLoop α where
  main
  others := []
  world := p

/-- The gate closes at moments when no entry path is between its look at it and its order. -/
abbrev ClosesBetweenEntries {α : Type} (loop : ProcessLoop α) (moves : List ProcessMove) : Prop :=
  loop.ClosesUncommitted ProcessCall.PlacesEntry ProcessCall.ReadsGate Process.handle
    Process.Halted moves

/-- **An activation is final for entries**, in every interleaving in which no entry path is
    between its look at the gate and its order when the switch is thrown. No entry is placed
    while the switch is thrown, and none after the activation has returned. -/
theorem activation_final {α : Type} {main : Task α} (hmain : Activation main) {p : Process}
    {before after : List ProcessMove}
    (hallows : (activating main p).Allows Process.handle (fun _ _ _ => True) Beside
      (before ++ after))
    (hcloses : ClosesBetweenEntries (activating main p) (before ++ after)) :
    (activating main p).Allows Process.handle
        (fun _ call p => p.Halted → ¬ call.PlacesEntry) Beside (before ++ after) ∧
      ∀ a, ((activating main p).run Process.handle before).main = .done (.ok a) →
        ((activating main p).run Process.handle before).Allows Process.handle
          (fun _ call _ => ¬ call.PlacesEntry) Beside after := by
  have hnever : main.Calls fun call => ¬ call.PlacesEntry :=
    hmain.controls.imp fun _ hcall => hcall.1
  have hgated : (activating main p).GatedLoop ProcessCall.PlacesEntry ProcessCall.ReadsGate
      Process.handle Process.Halted :=
    ⟨.of_never hnever, fun t ht => absurd ht (by simp [activating]), fun _ =>
      ⟨hnever.not_committed, fun t ht => absurd ht (by simp [activating])⟩⟩
  have hquiet := EventLoop.quiet_while_closed halted_frame (fun _ _ h => h.gated) hgated hallows
    hcloses
  refine ⟨hquiet, fun a hreturned => ?_⟩
  obtain ⟨hbefore, -⟩ := EventLoop.allows_append.mp hallows
  obtain ⟨-, hafter⟩ := EventLoop.allows_append.mp hquiet
  -- The switch is thrown by then, and stays thrown.
  have hhalted : ((activating main p).run Process.handle before).world.Halted :=
    EventLoop.ensures_run (fun _ hp => hp) (fun h h' hp => h' (h hp)) (fun ht => ht.guarantees)
      (hmain.returnsHalted p) (fun t ht => absurd ht (by simp [activating])) hbefore.admits
      hreturned a rfl
  have hguaranteed : (activating main p).Guaranteed Process.handle StaysHalted :=
    ⟨Task.guarantees_of_keepsHalted (hmain.controls.imp fun _ hcall => hcall.2),
      fun t ht => absurd ht (by simp [activating])⟩
  have hthen := EventLoop.guaranteed_run (fun _ hp => hp) (fun _ _ ht => ht.guarantees) hguaranteed
    hbefore
  exact EventLoop.Allows.of_kept (fun _ _ ht => ht.guarantees) (fun _ _ _ hp h => h hp) hthen
    hhalted hafter

/-! ## A trigger on either side -/

/-- The coordinator of the level at 2000, with the controller as its gate. -/
def gatedCoordinator : OneLevelCoordinator :=
  { coordinatorOf 1 unit_pos with hasEntryGate := true }

/-- The controller is initialized, and the coordinator has last seen 2010. -/
def runningAbove : Process :=
  { seenAbove with
    memory :=
      { seenAbove.memory with
        killSwitch := some
          { mode := .running
            reason := "initial state"
            requestedBy := "system"
            changedAtUtc := 0
            version := 1
            reason_text := by decide +kernel
            requestedBy_text := by decide +kernel
            version_pos := Nat.one_pos } } }

/-- A trade at 1999 comes in. -/
def triggerAt1999 : Task Unit :=
  Task.forEffect (gatedCoordinator.onTrigger "ECH-A-C0001-L01-ENTRY-A01-0000" (tradeAt 1999)
    healthyMarket calmState)

theorem beside_triggerAt1999 (p : Process) : Beside p triggerAt1999 :=
  ⟨_, _, .inl (.oneLevel _ _ _ _ _ rfl), rfl⟩

def softPause : Task KillSwitchState :=
  KillSwitchController.activate .softPause "maintenance" "operator"

/-- The trigger waits while the switch is thrown. -/
def pauseBefore : List ProcessMove :=
  .start triggerAt1999 :: (List.replicate 4 default).map .main

theorem closes_pauseBefore :
    ClosesBetweenEntries (activating softPause runningAbove)
      (pauseBefore ++ [.other 0 default]) := by
  have hnever : softPause.Calls fun call => ¬ call.PlacesEntry :=
    (KillSwitchController.controls_activate _ _ _).imp fun _ hcall => hcall.1
  refine ⟨fun _ _ => ⟨hnever.not_committed, fun t ht => absurd ht (by simp [activating])⟩, ?_⟩
  refine EventLoop.closesUncommitted_of_mains _ _ hnever fun t ht => ?_
  obtain rfl : t = triggerAt1999 := by simpa [EventLoop.move, activating] using ht
  exact (beside_triggerAt1999 runningAbove).gated.2

/-- A trigger that is handled after the pause is blocked by the gate. -/
theorem activation_final_softPause :
    ((activating softPause runningAbove).run Process.handle pauseBefore).main.returned?.isSome ∧
      ((activating softPause runningAbove).run Process.handle pauseBefore).Allows Process.handle
        (fun _ call _ => ¬ call.PlacesEntry) Beside [.other 0 default] := by
  have hreturned : ((activating softPause runningAbove).run Process.handle
      pauseBefore).main.returned?.isSome = true := by decide +kernel
  obtain ⟨state, hstate⟩ := Option.isSome_iff_exists.mp hreturned
  refine ⟨hreturned, ?_⟩
  refine (activation_final (.activate _ _ _) (EventLoop.allows_of_starts fun t ht p => ?_)
    closes_pauseBefore).2 state (Coroutine.returned?_eq_some.mp hstate)
  obtain rfl : t = triggerAt1999 := by simpa [pauseBefore] using ht
  exact beside_triggerAt1999 p

def emergency : Task EmergencyKillSwitchResult :=
  EmergencyKillSwitchExecutor.execute (fun _ => "ECH-A-C0001-L01-FLATTEN-A01-0000") 1
    "loss limit" "operator"

/-- The trigger finds the gate open and comes to its order; then the emergency executor is run,
    to whom the exchange reports no position. -/
def emergencyBefore : List ProcessMove :=
  .start triggerAt1999 :: List.replicate 6 (.other 0 default) ++
    List.replicate 9 (.main { positions := .ok [] })

theorem not_allowsMove_of_placing {α : Type} {loop : ProcessLoop α} {i : ℕ} {a : ProcessAnswers}
    {request : PlaceOrderRequest} (h : loop.others[i]?.bind Task.placing? = some request)
    (hentry : request.reduceOnly = false) :
    ¬ loop.AllowsMove (fun _ call _ => ¬ call.PlacesEntry) Beside (.other i a) := by
  obtain ⟨t, ht, hplacing⟩ := Option.bind_eq_some_iff.mp h
  unfold Task.placing? at hplacing
  split at hplacing
  · obtain rfl := Option.some.inj hplacing
    simp only [EventLoop.AllowsMove, ht]
    exact fun hnot => hnot hentry
  · exact absurd hplacing (by simp)

/-- **The position is reported flat, and the entry is placed after that.** -/
theorem entry_placed_after_flat :
    (activating emergency runningAbove).Allows Process.handle (fun _ _ _ => True) Beside
        (emergencyBefore ++ [.other 0 default]) ∧
      ((activating emergency runningAbove).run Process.handle emergencyBefore).main =
        .done (.ok
          { attempts := 1, positionConfirmedFlat := true, reconciliationSucceeded := true }) ∧
      ¬ ((activating emergency runningAbove).run Process.handle emergencyBefore).Allows
        Process.handle (fun _ call _ => ¬ call.PlacesEntry) Beside [.other 0 default] := by
  refine ⟨EventLoop.allows_of_starts fun t ht p => ?_, ?_, fun h => ?_⟩
  · obtain rfl : t = triggerAt1999 := by simpa [emergencyBefore] using ht
    exact beside_triggerAt1999 p
  · exact Coroutine.returned?_eq_some.mp (by decide +kernel)
  · have hplacing : (((activating emergency runningAbove).run Process.handle
        emergencyBefore).others[0]?.bind Task.placing?).map (fun request => request.reduceOnly) =
          some false := by decide +kernel
    obtain ⟨request, hrequest, hentry⟩ := Option.map_eq_some_iff.mp hplacing
    exact not_allowsMove_of_placing hrequest hentry h.1

end CreditHedge
