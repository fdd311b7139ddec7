import CreditHedge.Core.Accounts

/-!
# The ledger is conserved

The same money is written down in three places: the running totals of the ledger, the list of its
events, and the fields of the levels. Every handler has to keep the three in step, and in
distributed mode a take-profit of one level pays the debt of another.

`Conserved` is what "in step" means. A crossing appends exactly one event, and `Posting` says of
that event everything the totals and the levels need to know of it; which of the totals move is
then a question about the event's type alone. So `Crosses.posting` is the only place where the
crossings are taken apart, and `Conserved.append` is the rest.
-/

set_option autoImplicit false

namespace CreditHedge

/-- What the levels themselves have realised. -/
def realizedByLevels (levels : List HedgeLevel) : ℚ :=
  (levels.map fun level => level.realizedTpProfit - level.realizedStopLosses).sum

namespace LedgerEvent

variable (event : LedgerEvent)

/-- The debt a take-profit repays. -/
def repaid : ℚ := if event.eventType = .tp then event.recoveryProfitComponent else 0

/-- The profit of a take-profit. -/
def profit : ℚ := if event.eventType = .tp then event.realizedPnl else 0

/-- The loss of a stop. -/
def loss : ℚ := if event.eventType = .stop then -event.realizedPnl else 0

/-- Both kinds of entry count as entries. -/
def IsEntry : Prop := event.eventType = .entry ∨ event.eventType = .floorEntry

instance : Decidable event.IsEntry := inferInstanceAs (Decidable (_ ∨ _))

end LedgerEvent

/-- How many events there are of a kind. -/
def countOf (eventType : LedgerEventType) (events : List LedgerEvent) : ℕ :=
  events.countP fun event => event.eventType = eventType

/-- **The books agree.** -/
structure Conserved (s : EngineState) : Prop where
  gross : s.ledger.realizedHedgePnl = s.ledger.grossTpProfits - s.ledger.grossStopLosses
  events : s.ledger.realizedHedgePnl = (s.ledger.events.map LedgerEvent.realizedPnl).sum
  levels : s.ledger.realizedHedgePnl = realizedByLevels s.levels
  debt : Ledger.outstandingDebt s.levels =
    s.ledger.grossStopLosses -
      ((s.ledger.events.filter (·.eventType = .tp)).map LedgerEvent.recoveryProfitComponent).sum
  tp : ∀ event ∈ s.ledger.events, event.eventType = .tp →
    event.realizedPnl = event.zoneProfitComponent + event.recoveryProfitComponent
  entries : s.ledger.entries = s.ledger.events.countP fun event => event.IsEntry
  stops : s.ledger.stops = countOf .stop s.ledger.events
  tps : s.ledger.tps = countOf .tp s.ledger.events
  floorEntries : s.ledger.floorEntries = countOf .floorEntry s.ledger.events
  breakevenExits : s.ledger.breakevenExits = countOf .breakeven s.ledger.events

/-- One event more, and what it moved. -/
structure Posting (s s' : EngineState) (event : LedgerEvent) : Prop where
  events : s'.ledger.events = s.ledger.events ++ [event]
  realized : s'.ledger.realizedHedgePnl = s.ledger.realizedHedgePnl + event.realizedPnl
  profits : s'.ledger.grossTpProfits = s.ledger.grossTpProfits + event.profit
  losses : s'.ledger.grossStopLosses = s.ledger.grossStopLosses + event.loss
  realizedPnl : event.realizedPnl = event.profit - event.loss
  levels : realizedByLevels s'.levels = realizedByLevels s.levels + event.realizedPnl
  debt : Ledger.outstandingDebt s'.levels =
    Ledger.outstandingDebt s.levels + event.loss - event.repaid
  tp : event.eventType = .tp →
    event.realizedPnl = event.zoneProfitComponent + event.recoveryProfitComponent
  entries : s'.ledger.entries = s.ledger.entries + if event.IsEntry then 1 else 0
  stops : s'.ledger.stops = s.ledger.stops + if event.eventType = .stop then 1 else 0
  tps : s'.ledger.tps = s.ledger.tps + if event.eventType = .tp then 1 else 0
  floorEntries :
    s'.ledger.floorEntries = s.ledger.floorEntries + if event.eventType = .floorEntry then 1 else 0
  breakevenExits :
    s'.ledger.breakevenExits =
      s.ledger.breakevenExits + if event.eventType = .breakeven then 1 else 0

variable {config : StrategyConfig} {spread : CreditSpread} {s s' : EngineState}

/-! ## What a crossing posts -/

/-- A repayment realises nothing. -/
theorem HedgeLevel.settled_realized (config : StrategyConfig) :
    ∀ (claims : List (ℕ × ℚ)) (x : HedgeLevel),
      (x.settled config claims).realizedTpProfit - (x.settled config claims).realizedStopLosses =
        x.realizedTpProfit - x.realizedStopLosses
  | [], _ => rfl
  | claim :: claims, x => by
    have hone : (x.updating claim.1 (·.repaid config claim.2)).realizedTpProfit -
        (x.updating claim.1 (·.repaid config claim.2)).realizedStopLosses =
        x.realizedTpProfit - x.realizedStopLosses := by
      unfold HedgeLevel.updating
      split <;> rfl
    exact (settled_realized config claims _).trans hone

/-- **Every crossing is a posting.** -/
theorem Crosses.posting {tickIndex : ℕ} {e : CrossingEvent} (hs : Sound config spread s.levels)
    (h : Crosses config spread tickIndex s e s') : ∃ event, Posting s s' event := by
  -- A level that only changes its status has realised nothing and repaid nothing.
  have hstatus : ∀ {level : HedgeLevel}, level ∈ s.levels → ∀ f : HedgeLevel → HedgeLevel,
      (f level).realizedTpProfit = level.realizedTpProfit →
      (f level).realizedStopLosses = level.realizedStopLosses →
      (f level).recoveryDebt = level.recoveryDebt →
      realizedByLevels (s.levels.map (HedgeLevel.updating level.levelId f)) =
        realizedByLevels s.levels ∧
      Ledger.outstandingDebt (s.levels.map (HedgeLevel.updating level.levelId f)) =
        Ledger.outstandingDebt s.levels := by
    intro level hl f htp hstop hdebt
    unfold realizedByLevels Ledger.outstandingDebt
    rw [hs.ladder.sum_updating hl, hs.ladder.sum_updating hl, htp, hstop, hdebt]
    simp
  cases h with
  | opened hl ready armed above afforded =>
    obtain ⟨hrealized, hdebt⟩ := hstatus hl (HedgeLevel.opening config s.levels false) rfl rfl rfl
    refine ⟨_, rfl, ?_, ?_, ?_, ?_, ?_, ?_, ?_, rfl, rfl, rfl, rfl, rfl⟩ <;>
      simp [Ledger.recordEntry, Ledger.recordOpen, Ledger.append, LedgerEvent.profit,
        LedgerEvent.loss, LedgerEvent.repaid, hrealized, hdebt]
  | floored hl ready armed above refused policy =>
    obtain ⟨hrealized, hdebt⟩ := hstatus hl (HedgeLevel.opening config s.levels true) rfl rfl rfl
    refine ⟨_, rfl, ?_, ?_, ?_, ?_, ?_, ?_, ?_, rfl, rfl, rfl, rfl, rfl⟩ <;>
      simp [Ledger.recordFloorEntry, Ledger.recordOpen, Ledger.append, LedgerEvent.profit,
        LedgerEvent.loss, LedgerEvent.repaid, hrealized, hdebt]
  | lockedOut hl ready armed above refused policy =>
    obtain ⟨hrealized, hdebt⟩ := hstatus hl HedgeLevel.lockedOut rfl rfl rfl
    refine ⟨_, rfl, ?_, ?_, ?_, ?_, ?_, ?_, ?_, rfl, rfl, rfl, rfl, rfl⟩ <;>
      simp [Ledger.recordLocked, Ledger.append, LedgerEvent.profit, LedgerEvent.loss,
        LedgerEvent.repaid, hrealized, hdebt]
  | @paid level hl active =>
    have hsettled : ∀ x : HedgeLevel,
        (x.settled config level.activeRecoveryAllocations).realizedTpProfit -
        (x.settled config level.activeRecoveryAllocations).realizedStopLosses =
        x.realizedTpProfit - x.realizedStopLosses := HedgeLevel.settled_realized config _
    have htp := hs.tpProfit_eq hl active
    refine ⟨_, rfl, ?_, ?_, ?_, ?_, ?_, ?_, ?_, rfl, rfl, rfl, rfl, rfl⟩
    · simp [Ledger.recordTp, Ledger.append]
    · simp [Ledger.recordTp, Ledger.append, LedgerEvent.profit]
    · simp [Ledger.recordTp, Ledger.append, LedgerEvent.loss]
    · simp [LedgerEvent.profit, LedgerEvent.loss]
    · unfold realizedByLevels
      rw [hs.sum_paid hl _ _ hsettled]
      have := hsettled level
      simp only [HedgeLevel.paidOut]
      linarith
    · simp [hs.debt_paid hl active, LedgerEvent.loss, LedgerEvent.repaid]
    · intro _
      exact htp
  | @stoppedOut level hl active fixed =>
    refine ⟨_, rfl, ?_, ?_, ?_, ?_, ?_, ?_, ?_, rfl, rfl, rfl, rfl, rfl⟩
    · simp [Ledger.recordStop, Ledger.append, sub_eq_add_neg]
    · simp [Ledger.recordStop, Ledger.append, LedgerEvent.profit]
    · simp [Ledger.recordStop, Ledger.append, LedgerEvent.loss]
    · simp [LedgerEvent.profit, LedgerEvent.loss]
    · unfold realizedByLevels
      rw [hs.ladder.sum_updating hl]
      simp only [HedgeLevel.stopped]
      ring
    · unfold Ledger.outstandingDebt
      rw [hs.ladder.sum_updating hl]
      simp [HedgeLevel.stopped, LedgerEvent.loss, LedgerEvent.repaid]
    · simp
  | brokeEven hl active floor =>
    obtain ⟨hrealized, hdebt⟩ := hstatus hl HedgeLevel.brokenEven rfl rfl rfl
    refine ⟨_, rfl, ?_, ?_, ?_, ?_, ?_, ?_, ?_, rfl, rfl, rfl, rfl, rfl⟩ <;>
      simp [Ledger.recordBreakeven, Ledger.append, LedgerEvent.profit, LedgerEvent.loss,
        LedgerEvent.repaid, hrealized, hdebt]

/-! ## The invariant -/

theorem countOf_append (eventType : LedgerEventType) (events : List LedgerEvent)
    (event : LedgerEvent) :
    countOf eventType (events ++ [event]) =
      countOf eventType events + if event.eventType = eventType then 1 else 0 := by
  unfold countOf
  rw [List.countP_append, List.countP_singleton]
  simp

/-- **A posting keeps the books in step.** -/
theorem Conserved.append (h : Conserved s) {event : LedgerEvent} (hp : Posting s s' event) :
    Conserved s' where
  gross := by
    rw [hp.realized, hp.profits, hp.losses, hp.realizedPnl, h.gross]
    ring
  events := by
    rw [hp.realized, hp.events, List.map_append, List.sum_append, ← h.events]
    simp
  levels := by rw [hp.realized, hp.levels, h.levels]
  debt := by
    rw [hp.debt, hp.losses, hp.events, h.debt, List.filter_append, List.map_append, List.sum_append]
    unfold LedgerEvent.repaid
    by_cases htp : event.eventType = .tp
    · simp only [htp, if_true, decide_true, List.filter_cons_of_pos, List.filter_nil, List.map_cons,
        List.map_nil, List.sum_cons, List.sum_nil]
      ring
    · simp only [htp, if_false, decide_false, List.filter_nil, List.map_nil, List.sum_nil,
        Bool.false_eq_true, not_false_eq_true, List.filter_cons_of_neg]
      ring
  tp := by
    intro e he htp
    rw [hp.events] at he
    rcases List.mem_append.mp he with he | he
    · exact h.tp e he htp
    · rw [List.mem_singleton] at he
      subst he
      exact hp.tp htp
  entries := by
    rw [hp.entries, hp.events, List.countP_append, List.countP_singleton, h.entries]
    simp
  stops := by rw [hp.stops, hp.events, countOf_append, h.stops]
  tps := by rw [hp.tps, hp.events, countOf_append, h.tps]
  floorEntries := by rw [hp.floorEntries, hp.events, countOf_append, h.floorEntries]
  breakevenExits := by rw [hp.breakevenExits, hp.events, countOf_append, h.breakevenExits]

/-- Arming a level is none of the ledger's business. -/
theorem Conserved.closedAt (h : Conserved s) (q : ℚ) : Conserved (s.closedAt q) where
  gross := h.gross
  events := h.events
  levels := by
    rw [EngineState.closedAt_ledger, h.levels]
    unfold realizedByLevels
    rw [EngineState.closedAt_levels, List.map_map]
    refine congrArg List.sum (List.map_congr_left fun x _ => ?_)
    simp only [Function.comp_apply, HedgeLevel.armedAt]
    split <;> rfl
  debt := by
    rw [outstandingDebt_closedAt]
    exact h.debt
  tp := h.tp
  entries := h.entries
  stops := h.stops
  tps := h.tps
  floorEntries := h.floorEntries
  breakevenExits := h.breakevenExits

theorem Conserved.initial (config : StrategyConfig) (spread : CreditSpread) :
    Conserved (initialState config spread) where
  gross := by simp [initialState]
  events := by simp [initialState]
  levels := by
    refine (List.sum_eq_zero fun v hv => ?_).symm
    obtain ⟨x, hx, rfl⟩ := List.mem_map.mp hv
    obtain ⟨index, -, rfl⟩ := List.mem_map.mp hx
    simp [virtualLevel]
  debt := by
    rw [totals_initial.2.1]
    simp [initialState]
  tp := fun _ h => absurd h (by simp [initialState])
  entries := rfl
  stops := rfl
  tps := rfl
  floorEntries := rfl
  breakevenExits := rfl

theorem runInvariant_conserved :
    RunInvariant config spread (fun _ _ => True) Conserved where
  passes := by
    intro tickIndex s e s' hs _ hpass
    obtain ⟨event, hposting⟩ := hpass.crosses.posting hpass.sound
    exact hs.append hposting
  arms := fun _ q _ hs => hs.closedAt q

/-- **The ledger is conserved**, whatever the configuration, the recovery mode, the lock policy
    and the path: in every state a run goes through, and in the one it ends in. -/
theorem ledger_conserved (config : StrategyConfig) (spread : CreditSpread) (prices : List ℚ) :
    ∃ ticks final, HedgeEngine.run config spread prices = .ok (ticks, final) ∧ Conserved final ∧
      ∀ tick ∈ ticks, ∀ s ∈ tick.states, Conserved s := by
  cases prices with
  | nil => exact ⟨[], _, run_nil, .initial config spread, fun _ h => absurd h (by simp)⟩
  | cons p prices =>
    obtain ⟨ticks, final, hrun, -⟩ := run_spec config spread p prices
    obtain ⟨hfinal, hticks⟩ := run_invariant runInvariant_conserved hrun
      (fun _ _ _ _ => trivial) ((Conserved.initial config spread).closedAt p)
    exact ⟨_, final, hrun, hfinal, fun tick htick s hs => ((hticks tick htick).state hs).1⟩

end CreditHedge
