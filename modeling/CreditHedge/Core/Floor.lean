import CreditHedge.Core.Frontier

/-!
# The floor and the full hedge

The two guarantees of a path that starts at or above the short strike.

*The floor.* As long as no level has been locked out, no accounting snapshot shows a loss. Under the
breakeven-floor policy no level ever is, so the whole run passes. Under the unhedged policy the
snapshot of the lock itself still passes, because locking moves no money; after it nothing is
promised.

*The full hedge.* With the full recovery mode, a path that ends at or below the long strike and
locks nothing out has every level paid and every debt repaid, and the combined P&L is the premium.
-/

set_option autoImplicit false

namespace CreditHedge

open HedgeEngine (Tick)

variable {config : StrategyConfig} {spread : CreditSpread} {p q : ℚ} {s t : EngineState}
  {e : CrossingEvent} {tickIndex : ℕ}

/-! ## Locks and the events that record them -/

/-- Every crossing records one event, numbered by its position. -/
theorem Crosses.events_eq (h : Crosses config spread tickIndex s e t) :
    ∃ event, t.ledger.events = s.ledger.events ++ [event] ∧
      event.sequence = t.ledger.events.length := by
  cases h <;> exact ⟨_, rfl, by simp [Ledger.recordEntry, Ledger.recordFloorEntry,
    Ledger.recordOpen, Ledger.recordLocked, Ledger.recordTp, Ledger.recordStop,
    Ledger.recordBreakeven, Ledger.append]⟩

/-- No level is locked. -/
def Unlocked (levels : List HedgeLevel) : Prop := ∀ x ∈ levels, x.state ≠ .locked

/-- From an unlocked state a crossing leads to an unlocked state, unless it is the lock itself: then
    the policy is the unhedged one, the lock is recorded, and no money moves. -/
theorem Crosses.unlocked_or (hs : Sound config spread s.levels)
    (h : Crosses config spread tickIndex s e t) (hun : Unlocked s.levels) :
    Unlocked t.levels ∨
      (config.lockPolicy = .unhedged ∧
        (∃ event ∈ t.ledger.events, event.eventType = .locked) ∧
        ∀ price, t.ledger.combinedPnl spread t.levels price =
          s.ledger.combinedPnl spread s.levels price) := by
  have hone : ∀ {level : HedgeLevel}, level ∈ s.levels → ∀ {f : HedgeLevel → HedgeLevel},
      (f level).state ≠ .locked →
      Unlocked (s.levels.map (HedgeLevel.updating level.levelId f)) := by
    intro level hl f hf
    refine List.forall_mem_map.mpr fun x hx => ?_
    rcases hs.ladder.updating_cases hl hx f with ⟨-, h⟩ | ⟨-, h⟩
    · rw [h]
      exact hf
    · rw [h]
      exact hun x hx
  cases h with
  | opened hl => exact Or.inl (hone hl (by simp [HedgeLevel.opening, HedgeLevel.activated]))
  | floored hl => exact Or.inl (hone hl (by simp [HedgeLevel.opening, HedgeLevel.activated]))
  | @lockedOut level hl ready armed above refused policy =>
    refine Or.inr ⟨policy, ⟨_, List.mem_append_right _ (List.mem_singleton.mpr rfl), rfl⟩,
      fun price => ?_⟩
    unfold Ledger.combinedPnl
    rw [openHedgePnl_eq, openHedgePnl_eq]
    dsimp only
    rw [hs.ladder.sum_updating hl]
    simp [Ledger.recordLocked, Ledger.append, HedgeLevel.lockedOut, ready]
  | @paid level hl active =>
    refine Or.inl (List.forall_mem_map.mpr fun x hx => ?_)
    have hzone := HedgeLevel.sameZone_settled config level.activeRecoveryAllocations x
    by_cases hid : x.levelId = level.levelId
    · rw [HedgeLevel.updating_of_eq (hzone.levelId.trans hid)]
      simp [HedgeLevel.paidOut]
    · rw [HedgeLevel.updating_of_ne (by rw [hzone.levelId]; exact hid),
        (SameStatus.settled config _ x).state]
      exact hun x hx
  | stoppedOut hl => exact Or.inl (hone hl (by simp [HedgeLevel.stopped]))
  | brokeEven hl => exact Or.inl (hone hl (by simp [HedgeLevel.brokenEven]))

/-- A locked level has its event. -/
def LockLogged (s : EngineState) : Prop :=
  (∀ event ∈ s.ledger.events, event.eventType ≠ .locked) → Unlocked s.levels

theorem LockLogged.passes (h : LockLogged s) (hp : Passes config spread tickIndex s e t) :
    LockLogged t := by
  intro hnone
  obtain ⟨event, hevents, -⟩ := hp.crosses.events_eq
  have hun : Unlocked s.levels := h fun event' hmem =>
    hnone event' (by rw [hevents]; exact List.mem_append_left _ hmem)
  rcases hp.crosses.unlocked_or hp.sound hun with hun' | ⟨-, ⟨event', hmem, htype⟩, -⟩
  · exact hun'
  · exact absurd htype (hnone event' hmem)

theorem Unlocked.closedAt (h : Unlocked s.levels) (q : ℚ) : Unlocked (s.closedAt q).levels :=
  List.forall_mem_map.mpr fun x hx => by
    rw [HedgeLevel.armedAt_state]
    exact h x hx

theorem LockLogged.closedAt (h : LockLogged s) (q : ℚ) : LockLogged (s.closedAt q) :=
  fun hnone => (h hnone).closedAt q

theorem Unlocked.started :
    Unlocked ((initialState config spread).closedAt p).levels := by
  have hun : Unlocked (initialState config spread).levels :=
    List.forall_mem_map.mpr fun index _ => by simp [virtualLevel]
  exact hun.closedAt p

theorem events_prefix_of_passes (hp : Passes config spread tickIndex s e t) :
    s.ledger.events <+: t.ledger.events := by
  obtain ⟨event, hevents, -⟩ := hp.crosses.events_eq
  exact ⟨[event], hevents.symm⟩

theorem events_prefix_of_drains {pick : EngineState → Option CrossingEvent}
    {trace : List (CrossingEvent × EngineState)}
    (hd : Drains pick (Passes config spread tickIndex) s trace t) :
    s.ledger.events <+: t.ledger.events :=
  (hd.pairwise (R := fun s t => s.ledger.events <+: t.ledger.events) (fun _ => List.prefix_rfl)
    (fun _ _ _ => List.IsPrefix.trans) fun _ _ _ => events_prefix_of_passes).1

/-- The ledger of a run only grows. -/
theorem Runs.events_prefix {prices : List ℚ} {ticks : List Tick} {final : EngineState}
    (h : Runs config spread p s tickIndex prices ticks final) :
    s.ledger.events <+: final.ledger.events := by
  induction h with
  | done => exact List.prefix_rfl
  | tick _ sweeps _ _ ih =>
    cases sweeps with
    | still => exact ih
    | drained _ hd => exact (events_prefix_of_drains hd).trans ih

/-! ## The floor -/

/-- The snapshot a crossing takes shows no loss if no level was locked before it. -/
theorem OnFrontier.combinedPnl_after (h : OnFrontier spread s)
    (hp : Passes config spread tickIndex s e t) (hun : Unlocked s.levels) :
    0 ≤ t.ledger.combinedPnl spread t.levels e.price := by
  rcases hp.crosses.unlocked_or hp.sound hun with hun' | ⟨-, -, hsame⟩
  · exact (h.passes hp).combinedPnl_nonneg hp.sound_after hun' hp.positioned
  · rw [hsame]
    exact h.combinedPnl_nonneg hp.sound hun hp.positioned_before

/-- The snapshot was taken by the crossing that recorded a LOCKED event. -/
def TakenAtLock (events : List LedgerEvent) (snapshot : AccountingSnapshot) : Prop :=
  ∃ event ∈ events, snapshot.eventSequence = some event.sequence ∧ event.eventType = .locked

/-- No snapshot shows a loss that is taken no later than the first LOCKED event. -/
def NoLossUntilLocked (events : List LedgerEvent) (snapshots : List AccountingSnapshot) : Prop :=
  ∀ before snapshot after, snapshots = before ++ snapshot :: after →
    (∀ earlier ∈ before, ¬ TakenAtLock events earlier) → 0 ≤ snapshot.combinedTerminalValuePnl

theorem NoLossUntilLocked.append {events : List LedgerEvent}
    {snapshots : List AccountingSnapshot} {last : AccountingSnapshot}
    (h : NoLossUntilLocked events snapshots)
    (hlast : (∀ earlier ∈ snapshots, ¬ TakenAtLock events earlier) →
      0 ≤ last.combinedTerminalValuePnl) :
    NoLossUntilLocked events (snapshots ++ [last]) := by
  intro before snapshot after heq hnone
  rcases List.eq_nil_or_concat after with rfl | ⟨after', last', rfl⟩
  · obtain ⟨rfl, hsnapshot⟩ := List.append_inj' heq rfl
    obtain rfl := List.singleton_inj.mp hsnapshot
    exact hlast hnone
  · rw [List.concat_eq_append, ← List.cons_append, ← List.append_assoc] at heq
    obtain ⟨rfl, -⟩ := List.append_inj' heq rfl
    exact h before snapshot after' rfl hnone

/-- An accounting run in progress: the engine is `s`, the snapshots so far are `snapshots`, and the
    events of the whole run will be `events`. -/
structure Watched (spread : CreditSpread) (events : List LedgerEvent) (s : EngineState)
    (snapshots : List AccountingSnapshot) : Prop where
  onFrontier : OnFrontier spread s
  logged : LockLogged s
  recorded : ∀ event ∈ s.ledger.events,
    ∃ snapshot ∈ snapshots, snapshot.eventSequence = some event.sequence
  guarded : NoLossUntilLocked events snapshots

namespace Watched

variable {events : List LedgerEvent} {snapshots : List AccountingSnapshot}

/-- With no lock among the snapshots so far, no level is locked. -/
theorem unlocked (h : Watched spread events s snapshots) (hpre : s.ledger.events <+: events)
    (hnone : ∀ earlier ∈ snapshots, ¬ TakenAtLock events earlier) : Unlocked s.levels := by
  refine h.logged fun event hmem htype => ?_
  obtain ⟨snapshot, hsnapshot, hseq⟩ := h.recorded event hmem
  exact hnone snapshot hsnapshot ⟨event, hpre.subset hmem, hseq, htype⟩

theorem passes (h : Watched spread events s snapshots)
    (hp : Passes config spread tickIndex s e t) (hpre : s.ledger.events <+: events) :
    Watched spread events t
      (snapshots ++ [HedgeEngine.crossingSnapshot spread tickIndex (e, t)]) := by
  obtain ⟨event, hevents, hseq⟩ := hp.crosses.events_eq
  refine ⟨h.onFrontier.passes hp, h.logged.passes hp, fun event' hmem => ?_, h.guarded.append
    fun hnone => h.onFrontier.combinedPnl_after hp (h.unlocked hpre hnone)⟩
  rw [hevents] at hmem
  rcases List.mem_append.mp hmem with hmem | hmem
  · obtain ⟨snapshot, hsnapshot, heq⟩ := h.recorded event' hmem
    exact ⟨snapshot, List.mem_append_left _ hsnapshot, heq⟩
  · rw [List.mem_singleton] at hmem
    subst hmem
    exact ⟨_, List.mem_append_right _ (List.mem_singleton.mpr rfl), congrArg some hseq.symm⟩

theorem closeTick (h : Watched spread events t snapshots)
    (hrest : AtRest config spread q (t.closedAt q)) (hpre : t.ledger.events <+: events) :
    Watched spread events (t.closedAt q)
      (HedgeEngine.closeTick spread (t.closedAt q) q tickIndex snapshots) := by
  have hclosed : Watched spread events (t.closedAt q) snapshots :=
    ⟨h.onFrontier.closedAt q, h.logged.closedAt q, h.recorded, h.guarded⟩
  have hnext : Watched spread events (t.closedAt q) (snapshots ++
      [(t.closedAt q).ledger.snapshot spread (t.closedAt q).levels q tickIndex none]) := by
    refine ⟨hclosed.onFrontier, hclosed.logged, fun event hmem => ?_, h.guarded.append fun hnone =>
      hclosed.onFrontier.combinedPnl_nonneg hrest.sound (hclosed.unlocked hpre hnone)
        fun x hx => (hrest.settled x hx).positioned⟩
    obtain ⟨snapshot, hsnapshot, heq⟩ := h.recorded event hmem
    exact ⟨snapshot, List.mem_append_left _ hsnapshot, heq⟩
  unfold HedgeEngine.closeTick
  split
  · exact hnext
  · split
    · exact hnext
    · exact hclosed

theorem drains {pick : EngineState → Option CrossingEvent}
    {trace : List (CrossingEvent × EngineState)}
    (hd : Drains pick (Passes config spread tickIndex) s trace t)
    (hpre : t.ledger.events <+: events) :
    ∀ {snapshots : List AccountingSnapshot}, Watched spread events s snapshots →
      Watched spread events t
        (snapshots ++ trace.map (HedgeEngine.crossingSnapshot spread tickIndex)) := by
  induction hd with
  | done =>
    intro snapshots h
    rw [List.map_nil, List.append_nil]
    exact h
  | step _ he rest ih =>
    intro snapshots h
    have hlater := (events_prefix_of_drains rest).trans hpre
    rw [List.map_cons, ← List.singleton_append, ← List.append_assoc]
    exact ih hpre (h.passes he ((events_prefix_of_passes he).trans hlater))

theorem runs {prices : List ℚ} {ticks : List Tick} {final : EngineState}
    (hruns : Runs config spread p s tickIndex prices ticks final)
    (hfinal : final.ledger.events = events) :
    ∀ {snapshots : List AccountingSnapshot}, Watched spread events s snapshots →
      Watched spread events final (ticks.foldl (Tick.record spread) snapshots) := by
  induction hruns with
  | done => exact fun h => h
  | tick rest sweeps rested tail ih =>
    intro snapshots h
    have hpre := hfinal ▸ tail.events_prefix
    refine ih hfinal (closeTick ?_ rested hpre)
    cases sweeps with
    | still =>
      rw [List.map_nil, List.append_nil]
      exact h
    | drained _ hd => exact drains hd hpre h

end Watched

theorem Watched.started (h : spread.shortPutStrike ≤ p) (events : List LedgerEvent) :
    Watched spread events ((initialState config spread).closedAt p)
      ((firstTick config spread p).record spread []) := by
  have hrest := atRest_started config spread p
  have hstart := OnFrontier.started config h
  have hempty : NoLossUntilLocked events [] := fun before _ _ heq => absurd heq (by simp)
  refine ⟨hstart, fun _ => Unlocked.started, fun event hmem => absurd hmem ?_,
    hempty.append fun _ => ?_⟩
  · exact List.not_mem_nil
  · exact hstart.combinedPnl_nonneg hrest.sound Unlocked.started
      fun x hx => (hrest.settled x hx).positioned

/-- The breakeven-floor policy never locks a level. -/
theorem runInvariant_unlocked (hpolicy : config.lockPolicy = .breakevenFloor) :
    RunInvariant config spread (fun _ _ => True)
      (fun s => OnFrontier spread s ∧ Unlocked s.levels) where
  passes := by
    rintro _ s e t ⟨hf, hun⟩ - hp
    rcases hp.crosses.unlocked_or hp.sound hun with hun' | ⟨hunhedged, -⟩
    · exact ⟨hf.passes hp, hun'⟩
    · rw [hpolicy] at hunhedged
      exact absurd hunhedged (by simp)
  arms := fun _ q _ h => ⟨h.1.closedAt q, h.2.closedAt q⟩

/-- **The floor guarantee.** On every path that starts at or above the short strike, no snapshot
    taken up to the first LOCKED event shows a loss; under the breakeven-floor policy no snapshot
    does. -/
theorem floor_guarantee (config : StrategyConfig) (spread : CreditSpread) {p : ℚ}
    (prices : List ℚ) (hp : spread.shortPutStrike ≤ p) :
    ∃ result, HedgeEngine.accountingRun config spread (p :: prices) = .ok result ∧
      (config.lockPolicy = .breakevenFloor →
        (∀ snapshot ∈ result.snapshots, 0 ≤ snapshot.combinedTerminalValuePnl) ∧
        result.metrics.floorPass = true) ∧
      NoLossUntilLocked result.events result.snapshots := by
  obtain ⟨ticks, final, result, hrun, hruns, hresult, hreports⟩ :=
    accountingRun_spec config spread p prices
  refine ⟨result, hresult, fun hpolicy => ?_, ?_⟩
  · obtain ⟨-, hticks⟩ := run_invariant (runInvariant_unlocked hpolicy) hrun
      (fun _ _ _ _ => trivial) ⟨OnFrontier.started config hp, Unlocked.started⟩
    have hall : ∀ snapshot ∈ result.snapshots, 0 ≤ snapshot.combinedTerminalValuePnl := by
      intro snapshot hsnapshot
      rw [hreports.snapshots_eq] at hsnapshot
      obtain ⟨tick, htick, point, hpoint, seq, rfl⟩ := mem_snapshotsOf hsnapshot
      obtain ⟨⟨hf, hun⟩, hsound, hpos⟩ := (hticks tick htick).point hpoint
      exact hf.combinedPnl_nonneg hsound hun hpos
    exact ⟨hall, hreports.floorPass_iff.mpr (hreports.snapshots_eq ▸ hall)⟩
  · rw [hreports.snapshots_eq, hreports.events_eq]
    exact (Watched.runs hruns rfl (Watched.started hp _)).guarded

/-- A path from the short strike down through the first zone and back. -/
theorem floor_guarantee_downAndUp :
    ∃ result, HedgeEngine.accountingRun (tenLevels .fullNextTp .breakevenFloor) narrowSpread
        [1000, 1997 / 2, 1002] = .ok result ∧
      ∀ snapshot ∈ result.snapshots, 0 ≤ snapshot.combinedTerminalValuePnl := by
  obtain ⟨result, hresult, hfloor, -⟩ := floor_guarantee (tenLevels .fullNextTp .breakevenFloor)
    narrowSpread (p := 1000) [1997 / 2, 1002] (by decide +kernel)
  exact ⟨result, hresult, (hfloor rfl).1⟩

/-! ## The full hedge -/

/-- In the full recovery mode a paid level owes nothing. -/
def PaidUp (levels : List HedgeLevel) : Prop := ∀ x ∈ levels, x.state = .paid → x.recoveryDebt = 0

theorem PaidUp.passes (hm : config.recoveryMode = .fullNextTp) (h : PaidUp s.levels)
    (hp : Passes config spread tickIndex s e t) : PaidUp t.levels := by
  have hs := hp.sound
  have hone : ∀ {level : HedgeLevel}, level ∈ s.levels → ∀ {f : HedgeLevel → HedgeLevel},
      (f level).state ≠ .paid →
      PaidUp (s.levels.map (HedgeLevel.updating level.levelId f)) := by
    intro level hl f hf
    refine List.forall_mem_map.mpr fun x hx hpaid => ?_
    rcases hs.ladder.updating_cases hl hx f with ⟨-, heq⟩ | ⟨-, heq⟩
    · rw [heq] at hpaid
      exact absurd hpaid hf
    · rw [heq] at hpaid ⊢
      exact h x hx hpaid
  cases hp.crosses with
  | opened hl => exact hone hl (by simp [HedgeLevel.opening, HedgeLevel.activated])
  | floored hl => exact hone hl (by simp [HedgeLevel.opening, HedgeLevel.activated])
  | lockedOut hl => exact hone hl (by simp [HedgeLevel.lockedOut])
  | @paid level hl active =>
    refine List.forall_mem_map.mpr fun x hx hpaid => ?_
    rcases hs.claims level hl active with ⟨hnil, hzero⟩ | ⟨source, hc⟩
    · rw [hnil, HedgeLevel.settled_nil] at hpaid ⊢
      rcases hs.ladder.updating_cases hl hx (·.paidOut level.tpProfit) with ⟨rfl, heq⟩ | ⟨-, heq⟩
      · rw [heq]
        exact hzero hm
      · rw [heq] at hpaid ⊢
        exact h x hx hpaid
    · -- The one source is the level itself, and its whole debt is repaid.
      obtain rfl := hs.ladder.eq_of_levelId_eq hc.source_mem hl (hc.own hm)
      rw [hc.allocations, HedgeLevel.settled_singleton] at hpaid ⊢
      by_cases hid : x.levelId = source.levelId
      · obtain rfl := hs.ladder.eq_of_levelId_eq hx hl hid
        rw [HedgeLevel.updating_self,
          HedgeLevel.updating_of_eq (SameZone.repaid config _).levelId]
        simp [HedgeLevel.paidOut, HedgeLevel.repaid, recoveryShare, hm]
      · rw [HedgeLevel.updating_of_ne hid, HedgeLevel.updating_of_ne hid] at hpaid ⊢
        exact h x hx hpaid
  | stoppedOut hl => exact hone hl (by simp [HedgeLevel.stopped])
  | brokeEven hl => exact hone hl (by simp [HedgeLevel.brokenEven])

theorem runInvariant_fullHedge (hm : config.recoveryMode = .fullNextTp) :
    RunInvariant config spread (fun _ _ => True)
      (fun s => OnFrontier spread s ∧ LockLogged s ∧ PaidUp s.levels) where
  passes := fun _ _ _ _ h _ hp => ⟨h.1.passes hp, h.2.1.passes hp, h.2.2.passes hm hp⟩
  arms := by
    rintro s q - ⟨hf, hlog, hpaid⟩
    refine ⟨hf.closedAt q, hlog.closedAt q, List.forall_mem_map.mpr fun x hx h => ?_⟩
    rw [HedgeLevel.armedAt_recoveryDebt]
    exact hpaid x hx (by rwa [HedgeLevel.armedAt_state] at h)

/-- At rest at or below the long strike, with every ready level armed and none locked, every level
    is paid: a ready one would be waiting for a price above its entry, an open one for its TP. -/
theorem AtRest.all_paid (h : AtRest config spread p s) (hf : Frontier s.levels)
    (hun : Unlocked s.levels) (hp : p ≤ spread.longPutStrike) :
    ∀ x ∈ s.levels, x.state = .paid := by
  intro x hx
  have htp := h.sound.ladder.long_le_tpPrice hx
  have hentry := h.sound.ladder.tpPrice_lt_entryPrice hx
  cases hstate : x.state with
  | paid => rfl
  | locked => exact absurd hstate (hun x hx)
  | ready =>
    have := ((h.settled x hx).armed_iff hstate).mp (hf.armed x hx hstate)
    linarith
  | active =>
    have := (h.settled x hx).tp_lt hstate
    linarith

/-- **The full hedge identity.** -/
theorem full_hedge (config : StrategyConfig) (spread : CreditSpread) {p : ℚ} (prices : List ℚ)
    (hm : config.recoveryMode = .fullNextTp) (hfirst : spread.shortPutStrike ≤ p)
    (hlast : prices.getLastD p ≤ spread.longPutStrike) :
    ∃ result, HedgeEngine.accountingRun config spread (p :: prices) = .ok result ∧
      ((∀ event ∈ result.events, event.eventType ≠ .locked) →
        (∀ level ∈ result.levels, level.state = .paid ∧ level.recoveryDebt = 0) ∧
        result.metrics.outstandingRecoveryDebt = 0 ∧
        (∀ last, result.snapshots.getLast? = some last →
          last.realizedHedgePnl = (result.levels.map LevelSnapshot.optionBudget).sum) ∧
        (result.levels.map LevelSnapshot.optionBudget).sum =
          spread.optionQuantity * (spread.shortPutStrike - spread.longPutStrike) ∧
        result.metrics.combinedPnl = spread.premiumCredit) := by
  obtain ⟨ticks, final, result, hrun, hruns, hresult, hreports⟩ :=
    accountingRun_spec config spread p prices
  refine ⟨result, hresult, fun hnolock => ?_⟩
  obtain ⟨⟨hf, hlog, hpaid⟩, -⟩ := run_invariant (runInvariant_fullHedge hm) hrun
    (fun _ _ _ _ => trivial) ⟨OnFrontier.started config hfirst, fun _ => Unlocked.started,
      List.forall_mem_map.mpr fun x hx _ => by
        obtain ⟨index, -, rfl⟩ := List.mem_map.mp hx
        rw [HedgeLevel.armedAt_recoveryDebt]
        rfl⟩
  have hrest := hruns.atRest (atRest_started config spread p)
  have hun : Unlocked final.levels := hlog (hreports.events_eq ▸ hnolock)
  have hall := hrest.all_paid hf.frontier hun hlast
  have hdebt : Ledger.outstandingDebt final.levels = 0 :=
    List.sum_eq_zero fun d hd => by
      obtain ⟨x, hx, rfl⟩ := List.mem_map.mp hd
      exact hpaid x hx (hall x hx)
  have hcollected := hrest.sound.collected_all hall
  have hbudget : (result.levels.map LevelSnapshot.optionBudget).sum = collected final.levels := by
    rw [hreports.levels_eq, List.map_map]
    exact congrArg List.sum (List.map_congr_left fun x hx => (if_pos (hall x hx)).symm)
  have hrealized := hf.balanced.realized_eq
  rw [hdebt, sub_zero] at hrealized
  obtain ⟨snapshot, hsnapshot, hshows⟩ := snapshotsOf_shows hruns
  obtain ⟨hcombined, hmetric⟩ := hreports.last snapshot hsnapshot
  refine ⟨?_, hmetric.trans (hshows.debt.trans hdebt), ?_, hbudget.trans hcollected, ?_⟩
  · rw [hreports.levels_eq]
    exact List.forall_mem_map.mpr fun x hx => ⟨hall x hx, hpaid x hx (hall x hx)⟩
  · intro last hgetLast
    rw [hreports.snapshots_eq, hsnapshot] at hgetLast
    obtain rfl := Option.some.inj hgetLast
    rw [hshows.realized, hrealized, hbudget]
  · rw [hcombined, hshows.combined]
    unfold Ledger.combinedPnl
    rw [spread.expiryPnl_of_le_long hlast, hrealized, hcollected,
      openHedgePnl_eq_zero fun x hx => by simp [hall x hx]]
    ring

/-- Down through the whole ladder in one tick, with a stop and a re-entry before. -/
theorem full_hedge_oneGap :
    ∃ result, HedgeEngine.accountingRun (tenLevels .fullNextTp .breakevenFloor) narrowSpread
        [1000, 1999 / 2, 1002, 980] = .ok result ∧
      result.metrics.combinedPnl = 2 := by
  obtain ⟨result, hresult, hfull⟩ := full_hedge (tenLevels .fullNextTp .breakevenFloor)
    narrowSpread (p := 1000) [1999 / 2, 1002, 980] rfl (by decide +kernel) (by decide +kernel)
  refine ⟨result, hresult, (hfull ?_).2.2.2.2⟩
  have hnolock : (match HedgeEngine.accountingRun (tenLevels .fullNextTp .breakevenFloor)
        narrowSpread [1000, 1999 / 2, 1002, 980] with
      | .ok result => decide (∀ event ∈ result.events, event.eventType ≠ .locked)
      | .error _ => false) = true := by decide +kernel
  rw [hresult] at hnolock
  exact of_decide_eq_true hnolock

end CreditHedge
