import CreditHedge.Core.Accounts

/-!
# Accounting runs

`run_with_accounting` interleaves the ticks of a run with the snapshots it takes. This file takes
the two apart again: the snapshots are a function of the ticks (`HedgeEngine.Tick.record`, folded
over them), so what is known of the states of runs carries over to the snapshots. Each snapshot is
the ledger's at one of the points of a tick (`mem_record`), and the last one is at the end of the
last tick (`snapshots_getLast?`).
-/

set_option autoImplicit false

namespace CreditHedge

open HedgeEngine (Tick)

variable {config : StrategyConfig} {spread : CreditSpread} {p q : ℚ} {s t : EngineState}
  {tickIndex : ℕ}

/-- What a tick does to the list of snapshots. -/
def HedgeEngine.Tick.record (spread : CreditSpread) (snapshots : List AccountingSnapshot)
    (tick : Tick) : List AccountingSnapshot :=
  HedgeEngine.closeTick spread tick.after tick.price tick.tickIndex
    (snapshots ++ tick.crossings.map (HedgeEngine.crossingSnapshot spread tick.tickIndex))

theorem accountFrom_eq {prices : List ℚ} {ticks : List Tick} {final : EngineState}
    (h : Runs config spread p s tickIndex prices ticks final) :
    ∀ snapshots, HedgeEngine.accountFrom config spread s tickIndex snapshots prices =
      .ok (final, ticks.foldl (Tick.record spread) snapshots) := by
  induction h with
  | done => exact fun _ => rfl
  | tick rest sweeps rested tail ih =>
    intro snapshots
    simp only [HedgeEngine.accountFrom, sweeps.step_eq rest, bind, Except.bind, ih]
    rfl

/-! ## The result -/

theorem le_minimumCombined_iff {c : ℚ} {first : AccountingSnapshot} :
    ∀ {rest : List AccountingSnapshot}, c ≤ minimumCombined first rest ↔
      ∀ snapshot ∈ first :: rest, c ≤ snapshot.combinedTerminalValuePnl := by
  have hfold : ∀ (rest : List AccountingSnapshot) (least : ℚ),
      c ≤ rest.foldl (fun least snapshot => min least snapshot.combinedTerminalValuePnl) least ↔
        c ≤ least ∧ ∀ snapshot ∈ rest, c ≤ snapshot.combinedTerminalValuePnl := by
    intro rest
    induction rest with
    | nil => simp
    | cons snapshot rest ih =>
      intro least
      rw [List.foldl_cons, ih, le_min_iff, and_assoc, List.forall_mem_cons]
  intro rest
  rw [List.forall_mem_cons]
  exact hfold rest first.combinedTerminalValuePnl

/-- What `build_result` puts together, as far as anything is proved about it. -/
structure Reports (spread : CreditSpread) (ledger : Ledger) (levels : List HedgeLevel)
    (snapshots : List AccountingSnapshot) (result : StrategyResult) : Prop where
  snapshots_eq : result.snapshots = snapshots
  events_eq : result.events = ledger.events
  levels_eq : result.levels = levels.map HedgeLevel.toSnapshot
  floorPass_iff : result.metrics.floorPass = true ↔
    ∀ snapshot ∈ snapshots, 0 ≤ snapshot.combinedTerminalValuePnl
  last : ∀ final, snapshots.getLast? = some final →
    result.metrics.combinedPnl = final.combinedTerminalValuePnl ∧
    result.metrics.outstandingRecoveryDebt = final.outstandingRecoveryDebt
  remaining : result.metrics.remainingPremiumStopBudget =
    spread.premiumCredit - ledger.grossStopLosses

theorem buildResult_spec (spread : CreditSpread) (ledger : Ledger) (levels : List HedgeLevel)
    (prices : List ℚ)
    {snapshots : List AccountingSnapshot} (hne : snapshots ≠ []) :
    ∃ result, ledger.buildResult spread levels prices snapshots = .ok result ∧
      Reports spread ledger levels snapshots result := by
  cases snapshots with
  | nil => exact absurd rfl hne
  | cons first rest =>
    refine ⟨_, rfl, rfl, rfl, rfl, ?_, ?_, rfl⟩
    · exact decide_eq_true_iff.trans le_minimumCombined_iff
    · intro final hfinal
      have hlast : rest.getLastD first = final := by
        rw [List.getLast?_cons] at hfinal
        rw [List.getLastD_eq_getLast?]
        exact Option.some.inj hfinal
      rw [← hlast]
      exact ⟨rfl, rfl⟩

/-! ## Where the snapshots are taken -/

theorem mem_closeTick {price : ℚ} {snapshots : List AccountingSnapshot}
    {snapshot : AccountingSnapshot}
    (h : snapshot ∈ HedgeEngine.closeTick spread s price tickIndex snapshots) :
    snapshot ∈ snapshots ∨
      snapshot = s.ledger.snapshot spread s.levels price tickIndex none := by
  unfold HedgeEngine.closeTick at h
  split at h
  · simpa using h
  · split at h
    · simpa using h
    · exact Or.inl h

theorem mem_record {tick : Tick} {snapshots : List AccountingSnapshot}
    {snapshot : AccountingSnapshot} (h : snapshot ∈ tick.record spread snapshots) :
    snapshot ∈ snapshots ∨ ∃ point ∈ tick.points, ∃ eventSequence,
      snapshot =
        point.2.ledger.snapshot spread point.2.levels point.1 tick.tickIndex eventSequence := by
  rcases mem_closeTick h with h | h
  · rcases List.mem_append.mp h with h | h
    · exact Or.inl h
    · obtain ⟨c, hc, rfl⟩ := List.mem_map.mp h
      refine Or.inr ⟨(c.1.price, c.2), List.mem_append_left _ ?_, _, rfl⟩
      exact List.mem_map_of_mem (f := fun c : CrossingEvent × EngineState => (c.1.price, c.2)) hc
  · exact Or.inr ⟨(tick.price, tick.after), List.mem_append_right _ (by simp), none, h⟩

theorem mem_foldl_record : ∀ (ticks : List Tick) {snapshots : List AccountingSnapshot}
    {snapshot : AccountingSnapshot}, snapshot ∈ ticks.foldl (Tick.record spread) snapshots →
    snapshot ∈ snapshots ∨ ∃ tick ∈ ticks, ∃ point ∈ tick.points, ∃ eventSequence,
      snapshot =
        point.2.ledger.snapshot spread point.2.levels point.1 tick.tickIndex eventSequence
  | [], _, _, h => Or.inl h
  | tick :: ticks, _, _, h => by
    rcases mem_foldl_record ticks h with h | ⟨tick', htick', h⟩
    · rcases mem_record h with h | h
      · exact Or.inl h
      · exact Or.inr ⟨tick, List.mem_cons_self .., h⟩
    · exact Or.inr ⟨tick', List.mem_cons_of_mem _ htick', h⟩

theorem record_ne_nil (tick : Tick) (snapshots : List AccountingSnapshot) :
    tick.record spread snapshots ≠ [] := by
  unfold HedgeEngine.Tick.record HedgeEngine.closeTick
  split
  · simp
  · rename_i last hlast
    split
    · simp
    · intro hnil
      rw [hnil] at hlast
      exact absurd hlast (by simp)

theorem foldl_record_ne_nil : ∀ (ticks : List Tick) {snapshots : List AccountingSnapshot},
    snapshots ≠ [] → ticks.foldl (Tick.record spread) snapshots ≠ []
  | [], _, h => h
  | tick :: ticks, snapshots, _ => foldl_record_ne_nil ticks (record_ne_nil tick snapshots)

/-! ## Accounting runs -/

/-- The snapshots of a run, as a function of its ticks. -/
def snapshotsOf (spread : CreditSpread) (ticks : List Tick) : List AccountingSnapshot :=
  ticks.foldl (Tick.record spread) []

/-- An accounting run over a nonempty path is the run over that path, and the result is built from
    the snapshots of its ticks. -/
theorem accountingRun_eq (config : StrategyConfig) (spread : CreditSpread) (p : ℚ)
    (prices : List ℚ) :
    ∃ ticks final,
      HedgeEngine.run config spread (p :: prices) = .ok (firstTick config spread p :: ticks, final) ∧
      Runs config spread p ((initialState config spread).closedAt p) 1 prices ticks final ∧
      HedgeEngine.accountingRun config spread (p :: prices) =
        final.ledger.buildResult spread final.levels (p :: prices)
          (snapshotsOf spread (firstTick config spread p :: ticks)) := by
  obtain ⟨ticks, final, hrun, hruns⟩ := run_spec config spread p prices
  refine ⟨ticks, final, hrun, hruns, ?_⟩
  have hfirst : HedgeEngine.step config spread (initialState config spread) p 0 =
      .ok ([], (initialState config spread).closedAt p) := rfl
  have hrest := accountFrom_eq hruns ((firstTick config spread p).record spread [])
  have haccount : HedgeEngine.accountFrom config spread (initialState config spread) 0 []
      (p :: prices) = .ok (final, snapshotsOf spread (firstTick config spread p :: ticks)) := by
    simp only [HedgeEngine.accountFrom, hfirst, bind, Except.bind]
    exact hrest
  have hfresh : ¬ ((initialState config spread).previousPrice ≠ none ∨
      (initialState config spread).ledger.events ≠ []) := by simp [initialState]
  simp only [HedgeEngine.accountingRun, HedgeEngine.runWithAccounting, init_eq, bind, Except.bind]
  rw [if_neg hfresh, if_neg (by simp), haccount]

/-- **Every accounting run over a nonempty path succeeds**, and it is the run over that path
    together with the snapshots of its ticks. -/
theorem accountingRun_spec (config : StrategyConfig) (spread : CreditSpread) (p : ℚ)
    (prices : List ℚ) :
    ∃ ticks final result,
      HedgeEngine.run config spread (p :: prices) = .ok (firstTick config spread p :: ticks, final) ∧
      Runs config spread p ((initialState config spread).closedAt p) 1 prices ticks final ∧
      HedgeEngine.accountingRun config spread (p :: prices) = .ok result ∧
      Reports spread final.ledger final.levels
        (snapshotsOf spread (firstTick config spread p :: ticks)) result := by
  obtain ⟨ticks, final, hrun, hruns, hresult⟩ := accountingRun_eq config spread p prices
  have hne : snapshotsOf spread (firstTick config spread p :: ticks) ≠ [] :=
    foldl_record_ne_nil ticks (record_ne_nil _ [])
  obtain ⟨result, hbuild, hreports⟩ := buildResult_spec spread final.ledger
    final.levels (p :: prices) hne
  exact ⟨ticks, final, result, hrun, hruns, hresult.trans hbuild, hreports⟩

/-- Every snapshot of an accounting run is the ledger's at a point of a tick. -/
theorem mem_snapshotsOf {ticks : List Tick} {snapshot : AccountingSnapshot}
    (h : snapshot ∈ snapshotsOf spread ticks) :
    ∃ tick ∈ ticks, ∃ point ∈ tick.points, ∃ eventSequence,
      snapshot =
        point.2.ledger.snapshot spread point.2.levels point.1 tick.tickIndex eventSequence := by
  rcases mem_foldl_record ticks h with h | h
  · exact absurd h (by simp)
  · exact h

/-! ## The last snapshot -/

/-- The snapshot shows the engine `s` at `price`. -/
structure Shows (spread : CreditSpread) (price : ℚ) (s : EngineState)
    (snapshot : AccountingSnapshot) : Prop where
  combined : snapshot.combinedTerminalValuePnl = s.ledger.combinedPnl spread s.levels price
  realized : snapshot.realizedHedgePnl = s.ledger.realizedHedgePnl
  debt : snapshot.outstandingRecoveryDebt = Ledger.outstandingDebt s.levels

theorem openHedgePnl_closedAt {price : ℚ} :
    Ledger.openHedgePnl (t.closedAt q).levels price = Ledger.openHedgePnl t.levels price := by
  unfold Ledger.openHedgePnl
  rw [EngineState.closedAt_levels, List.filter_map, List.map_map]
  refine congrArg List.sum ?_
  have hfilter :
      t.levels.filter ((fun x => decide (x.state = .active)) ∘ (HedgeLevel.armedAt · q)) =
      t.levels.filter (·.state = .active) :=
    List.filter_congr fun x _ => by simp
  rw [hfilter]
  refine List.map_congr_left fun x _ => ?_
  simp only [Function.comp_apply, HedgeLevel.armedAt_activeQuantity,
    (SameZone.armedAt q).entryPrice]

/-- When a tick is over, the last snapshot shows the engine at the tick's price, whether it was
    taken by the last crossing or by the tick itself. -/
theorem shows_record {trace : List (CrossingEvent × EngineState)}
    (hsweeps : Sweeps config spread tickIndex p q s trace t) {snapshots : List AccountingSnapshot}
    (hindex : ∀ snapshot ∈ snapshots, snapshot.tickIndex < tickIndex) :
    ∃ snapshot, (Tick.record spread snapshots
        { before := s, price := q, tickIndex, crossings := trace, after := t.closedAt q }).getLast?
          = some snapshot ∧ Shows spread q (t.closedAt q) snapshot := by
  unfold HedgeEngine.Tick.record HedgeEngine.closeTick
  dsimp only
  split
  · exact ⟨_, List.getLast?_concat, rfl, rfl, rfl⟩
  · rename_i last hlast
    split
    · exact ⟨_, List.getLast?_concat, rfl, rfl, rfl⟩
    · rename_i hsame
      push Not at hsame
      refine ⟨last, hlast, ?_⟩
      rw [List.getLast?_append] at hlast
      cases htrace : (trace.map (HedgeEngine.crossingSnapshot spread tickIndex)).getLast? with
      | none =>
        -- An earlier tick's snapshot has a smaller index.
        rw [htrace, Option.none_or] at hlast
        exact absurd hsame.1 (hindex last (List.mem_of_getLast? hlast)).ne
      | some snapshot =>
        rw [htrace, Option.some_or] at hlast
        obtain rfl := Option.some.inj hlast
        rw [List.getLast?_map, Option.map_eq_some_iff] at htrace
        obtain ⟨c, hc, rfl⟩ := htrace
        have hprice : c.1.price = q := hsame.2
        have hend : c.2 = t := by
          cases hsweeps with
          | still => exact absurd hc (by simp)
          | drained _ hd => exact hd.getLast?_eq hc
        unfold HedgeEngine.crossingSnapshot
        rw [hprice, hend]
        refine ⟨?_, rfl, outstandingDebt_closedAt.symm⟩
        simp only [Ledger.snapshot, Ledger.combinedPnl, openHedgePnl_closedAt,
          EngineState.closedAt_ledger]

theorem tickIndex_le_of_mem_record (tick : Tick) {snapshots : List AccountingSnapshot}
    (hindex : ∀ snapshot ∈ snapshots, snapshot.tickIndex < tick.tickIndex) :
    ∀ snapshot ∈ tick.record spread snapshots, snapshot.tickIndex < tick.tickIndex + 1 := by
  intro snapshot h
  rcases mem_record h with h | ⟨point, -, seq, rfl⟩
  · exact (hindex snapshot h).trans (Nat.lt_succ_self _)
  · exact Nat.lt_succ_self _

theorem Runs.shows {prices : List ℚ} {ticks : List Tick} {final : EngineState}
    (h : Runs config spread p s tickIndex prices ticks final) :
    ∀ {snapshots : List AccountingSnapshot},
      (∀ snapshot ∈ snapshots, snapshot.tickIndex < tickIndex) →
      (∃ snapshot, snapshots.getLast? = some snapshot ∧ Shows spread p s snapshot) →
      ∃ snapshot, (ticks.foldl (Tick.record spread) snapshots).getLast? = some snapshot ∧
        Shows spread (prices.getLastD p) final snapshot := by
  induction h with
  | done => exact fun _ h => h
  | tick rest sweeps rested tail ih =>
    intro snapshots hindex _
    rw [List.getLastD_cons]
    exact ih (tickIndex_le_of_mem_record (HedgeEngine.Tick.mk _ _ _ _ _) hindex)
      (shows_record sweeps hindex)

/-- The last snapshot of an accounting run shows the final engine at the last price. -/
theorem snapshotsOf_shows {prices : List ℚ} {ticks : List Tick} {final : EngineState}
    (h : Runs config spread p ((initialState config spread).closedAt p) 1 prices ticks final) :
    ∃ snapshot, (snapshotsOf spread (firstTick config spread p :: ticks)).getLast? =
        some snapshot ∧ Shows spread (prices.getLastD p) final snapshot := by
  refine h.shows ?_ ⟨_, rfl, rfl, rfl, rfl⟩
  exact tickIndex_le_of_mem_record (firstTick config spread p) (by simp)

end CreditHedge
