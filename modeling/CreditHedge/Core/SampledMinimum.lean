import CreditHedge.Core.Accounting
import CreditHedge.Core.Frontier
import Mathlib.Analysis.Convex.Jensen

/-!
# The sampled minimum is the minimum

`run_with_accounting` looks at the combined P&L after each crossing and at the end of each tick.
Between two looks the price moves and nothing else does: a *leg* is one such stretch, from one
price to the next, with the engine as it stands. This file shows that no leg dips below its ends.

Two facts make it so. Executing a crossing at its own price moves P&L from the open hedges to the
realised ones and leaves the sum alone (`Crosses.combinedPnl_eq`), so a leg ends at the value the
next sample shows. Within a leg the P&L is concave, but for one kink: at the long strike the
payoff turns the other way. Below the long strike, though, no hedge is open, because every open
hedge sits above its take-profit and no take-profit is below the long strike; and with no hedge
open the P&L only falls with the price (`le_combinedPnl_of_ends`).
-/

set_option autoImplicit false

namespace CreditHedge

open HedgeEngine (Tick)
open CrossingEngine (segmentDirection)

/-! ## Legs -/

/-- The price on its way from `start` to `stop`, and the engine meanwhile. -/
structure Leg where
  start : ℚ
  stop : ℚ
  engine : EngineState

/-- The legs of a tick from `p` to `q`: the price stops at every crossing on the way. -/
def legsFrom (p q : ℚ) (s : EngineState) : List (CrossingEvent × EngineState) → List Leg
  | [] => [⟨p, q, s⟩]
  | crossing :: rest => ⟨p, crossing.1.price, s⟩ :: legsFrom crossing.1.price q crossing.2 rest

/-- The first tick stands still at its price; every other one starts where the last one ended. -/
def HedgeEngine.Tick.legs (tick : Tick) : List Leg :=
  legsFrom (tick.before.previousPrice.getD tick.price) tick.price tick.before tick.crossings

/-- The combined P&L at `price`, as the engine stands. -/
def EngineState.pnlAt (s : EngineState) (spread : CreditSpread) (price : ℚ) : ℚ :=
  s.ledger.combinedPnl spread s.levels price

/-- Every combined P&L there was at a price the interpolated path visits. -/
def visitedPnl (spread : CreditSpread) (ticks : List Tick) : Set ℚ :=
  {v | ∃ tick ∈ ticks, ∃ leg ∈ tick.legs, ∃ price ∈ Set.uIcc leg.start leg.stop,
    v = leg.engine.pnlAt spread price}

/-! ## The payoff -/

namespace CreditSpread

variable (spread : CreditSpread)

theorem expiryPnl_mono : Monotone spread.expiryPnl := by
  intro x y hxy
  rcases le_total x spread.longPutStrike with hx | hx
  · have hlow := spread.neg_maxLoss_le_expiryPnl y
    rw [spread.expiryPnl_of_le_long hx]
    simp only [maxLoss] at hlow
    linarith
  · rcases le_total x spread.shortPutStrike with hs | hs
    · rw [spread.expiryPnl_of_between hx hs]
      exact spread.le_expiryPnl hxy hx hs
    · rw [spread.expiryPnl_of_ge_short hs, spread.expiryPnl_of_ge_short (hs.trans hxy)]

/-- From the long strike up, the only kink is the one at the short strike. -/
theorem concaveOn_expiryPnl : ConcaveOn ℚ (Set.Ici spread.longPutStrike) spread.expiryPnl := by
  have hconst : ConcaveOn ℚ (Set.Ici spread.longPutStrike) fun _ : ℚ => spread.premiumCredit :=
    concaveOn_const _ (convex_Ici _)
  have hslope : ConcaveOn ℚ (Set.Ici spread.longPutStrike) fun price : ℚ =>
      spread.optionQuantity * price +
        (spread.premiumCredit - spread.optionQuantity * spread.shortPutStrike) :=
    ((concaveOn_id (convex_Ici _)).smul spread.optionQuantity_pos.le).add_const _
  refine (hconst.inf hslope).congr fun price hprice => ?_
  have hq := spread.optionQuantity_pos
  rcases le_total price spread.shortPutStrike with hs | hs
  · rw [spread.expiryPnl_of_between hprice hs, Pi.inf_apply, inf_eq_right.mpr (by nlinarith)]
    ring
  · rw [spread.expiryPnl_of_ge_short hs, Pi.inf_apply, inf_eq_left.mpr (by nlinarith)]

end CreditSpread

variable {config : StrategyConfig} {spread : CreditSpread} {s s' t : EngineState} {p q c : ℚ}
  {tickIndex : ℕ}

/-- What one level's open hedge is worth at `price`. -/
def HedgeLevel.openPnl (price : ℚ) (level : HedgeLevel) : ℚ :=
  if level.state = .active then level.activeQuantity * (level.entryPrice - price) else 0

theorem openHedgePnl_eq_sum (levels : List HedgeLevel) (price : ℚ) :
    Ledger.openHedgePnl levels price = (levels.map (HedgeLevel.openPnl price)).sum :=
  openHedgePnl_eq price levels

/-- What all of them are short. -/
def openSize (levels : List HedgeLevel) : ℚ :=
  (levels.map fun level => if level.state = .active then level.activeQuantity else 0).sum

theorem openHedgePnl_affine (levels : List HedgeLevel) (price : ℚ) :
    Ledger.openHedgePnl levels price =
      Ledger.openHedgePnl levels 0 - openSize levels * price := by
  rw [openHedgePnl_eq, openHedgePnl_eq]
  unfold openSize
  induction levels with
  | nil => simp
  | cons level levels ih =>
    simp only [List.map_cons, List.sum_cons]
    rw [ih]
    split <;> ring

/-! ## Continuity across a crossing -/

/-- **A crossing at its own price changes no combined P&L.** -/
theorem Crosses.combinedPnl_eq {e : CrossingEvent} (hs : Sound config spread s.levels)
    (h : Crosses config spread tickIndex s e s') :
    s'.pnlAt spread e.price = s.pnlAt spread e.price := by
  have hsum : ∀ {level : HedgeLevel}, level ∈ s.levels → ∀ f : HedgeLevel → HedgeLevel, ∀ price,
      Ledger.openHedgePnl (s.levels.map (HedgeLevel.updating level.levelId f)) price =
        Ledger.openHedgePnl s.levels price + ((f level).openPnl price - level.openPnl price) := by
    intro level hl f price
    rw [openHedgePnl_eq_sum, openHedgePnl_eq_sum]
    exact hs.ladder.sum_updating hl f (HedgeLevel.openPnl price)
  unfold EngineState.pnlAt Ledger.combinedPnl
  cases h with
  | opened hl ready armed above afforded =>
    simp only [hsum hl]
    simp [HedgeLevel.openPnl, HedgeLevel.opening, HedgeLevel.activated, HedgeLevel.entryCrossing,
      ready, Ledger.recordEntry, Ledger.recordOpen, Ledger.append]
  | floored hl ready armed above refused policy =>
    simp only [hsum hl]
    simp [HedgeLevel.openPnl, HedgeLevel.opening, HedgeLevel.activated, HedgeLevel.entryCrossing,
      ready, Ledger.recordFloorEntry, Ledger.recordOpen, Ledger.append]
  | lockedOut hl ready armed above refused policy =>
    simp only [hsum hl]
    simp [HedgeLevel.openPnl, HedgeLevel.lockedOut, ready, Ledger.recordLocked, Ledger.append]
  | @paid level hl active =>
    have hstatus := SameStatus.settled config level.activeRecoveryAllocations
    have hzone := HedgeLevel.sameZone_settled config level.activeRecoveryAllocations
    have hpaid := hs.sum_paid hl level.activeRecoveryAllocations level.tpProfit
      (v := HedgeLevel.openPnl level.tpPrice) fun x => by
        simp only [HedgeLevel.openPnl, (hstatus x).state, (hstatus x).activeQuantity,
          (hzone x).entryPrice]
    rw [openHedgePnl_eq_sum, openHedgePnl_eq_sum, HedgeLevel.tpCrossing, hpaid]
    -- The hedge's unrealised profit at the take-profit price is the profit that is realised.
    simp only [HedgeLevel.openPnl, HedgeLevel.paidOut, active,
      Ledger.recordTp, Ledger.append, HedgeLevel.tpProfit, HedgeLevel.tpDistance]
    simp only [reduceCtorEq, if_false, if_true]
    ring
  | @stoppedOut level hl active fixed =>
    simp only [hsum hl]
    simp only [HedgeLevel.openPnl, HedgeLevel.stopped, active, HedgeLevel.stopCrossing,
      Ledger.recordStop, Ledger.append, HedgeLevel.stopLoss, HedgeLevel.stopDistance]
    simp only [reduceCtorEq, if_false, if_true]
    ring
  | brokeEven hl active floor =>
    simp only [hsum hl]
    simp [HedgeLevel.openPnl, HedgeLevel.brokenEven, HedgeLevel.breakevenCrossing, active,
      Ledger.recordBreakeven, Ledger.append]

/-! ## Along a leg -/

/-- No open hedge is past its take-profit. -/
def AboveProfits (levels : List HedgeLevel) (price : ℚ) : Prop :=
  ∀ level ∈ levels, level.state = .active → level.tpPrice ≤ price

/-- **A leg does not dip below its ends.** -/
theorem le_pnlAt_of_ends (hs : Sound config spread s.levels) (hp : AboveProfits s.levels p)
    (hq : AboveProfits s.levels q) (hcp : c ≤ s.pnlAt spread p) (hcq : c ≤ s.pnlAt spread q)
    {price : ℚ} (hprice : price ∈ Set.uIcc p q) : c ≤ s.pnlAt spread price := by
  wlog hpq : p ≤ q generalizing p q
  · exact this hq hp hcq hcp (Set.uIcc_comm p q ▸ hprice) (le_of_not_ge hpq)
  rw [Set.uIcc_of_le hpq] at hprice
  by_cases hopen : ∃ level ∈ s.levels, level.state = .active
  · -- Some hedge is open, so the leg is above the long strike, where the P&L is concave.
    obtain ⟨level, hl, hactive⟩ := hopen
    have hlong : spread.longPutStrike ≤ p :=
      (hs.ladder.long_le_tpPrice hl).trans (hp level hl hactive)
    have hhedges : ConcaveOn ℚ (Set.Ici spread.longPutStrike) fun price : ℚ =>
        -openSize s.levels * price +
          (s.ledger.realizedHedgePnl + Ledger.openHedgePnl s.levels 0) :=
      ((LinearMap.mulLeft ℚ (-openSize s.levels)).concaveOn (convex_Ici _)).add_const _
    have hconcave : ConcaveOn ℚ (Set.Ici spread.longPutStrike) (s.pnlAt spread) := by
      refine (spread.concaveOn_expiryPnl.add hhedges).congr fun price _ => ?_
      rw [EngineState.pnlAt, Ledger.combinedPnl, openHedgePnl_affine s.levels price,
        Pi.add_apply]
      ring
    exact (le_min hcp hcq).trans
      (hconcave.min_le_of_mem_Icc hlong (Set.mem_Ici.mpr (hlong.trans hpq)) hprice)
  · -- No hedge is open: the P&L follows the payoff, and is least at the lower end.
    have hnone : ∀ x, Ledger.openHedgePnl s.levels x = 0 := fun x =>
      openHedgePnl_eq_zero fun level hl hactive => hopen ⟨level, hl, hactive⟩
    have hmono := spread.expiryPnl_mono hprice.1
    unfold EngineState.pnlAt Ledger.combinedPnl at hcp ⊢
    rw [hnone] at hcp ⊢
    linarith

/-- Along the legs of a drained segment, from the values at its crossings and its ends. -/
theorem le_legs_of_drains {next : EngineState → Option CrossingEvent}
    {trace : List (CrossingEvent × EngineState)}
    (h : Drains next (Passes config spread tickIndex) s trace t)
    (hs : Sound config spread s.levels) (hp : AboveProfits s.levels p)
    (hq : AboveProfits t.levels q) (hcp : c ≤ s.pnlAt spread p)
    (htrace : ∀ crossing ∈ trace, c ≤ crossing.2.pnlAt spread crossing.1.price)
    (hcq : c ≤ t.pnlAt spread q) :
    ∀ leg ∈ legsFrom p q s trace, ∀ price ∈ Set.uIcc leg.start leg.stop,
      c ≤ leg.engine.pnlAt spread price := by
  induction h generalizing p with
  | done =>
    intro leg hleg
    rw [legsFrom, List.mem_singleton] at hleg
    subst hleg
    intro price hprice
    exact le_pnlAt_of_ends hs hp hq hcp hcq hprice
  | @step s s' t e trace hn he rest ih =>
    intro leg hleg
    rw [legsFrom, List.mem_cons] at hleg
    have hsample : c ≤ s'.pnlAt spread e.price := htrace (e, s') (List.mem_cons_self ..)
    rcases hleg with rfl | hleg
    · have hend : c ≤ s.pnlAt spread e.price := by
        rw [← he.crosses.combinedPnl_eq hs]
        exact hsample
      have hexit : AboveProfits s.levels e.price :=
        fun level hl => (he.positioned_before level hl).tp_le
      intro price hprice
      exact le_pnlAt_of_ends hs hp hexit hcp hend hprice
    · exact ih he.sound_after (fun level hl => (he.positioned level hl).tp_le) hq hsample
        (fun crossing hc => htrace crossing (List.mem_cons_of_mem _ hc)) hcq leg hleg

theorem aboveProfits_of_closedAt (h : AtRest config spread q (t.closedAt q)) :
    AboveProfits t.levels q := by
  intro level hl hactive
  have hmem : level.armedAt q ∈ (t.closedAt q).levels := List.mem_map_of_mem hl
  have hsettled := (h.settled _ hmem).positioned.tp_le
  rw [HedgeLevel.armedAt_state, (SameZone.armedAt q).tpPrice] at hsettled
  exact hsettled hactive

theorem pnlAt_closedAt {price : ℚ} :
    (t.closedAt q).pnlAt spread price = t.pnlAt spread price := by
  unfold EngineState.pnlAt Ledger.combinedPnl
  rw [openHedgePnl_closedAt]
  rfl

/-- The same for one tick. -/
theorem Sweeps.le_legs {trace : List (CrossingEvent × EngineState)}
    (hrest : AtRest config spread p s)
    (h : Sweeps config spread tickIndex p q s trace t)
    (hrested : AtRest config spread q (t.closedAt q)) (hcp : c ≤ s.pnlAt spread p)
    (htrace : ∀ crossing ∈ trace, c ≤ crossing.2.pnlAt spread crossing.1.price)
    (hcq : c ≤ (t.closedAt q).pnlAt spread q) :
    ∀ leg ∈ legsFrom p q s trace, ∀ price ∈ Set.uIcc leg.start leg.stop,
      c ≤ leg.engine.pnlAt spread price := by
  rw [pnlAt_closedAt] at hcq
  have hp : AboveProfits s.levels p := fun level hl => (hrest.settled level hl).positioned.tp_le
  cases h with
  | still heq =>
    subst heq
    intro leg hleg
    rw [legsFrom, List.mem_singleton] at hleg
    subst hleg
    intro price hprice
    exact le_pnlAt_of_ends hrest.sound hp hp hcp hcp hprice
  | drained hne hd =>
    exact le_legs_of_drains hd hrest.sound hp (aboveProfits_of_closedAt hrested) hcp htrace hcq

/-! ## The samples are on the legs -/

/-- A leg starts at every crossing. -/
theorem exists_leg_of_crossing {trace : List (CrossingEvent × EngineState)} :
    ∀ {p : ℚ} {s : EngineState}, ∀ crossing ∈ trace, ∃ leg ∈ legsFrom p q s trace,
      leg.start = crossing.1.price ∧ leg.engine = crossing.2 := by
  induction trace with
  | nil => exact fun _ h => absurd h (by simp)
  | cons first rest ih =>
    intro p s crossing hc
    rcases List.mem_cons.mp hc with rfl | hc
    · -- The next leg is the first one of what is left.
      cases rest with
      | nil =>
        exact ⟨⟨crossing.1.price, q, crossing.2⟩,
          List.mem_cons_of_mem _ (List.mem_cons_self ..), rfl, rfl⟩
      | cons next rest =>
        exact ⟨⟨crossing.1.price, next.1.price, crossing.2⟩,
          List.mem_cons_of_mem _ (List.mem_cons_self ..), rfl, rfl⟩
    · obtain ⟨leg, hleg, hstart, hengine⟩ := ih crossing hc
      exact ⟨leg, List.mem_cons_of_mem _ hleg, hstart, hengine⟩

/-- The last leg ends at the price of the tick, with the engine as the crossings have left it. -/
theorem Sweeps.exists_last_leg {trace : List (CrossingEvent × EngineState)}
    (h : Sweeps config spread tickIndex p q s trace t) :
    ∃ leg ∈ legsFrom p q s trace, leg.stop = q ∧ leg.engine = t := by
  cases h with
  | still => exact ⟨_, List.mem_cons_self .., rfl, rfl⟩
  | drained _ hd =>
    clear * - hd
    generalize hp : p = start
    clear hp
    induction hd generalizing start with
    | done => exact ⟨_, List.mem_cons_self .., rfl, rfl⟩
    | @step s s' t e trace _ _ _ ih =>
      obtain ⟨leg, hleg, hstop, hengine⟩ := ih e.price
      exact ⟨leg, List.mem_cons_of_mem _ hleg, hstop, hengine⟩

theorem HedgeEngine.Tick.visited_of_leg {tick : Tick} {ticks : List Tick} (htick : tick ∈ ticks)
    {leg : Leg} (hleg : leg ∈ tick.legs) {price : ℚ} (hprice : price ∈ Set.uIcc leg.start leg.stop) :
    leg.engine.pnlAt spread price ∈ visitedPnl spread ticks :=
  ⟨tick, htick, leg, hleg, price, hprice, rfl⟩

/-- What a sample of a tick shows, the path visits. -/
theorem Runs.visited {prices : List ℚ} {ticks : List Tick} {final : EngineState}
    (h : Runs config spread p s tickIndex prices ticks final) :
    ∀ tick ∈ ticks, ∀ point ∈ tick.points,
      point.2.pnlAt spread point.1 ∈ visitedPnl spread [tick] := by
  induction h with
  | done => exact fun _ h => absurd h (by simp)
  | @tick p q s t final tickIndex prices crossings ticks rest sweeps rested tail ih =>
    intro tick htick
    rcases List.mem_cons.mp htick with rfl | htick
    · intro point hpoint
      have hlegs : ∀ leg ∈ legsFrom p q s crossings, leg ∈ Tick.legs
          { before := s, price := q, tickIndex, crossings, after := t.closedAt q } := by
        intro leg hleg
        unfold Tick.legs
        rw [rest.previousPrice_eq]
        exact hleg
      rcases List.mem_append.mp hpoint with hpoint | hpoint
      · obtain ⟨crossing, hc, rfl⟩ := List.mem_map.mp hpoint
        obtain ⟨leg, hleg, hstart, hengine⟩ := exists_leg_of_crossing crossing hc
        have hvisit : leg.engine.pnlAt spread leg.start ∈ visitedPnl spread _ :=
          Tick.visited_of_leg (List.mem_singleton_self _) (hlegs leg hleg) Set.left_mem_uIcc
        rwa [hstart, hengine] at hvisit
      · rw [List.mem_singleton] at hpoint
        subst hpoint
        obtain ⟨leg, hleg, hstop, hengine⟩ := sweeps.exists_last_leg
        have hvisit : leg.engine.pnlAt spread leg.stop ∈ visitedPnl spread _ :=
          Tick.visited_of_leg (List.mem_singleton_self _) (hlegs leg hleg) Set.right_mem_uIcc
        rw [hstop, hengine] at hvisit
        show (t.closedAt q).pnlAt spread q ∈ _
        rw [pnlAt_closedAt]
        exact hvisit
    · exact ih tick htick

/-! ## Runs -/

theorem mem_closeTick_of_mem {price : ℚ} {snapshots : List AccountingSnapshot}
    {snapshot : AccountingSnapshot} (h : snapshot ∈ snapshots) :
    snapshot ∈ HedgeEngine.closeTick spread s price tickIndex snapshots := by
  unfold HedgeEngine.closeTick
  split
  · exact List.mem_append_left _ h
  · split
    · exact List.mem_append_left _ h
    · exact h

theorem mem_foldl_record_of_mem {snapshot : AccountingSnapshot} :
    ∀ (ticks : List Tick) {snapshots : List AccountingSnapshot}, snapshot ∈ snapshots →
      snapshot ∈ ticks.foldl (Tick.record spread) snapshots
  | [], _, h => h
  | _ :: ticks, _, h =>
    mem_foldl_record_of_mem ticks (mem_closeTick_of_mem (List.mem_append_left _ h))

/-- **What is below every sample is below every price visited.** -/
theorem Runs.le_legs {prices : List ℚ} {ticks : List Tick} {final : EngineState}
    (h : Runs config spread p s tickIndex prices ticks final) :
    ∀ {snapshots : List AccountingSnapshot},
      (∀ snapshot ∈ snapshots, snapshot.tickIndex < tickIndex) →
      (∃ snapshot, snapshots.getLast? = some snapshot ∧ Shows spread p s snapshot) →
      (∀ snapshot ∈ ticks.foldl (Tick.record spread) snapshots,
        c ≤ snapshot.combinedTerminalValuePnl) →
      ∀ tick ∈ ticks, ∀ leg ∈ tick.legs, ∀ price ∈ Set.uIcc leg.start leg.stop,
        c ≤ leg.engine.pnlAt spread price := by
  induction h with
  | done => exact fun _ _ _ _ h => absurd h (by simp)
  | @tick p q s t final tickIndex prices crossings ticks rest sweeps rested tail ih =>
    intro snapshots hindex hshows hall
    obtain ⟨first, hfirst, hfirstShows⟩ := hshows
    obtain ⟨last, hlast, hlastShows⟩ := shows_record sweeps hindex
    -- The samples taken up to the end of this tick are all among the samples of the run.
    have hrecorded : ∀ snapshot ∈ Tick.record spread snapshots
        { before := s, price := q, tickIndex, crossings, after := t.closedAt q },
        c ≤ snapshot.combinedTerminalValuePnl := fun snapshot hmem =>
      hall snapshot (mem_foldl_record_of_mem ticks hmem)
    have hstart : c ≤ s.pnlAt spread p := by
      unfold EngineState.pnlAt
      rw [← hfirstShows.combined]
      exact hrecorded first (mem_closeTick_of_mem
        (List.mem_append_left _ (List.mem_of_getLast? hfirst)))
    have hend : c ≤ (t.closedAt q).pnlAt spread q := by
      unfold EngineState.pnlAt
      rw [← hlastShows.combined]
      exact hrecorded last (List.mem_of_getLast? hlast)
    have hcrossings : ∀ crossing ∈ crossings, c ≤ crossing.2.pnlAt spread crossing.1.price := by
      intro crossing hc
      exact hrecorded (HedgeEngine.crossingSnapshot spread tickIndex crossing)
        (mem_closeTick_of_mem (List.mem_append_right _ (List.mem_map_of_mem hc)))
    intro tick htick
    rcases List.mem_cons.mp htick with rfl | htick
    · intro leg hleg
      unfold Tick.legs at hleg
      rw [rest.previousPrice_eq] at hleg
      exact sweeps.le_legs rest rested hstart hcrossings hend leg hleg
    · exact ih (tickIndex_le_of_mem_record (HedgeEngine.Tick.mk _ _ _ _ _) hindex)
        ⟨last, hlast, hlastShows⟩ hall tick htick

/-! ## The minimum -/

/-- The minimum is one of the values it is the minimum of. -/
theorem minimumCombined_mem (first : AccountingSnapshot) (rest : List AccountingSnapshot) :
    ∃ snapshot ∈ first :: rest,
      minimumCombined first rest = snapshot.combinedTerminalValuePnl := by
  unfold minimumCombined
  induction rest using List.reverseRecOn with
  | nil => exact ⟨first, List.mem_cons_self .., rfl⟩
  | append_singleton rest snapshot ih =>
    rw [List.foldl_append, List.foldl_cons, List.foldl_nil]
    obtain ⟨least, hleast, heq⟩ := ih
    rcases min_choice (rest.foldl (fun least snapshot => min least
      snapshot.combinedTerminalValuePnl) first.combinedTerminalValuePnl)
      snapshot.combinedTerminalValuePnl with h | h
    · refine ⟨least, ?_, h.trans heq⟩
      rcases List.mem_cons.mp hleast with rfl | hmem
      · exact List.mem_cons_self ..
      · exact List.mem_cons_of_mem _ (List.mem_append_left _ hmem)
    · exact ⟨snapshot, List.mem_cons_of_mem _ (List.mem_append_right _ (by simp)), h⟩

/-- **The sampled minimum is the minimum** of the combined P&L over every price the interpolated
    path visits, for every configuration and every nonempty path; and the floor is passed exactly
    if the combined P&L was never negative. -/
theorem sampled_minimum (config : StrategyConfig) (spread : CreditSpread) (p : ℚ)
    (prices : List ℚ) :
    ∃ ticks final result,
      HedgeEngine.run config spread (p :: prices) = .ok (ticks, final) ∧
      HedgeEngine.accountingRun config spread (p :: prices) = .ok result ∧
      IsLeast (visitedPnl spread ticks) result.metrics.minimumCombinedPnl ∧
      (result.metrics.floorPass = true ↔ ∀ v ∈ visitedPnl spread ticks, 0 ≤ v) := by
  obtain ⟨ticks, final, hrun, hruns, hresult⟩ := accountingRun_eq config spread p prices
  have hne : snapshotsOf spread (firstTick config spread p :: ticks) ≠ [] :=
    foldl_record_ne_nil ticks (record_ne_nil _ [])
  obtain ⟨first, rest, hsnapshots⟩ := List.exists_cons_of_ne_nil hne
  rw [hsnapshots] at hresult
  refine ⟨_, final, _, hrun, hresult, ?_⟩
  have hfirst : ∃ snapshot, ((firstTick config spread p).record spread []).getLast? =
      some snapshot ∧ Shows spread p ((initialState config spread).closedAt p) snapshot :=
    ⟨_, rfl, rfl, rfl, rfl⟩
  have hindex : ∀ snapshot ∈ (firstTick config spread p).record spread [],
      snapshot.tickIndex < (firstTick config spread p).tickIndex + 1 :=
    tickIndex_le_of_mem_record (firstTick config spread p) (by simp)
  -- A lower bound of the samples is a lower bound of everything visited.
  have hlower : ∀ c, (∀ snapshot ∈ first :: rest, c ≤ snapshot.combinedTerminalValuePnl) →
      ∀ v ∈ visitedPnl spread (firstTick config spread p :: ticks), c ≤ v := by
    rintro c hall v ⟨tick, htick, leg, hleg, price, hprice, rfl⟩
    rw [← hsnapshots] at hall
    rcases List.mem_cons.mp htick with rfl | htick
    · obtain ⟨snapshot, hlast, hshows⟩ := hfirst
      have hleg' : leg = ⟨p, p, initialState config spread⟩ := by
        simpa [Tick.legs, firstTick, legsFrom, initialState] using hleg
      subst hleg'
      have hprice' : price = p := by simpa using hprice
      subst hprice'
      rw [← pnlAt_closedAt (q := price), EngineState.pnlAt, ← hshows.combined]
      exact hall snapshot (mem_foldl_record_of_mem ticks (List.mem_of_getLast? hlast))
    · exact hruns.le_legs hindex hfirst hall tick htick leg hleg price hprice
  have hmin : ∀ snapshot ∈ first :: rest,
      minimumCombined first rest ≤ snapshot.combinedTerminalValuePnl :=
    le_minimumCombined_iff.mp le_rfl
  have hleast : IsLeast (visitedPnl spread (firstTick config spread p :: ticks))
      (minimumCombined first rest) := by
    refine ⟨?_, fun v hv => hlower _ hmin v hv⟩
    obtain ⟨snapshot, hmem, heq⟩ := minimumCombined_mem first rest
    rw [heq]
    rw [← hsnapshots] at hmem
    obtain ⟨tick, htick, point, hpoint, seq, rfl⟩ := mem_snapshotsOf hmem
    have hvisited : ∀ tick ∈ firstTick config spread p :: ticks, ∀ point ∈ tick.points,
        point.2.pnlAt spread point.1 ∈ visitedPnl spread [tick] := by
      intro tick htick
      rcases List.mem_cons.mp htick with rfl | htick
      · intro point hpoint
        have hpoint' : point = (p, (initialState config spread).closedAt p) := by
          simpa [Tick.points, firstTick] using hpoint
        subst hpoint'
        exact ⟨_, List.mem_singleton_self _, ⟨p, p, initialState config spread⟩,
          List.mem_singleton_self _, p, Set.left_mem_uIcc, pnlAt_closedAt⟩
      · exact hruns.visited tick htick
    obtain ⟨tick', htick', leg, hleg, price, hprice, hv⟩ := hvisited tick htick point hpoint
    obtain rfl := List.mem_singleton.mp htick'
    exact ⟨tick', htick, leg, hleg, price, hprice, hv⟩
  refine ⟨hleast, decide_eq_true_iff.trans ⟨fun h v hv => h.trans (hleast.2 hv), fun h => ?_⟩⟩
  exact h _ hleast.1

end CreditHedge
