import CreditHedge.Core.Refinement
import CreditHedge.Core.StopBudget

/-!
# Historical replay

`backtesting/historical.py`: candles turned into an ordered tick path under one explicit assumption
about the order inside a candle, each leg of it cut into `ticks_per_leg` equal steps. Reading the
CSV and saving the path are left out.

A leg's steps are a monotone subdivision of it, so the path with `n` ticks a leg refines the path
with one (`refines_legs`), and what a replay ends with does not depend on `n`.
-/

set_option autoImplicit false

namespace CreditHedge

inductive IntrabarPath where
  | openHighLowClose
  | openLowHighClose
  deriving DecidableEq, Repr

/-- `Candle`: the constructor's checks are fields. -/
structure Candle where
  open' : ℚ
  high : ℚ
  low : ℚ
  close : ℚ
  low_pos : 0 < low
  high_ge : max open' close ≤ high
  low_le : low ≤ min open' close

/-- `Candle.__post_init__`. -/
def Candle.create (open' high low close : ℚ) : Except Failure Candle :=
  if hpos : low ≤ 0 then .error (.valueError "candle prices must be positive")
  else if hhigh : high < max open' close then
    .error (.valueError "candle high is below its open or close")
  else if hlow : low > min open' close then
    .error (.valueError "candle low is above its open or close")
  else
    .ok
      { open', high, low, close
        low_pos := pos_of_not_nonpos hpos
        high_ge := not_lt.mp hhigh
        low_le := not_lt.mp hlow }

/-- The prices a candle is taken to visit after its open. -/
def Candle.anchors (candle : Candle) : IntrabarPath → List ℚ
  | .openHighLowClose => [candle.high, candle.low, candle.close]
  | .openLowHighClose => [candle.low, candle.high, candle.close]

/-- The ticks of one leg: `start + (end - start) * step / ticks_per_leg` for each step. -/
def legTicks (ticksPerLeg : ℕ) (start stop : ℚ) : List ℚ :=
  (List.range ticksPerLeg).map
    fun step : ℕ => start + (stop - start) * ((step + 1 : ℕ) : ℚ) / ticksPerLeg

/-- The legs between consecutive anchors, `start` being the first of them. -/
def legs (ticksPerLeg : ℕ) (start : ℚ) : List ℚ → List ℚ
  | [] => []
  | stop :: rest => legTicks ticksPerLeg start stop ++ legs ticksPerLeg stop rest

/-- The loop over the candles, `ticks` being the path so far. -/
def reconstructFrom (assumption : IntrabarPath) (ticksPerLeg : ℕ) :
    Option ℚ → List ℚ → List Candle → Except Failure (List ℚ)
  | _, ticks, [] => .ok ticks
  | previousClose, ticks, candle :: rest =>
    if previousClose.isSome ∧ previousClose ≠ some candle.open' then
      .error (.valueError "candle gap handling is postponed; open must equal prior close")
    else
      reconstructFrom assumption ticksPerLeg (some candle.close)
        ((if ticks = [] then [candle.open'] else ticks) ++
          legs ticksPerLeg candle.open' (candle.anchors assumption)) rest

def reconstructTickPath (candles : List Candle) (assumption : IntrabarPath) (ticksPerLeg : ℕ) :
    Except Failure (List ℚ) :=
  if ticksPerLeg = 0 then .error (.valueError "ticks per leg must be positive")
  else if candles = [] then .error (.valueError "at least one candle is required")
  else reconstructFrom assumption ticksPerLeg none [] candles

/-! ## The path as legs between anchors -/

theorem legs_append (n : ℕ) : ∀ (a : ℚ) (xs : List ℚ) (b : ℚ) (ys : List ℚ),
    legs n a (xs ++ b :: ys) = legs n a (xs ++ [b]) ++ legs n b ys
  | a, [], b, ys => by simp [legs]
  | a, x :: xs, b, ys => by
    rw [List.cons_append, List.cons_append, legs, legs, legs_append n x xs b ys,
      List.append_assoc]

theorem Candle.anchors_eq (candle : Candle) (assumption : IntrabarPath) :
    ∃ xs, candle.anchors assumption = xs ++ [candle.close] := by
  cases assumption
  · exact ⟨[candle.high, candle.low], rfl⟩
  · exact ⟨[candle.low, candle.high], rfl⟩

theorem reconstructFrom_eq {assumption : IntrabarPath} {n : ℕ} : ∀ {candles : List Candle}
    {previousClose : ℚ} {ticks path : List ℚ}, ticks ≠ [] →
    reconstructFrom assumption n (some previousClose) ticks candles = .ok path →
    path = ticks ++ legs n previousClose (candles.flatMap (Candle.anchors · assumption))
  | [], _, _, _, _, h => by
    rw [List.flatMap_nil, legs, List.append_nil]
    exact (Except.ok.inj h).symm
  | candle :: rest, previousClose, ticks, path, hne, h => by
    rw [reconstructFrom] at h
    split at h
    · exact absurd h (by simp)
    · rename_i hgap
      have hopen : previousClose = candle.open' := by simpa using hgap
      subst hopen
      have ih := reconstructFrom_eq (by simp [hne]) h
      obtain ⟨xs, hxs⟩ := candle.anchors_eq assumption
      rw [ih, List.flatMap_cons, hxs, List.append_assoc xs, List.singleton_append,
        legs_append n candle.open' xs candle.close (rest.flatMap _), List.append_assoc]

/-- A reconstructed path: the first open, then the legs between all the anchors. -/
theorem reconstructTickPath_eq {candles : List Candle} {assumption : IntrabarPath} {n : ℕ}
    {path : List ℚ} (h : reconstructTickPath candles assumption n = .ok path) :
    0 < n ∧ ∃ first rest, candles = first :: rest ∧
      path = first.open' :: legs n first.open' (candles.flatMap (Candle.anchors · assumption)) := by
  unfold reconstructTickPath at h
  split at h
  · exact absurd h (by simp)
  · rename_i hn
    split at h
    · exact absurd h (by simp)
    · cases candles with
      | nil => contradiction
      | cons first rest =>
        refine ⟨Nat.pos_of_ne_zero hn, first, rest, rfl, ?_⟩
        rw [reconstructFrom, if_neg (by simp), if_pos rfl] at h
        obtain ⟨xs, hxs⟩ := first.anchors_eq assumption
        rw [reconstructFrom_eq (by simp) h, List.flatMap_cons, hxs, List.append_assoc xs,
          List.singleton_append, List.singleton_append,
          legs_append n first.open' xs first.close (rest.flatMap _)]
        rfl

/-! ## More ticks a leg refine the path -/

theorem legTicks_eq {n : ℕ} (hn : 0 < n) (a b : ℚ) :
    ∃ mid, legTicks n a b = mid ++ [b] ∧ Subdivides a b mid := by
  obtain ⟨m, rfl⟩ := Nat.exists_eq_succ_of_ne_zero hn.ne'
  have hpos : (0 : ℚ) < (m + 1 : ℕ) := by exact_mod_cast hn
  let tick : ℕ → ℚ := fun step => a + (b - a) * (step : ℚ) / ((m + 1 : ℕ) : ℚ)
  have hfirst : tick 0 = a := by simp [tick]
  have hlast : tick (m + 1) = b := by
    simp only [tick, mul_div_assoc, div_self hpos.ne']
    ring
  have hticks : legTicks (m + 1) a b = (List.range m).map (fun step => tick (step + 1)) ++ [b] := by
    unfold legTicks
    rw [List.range_succ, List.map_append]
    exact congrArg ((List.range m).map (fun step => tick (step + 1)) ++ [·]) hlast
  -- With both ends, the leg is the ticks `0` to `m + 1` in order.
  have hall : a :: ((List.range m).map (fun step => tick (step + 1)) ++ [b]) =
      (List.range (m + 2)).map tick := by
    rw [List.range_succ, List.range_succ_eq_map, List.map_append, List.map_cons, List.map_map,
      List.map_singleton, hfirst, hlast]
    rfl
  refine ⟨_, hticks, ?_⟩
  unfold Subdivides
  rw [hall]
  have hdiff : ∀ {k l : ℕ}, k < l →
      tick l - tick k = (b - a) * (((l : ℚ) - k) / ((m + 1 : ℕ) : ℚ)) := by
    intro k l _
    simp only [tick]
    ring
  have hfrac : ∀ {k l : ℕ}, k < l → 0 ≤ ((l : ℚ) - k) / ((m + 1 : ℕ) : ℚ) := by
    intro k l hkl
    have : (k : ℚ) < l := by exact_mod_cast hkl
    exact div_nonneg (by linarith) hpos.le
  rcases le_total a b with hab | hab
  · refine Or.inl (List.pairwise_map.mpr (List.pairwise_lt_range.imp fun hkl => ?_))
    have := mul_nonneg (sub_nonneg.mpr hab) (hfrac hkl)
    rw [← hdiff hkl] at this
    linarith
  · refine Or.inr (List.pairwise_map.mpr (List.pairwise_lt_range.imp fun hkl => ?_))
    have := mul_nonneg (sub_nonneg.mpr hab) (hfrac hkl)
    have hneg := hdiff hkl
    linarith

theorem refines_legs {n : ℕ} (hn : 0 < n) : ∀ (a : ℚ) (xs : List ℚ),
    Refines (a :: xs) (a :: legs n a xs)
  | a, [] => .single a
  | a, b :: xs => by
    obtain ⟨mid, hmid, hsub⟩ := legTicks_eq hn a b
    rw [legs, hmid, List.append_assoc, List.singleton_append]
    exact .insert hsub (refines_legs hn b xs)

/-- **Path-refinement invariance.** Refining a path, and in particular reconstructing it from the
    same candles with another number of ticks a leg, changes neither the levels a run ends with
    nor, up to tick indices, its ledger. -/
theorem path_refinement_invariance (config : StrategyConfig) (spread : CreditSpread) :
    (∀ coarse fine, Refines coarse fine →
      ∃ ticks final ticks' final', HedgeEngine.run config spread coarse = .ok (ticks, final) ∧
        HedgeEngine.run config spread fine = .ok (ticks', final') ∧
        final'.levels = final.levels ∧ final'.ledger.untimed = final.ledger.untimed) ∧
    ∀ candles assumption m n path path', reconstructTickPath candles assumption m = .ok path →
      reconstructTickPath candles assumption n = .ok path' →
      ∃ ticks final ticks' final', HedgeEngine.run config spread path = .ok (ticks, final) ∧
        HedgeEngine.run config spread path' = .ok (ticks', final') ∧
        final'.levels = final.levels ∧ final'.ledger.untimed = final.ledger.untimed := by
  refine ⟨fun coarse fine href => run_refinement config spread href, ?_⟩
  intro candles assumption m n path path' hpath hpath'
  obtain ⟨hm, first, rest, hcandles, rfl⟩ := reconstructTickPath_eq hpath
  obtain ⟨hn, first', rest', hcandles', rfl⟩ := reconstructTickPath_eq hpath'
  obtain ⟨rfl, -⟩ := List.cons.inj (hcandles.symm.trans hcandles')
  -- Both paths refine the path with one tick a leg.
  obtain ⟨_, final, _, final₁, hrun, hrun₁, hlevels₁, hledger₁⟩ :=
    run_refinement config spread (refines_legs hm first.open' _)
  obtain ⟨_, final', _, final₂, hrun', hrun₂, hlevels₂, hledger₂⟩ :=
    run_refinement config spread (refines_legs hn first.open' _)
  obtain ⟨-, rfl⟩ := Prod.mk.inj (Except.ok.inj (hrun.symm.trans hrun'))
  exact ⟨_, final₁, _, final₂, hrun₁, hrun₂, hlevels₂.trans hlevels₁.symm,
    hledger₂.trans hledger₁.symm⟩

/-- A drop by two zones, at once and with a stop halfway, where one zone ends and the next opens. -/
theorem path_refinement_invariance_halfway :
    ∃ ticks final ticks' final',
      HedgeEngine.run (tenLevels .distributed .unhedged) narrowSpread [1000, 998] =
        .ok (ticks, final) ∧
      HedgeEngine.run (tenLevels .distributed .unhedged) narrowSpread [1000, 999, 998] =
        .ok (ticks', final') ∧
      final'.levels = final.levels ∧ final'.ledger.untimed = final.ledger.untimed :=
  (path_refinement_invariance _ _).1 [1000, 998] (1000 :: ([999] ++ 998 :: []))
    (.insert (Or.inr (by decide +kernel)) (.single 998))

end CreditHedge
