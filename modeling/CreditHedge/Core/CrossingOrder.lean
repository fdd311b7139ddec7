import CreditHedge.Core.Runs

/-!
# The crossings of one segment, in order

The loop of `process_transition` recomputes its candidates after every crossing, so the order of
what it executes is not that of one sorted list. It is sorted all the same: whatever is pending
after a crossing was pending before it, and then comes later by the sort key, or is the
take-profit of the hedge just opened, which lies further down. So every executed crossing has a
key beyond all earlier ones (`sorted_drains`), and the rest is read off the key: prices move one
way, at one price a take-profit comes before an entry and a lower level before a higher one, and
nothing is executed twice.

How many there are is `rounds`: a level has two crossings left on the way down and one on the way
up.
-/

set_option autoImplicit false

namespace CreditHedge

open CrossingEngine (segmentDirection insideRemainingSegment sortKey nearest drain)

/-! ## The loop without its bound -/

/-- A loop that ends is ended by its last round: any bound above the number of crossings gives
    the same. -/
theorem drain_of_le {σ : Type} {strategy : CrossingStrategy σ} {previous current : ℚ}
    {direction : Direction} {tickIndex : ℕ} :
    ∀ {fuel fuel' : ℕ} {cursor : ℚ} {processed : List (CrossingEventType × ℕ × ℚ)} {s t : σ}
      {trace : List (CrossingEvent × σ)},
      drain strategy previous current direction tickIndex fuel cursor processed s =
        .ok (trace, t) → trace.length < fuel' →
      drain strategy previous current direction tickIndex fuel' cursor processed s =
        .ok (trace, t)
  | 0, _, _, _, _, _, _, h, _ => absurd h (by simp [drain])
  | _, 0, _, _, _, _, _, _, hlt => absurd hlt (Nat.not_lt_zero _)
  | fuel + 1, fuel' + 1, cursor, processed, s, t, trace, h, hlt => by
    unfold drain at h ⊢
    cases hn : nearest (CrossingEngine.candidates strategy previous current direction cursor
        processed s) direction with
    | none =>
      rw [hn] at h
      exact h
    | some event =>
      simp only [hn, bind_eq_ok] at h ⊢
      obtain ⟨s', hs', ⟨executed, final⟩, hrest, hend⟩ := h
      obtain ⟨rfl, rfl⟩ := Prod.mk.inj (Except.ok.inj hend)
      exact ⟨s', hs', (executed, final), drain_of_le hrest (Nat.lt_of_succ_lt_succ hlt), rfl⟩

variable {config : StrategyConfig} {spread : CreditSpread} {direction : Direction}
  {p q : ℚ} {s s' t : EngineState} {e : CrossingEvent} {tickIndex : ℕ}
  {trace : List (CrossingEvent × EngineState)}

/-! ## How many -/

theorem rounds_up_le (levels : List HedgeLevel) : rounds .up levels ≤ levels.length := by
  unfold rounds
  have h := List.sum_le_card_nsmul (levels.map fun x => roundsLeft .up x.state) 1 (by
    intro n hn
    obtain ⟨x, -, rfl⟩ := List.mem_map.mp hn
    cases x.state <;> decide)
  rw [List.length_map, nsmul_eq_mul, Nat.cast_id] at h
  omega

/-- Every crossing of the loop uses up a round. -/
theorem length_drains (h : Drains (next q direction) (Passes config spread tickIndex) s trace t) :
    trace.length ≤ rounds direction s.levels := by
  induction h with
  | done => exact Nat.zero_le _
  | step hn he _ ih =>
    have hround := rounds_crosses he.sound hn he.crosses
    rw [List.length_cons]
    omega

/-! ## In which order -/

theorem sortKey_down_lt {e e' : CrossingEvent} (h : e'.price < e.price) :
    sortKey .down e < sortKey .down e' :=
  Prod.Lex.toLex_lt_toLex.mpr (.inl (neg_lt_neg h))

/-- What one level has pending. -/
def pendingOf (q : ℚ) : Direction → HedgeLevel → List CrossingEvent
  | .down => pendingDown q
  | .up => pendingUp q

theorem mem_pending {e : CrossingEvent} :
    e ∈ pending q direction s ↔ ∃ x ∈ s.levels, e ∈ pendingOf q direction x := by
  cases direction <;> exact List.mem_flatMap

theorem levelId_of_mem_pendingOf {x : HedgeLevel} (h : e ∈ pendingOf q direction x) :
    e.levelId = x.levelId := by
  cases direction with
  | down =>
    simp only [pendingOf, pendingDown, List.mem_append, List.mem_ite_nil_right,
      List.mem_singleton] at h
    obtain ⟨-, rfl⟩ | ⟨-, rfl⟩ := h <;> rfl
  | up =>
    simp only [pendingOf, pendingUp, List.mem_append, List.mem_ite_nil_right,
      List.mem_singleton] at h
    obtain ⟨-, rfl⟩ | ⟨-, rfl⟩ := h <;> rfl

theorem pendingOf_congr {x y : HedgeLevel} (zone : SameZone x y) (status : SameStatus x y) :
    pendingOf q direction y = pendingOf q direction x := by
  cases direction with
  | down =>
    simp only [pendingOf, pendingDown, zone.tpCrossing, zone.entryCrossing, zone.tpPrice,
      zone.entryPrice, status.state, status.entryArmed]
  | up =>
    simp only [pendingOf, pendingUp, zone.breakevenCrossing, zone.stopCrossing, zone.stopPrice,
      zone.entryPrice, status.state, status.activeIsFloor]

/-- A level that is neither open nor ready has nothing pending, and on the way up a ready one has
    nothing either. -/
theorem pendingOf_eq_nil {x : HedgeLevel} (hactive : x.state ≠ .active)
    (hready : direction = .down → x.state ≠ .ready) : pendingOf q direction x = [] := by
  cases direction with
  | down => simp [pendingOf, pendingDown, hactive, hready rfl]
  | up => simp [pendingOf, pendingUp, hactive]

/-- The level just turned has its take-profit pending at most. -/
theorem Turns.sortKey_lt {levels : List HedgeLevel} (hladder : Ladder config spread levels)
    {x y : HedgeLevel} (hx : x ∈ levels) (zone : SameZone x y) (h : Turns x y e)
    (hdown : direction = .down → e.eventType ≠ .stop ∧ e.eventType ≠ .breakeven)
    (hup : direction = .up → e.eventType ≠ .entry) {e' : CrossingEvent}
    (he' : e' ∈ pendingOf q direction y) : sortKey direction e < sortKey direction e' := by
  have hnone : y.state ≠ .active → (direction = .down → y.state ≠ .ready) →
      sortKey direction e < sortKey direction e' := by
    intro hactive hready
    rw [pendingOf_eq_nil hactive hready] at he'
    exact absurd he' List.not_mem_nil
  cases h with
  | opened _ _ state _ =>
    cases direction with
    | down =>
      obtain rfl : e' = x.tpCrossing := by
        rw [← zone.tpCrossing]
        simp only [pendingOf, pendingDown, List.mem_append, List.mem_ite_nil_right,
          List.mem_singleton, state, reduceCtorEq, false_and, or_false] at he'
        exact he'.2
      exact sortKey_down_lt (hladder.tpPrice_lt_entryPrice hx)
    | up => exact absurd rfl (hup rfl)
  | lockedOut _ _ state _ => exact hnone (by simp [state]) (by simp [state])
  | paid _ state _ => exact hnone (by simp [state]) (by simp [state])
  | stoppedOut _ _ state _ =>
    exact hnone (by simp [state]) fun hdir => absurd rfl (hdown hdir).1
  | brokeEven _ _ state _ =>
    exact hnone (by simp [state]) fun hdir => absurd rfl (hdown hdir).2

/-- **What is pending after a crossing comes after it.** -/
theorem Passes.sortKey_lt (h : Passes config spread tickIndex s e s')
    (hn : next q direction s = some e) {e' : CrossingEvent}
    (he' : e' ∈ pending q direction s') : sortKey direction e < sortKey direction e' := by
  obtain ⟨g, hlevels, hzone, hother, x₀, hx₀, hid, hturn⟩ := h.crosses.turns
  obtain ⟨y, hy, he'⟩ := mem_pending.mp he'
  rw [hlevels] at hy
  obtain ⟨x, hx, rfl⟩ := List.mem_map.mp hy
  by_cases hxid : x.levelId = e.levelId
  · obtain rfl := h.sound.ladder.eq_of_levelId_eq hx hx₀ (hxid.trans hid.symm)
    refine hturn.sortKey_lt h.sound.ladder hx (hzone x hx) ?_ ?_ he'
    · rintro rfl
      exact next_down_ne hn
    · rintro rfl
      exact (next_up_ne hn).1
  · rw [pendingOf_congr (hzone x hx) (hother x hx hxid)] at he'
    have hle := CrossingEngine.sortKey_nearest_le hn (mem_pending.mpr ⟨x, hx, he'⟩)
    refine lt_of_le_of_ne hle fun heq => hxid ?_
    have hlevel : e.levelId = e'.levelId := by
      cases direction <;> exact congrArg (fun key => (ofLex (ofLex key).2).2) heq
    exact (levelId_of_mem_pendingOf he').symm.trans hlevel.symm

/-- **The executed crossings are sorted**, strictly. -/
theorem sorted_drains (h : Drains (next q direction) (Passes config spread tickIndex) s trace t) :
    (trace.map Prod.fst).Pairwise fun e e' => sortKey direction e < sortKey direction e' := by
  induction h with
  | done => exact .nil
  | @step s s' t e trace hn he rest ih =>
    rw [List.map_cons, List.pairwise_cons]
    refine ⟨fun e' he' => ?_, ih⟩
    cases rest with
    | done => exact absurd he' List.not_mem_nil
    | @step _ s'' _ e₁ _ hn₁ _ _ =>
      have hfirst := he.sortKey_lt hn (CrossingEngine.nearest_mem hn₁)
      rw [List.map_cons, List.mem_cons] at he'
      obtain rfl | he' := he'
      · exact hfirst
      · exact hfirst.trans ((List.pairwise_cons.mp ih).1 e' he')

/-- `e` may be executed before `e'`, on a move in this direction. -/
structure InOrder (direction : Direction) (e e' : CrossingEvent) : Prop where
  onward : match direction with
    | .down => e'.price ≤ e.price
    | .up => e.price ≤ e'.price
  tp_first : e.price = e'.price → ¬ (e.eventType = .entry ∧ e'.eventType = .tp)
  lower_first : e.price = e'.price → ¬ (e.eventType = .tp ∧ e'.eventType = .entry) →
    e.levelId < e'.levelId
  key_ne : e.key ≠ e'.key

/-- What a direction executes: entries have the larger priority. -/
structure Executable (direction : Direction) (e : CrossingEvent) : Prop where
  down : direction = .down → e.eventType = .tp ∧ e.priority = 0 ∨
    e.eventType = .entry ∧ e.priority = 1
  up : direction = .up → e.eventType ≠ .tp ∧ e.eventType ≠ .entry ∧ e.priority = 0

theorem executable_of_next (hn : next q direction s = some e) : Executable direction e := by
  have hmem := CrossingEngine.nearest_mem hn
  cases direction with
  | down =>
    refine ⟨fun _ => ?_, fun h => absurd h (by simp)⟩
    obtain ⟨x, -, ⟨-, -, rfl⟩ | ⟨-, -, -, rfl⟩⟩ := mem_pending_down.mp hmem
    · exact .inl ⟨rfl, rfl⟩
    · exact .inr ⟨rfl, rfl⟩
  | up =>
    refine ⟨fun h => absurd h (by simp), fun _ => ?_⟩
    obtain ⟨x, -, ⟨-, -, -, rfl⟩ | ⟨-, -, -, rfl⟩⟩ := mem_pending_up.mp hmem <;>
      simp [HedgeLevel.breakevenCrossing, HedgeLevel.stopCrossing]

theorem Executable.priority_eq (h : Executable direction e) :
    e.priority = if e.eventType = .entry then 1 else 0 := by
  cases direction with
  | down =>
    obtain ⟨htype, hpriority⟩ | ⟨htype, hpriority⟩ := h.down rfl
    · rw [hpriority, htype]
      rfl
    · rw [hpriority, htype]
      rfl
  | up =>
    obtain ⟨-, hentry, hpriority⟩ := h.up rfl
    rw [hpriority, if_neg hentry]

/-- At one price, the priority decides and then the level id. -/
theorem priority_of_sortKey_lt {e' : CrossingEvent} (hprice : e.price = e'.price)
    (h : sortKey direction e < sortKey direction e') :
    e.priority < e'.priority ∨ e.priority = e'.priority ∧ e.levelId < e'.levelId := by
  cases direction <;>
    simpa only [sortKey, Prod.Lex.toLex_lt_toLex, hprice, lt_self_iff_false, true_and,
      false_or] using h

/-- The sort key, read. -/
theorem InOrder.of_sortKey_lt {e' : CrossingEvent} (he : Executable direction e)
    (he' : Executable direction e') (h : sortKey direction e < sortKey direction e') :
    InOrder direction e e' := by
  have htie := fun hprice : e.price = e'.price => priority_of_sortKey_lt hprice h
  rw [he.priority_eq, he'.priority_eq] at htie
  refine ⟨?_, fun hprice ⟨hentry, htp⟩ => ?_, fun hprice hnot => ?_, fun hkey => ?_⟩
  · cases direction with
    | down =>
      obtain hlt | ⟨heq, -⟩ := Prod.Lex.toLex_lt_toLex.mp h
      · exact (neg_lt_neg_iff.mp hlt).le
      · exact (neg_inj.mp heq).ge
    | up =>
      obtain hlt | ⟨heq, -⟩ := Prod.Lex.toLex_lt_toLex.mp h
      · exact hlt.le
      · exact heq.le
  · have := htie hprice
    simp [hentry, htp] at this
  · obtain hlt | ⟨-, hlevel⟩ := htie hprice
    · -- of two kinds at one price the later one is an entry, and then `e` is no take profit
      have hentry' : e'.eventType = .entry := by
        by_contra hother
        rw [if_neg hother] at hlt
        exact absurd hlt (Nat.not_lt_zero _)
      cases direction with
      | down =>
        obtain ⟨htp, -⟩ | ⟨hentry, -⟩ := he.down rfl
        · exact absurd ⟨htp, hentry'⟩ hnot
        · simp [hentry, hentry'] at hlt
      | up => exact absurd hentry' (he'.up rfl).2.1
    · exact hlevel
  · obtain ⟨htype, hlevel, hprice⟩ : e.eventType = e'.eventType ∧ e.levelId = e'.levelId ∧
        e.price = e'.price := by simpa [CrossingEvent.key] using hkey
    obtain hlt | ⟨-, hlt⟩ := htie hprice
    · exact absurd hlt (by simp [htype])
    · exact absurd hlevel hlt.ne

/-! ## What is left -/

/-- What is eligible in a state of the loop is pending. -/
theorem InSegment.mem_pending (h : InSegment config spread direction p q s)
    (he : e ∈ HedgeEngine.eligibleCrossings s p q direction) : e ∈ pending q direction s := by
  obtain ⟨cursor, hseg⟩ := h.segment
  cases direction with
  | down =>
    obtain ⟨x, hx, he⟩ := List.mem_flatMap.mp he
    simp only [HedgeEngine.crossingsDown, List.mem_append, List.mem_ite_nil_right,
      List.mem_singleton] at he
    obtain ⟨⟨hact, -, hle⟩, rfl⟩ | ⟨⟨hready, harm, hle⟩, rfl⟩ := he
    · exact mem_pending_down.mpr ⟨x, hx, .inl ⟨hact, hle, rfl⟩⟩
    · exact mem_pending_down.mpr ⟨x, hx, .inr ⟨hready, harm, hle, rfl⟩⟩
  | up =>
    obtain ⟨x, hx, he⟩ := List.mem_flatMap.mp he
    unfold HedgeEngine.crossingsUp at he
    split at he
    · rename_i hfloor
      obtain rfl := List.mem_singleton.mp he
      exact mem_pending_up.mpr ⟨x, hx, .inl ⟨hfloor.1, hfloor.2.1, hfloor.2.2.2, rfl⟩⟩
    · rename_i hfloor
      simp only [List.mem_ite_nil_right, List.mem_singleton] at he
      obtain ⟨⟨hact, -, hle⟩, rfl⟩ := he
      -- The source's `elif` is for fixed hedges: a floor hedge at its stop has passed its entry.
      cases hfl : x.activeIsFloor with
      | true =>
        have hentry : p ≤ x.entryPrice :=
          hseg.inside.1.trans ((hseg.positioned x hx).le_entry hact hfl)
        have hstop := h.sound.ladder.entryPrice_lt_stopPrice hx
        exact absurd ⟨hact, hfl, hentry, hstop.le.trans hle⟩ hfloor
      | false => exact mem_pending_up.mpr ⟨x, hx, .inr ⟨hact, hfl, hle, rfl⟩⟩

/-- A loop that has ended leaves nothing eligible. -/
theorem InSegment.eligibleCrossings_eq_nil (h : InSegment config spread direction p q t)
    (hn : next q direction t = none) : HedgeEngine.eligibleCrossings t p q direction = [] := by
  refine List.eq_nil_iff_forall_not_mem.mpr fun e he => ?_
  have hmem := h.mem_pending he
  rw [CrossingEngine.nearest_eq_none.mp hn] at hmem
  exact absurd hmem List.not_mem_nil

/-! ## The segment -/

/-- What the loop of one segment does: the crossings in order, all of them inside the segment,
    and none left. -/
structure Crossed (direction : Direction) (previous current : ℚ) (levelCount : ℕ)
    (trace : List (CrossingEvent × EngineState)) (t : EngineState) : Prop where
  count : trace.length ≤ match direction with
    | .down => 2 * levelCount
    | .up => levelCount
  ordered : (trace.map Prod.fst).Pairwise (InOrder direction)
  inside : ∀ c ∈ trace, insideRemainingSegment c.1.price previous current direction
  exhausted : HedgeEngine.eligibleCrossings t previous current direction = []

theorem InSegment.crossed (h : InSegment config spread direction p q s)
    (hdrains : Drains (next q direction) (Executes config spread tickIndex) s trace t) :
    Crossed direction p q s.levels.length trace t := by
  have hpasses : Drains (next q direction) (Passes config spread tickIndex) s trace t :=
    hdrains.strengthen (fun _ _ _ hs hn he => hs.passes hn he) h
  have hend := (hdrains.invariant (fun _ _ _ hs hn he => (hs.passes hn he).2) h).1
  have hround : ∀ s e t, InSegment config spread direction p q s → next q direction s = some e →
      Executes config spread tickIndex s e t → InSegment config spread direction p q t ∧
        (insideRemainingSegment e.price p q direction ∧ Executable direction e) := by
    intro s e t hs hn he
    obtain ⟨t', he', -, hin, hseg⟩ := hs.round hn tickIndex
    obtain rfl : t' = t := Except.ok.inj (he'.symm.trans he)
    exact ⟨hin, hseg.inside, executable_of_next hn⟩
  have heach := (hdrains.invariant_of_steps (P := fun _ _ => True)
    (fun s e t hs _ hn he => hround s e t hs hn he) (fun _ _ => trivial) h).2
  have hexecutable : ∀ e ∈ trace.map Prod.fst, Executable direction e :=
    List.forall_mem_map.mpr fun c hc => (heach c hc).2.2
  refine ⟨?_, ?_, ?_, hend.eligibleCrossings_eq_nil hdrains.next_final⟩
  · have hlength := length_drains hpasses
    cases direction with
    | down => exact hlength.trans (rounds_le _ _)
    | up => exact hlength.trans (rounds_up_le _)
  · exact (sorted_drains hpasses).imp_of_mem fun he he' hlt =>
      .of_sortKey_lt (hexecutable _ he) (hexecutable _ he') hlt
  · exact fun c hc => (heach c hc).2.1

/-- **The crossing loop ends, in order and complete**, from the state any run leaves the engine in
    and for every next price. It takes as many rounds as there are crossings, whatever bound it is
    read with. A price that has not moved is no segment, and executes nothing. -/
theorem crossings_ordered (config : StrategyConfig) (spread : CreditSpread) (first : ℚ)
    (prices : List ℚ) (current : ℚ) (tickIndex : ℕ) :
    ∃ ticks final trace t,
      HedgeEngine.run config spread (first :: prices) = .ok (ticks, final) ∧
      final.previousPrice = some (prices.getLastD first) ∧
      (∀ fuel, trace.length < fuel →
        CrossingEngine.processTransition (HedgeEngine.strategy config spread) fuel
          (prices.getLastD first) current final tickIndex = .ok (trace, t)) ∧
      (prices.getLastD first = current → trace = [] ∧ t = final) ∧
      (prices.getLastD first ≠ current →
        Crossed (segmentDirection (prices.getLastD first) current) (prices.getLastD first) current
          final.levels.length trace t) := by
  obtain ⟨ticks, final, hrun, hruns⟩ := run_spec config spread first prices
  have hrest := hruns.atRest (atRest_started config spread first)
  generalize prices.getLastD first = previous at hrest ⊢
  by_cases hsame : previous = current
  · exact ⟨_, final, [], final, hrun, hrest.previousPrice_eq, fun fuel _ => if_pos hsame,
      fun _ => ⟨rfl, rfl⟩, fun hne => absurd hsame hne⟩
  · -- nothing has been taken in this move yet, so every level can still be crossed
    have hunspent : ∀ x ∈ final.levels, Unspent [] x (segmentDirection previous current) := by
      intro x _
      cases segmentDirection previous current <;> simp [Unspent]
    obtain ⟨trace, t, hdrain, hdrains⟩ := drain_eq config spread
      (segmentDirection previous current) previous current tickIndex _ previous [] final
      (Nat.lt_succ_self _) hrest.sound hrest.segment hunspent
    refine ⟨_, final, trace, t, hrun, hrest.previousPrice_eq, fun fuel hfuel => ?_,
      fun heq => absurd heq hsame, fun _ => hrest.inSegment.crossed hdrains⟩
    unfold CrossingEngine.processTransition
    rw [if_neg hsame]
    exact drain_of_le hdrain hfuel

end CreditHedge
