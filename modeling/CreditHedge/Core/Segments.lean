import CreditHedge.Core.Preservation
import CreditHedge.Lib.Drains

/-!
# One price segment

The crossing loop of a tick re-queries the eligible levels after every crossing, against the
price the segment started at, and filters them by a moving cursor and by a set of events already
executed. This file shows that none of the three matters: in every state the loop passes through,
the candidates are the crossings *pending* towards the end of the segment (`candidates_eq`), a
function of the levels and the end price alone.

So the loop is `Drains (next current direction)`: execute the nearest pending crossing until there
is none. That view does not know where the segment started, which is what lets a segment be cut.

The invariant of the loop is `Segment`. It also says that a hedge open in the middle of a segment
is on the right side of its own exits at the cursor (`Positioned`), so a snapshot taken there is
taken at a price inside the hedge's range.
-/

set_option autoImplicit false

namespace CreditHedge

open CrossingEngine (insideRemainingSegment nearest)

/-! ## Pending crossings -/

def pendingDown (current : ℚ) (level : HedgeLevel) : List CrossingEvent :=
  (if level.state = .active ∧ current ≤ level.tpPrice then [level.tpCrossing] else []) ++
  (if level.state = .ready ∧ level.entryArmed = true ∧ current ≤ level.entryPrice then
    [level.entryCrossing]
  else [])

def pendingUp (current : ℚ) (level : HedgeLevel) : List CrossingEvent :=
  (if level.state = .active ∧ level.activeIsFloor = true ∧ level.entryPrice ≤ current then
    [level.breakevenCrossing]
  else []) ++
  (if level.state = .active ∧ level.activeIsFloor = false ∧ level.stopPrice ≤ current then
    [level.stopCrossing]
  else [])

/-- What a segment ending at `current` still has to execute. -/
def pending (current : ℚ) : Direction → EngineState → List CrossingEvent
  | .down, s => s.levels.flatMap (pendingDown current)
  | .up, s => s.levels.flatMap (pendingUp current)

/-- The next crossing of the loop. -/
def next (current : ℚ) (direction : Direction) (s : EngineState) : Option CrossingEvent :=
  nearest (pending current direction s) direction

theorem mem_pending_down {current : ℚ} {s : EngineState} {e : CrossingEvent} :
    e ∈ pending current .down s ↔ ∃ x ∈ s.levels,
      (x.state = .active ∧ current ≤ x.tpPrice ∧ e = x.tpCrossing) ∨
      (x.state = .ready ∧ x.entryArmed = true ∧ current ≤ x.entryPrice ∧ e = x.entryCrossing) := by
  simp only [pending, List.mem_flatMap, pendingDown, List.mem_append, List.mem_ite_nil_right,
    List.mem_singleton, and_assoc]

theorem mem_pending_up {current : ℚ} {s : EngineState} {e : CrossingEvent} :
    e ∈ pending current .up s ↔ ∃ x ∈ s.levels,
      (x.state = .active ∧ x.activeIsFloor = true ∧ x.entryPrice ≤ current ∧
        e = x.breakevenCrossing) ∨
      (x.state = .active ∧ x.activeIsFloor = false ∧ x.stopPrice ≤ current ∧
        e = x.stopCrossing) := by
  simp only [pending, List.mem_flatMap, pendingUp, List.mem_append, List.mem_ite_nil_right,
    List.mem_singleton, and_assoc]

/-! ## The invariant of the loop -/

/-- At `price`, `level` is between its own exits, and below its entry it is not armed. -/
structure Positioned (price : ℚ) (level : HedgeLevel) : Prop where
  tp_le : level.state = .active → level.tpPrice ≤ price
  le_stop : level.state = .active → level.activeIsFloor = false → price ≤ level.stopPrice
  le_entry : level.state = .active → level.activeIsFloor = true → price ≤ level.entryPrice
  entry_le : level.state = .ready → level.entryArmed = true → level.entryPrice ≤ price

/-- The exits of an open level are ahead of the segment: the eligibility tests against the price
    the segment started at never exclude them. -/
structure Ahead (direction : Direction) (previous cursor : ℚ) (level : HedgeLevel) : Prop where
  tp_lt : level.state = .active → level.tpPrice < previous
  lt_stop : level.state = .active → level.activeIsFloor = false →
    match direction with
    | .down => cursor < level.stopPrice
    | .up => previous < level.stopPrice

/-- The loop of the segment from `previous` to `current` has come to `cursor`. -/
structure Segment (direction : Direction) (previous current cursor : ℚ)
    (levels : List HedgeLevel) : Prop where
  inside : insideRemainingSegment cursor previous current direction
  positioned : ∀ x ∈ levels, Positioned cursor x
  ahead : ∀ x ∈ levels, Ahead direction previous cursor x

variable {config : StrategyConfig} {spread : CreditSpread} {direction : Direction}
  {previous current cursor : ℚ} {s s' : EngineState} {e : CrossingEvent} {tickIndex : ℕ}

/-- The next crossing is on the way to the end of the segment, its preconditions hold, and no
    open level is left behind by going there. -/
theorem Segment.next_spec (hs : Sound config spread s.levels)
    (h : Segment direction previous current cursor s.levels)
    (hn : next current direction s = some e) :
    Enabled s.levels e ∧ insideRemainingSegment e.price cursor current direction ∧
      ∀ x ∈ s.levels, Positioned e.price x := by
  have hmem := CrossingEngine.nearest_mem hn
  cases direction with
  | down =>
    have hnear : ∀ e' ∈ pending current .down s,
        e'.price ≤ e.price ∧ (e'.price = e.price → e.priority ≤ e'.priority) :=
      fun e' he' => CrossingEngine.nearest_down hn he'
    have hinside : current ≤ e.price ∧ e.price ≤ cursor := by
      obtain ⟨x, hx, ⟨hact, hle, rfl⟩ | ⟨hready, harm, hle, rfl⟩⟩ := mem_pending_down.mp hmem
      · exact ⟨hle, (h.positioned x hx).tp_le hact⟩
      · exact ⟨hle, (h.positioned x hx).entry_le hready harm⟩
    refine ⟨?_, hinside, fun x hx => ?_⟩
    · obtain ⟨x, hx, ⟨hact, -, rfl⟩ | ⟨hready, harm, -, rfl⟩⟩ := mem_pending_down.mp hmem
      · exact .tp hx hact
      · refine .entry hx hready harm fun y hy hlt => ?_
        -- A higher level that is open or armed would have a crossing before this entry.
        cases hstate : y.state with
        | ready =>
          refine Or.inl ⟨hstate, Bool.eq_false_iff.mpr fun hyarm => ?_⟩
          have hentry := hs.ladder.entryPrice_lt_entryPrice hy hx hlt
          have := (hnear _ (mem_pending_down.mpr
            ⟨y, hy, Or.inr ⟨hstate, hyarm, hinside.1.trans hentry.le, rfl⟩⟩)).1
          exact absurd hentry (not_lt.mpr this)
        | active =>
          have htp := hs.ladder.entryPrice_le_tpPrice hy hx hlt
          have := hnear _ (mem_pending_down.mpr
            ⟨y, hy, Or.inl ⟨hstate, hinside.1.trans htp, rfl⟩⟩)
          exact absurd (this.2 (le_antisymm this.1 htp)) (by
            simp [HedgeLevel.entryCrossing, HedgeLevel.tpCrossing])
        | paid => exact Or.inr (Or.inl hstate)
        | locked => exact Or.inr (Or.inr hstate)
    · have hp := h.positioned x hx
      refine ⟨fun hact => ?_, fun hact hfix => hinside.2.trans (hp.le_stop hact hfix),
        fun hact hfl => hinside.2.trans (hp.le_entry hact hfl), fun hready harm => ?_⟩
      · rcases le_or_gt current x.tpPrice with hle | hlt
        · exact (hnear _ (mem_pending_down.mpr ⟨x, hx, Or.inl ⟨hact, hle, rfl⟩⟩)).1
        · exact hlt.le.trans hinside.1
      · rcases le_or_gt current x.entryPrice with hle | hlt
        · exact (hnear _ (mem_pending_down.mpr ⟨x, hx, Or.inr ⟨hready, harm, hle, rfl⟩⟩)).1
        · exact hlt.le.trans hinside.1
  | up =>
    have hnear : ∀ e' ∈ pending current .up s, e.price ≤ e'.price :=
      fun e' he' => CrossingEngine.nearest_up hn he'
    have hinside : cursor ≤ e.price ∧ e.price ≤ current := by
      obtain ⟨x, hx, ⟨hact, hfl, hle, rfl⟩ | ⟨hact, hfix, hle, rfl⟩⟩ := mem_pending_up.mp hmem
      · exact ⟨(h.positioned x hx).le_entry hact hfl, hle⟩
      · exact ⟨(h.positioned x hx).le_stop hact hfix, hle⟩
    refine ⟨?_, hinside, fun x hx => ?_⟩
    · obtain ⟨x, hx, ⟨hact, hfl, -, rfl⟩ | ⟨hact, hfix, -, rfl⟩⟩ := mem_pending_up.mp hmem
      · exact .breakeven hx hact hfl
      · exact .stop hx hact hfix
    · have hp := h.positioned x hx
      refine ⟨fun hact => (hp.tp_le hact).trans hinside.1, fun hact hfix => ?_,
        fun hact hfl => ?_, fun hready harm => (hp.entry_le hready harm).trans hinside.1⟩
      · rcases le_or_gt x.stopPrice current with hle | hlt
        · exact hnear _ (mem_pending_up.mpr ⟨x, hx, Or.inr ⟨hact, hfix, hle, rfl⟩⟩)
        · exact hinside.2.trans hlt.le
      · rcases le_or_gt x.entryPrice current with hle | hlt
        · exact hnear _ (mem_pending_up.mpr ⟨x, hx, Or.inl ⟨hact, hfl, hle, rfl⟩⟩)
        · exact hinside.2.trans hlt.le

theorem Positioned.congr {price : ℚ} {x y : HedgeLevel} (h : Positioned price x)
    (zone : SameZone x y) (status : SameStatus x y) : Positioned price y where
  tp_le := by rw [status.state, zone.tpPrice]; exact h.tp_le
  le_stop := by rw [status.state, status.activeIsFloor, zone.stopPrice]; exact h.le_stop
  le_entry := by rw [status.state, status.activeIsFloor, zone.entryPrice]; exact h.le_entry
  entry_le := by rw [status.state, status.entryArmed, zone.entryPrice]; exact h.entry_le

theorem Ahead.congr {x y : HedgeLevel} (h : Ahead direction previous cursor x)
    (zone : SameZone x y) (status : SameStatus x y) : Ahead direction previous cursor y where
  tp_lt := by rw [status.state, zone.tpPrice]; exact h.tp_lt
  lt_stop := by rw [status.state, status.activeIsFloor, zone.stopPrice]; exact h.lt_stop

/-- The level an event turns is positioned at the event's price. -/
theorem Turns.positioned {levels : List HedgeLevel} (hladder : Ladder config spread levels)
    {x y : HedgeLevel} (hx : x ∈ levels) (zone : SameZone x y) (h : Turns x y e) :
    Positioned e.price y := by
  have htp := hladder.tpPrice_lt_entryPrice hx
  have hstop := hladder.entryPrice_lt_stopPrice hx
  cases h with
  | opened _ _ state entryArmed =>
    refine ⟨fun _ => ?_, fun _ _ => ?_, fun _ _ => ?_, fun h => absurd h (by simp [state])⟩
    · rw [zone.tpPrice]
      exact htp.le
    · rw [zone.stopPrice]
      exact hstop.le
    · rw [zone.entryPrice]
      exact le_rfl
  | lockedOut _ _ state _ =>
    constructor <;> intro h <;> exact absurd h (by simp [state])
  | paid _ state _ =>
    constructor <;> intro h <;> exact absurd h (by simp [state])
  | stoppedOut _ _ state _ =>
    refine ⟨fun h => ?_, fun h => ?_, fun h => ?_, fun _ _ => ?_⟩
    · exact absurd h (by simp [state])
    · exact absurd h (by simp [state])
    · exact absurd h (by simp [state])
    · rw [zone.entryPrice]
      exact hstop.le
  | brokeEven _ _ state _ =>
    refine ⟨fun h => ?_, fun h => ?_, fun h => ?_, fun _ _ => ?_⟩
    · exact absurd h (by simp [state])
    · exact absurd h (by simp [state])
    · exact absurd h (by simp [state])
    · rw [zone.entryPrice]
      exact le_rfl

/-- A level opens on the way down only, where its exits are on both sides of its entry. -/
theorem Turns.ahead {levels : List HedgeLevel} (hladder : Ladder config spread levels)
    {x y : HedgeLevel} (hx : x ∈ levels) (zone : SameZone x y) (h : Turns x y e)
    (hinside : insideRemainingSegment e.price previous current direction)
    (hup : direction = .up → e.eventType ≠ .entry) : Ahead direction previous e.price y := by
  have htp := hladder.tpPrice_lt_entryPrice hx
  have hstop := hladder.entryPrice_lt_stopPrice hx
  cases h with
  | opened _ _ state _ =>
    cases direction with
    | down =>
      refine ⟨fun _ => ?_, fun _ _ => ?_⟩
      · rw [zone.tpPrice]
        exact htp.trans_le hinside.2
      · simp only [zone.stopPrice]
        exact hstop
    | up => exact absurd rfl (hup rfl)
  | lockedOut _ _ state _ => constructor <;> intro h <;> exact absurd h (by simp [state])
  | paid _ state _ => constructor <;> intro h <;> exact absurd h (by simp [state])
  | stoppedOut _ _ state _ => constructor <;> intro h <;> exact absurd h (by simp [state])
  | brokeEven _ _ state _ => constructor <;> intro h <;> exact absurd h (by simp [state])

theorem next_up_ne (hn : next current .up s = some e) :
    e.eventType ≠ .entry ∧ e.eventType ≠ .tp := by
  obtain ⟨x, -, ⟨-, -, -, rfl⟩ | ⟨-, -, -, rfl⟩⟩ :=
    mem_pending_up.mp (CrossingEngine.nearest_mem hn)
  · simp [HedgeLevel.breakevenCrossing]
  · simp [HedgeLevel.stopCrossing]

theorem next_down_ne (hn : next current .down s = some e) :
    e.eventType ≠ .stop ∧ e.eventType ≠ .breakeven := by
  obtain ⟨x, -, ⟨-, -, rfl⟩ | ⟨-, -, -, rfl⟩⟩ :=
    mem_pending_down.mp (CrossingEngine.nearest_mem hn)
  · simp [HedgeLevel.tpCrossing]
  · simp [HedgeLevel.entryCrossing]

/-- **The loop keeps its invariant**, the cursor moving to the executed crossing. -/
theorem Segment.crosses (hs : Sound config spread s.levels)
    (h : Segment direction previous current cursor s.levels)
    (hn : next current direction s = some e) (hc : Crosses config spread tickIndex s e s') :
    Segment direction previous current e.price s'.levels := by
  obtain ⟨-, hin, hpos⟩ := h.next_spec hs hn
  have hinside : insideRemainingSegment e.price previous current direction := by
    have hc := h.inside
    cases direction with
    | down => exact ⟨hin.1, hin.2.trans hc.2⟩
    | up => exact ⟨hc.1.trans hin.1, hin.2⟩
  obtain ⟨g, hlevels, hzone, hother, x₀, hx₀, hid, hturn⟩ := hc.turns
  rw [hlevels]
  refine ⟨hinside, List.forall_mem_map.mpr fun x hx => ?_, List.forall_mem_map.mpr fun x hx => ?_⟩
  · by_cases hxid : x.levelId = e.levelId
    · obtain rfl := hs.ladder.eq_of_levelId_eq hx hx₀ (hxid.trans hid.symm)
      exact hturn.positioned hs.ladder hx (hzone x hx)
    · exact (hpos x hx).congr (hzone x hx) (hother x hx hxid)
  · by_cases hxid : x.levelId = e.levelId
    · obtain rfl := hs.ladder.eq_of_levelId_eq hx hx₀ (hxid.trans hid.symm)
      exact hturn.ahead hs.ladder hx (hzone x hx) hinside
        (by rintro rfl; exact (next_up_ne hn).1)
    · have ha := h.ahead x hx
      refine Ahead.congr ⟨ha.tp_lt, fun hact hfix => ?_⟩ (hzone x hx) (hother x hx hxid)
      have hlt := ha.lt_stop hact hfix
      cases direction with
      | down => exact hin.2.trans_lt hlt
      | up => exact hlt

/-! ## The candidates are the pending crossings -/

/-- No crossing the level may still offer in this direction has been executed in this segment. -/
def Unspent (processed : List (CrossingEventType × ℕ × ℚ)) (level : HedgeLevel) :
    Direction → Prop
  | .down => (¬ level.Retired → level.tpCrossing.key ∉ processed) ∧
      (level.state = .ready → level.entryCrossing.key ∉ processed)
  | .up => level.state = .active →
      level.breakevenCrossing.key ∉ processed ∧ level.stopCrossing.key ∉ processed

theorem filter_ite_singleton {c c' : Prop} [Decidable c] [Decidable c']
    {p : CrossingEvent → Bool} {a : CrossingEvent} (h : c' ↔ c ∧ p a = true) :
    (if c then [a] else []).filter p = if c' then [a] else [] := by
  by_cases hc : c
  · by_cases hp : p a = true
    · rw [if_pos hc, if_pos (h.mpr ⟨hc, hp⟩), List.filter_cons_of_pos hp, List.filter_nil]
    · rw [if_pos hc, if_neg fun h' => hp (h.mp h').2, List.filter_cons_of_neg hp, List.filter_nil]
  · rw [if_neg hc, if_neg fun h' => hc (h.mp h').1, List.filter_nil]

theorem filter_crossingsDown {x : HedgeLevel} {processed : List (CrossingEventType × ℕ × ℚ)}
    (hp : Positioned cursor x) (ha : Ahead .down previous cursor x)
    (hu : Unspent processed x .down) :
    (HedgeEngine.crossingsDown previous current x).filter (fun event =>
      insideRemainingSegment event.price cursor current .down ∧ event.key ∉ processed) =
    pendingDown current x := by
  unfold HedgeEngine.crossingsDown pendingDown
  rw [List.filter_append]
  congr 1
  · refine filter_ite_singleton ⟨fun ⟨hact, hle⟩ => ?_, fun h => ⟨h.1.1, h.1.2.2⟩⟩
    have hlive : ¬ x.Retired := fun hr => hr.not_active hact
    exact ⟨⟨hact, ha.tp_lt hact, hle⟩, decide_eq_true ⟨⟨hle, hp.tp_le hact⟩, hu.1 hlive⟩⟩
  · refine filter_ite_singleton ⟨fun ⟨hready, harm, hle⟩ => ?_, fun h => h.1⟩
    exact ⟨⟨hready, harm, hle⟩,
      decide_eq_true ⟨⟨hle, hp.entry_le hready harm⟩, hu.2 hready⟩⟩

theorem filter_crossingsUp {x : HedgeLevel} {processed : List (CrossingEventType × ℕ × ℚ)}
    (hp : Positioned cursor x) (ha : Ahead .up previous cursor x) (hle : previous ≤ cursor)
    (hstop : x.entryPrice < x.stopPrice) (hu : Unspent processed x .up) :
    (HedgeEngine.crossingsUp previous current x).filter (fun event =>
      insideRemainingSegment event.price cursor current .up ∧ event.key ∉ processed) =
    pendingUp current x := by
  -- The source's `elif` is a second `if`: a floor hedge short of its entry is short of its stop.
  have hsplit : HedgeEngine.crossingsUp previous current x =
      (if x.state = .active ∧ x.activeIsFloor = true ∧ previous ≤ x.entryPrice ∧
        x.entryPrice ≤ current then [x.breakevenCrossing] else []) ++
      (if x.state = .active ∧ x.activeIsFloor = false ∧ previous < x.stopPrice ∧
        x.stopPrice ≤ current then [x.stopCrossing] else []) := by
    unfold HedgeEngine.crossingsUp
    by_cases hact : x.state = .active
    · by_cases hfl : x.activeIsFloor = true
      · have hentry : previous ≤ x.entryPrice := hle.trans (hp.le_entry hact hfl)
        by_cases hcur : x.entryPrice ≤ current
        · simp [hact, hfl, hentry, hcur]
        · have hcur' : ¬ x.stopPrice ≤ current := fun h => hcur (hstop.le.trans h)
          simp [hfl, hcur, hcur']
      · simp [hact, hfl]
    · simp [hact]
  rw [hsplit, List.filter_append]
  unfold pendingUp
  congr 1
  · refine filter_ite_singleton ⟨fun ⟨hact, hfl, hcur⟩ => ?_, fun h => ⟨h.1.1, h.1.2.1, h.1.2.2.2⟩⟩
    have hentry := hp.le_entry hact hfl
    exact ⟨⟨hact, hfl, hle.trans hentry, hcur⟩, decide_eq_true ⟨⟨hentry, hcur⟩, (hu hact).1⟩⟩
  · refine filter_ite_singleton ⟨fun ⟨hact, hfix, hcur⟩ => ?_, fun h => ⟨h.1.1, h.1.2.1, h.1.2.2.2⟩⟩
    exact ⟨⟨hact, hfix, ha.lt_stop hact hfix, hcur⟩,
      decide_eq_true ⟨⟨hp.le_stop hact hfix, hcur⟩, (hu hact).2⟩⟩

/-- **The candidates of every round are the pending crossings.** -/
theorem candidates_eq (hs : Sound config spread s.levels)
    (h : Segment direction previous current cursor s.levels)
    {processed : List (CrossingEventType × ℕ × ℚ)}
    (hu : ∀ x ∈ s.levels, Unspent processed x direction) :
    CrossingEngine.candidates (HedgeEngine.strategy config spread) previous current direction
      cursor processed s = pending current direction s := by
  unfold CrossingEngine.candidates
  cases direction with
  | down =>
    simp only [HedgeEngine.strategy, HedgeEngine.eligibleCrossings, List.filter_flatMap, pending]
    exact List.flatMap_congr fun x hx =>
      filter_crossingsDown (h.positioned x hx) (h.ahead x hx) (hu x hx)
  | up =>
    simp only [HedgeEngine.strategy, HedgeEngine.eligibleCrossings, List.filter_flatMap, pending]
    exact List.flatMap_congr fun x hx =>
      filter_crossingsUp (h.positioned x hx) (h.ahead x hx) h.inside.1
        (hs.ladder.entryPrice_lt_stopPrice hx) (hu x hx)

/-- Executing a crossing spends its own key only, and the level it turns does not offer that
    crossing again before the direction changes. -/
theorem Unspent.crosses (hs : Sound config spread s.levels)
    (hn : next current direction s = some e) (hc : Crosses config spread tickIndex s e s')
    {processed : List (CrossingEventType × ℕ × ℚ)}
    (hu : ∀ x ∈ s.levels, Unspent processed x direction) :
    ∀ x ∈ s'.levels, Unspent (e.key :: processed) x direction := by
  obtain ⟨g, hlevels, hzone, hother, x₀, hx₀, hid, hturn⟩ := hc.turns
  rw [hlevels]
  refine List.forall_mem_map.mpr fun x hx => ?_
  have hux := hu x hx
  by_cases hxid : x.levelId = e.levelId
  · obtain rfl := hs.ladder.eq_of_levelId_eq hx hx₀ (hxid.trans hid.symm)
    cases direction with
    | down =>
      have hexit := next_down_ne hn
      unfold Unspent HedgeLevel.Retired at hux ⊢
      rw [(hzone x hx).tpCrossing, (hzone x hx).entryCrossing]
      cases hturn with
      | opened ready _ state _ =>
        refine ⟨fun _ => ?_, fun h => absurd h (by simp [state])⟩
        exact List.not_mem_cons_of_ne_of_not_mem
          (by simp [CrossingEvent.key, HedgeLevel.tpCrossing, HedgeLevel.entryCrossing])
          (hux.1 (by simp [ready]))
      | lockedOut _ _ state _ => simp [state]
      | paid _ state _ => simp [state]
      | stoppedOut => exact absurd rfl hexit.1
      | brokeEven => exact absurd rfl hexit.2
    | up =>
      have hentry := (next_up_ne hn).1
      unfold Unspent
      cases hturn with
      | opened => exact absurd rfl hentry
      | lockedOut _ _ state _ => simp [state]
      | paid _ state _ => simp [state]
      | stoppedOut _ _ state _ => simp [state]
      | brokeEven _ _ state _ => simp [state]
  · have hstatus := hother x hx hxid
    have hkey : ∀ c : CrossingEvent, c.levelId = x.levelId → c.key ∉ processed →
        c.key ∉ e.key :: processed := by
      intro c hcid hc
      refine List.not_mem_cons_of_ne_of_not_mem (fun heq => hxid ?_) hc
      exact hcid.symm.trans (congrArg (fun k => k.2.1) heq)
    cases direction with
    | down =>
      unfold Unspent HedgeLevel.Retired at hux ⊢
      rw [(hzone x hx).tpCrossing, (hzone x hx).entryCrossing, hstatus.state]
      exact ⟨fun h => hkey _ rfl (hux.1 h), fun h => hkey _ rfl (hux.2 h)⟩
    | up =>
      unfold Unspent at hux ⊢
      rw [(hzone x hx).breakevenCrossing, (hzone x hx).stopCrossing, hstatus.state]
      exact fun h => ⟨hkey _ rfl (hux h).1, hkey _ rfl (hux h).2⟩

/-! ## The loop ends -/

/-- How many crossings a level has left in a direction, at most. -/
def roundsLeft : Direction → LevelState → ℕ
  | .down, .ready => 2
  | .down, .active => 1
  | .up, .active => 1
  | _, _ => 0

theorem roundsLeft_le_two (direction : Direction) (state : LevelState) :
    roundsLeft direction state ≤ 2 := by
  cases direction <;> cases state <;> decide

def rounds (direction : Direction) (levels : List HedgeLevel) : ℕ :=
  (levels.map fun x => roundsLeft direction x.state).sum

theorem rounds_le (direction : Direction) (levels : List HedgeLevel) :
    rounds direction levels ≤ 2 * levels.length := by
  unfold rounds
  have h := List.sum_le_card_nsmul (levels.map fun x => roundsLeft direction x.state) 2 (by
    intro n hn
    obtain ⟨x, -, rfl⟩ := List.mem_map.mp hn
    exact roundsLeft_le_two direction x.state)
  rw [List.length_map, nsmul_eq_mul, Nat.cast_id] at h
  omega

/-- Every crossing uses up a round of the level it turns. -/
theorem rounds_crosses (hs : Sound config spread s.levels) (hn : next current direction s = some e)
    (hc : Crosses config spread tickIndex s e s') :
    rounds direction s'.levels < rounds direction s.levels := by
  obtain ⟨g, hlevels, -, hother, x₀, hx₀, hid, hturn⟩ := hc.turns
  have hdrop : roundsLeft direction (g x₀).state < roundsLeft direction x₀.state := by
    cases direction with
    | down =>
      have hexit := next_down_ne hn
      cases hturn with
      | opened ready _ state _ => rw [ready, state]; decide
      | lockedOut ready _ state _ => rw [ready, state]; decide
      | paid active state _ => rw [active, state]; decide
      | stoppedOut => exact absurd rfl hexit.1
      | brokeEven => exact absurd rfl hexit.2
    | up =>
      have hentry := (next_up_ne hn).1
      cases hturn with
      | opened => exact absurd rfl hentry
      | lockedOut => exact absurd rfl hentry
      | paid active state _ => rw [active, state]; decide
      | stoppedOut active _ state _ => rw [active, state]; decide
      | brokeEven active _ state _ => rw [active, state]; decide
  unfold rounds
  rw [hlevels, List.map_map]
  refine List.sum_lt_sum _ _ (fun x hx => ?_) ⟨x₀, hx₀, hdrop⟩
  by_cases hxid : x.levelId = e.levelId
  · obtain rfl := hs.ladder.eq_of_levelId_eq hx hx₀ (hxid.trans hid.symm)
    exact hdrop.le
  · exact (congrArg (roundsLeft direction) (hother x hx hxid).state).le

/-- Executing one crossing, as a relation. -/
def Executes (config : StrategyConfig) (spread : CreditSpread) (tickIndex : ℕ)
    (s : EngineState) (e : CrossingEvent) (s' : EngineState) : Prop :=
  HedgeEngine.executeCrossing config spread s e tickIndex = .ok s'

/-- A state the loop of a segment passes through. -/
structure InSegment (config : StrategyConfig) (spread : CreditSpread) (direction : Direction)
    (previous current : ℚ) (s : EngineState) : Prop where
  sound : Sound config spread s.levels
  segment : ∃ cursor, Segment direction previous current cursor s.levels

/-- **One round of the loop**: the next crossing executes, what it does is listed in `Crosses`,
    it keeps the invariant, and the state it leaves is positioned at its price. -/
theorem InSegment.round (h : InSegment config spread direction previous current s)
    (hn : next current direction s = some e) (tickIndex : ℕ) :
    ∃ s', Executes config spread tickIndex s e s' ∧ Crosses config spread tickIndex s e s' ∧
      InSegment config spread direction previous current s' ∧
      Segment direction previous current e.price s'.levels := by
  obtain ⟨cursor, hseg⟩ := h.segment
  obtain ⟨henabled, -, -⟩ := hseg.next_spec h.sound hn
  obtain ⟨s', hc⟩ := henabled.crosses config spread tickIndex
  have hseg' := hseg.crosses h.sound hn hc
  exact ⟨s', hc.executes h.sound, hc, ⟨hc.sound h.sound, _, hseg'⟩, hseg'⟩

/-- The bounded loop of the model is the loop: with a round for every crossing left, it executes
    the pending crossings until there is none. -/
theorem drain_eq (config : StrategyConfig) (spread : CreditSpread) (direction : Direction)
    (previous current : ℚ) (tickIndex : ℕ) :
    ∀ (fuel : ℕ) (cursor : ℚ) (processed : List (CrossingEventType × ℕ × ℚ))
    (s : EngineState), rounds direction s.levels < fuel → Sound config spread s.levels →
    Segment direction previous current cursor s.levels →
    (∀ x ∈ s.levels, Unspent processed x direction) →
    ∃ trace t, CrossingEngine.drain (HedgeEngine.strategy config spread) previous current direction
        tickIndex fuel cursor processed s = .ok (trace, t) ∧
      Drains (next current direction) (Executes config spread tickIndex) s trace t
  | 0, _, _, _, hfuel, _, _, _ => absurd hfuel (Nat.not_lt_zero _)
  | fuel + 1, cursor, processed, s, hfuel, hs, hseg, hu => by
    unfold CrossingEngine.drain
    rw [candidates_eq hs hseg hu]
    cases hn : next current direction s with
    | none =>
      have hn' : nearest (pending current direction s) direction = none := hn
      rw [hn']
      exact ⟨[], s, rfl, .done hn⟩
    | some e =>
      have hn' : nearest (pending current direction s) direction = some e := hn
      have hin : InSegment config spread direction previous current s := ⟨hs, cursor, hseg⟩
      obtain ⟨s', hexec, hc, -, hseg'⟩ := hin.round hn tickIndex
      have hround := rounds_crosses hs hn hc
      obtain ⟨trace, t, hdrain, hdrains⟩ :=
        drain_eq config spread direction previous current tickIndex
        fuel e.price (e.key :: processed) s' (by omega) (hc.sound hs) hseg'
        (Unspent.crosses hs hn hc hu)
      have hexec' : (HedgeEngine.strategy config spread).executeCrossing s e tickIndex = .ok s' :=
        hexec
      simp only [hn', hexec', hdrain, bind, Except.bind, pure, Except.pure]
      exact ⟨_, t, rfl, .step hn hexec hdrains⟩

end CreditHedge
