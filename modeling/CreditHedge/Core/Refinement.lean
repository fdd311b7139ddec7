import CreditHedge.Core.Runs

/-!
# Path refinement

Inserting prices between two consecutive prices of a path, in order, changes nothing but the tick
indices in the ledger. Two things could break that and neither does.

*The loop restarts.* A segment cut at `c` runs the loop twice, with a fresh start price, a fresh
cursor and an empty processed set. But the loop only depends on the pending crossings, and what
is pending up to `c` is what is pending up to the end, less what comes after `c` (`next_of_near`).
So the run of the whole segment begins with the run of its first part (`Drains.split`).

*The engine arms at `c`.* On the way down that arms nothing: a ready level that `c` could arm was
armed by the higher price the segment came from (`ReadyArmed`). On the way up it arms levels early,
which no crossing on the way up looks at, and the end of the segment arms them anyway.
-/

set_option autoImplicit false

namespace CreditHedge

open CrossingEngine (segmentDirection nearest sortKey)

variable {config : StrategyConfig} {spread : CreditSpread} {p q a b c : ℚ} {s s' t t' : EngineState}
  {e : CrossingEvent} {i j : ℕ} {direction : Direction}

/-! ## The ledger without tick indices -/

def LedgerEvent.untimed (event : LedgerEvent) : LedgerEvent := { event with tickIndex := 0 }

/-- The ledger, its events without their tick index. -/
def Ledger.untimed (ledger : Ledger) : Ledger :=
  { ledger with events := ledger.events.map LedgerEvent.untimed }

/-- Same levels, and the same ledger up to tick indices. -/
structure Alike (s s' : EngineState) : Prop where
  levels_eq : s'.levels = s.levels
  ledger_eq : s'.ledger.untimed = s.ledger.untimed

theorem Alike.refl (s : EngineState) : Alike s s := ⟨rfl, rfl⟩

theorem Alike.trans {u : EngineState} (h : Alike s t) (h' : Alike t u) : Alike s u :=
  ⟨h'.levels_eq.trans h.levels_eq, h'.ledger_eq.trans h.ledger_eq⟩

theorem Alike.closedAt (h : Alike s s') (q : ℚ) : Alike (s.closedAt q) (s'.closedAt q) :=
  ⟨by rw [EngineState.closedAt_levels, EngineState.closedAt_levels, h.levels_eq], h.ledger_eq⟩

namespace Ledger

variable (ledger : Ledger) (level : HedgeLevel) (quantity x y z : ℚ)

theorem untimed_append (eventType : LedgerEventType) (price realizedPnl : ℚ)
    (allocations : List (ℕ × ℚ)) :
    (ledger.append level i quantity eventType price realizedPnl x y z allocations).untimed =
      ledger.untimed.append level 0 quantity eventType price realizedPnl x y z allocations := by
  simp [Ledger.append, Ledger.untimed, LedgerEvent.untimed]

theorem untimed_recordEntry : (ledger.recordEntry level i quantity x).untimed =
    ledger.untimed.recordEntry level 0 quantity x :=
  untimed_append ..

theorem untimed_recordFloorEntry : (ledger.recordFloorEntry level i quantity x).untimed =
    ledger.untimed.recordFloorEntry level 0 quantity x :=
  untimed_append ..

theorem untimed_recordLocked : (ledger.recordLocked level i quantity x).untimed =
    ledger.untimed.recordLocked level 0 quantity x :=
  untimed_append ..

theorem untimed_recordTp (allocations : List (ℕ × ℚ)) :
    (ledger.recordTp level i quantity x y z allocations).untimed =
      ledger.untimed.recordTp level 0 quantity x y z allocations :=
  untimed_append ..

theorem untimed_recordStop : (ledger.recordStop level i quantity x).untimed =
    ledger.untimed.recordStop level 0 quantity x :=
  untimed_append ..

theorem untimed_recordBreakeven : (ledger.recordBreakeven level i quantity).untimed =
    ledger.untimed.recordBreakeven level 0 quantity :=
  untimed_append ..

end Ledger

/-- A crossing does to a like state what it does to the state, whatever the tick. -/
theorem Alike.crosses (h : Alike s s') (hc : Crosses config spread i s e t) (j : ℕ) :
    ∃ t', Crosses config spread j s' e t' ∧ Alike t t' := by
  obtain ⟨levels, ledger, previousPrice⟩ := s
  obtain ⟨levels', ledger', previousPrice'⟩ := s'
  obtain ⟨hlevels, hledger⟩ := h
  dsimp only at hlevels hledger
  subst hlevels
  have hgross : ledger'.grossStopLosses = ledger.grossStopLosses := by
    have := congrArg Ledger.grossStopLosses hledger
    exact this
  have hrefused : ∀ level, Refused config spread ⟨levels', ledger', previousPrice'⟩ level ↔
      Refused config spread ⟨levels', ledger, previousPrice⟩ level := by
    intro level
    unfold Refused EngineState.usedStopBudget
    rw [hgross]
  cases hc with
  | opened hl ready armed above afforded =>
    refine ⟨_, .opened hl ready armed above fun hr => afforded ((hrefused _).mp hr), rfl, ?_⟩
    rw [Ledger.untimed_recordEntry, Ledger.untimed_recordEntry, hledger]
  | floored hl ready armed above refused policy =>
    refine ⟨_, .floored hl ready armed above ((hrefused _).mpr refused) policy, rfl, ?_⟩
    rw [Ledger.untimed_recordFloorEntry, Ledger.untimed_recordFloorEntry, hledger]
  | lockedOut hl ready armed above refused policy =>
    refine ⟨_, .lockedOut hl ready armed above ((hrefused _).mpr refused) policy, rfl, ?_⟩
    rw [Ledger.untimed_recordLocked, Ledger.untimed_recordLocked, hledger]
  | paid hl active =>
    refine ⟨_, .paid hl active, rfl, ?_⟩
    rw [Ledger.untimed_recordTp, Ledger.untimed_recordTp, hledger]
  | stoppedOut hl active fixed =>
    refine ⟨_, .stoppedOut hl active fixed, rfl, ?_⟩
    rw [Ledger.untimed_recordStop, Ledger.untimed_recordStop, hledger]
  | brokeEven hl active floor =>
    refine ⟨_, .brokeEven hl active floor, rfl, ?_⟩
    rw [Ledger.untimed_recordBreakeven, Ledger.untimed_recordBreakeven, hledger]

theorem Alike.next (h : Alike s s') : next b direction s' = next b direction s := by
  unfold CreditHedge.next
  cases direction <;> simp only [pending, h.levels_eq]

/-- **Like states sweep alike.** -/
theorem Alike.sweeps (h : Alike s s') {trace trace' : List (CrossingEvent × EngineState)}
    (hsweeps : Sweeps config spread i p q s trace t)
    (hsweeps' : Sweeps config spread j p q s' trace' t') : Alike t t' := by
  cases hsweeps with
  | still heq =>
    cases hsweeps' with
    | still => exact h
    | drained hne => exact absurd heq hne
  | drained hne hd =>
    cases hsweeps' with
    | still heq => exact absurd heq hne
    | drained _ hd' =>
      obtain ⟨trace'', t'', hd'', ht'', -⟩ := hd.simulate
        (E := Executes config spread j) (R := Alike) (fun _ _ h => h.next)
        (fun u u' e v hu _ he => by
          obtain ⟨v', hc, hv⟩ := hu.crosses he.crosses j
          exact ⟨v', hc.executes (hu.levels_eq ▸ he.sound), hv⟩) h
      have hexec := hd'.strengthen (E := Executes config spread j) (I := fun _ => True)
        (fun _ _ _ _ _ he => ⟨he.executes, trivial⟩) trivial
      obtain ⟨-, rfl⟩ := hd''.deterministic
        (fun _ _ _ _ he he' => Except.ok.inj (he.symm.trans he')) hexec
      exact ht''

/-! ## Cutting the loop -/

/-- `c` lies between the ends of a segment that runs in `direction` to `b`. -/
def Before (direction : Direction) (c b : ℚ) : Prop :=
  match direction with
  | .down => b ≤ c
  | .up => c ≤ b

/-- The price is reached by the time the segment reaches `c`. -/
def reached (direction : Direction) (c : ℚ) (event : CrossingEvent) : Bool :=
  match direction with
  | .down => decide (c ≤ event.price)
  | .up => decide (event.price ≤ c)

/-- What is pending up to `c` is what is pending up to `b` and reached by `c`. -/
theorem filter_pending (hcb : Before direction c b) (s : EngineState) :
    (pending b direction s).filter (reached direction c) = pending c direction s := by
  cases direction with
  | down =>
    simp only [pending, List.filter_flatMap]
    refine List.flatMap_congr fun x _ => ?_
    unfold pendingDown
    rw [List.filter_append]
    congr 1
    · exact filter_ite_singleton ⟨fun h => ⟨⟨h.1, hcb.trans h.2⟩, decide_eq_true h.2⟩,
        fun h => ⟨h.1.1, of_decide_eq_true h.2⟩⟩
    · exact filter_ite_singleton
        ⟨fun h => ⟨⟨h.1, h.2.1, hcb.trans h.2.2⟩, decide_eq_true h.2.2⟩,
          fun h => ⟨h.1.1, h.1.2.1, of_decide_eq_true h.2⟩⟩
  | up =>
    simp only [pending, List.filter_flatMap]
    refine List.flatMap_congr fun x _ => ?_
    unfold pendingUp
    rw [List.filter_append]
    congr 1
    · exact filter_ite_singleton
        ⟨fun h => ⟨⟨h.1, h.2.1, h.2.2.trans hcb⟩, decide_eq_true h.2.2⟩,
          fun h => ⟨h.1.1, h.1.2.1, of_decide_eq_true h.2⟩⟩
    · exact filter_ite_singleton
        ⟨fun h => ⟨⟨h.1, h.2.1, h.2.2.trans hcb⟩, decide_eq_true h.2.2⟩,
          fun h => ⟨h.1.1, h.1.2.1, of_decide_eq_true h.2⟩⟩

/-- **A crossing that is next up to `c` is next up to the end.** -/
theorem next_of_near (hcb : Before direction c b) (hn : next c direction s = some e) :
    next b direction s = some e := by
  unfold next at hn ⊢
  rw [← filter_pending hcb s] at hn
  refine CrossingEngine.nearest_filter (fun x _ y _ hx hy => ?_) hn
  cases direction with
  | down =>
    have hx := of_decide_eq_true hx
    have hy := of_decide_eq_false hy
    simp only [sortKey, Prod.Lex.toLex_lt_toLex]
    exact Or.inl (neg_lt_neg ((not_le.mp hy).trans_le hx))
  | up =>
    have hx := of_decide_eq_true hx
    have hy := of_decide_eq_false hy
    simp only [sortKey, Prod.Lex.toLex_lt_toLex]
    exact Or.inl (hx.trans_lt (not_le.mp hy))

/-! ## Arming at the cut -/

/-- Every ready level that `price` could arm is armed. -/
def ReadyArmed (price : ℚ) (levels : List HedgeLevel) : Prop :=
  ∀ x ∈ levels, x.state = .ready → x.entryPrice ≤ price → x.entryArmed = true

theorem ReadyArmed.passes (h : ReadyArmed c s.levels) (hp : Passes config spread i s e t) :
    ReadyArmed c t.levels := by
  obtain ⟨g, hlevels, hzone, hother, x₀, hx₀, hid, hturn⟩ := hp.crosses.turns
  rw [hlevels]
  refine List.forall_mem_map.mpr fun x hx hready hle => ?_
  by_cases hxid : x.levelId = e.levelId
  · obtain rfl := hp.sound.ladder.eq_of_levelId_eq hx hx₀ (hxid.trans hid.symm)
    cases hturn with
    | opened _ _ state _ => rw [state] at hready; exact absurd hready (by simp)
    | lockedOut _ _ state _ => rw [state] at hready; exact absurd hready (by simp)
    | paid _ state _ => rw [state] at hready; exact absurd hready (by simp)
    | stoppedOut _ _ _ entryArmed => exact entryArmed
    | brokeEven _ _ _ entryArmed => exact entryArmed
  · have hstatus := hother x hx hxid
    rw [hstatus.state] at hready
    rw [(hzone x hx).entryPrice] at hle
    rw [hstatus.entryArmed]
    exact h x hx hready hle

theorem ReadyArmed.map_armedAt {levels : List HedgeLevel} (h : ReadyArmed c levels) :
    levels.map (HedgeLevel.armedAt · c) = levels := by
  refine (List.map_congr_left fun x hx => ?_).trans (List.map_id _)
  by_cases hready : x.state = .ready ∧ x.entryPrice ≤ c
  · exact HedgeLevel.armedAt_of_armed (h x hx hready.1 hready.2)
  · exact if_neg hready

theorem AtRest.readyArmed (h : AtRest config spread a s) (hca : c ≤ a) : ReadyArmed c s.levels :=
  fun x hx hready hle => ((h.settled x hx).armed_iff hready).mpr (hle.trans hca)

/-- Arming at a higher price afterwards makes arming at a lower price before it redundant. -/
theorem armedAt_armedAt (hcb : c ≤ b) (x : HedgeLevel) :
    (x.armedAt c).armedAt b = x.armedAt b := by
  by_cases hready : x.state = .ready ∧ x.entryPrice ≤ c
  · have hc : (x.armedAt c).entryArmed = true :=
      (HedgeLevel.armedAt_entryArmed x c).mpr (Or.inr hready)
    rw [HedgeLevel.armedAt_of_armed hc]
    unfold HedgeLevel.armedAt
    rw [if_pos hready, if_pos ⟨hready.1, hready.2.trans hcb⟩]
  · rw [show x.armedAt c = x from if_neg hready]

/-- `s'` is `s` armed early, at `c`, which on the way down arms nothing. -/
structure ArmedEarly (direction : Direction) (c : ℚ) (s s' : EngineState) : Prop where
  levels_eq : s'.levels = s.levels.map (HedgeLevel.armedAt · c)
  ledger_eq : s'.ledger.untimed = s.ledger.untimed
  readyArmed : direction = .down → ReadyArmed c s.levels

theorem ArmedEarly.next (h : ArmedEarly direction c s s') :
    next b direction s' = next b direction s := by
  unfold CreditHedge.next
  cases direction with
  | down => simp only [pending, h.levels_eq, (h.readyArmed rfl).map_armedAt]
  | up =>
    refine congrArg (nearest · .up) ?_
    simp only [pending, h.levels_eq, List.flatMap_map]
    refine List.flatMap_congr fun x _ => ?_
    have hz : SameZone x (x.armedAt c) := SameZone.armedAt c
    simp only [pendingUp, HedgeLevel.armedAt_state, HedgeLevel.armedAt_activeIsFloor,
      hz.entryPrice, hz.stopPrice, hz.breakevenCrossing, hz.stopCrossing]

/-- Rewriting an open level into an armed one commutes with arming the others. -/
theorem map_updating_armedAt {levels : List HedgeLevel} (hladder : Ladder config spread levels)
    {level : HedgeLevel} (hl : level ∈ levels) (active : level.state = .active)
    {f : HedgeLevel → HedgeLevel} (hf : (f level).entryArmed = true) :
    (levels.map (HedgeLevel.armedAt · c)).map (HedgeLevel.updating level.levelId f) =
      (levels.map (HedgeLevel.updating level.levelId f)).map (HedgeLevel.armedAt · c) := by
  rw [List.map_map, List.map_map]
  refine List.map_congr_left fun x hx => ?_
  have hz : SameZone x (x.armedAt c) := SameZone.armedAt c
  simp only [Function.comp_apply]
  rcases hladder.updating_cases hl hx f with ⟨rfl, h⟩ | ⟨hne, h⟩
  · have hsame : x.armedAt c = x := HedgeLevel.armedAt_of_not_ready (by simp [active])
    rw [hsame, h, HedgeLevel.armedAt_of_armed hf]
  · rw [h, HedgeLevel.updating_of_ne (by rw [hz.levelId]; exact hne)]

/-- A crossing of the way up does not see that other levels were armed early. -/
theorem ArmedEarly.crosses (h : ArmedEarly direction c s s')
    (hn : CreditHedge.next b direction s = some e)
    (hp : Passes config spread i s e t) (j : ℕ) :
    ∃ t', Executes config spread j s' e t' ∧ ArmedEarly direction c t t' := by
  cases direction with
  | down =>
    have halike : Alike s s' := ⟨by rw [h.levels_eq, (h.readyArmed rfl).map_armedAt], h.ledger_eq⟩
    obtain ⟨t', hc, ht⟩ := halike.crosses hp.crosses j
    have harmed := (h.readyArmed rfl).passes hp
    exact ⟨t', hc.executes (halike.levels_eq ▸ hp.sound),
      by rw [harmed.map_armedAt]; exact ht.levels_eq, ht.ledger_eq, fun _ => harmed⟩
  | up =>
    have hne := next_up_ne hn
    have hs' : Sound config spread s'.levels := h.levels_eq ▸ hp.sound.arm c
    have hmem : ∀ {level : HedgeLevel}, level ∈ s.levels → level.state = .active →
        level ∈ s'.levels := by
      intro level hl active
      rw [h.levels_eq]
      have hsame : level.armedAt c = level := HedgeLevel.armedAt_of_not_ready (by simp [active])
      exact List.mem_map.mpr ⟨level, hl, hsame⟩
    cases hp.crosses with
    | opened => exact absurd rfl hne.1
    | floored => exact absurd rfl hne.1
    | lockedOut => exact absurd rfl hne.1
    | paid => exact absurd rfl hne.2
    | @stoppedOut level hl active fixed =>
      refine ⟨_, Crosses.executes hs' (.stoppedOut (hmem hl active) active fixed), ?_, ?_,
        fun hd => absurd hd (by simp)⟩
      · dsimp only
        rw [h.levels_eq, map_updating_armedAt hp.sound.ladder hl active rfl]
      · rw [Ledger.untimed_recordStop, Ledger.untimed_recordStop, h.ledger_eq]
    | @brokeEven level hl active floor =>
      refine ⟨_, Crosses.executes hs' (.brokeEven (hmem hl active) active floor), ?_, ?_,
        fun hd => absurd hd (by simp)⟩
      · dsimp only
        rw [h.levels_eq, map_updating_armedAt hp.sound.ladder hl active rfl]
      · rw [Ledger.untimed_recordBreakeven, Ledger.untimed_recordBreakeven, h.ledger_eq]

/-! ## Cutting one segment -/

/-- `c` lies between `a` and `b`. -/
def Between (a b c : ℚ) : Prop := (a ≤ c ∧ c ≤ b) ∨ (b ≤ c ∧ c ≤ a)

/-- The two parts of a segment run in its direction, the first before the second. -/
theorem Between.parts (h : Between a b c) (hac : a ≠ c) (hcb : c ≠ b) :
    segmentDirection a c = segmentDirection a b ∧ segmentDirection c b = segmentDirection a b ∧
      Before (segmentDirection a b) c b ∧ (segmentDirection a b = .down → c ≤ a) ∧ a ≠ b := by
  unfold segmentDirection
  rcases h with ⟨h₁, h₂⟩ | ⟨h₁, h₂⟩
  · have h₃ := h₁.trans h₂
    rw [if_neg (not_lt.mpr h₁), if_neg (not_lt.mpr h₂), if_neg (not_lt.mpr h₃)]
    exact ⟨rfl, rfl, h₂, fun h => absurd h (by simp),
      ((lt_of_le_of_ne h₁ hac).trans_le h₂).ne⟩
  · have hlt₁ : c < a := lt_of_le_of_ne h₂ (Ne.symm hac)
    have hlt₂ : b < c := lt_of_le_of_ne h₁ (Ne.symm hcb)
    rw [if_pos hlt₁, if_pos hlt₂, if_pos (hlt₂.trans hlt₁)]
    exact ⟨rfl, rfl, h₁, fun _ => h₂, (hlt₂.trans hlt₁).ne'⟩

/-- At the end of the segment, having armed early makes no difference. -/
theorem ArmedEarly.closedAt (h : ArmedEarly direction c s s') (hcb : Before direction c b) :
    Alike (s.closedAt b) (s'.closedAt b) := by
  refine ⟨?_, h.ledger_eq⟩
  rw [EngineState.closedAt_levels, EngineState.closedAt_levels, h.levels_eq]
  cases direction with
  | down => rw [(h.readyArmed rfl).map_armedAt]
  | up =>
    rw [List.map_map]
    exact List.map_congr_left fun x _ => armedAt_armedAt hcb x

theorem Sweeps.drains (hab : a ≠ b) {trace : List (CrossingEvent × EngineState)}
    (h : Sweeps config spread i a b s trace t) :
    Drains (next b (segmentDirection a b)) (Passes config spread i) s trace t := by
  cases h with
  | still heq => exact absurd heq hab
  | drained _ hd => exact hd

/-- **Cutting a segment at a price it passes** leaves a like state. -/
theorem sweeps_split {k : ℕ} {trace trace₁ trace₂ : List (CrossingEvent × EngineState)}
    {t₁ t₂ : EngineState} (h : AtRest config spread a s) (hc : Between a b c)
    (hwhole : Sweeps config spread i a b s trace t)
    (hfirst : Sweeps config spread j a c s trace₁ t₁)
    (hsecond : Sweeps config spread k c b (t₁.closedAt c) trace₂ t₂) :
    Alike (t.closedAt b) (t₂.closedAt b) := by
  by_cases hac : a = c
  · subst hac
    obtain rfl : t₁ = s := by
      cases hfirst with
      | still => rfl
      | drained hne => exact absurd rfl hne
    have hrest : Alike t₁ (t₁.closedAt a) :=
      ⟨(h.readyArmed le_rfl).map_armedAt, rfl⟩
    exact (hrest.sweeps hwhole hsecond).closedAt b
  by_cases hcb : c = b
  · subst hcb
    obtain rfl : t₂ = t₁.closedAt c := by
      cases hsecond with
      | still => rfl
      | drained hne => exact absurd rfl hne
    refine (((Alike.refl s).sweeps hwhole hfirst).closedAt c).trans ⟨?_, rfl⟩
    rw [EngineState.closedAt_levels, EngineState.closedAt_levels, List.map_map]
    exact List.map_congr_left fun x _ => armedAt_armedAt le_rfl x
  obtain ⟨hd₁, hd₂, hbefore, hdown, hab⟩ := hc.parts hac hcb
  -- The first part again, under the whole segment's tick index.
  obtain ⟨trace₀, t₀, -, hfirst₀, -⟩ := step_spec h c i
  have halike : Alike t₀ t₁ := (Alike.refl s).sweeps hfirst₀ hfirst
  have hdrain₀ := hfirst₀.drains hac
  rw [hd₁] at hdrain₀
  obtain ⟨rest, hrest, -⟩ := hdrain₀.split (fun _ _ _ _ he he' => he.deterministic he')
    (fun _ _ => next_of_near hbefore) (hwhole.drains hab)
  have hearly : ArmedEarly (segmentDirection a b) c t₀ (t₁.closedAt c) := by
    refine ⟨by rw [EngineState.closedAt_levels, halike.levels_eq], halike.ledger_eq, fun hd => ?_⟩
    exact (hdrain₀.invariant (I := fun s => ReadyArmed c s.levels)
      (fun _ _ _ hs _ he => hs.passes he) (h.readyArmed (hdown hd))).1
  obtain ⟨trace', t', hdrain', hearly', -⟩ := hrest.simulate
    (E := Executes config spread k) (R := ArmedEarly (segmentDirection a b) c)
    (fun _ _ h => h.next) (fun _ _ _ _ h hn he => h.crosses hn he k) hearly
  have hdrain₂ := hsecond.drains hcb
  rw [hd₂] at hdrain₂
  have hexec := hdrain₂.strengthen (E := Executes config spread k) (I := fun _ => True)
    (fun _ _ _ _ _ he => ⟨he.executes, trivial⟩) trivial
  obtain ⟨-, rfl⟩ := hdrain'.deterministic
    (fun _ _ _ _ he he' => Except.ok.inj (he.symm.trans he')) hexec
  exact hearly'.closedAt hbefore

/-! ## Refining a path -/

/-- `mid` is a monotone subdivision of the way from `a` to `b`. -/
def Subdivides (a b : ℚ) (mid : List ℚ) : Prop :=
  (a :: (mid ++ [b])).Pairwise (· ≤ ·) ∨ (a :: (mid ++ [b])).Pairwise (· ≥ ·)

/-- The second path is the first with further prices inserted, each batch of them a monotone
    subdivision of the way between two consecutive prices. -/
inductive Refines : List ℚ → List ℚ → Prop
  | nil : Refines [] []
  | single (a : ℚ) : Refines [a] [a]
  | insert {a b : ℚ} {mid rest rest' : List ℚ} (hmid : Subdivides a b mid)
      (h : Refines (b :: rest) (b :: rest')) :
      Refines (a :: b :: rest) (a :: (mid ++ b :: rest'))

theorem Subdivides.cons {mid : List ℚ} (h : Subdivides a b (c :: mid)) :
    Between a b c ∧ Subdivides c b mid := by
  rcases h with h | h
  · have hcb := List.pairwise_cons.mp (List.pairwise_cons.mp h).2
    exact ⟨Or.inl ⟨(List.pairwise_cons.mp h).1 c (List.mem_cons_self ..),
      hcb.1 b (List.mem_append_right _ (List.mem_singleton.mpr rfl))⟩,
      Or.inl (List.pairwise_cons.mp h).2⟩
  · have hcb := List.pairwise_cons.mp (List.pairwise_cons.mp h).2
    exact ⟨Or.inr ⟨hcb.1 b (List.mem_append_right _ (List.mem_singleton.mpr rfl)),
      (List.pairwise_cons.mp h).1 c (List.mem_cons_self ..)⟩,
      Or.inr (List.pairwise_cons.mp h).2⟩

/-- A run over a subdivision of `a..b` is, when it comes to `b`, where one sweep is. -/
theorem Runs.subdivision : ∀ {mid : List ℚ} {a : ℚ} {s s' t : EngineState} {i j : ℕ}
    {trace : List (CrossingEvent × EngineState)} {rest : List ℚ}
    {ticks : List HedgeEngine.Tick} {final : EngineState}, Subdivides a b mid →
    AtRest config spread a s → Alike s s' → Sweeps config spread i a b s trace t →
    Runs config spread a s' j (mid ++ b :: rest) ticks final →
    ∃ u k ticks', AtRest config spread b u ∧ Alike (t.closedAt b) u ∧
      Runs config spread b u k rest ticks' final
  | [], _, _, _, _, _, _, _, _, _, _, _, _, halike, hsweeps, hruns => by
    cases hruns with
    | tick _ sweeps rested tail =>
      exact ⟨_, _, _, rested, (halike.sweeps hsweeps sweeps).closedAt b, tail⟩
  | c :: mid, _, s, _, _, i, _, _, _, _, _, hmid, hs, halike, hsweeps, hruns => by
    obtain ⟨hbetween, hmid'⟩ := hmid.cons
    cases hruns with
    | tick _ sweeps _ tail =>
      obtain ⟨trace₁, t₁, -, hfirst, hrest₁⟩ := step_spec hs c i
      obtain ⟨trace₂, t₂, -, hsecond, -⟩ := step_spec hrest₁ b i
      have hnext := (halike.sweeps hfirst sweeps).closedAt c
      obtain ⟨u, k, ticks', hrest, hu, hruns'⟩ :=
        Runs.subdivision hmid' hrest₁ hnext hsecond tail
      exact ⟨u, k, ticks', hrest, (sweeps_split hs hbetween hsweeps hfirst hsecond).trans hu,
        hruns'⟩

/-- **Runs over refining paths** from like states end in like states. -/
theorem Runs.refines {coarse fine : List ℚ} (href : Refines coarse fine) :
    ∀ {a : ℚ} {rest rest' : List ℚ}, coarse = a :: rest → fine = a :: rest' →
    ∀ {s s' : EngineState} {i j : ℕ} {ticks ticks' : List HedgeEngine.Tick}
      {final final' : EngineState}, AtRest config spread a s → Alike s s' →
      Runs config spread a s i rest ticks final → Runs config spread a s' j rest' ticks' final' →
      Alike final final' := by
  induction href with
  | nil => exact fun h => absurd h (by simp)
  | single a =>
    intro a rest rest' hc hf s s' i j ticks ticks' final final' _ halike hruns hruns'
    obtain ⟨rfl, rfl⟩ := List.cons.inj hc
    obtain ⟨-, rfl⟩ := List.cons.inj hf
    cases hruns with
    | done =>
      cases hruns' with
      | done => exact halike
  | insert hmid _ ih =>
    intro a rest rest' hc hf s s' i j ticks ticks' final final' hs halike hruns hruns'
    obtain ⟨rfl, rfl⟩ := List.cons.inj hc
    obtain ⟨-, rfl⟩ := List.cons.inj hf
    cases hruns with
    | tick _ sweeps rested tail =>
      obtain ⟨u, k, ticks'', -, hu, hruns''⟩ := Runs.subdivision hmid hs halike sweeps hruns'
      exact ih rfl rfl rested hu tail hruns''

/-- **Path-refinement invariance.** A run over a refinement of a path ends with the same levels and
    with the same ledger up to tick indices. -/
theorem run_refinement (config : StrategyConfig) (spread : CreditSpread) {coarse fine : List ℚ}
    (href : Refines coarse fine) :
    ∃ ticks final ticks' final', HedgeEngine.run config spread coarse = .ok (ticks, final) ∧
      HedgeEngine.run config spread fine = .ok (ticks', final') ∧
      final'.levels = final.levels ∧ final'.ledger.untimed = final.ledger.untimed := by
  have hrefl : ∀ {a : ℚ} {rest rest' : List ℚ}, Refines (a :: rest) (a :: rest') →
      ∃ ticks final ticks' final', HedgeEngine.run config spread (a :: rest) = .ok (ticks, final) ∧
        HedgeEngine.run config spread (a :: rest') = .ok (ticks', final') ∧ Alike final final' := by
    intro a rest rest' href
    obtain ⟨ticks, final, hrun, hruns⟩ := run_spec config spread a rest
    obtain ⟨ticks', final', hrun', hruns'⟩ := run_spec config spread a rest'
    exact ⟨_, final, _, final', hrun, hrun', Runs.refines href rfl rfl
      (atRest_started config spread a) (Alike.refl _) hruns hruns'⟩
  cases href with
  | nil => exact ⟨_, _, _, _, run_nil, run_nil, rfl, rfl⟩
  | single a =>
    obtain ⟨ticks, final, ticks', final', hrun, hrun', h⟩ := hrefl (.single a)
    exact ⟨ticks, final, ticks', final', hrun, hrun', h.levels_eq, h.ledger_eq⟩
  | insert hmid href =>
    obtain ⟨ticks, final, ticks', final', hrun, hrun', h⟩ := hrefl (.insert hmid href)
    exact ⟨ticks, final, ticks', final', hrun, hrun', h.levels_eq, h.ledger_eq⟩

end CreditHedge
