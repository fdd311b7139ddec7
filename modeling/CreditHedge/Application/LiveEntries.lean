import CreditHedge.Application.MarketOrders
import CreditHedge.Core.FirstEntries
import CreditHedge.Core.StopBudget

/-!
# Live entries

Where the coordinator of a ladder enters, compared with where the engine does over the same ladder
and the same prices. The coordinator submits each level once, so it is compared with the engine's
first entries (`firstEntry`).

The two look at a move differently. For the engine a level is armed by the price a move starts
from, at or above the entry, and any downward move from there that comes to the entry opens it. The
coordinator wants the move to start *above* the entry: one that starts on the entry exactly arms
the level, and then goes by. So they agree over a path exactly if no level is reached for the first
time by a move that starts on its entry (`live_entries_eq_iff`).
-/

set_option autoImplicit false

namespace CreditHedge

namespace MultiLevelCoordinator

variable (c : MultiLevelCoordinator)

/-- A coordinator is told these prices, one after the other and all of one connection, and submits
    these levels: every call is made with the market healthy, blocks nothing and returns. Between
    two calls anything may happen to the rest of the process. -/
inductive Trades (generation : ℤ) : Process → List ℚ → List (List ℕ) → Prop
  | done {p : Process} : Trades generation p [] []
  | tick {p p' p'' : Process} {event : TriggerPriceEvent} {health : MarketDataHealthResult}
      {riskState : RiskState} {result : MultiLevelTriggerResult} {prices : List ℚ}
      {entries : List (List ℕ)} (symbol : event.symbol = c.instrument.symbol)
      (source : event.source = .lastTrade) (current : event.connectionGeneration = generation)
      (healthy : health.tradingAllowed = true)
      (runs : Coroutine.Runs Process.handle (c.onTrigger event health riskState) p (.ok result) p')
      (approved : result.blocked = [])
      (kept : p''.memory.multiLevel = p'.memory.multiLevel)
      (rest : Trades generation p'' prices entries) :
      Trades generation p (event.observedPrice :: prices)
        (result.entries.map LevelEntrySubmission.levelId :: entries)

/-- A downward move that starts above the entry price and ends at or below it. -/
def crossesEntry (entryPrice : ℚ) (move : ℚ × ℚ) : Bool :=
  entryPrice < move.1 && move.2 ≤ entryPrice

/-- The levels that were never submitted. -/
def unsubmitted (s : MultiLevelState) : List ℕ :=
  (c.levels.filter fun level => (s.submittedOrderIds level.levelId).isNone).map HedgeLevel.levelId

/-- Between two prices, the last of which was `price`: the levels at or below it are armed, but for
    those that were submitted, which are not. -/
structure Watching (generation : ℤ) (price : ℚ) (s : MultiLevelState) : Prop where
  previousPrice_eq : s.previousPrice = some price
  generation_eq : s.connectionGeneration = some generation
  armed : ∀ level ∈ c.levels, (s.submittedOrderIds level.levelId).isNone = true →
    level.entryPrice ≤ price → s.armed level.levelId = true
  disarmed : ∀ level ∈ c.levels, (s.submittedOrderIds level.levelId).isNone = false →
    s.armed level.levelId = false

/-- These levels were submitted, and disarmed, in this order. -/
structure Submitted (levelIds : List ℕ) (s s' : MultiLevelState) : Prop where
  previousPrice_eq : s'.previousPrice = s.previousPrice
  generation_eq : s'.connectionGeneration = s.connectionGeneration
  armed : ∀ levelId, s'.armed levelId = (s.armed levelId && levelId ∉ levelIds)
  unsubmitted : ∀ levelId, (s'.submittedOrderIds levelId).isNone =
    ((s.submittedOrderIds levelId).isNone && levelId ∉ levelIds)

theorem Submitted.refl (s : MultiLevelState) : Submitted [] s s :=
  ⟨rfl, rfl, fun _ => by simp, fun _ => by simp⟩

/-- One level, and then others. -/
theorem Submitted.cons {level : HedgeLevel} {request : PlaceOrderRequest} {memory : Memory}
    {levelIds : List ℕ} {s' : MultiLevelState}
    (h : Submitted levelIds (noteSubmitted level request (disarm level memory)).multiLevel s') :
    Submitted (level.levelId :: levelIds) memory.multiLevel s' := by
  refine ⟨h.previousPrice_eq, h.generation_eq, fun levelId => ?_, fun levelId => ?_⟩
  · rw [h.armed]
    by_cases hid : levelId = level.levelId
    · simp [noteSubmitted, disarm, hid]
    · simp [noteSubmitted, disarm, hid]
  · rw [h.unsubmitted]
    by_cases hid : levelId = level.levelId
    · simp [noteSubmitted, disarm, hid]
    · simp [noteSubmitted, disarm, hid]

/-- If no crossed level is blocked, all of them are submitted. -/
theorem visit_spec {crossed : List HedgeLevel} {riskState : RiskState}
    {entries : List LevelEntrySubmission} {blocked : List LevelEntryBlock} {memory : Memory}
    {p p' : Process} {result : MultiLevelTriggerResult}
    (h : Coroutine.Runs Process.handle (c.visit crossed riskState entries blocked memory).2
      { p with memory := (c.visit crossed riskState entries blocked memory).1 } (.ok result) p')
    (happroved : result.blocked = []) :
    blocked = [] ∧
      result.entries.map LevelEntrySubmission.levelId =
        entries.map LevelEntrySubmission.levelId ++ crossed.map HedgeLevel.levelId ∧
      Submitted (crossed.map HedgeLevel.levelId) memory.multiLevel p'.memory.multiLevel := by
  induction crossed generalizing riskState entries blocked memory p with
  | nil =>
    obtain ⟨hresult, rfl⟩ := Coroutine.runs_pure.mp h
    obtain rfl := Except.ok.inj hresult
    exact ⟨happroved, (List.append_nil _).symm, .refl _⟩
  | cons level rest ih =>
    unfold visit at h
    dsimp only at h
    split at h
    · obtain ⟨hraised, -⟩ := Coroutine.runs_throw.mp h
      exact absurd hraised (by simp)
    · obtain ⟨hnone, -⟩ := ih h
      exact absurd hnone (by simp)
    · rename_i request proposal hoffer
      rcases Coroutine.runs_bind.mp h with ⟨snapshot, p₁, hsubmitted, hrest⟩ | ⟨failure, -, hraised⟩
      · have hmemory := memory_of_runs_onPorts hsubmitted
        obtain ⟨hblocked, hentries, hsubmitted⟩ := ih (runs_sync.mp hrest)
        rw [hmemory] at hsubmitted
        refine ⟨hblocked, ?_, hsubmitted.cons⟩
        rw [hentries]
        simp
      · exact absurd hraised (by simp)

/-! ## One price -/

variable {c} {generation : ℤ} {p q : ℚ} {s s' : MultiLevelState}

theorem levelId_inj {level level' : HedgeLevel} (hl : level ∈ c.levels) (hl' : level' ∈ c.levels)
    (hid : level.levelId = level'.levelId) : level = level' := by
  have hnodup : (c.levels.map HedgeLevel.levelId).Nodup := by
    rw [c.levelIds_eq]
    exact List.nodup_range'
  exact List.inj_on_of_nodup_map hnodup hl hl' hid

theorem flags_eq {condition : HedgeLevel → Bool} {level : HedgeLevel} (hl : level ∈ c.levels) :
    c.flags condition level.levelId = condition level := by
  unfold flags
  rw [Bool.eq_iff_iff, List.any_eq_true]
  constructor
  · rintro ⟨level', hl', h⟩
    simp only [Bool.and_eq_true, decide_eq_true_eq] at h
    obtain rfl := levelId_inj hl' hl h.1
    exact h.2
  · intro h
    exact ⟨level, hl, by simp [h]⟩

/-- The crossed levels are the unsubmitted ones that the move crosses. -/
theorem Watching.crossings_eq (h : c.Watching generation p s) :
    c.crossings (c.arm q s) p q = c.levels.filter fun level =>
      (s.submittedOrderIds level.levelId).isNone && crossesEntry level.entryPrice (p, q) := by
  refine List.filter_congr fun level hl => ?_
  unfold arm crossesEntry reaches
  dsimp only
  rw [flags_eq hl]
  cases hnew : (s.submittedOrderIds level.levelId).isNone with
  | false => simp [h.disarmed level hl hnew]
  | true =>
    by_cases habove : level.entryPrice < p
    · simp [h.armed level hl hnew habove.le]
    · simp [habove]

theorem arm_armed {level : HedgeLevel} (hl : level ∈ c.levels) :
    (c.arm q s).armed level.levelId =
      (s.armed level.levelId ||
        (level.entryPrice ≤ q && (s.submittedOrderIds level.levelId).isNone)) :=
  congrArg (s.armed level.levelId || ·) (flags_eq hl)

/-- A level at or below the price is armed by it, if it was not submitted. -/
theorem Watching.submitted (h : c.Watching generation p s) {levelIds : List ℕ}
    (hs : Submitted levelIds { c.arm q s with previousPrice := some q } s') :
    c.Watching generation q s' := by
  have hnew : ∀ levelId, (s'.submittedOrderIds levelId).isNone =
      ((s.submittedOrderIds levelId).isNone && levelId ∉ levelIds) := hs.unsubmitted
  have harmed : ∀ levelId, s'.armed levelId =
      ((c.arm q s).armed levelId && levelId ∉ levelIds) := hs.armed
  refine ⟨hs.previousPrice_eq, hs.generation_eq.trans h.generation_eq, fun level hl hnone hle => ?_,
    fun level hl hold => ?_⟩
  · rw [hnew, Bool.and_eq_true] at hnone
    rw [harmed, arm_armed hl, hnone.1, hnone.2]
    simp [hle]
  · rw [hnew, Bool.and_eq_false_iff] at hold
    rw [harmed, arm_armed hl, Bool.and_eq_false_iff]
    refine hold.imp_left fun hold => ?_
    rw [hold, h.disarmed level hl hold]
    simp

/-- What is left when a selection of the levels is submitted. -/
theorem unsubmitted_of_submitted {selected : HedgeLevel → Bool}
    (hs : Submitted ((c.levels.filter selected).map HedgeLevel.levelId) s s') :
    c.unsubmitted s' = (c.levels.filter fun level =>
      (s.submittedOrderIds level.levelId).isNone && !selected level).map HedgeLevel.levelId := by
  refine congrArg (List.map HedgeLevel.levelId) (List.filter_congr fun level hl => ?_)
  have hselected :
      level.levelId ∈ (c.levels.filter selected).map HedgeLevel.levelId ↔ selected level = true := by
    constructor
    · intro hmem
      obtain ⟨level', hl', hid⟩ := List.mem_map.mp hmem
      obtain ⟨hl', hsel⟩ := List.mem_filter.mp hl'
      obtain rfl := levelId_inj hl' hl hid
      exact hsel
    · exact fun hsel => List.mem_map_of_mem (List.mem_filter.mpr ⟨hl, hsel⟩)
  have hleft : decide (level.levelId ∉ (c.levels.filter selected).map HedgeLevel.levelId) =
      !selected level := by
    rw [Bool.eq_iff_iff, decide_eq_true_iff, hselected]
    simp
  rw [hs.unsubmitted, hleft]

/-- What a call submits, and what it leaves. -/
structure Entered (c : MultiLevelCoordinator) (generation : ℤ) (price : ℚ)
    (hit : HedgeLevel → Bool) (s : MultiLevelState) (levelIds : List ℕ) (s' : MultiLevelState) :
    Prop where
  entries : levelIds = (c.levels.filter fun level =>
    (s.submittedOrderIds level.levelId).isNone && hit level).map HedgeLevel.levelId
  left : c.unsubmitted s' = (c.levels.filter fun level =>
    (s.submittedOrderIds level.levelId).isNone && !hit level).map HedgeLevel.levelId
  watching : c.Watching generation price s'

variable {before after : Process} {event : TriggerPriceEvent} {health : MarketDataHealthResult}
  {riskState : RiskState} {result : MultiLevelTriggerResult}

/-- A call that gets past the three checks of the event. -/
theorem runs_observe (symbol : event.symbol = c.instrument.symbol)
    (source : event.source = .lastTrade) (healthy : health.tradingAllowed = true)
    (runs : Coroutine.Runs Process.handle (c.onTrigger event health riskState) before (.ok result)
      after) :
    Coroutine.Runs Process.handle (c.observe event riskState before.memory).2
      { before with memory := (c.observe event riskState before.memory).1 } (.ok result) after := by
  unfold onTrigger at runs
  rw [if_neg (not_not.mpr symbol), if_neg (not_not.mpr source), if_neg (by simp [healthy])] at runs
  exact runs_sync.mp runs

/-- **What one price submits**: the unsubmitted levels that its move crosses, in ladder order. -/
theorem Watching.entered (h : c.Watching generation p before.memory.multiLevel)
    (current : event.connectionGeneration = generation)
    (runs : Coroutine.Runs Process.handle (c.observe event riskState before.memory).2
      { before with memory := (c.observe event riskState before.memory).1 } (.ok result) after)
    (approved : result.blocked = []) :
    c.Entered generation event.observedPrice
      (fun level => crossesEntry level.entryPrice (p, event.observedPrice))
      before.memory.multiLevel (result.entries.map LevelEntrySubmission.levelId)
      after.memory.multiLevel := by
  have hobserve : c.observe event riskState before.memory =
      c.inSegment event riskState before.memory := by
    unfold observe
    simp only [h.generation_eq, current, lt_irrefl, if_false]
  rw [hobserve] at runs
  unfold inSegment at runs
  simp only [h.previousPrice_eq] at runs
  obtain ⟨-, hentries, hsubmitted⟩ := visit_spec c runs approved
  rw [h.crossings_eq] at hentries hsubmitted
  refine ⟨hentries, (unsubmitted_of_submitted hsubmitted).trans ?_, h.submitted hsubmitted⟩
  refine congrArg (List.map HedgeLevel.levelId) (List.filter_congr fun level hl => ?_)
  cases hnew : (before.memory.multiLevel.submittedOrderIds level.levelId).isNone with
  | false => simp [arm, hnew]
  | true => simp [arm, hnew]

theorem map_filter_levelId {f : HedgeLevel → Bool} {g : ℕ → Bool}
    (h : ∀ level ∈ c.levels, f level = g level.levelId) :
    (c.levels.filter fun level => (s.submittedOrderIds level.levelId).isNone && f level).map
        HedgeLevel.levelId = (c.unsubmitted s).filter g := by
  unfold unsubmitted
  rw [List.filter_map, List.filter_filter]
  refine congrArg (List.map HedgeLevel.levelId) (List.filter_congr fun level hl => ?_)
  rw [h level hl, Bool.and_comm]
  rfl

/-! ## A path of prices -/

variable {config : StrategyConfig} {spread : CreditSpread} {P : Process} {prices : List ℚ}
  {entries : List (List ℕ)}

/-- **What a path submits, price by price**: each level at the first move that crosses its
    entry. -/
theorem Trades.entries_eq
    (hladder : ∀ level ∈ c.levels, level.entryPrice = entryAt config spread level.levelId)
    (h : c.Trades generation P prices entries) (hw : c.Watching generation p P.memory.multiLevel) :
    entries = FirstHits.newly (fun levelId => crossesEntry (entryAt config spread levelId))
      (c.unsubmitted P.memory.multiLevel) (moves (p :: prices)) := by
  induction h generalizing p with
  | done => rfl
  | @tick P P' P'' event health riskState result prices entries symbol source current healthy runs
      approved kept _ ih =>
    have hentered := hw.entered current (runs_observe symbol source healthy runs) approved
    have hcross : ∀ level ∈ c.levels, crossesEntry level.entryPrice (p, event.observedPrice) =
        crossesEntry (entryAt config spread level.levelId) (p, event.observedPrice) := by
      intro level hl
      rw [hladder level hl]
    have hrest := ih (kept ▸ hentered.watching)
    rw [kept, hentered.left, map_filter_levelId (g := fun levelId =>
      !crossesEntry (entryAt config spread levelId) (p, event.observedPrice)) fun level hl => by
        rw [hcross level hl]] at hrest
    rw [hentered.entries, map_filter_levelId (g := fun levelId =>
      crossesEntry (entryAt config spread levelId) (p, event.observedPrice)) hcross, hrest]
    rfl

/-- The first price only arms. -/
theorem watching_resetSegment (c : MultiLevelCoordinator) (event : TriggerPriceEvent) :
    c.Watching event.connectionGeneration event.observedPrice (c.resetSegment event {}) where
  previousPrice_eq := rfl
  generation_eq := rfl
  armed := fun level hl _ hle => (flags_eq hl).trans (by simp [reaches, hle])
  disarmed := fun _ _ hold => absurd hold (by simp [resetSegment])

/-- A fresh coordinator submits nothing at its first price. -/
theorem Trades.entries_of_fresh {price : ℚ}
    (hladder : ∀ level ∈ c.levels, level.entryPrice = entryAt config spread level.levelId)
    (hfresh : P.memory.multiLevel = {}) (h : c.Trades generation P (price :: prices) entries) :
    entries = [] :: FirstHits.newly (fun levelId => crossesEntry (entryAt config spread levelId))
      (c.levels.map HedgeLevel.levelId) (moves (price :: prices)) := by
  cases h with
  | @tick P P' P'' event health riskState result _ entries symbol source current healthy runs
      approved kept rest =>
    have hruns := runs_observe symbol source healthy runs
    unfold observe at hruns
    rw [hfresh] at hruns
    obtain ⟨hresult, rfl⟩ := Coroutine.runs_pure.mp hruns
    obtain rfl := Except.ok.inj hresult
    have hrest := rest.entries_eq hladder (p := event.observedPrice) (by
      rw [kept, ← current]
      exact c.watching_resetSegment event)
    have hnone : c.unsubmitted (c.resetSegment event {}) = c.levels.map HedgeLevel.levelId := by
      simp [unsubmitted, resetSegment]
    rw [hrest, kept, hnone]
    rfl

end MultiLevelCoordinator

open MultiLevelCoordinator

theorem crossesEntry_iff {entryPrice : ℚ} {move : ℚ × ℚ} :
    crossesEntry entryPrice move = true ↔ entryPrice < move.1 ∧ move.2 ≤ entryPrice := by
  simp [crossesEntry]

theorem reachesEntry_iff {entryPrice : ℚ} {move : ℚ × ℚ} :
    reachesEntry entryPrice move = true ↔
      move.2 < move.1 ∧ entryPrice ≤ move.1 ∧ move.2 ≤ entryPrice := by
  simp [reachesEntry, and_assoc]

theorem reachesEntry_of_crossesEntry {entryPrice : ℚ} {move : ℚ × ℚ}
    (h : crossesEntry entryPrice move = true) : reachesEntry entryPrice move = true := by
  obtain ⟨habove, hbelow⟩ := crossesEntry_iff.mp h
  exact reachesEntry_iff.mpr ⟨hbelow.trans_lt habove, habove.le, hbelow⟩

/-- Of the moves that reach an entry, those that start on it do not cross it. -/
theorem crossesEntry_iff_ne {entryPrice : ℚ} {move : ℚ × ℚ}
    (h : reachesEntry entryPrice move = true) :
    crossesEntry entryPrice move = true ↔ move.1 ≠ entryPrice := by
  obtain ⟨-, hle, hbelow⟩ := reachesEntry_iff.mp h
  rw [crossesEntry_iff, ← hle.lt_iff_ne', and_iff_left hbelow]

/-- **The live coordinator enters where the engine does** exactly if no level is reached for the
    first time by a move that starts on its entry. -/
theorem live_entries_eq_iff {config : StrategyConfig} {spread : CreditSpread}
    {c : MultiLevelCoordinator}
    (hladder : generateVirtualLevels spread config.levelCount config.stopRate = .ok c.levels)
    {prices : List ℚ} {ticks : List HedgeEngine.Tick} {final : EngineState}
    (hrun : HedgeEngine.run config spread prices = .ok (ticks, final))
    (hgranted : ∀ level ∈ final.levels, level.attempts = 0 → level.state ≠ .locked)
    {generation : ℤ} {p : Process} (hfresh : p.memory.multiLevel = {}) {entries : List (List ℕ)}
    (htrades : c.Trades generation p prices entries) :
    entries = ticks.map HedgeEngine.Tick.firstEntries ↔
      ∀ level ∈ c.levels, ∀ move,
        (moves prices).find? (reachesEntry level.entryPrice) = some move →
          move.1 ≠ level.entryPrice := by
  have hlevels : c.levels = (initialState config spread).levels :=
    Except.ok.inj (hladder.symm.trans (generateVirtualLevels_eq config spread))
  have hprices : ∀ level ∈ c.levels, level.entryPrice = entryAt config spread level.levelId := by
    intro level hl
    rw [hlevels] at hl
    exact Ladder.generated.entryPrice_eq level hl
  cases prices with
  | nil =>
    cases htrades with
    | done =>
      obtain ⟨rfl, rfl⟩ := Prod.mk.inj (Except.ok.inj (run_nil.symm.trans hrun))
      simp [moves]
  | cons price prices =>
    rw [htrades.entries_of_fresh hprices hfresh, run_firstEntries hrun hgranted, ← hlevels,
      List.cons.injEq, FirstHits.newly_eq_iff fun _ _ => reachesEntry_of_crossesEntry]
    simp only [true_and, List.forall_mem_map]
    refine forall₂_congr fun level hl => ?_
    rw [← hprices level hl]
    exact forall₂_congr fun move hfirst => crossesEntry_iff_ne (List.find?_some hfirst)

/-! ## Above the entry, and on it -/

/-- The coordinator of the ladder of `narrowSpread`, with ten levels from 1000 down to 991. -/
def narrowLadder : MultiLevelCoordinator where
  optionPosition := openSpread 1 unit_pos
  levels := (initialState (tenLevels .fullNextTp .unhedged) narrowSpread).levels
  instrument := ethPerp
  riskLimits := wideLimits
  orderLinkIdFactory := fun levelId _ =>
    if levelId = 1 then "ECH-A-C0001-L01-ENTRY-A01-0000" else "ECH-A-C0001-L02-ENTRY-A01-0000"
  hasEntryGate := false
  levels_ne_nil := by decide +kernel
  levelIds_eq := by decide +kernel
  entryPrices_sorted := by decide +kernel
  ethusdt_linear := ethPerp_linear

def nothingSeen : Process where
  world := { store := .empty, accepted := [] }
  memory := {}

/-- The coordinator is told a price, and blocks nothing: the levels it submits, and the process
    then. -/
def MultiLevelCoordinator.told (c : MultiLevelCoordinator) (p : Process) (price : ℚ)
    (answers : List ProcessAnswers) : Option (List ℕ × Process) :=
  match Coroutine.execute Process.handle (c.onTrigger (tradeAt price) healthyMarket calmState)
    answers p with
  | some (.ok { entries, blocked := [], .. }, p') =>
    some (entries.map LevelEntrySubmission.levelId, p')
  | _ => none

def MultiLevelCoordinator.toldAll (c : MultiLevelCoordinator) :
    Process → List (ℚ × List ProcessAnswers) → Option (List (List ℕ))
  | _, [] => some []
  | p, (price, answers) :: path => do
    let (levelIds, p') ← c.told p price answers
    let rest ← c.toldAll p' path
    pure (levelIds :: rest)

theorem MultiLevelCoordinator.trades_of_toldAll {c : MultiLevelCoordinator} {p : Process}
    {path : List (ℚ × List ProcessAnswers)} {entries : List (List ℕ)}
    (h : c.toldAll p path = some entries) : c.Trades 1 p (path.map Prod.fst) entries := by
  induction path generalizing p entries with
  | nil =>
    obtain rfl := Option.some.inj h
    exact .done
  | cons told path ih =>
    obtain ⟨price, answers⟩ := told
    obtain ⟨⟨levelIds, p'⟩, htold, h⟩ := Option.bind_eq_some_iff.mp h
    obtain ⟨rest, hrest, h⟩ := Option.bind_eq_some_iff.mp h
    obtain rfl := Option.some.inj h
    unfold told at htold
    split at htold
    · rename_i heq
      obtain ⟨rfl, rfl⟩ := Prod.mk.inj (Option.some.inj htold)
      have hsymbol : (tradeAt price).symbol = c.instrument.symbol := c.ethusdt_linear.2.symm
      exact .tick hsymbol rfl rfl rfl (Coroutine.runs_of_execute heq) rfl rfl (ih hrest)
    · exact absurd htold (by simp)

/-- The calls of one submission, of the order with this id. -/
def takesOrder (orderLinkId : String) : ProcessAnswers where
  placed := .ok
    { requestKind := .place, orderId := "order-1", orderLinkId, acknowledgedAt := 0 }

/-- The engine's side of a path: what it opens first, and whether it was granted everything. -/
def HedgeEngine.firstEntriesOf (config : StrategyConfig) (spread : CreditSpread)
    (prices : List ℚ) : Option (List (List ℕ) × Bool) :=
  match HedgeEngine.run config spread prices with
  | .ok (ticks, final) =>
    some (ticks.map Tick.firstEntries,
      final.levels.all fun level => level.attempts ≠ 0 || level.state ≠ .locked)
  | .error _ => none

theorem HedgeEngine.exists_run_of_firstEntriesOf {config : StrategyConfig} {spread : CreditSpread}
    {prices : List ℚ} {entries : List (List ℕ)}
    (h : HedgeEngine.firstEntriesOf config spread prices = some (entries, true)) :
    ∃ ticks final, HedgeEngine.run config spread prices = .ok (ticks, final) ∧
      ticks.map Tick.firstEntries = entries ∧
      ∀ level ∈ final.levels, level.attempts = 0 → level.state ≠ .locked := by
  unfold firstEntriesOf at h
  split at h
  · rename_i ticks final hrun
    obtain ⟨hentries, hgranted⟩ := Prod.mk.inj (Option.some.inj h)
    refine ⟨ticks, final, hrun, hentries, fun level hl hnew => ?_⟩
    have := List.all_eq_true.mp hgranted level hl
    simpa [hnew] using this
  · exact absurd h (by simp)

/-- From above the ladder down over two entries at once: both sides enter both. -/
theorem live_entries_eq_iff_fromAbove :
    ∃ ticks final entries,
      HedgeEngine.run (tenLevels .fullNextTp .unhedged) narrowSpread [1002, 1997 / 2] =
        .ok (ticks, final) ∧
      narrowLadder.Trades 1 nothingSeen [1002, 1997 / 2] entries ∧ entries = [[], [1, 2]] ∧
      entries = ticks.map HedgeEngine.Tick.firstEntries := by
  have hengine : HedgeEngine.firstEntriesOf (tenLevels .fullNextTp .unhedged) narrowSpread
      [1002, 1997 / 2] = some ([[], [1, 2]], true) := by decide +kernel
  have hlive : narrowLadder.toldAll nothingSeen
      [(1002, [{}]), (1997 / 2,
        List.replicate 10 (takesOrder "ECH-A-C0001-L01-ENTRY-A01-0000") ++
          List.replicate 9 (takesOrder "ECH-A-C0001-L02-ENTRY-A01-0000"))] =
        some [[], [1, 2]] := by decide +kernel
  obtain ⟨ticks, final, hrun, -, hgranted⟩ := HedgeEngine.exists_run_of_firstEntriesOf hengine
  have htrades := MultiLevelCoordinator.trades_of_toldAll hlive
  refine ⟨ticks, final, _, hrun, htrades, rfl, ?_⟩
  exact (live_entries_eq_iff (generateVirtualLevels_eq _ _) hrun hgranted rfl htrades).mpr
    (by decide +kernel)

/-- **A path that starts on the entry**: the engine opens the level at the next move down, and the
    coordinator lets it go by. -/
theorem entry_missed_on_touch :
    ∃ ticks final entries,
      HedgeEngine.run (tenLevels .fullNextTp .unhedged) narrowSpread [1000, 1999 / 2] =
        .ok (ticks, final) ∧
      (∀ level ∈ final.levels, level.attempts = 0 → level.state ≠ .locked) ∧
      narrowLadder.Trades 1 nothingSeen [1000, 1999 / 2] entries ∧ entries = [[], []] ∧
      ticks.map HedgeEngine.Tick.firstEntries = [[], [1]] := by
  have hengine : HedgeEngine.firstEntriesOf (tenLevels .fullNextTp .unhedged) narrowSpread
      [1000, 1999 / 2] = some ([[], [1]], true) := by decide +kernel
  have hlive : narrowLadder.toldAll nothingSeen [(1000, [{}]), (1999 / 2, [{}])] =
      some [[], []] := by decide +kernel
  obtain ⟨ticks, final, hrun, hentries, hgranted⟩ :=
    HedgeEngine.exists_run_of_firstEntriesOf hengine
  exact ⟨ticks, final, _, hrun, hgranted, MultiLevelCoordinator.trades_of_toldAll hlive, rfl,
    hentries⟩

end CreditHedge
