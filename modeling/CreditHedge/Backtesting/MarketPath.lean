import CreditHedge.Failure
import CreditHedge.Lib.UnitWalks
import Mathlib.Algebra.Order.Round
import Mathlib.Data.Rat.Floor

/-!
# Paths between price anchors

`backtesting/market_path.py`: a list of price anchors joined by a noisy random walk of exact ticks.
The generator is a state with two draws, and the floats that weigh its draw are any type with the
operations the walk uses: nothing here depends on what is drawn, or on how a float rounds.

What holds the walk to its target is the filter on the directions. The number of steps is chosen
with the parity of the distance, so the first position is within reach of the target, and a move
that the filter lets pass stays within reach (`careful_nextDirection`).
-/

set_option autoImplicit false

namespace CreditHedge

open UnitWalk

/-- `random.Random`, as far as the walk draws from it. -/
structure Rng (σ F : Type) where
  /-- Whether `choice((-1, 1))` is the second of the two. -/
  choice : σ → Bool × σ
  random : σ → F × σ

/-! ## One segment -/

section Bridge

/-- The directions from which the target can still be met. -/
def feasibleDirections (targetTick currentTick : ℤ) (stepsAfterMove : ℕ) : List ℤ :=
  [-1, 1].filter fun candidate => |targetTick - (currentTick + candidate)| ≤ stepsAfterMove

/-- The number of steps of a segment, of the parity of its distance. -/
def stepCount (startTick targetTick : ℤ) (minimumSteps : ℕ) : ℕ :=
  let distance := (targetTick - startTick).natAbs
  let stepCount := max minimumSteps (distance + 2)
  if (stepCount - distance) % 2 = 0 then stepCount else stepCount + 1

variable {σ F : Type} [OfScientific F] [Add F] [Sub F] [Mul F] [Min F] [LT F] [DecidableLT F]

-- `ratio` is the division of two integers, which Python rounds to a float.
variable (rng : Rng σ F) (ratio : ℕ → ℕ → F)

/-- The `else` branch: the direction is drawn, with a bias that keeps the last direction and one that
    grows with the distance left. -/
def drawDirection (targetTick : ℤ) (stepsAfterMove : ℕ) (currentTick direction : ℤ) (state : σ) :
    ℤ × σ :=
  let remainingDistance := targetTick - currentTick
  let (targetDirection, state) : ℤ × σ :=
    if remainingDistance = 0 then
      -- `direction or rng.choice((-1, 1))`: the generator is asked only on the target, at the start
      if direction = 0 then
        let (second, state) := rng.choice state
        (if second then 1 else -1, state)
      else (direction, state)
    else (if 0 < remainingDistance then 1 else -1, state)
  let probabilityUp : F :=
    if direction = 0 then 0.5 else if 0 < direction then 0.62 else 0.38
  let urgency : F := min 0.45 (ratio remainingDistance.natAbs (stepsAfterMove + 1))
  let targetProbability : F := if 0 < targetDirection then 1.0 else 0.0
  let probabilityUp := probabilityUp * (1.0 - urgency) + targetProbability * urgency
  let (drawn, state) := rng.random state
  (if drawn < probabilityUp then 1 else -1, state)

/-- The body of the loop: the direction of the next move, which is also kept for the one after. -/
def nextDirection (targetTick : ℤ) (stepsAfterMove : ℕ) (currentTick : ℤ) :
    ℤ × σ → ℤ × (ℤ × σ)
  | (direction, state) =>
    match feasibleDirections targetTick currentTick stepsAfterMove with
    | [only] => (only, (only, state))
    | _ =>
      let drawn := drawDirection rng ratio targetTick stepsAfterMove currentTick direction state
      (drawn.1, drawn)

/-- `_bridge_tick_indices`: the loop counts `steps_after_move` down to zero. -/
def bridgeTickIndices (startTick targetTick : ℤ) (minimumSteps : ℕ) (previousDirection : ℤ)
    (state : σ) : Except Failure (List ℤ × (ℤ × σ)) :=
  let bridge := follow (nextDirection rng ratio targetTick)
    (stepCount startTick targetTick minimumSteps) startTick (previousDirection, state)
  if bridge.1.getLastD startTick = targetTick then .ok bridge
  else .error (.assertionError "market bridge did not finish at its target anchor")

/-! ## The whole path -/

/-- The loop over the anchors after the first, `lastTick` being `path_ticks[-1]`. -/
def joinAnchors (ticksPerSegment : ℕ) (lastTick : ℤ) : List ℤ → ℤ × σ → Except Failure (List ℤ)
  | [], _ => pure []
  | targetTick :: rest, (previousDirection, state) => do
    let (segment, walker) ←
      bridgeTickIndices rng ratio lastTick targetTick ticksPerSegment previousDirection state
    let path ← joinAnchors ticksPerSegment (segment.getLastD lastTick) rest walker
    pure (segment ++ path)

/-- `_price_to_tick_index`. How halves are rounded does not matter to the comparison. -/
def priceToTickIndex (decimalText : ℚ → String) (price tickSize : ℚ) : Except Failure ℤ :=
  let tickIndex := price / tickSize
  let integralTick := round tickIndex
  if tickIndex = integralTick then .ok integralTick
  else
    .error (.valueError
      s!"price {decimalText price} is not aligned to tick size {decimalText tickSize}")

/-- `Random(seed)` is the state the generator starts in. -/
def expandPriceAnchors (decimalText : ℚ → String) (anchors : List ℚ) (ticksPerSegment : ℕ)
    (tickSize : ℚ) (seed : σ) : Except Failure (List ℚ) := do
  refuseIf (anchors.length < 2) "at least two price anchors are required"
  refuseIf (ticksPerSegment < 2) "ticks per segment must be at least two"
  refuseIf (tickSize ≤ 0) "tick size must be positive"
  refuseIf (∃ anchor ∈ anchors, anchor ≤ 0) "price anchors must be positive"
  let anchorTicks ← anchors.mapM fun anchor => priceToTickIndex decimalText anchor tickSize
  match anchorTicks with
  | [] => throw .indexError
  | firstTick :: targets =>
    let path ← joinAnchors rng ratio ticksPerSegment firstTick targets (0, seed)
    pure ((firstTick :: path).map fun tick : ℤ => (tick : ℚ) * tickSize)

/-! ## What is drawn does not matter -/

theorem mem_feasibleDirections {targetTick currentTick direction : ℤ} {stepsAfterMove : ℕ} :
    direction ∈ feasibleDirections targetTick currentTick stepsAfterMove ↔
      IsDirection direction ∧ |targetTick - (currentTick + direction)| ≤ stepsAfterMove := by
  unfold feasibleDirections IsDirection
  rw [List.mem_filter, decide_eq_true_iff]
  simp

/-- **Within reach there is a feasible direction.** -/
theorem feasibleDirections_ne_nil {targetTick currentTick : ℤ} {stepsAfterMove : ℕ}
    (h : Reach targetTick (stepsAfterMove + 1) currentTick) :
    feasibleDirections targetTick currentTick stepsAfterMove ≠ [] := by
  rcases h.exists_direction with hdown | hup
  · exact List.ne_nil_of_mem (mem_feasibleDirections.mpr ⟨.inl rfl, hdown⟩)
  · exact List.ne_nil_of_mem (mem_feasibleDirections.mpr ⟨.inr rfl, hup⟩)

theorem isDirection_ite (up : Prop) [Decidable up] : IsDirection (if up then 1 else -1) := by
  by_cases h : up
  · exact .inr (if_pos h)
  · exact .inl (if_neg h)

theorem isDirection_drawDirection (targetTick : ℤ) (stepsAfterMove : ℕ)
    (currentTick direction : ℤ) (state : σ) :
    IsDirection
      (drawDirection rng ratio targetTick stepsAfterMove currentTick direction state).1 := by
  unfold drawDirection
  exact isDirection_ite _

/-- The walk never leaves the reach of its target. -/
theorem careful_nextDirection (targetTick : ℤ) :
    UnitWalk.Careful targetTick (nextDirection rng ratio targetTick) := by
  rintro stepsAfterMove currentTick ⟨direction, state⟩ hreach
  unfold nextDirection
  dsimp only
  split
  · rename_i only honly
    have hmem : only ∈ feasibleDirections targetTick currentTick stepsAfterMove := by
      rw [honly]
      exact List.mem_singleton_self only
    exact mem_feasibleDirections.mp hmem
  · rename_i hmany
    -- at least one is feasible and not just one, so both are
    have hboth : |targetTick - (currentTick + -1)| ≤ stepsAfterMove ∧
        |targetTick - (currentTick + 1)| ≤ stepsAfterMove := by
      have hsome := hreach.exists_direction
      by_cases hdown : |targetTick - (currentTick + -1)| ≤ stepsAfterMove
      · by_cases hup : |targetTick - (currentTick + 1)| ≤ stepsAfterMove
        · exact ⟨hdown, hup⟩
        · exact absurd (by simp [feasibleDirections, hdown, hup]) (hmany (-1))
      · have hup := hsome.resolve_left hdown
        exact absurd (by simp [feasibleDirections, hdown, hup]) (hmany 1)
    have hdirection :=
      isDirection_drawDirection rng ratio targetTick stepsAfterMove currentTick direction state
    refine ⟨hdirection, ?_⟩
    rcases hdirection with hd | hd
    · rw [hd]
      exact hboth.1
    · rw [hd]
      exact hboth.2

theorem reach_stepCount (startTick targetTick : ℤ) (minimumSteps : ℕ) :
    Reach targetTick (stepCount startTick targetTick minimumSteps) startTick := by
  have hdistance : |targetTick - startTick| = (targetTick - startTick).natAbs :=
    Int.abs_eq_natAbs _
  unfold stepCount
  dsimp only
  split
  · exact ⟨by omega, Int.even_iff.mpr (by omega)⟩
  · exact ⟨by omega, Int.even_iff.mpr (by omega)⟩

theorem le_stepCount (startTick targetTick : ℤ) (minimumSteps : ℕ) :
    minimumSteps ≤ stepCount startTick targetTick minimumSteps := by
  unfold stepCount
  dsimp only
  split <;> omega

/-- A segment: a walk of exactly the chosen number of steps, with a feasible direction before every
    one of them. -/
structure IsBridge (minimumSteps : ℕ) (startTick targetTick : ℤ) (segment : List ℤ) : Prop
    extends IsWalk startTick targetTick segment where
  length : segment.length = stepCount startTick targetTick minimumSteps
  minimum : minimumSteps ≤ segment.length
  feasible : ∀ i currentTick, i < segment.length →
    (startTick :: segment)[i]? = some currentTick →
      feasibleDirections targetTick currentTick (segment.length - i - 1) ≠ []

/-- **A segment is always finished**, at its target. -/
theorem exists_bridge (startTick targetTick : ℤ) (minimumSteps : ℕ) (previousDirection : ℤ)
    (state : σ) :
    ∃ segment walker, bridgeTickIndices rng ratio startTick targetTick minimumSteps
        previousDirection state = .ok (segment, walker) ∧
      IsBridge minimumSteps startTick targetTick segment := by
  have hwalk := isWalk_follow (careful_nextDirection rng ratio targetTick)
    (reach_stepCount startTick targetTick minimumSteps) (previousDirection, state)
  have hlength : (follow (nextDirection rng ratio targetTick)
      (stepCount startTick targetTick minimumSteps) startTick
      (previousDirection, state)).1.length = stepCount startTick targetTick minimumSteps :=
    length_follow ..
  refine ⟨_, _, if_pos hwalk.arrives, hwalk, hlength, (le_stepCount ..).trans_eq hlength.symm, ?_⟩
  intro i currentTick hi hcurrent
  obtain ⟨hi', rfl⟩ := List.getElem?_eq_some_iff.mp hcurrent
  refine feasibleDirections_ne_nil ?_
  have hreach := hwalk.reach_at hi'
  rwa [Nat.sub_add_cancel (Nat.sub_pos_of_lt hi)]

/-! ## From anchor to anchor -/

/-- Each segment goes from one anchor to the next. -/
def Bridges (ticksPerSegment : ℕ) (anchorTicks : List ℤ) (segments : List (List ℤ)) : Prop :=
  List.Forall₂ (fun segment ends => IsBridge ticksPerSegment ends.1 ends.2 segment) segments
    (anchorTicks.zip anchorTicks.tail)

theorem exists_joinAnchors (ticksPerSegment : ℕ) (targets : List ℤ) (lastTick : ℤ)
    (walker : ℤ × σ) :
    ∃ segments, joinAnchors rng ratio ticksPerSegment lastTick targets walker =
        .ok segments.flatten ∧ Bridges ticksPerSegment (lastTick :: targets) segments := by
  induction targets generalizing lastTick walker with
  | nil => exact ⟨[], rfl, .nil⟩
  | cons targetTick rest ih =>
    obtain ⟨previousDirection, state⟩ := walker
    obtain ⟨segment, walker', hsegment, hbridge⟩ := exists_bridge rng ratio lastTick targetTick
      ticksPerSegment previousDirection state
    obtain ⟨segments, hsegments, hbridges⟩ := ih targetTick walker'
    refine ⟨segment :: segments, ?_, .cons hbridge hbridges⟩
    unfold joinAnchors
    rw [hsegment]
    dsimp only [bind, Except.bind]
    rw [hbridge.arrives, hsegments]
    rfl

/-- The segments in a row are one walk, to wherever the last anchor is. -/
theorem Bridges.isWalk {ticksPerSegment : ℕ} {firstTick : ℤ} {targets : List ℤ}
    {segments : List (List ℤ)} (h : Bridges ticksPerSegment (firstTick :: targets) segments) :
    IsWalk firstTick (targets.getLastD firstTick) segments.flatten := by
  induction targets generalizing firstTick segments with
  | nil =>
    cases h
    exact ⟨List.isChain_singleton _, rfl⟩
  | cons targetTick rest ih =>
    cases h with
    | cons hbridge hbridges =>
      rw [List.getLastD_cons]
      exact hbridge.toIsWalk.append (ih hbridges)

theorem priceToTickIndex_mul (decimalText : ℚ → String) (tick : ℤ) {tickSize : ℚ}
    (h : 0 < tickSize) : priceToTickIndex decimalText (tick * tickSize) tickSize = .ok tick := by
  unfold priceToTickIndex
  rw [mul_div_cancel_right₀ _ h.ne']
  simp

theorem mapM_priceToTickIndex (decimalText : ℚ → String) {anchors : List ℚ} {tickSize : ℚ}
    (htick : 0 < tickSize) (haligned : ∀ anchor ∈ anchors, ∃ tick : ℤ, anchor = tick * tickSize) :
    ∃ anchorTicks : List ℤ,
      anchors.mapM (fun anchor => priceToTickIndex decimalText anchor tickSize) = .ok anchorTicks ∧
        anchors = anchorTicks.map fun tick : ℤ => (tick : ℚ) * tickSize := by
  induction anchors with
  | nil => exact ⟨[], rfl, rfl⟩
  | cons anchor anchors ih =>
    obtain ⟨⟨tick, rfl⟩, hrest⟩ := List.forall_mem_cons.mp haligned
    obtain ⟨anchorTicks, hticks, rfl⟩ := ih hrest
    refine ⟨tick :: anchorTicks, ?_, rfl⟩
    rw [List.mapM_cons, priceToTickIndex_mul decimalText tick htick, hticks]
    rfl

/-- **The path between the anchors.** It starts at the first anchor; its segments end at the anchors
    that follow, in order, none with fewer steps than asked for and none in which the walk was ever
    without a feasible direction; and every move is one tick. This is so whatever the generator
    draws. -/
theorem expandPriceAnchors_bridges (decimalText : ℚ → String) {anchors : List ℚ}
    {ticksPerSegment : ℕ} {tickSize : ℚ} (hanchors : 2 ≤ anchors.length)
    (hsteps : 2 ≤ ticksPerSegment) (htick : 0 < tickSize) (hpos : ∀ anchor ∈ anchors, 0 < anchor)
    (haligned : ∀ anchor ∈ anchors, ∃ tick : ℤ, anchor = tick * tickSize) (seed : σ) :
    ∃ firstTick targets segments,
      anchors = (firstTick :: targets).map (fun tick : ℤ => (tick : ℚ) * tickSize) ∧
      expandPriceAnchors rng ratio decimalText anchors ticksPerSegment tickSize seed =
        .ok ((firstTick :: segments.flatten).map fun tick : ℤ => (tick : ℚ) * tickSize) ∧
      Bridges ticksPerSegment (firstTick :: targets) segments ∧
      (firstTick :: segments.flatten).IsChain Adjacent := by
  obtain ⟨anchorTicks, hticks, hmap⟩ := mapM_priceToTickIndex decimalText htick haligned
  cases anchorTicks with
  | nil =>
    rw [hmap] at hanchors
    exact absurd hanchors (by simp)
  | cons firstTick targets =>
    obtain ⟨segments, hsegments, hbridges⟩ :=
      exists_joinAnchors rng ratio ticksPerSegment targets firstTick (0, seed)
    refine ⟨firstTick, targets, segments, hmap, ?_, hbridges, hbridges.isWalk.moves⟩
    have hpositive : ¬ ∃ anchor ∈ anchors, anchor ≤ 0 := by
      rintro ⟨anchor, hmem, hle⟩
      exact not_le.mpr (hpos anchor hmem) hle
    simp only [expandPriceAnchors, bind_unit_eq_ok, refuseIf_eq_ok]
    exact ⟨not_lt.mpr hanchors, not_lt.mpr hsteps, not_le.mpr htick, hpositive,
      bind_eq_ok.mpr ⟨_, hticks, bind_eq_ok.mpr ⟨_, hsegments, rfl⟩⟩⟩

/-- Two anchors two ticks apart, joined by a generator that always draws the same. -/
theorem expandPriceAnchors_bridges_dollar :
    ∃ firstTick targets segments,
      [1, 6 / 5] = (firstTick :: targets).map (fun tick : ℤ => (tick : ℚ) * (1 / 10)) ∧
      expandPriceAnchors (F := ℚ) ⟨fun u => (true, u), fun u => (1 / 2, u)⟩ (fun a b => a / b)
          (fun _ => "") [1, 6 / 5] 2 (1 / 10) () =
        .ok ((firstTick :: segments.flatten).map fun tick : ℤ => (tick : ℚ) * (1 / 10)) ∧
      Bridges 2 (firstTick :: targets) segments ∧
      (firstTick :: segments.flatten).IsChain Adjacent :=
  expandPriceAnchors_bridges _ _ _ (by decide) le_rfl (by norm_num) (by norm_num)
    (by
      intro anchor hanchor
      rcases List.mem_pair.mp hanchor with rfl | rfl
      · exact ⟨10, by norm_num⟩
      · exact ⟨12, by norm_num⟩) ()

end Bridge

end CreditHedge
