import CreditHedge.Application.StartupReconciliation
import CreditHedge.Domain.ExchangeReports
import CreditHedge.Lib.Tallies
import Mathlib.Data.List.Dedup
import Mathlib.Data.List.Sort

/-!
# The read-only comparison

`evaluate_private_snapshot` of `application/read_only_reconciliation.py`: every open order of the
account and every position has to be explained by what is known locally.

The startup comparison asks the same about the option legs, in `_option_positions_match`. The two
go about repeated records differently. Here the quantities of a category, symbol and side are added
up; there a dictionary keeps the last one. `optionComparisons_agree_iff` says when they come to the
same verdict.
-/

set_option autoImplicit false

namespace CreditHedge

inductive PrivateDifferenceKind where
  | unknownOpenOrder
  | unknownPosition
  | missingPosition
  | positionQuantityMismatch
  deriving DecidableEq, Repr

abbrev PositionKey := Category × String × OrderSide

/-- The text of a difference. Those that print decimals keep the numbers they print. -/
inductive PrivateDifferenceDetail where
  | unexplainedOrder (category : Category) (orderId symbol : String)
  | unexplainedPosition (key : PositionKey) (quantity : Option ℚ)
  | expectedPosition (key : PositionKey) (quantity : ℚ)
  | quantities (key : PositionKey) (expected actual : ℚ)
  deriving DecidableEq, Repr

structure PrivateStateDifference where
  kind : PrivateDifferenceKind
  detail : PrivateDifferenceDetail
  deriving DecidableEq, Repr

structure ReadOnlyReconciliationResult where
  tradingAllowed : Bool
  differences : List PrivateStateDifference
  deriving DecidableEq, Repr

namespace ReadOnlyReconciliation

abbrev Quantities := Tally.Amounts PositionKey ℚ

/-- One round of the loop of `_actual_position_quantities`. -/
def tallyActual (quantities : Quantities) (position : ExchangePosition) :
    Except Failure Quantities :=
  if position.quantity = 0 then pure quantities
  else
    match position.side with
    | none => throw (.valueError "nonzero exchange position must have a side")
    | some side =>
      pure (Tally.tally quantities ((position.category, position.symbol, side), position.quantity))

def actualPositionQuantities (positions : List ExchangePosition) : Except Failure Quantities :=
  positions.foldlM tallyActual .empty

def expectedPositionQuantities (positions : List ExpectedPosition) : Quantities :=
  (positions.map fun p => ((p.category, p.symbol, p.side), p.quantity)).foldl Tally.tally .empty

/-- `sorted` of two keys: the names of a category and of a side are compared as texts. -/
def keyLe (k k' : PositionKey) : Prop :=
  k.1 = .linear ∧ k'.1 = .option ∨
    k.1 = k'.1 ∧ (k.2.1 < k'.2.1 ∨ k.2.1 = k'.2.1 ∧ (k.2.2 = .buy ∨ k'.2.2 = .sell))

instance : DecidableRel keyLe := fun _ _ => inferInstanceAs (Decidable (_ ∨ _))

/-- `sorted(actual.keys() | expected.keys())`. -/
def keys (actual expected : Quantities) : List PositionKey :=
  ((actual.rows.map Prod.fst ++ expected.rows.map Prod.fst).dedup).insertionSort keyLe

/-- What the loop over the keys has to say of one. -/
def positionDifference (actual expected : Quantities) (key : PositionKey) :
    Option PrivateStateDifference :=
  match Tally.get expected key, Tally.get actual key with
  | none, actualQuantity =>
    some { kind := .unknownPosition, detail := .unexplainedPosition key actualQuantity }
  | some expectedQuantity, none =>
    some { kind := .missingPosition, detail := .expectedPosition key expectedQuantity }
  | some expectedQuantity, some actualQuantity =>
    if actualQuantity ≠ expectedQuantity then
      some
        { kind := .positionQuantityMismatch
          detail := .quantities key expectedQuantity actualQuantity }
    else none

/-- What the loop over the open orders has to say of one. -/
def orderDifference (knownOrderLinkIds : List String) (order : ExchangeOrder) :
    Option PrivateStateDifference :=
  if order.orderLinkId = "" ∨ order.orderLinkId ∉ knownOrderLinkIds then
    some
      { kind := .unknownOpenOrder
        detail := .unexplainedOrder order.category order.orderId order.symbol }
  else none

def evaluatePrivateSnapshot (snapshot : PrivateAccountSnapshot) (knownOrderLinkIds : List String)
    (expectedPositions : List ExpectedPosition) : Except Failure ReadOnlyReconciliationResult := do
  let actual ← actualPositionQuantities snapshot.positions
  let expected := expectedPositionQuantities expectedPositions
  let differences := snapshot.openOrders.filterMap (orderDifference knownOrderLinkIds) ++
    (keys actual expected).filterMap (positionDifference actual expected)
  pure { tradingAllowed := differences.isEmpty, differences }

end ReadOnlyReconciliation

/-- The differences that are about positions. -/
def ReadOnlyReconciliationResult.positionDifferences (result : ReadOnlyReconciliationResult) :
    List PrivateStateDifference :=
  result.differences.filter fun difference => difference.kind ≠ .unknownOpenOrder

/-! ## The verdict on positions -/

section Verdict

open ReadOnlyReconciliation

variable {actual expected : Quantities} {key : PositionKey}

theorem mem_keys : key ∈ keys actual expected ↔
    Tally.get actual key ≠ none ∨ Tally.get expected key ≠ none := by
  unfold keys
  rw [List.mem_insertionSort, List.mem_dedup, List.mem_append, Tally.mem_keys, Tally.mem_keys]

theorem positionDifference_eq_none (h : key ∈ keys actual expected) :
    positionDifference actual expected key = none ↔
      Tally.get expected key = Tally.get actual key := by
  unfold positionDifference
  cases hexpected : Tally.get expected key with
  | none =>
    have hactual : Tally.get actual key ≠ none := by
      rcases mem_keys.mp h with hactual | hnone
      · exact hactual
      · exact absurd hexpected hnone
    simp [hactual.symm]
  | some quantity =>
    cases hactual : Tally.get actual key with
    | none => simp
    | some quantity' => simp [eq_comm]

/-- The differences about positions are those of the keys. -/
theorem positionDifferences_eq {snapshot : PrivateAccountSnapshot} {known : List String}
    {positions : List ExpectedPosition} {result : ReadOnlyReconciliationResult}
    (hactual : actualPositionQuantities snapshot.positions = .ok actual)
    (h : evaluatePrivateSnapshot snapshot known positions = .ok result) :
    result.positionDifferences =
      (keys actual (expectedPositionQuantities positions)).filterMap
        (positionDifference actual (expectedPositionQuantities positions)) := by
  unfold evaluatePrivateSnapshot at h
  rw [hactual] at h
  obtain rfl := Except.ok.inj h
  unfold ReadOnlyReconciliationResult.positionDifferences
  -- differences of orders are of one kind only, which is not one of positions
  have horders : (snapshot.openOrders.filterMap (orderDifference known)).filter
      (fun difference => difference.kind ≠ .unknownOpenOrder) = [] := by
    refine List.filter_eq_nil_iff.mpr fun difference hd => ?_
    obtain ⟨order, -, hd⟩ := List.mem_filterMap.mp hd
    unfold orderDifference at hd
    split at hd
    · obtain rfl := Option.some.inj hd
      simp
    · cases hd
  rw [List.filter_append, horders, List.nil_append]
  refine List.filter_eq_self.mpr fun difference hd => ?_
  obtain ⟨key, -, hd⟩ := List.mem_filterMap.mp hd
  unfold positionDifference at hd
  split at hd
  · obtain rfl := Option.some.inj hd
    rfl
  · obtain rfl := Option.some.inj hd
    rfl
  · split at hd
    · obtain rfl := Option.some.inj hd
      rfl
    · cases hd

/-- No position difference: every key has the same total on both sides. -/
theorem no_positionDifferences_iff :
    (keys actual expected).filterMap (positionDifference actual expected) = [] ↔
      ∀ key, Tally.get expected key = Tally.get actual key := by
  rw [List.filterMap_eq_nil_iff]
  constructor
  · intro h key
    by_cases hkey : key ∈ keys actual expected
    · exact (positionDifference_eq_none hkey).mp (h key hkey)
    · rw [mem_keys, not_or, not_not, not_not] at hkey
      rw [hkey.1, hkey.2]
  · intro h key hkey
    exact (positionDifference_eq_none hkey).mpr (h key)

end Verdict

/-! ## The two comparisons -/

/-- The records of the local legs. -/
def expectedRecords (positions : List ExpectedPosition) : List ((String × OrderSide) × ℚ) :=
  positions.map fun p => ((p.symbol, p.side), p.quantity)

/-- The records of the exchange's open option positions. -/
def heldRecords (positions : List ExchangePosition) : List ((String × OrderSide) × ℚ) :=
  (positions.filter fun p => p.category = .option ∧ 0 < p.quantity).filterMap fun p =>
    p.side.map fun side => ((p.symbol, side), p.quantity)

/-- The option records of an account, with everything else in place. -/
def optionsOnly (exchange : PrivateAccountSnapshot) : PrivateAccountSnapshot :=
  { exchange with positions := exchange.positions.filter fun p => p.category = .option }

section Comparisons

open ReadOnlyReconciliation

variable {positions : List ExchangePosition} {expected : List ExpectedPosition}

theorem lastValue_eq_latest (pairs : List ((String × Option OrderSide) × ℚ))
    (key : String × Option OrderSide) : lastValue pairs key = Tally.latest pairs key := by
  unfold lastValue Tally.latest Tally.recordsOf
  rw [List.getLast?_map, List.getLast?_eq_head?_reverse, ← List.filter_reverse, List.head?_filter]

/-- The two columns that `_option_positions_match` makes dictionaries of. -/
def expectedPairs (positions : List ExpectedPosition) : List ((String × Option OrderSide) × ℚ) :=
  positions.map fun p => ((p.symbol, some p.side), p.quantity)

def heldPairs (positions : List ExchangePosition) : List ((String × Option OrderSide) × ℚ) :=
  (positions.filter fun p => p.category = .option ∧ 0 < p.quantity).map
    fun p => ((p.symbol, p.side), p.quantity)

theorem optionPositionsMatch_iff_pairs {localState : LocalExecutionRecoveryState}
    {exchange : PrivateAccountSnapshot} : optionPositionsMatch localState exchange = true ↔
      ∀ key, Tally.latest (expectedPairs localState.expectedOptionPositions) key =
        Tally.latest (heldPairs exchange.positions) key := by
  unfold optionPositionsMatch
  rw [List.all_eq_true]
  constructor
  · intro h key
    by_cases hkey : key ∈ (expectedPairs localState.expectedOptionPositions ++
        heldPairs exchange.positions).map Prod.fst
    · have hsame := of_decide_eq_true (h key hkey)
      rwa [lastValue_eq_latest, lastValue_eq_latest] at hsame
    · rw [List.map_append, List.mem_append, not_or] at hkey
      unfold Tally.latest
      rw [Tally.recordsOf_eq_nil.mpr hkey.1, Tally.recordsOf_eq_nil.mpr hkey.2]
  · intro h key _
    refine decide_eq_true ?_
    rw [lastValue_eq_latest, lastValue_eq_latest]
    exact h key

/-- `_option_positions_match` compares the last records. -/
theorem optionPositionsMatch_iff {localState : LocalExecutionRecoveryState}
    {exchange : PrivateAccountSnapshot}
    (hheld : ∀ p ∈ exchange.positions, 0 < p.quantity → p.side ≠ none) :
    optionPositionsMatch localState exchange = true ↔
      ∀ key, Tally.latest (expectedRecords localState.expectedOptionPositions) key =
        Tally.latest (heldRecords exchange.positions) key := by
  have hinjective : Function.Injective fun key : String × OrderSide => (key.1, some key.2) :=
    fun k k' h => by simpa [Prod.ext_iff] using h
  have hexpectedPairs : expectedPairs localState.expectedOptionPositions =
      (expectedRecords localState.expectedOptionPositions).map
        fun r => ((r.1.1, some r.1.2), r.2) := by
    unfold expectedPairs expectedRecords
    rw [List.map_map]
    rfl
  have hheldPairs : heldPairs exchange.positions =
      (heldRecords exchange.positions).map fun r => ((r.1.1, some r.1.2), r.2) := by
    unfold heldPairs heldRecords
    rw [List.map_filterMap, ← List.filterMap_eq_map]
    refine List.filterMap_congr fun p hp => ?_
    obtain ⟨hmem, hopen⟩ := List.mem_filter.mp hp
    obtain ⟨side, hside⟩ :=
      Option.ne_none_iff_exists'.mp (hheld p hmem (of_decide_eq_true hopen).2)
    simp [hside]
  rw [optionPositionsMatch_iff_pairs, hexpectedPairs, hheldPairs]
  exact Tally.forall_recordsOf_map hinjective List.getLast?
    (expectedRecords localState.expectedOptionPositions) (heldRecords exchange.positions)

/-- The dictionary of the exchange's option records. -/
theorem actualPositionQuantities_options
    (hheld : ∀ p ∈ positions, 0 ≤ p.quantity ∧ (0 < p.quantity → p.side ≠ none)) :
    actualPositionQuantities (positions.filter fun p => p.category = .option) =
      .ok (((heldRecords positions).map fun r => ((Category.option, r.1.1, r.1.2), r.2)).foldl
        Tally.tally .empty) := by
  suffices hloop : ∀ quantities : Quantities,
      (positions.filter fun p => p.category = .option).foldlM tallyActual quantities =
        .ok (((heldRecords positions).map fun r => ((Category.option, r.1.1, r.1.2), r.2)).foldl
          Tally.tally quantities) from hloop .empty
  induction positions with
  | nil => exact fun _ => rfl
  | cons p positions ih =>
    intro quantities
    obtain ⟨⟨hnonneg, hsided⟩, hrest⟩ := List.forall_mem_cons.mp hheld
    by_cases hoption : p.category = .option
    · rw [List.filter_cons_of_pos (by simpa using hoption), List.foldlM_cons]
      by_cases hzero : p.quantity = 0
      · -- a flat record is passed over by both
        have hskip : tallyActual quantities p = .ok quantities := if_pos hzero
        have hrecords : heldRecords (p :: positions) = heldRecords positions := by
          unfold heldRecords
          rw [List.filter_cons_of_neg (by simp [hzero])]
        rw [hskip, hrecords]
        exact ih hrest quantities
      · -- a held record has a side, and is tallied under it
        have hpos : 0 < p.quantity := lt_of_le_of_ne hnonneg (Ne.symm hzero)
        obtain ⟨side, hside⟩ := Option.ne_none_iff_exists'.mp (hsided hpos)
        have hadd : tallyActual quantities p = .ok (Tally.tally quantities
            ((p.category, p.symbol, side), p.quantity)) := by
          unfold tallyActual
          rw [if_neg hzero, hside]
          rfl
        have hrecords : heldRecords (p :: positions) =
            ((p.symbol, side), p.quantity) :: heldRecords positions := by
          unfold heldRecords
          rw [List.filter_cons_of_pos (by simp [hoption, hpos]), List.filterMap_cons, hside]
          rfl
        rw [hadd, hrecords, hoption]
        exact ih hrest _
    · have hrecords : heldRecords (p :: positions) = heldRecords positions := by
        unfold heldRecords
        rw [List.filter_cons_of_neg (by simp [hoption])]
      rw [List.filter_cons_of_neg (by simpa using hoption), hrecords]
      exact ih hrest quantities

/-- `evaluate_private_snapshot` compares the totals. -/
theorem no_differences_iff {exchange : PrivateAccountSnapshot} (known : List String)
    (hexpected : ∀ p ∈ expected, p.category = .option)
    (hheld : ∀ p ∈ exchange.positions, 0 ≤ p.quantity ∧ (0 < p.quantity → p.side ≠ none)) :
    ∃ result, evaluatePrivateSnapshot (optionsOnly exchange) known expected = .ok result ∧
      (result.positionDifferences = [] ↔
        ∀ key, Tally.total (expectedRecords expected) key =
          Tally.total (heldRecords exchange.positions) key) := by
  have hactual := actualPositionQuantities_options hheld
  have hinjective : Function.Injective fun key : String × OrderSide =>
      (Category.option, key.1, key.2) := fun k k' h => by simpa [Prod.ext_iff] using h
  -- all are options, so the category says nothing and can be left out of the key
  have hpairs : expected.map (fun p => ((p.category, p.symbol, p.side), p.quantity)) =
      (expectedRecords expected).map fun r => ((Category.option, r.1.1, r.1.2), r.2) := by
    unfold expectedRecords
    rw [List.map_map]
    refine List.map_congr_left fun p hp => ?_
    rw [hexpected p hp]
    rfl
  obtain ⟨result, hresult⟩ : ∃ result,
      evaluatePrivateSnapshot (optionsOnly exchange) known expected = .ok result := by
    unfold evaluatePrivateSnapshot optionsOnly
    rw [hactual]
    exact ⟨_, rfl⟩
  refine ⟨result, hresult, ?_⟩
  rw [positionDifferences_eq hactual hresult, no_positionDifferences_iff]
  unfold expectedPositionQuantities
  simp only [hpairs, Tally.get_tallies]
  exact Tally.forall_recordsOf_map hinjective (fun rs => if rs = [] then none else some rs.sum)
    (expectedRecords expected) (heldRecords exchange.positions)

/-- Repeated records hide a difference between the two sides: under some key the records before
    its last come to different quantities, and yet the last records of all keys are the same, or
    the totals of all keys are. -/
def RepeatsMask (expected held : List ((String × OrderSide) × ℚ)) : Prop :=
  (∃ key, Tally.earlier expected key ≠ Tally.earlier held key) ∧
    ((∀ key, Tally.latest expected key = Tally.latest held key) ∨
      ∀ key, Tally.total expected key = Tally.total held key)

/-- **When the two comparisons agree**: exactly unless repeated records hide a difference. -/
theorem optionComparisons_agree_iff {localState : LocalExecutionRecoveryState}
    {exchange : PrivateAccountSnapshot} (known : List String)
    (hexpected : ∀ p ∈ localState.expectedOptionPositions, p.category = .option)
    (hheld : ∀ p ∈ exchange.positions, p.check = .ok ()) :
    ∃ result, evaluatePrivateSnapshot (optionsOnly exchange) known
        localState.expectedOptionPositions = .ok result ∧
      ((optionPositionsMatch localState exchange = true ↔ result.positionDifferences = []) ↔
        ¬ RepeatsMask (expectedRecords localState.expectedOptionPositions)
          (heldRecords exchange.positions)) := by
  have hvalid : ∀ p ∈ exchange.positions, 0 ≤ p.quantity ∧ (0 < p.quantity → p.side ≠ none) := by
    intro p hp
    have h := hheld p hp
    simp only [ExchangePosition.check, bind_unit_eq_ok, refuseIf_eq_ok] at h
    obtain ⟨-, hnonneg, hside, -⟩ := h
    exact ⟨not_lt.mp hnonneg, fun hpos hnone => hside ⟨hpos, hnone⟩⟩
  obtain ⟨result, hresult, hdifferences⟩ := no_differences_iff known hexpected hvalid
  refine ⟨result, hresult, ?_⟩
  rw [hdifferences, optionPositionsMatch_iff fun p hp => (hvalid p hp).2]
  exact Tally.latest_iff_total

/-- Without repeated keys nothing is hidden. -/
theorem not_repeatsMask {expected held : List ((String × OrderSide) × ℚ)}
    (hexpected : (expected.map Prod.fst).Nodup) (hheld : (held.map Prod.fst).Nodup) :
    ¬ RepeatsMask expected held := by
  rintro ⟨⟨key, hkey⟩, -⟩
  rw [Tally.earlier_of_nodup hexpected, Tally.earlier_of_nodup hheld] at hkey
  exact hkey rfl

end Comparisons

/-! ## One leg, in one record and in two -/

/-- A local state that expects this much of a short put, and nothing else. -/
def expecting (quantity : ℚ) : LocalExecutionRecoveryState where
  orderIntents := .empty
  entrySnapshots := .empty
  protectionSnapshots := .empty
  expectedOptionPositions :=
    [{ category := .option, symbol := "ETH-27MAR26-1800-P", side := .sell, quantity }]
  executions := .empty

/-- An account that holds the put in records of these quantities. -/
def holding (quantities : List ℚ) : PrivateAccountSnapshot where
  openOrders := []
  recentOrders := []
  executions := []
  positions := quantities.map fun quantity =>
    { category := .option
      symbol := "ETH-27MAR26-1800-P"
      side := some .sell
      quantity
      averagePrice := some 50
      markPrice := none
      unrealizedPnl := 0
      updatedAt := 0 }

/-- In one record, the comparisons agree. -/
theorem optionComparisons_agree_single :
    ∃ result, ReadOnlyReconciliation.evaluatePrivateSnapshot (optionsOnly (holding [1])) []
        (expecting 1).expectedOptionPositions = .ok result ∧
      (optionPositionsMatch (expecting 1) (holding [1]) = true ↔
        result.positionDifferences = []) := by
  obtain ⟨result, hresult, hiff⟩ :=
    @optionComparisons_agree_iff (expecting 1) (holding [1]) [] (by decide +kernel)
      (by decide +kernel)
  exact ⟨result, hresult, hiff.mpr (not_repeatsMask (by decide +kernel) (by decide +kernel))⟩

/-- **Twice the leg in two records** is a match for the startup comparison, and a mismatch for the
    read-only one; and where the two records are what is expected, it is the other way round. -/
theorem repeated_records_disagree :
    (optionPositionsMatch (expecting 1) (holding [1, 1]) = true ∧
      ReadOnlyReconciliation.evaluatePrivateSnapshot (optionsOnly (holding [1, 1])) []
          (expecting 1).expectedOptionPositions =
        .ok
          { tradingAllowed := false
            differences :=
              [{ kind := .positionQuantityMismatch
                 detail := .quantities (.option, "ETH-27MAR26-1800-P", .sell) 1 2 }] }) ∧
      optionPositionsMatch (expecting 2) (holding [1, 1]) = false ∧
      ReadOnlyReconciliation.evaluatePrivateSnapshot (optionsOnly (holding [1, 1])) []
          (expecting 2).expectedOptionPositions =
        .ok { tradingAllowed := true, differences := [] } := by
  decide +kernel

end CreditHedge
