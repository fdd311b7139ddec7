import CreditHedge.Domain.InstrumentRules
import Mathlib.Data.List.MinMax
import Mathlib.Data.List.ReduceOption
import Mathlib.Data.Prod.Lex
import Mathlib.Data.String.Basic

/-!
# The option pair

`select_demo_option_pair` of `interfaces/demo_runner.py`, which the demo runner trades and the
shadow runner watches: of all pairs of quotes it takes the put spreads that are quoted now, expire
in two weeks to three months, give a credit and lose no more than they may, and of these the first
in its ranking. Here it is shown to take exactly these (`mem_candidates`), and the least of them.

What a decimal is of a text is a parameter. A `Time` is in microseconds.
-/

set_option autoImplicit false

namespace CreditHedge

/-- What the selection reads of a quote. -/
structure OptionMarketQuote where
  symbol : String
  timestampUtc : Time
  bidPrice : Option ℚ
  bidSize : Option ℚ
  askPrice : Option ℚ
  askSize : Option ℚ
  delta : Option ℚ
  deriving DecidableEq

/-- An `InstrumentSpec`, with its delivery. -/
structure ListedInstrument extends InstrumentSpec where
  deliveryTimeUtc : Option Time

namespace OptionPairs

/-- `timedelta(days=n)`. -/
def days (n : ℤ) : ℤ := n * 86400000000

/-- `timedelta(seconds=n)`. -/
def seconds (n : ℤ) : ℤ := n * 1000000

/-! ## What is eligible -/

/-- `as_of + timedelta(days=14) <= expiry <= as_of + timedelta(days=90)`. -/
def InWindow (asOf expiry : Time) : Prop := asOf + days 14 ≤ expiry ∧ expiry ≤ asOf + days 90

instance (asOf expiry : Time) : Decidable (InWindow asOf expiry) :=
  inferInstanceAs (Decidable (_ ∧ _))

/-- `_eligible_quote`. -/
def eligibleQuote (quote : OptionMarketQuote) (instrument : Option ListedInstrument)
    (asOf : Time) : Bool :=
  match instrument, quote.bidPrice, quote.askPrice with
  | some instrument, some bidPrice, some askPrice =>
    instrument.status = "Trading" && quote.symbol.endsWith "-P-USDT" && 0 < bidPrice &&
      0 < askPrice && instrument.deliveryTimeUtc.any (fun expiry => InWindow asOf expiry) &&
      0 ≤ asOf - quote.timestampUtc && asOf - quote.timestampUtc ≤ seconds 10
  | _, _, _ => false

/-- `_eligible_short`. -/
def eligibleShort (quote : OptionMarketQuote) (instrument : Option ListedInstrument)
    (asOf : Time) : Bool :=
  eligibleQuote quote instrument asOf &&
    match instrument, quote.bidSize, quote.delta with
    | some instrument, some bidSize, some delta =>
      -45 / 100 ≤ delta && delta ≤ -15 / 100 && instrument.lotSizeFilter.minOrderQty ≤ bidSize
    | _, _, _ => false

/-- `_eligible_long`. -/
def eligibleLong (quote : OptionMarketQuote) (instrument : Option ListedInstrument)
    (shortInstrument : ListedInstrument) (asOf : Time) : Bool :=
  eligibleQuote quote instrument asOf &&
    match instrument, quote.askSize with
    | some instrument, some askSize =>
      instrument.deliveryTimeUtc = shortInstrument.deliveryTimeUtc &&
        instrument.lotSizeFilter.minOrderQty ≤ askSize
    | _, _ => false

/-! ## The candidates -/

/-- What the candidates are ranked by: the expiry, the distance of the delta, that of the width, the
    credit, and then the symbols. -/
def Rank : Type := Time ×ₗ ℚ ×ₗ ℚ ×ₗ ℚ ×ₗ String ×ₗ String

instance : LinearOrder Rank := Prod.Lex.instLinearOrder Time _

-- With more imported there are other ways to a preorder, and not all of them compute.
instance : Preorder Rank := PartialOrder.toPreorder

structure Candidate where
  rank : Rank
  longQuote : OptionMarketQuote
  shortQuote : OptionMarketQuote
  longInstrument : ListedInstrument
  shortInstrument : ListedInstrument

section Selection

variable (decimal : String → Option ℚ)

/-- `_strike`; `decimal` is `Decimal(text)`, where the text is one. -/
def strike (symbol : String) : Except Failure ℚ :=
  match (symbol.splitOn "-")[2]? with
  | none => .error (.valueError s!"invalid option symbol: {symbol}")
  | some text =>
    match decimal text with
    | some strike => .ok strike
    | none => .error .invalidOperation

/-- `by_symbol.get(symbol)`: of two instruments with one symbol, the later. -/
def bySymbol (instruments : List ListedInstrument) (symbol : String) : Option ListedInstrument :=
  instruments.reverse.find? fun instrument => instrument.symbol = symbol

/-- `_required_delivery`. -/
def requiredDelivery (instrument : ListedInstrument) : Except Failure Time :=
  match instrument.deliveryTimeUtc with
  | some delivery => .ok delivery
  | none => .error (.demoMutationRefused "option instrument has no delivery time")

variable (instruments : List ListedInstrument) (asOf : Time) (maximumLoss : ℚ)

/-- The body of the inner loop, past its checks of the long leg. -/
def spread (shortQuote longQuote : OptionMarketQuote)
    (shortInstrument longInstrument : ListedInstrument) (bidPrice askPrice shortStrike : ℚ) :
    Except Failure (Option Candidate) := do
  let longStrike ← strike decimal longQuote.symbol
  let width := shortStrike - longStrike
  if width ≤ 0 ∨ 200 < width then pure none
  else
    let quantity :=
      max shortInstrument.lotSizeFilter.minOrderQty longInstrument.lotSizeFilter.minOrderQty
    let credit := (bidPrice - askPrice) * quantity
    if credit ≤ 0 ∨ maximumLoss < width * quantity - credit then pure none
    else do
      let expiry ← requiredDelivery shortInstrument
      let delta := (shortQuote.delta.filter fun delta => delta ≠ 0).getD (-9)
      let deltaDistance := |delta - -30 / 100|
      pure (some
        { rank :=
            toLex (expiry, toLex (deltaDistance, toLex (|width - 50|, toLex (-credit,
              toLex (shortQuote.symbol, longQuote.symbol)))))
          longQuote, shortQuote, longInstrument, shortInstrument })

/-- The body of the inner loop. -/
def pairUp (shortQuote : OptionMarketQuote) (shortInstrument : ListedInstrument)
    (bidPrice shortStrike : ℚ) (longQuote : OptionMarketQuote) :
    Except Failure (Option Candidate) :=
  match bySymbol instruments longQuote.symbol, longQuote.askPrice with
  | some longInstrument, some askPrice =>
    if eligibleLong longQuote (some longInstrument) shortInstrument asOf then
      spread decimal maximumLoss shortQuote longQuote shortInstrument longInstrument bidPrice
        askPrice shortStrike
    else pure none
  | _, _ => pure none

/-- The body of the outer loop. -/
def pairsOf (quotes : List OptionMarketQuote) (shortQuote : OptionMarketQuote) :
    Except Failure (List Candidate) :=
  match bySymbol instruments shortQuote.symbol, shortQuote.bidPrice with
  | some shortInstrument, some bidPrice =>
    if eligibleShort shortQuote (some shortInstrument) asOf then do
      let shortStrike ← strike decimal shortQuote.symbol
      let found ← quotes.mapM
        (pairUp decimal instruments asOf maximumLoss shortQuote shortInstrument bidPrice shortStrike)
      pure found.reduceOption
    else pure []
  | _, _ => pure []

def candidates (quotes : List OptionMarketQuote) : Except Failure (List Candidate) := do
  let found ← quotes.mapM (pairsOf decimal instruments asOf maximumLoss quotes)
  pure found.flatten

/-- `select_demo_option_pair`. -/
def selectDemoOptionPair (quotes : List OptionMarketQuote) : Except Failure Candidate := do
  let found ← candidates decimal instruments asOf maximumLoss quotes
  match found.argmin Candidate.rank with
  | some candidate => pure candidate
  | none => throw (.demoMutationRefused "no finite-risk liquid ETH put spread found")

/-! ## What is selected -/

/-- The pair of a candidate, as the selection is to find it. -/
structure Candidate.Tradable (quotes : List OptionMarketQuote) (c : Candidate) : Prop where
  short_mem : c.shortQuote ∈ quotes
  long_mem : c.longQuote ∈ quotes
  shortInstrument_eq : bySymbol instruments c.shortQuote.symbol = some c.shortInstrument
  longInstrument_eq : bySymbol instruments c.longQuote.symbol = some c.longInstrument
  shortEligible : eligibleShort c.shortQuote (some c.shortInstrument) asOf = true
  longEligible : eligibleLong c.longQuote (some c.longInstrument) c.shortInstrument asOf = true
  spread_eq : ∃ bidPrice askPrice shortStrike, c.shortQuote.bidPrice = some bidPrice ∧
    c.longQuote.askPrice = some askPrice ∧ strike decimal c.shortQuote.symbol = .ok shortStrike ∧
    spread decimal maximumLoss c.shortQuote c.longQuote c.shortInstrument c.longInstrument bidPrice
      askPrice shortStrike = .ok (some c)

variable {decimal instruments asOf maximumLoss} {quotes : List OptionMarketQuote}

/-- What is found over a list is what is found for one of its members. -/
theorem mem_of_mapM {α β : Type} {f : α → Except Failure β} {xs : List α} {ys : List β}
    (h : xs.mapM f = .ok ys) {y : β} : y ∈ ys ↔ ∃ x ∈ xs, f x = .ok y := by
  rw [mapM_eq_ok] at h
  induction h with
  | nil => simp
  | @cons x y' xs ys hxy _ ih =>
    rw [List.mem_cons, ih]
    constructor
    · rintro (rfl | ⟨x', hx', hy⟩)
      · exact ⟨x, List.mem_cons_self, hxy⟩
      · exact ⟨x', List.mem_cons_of_mem _ hx', hy⟩
    · rintro ⟨x', hx', hy⟩
      rcases List.mem_cons.mp hx' with rfl | hmem
      · exact .inl (Except.ok.inj (hy.symm.trans hxy))
      · exact .inr ⟨x', hmem, hy⟩

theorem exists_of_mapM {α β : Type} {f : α → Except Failure β} {xs : List α} {ys : List β}
    (h : xs.mapM f = .ok ys) {x : α} (hx : x ∈ xs) : ∃ y ∈ ys, f x = .ok y := by
  rw [mapM_eq_ok] at h
  induction h with
  | nil => cases hx
  | @cons x' y xs ys hxy _ ih =>
    rcases List.mem_cons.mp hx with rfl | hmem
    · exact ⟨y, List.mem_cons_self, hxy⟩
    · obtain ⟨y', hy', hfound⟩ := ih hmem
      exact ⟨y', List.mem_cons_of_mem _ hy', hfound⟩

/-- A spread is of the legs it was made of. -/
theorem legs_of_spread {shortQuote longQuote : OptionMarketQuote}
    {shortInstrument longInstrument : ListedInstrument} {bidPrice askPrice shortStrike : ℚ}
    {c : Candidate}
    (h : spread decimal maximumLoss shortQuote longQuote shortInstrument longInstrument bidPrice
      askPrice shortStrike = .ok (some c)) :
    c.shortQuote = shortQuote ∧ c.longQuote = longQuote ∧ c.shortInstrument = shortInstrument ∧
      c.longInstrument = longInstrument := by
  unfold spread at h
  simp only [bind_eq_ok] at h
  obtain ⟨longStrike, -, h⟩ := h
  split at h
  · cases h
  · split at h
    · cases h
    · obtain ⟨expiry, -, h⟩ := bind_eq_ok.mp h
      obtain rfl := Option.some.inj (Except.ok.inj h)
      exact ⟨rfl, rfl, rfl, rfl⟩

theorem pairUp_eq_ok {shortQuote longQuote : OptionMarketQuote} {shortInstrument : ListedInstrument}
    {bidPrice shortStrike : ℚ} {c : Candidate} :
    pairUp decimal instruments asOf maximumLoss shortQuote shortInstrument bidPrice shortStrike
        longQuote = .ok (some c) ↔
      ∃ longInstrument askPrice, bySymbol instruments longQuote.symbol = some longInstrument ∧
        longQuote.askPrice = some askPrice ∧
        eligibleLong longQuote (some longInstrument) shortInstrument asOf = true ∧
        spread decimal maximumLoss shortQuote longQuote shortInstrument longInstrument bidPrice
          askPrice shortStrike = .ok (some c) := by
  unfold pairUp
  constructor
  · intro h
    split at h
    · rename_i longInstrument askPrice hlong hask
      split at h
      · rename_i heligible
        exact ⟨longInstrument, askPrice, hlong, hask, heligible, h⟩
      · cases h
    · cases h
  · rintro ⟨longInstrument, askPrice, hlong, hask, heligible, h⟩
    simp only [hlong, hask, heligible, if_true]
    exact h

/-- The pairs of one short leg. -/
theorem mem_pairsOf {shortQuote : OptionMarketQuote} {found : List Candidate}
    (h : pairsOf decimal instruments asOf maximumLoss quotes shortQuote = .ok found)
    (hshort : shortQuote ∈ quotes) {c : Candidate} :
    c ∈ found ↔ c.Tradable decimal instruments asOf maximumLoss quotes ∧
      c.shortQuote = shortQuote := by
  unfold pairsOf at h
  split at h
  · rename_i shortInstrument bidPrice hinstrument hbid
    split at h
    · rename_i heligible
      obtain ⟨shortStrike, hstrike, h⟩ := bind_eq_ok.mp h
      obtain ⟨pairs, hpairs, hfound⟩ := bind_eq_ok.mp h
      obtain rfl := Except.ok.inj hfound
      rw [List.reduceOption_mem_iff, mem_of_mapM hpairs]
      constructor
      · rintro ⟨longQuote, hlong, hpair⟩
        obtain ⟨longInstrument, askPrice, hlongInstrument, hask, hlongEligible, hspread⟩ :=
          pairUp_eq_ok.mp hpair
        obtain ⟨rfl, rfl, rfl, rfl⟩ := legs_of_spread hspread
        exact ⟨⟨hshort, hlong, hinstrument, hlongInstrument, heligible, hlongEligible,
          bidPrice, askPrice, shortStrike, hbid, hask, hstrike, hspread⟩, rfl⟩
      · rintro ⟨⟨-, hlong, hinstrument', hlongInstrument, -, hlongEligible,
          bidPrice', askPrice, shortStrike', hbid', hask, hstrike', hspread⟩, rfl⟩
        obtain rfl := Option.some.inj (hinstrument'.symm.trans hinstrument)
        obtain rfl := Option.some.inj (hbid'.symm.trans hbid)
        obtain rfl := Except.ok.inj (hstrike'.symm.trans hstrike)
        exact ⟨c.longQuote, hlong,
          pairUp_eq_ok.mpr ⟨_, askPrice, hlongInstrument, hask, hlongEligible, hspread⟩⟩
    · rename_i hineligible
      obtain rfl := Except.ok.inj h
      refine ⟨fun hmem => absurd hmem List.not_mem_nil, ?_⟩
      rintro ⟨htradable, rfl⟩
      obtain rfl := Option.some.inj (htradable.shortInstrument_eq.symm.trans hinstrument)
      exact absurd htradable.shortEligible hineligible
  · rename_i hnone
    obtain rfl := Except.ok.inj h
    refine ⟨fun hmem => absurd hmem List.not_mem_nil, ?_⟩
    rintro ⟨htradable, rfl⟩
    obtain ⟨bidPrice, -, -, hbid, -⟩ := htradable.spread_eq
    exact absurd hbid (hnone _ _ htradable.shortInstrument_eq)

/-- **The candidates are the pairs that can be traded.** -/
theorem mem_candidates {found : List Candidate}
    (h : candidates decimal instruments asOf maximumLoss quotes = .ok found) {c : Candidate} :
    c ∈ found ↔ c.Tradable decimal instruments asOf maximumLoss quotes := by
  obtain ⟨pairs, hpairs, hfound⟩ := bind_eq_ok.mp h
  obtain rfl := Except.ok.inj hfound
  rw [List.mem_flatten]
  constructor
  · rintro ⟨found, hfound, hmem⟩
    obtain ⟨shortQuote, hshort, hof⟩ := (mem_of_mapM hpairs).mp hfound
    exact ((mem_pairsOf hof hshort).mp hmem).1
  · intro htradable
    obtain ⟨found, hfound, hof⟩ := exists_of_mapM hpairs htradable.short_mem
    exact ⟨found, hfound, (mem_pairsOf hof htradable.short_mem).mpr ⟨htradable, rfl⟩⟩

theorem error_of_mapM {α β : Type} {f : α → Except Failure β} {xs : List α} {failure : Failure}
    (h : xs.mapM f = .error failure) : ∃ x ∈ xs, f x = .error failure := by
  induction xs with
  | nil => cases h
  | cons x xs ih =>
    rw [List.mapM_cons] at h
    cases hx : f x with
    | error failure' =>
      rw [hx] at h
      obtain rfl := Except.error.inj h
      exact ⟨x, List.mem_cons_self, hx⟩
    | ok y =>
      cases hxs : xs.mapM f with
      | error failure' =>
        rw [hx, hxs] at h
        obtain rfl := Except.error.inj h
        obtain ⟨x', hx', hfailed⟩ := ih hxs
        exact ⟨x', List.mem_cons_of_mem _ hx', hfailed⟩
      | ok ys =>
        rw [hx, hxs] at h
        cases h

/-- What has been checked of a spread. -/
theorem spread_eq_ok {shortQuote longQuote : OptionMarketQuote}
    {shortInstrument longInstrument : ListedInstrument} {bidPrice askPrice shortStrike : ℚ}
    {c : Candidate}
    (h : spread decimal maximumLoss shortQuote longQuote shortInstrument longInstrument bidPrice
      askPrice shortStrike = .ok (some c)) :
    ∃ longStrike, strike decimal longQuote.symbol = .ok longStrike ∧ longStrike < shortStrike ∧
      0 < (bidPrice - askPrice) *
        max shortInstrument.lotSizeFilter.minOrderQty longInstrument.lotSizeFilter.minOrderQty ∧
      (shortStrike - longStrike) *
          max shortInstrument.lotSizeFilter.minOrderQty longInstrument.lotSizeFilter.minOrderQty -
        (bidPrice - askPrice) *
          max shortInstrument.lotSizeFilter.minOrderQty longInstrument.lotSizeFilter.minOrderQty ≤
        maximumLoss := by
  unfold spread at h
  simp only [bind_eq_ok] at h
  obtain ⟨longStrike, hlong, h⟩ := h
  split at h
  · cases h
  · rename_i hwidth
    split at h
    · cases h
    · rename_i hcredit
      obtain ⟨hwide, -⟩ := not_or.mp hwidth
      obtain ⟨hpositive, hloss⟩ := not_or.mp hcredit
      exact ⟨longStrike, hlong, sub_pos.mp (not_le.mp hwide), not_le.mp hpositive, not_lt.mp hloss⟩

theorem delivery_of_eligibleQuote {quote : OptionMarketQuote} {instrument : ListedInstrument}
    (h : eligibleQuote quote (some instrument) asOf = true) :
    ∃ expiry, instrument.deliveryTimeUtc = some expiry ∧ InWindow asOf expiry := by
  unfold eligibleQuote at h
  split at h
  · rename_i instrument' bidPrice askPrice hinstrument hbid hask
    obtain rfl := Option.some.inj hinstrument
    simp only [Bool.and_eq_true, Option.any_eq_true, decide_eq_true_eq] at h
    exact h.1.1.2
  · cases h

theorem eligibleQuote_of_short {quote : OptionMarketQuote} {instrument : Option ListedInstrument}
    (h : eligibleShort quote instrument asOf = true) : eligibleQuote quote instrument asOf = true :=
  (Bool.and_eq_true_iff.mp h).1

theorem delivery_of_eligibleLong {quote : OptionMarketQuote}
    {instrument shortInstrument : ListedInstrument}
    (h : eligibleLong quote (some instrument) shortInstrument asOf = true) :
    instrument.deliveryTimeUtc = shortInstrument.deliveryTimeUtc := by
  unfold eligibleLong at h
  have hmatch := (Bool.and_eq_true_iff.mp h).2
  split at hmatch
  · rename_i instrument' askSize hinstrument hsize
    obtain rfl := Option.some.inj hinstrument
    simp only [Bool.and_eq_true, decide_eq_true_eq] at hmatch
    exact hmatch.1
  · cases hmatch

theorem bind_eq_error {α β : Type} {x : Except Failure α} {f : α → Except Failure β}
    {failure : Failure} :
    (x >>= f) = .error failure ↔ x = .error failure ∨ ∃ a, x = .ok a ∧ f a = .error failure := by
  rcases x with failure' | a <;> simp [bind, Except.bind]

theorem strike_of_pairUp {shortQuote longQuote : OptionMarketQuote}
    {shortInstrument : ListedInstrument} {bidPrice shortStrike : ℚ} {failure : Failure}
    (heligible : eligibleShort shortQuote (some shortInstrument) asOf = true)
    (h : pairUp decimal instruments asOf maximumLoss shortQuote shortInstrument bidPrice shortStrike
      longQuote = .error failure) :
    strike decimal longQuote.symbol = .error failure := by
  unfold pairUp at h
  split at h
  · split at h
    · unfold spread at h
      rcases bind_eq_error.mp h with hstrike | ⟨longStrike, -, hrest⟩
      · exact hstrike
      · dsimp only at hrest
        split at hrest
        · cases hrest
        · split at hrest
          · cases hrest
          · rcases bind_eq_error.mp hrest with hdelivery | ⟨expiry, -, hmade⟩
            · -- an eligible short leg has a delivery
              obtain ⟨expiry, hexpiry, -⟩ :=
                delivery_of_eligibleQuote (eligibleQuote_of_short heligible)
              unfold requiredDelivery at hdelivery
              rw [hexpiry] at hdelivery
              cases hdelivery
            · cases hmade
    · cases h
  · cases h

/-- The search fails over a strike that cannot be read, and over nothing else. -/
theorem strike_of_candidates {failure : Failure}
    (h : candidates decimal instruments asOf maximumLoss quotes = .error failure) :
    ∃ quote ∈ quotes, strike decimal quote.symbol = .error failure := by
  rcases bind_eq_error.mp h with hfailed | ⟨found, -, hfound⟩
  · obtain ⟨shortQuote, hshort, hpairs⟩ := error_of_mapM hfailed
    unfold pairsOf at hpairs
    split at hpairs
    · rename_i shortInstrument bidPrice hinstrument hbid
      split at hpairs
      · rename_i heligible
        rcases bind_eq_error.mp hpairs with hstrike | ⟨shortStrike, -, hrest⟩
        · exact ⟨shortQuote, hshort, hstrike⟩
        · rcases bind_eq_error.mp hrest with hfailed | ⟨found, -, hfound⟩
          · obtain ⟨longQuote, hlong, hpair⟩ := error_of_mapM hfailed
            exact ⟨longQuote, hlong, strike_of_pairUp heligible hpair⟩
          · cases hfound
      · cases hpairs
    · cases hpairs
  · cases hfound

/-- **The spread is bounded**: wherever it settles, it loses no more than it may. -/
structure Candidate.Bounded (asOf : Time) (maximumLoss : ℚ) (decimal : String → Option ℚ)
    (c : Candidate) : Prop where
  expiry : ∃ expiry, c.shortInstrument.deliveryTimeUtc = some expiry ∧
    c.longInstrument.deliveryTimeUtc = some expiry ∧ InWindow asOf expiry
  settles : ∃ bidPrice askPrice shortStrike longStrike quantity,
    c.shortQuote.bidPrice = some bidPrice ∧ c.longQuote.askPrice = some askPrice ∧
      strike decimal c.shortQuote.symbol = .ok shortStrike ∧
      strike decimal c.longQuote.symbol = .ok longStrike ∧ longStrike < shortStrike ∧
      c.shortInstrument.lotSizeFilter.minOrderQty ≤ quantity ∧
      c.longInstrument.lotSizeFilter.minOrderQty ≤ quantity ∧
      0 < (bidPrice - askPrice) * quantity ∧
      ∀ settlement : ℚ, -maximumLoss ≤ (bidPrice - askPrice) * quantity -
        (max (shortStrike - settlement) 0 - max (longStrike - settlement) 0) * quantity

/-- What is selected is the least of what can be traded. -/
theorem selectDemoOptionPair_eq_ok {c : Candidate}
    (h : selectDemoOptionPair decimal instruments asOf maximumLoss quotes = .ok c) :
    c.Tradable decimal instruments asOf maximumLoss quotes ∧
      ∀ c' : Candidate, c'.Tradable decimal instruments asOf maximumLoss quotes →
        c.rank ≤ c'.rank := by
  obtain ⟨found, hfound, h⟩ := bind_eq_ok.mp h
  split at h
  · rename_i least hleast
    obtain rfl := Except.ok.inj h
    refine ⟨(mem_candidates hfound).mp (List.argmin_mem hleast), fun c' hc' => ?_⟩
    exact List.le_of_mem_argmin ((mem_candidates hfound).mpr hc') hleast
  · cases h

/-- At settlement, a spread is worth no more than its width. -/
theorem spreadValue_le {shortStrike longStrike : ℚ} (h : longStrike ≤ shortStrike)
    (settlement : ℚ) :
    max (shortStrike - settlement) 0 - max (longStrike - settlement) 0 ≤
      shortStrike - longStrike := by
  rw [sub_le_iff_le_add]
  apply max_le
  · have := le_max_left (longStrike - settlement) 0
    linarith
  · have := le_max_right (longStrike - settlement) 0
    linarith

theorem Candidate.Tradable.bounded {c : Candidate}
    (h : c.Tradable decimal instruments asOf maximumLoss quotes) :
    c.Bounded asOf maximumLoss decimal := by
  constructor
  · obtain ⟨expiry, hexpiry, hwindow⟩ :=
      delivery_of_eligibleQuote (eligibleQuote_of_short h.shortEligible)
    refine ⟨expiry, hexpiry, ?_, hwindow⟩
    rw [← hexpiry]
    exact delivery_of_eligibleLong h.longEligible
  · obtain ⟨bidPrice, askPrice, shortStrike, hbid, hask, hstrike, hspread⟩ := h.spread_eq
    obtain ⟨longStrike, hlong, hbelow, hcredit, hloss⟩ := spread_eq_ok hspread
    refine ⟨bidPrice, askPrice, shortStrike, longStrike, _, hbid, hask, hstrike, hlong, hbelow,
      le_max_left _ _, le_max_right _ _, hcredit, fun settlement => ?_⟩
    have hquantity : 0 ≤ max c.shortInstrument.lotSizeFilter.minOrderQty
        c.longInstrument.lotSizeFilter.minOrderQty :=
      c.shortInstrument.lotSizeFilter.minOrderQty_pos.le.trans (le_max_left _ _)
    have hvalue := mul_le_mul_of_nonneg_right (spreadValue_le hbelow.le settlement) hquantity
    linarith

end Selection

end OptionPairs

open OptionPairs in
/-- **The selection**: the first in the ranking of all pairs that can be traded, which is bounded;
    or there is none, unless a strike could not be read. -/
theorem select_demo_option_pair (decimal : String → Option ℚ) (instruments : List ListedInstrument)
    (asOf : Time) (maximumLoss : ℚ) (quotes : List OptionMarketQuote) :
    match selectDemoOptionPair decimal instruments asOf maximumLoss quotes with
    | .ok c =>
      c.Tradable decimal instruments asOf maximumLoss quotes ∧
        c.Bounded asOf maximumLoss decimal ∧
        ∀ c' : Candidate, c'.Tradable decimal instruments asOf maximumLoss quotes →
          c.rank ≤ c'.rank
    | .error failure =>
      (∃ quote ∈ quotes, strike decimal quote.symbol = .error failure) ∨
        failure = .demoMutationRefused "no finite-risk liquid ETH put spread found" ∧
          ∀ c : Candidate, ¬ c.Tradable decimal instruments asOf maximumLoss quotes := by
  cases hselect : selectDemoOptionPair decimal instruments asOf maximumLoss quotes with
  | ok c =>
    obtain ⟨htradable, hleast⟩ := selectDemoOptionPair_eq_ok hselect
    exact ⟨htradable, htradable.bounded, hleast⟩
  | error failure =>
    rcases bind_eq_error.mp hselect with hfailed | ⟨found, hfound, hnone⟩
    · exact .inl (strike_of_candidates hfailed)
    · right
      split at hnone
      · cases hnone
      · rename_i hempty
        obtain rfl := Except.error.inj hnone
        refine ⟨rfl, fun c hc => ?_⟩
        have hmem := (mem_candidates hfound).mpr hc
        rw [List.argmin_eq_none.mp hempty] at hmem
        exact List.not_mem_nil hmem

end CreditHedge
