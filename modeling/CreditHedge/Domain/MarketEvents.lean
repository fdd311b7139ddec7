import CreditHedge.Domain.MarketData

/-!
# Market data events

The events of `domain/market_data.py` with their constructors' checks: a ticker, a trade, and the
two events of an order book, which have the same fields and the same checks.

Of a ticker these are the fields the simulator fills in. The others are optional, it leaves them
out, and their checks pass on an absent value.
-/

set_option autoImplicit false

namespace CreditHedge

/-! ## Tickers and trades -/

structure TickerFields where
  symbol : String
  timestampUtc : Time
  lastPrice : Option ℚ
  markPrice : Option ℚ
  indexPrice : Option ℚ
  bidPrice : Option ℚ
  askPrice : Option ℚ
  sequence : Option ℤ
  connectionGeneration : ℤ
  rawPayloadHash : String
  deriving DecidableEq, Repr

/-- `if value is not None and … value < ZERO`. -/
def refuseNegative (value : Option ℚ) (fieldName : String) : Except Failure Unit :=
  refuseIf (∃ v ∈ value, v < 0) (fieldName ++ " cannot be negative")

/-- `TickerEvent.__post_init__`. -/
def TickerFields.check (f : TickerFields) : Except Failure Unit := do
  requireText f.symbol "symbol"
  refuseNegative f.lastPrice "last_price"
  refuseNegative f.markPrice "mark_price"
  refuseNegative f.indexPrice "index_price"
  refuseNegative f.bidPrice "bid_price"
  refuseNegative f.askPrice "ask_price"
  refuseIf (∃ bid ∈ f.bidPrice, ∃ ask ∈ f.askPrice, ask < bid) "ticker bid cannot exceed ask"
  refuseIf (f.connectionGeneration < 0) "connection generation cannot be negative"
  requireText f.rawPayloadHash "raw payload hash"

structure TickerEvent extends TickerFields where
  checked : toTickerFields.check = .ok ()
  deriving DecidableEq

def TickerEvent.create : TickerFields → Except Failure TickerEvent :=
  build TickerFields.check TickerEvent.mk

structure TradeFields where
  symbol : String
  timestampUtc : Time
  price : ℚ
  size : ℚ
  side : OrderSide
  tradeId : String
  sequence : Option ℤ
  connectionGeneration : ℤ
  rawPayloadHash : String
  deriving DecidableEq, Repr

/-- `TradeEvent.__post_init__`. -/
def TradeFields.check (f : TradeFields) : Except Failure Unit := do
  requireText f.symbol "symbol"
  requireText f.tradeId "trade ID"
  refuseIf (f.price ≤ 0 ∨ f.size ≤ 0) "trade price and size must be positive"
  refuseIf (f.connectionGeneration < 0) "connection generation cannot be negative"
  requireText f.rawPayloadHash "raw payload hash"

structure TradeEvent extends TradeFields where
  checked : toTradeFields.check = .ok ()
  deriving DecidableEq

def TradeEvent.create : TradeFields → Except Failure TradeEvent :=
  build TradeFields.check TradeEvent.mk

/-! ## Order books -/

/-- A price, and the size there. -/
abbrev BookLevel := ℚ × ℚ

structure BookFields where
  symbol : String
  bids : List BookLevel
  asks : List BookLevel
  updateId : ℤ
  sequence : ℤ
  timestampUtc : Time
  connectionGeneration : ℤ
  rawPayloadHash : String
  deriving DecidableEq, Repr

/-- `_normalize_levels`. -/
def checkLevels (levels : List BookLevel) : Except Failure Unit :=
  refuseIf (∃ level ∈ levels, level.1 ≤ 0 ∨ level.2 < 0)
    "book price must be positive and size non-negative"

/-- `OrderBookSnapshot.__post_init__` and `OrderBookDelta.__post_init__`. -/
def BookFields.check (f : BookFields) : Except Failure Unit := do
  requireText f.symbol "symbol"
  refuseIf (f.updateId < 0 ∨ f.sequence < 0) "book update ID and sequence cannot be negative"
  refuseIf (f.connectionGeneration < 0) "connection generation cannot be negative"
  checkLevels f.bids
  checkLevels f.asks
  requireText f.rawPayloadHash "raw payload hash"

structure OrderBookSnapshot extends BookFields where
  checked : toBookFields.check = .ok ()
  deriving DecidableEq

def OrderBookSnapshot.create : BookFields → Except Failure OrderBookSnapshot :=
  build BookFields.check OrderBookSnapshot.mk

structure OrderBookDelta extends BookFields where
  checked : toBookFields.check = .ok ()
  deriving DecidableEq

/-- Every level of an event has a size, which may be zero. -/
theorem BookFields.size_nonneg {f : BookFields} (h : f.check = .ok ()) :
    (∀ level ∈ f.bids, 0 ≤ level.2) ∧ ∀ level ∈ f.asks, 0 ≤ level.2 := by
  simp only [check, bind_unit_eq_ok, checkLevels, refuseIf_eq_ok, not_exists, not_and, not_or,
    not_le, not_lt] at h
  obtain ⟨-, -, -, hbids, hasks, -⟩ := h
  exact ⟨fun level hlevel => (hbids level hlevel).2, fun level hlevel => (hasks level hlevel).2⟩

end CreditHedge
