import CreditHedge.Domain.Execution

/-!
# Trigger prices

The part of `domain/market_data.py` the coordinators are fed with: one trigger price, and the
verdict of the health gate on the market data at the time.
-/

set_option autoImplicit false

namespace CreditHedge

inductive MarketDataEventType where
  | tickerUpdated
  | tradeObserved
  | orderBookSnapshotApplied
  | orderBookDeltaApplied
  | marketDataStale
  | marketDataRecovered
  | instrumentChanged
  | instrumentDisabled
  deriving DecidableEq, Repr

inductive TriggerPriceSource where
  | lastTrade
  | markPrice
  | indexPrice
  deriving DecidableEq, Repr

structure TriggerPriceEvent where
  symbol : String
  source : TriggerPriceSource
  observedPrice : ℚ
  observedTimestamp : Time
  connectionGeneration : ℤ
  deriving DecidableEq, Repr

structure MarketDataHealthResult where
  tradingAllowed : Bool
  reasons : List String
  eventType : MarketDataEventType
  deriving DecidableEq, Repr

end CreditHedge
