import CreditHedge.Domain.InstrumentRules
import CreditHedge.Domain.MarketData

/-!
# Market-data health

`evaluate_market_data_health` of `domain/market_data.py`: what is wrong with the market data, as
seen at one time. A `Time` is in microseconds, and an age in seconds.
-/

set_option autoImplicit false

namespace CreditHedge

structure MarketDataHealthPolicy where
  maxTriggerAgeSeconds : ℚ
  maxOptionQuoteAgeSeconds : ℚ
  maxOrderBookAgeSeconds : ℚ
  maxTriggerAgeSeconds_nonneg : 0 ≤ maxTriggerAgeSeconds
  maxOptionQuoteAgeSeconds_nonneg : 0 ≤ maxOptionQuoteAgeSeconds
  maxOrderBookAgeSeconds_nonneg : 0 ≤ maxOrderBookAgeSeconds

structure MarketDataHealthSnapshot where
  triggerTimestampUtc : Option Time
  instrumentLoaded : Bool
  websocketConnected : Bool
  optionQuoteTimestampsUtc : List Time
  orderBookSynchronized : Bool
  orderBookTimestampUtc : Option Time
  clockSynchronized : Bool

/-- `_is_fresh`. -/
def IsFresh (timestamp asOf : Time) (maximumAge : ℚ) : Prop :=
  0 ≤ ((asOf - timestamp : ℤ) : ℚ) / 1000000 ∧
    ((asOf - timestamp : ℤ) : ℚ) / 1000000 ≤ maximumAge

instance (timestamp asOf : Time) (maximumAge : ℚ) : Decidable (IsFresh timestamp asOf maximumAge) :=
  inferInstanceAs (Decidable (_ ∧ _))

/-- The complaints about the order book. -/
def orderBookReasons (snapshot : MarketDataHealthSnapshot) (policy : MarketDataHealthPolicy)
    (asOf : Time) : List String :=
  if snapshot.orderBookSynchronized = false then ["order book is not synchronized"]
  else
    match snapshot.orderBookTimestampUtc with
    | none => ["order book timestamp is unavailable"]
    | some timestamp =>
      reportIf (¬ IsFresh timestamp asOf policy.maxOrderBookAgeSeconds) "order book is stale"

/-- The complaints, in the order the source collects them. -/
def healthReasons (snapshot : MarketDataHealthSnapshot) (policy : MarketDataHealthPolicy)
    (asOf : Time) (orderBookRequired : Bool) : List String :=
  (match snapshot.triggerTimestampUtc with
    | none => ["trigger price is unavailable"]
    | some timestamp =>
      reportIf (¬ IsFresh timestamp asOf policy.maxTriggerAgeSeconds) "trigger price is stale") ++
    reportIf (snapshot.instrumentLoaded = false) "instrument is not loaded" ++
    reportIf (snapshot.websocketConnected = false) "public websocket is disconnected" ++
    (if snapshot.optionQuoteTimestampsUtc.isEmpty then ["option quotes are unavailable"]
      else
        reportIf (∃ timestamp ∈ snapshot.optionQuoteTimestampsUtc,
          ¬ IsFresh timestamp asOf policy.maxOptionQuoteAgeSeconds) "option quote is stale") ++
    (if orderBookRequired then orderBookReasons snapshot policy asOf else []) ++
    reportIf (snapshot.clockSynchronized = false) "clock is not synchronized"

def evaluateMarketDataHealth (snapshot : MarketDataHealthSnapshot)
    (policy : MarketDataHealthPolicy) (asOf : Time) (orderBookRequired : Bool) :
    MarketDataHealthResult :=
  let reasons := healthReasons snapshot policy asOf orderBookRequired
  { tradingAllowed := reasons.isEmpty
    reasons
    eventType := if reasons.isEmpty then .marketDataRecovered else .marketDataStale }

end CreditHedge
