/-
This file defines the market messages the gateway sends to its host: reference data,
order books, trades, statistics and candlesticks.
-/

import GateFutures.Roq.Types

namespace GateFutures.Roq

/-- `std::fabs`. -/
def Double.fabs : Double → Double
  | .nan => .nan
  | .infinity _ => .infinity false
  | .number value => .number (if value < 0 then -value else value)

/-- `roq::StatisticsType`. -/
inductive StatisticsType
  | tradeVolume | indexValue | fundingRate | fundingRatePrediction | highestTradedPrice
  | lowestTradedPrice
  deriving DecidableEq, Repr

/-- `roq::MBPUpdate`, less the fields every producer leaves empty. -/
structure MbpUpdate where
  price : Double
  quantity : Double
  deriving DecidableEq

/-- `roq::MarketByPriceUpdate`, less the fields every producer leaves empty. -/
structure MarketByPriceUpdate where
  streamId : UInt16
  exchange : String
  symbol : String
  bids : List MbpUpdate
  asks : List MbpUpdate
  updateType : UpdateType
  exchangeTimeUtc : Int
  exchangeSequence : UInt64
  sendingTimeUtc : Int
  deriving DecidableEq

/-- `roq::Bar`, less the fields every producer leaves empty. -/
structure Bar where
  beginTimeUtc : Int
  confirmed : Bool
  openPrice : Double
  highPrice : Double
  lowPrice : Double
  closePrice : Double
  quantity : Double
  quoteAmount : Double
  deriving DecidableEq

/-- `roq::TimeSeriesUpdate`, less the fields every producer fills alike. -/
structure TimeSeriesUpdate where
  streamId : UInt16
  exchange : String
  symbol : String
  interval : Int
  bars : List Bar
  updateType : UpdateType
  exchangeTimeUtc : Int
  deriving DecidableEq

/-- `roq::Trade`, less the fields every producer leaves empty. -/
structure Trade where
  side : Side
  price : Double
  quantity : Double
  tradeId : String
  deriving DecidableEq

/-- `roq::TradeSummary`, less the fields every producer leaves empty. -/
structure TradeSummary where
  streamId : UInt16
  exchange : String
  symbol : String
  trades : List Trade
  exchangeTimeUtc : Int
  sendingTimeUtc : Int
  deriving DecidableEq

/-- `roq::TopOfBook`, with its layer, less the fields every producer leaves empty. -/
structure TopOfBook where
  streamId : UInt16
  exchange : String
  symbol : String
  bidPrice : Double
  bidQuantity : Double
  askPrice : Double
  askQuantity : Double
  updateType : UpdateType
  exchangeTimeUtc : Int
  sendingTimeUtc : Int
  deriving DecidableEq

/-- `roq::Statistics`, less the fields every producer leaves empty. -/
structure Statistics where
  type : StatisticsType
  value : Double
  deriving DecidableEq

/-- `roq::StatisticsUpdate`, less the fields every producer leaves empty. -/
structure StatisticsUpdate where
  streamId : UInt16
  exchange : String
  symbol : String
  statistics : List Statistics
  updateType : UpdateType
  sendingTimeUtc : Int
  deriving DecidableEq

/-- `roq::ReferenceData`, less the fields every producer fills alike. The issue date counts
days. -/
structure ReferenceData where
  streamId : UInt16
  exchange : String
  symbol : String
  description : String
  baseCurrency : String
  quoteCurrency : String
  settlementCurrency : String
  tickSize : Double
  minTradeVol : Double
  maxTradeVol : Double
  issueDate : Int
  exchangeTimeUtc : Int
  discard : Bool
  deriving DecidableEq

end GateFutures.Roq
