/-
This file defines the exchange's market messages: the decoded messages of the market data
connections, the decoded replies of the gateway's REST connection, and the frames that
subscribe.
-/

import GateFutures.Roq.Market

namespace GateFutures.Protocol

open Roq

/-- `ContractType`. -/
inductive ContractType
  | undefinedInternal | unknownInternal | index | direct | inverse | stocks
  deriving DecidableEq, Repr

/-! ### Messages of the market data connections -/

/-- `PriceSize`. -/
structure PriceSize where
  price : Double
  size : Double

/-- `TickersItem`. -/
structure TickersItem where
  contract : String
  fundingRate : Double
  indexPrice : Double
  fundingRateIndicative : Double
  volume24hQuote : Double
  low24h : Double
  high24h : Double

/-- `Tickers`. -/
structure Tickers where
  timeMs : Int
  result : List TickersItem

/-- `TradesItem`. -/
structure TradesItem where
  size : Double
  id : BitVec 64
  createTimeMs : Int
  price : Double
  contract : String

/-- `Trades`. -/
structure Trades where
  timeMs : Int
  result : List TradesItem

/-- `BookTickerResult`. -/
structure BookTickerResult where
  timestamp : Int
  contract : String
  bestBidPrice : Double
  bestBidSize : Double
  bestAskPrice : Double
  bestAskSize : Double

/-- `BookTicker`. -/
structure BookTicker where
  timeMs : Int
  result : BookTickerResult

/-- `OrderBookUpdateResult`. -/
structure OrderBookUpdateResult where
  timestamp : Int
  symbol : String
  firstUpdateId : UInt64
  lastUpdateId : UInt64
  bids : List PriceSize
  asks : List PriceSize

/-- `OrderBookUpdate`. -/
structure OrderBookUpdate where
  timeMs : Int
  result : OrderBookUpdateResult

/-- `CandlesticksResultItem` and `CandlesticksAckItem`, whose schemas list the same fields. -/
structure CandlesticksItem where
  time : Int
  «open» : Double
  close : Double
  high : Double
  low : Double
  volume : Double
  name : String
  amount : Double
  confirmed : Bool
  sum : Double

/-- `Candlesticks`. -/
structure Candlesticks where
  timeMs : Int
  result : List CandlesticksItem

/-! ### Replies of the REST connection -/

/-- `ContractsAckItem`. -/
structure ContractsAckItem where
  name : String
  type : ContractType
  orderPriceRound : Double
  orderSizeMin : Double
  orderSizeMax : Double
  configChangeTime : Int
  createTime : Int

/-- `ContractsAck`. -/
structure ContractsAck where
  data : List ContractsAckItem

/-- `OrderBookAck`. -/
structure OrderBookAck where
  current : Int
  asks : List PriceSize
  bids : List PriceSize
  id : UInt64
  update : Int

/-- `CandlesticksAck`. -/
structure CandlesticksAck where
  data : List CandlesticksItem

/-! ### Frames that subscribe -/

/-- What a subscription asks for: a list of symbols, one order book, or the candlesticks of one
symbol. -/
inductive SubscribePayload
  | symbols (symbols : List String)
  | orderBook (symbol : String) (frequency : Int) (depth : Nat)
  | candlesticks (interval symbol : String)
  deriving DecidableEq

/-- The symbols a subscription names. -/
def SubscribePayload.names : SubscribePayload → List String
  | .symbols listed => listed
  | .orderBook symbol _ _ => [symbol]
  | .candlesticks _ symbol => [symbol]

/-- A frame a market data connection sends. -/
structure SubscribeFrame where
  time : Int
  channel : String
  event : String
  payload : SubscribePayload
  deriving DecidableEq

end GateFutures.Protocol
