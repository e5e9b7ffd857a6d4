/-
This file models `MarketData`, a market data connection: its subscriptions and the handlers of
its messages.
-/

import GateFutures.Gateway.Streams
import GateFutures.Market.Feeds

namespace GateFutures.Market

open Framework Protocol Roq
open Gateway (toSeconds)

variable {Store Queue : Type}

/-- `utils::safe_cast` to `std::chrono::milliseconds`. -/
def toMilliseconds (nanoseconds : Int) : Int := nanoseconds.tdiv 1000000

namespace MarketData

/-- `MarketData::operator()(Trace<ConnectionStatus>)`, for the connection at a position. -/
def setConnectionStatus (position : Nat) (status : ConnectionStatus) (stream : MarketData)
    (feeds : Feeds Store Queue) : Feeds Store Queue :=
  { feeds with
    marketData := feeds.marketData.set position
      { stream with connectionStatus := status } }.emit (.streamStatus stream.streamId status)

/-! ### Subscriptions -/

section Subscriptions

/-- `MarketData::subscribe`, with one frame for all symbols. -/
def subscribeSymbols (context : Context) (stream : MarketData) (channel : String)
    (symbols : List String) (feeds : Feeds Store Queue) : Feeds Store Queue :=
  feeds.emit (.sendText stream.index
    { time := toSeconds context.now, channel, event := "subscribe", payload := .symbols symbols })

/-- `MarketData::subscribe` for order books, with one frame for each symbol. -/
def subscribeOrderBook (context : Context) (stream : MarketData) (channel : String)
    (symbols : List String) (frequency : Int) (depth : Nat) (feeds : Feeds Store Queue) :
    Feeds Store Queue :=
  symbols.foldl (fun current symbol => current.emit (.sendText stream.index
    { time := toSeconds context.now, channel, event := "subscribe"
      payload := .orderBook symbol frequency depth })) feeds

variable [LimitQueue String Queue]

/-- `MarketData::subscribe` for candlesticks, with one frame and one snapshot request for each
symbol. -/
def subscribeCandlesticks (context : Context) (stream : MarketData) (channel : String)
    (symbols : List String) (interval : String) (feeds : Feeds Store Queue) :
    Feeds Store Queue :=
  symbols.foldl (fun current symbol => (current.emit (.sendText stream.index
    { time := toSeconds context.now, channel, event := "subscribe"
      payload := .candlesticks interval symbol })).emplaceBack .candlesticks symbol) feeds

/-- `MarketData::subscribe`, on every channel. -/
def subscribeAll (config : Config) (context : Context) (stream : MarketData)
    (symbols : List String) (feeds : Feeds Store Queue) : Feeds Store Queue :=
  if symbols = [] then feeds
  else
    let feeds := subscribeSymbols context stream "futures.tickers" symbols feeds
    let feeds := subscribeSymbols context stream "futures.trades" symbols feeds
    let feeds := subscribeSymbols context stream "futures.book_ticker" symbols feeds
    let feeds := subscribeOrderBook context stream "futures.order_book_update" symbols
      (toMilliseconds config.settings.orderBookFreq) config.settings.orderBookDepth feeds
    if config.settings.timeSeriesLookback ≠ 0 then
      subscribeCandlesticks context stream "futures.candlesticks" symbols "1m" feeds
    else feeds

variable [Symbols String Store]

/-- `MarketData::subscribe(start_from)`. -/
def subscribe (config : Config) (context : Context) (startFrom : Nat) (stream : MarketData)
    (feeds : Feeds Store Queue) : Feeds Store Queue :=
  if stream.ready then
    subscribeAll config context stream
      (Symbols.getSlice feeds.shared.symbols stream.index startFrom) feeds
  else feeds

/-- `MarketData::operator()(Trace<web::socket::Ready>)`. -/
def socketReady (config : Config) (context : Context) (position : Nat) (stream : MarketData)
    (feeds : Feeds Store Queue) : Feeds Store Queue :=
  subscribe config context 0 { stream with connectionStatus := .ready }
    (setConnectionStatus position .ready stream feeds)

end Subscriptions

/-! ### Statistics, trades and quotes -/

/-- The statistics published for one item of `Tickers`. -/
def statisticsUpdate (config : Config) (stream : MarketData) (message : Tickers)
    (item : TickersItem) : StatisticsUpdate where
  streamId := stream.streamId
  exchange := config.settings.exchange
  symbol := item.contract
  statistics :=
    [⟨.tradeVolume, item.volume24hQuote⟩, ⟨.indexValue, item.indexPrice⟩,
      ⟨.fundingRate, item.fundingRate⟩, ⟨.fundingRatePrediction, item.fundingRateIndicative⟩,
      ⟨.highestTradedPrice, item.high24h⟩, ⟨.lowestTradedPrice, item.low24h⟩]
  updateType := .incremental
  sendingTimeUtc := message.timeMs

/-- `MarketData::operator()(Trace<Tickers>)`. -/
def tickers (config : Config) (stream : MarketData) (message : Tickers)
    (feeds : Feeds Store Queue) : Feeds Store Queue :=
  message.result.foldl (fun current item =>
    current.emit (.statisticsUpdate (statisticsUpdate config stream message item))) feeds

/-- The trade of one item of `Trades`. -/
def createTrade (config : Config) (item : TradesItem) : Trade where
  side := if config.compare item.size (.number 0) = .lt then .sell else .buy
  price := item.price
  quantity := item.size.fabs
  tradeId := toString item.id.toInt

/-- The summary published for the trades collected so far. -/
def tradeSummary (config : Config) (stream : MarketData) (message : Trades) (contract : String)
    (timestamp : Int) (trades : List Trade) : TradeSummary where
  streamId := stream.streamId
  exchange := config.settings.exchange
  symbol := contract
  trades
  exchangeTimeUtc := timestamp
  sendingTimeUtc := message.timeMs

/-- The loop over the items of `Trades`. It keeps the contract and the latest time of the trades
in the scratch buffer, and publishes them when the contract changes. -/
def collectTrades (config : Config) (stream : MarketData) (message : Trades) :
    List TradesItem → String → Int → Feeds Store Queue → String × Int × Feeds Store Queue
  | [], contract, timestamp, feeds => (contract, timestamp, feeds)
  | item :: later, contract, timestamp, feeds =>
    let (contract, timestamp, feeds) :=
      if item.contract ≠ contract then
        (item.contract, 0,
          if contract ≠ "" ∧ feeds.shared.trades ≠ [] then
            { feeds.emit (.tradeSummary (tradeSummary config stream message contract timestamp
                feeds.shared.trades)) with shared.trades := [] }
          else feeds)
      else (contract, timestamp, feeds)
    collectTrades config stream message later contract (max timestamp item.createTimeMs)
      { feeds with shared.trades := feeds.shared.trades ++ [createTrade config item] }

/-- `MarketData::operator()(Trace<Trades>)`. -/
def trades (config : Config) (stream : MarketData) (message : Trades)
    (feeds : Feeds Store Queue) : Feeds Store Queue :=
  let (contract, timestamp, feeds) := collectTrades config stream message message.result "" 0
    { feeds with shared.trades := [] }
  if feeds.shared.trades ≠ [] then
    feeds.emit (.tradeSummary (tradeSummary config stream message contract timestamp
      feeds.shared.trades))
  else feeds

/-- `MarketData::operator()(Trace<BookTicker>)`. -/
def bookTicker (config : Config) (stream : MarketData) (message : BookTicker)
    (feeds : Feeds Store Queue) : Feeds Store Queue :=
  feeds.emit (.topOfBook {
    streamId := stream.streamId
    exchange := config.settings.exchange
    symbol := message.result.contract
    bidPrice := message.result.bestBidPrice
    bidQuantity := message.result.bestBidSize
    askPrice := message.result.bestAskPrice
    askQuantity := message.result.bestAskSize
    updateType := .snapshot
    exchangeTimeUtc := message.result.timestamp
    sendingTimeUtc := message.timeMs })

/-! ### Candlesticks -/

/-- The bar of one item of `Candlesticks`. -/
def createBar (item : CandlesticksItem) : Bar where
  beginTimeUtc := item.time
  confirmed := item.confirmed
  openPrice := item.open
  highPrice := item.open
  lowPrice := item.open
  closePrice := item.open
  quantity := item.volume
  quoteAmount := item.amount

/-- Publish the bars collected so far, if there are any. -/
def publishBars (config : Config) (stream : MarketData) (message : Candlesticks)
    (symbol : String) (feeds : Feeds Store Queue) : Feeds Store Queue :=
  if feeds.shared.bars = [] then feeds
  else
    { feeds.emit (.timeSeriesUpdate {
        streamId := stream.streamId
        exchange := config.settings.exchange
        symbol
        interval := config.settings.timeSeriesInterval
        bars := feeds.shared.bars
        updateType := .incremental
        exchangeTimeUtc := message.timeMs }) with shared.bars := [] }

/-- The loop over the items of `Candlesticks`. It keeps the name of the bars in the scratch
buffer, and publishes them when the name changes. -/
def collectBars (config : Config) (stream : MarketData) (message : Candlesticks) :
    List CandlesticksItem → String → Feeds Store Queue → String × Feeds Store Queue
  | [], symbol, feeds => (symbol, feeds)
  | item :: later, symbol, feeds =>
    let (symbol, feeds) :=
      if item.name ≠ symbol then (item.name, publishBars config stream message symbol feeds)
      else (symbol, feeds)
    if ¬ item.confirmed ∧ ¬ config.settings.timeSeriesRealtime then
      collectBars config stream message later symbol feeds
    else
      collectBars config stream message later symbol
        { feeds with shared.bars := feeds.shared.bars ++ [createBar item] }

/-- `MarketData::operator()(Trace<Candlesticks>)`. -/
def candlesticks (config : Config) (stream : MarketData) (message : Candlesticks)
    (feeds : Feeds Store Queue) : Feeds Store Queue :=
  let (symbol, feeds) := collectBars config stream message message.result ""
    { feeds with shared.bars := [] }
  publishBars config stream message symbol feeds

/-! ### Order books -/

/-- A callback of a sequencer that was given an update. -/
inductive UpdateCallback
  | publishUpdate (bids asks : List MbpUpdate)
  | snapshot (callback : SnapshotCallback)

/-- `create_update`. -/
def createUpdate (config : Config) (stream : MarketData) (message : OrderBookUpdate)
    (bids asks : List MbpUpdate) (updateType : UpdateType) (exchangeSequence : UInt64) :
    MarketByPriceUpdate where
  streamId := stream.streamId
  exchange := config.settings.exchange
  symbol := message.result.symbol
  bids
  asks
  updateType
  exchangeTimeUtc := message.result.timestamp
  exchangeSequence
  sendingTimeUtc := message.timeMs

variable [LimitQueue String Queue]

/-- The callbacks of `MarketData::operator()(Trace<OrderBookUpdate>)`. -/
def updateCallback (config : Config) (stream : MarketData) (message : OrderBookUpdate)
    (callback : UpdateCallback) (feeds : Feeds Store Queue) :
    Except Fatal (Feeds Store Queue) :=
  match callback with
  | .publishUpdate bids asks =>
    .ok (feeds.emit (.marketByPriceUpdate (createUpdate config stream message bids asks
      .incremental message.result.lastUpdateId)))
  | .snapshot (.publishSnapshot bids asks lastSequence) =>
    .ok (feeds.emit (.marketByPriceUpdate (createUpdate config stream message bids asks
      .snapshot lastSequence)))
  | .snapshot (.requestSnapshot retries) =>
    requestSnapshot config message.result.symbol retries feeds

/-- `MarketData::operator()(Trace<OrderBookUpdate>)`. Only `BadState` is caught. -/
def orderBookUpdate (config : Config) (stream : MarketData) (message : OrderBookUpdate)
    (reaction : Reaction UpdateCallback) (feeds : Feeds Store Queue) :
    Except Fatal (Feeds Store Queue) := do
  let result := message.result
  let feeds := feeds.getMbp.emplaceMbp result.bids result.asks
  let feeds := feeds.emit (.sequencer (.update result.symbol feeds.shared.mbpBids
    feeds.shared.mbpAsks result.firstUpdateId result.lastUpdateId (result.firstUpdateId - 1)))
  let feeds ← makeCallbacks (updateCallback config stream message) reaction.callbacks feeds
  match reaction.ending with
  | .returned => return feeds
  | .badState => return resubscribe result.symbol feeds
  | .exception => .error .unhandledException

end MarketData

end GateFutures.Market
