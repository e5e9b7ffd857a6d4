/-
This file models `Controller`, as far as it drives the market data: the subscriptions of the
host's clients, the update of the symbols, and the creation of connections. It assembles the
streams into a reactive machine.

The machine's inputs are every event the streams handle, in any order: requests of clients,
timers, connects and disconnects of any connection, messages of the exchange, and replies to
REST requests.
-/

import GateFutures.Library.Run
import GateFutures.Market.MarketData
import GateFutures.Market.Rest

namespace GateFutures.Market

open Framework Library Protocol Roq
open Gateway (RestResponse)

/-- The streams behind the market data, and the download of the REST connection. -/
structure Controller (Driver Store Queue : Type) where
  feeds : Feeds Store Queue
  download : Driver

variable {Driver Store Queue : Type}

/-! ### Symbols -/

/-- The body of the loop in `Controller::ensure_symbol_slices`: create a connection for the next
slice, and start it. -/
def createMarketData (feeds : Feeds Store Queue) : Feeds Store Queue :=
  let streamId := feeds.streamId + 1
  let stream : MarketData :=
    { streamId, index := feeds.marketData.length, connectionStatus := .undefined }
  { feeds with streamId, marketData := feeds.marketData ++ [stream] }.emit (.start streamId)

/-- `Controller::ensure_symbol_slices`: create connections while there are too few. -/
def ensureSymbolSlices (size : Nat) (feeds : Feeds Store Queue) : Feeds Store Queue :=
  (List.range (size - feeds.marketData.length)).foldl (fun current _ => createMarketData current)
    feeds

/-- The loop of `Controller::operator()(Event<Subscribe>)`: collect the symbols that are new. -/
def collectSymbols : List String → List String → Feeds Store Queue →
    Feeds Store Queue × List String
  | [], symbols, feeds => (feeds, symbols)
  | item :: later, symbols, feeds =>
    if item ∈ feeds.shared.allSymbols then collectSymbols later symbols feeds
    else collectSymbols later (symbols ++ [item]) (feeds.recordSymbol item)

section Symbols

variable [Symbols String Store] [LimitQueue String Queue]

/-- `Controller::operator()(Trace<SymbolsUpdate>)`. -/
def symbolsUpdate (config : Config) (context : Context) (symbols : List String)
    (feeds : Feeds Store Queue) : Feeds Store Queue :=
  let feeds := feeds.emit (.symbolsUpdate symbols)
  let (store, size, startFrom) := Symbols.append feeds.shared.symbols symbols
  let feeds := ensureSymbolSlices size { feeds with shared.symbols := store }
  feeds.marketData.foldl (fun current stream =>
    MarketData.subscribe config context startFrom stream current) feeds

/-- `Controller::operator()(Event<Subscribe>)`. -/
def subscribe (config : Config) (context : Context) (symbols : List String)
    (feeds : Feeds Store Queue) : Feeds Store Queue :=
  let (feeds, symbols) := collectSymbols symbols [] feeds
  symbolsUpdate config context symbols feeds

end Symbols

/-! ### The download -/

namespace Controller

/-- Act on the streams. -/
def mapFeeds (act : Feeds Store Queue → Feeds Store Queue)
    (controller : Controller Driver Store Queue) : Controller Driver Store Queue :=
  { controller with feeds := act controller.feeds }

variable [Download2 Rest.State Driver]

/-- `download_.begin(trace_info)`. -/
def begin (config : Config) (controller : Controller Driver Store Queue) :
    Controller Driver Store Queue :=
  let (download, feeds) :=
    Download2.begin (Rest.download config) controller.download controller.feeds
  { feeds, download }

/-- `download_.bump(trace_info)`. -/
def bump (config : Config) (controller : Controller Driver Store Queue) :
    Controller Driver Store Queue :=
  let (download, feeds) :=
    Download2.bump (Rest.download config) controller.download controller.feeds
  { feeds, download }

/-- `download_.retry(state)`. -/
def retry (config : Config) (state : Rest.State) (controller : Controller Driver Store Queue) :
    Controller Driver Store Queue :=
  let (download, feeds) :=
    Download2.retry (Rest.download config) state controller.download controller.feeds
  { feeds, download }

/-- `download_.check(trace_info, state)`. -/
def check (config : Config) (state : Rest.State) (controller : Controller Driver Store Queue) :
    Controller Driver Store Queue :=
  let (download, feeds) :=
    Download2.check (Rest.download config) state controller.download controller.feeds
  { feeds, download }

/-- `Rest::operator()(Trace<web::rest::Connected>)`. -/
def restConnected (config : Config) (controller : Controller Driver Store Queue) :
    Controller Driver Store Queue :=
  if Download2.downloading controller.download then controller.bump config
  else (controller.mapFeeds (Rest.setConnectionStatus config .downloading)).begin config

/-- `Rest::operator()(Trace<web::rest::Disconnected>)`. -/
def restDisconnected (config : Config) (controller : Controller Driver Store Queue) :
    Controller Driver Store Queue :=
  let controller := controller.mapFeeds (Rest.setConnectionStatus config .disconnected)
  if Download2.downloading controller.download then controller
  else { controller with download := Download2.reset controller.download }

/-- `Rest::get_currencies_ack`. The currencies are only logged. -/
def getCurrenciesAck (config : Config) (sequence : UInt32) (response : RestResponse Unit)
    (controller : Controller Driver Store Queue) :
    Except Fatal (Controller Driver Store Queue) :=
  processResponse response (retry config .currencies)
    (fun body controller =>
      if Download2.skip controller.download sequence .currencies then
        .ok (controller, .returned)
      else match body with
        | some _ => .ok (controller.check config .currencies, .returned)
        | none => .ok (controller, .raised))
    controller

variable [Symbols String Store] [LimitQueue String Queue]

/-- `Rest::get_contracts_ack`. -/
def getContractsAck (config : Config) (context : Context) (sequence : UInt32)
    (response : RestResponse ContractsAck) (failure : Option Rest.ContractsFailure)
    (controller : Controller Driver Store Queue) :
    Except Fatal (Controller Driver Store Queue) :=
  processResponse response (retry config .contracts)
    (fun body controller =>
      if Download2.skip controller.download sequence .contracts then .ok (controller, .returned)
      else match body with
        | some message => do
          let (feeds, outcome) ← Rest.contractsAck config context (symbolsUpdate config context)
            message failure controller.feeds
          let controller := { controller with feeds }
          match outcome with
          | .returned => return (controller.check config .contracts, .returned)
          | .raised => return (controller, .raised)
        | none => .ok (controller, .raised))
    controller

/-- The controller as constructed. -/
def initial (config : Config) : Controller Driver Store Queue where
  feeds := Feeds.initial config
  download := Download2.initial

end Controller

/-! ### Inputs -/

/-- An event of one market data connection. -/
inductive StreamEvent
  | disconnected
  | ready
  | binary
  | tickers (message : Tickers)
  | trades (message : Trades)
  | bookTicker (message : BookTicker)
  | orderBookUpdate (message : OrderBookUpdate) (reaction : Reaction MarketData.UpdateCallback)
  | candlesticks (message : Candlesticks)

/-- An event the streams handle. A market data connection is named by its position. -/
inductive Event
  | timer (refresh : Bool) (allowance : SnapshotKind → Nat)
  | subscribe (symbols : List String)
  | restConnected
  | restDisconnected
  | currenciesReply (sequence : UInt32) (response : RestResponse Unit)
  | contractsReply (sequence : UInt32) (response : RestResponse ContractsAck)
      (failure : Option Rest.ContractsFailure)
  | orderBookReply (symbol : String) (response : RestResponse OrderBookAck)
      (reaction : Reaction SnapshotCallback)
  | candlesticksReply (symbol : String) (response : RestResponse CandlesticksAck)
      (raises : Bool)
  | stream (position : Nat) (event : StreamEvent)

/-- An event, and what its handler may read. -/
structure Input where
  context : Context
  event : Event

/-! ### The machine -/

section Machine

variable [Download2 Rest.State Driver] [Symbols String Store] [LimitQueue String Queue]

/-- Handle an event of a market data connection. -/
def MarketData.handle (config : Config) (context : Context) (position : Nat)
    (stream : MarketData) (feeds : Feeds Store Queue) :
    StreamEvent → Except Fatal (Feeds Store Queue)
  | .disconnected => .ok (setConnectionStatus position .disconnected stream feeds)
  | .ready => .ok (socketReady config context position stream feeds)
  | .binary => .error .binaryMessage
  | .tickers message => .ok (tickers config stream message feeds)
  | .trades message => .ok (trades config stream message feeds)
  | .bookTicker message => .ok (bookTicker config stream message feeds)
  | .orderBookUpdate message reaction => orderBookUpdate config stream message reaction feeds
  | .candlesticks message => .ok (candlesticks config stream message feeds)

/-- Handle an event. -/
def Controller.handle (config : Config) (context : Context)
    (controller : Controller Driver Store Queue) :
    Event → Except Fatal (Controller Driver Store Queue)
  | .timer refresh allowance => .ok (controller.mapFeeds (Rest.timer config refresh allowance))
  | .subscribe symbols => .ok (controller.mapFeeds (Market.subscribe config context symbols))
  | .restConnected => .ok (controller.restConnected config)
  | .restDisconnected => .ok (controller.restDisconnected config)
  | .currenciesReply sequence response => controller.getCurrenciesAck config sequence response
  | .contractsReply sequence response failure =>
    controller.getContractsAck config context sequence response failure
  | .orderBookReply symbol response reaction => do
    let feeds ← Rest.getOrderBookAck config symbol response reaction controller.feeds
    return { controller with feeds }
  | .candlesticksReply symbol response raises => do
    let feeds ← Rest.getCandlesticksAck config symbol response raises controller.feeds
    return { controller with feeds }
  | .stream position event =>
    match controller.feeds.marketData[position]? with
    | some stream => do
      let feeds ← MarketData.handle config context position stream controller.feeds event
      return { controller with feeds }
    | none => .ok controller

/-- Forget the outputs of earlier steps. -/
def Controller.clearOutbox (controller : Controller Driver Store Queue) :
    Controller Driver Store Queue :=
  controller.mapFeeds fun feeds => { feeds with outbox := [] }

/-- Handle an input; the outputs are those of this step. -/
def Controller.step (config : Config) (controller : Controller Driver Store Queue)
    (input : Input) : Except Fatal (Controller Driver Store Queue × List Output) := do
  let next ← controller.clearOutbox.handle config input.context input.event
  return (next, next.feeds.outbox)

/-- The streams behind the market data. -/
def market (config : Config) : Machine (Controller Driver Store Queue) Input (List Output) Fatal
    where
  initial := Controller.initial config
  step := Controller.step config

end Machine

/-- The history of the streams behind the market data. -/
abbrev MarketHistory (Driver Store Queue : Type) :=
  History (Controller Driver Store Queue) Input (List Output)

/-- One step of the streams behind the market data. -/
abbrev MarketEntry (Driver Store Queue : Type) :=
  Entry (Controller Driver Store Queue) Input (List Output)

/-! ### A plain market -/

/-- A gateway without downloads of currencies and candlesticks. -/
def plainConfig : Config where
  settings :=
    { exchange := "gate.io", maxSubscriptionsPerStream := 2, mbpRequestMaxRetries := 3
      orderBookFreq := 100000000, orderBookDepth := 20, timeSeriesLookback := 0
      timeSeriesInterval := 60000000000, timeSeriesRealtime := false
      disableCurrenciesDownload := true }
  api :=
    { spotCurrencies := "/spot/currencies", futuresContracts := "/futures/usdt/contracts"
      futuresOrderBook := "/futures/usdt/order_book"
      futuresCandlesticks := "/futures/usdt/candlesticks" }
  restStreamId := 1
  streamIdSeed := 3
  isZero value := value = .number 0
  compare _ _ := .eq

/-- The streams behind the plain market, over plain drivers. -/
abbrev plainMarket : Machine
    (Controller (PlainDownload Rest.State) (PlainSymbols String) (PlainQueue String)) Input
    (List Output) Fatal := market plainConfig

/-- Events of a host that discards nothing. -/
def plainInputs (events : List Event) : List Input := events.map fun event =>
  ⟨⟨0, fun _ => false⟩, event⟩

/-- A direct contract. -/
def plainContract (name : String) : ContractsAckItem where
  name
  type := .direct
  orderPriceRound := .number 1
  orderSizeMin := .number 1
  orderSizeMax := .number 1000000
  configChangeTime := 0
  createTime := 0

end GateFutures.Market
