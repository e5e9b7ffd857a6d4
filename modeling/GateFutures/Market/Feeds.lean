/-
This file defines the state behind the gateway's market data: what the streams share
(`Shared`), the market data connections (`MarketData`), and the REST connection (`Rest`) that
downloads the contracts and answers the requests for snapshots.

Effects outside this state are outputs. They collect in an outbox, in the order they are
produced. The sequencers of the order books are outside: what they are given is an output, and
how they answer is part of the input.
-/

import GateFutures.Framework.Download
import GateFutures.Framework.Limit
import GateFutures.Framework.Symbols
import GateFutures.Protocol.Market

namespace GateFutures.Market

open Framework Protocol Roq

/-! ### What the streams read -/

/-- `Settings`, as far as the streams read them. -/
structure Settings where
  exchange : String
  maxSubscriptionsPerStream : Nat
  mbpRequestMaxRetries : Nat
  orderBookFreq : Int
  orderBookDepth : Nat
  timeSeriesLookback : Int
  timeSeriesInterval : Int
  timeSeriesRealtime : Bool
  disableCurrenciesDownload : Bool

/-- `API`, as far as the streams read it. -/
structure Api where
  spotCurrencies : String
  futuresContracts : String
  futuresOrderBook : String
  futuresCandlesticks : String

/-- What the streams are constructed with, and the host's comparisons of doubles. The seed is
the id of the last stream constructed before the first market data connection. -/
structure Config where
  settings : Settings
  api : Api
  restStreamId : UInt16
  streamIdSeed : UInt16
  isZero : Double → Bool
  compare : Double → Double → Ordering

/-- What a handler may read besides its message and the streams: the time a fresh `TraceInfo`
takes, and the host's filter of symbols. -/
structure Context where
  now : Int
  discardSymbol : String → Bool

/-- `log::fatal`, and an exception that reaches the top of a market data connection. The process
ends there. -/
inductive Fatal
  | unexpectedSymbol
  | unexpectedRetries
  | unhandledException
  | binaryMessage
  | redirected
  deriving DecidableEq, Repr

/-! ### Outputs -/

/-- The two queues of snapshot requests: `depth_request_queue` and
`time_series_request_queue`. -/
inductive SnapshotKind
  | orderBook | candlesticks
  deriving DecidableEq, Repr

/-- `Rest::State`. -/
inductive Rest.State
  | undefined | currencies | contracts | done
  deriving DecidableEq, Repr

instance : Enumerated Rest.State where
  undefined := .undefined
  enumerators := [.currencies, .contracts, .done]

/-- A call of an order book's sequencer. -/
inductive SequencerCall
  | update (symbol : String) (bids asks : List MbpUpdate) (first last previous : UInt64)
  | snapshot (symbol : String) (bids asks : List MbpUpdate) (sequence : UInt64)
  | clear (symbol : String)
  deriving DecidableEq

/-- An effect outside the streams, or what a log shows of one inside: a snapshot request queued,
a snapshot reply given to its handler, symbols given to the controller. -/
inductive Output
  | streamStatus (streamId : UInt16) (status : ConnectionStatus)
  | start (streamId : UInt16)
  | statisticsUpdate (update : StatisticsUpdate)
  | tradeSummary (summary : TradeSummary)
  | topOfBook (top : TopOfBook)
  | marketByPriceUpdate (update : MarketByPriceUpdate)
  | timeSeriesUpdate (update : TimeSeriesUpdate)
  | referenceData (data : ReferenceData)
  | sequencer (call : SequencerCall)
  | download (state : Rest.State) (sequence : UInt32) (path : String)
  | snapshotRequest (kind : SnapshotKind) (symbol path query : String)
  | emplaceBack (kind : SnapshotKind) (symbol : String)
  | delivered (kind : SnapshotKind) (symbol : String)
  | symbolsUpdate (symbols : List String)
  | sendText (index : Nat) (frame : SubscribeFrame)
  deriving DecidableEq

/-! ### The streams -/

/-- `Shared`. The scratch buffers are what the last handler that used them left there. -/
structure Shared (Store Queue : Type) where
  depthRequestQueue : Queue
  timeSeriesRequestQueue : Queue
  symbols : Store
  allSymbols : List String
  symbol2SettleCoin : String → Option String
  mbpBids : List MbpUpdate
  mbpAsks : List MbpUpdate
  trades : List Trade
  bars : List Bar

/-- `MarketData`. -/
structure MarketData where
  streamId : UInt16
  index : Nat
  connectionStatus : ConnectionStatus
  deriving DecidableEq

/-- `ready()` of a market data connection. -/
def MarketData.ready (stream : MarketData) : Bool := stream.connectionStatus = .ready

/-- `Rest`, less its download. -/
structure Rest where
  connectionStatus : ConnectionStatus
  deriving DecidableEq

/-- `ready()` of the REST connection. -/
def Rest.ready (rest : Rest) : Bool := rest.connectionStatus = .ready

/-- The shared state, the streams, and the outputs so far. -/
structure Feeds (Store Queue : Type) where
  shared : Shared Store Queue
  rest : Rest
  marketData : List MarketData
  streamId : UInt16
  outbox : List Output

variable {Store Queue : Type}

/-- The streams as constructed. -/
def Feeds.initial [Symbols String Store] [LimitQueue String Queue] (config : Config) :
    Feeds Store Queue where
  shared :=
    { depthRequestQueue := LimitQueue.empty, timeSeriesRequestQueue := LimitQueue.empty
      symbols := Symbols.create config.settings.maxSubscriptionsPerStream, allSymbols := []
      symbol2SettleCoin := fun _ => none, mbpBids := [], mbpAsks := [], trades := [], bars := [] }
  rest := ⟨.undefined⟩
  marketData := []
  streamId := config.streamIdSeed
  outbox := []

/-- `create_trace_and_dispatch`, and every other effect outside the streams. -/
def Feeds.emit (feeds : Feeds Store Queue) (output : Output) : Feeds Store Queue :=
  { feeds with outbox := feeds.outbox ++ [output] }

/-- The queue of a kind of snapshot requests. -/
def Shared.queue (shared : Shared Store Queue) : SnapshotKind → Queue
  | .orderBook => shared.depthRequestQueue
  | .candlesticks => shared.timeSeriesRequestQueue

/-- Replace the queue of a kind of snapshot requests. -/
def Shared.setQueue (shared : Shared Store Queue) (queue : Queue) :
    SnapshotKind → Shared Store Queue
  | .orderBook => { shared with depthRequestQueue := queue }
  | .candlesticks => { shared with timeSeriesRequestQueue := queue }

/-- `emplace_back` of a queue of snapshot requests. -/
def Feeds.emplaceBack [LimitQueue String Queue] (feeds : Feeds Store Queue)
    (kind : SnapshotKind) (symbol : String) : Feeds Store Queue :=
  { feeds with
    shared := feeds.shared.setQueue (LimitQueue.emplaceBack (feeds.shared.queue kind) symbol)
      kind }.emit (.emplaceBack kind symbol)

/-- `all_symbols.emplace`. -/
def Feeds.recordSymbol (feeds : Feeds Store Queue) (symbol : String) : Feeds Store Queue :=
  if symbol ∈ feeds.shared.allSymbols then feeds
  else { feeds with shared.allSymbols := feeds.shared.allSymbols ++ [symbol] }

/-! ### Order books -/

/-- How a call of a sequencer ends. -/
inductive Ending
  | returned | badState | exception
  deriving DecidableEq, Repr

/-- How a sequencer answers a call: the callbacks it makes, and how it ends. -/
structure Reaction (Callback : Type) where
  callbacks : List Callback
  ending : Ending

/-- A callback that both kinds of calls can make. A snapshot comes with the sequencer's
`last_sequence()` at that moment. -/
inductive SnapshotCallback
  | publishSnapshot (bids asks : List MbpUpdate) (lastSequence : UInt64)
  | requestSnapshot (retries : Nat)

/-- `request_snapshot`, the callback of both handlers. -/
def requestSnapshot [LimitQueue String Queue] (config : Config) (symbol : String)
    (retries : Nat) (feeds : Feeds Store Queue) : Except Fatal (Feeds Store Queue) :=
  if config.settings.mbpRequestMaxRetries ≠ 0 ∧
      config.settings.mbpRequestMaxRetries < retries then
    .error .unexpectedRetries
  else .ok (feeds.emplaceBack .orderBook symbol)

/-- The recovery of both handlers from `BadState`. -/
def resubscribe [LimitQueue String Queue] (symbol : String) (feeds : Feeds Store Queue) :
    Feeds Store Queue :=
  (feeds.emit (.sequencer (.clear symbol))).emplaceBack .orderBook symbol

/-- Make callbacks in order. -/
def makeCallbacks {Callback : Type}
    (callback : Callback → Feeds Store Queue → Except Fatal (Feeds Store Queue)) :
    List Callback → Feeds Store Queue → Except Fatal (Feeds Store Queue)
  | [], feeds => .ok feeds
  | first :: later, feeds => do
    let feeds ← callback first feeds
    makeCallbacks callback later feeds

/-- The levels of one side of a book, as both handlers convert them. -/
def mbpUpdates (levels : List PriceSize) : List MbpUpdate :=
  levels.map fun item => { price := item.price, quantity := item.size }

/-- `get_mbp()`. -/
def Feeds.getMbp (feeds : Feeds Store Queue) : Feeds Store Queue :=
  { feeds with shared.mbpBids := [], shared.mbpAsks := [] }

/-- Append the levels of a message to the scratch book. -/
def Feeds.emplaceMbp (feeds : Feeds Store Queue) (bids asks : List PriceSize) :
    Feeds Store Queue :=
  { feeds with
    shared.mbpBids := feeds.shared.mbpBids ++ mbpUpdates bids
    shared.mbpAsks := feeds.shared.mbpAsks ++ mbpUpdates asks }

end GateFutures.Market
