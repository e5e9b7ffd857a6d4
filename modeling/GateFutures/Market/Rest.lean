/-
This file models `Rest`, the gateway's REST connection: its download of the contracts, the
requests for snapshots, and the handling of their replies.

A reply to a download request carries the sequence number of its attempt. A reply to a
snapshot request carries its symbol. An exception raised inside a handler is caught by
`process_response`, which then calls the error handler; what the handler did before stays done.
-/

import GateFutures.Gateway.OrderEntry
import GateFutures.Market.Feeds

namespace GateFutures.Market

open Framework Protocol Roq
open Gateway (RestResponse)

variable {Store Queue : Type}

/-! ### Exceptions -/

/-- Whether a handler returned or raised an exception. -/
inductive Outcome
  | returned | raised
  deriving DecidableEq, Repr

/-- `Rest::process_response`. The success handler is given the body, if it decodes. -/
def processResponse {Body Owner : Type} (response : RestResponse Body)
    (errorHandler : Owner → Owner)
    (successHandler : Option Body → Owner → Except Fatal (Owner × Outcome)) (owner : Owner) :
    Except Fatal Owner :=
  match response with
  | .result .success _ body => do
    let (owner, outcome) ← successHandler body owner
    match outcome with
    | .returned => return owner
    | .raised => return errorHandler owner
  | .result .redirection _ _ => .error .redirected
  | .result .unknown _ _ | .result .informationalResponse _ _ | .result .clientError _ _
  | .result .serverError _ _ | .omsException | .networkError | .exception =>
    .ok (errorHandler owner)

namespace Rest

/-- `Rest::operator()(Trace<ConnectionStatus>)`. -/
def setConnectionStatus (config : Config) (status : ConnectionStatus)
    (feeds : Feeds Store Queue) : Feeds Store Queue :=
  { feeds with rest.connectionStatus := status }.emit (.streamStatus config.restStreamId status)

/-! ### The download -/

/-- `Rest::get_currencies`. -/
def getCurrencies (config : Config) (sequence : UInt32) (feeds : Feeds Store Queue) :
    Feeds Store Queue :=
  feeds.emit (.download .currencies sequence config.api.spotCurrencies)

/-- `Rest::get_contracts`. -/
def getContracts (config : Config) (sequence : UInt32) (feeds : Feeds Store Queue) :
    Feeds Store Queue :=
  feeds.emit (.download .contracts sequence config.api.futuresContracts)

/-- `Rest::download`. -/
def download (config : Config) : Callback State (Feeds Store Queue)
  | .undefined, _, feeds => (feeds, 0)
  | .currencies, sequence, feeds =>
    if config.settings.disableCurrenciesDownload then (feeds, 0)
    else (getCurrencies config sequence feeds, 1)
  | .contracts, sequence, feeds => (getContracts config sequence feeds, 1)
  | .done, _, feeds => (setConnectionStatus config .ready feeds, 0)

/-! ### Contracts -/

/-- The calls in the loop over the contracts that may raise an exception. -/
inductive ContractsCall
  | discardSymbol | dispatch | cacheSettleCoin | emplaceSymbol | constructSymbol
  deriving DecidableEq, Repr

/-- The call that raises an exception, if the loop reaches it: the position of the item, and the
call made for it. -/
structure ContractsFailure where
  position : Nat
  call : ContractsCall
  deriving DecidableEq

/-- The two currencies of a symbol: what precedes the first underscore, and what follows it. -/
def splitSymbol (symbol : String) : Option (String × String) :=
  if '_' ∈ symbol.toList then
    some (String.ofList (symbol.toList.takeWhile fun character => character ≠ '_'),
      String.ofList (symbol.toList.dropWhile fun character => character ≠ '_').tail)
  else none

/-- The settlement currency of a contract. -/
def settlementCurrency (type : ContractType) (baseCurrency quoteCurrency : String) : String :=
  match type with
  | .direct => quoteCurrency
  | .inverse => baseCurrency
  | .undefinedInternal | .unknownInternal | .index | .stocks => ""

/-- `utils::safe_cast` to days. -/
def toDays (nanoseconds : Int) : Int := nanoseconds.tdiv 86400000000000

/-- The reference data published for one contract. -/
def createReferenceData (config : Config) (item : ContractsAckItem)
    (baseCurrency quoteCurrency : String) (discard : Bool) : ReferenceData where
  streamId := config.restStreamId
  exchange := config.settings.exchange
  symbol := item.name
  description := item.name
  baseCurrency
  quoteCurrency
  settlementCurrency := settlementCurrency item.type baseCurrency quoteCurrency
  tickSize := item.orderPriceRound
  minTradeVol := if config.isZero item.orderSizeMin then .number 1 else item.orderSizeMin
  maxTradeVol := item.orderSizeMax
  issueDate := toDays item.createTime
  exchangeTimeUtc := item.configChangeTime
  discard

/-- Cache the settlement currency of a symbol. -/
def cacheSettleCoin (symbol currency : String) (feeds : Feeds Store Queue) :
    Feeds Store Queue :=
  { feeds with shared.symbol2SettleCoin := fun other =>
      if other = symbol then some currency else feeds.shared.symbol2SettleCoin other }

/-- How the loop leaves one contract: it is not new or not wanted, it is included in the update,
or a call raised an exception. -/
inductive ItemOutcome
  | skipped | included | raised
  deriving DecidableEq, Repr

/-- The end of the loop's body: drop a discarded symbol, and record one that is new. -/
def emplaceSymbol (failure : Option ContractsFailure) (position : Nat) (symbol : String)
    (discard : Bool) (feeds : Feeds Store Queue) : Feeds Store Queue × ItemOutcome :=
  if discard then (feeds, .skipped)
  else if failure = some ⟨position, .emplaceSymbol⟩ then (feeds, .raised)
  else if symbol ∈ feeds.shared.allSymbols then (feeds, .skipped)
  else if failure = some ⟨position, .constructSymbol⟩ then (feeds.recordSymbol symbol, .raised)
  else (feeds.recordSymbol symbol, .included)

/-- The body of the loop over the contracts. -/
def contractsItem (config : Config) (context : Context) (failure : Option ContractsFailure)
    (position : Nat) (item : ContractsAckItem) (feeds : Feeds Store Queue) :
    Except Fatal (Feeds Store Queue × ItemOutcome) :=
  if failure = some ⟨position, .discardSymbol⟩ then .ok (feeds, .raised)
  else
    let discard := context.discardSymbol item.name
    match splitSymbol item.name with
    | none => .error .unexpectedSymbol
    | some (baseCurrency, quoteCurrency) =>
      if failure = some ⟨position, .dispatch⟩ then .ok (feeds, .raised)
      else
        let feeds := feeds.emit
          (.referenceData (createReferenceData config item baseCurrency quoteCurrency discard))
        if failure = some ⟨position, .cacheSettleCoin⟩ then .ok (feeds, .raised)
        else
          let feeds := cacheSettleCoin item.name
            (settlementCurrency item.type baseCurrency quoteCurrency) feeds
          .ok (emplaceSymbol failure position item.name discard feeds)

/-- The loop over the contracts. It collects the symbols to include in the update. -/
def collectContracts (config : Config) (context : Context) (failure : Option ContractsFailure) :
    List ContractsAckItem → Nat → List String → Feeds Store Queue →
      Except Fatal (Feeds Store Queue × List String × Outcome)
  | [], _, symbols, feeds => .ok (feeds, symbols, .returned)
  | item :: later, position, symbols, feeds => do
    let (feeds, outcome) ← contractsItem config context failure position item feeds
    match outcome with
    | .skipped => collectContracts config context failure later (position + 1) symbols feeds
    | .included =>
      collectContracts config context failure later (position + 1) (symbols ++ [item.name]) feeds
    | .raised => return (feeds, symbols, .raised)

/-- `Rest::operator()(Trace<ContractsAck>)`. The handler is told only the new symbols, after the
loop. -/
def contractsAck (config : Config) (context : Context)
    (handler : List String → Feeds Store Queue → Feeds Store Queue) (message : ContractsAck)
    (failure : Option ContractsFailure) (feeds : Feeds Store Queue) :
    Except Fatal (Feeds Store Queue × Outcome) := do
  let (feeds, symbols, outcome) ← collectContracts config context failure message.data 0 [] feeds
  match outcome with
  | .returned => return (if symbols ≠ [] then handler symbols feeds else feeds, .returned)
  | .raised => return (feeds, .raised)

/-! ### Snapshot requests -/

/-- `Rest::get_order_book`. -/
def getOrderBook (config : Config) (symbol : String) (feeds : Feeds Store Queue) :
    Feeds Store Queue :=
  feeds.emit (.snapshotRequest .orderBook symbol config.api.futuresOrderBook
    ("?contract=" ++ symbol ++ "&limit=" ++ toString config.settings.orderBookDepth ++
      "&with_id=true"))

/-- `Rest::get_candlesticks`. -/
def getCandlesticks (config : Config) (symbol : String) (feeds : Feeds Store Queue) :
    Feeds Store Queue :=
  feeds.emit (.snapshotRequest .candlesticks symbol config.api.futuresCandlesticks
    ("?contract=" ++ symbol ++ "&interval=1m"))

section Requests

variable [LimitQueue String Queue]

/-- `depth_request_queue.dispatch`. The number is how many requests the rate limiter and the
queue's delay let through. -/
def dispatchDepth (config : Config) (allowance : Nat) (feeds : Feeds Store Queue) :
    Feeds Store Queue :=
  let (queue, feeds) := LimitQueue.dispatch allowance (getOrderBook config)
    feeds.shared.depthRequestQueue feeds
  { feeds with shared.depthRequestQueue := queue }

/-- `time_series_request_queue.dispatch`. -/
def dispatchTimeSeries (config : Config) (allowance : Nat) (feeds : Feeds Store Queue) :
    Feeds Store Queue :=
  let (queue, feeds) := LimitQueue.dispatch allowance (getCandlesticks config)
    feeds.shared.timeSeriesRequestQueue feeds
  { feeds with shared.timeSeriesRequestQueue := queue }

/-- `Rest::check_request_queue`. -/
def checkRequestQueue (config : Config) (allowance : SnapshotKind → Nat)
    (feeds : Feeds Store Queue) : Feeds Store Queue :=
  dispatchTimeSeries config (allowance .candlesticks)
    (dispatchDepth config (allowance .orderBook) feeds)

/-- `Rest::operator()(Trace<Timer>)`. -/
def timer (config : Config) (refresh : Bool) (allowance : SnapshotKind → Nat)
    (feeds : Feeds Store Queue) : Feeds Store Queue :=
  if refresh ∧ feeds.rest.ready then checkRequestQueue config allowance feeds else feeds

/-! ### Snapshot replies -/

/-- The callbacks of `Rest::operator()(Trace<OrderBookAck>)`. -/
def snapshotCallback (config : Config) (symbol : String) (message : OrderBookAck)
    (callback : SnapshotCallback) (feeds : Feeds Store Queue) :
    Except Fatal (Feeds Store Queue) :=
  match callback with
  | .publishSnapshot bids asks lastSequence =>
    .ok (feeds.emit (.marketByPriceUpdate {
      streamId := config.restStreamId
      exchange := config.settings.exchange
      symbol
      bids
      asks
      updateType := .snapshot
      exchangeTimeUtc := message.update
      exchangeSequence := lastSequence
      sendingTimeUtc := message.current }))
  | .requestSnapshot retries => requestSnapshot config symbol retries feeds

/-- `Rest::operator()(Trace<OrderBookAck>)`. -/
def orderBookAck (config : Config) (symbol : String) (reaction : Reaction SnapshotCallback)
    (message : OrderBookAck) (feeds : Feeds Store Queue) :
    Except Fatal (Feeds Store Queue × Outcome) := do
  let feeds := feeds.emit (.delivered .orderBook symbol)
  let feeds := feeds.getMbp.emplaceMbp message.bids message.asks
  let feeds := feeds.emit (.sequencer (.snapshot symbol feeds.shared.mbpBids
    feeds.shared.mbpAsks message.id))
  let feeds ← makeCallbacks (snapshotCallback config symbol message) reaction.callbacks feeds
  match reaction.ending with
  | .returned => return (feeds, .returned)
  | .badState => return (resubscribe symbol feeds, .returned)
  | .exception => return (feeds, .raised)

/-- `Rest::get_order_book_ack`. The error handler only logs. -/
def getOrderBookAck (config : Config) (symbol : String)
    (response : RestResponse OrderBookAck) (reaction : Reaction SnapshotCallback)
    (feeds : Feeds Store Queue) : Except Fatal (Feeds Store Queue) :=
  processResponse response (fun feeds => feeds)
    (fun body feeds => match body with
      | some message => orderBookAck config symbol reaction message feeds
      | none => .ok (feeds, .raised))
    feeds

end Requests

/-- The bar of one item of `CandlesticksAck`. -/
def createBar (item : CandlesticksItem) : Bar where
  beginTimeUtc := item.time
  confirmed := true
  openPrice := item.open
  highPrice := item.open
  lowPrice := item.open
  closePrice := item.open
  quantity := item.volume
  quoteAmount := item.sum

/-- `Rest::operator()(Trace<CandlesticksAck>)`. The flag says whether the dispatch raises. -/
def candlesticksAck (config : Config) (symbol : String) (raises : Bool)
    (message : CandlesticksAck) (feeds : Feeds Store Queue) : Feeds Store Queue × Outcome :=
  let feeds := feeds.emit (.delivered .candlesticks symbol)
  let feeds := { feeds with shared.bars := [] }
  let feeds := { feeds with shared.bars := feeds.shared.bars ++ message.data.map createBar }
  if raises then (feeds, .raised)
  else
    ({ feeds.emit (.timeSeriesUpdate {
        streamId := config.restStreamId
        exchange := config.settings.exchange
        symbol
        interval := config.settings.timeSeriesInterval
        bars := feeds.shared.bars
        updateType := .snapshot
        exchangeTimeUtc := 0 }) with shared.bars := [] }, .returned)

/-- `Rest::get_candlesticks_ack`. The error handler only logs. -/
def getCandlesticksAck (config : Config) (symbol : String)
    (response : RestResponse CandlesticksAck) (raises : Bool) (feeds : Feeds Store Queue) :
    Except Fatal (Feeds Store Queue) :=
  processResponse response (fun feeds => feeds)
    (fun body feeds => match body with
      | some message => .ok (candlesticksAck config symbol raises message feeds)
      | none => .ok (feeds, .raised))
    feeds

end Rest

end GateFutures.Market
