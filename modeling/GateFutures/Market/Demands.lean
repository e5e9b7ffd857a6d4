/-
This file proves that snapshots are requested exactly as they are demanded.

An order book is demanded by its sequencer, which asks for a snapshot or is found in a bad state.
Candlesticks are demanded by subscribing to them. Demands of both kinds go through a queue that
connections and REST share. What REST has requested is what was demanded, in that order, less what
is still queued: nothing is requested twice, or by anyone else, or before REST is ready.
-/

import GateFutures.Market.Snapshots

namespace GateFutures.Market

open Framework Library Protocol Roq
open Gateway (RestResponse)
open MarketData (UpdateCallback)

variable {Driver Store Queue : Type}

/-! ### Demands -/

/-- The symbol whose candlesticks an output subscribes to. -/
def Output.candlesticks? : Output → Option String
  | .sendText _ frame => match frame.payload with
    | .candlesticks _ symbol => some symbol
    | _ => none
  | _ => none

/-- The output requests a snapshot. -/
def Output.isRequest : Output → Bool
  | .snapshotRequest .. => true
  | _ => false

/-- A sequencer asks for a snapshot of its order book. -/
def SnapshotCallback.demands (symbol : String) : SnapshotCallback → List String
  | .publishSnapshot .. => []
  | .requestSnapshot _ => [symbol]

def MarketData.UpdateCallback.demands (symbol : String) : UpdateCallback → List String
  | .publishUpdate .. => []
  | .snapshot callback => callback.demands symbol

/-- A sequencer that is found in a bad state starts over with a snapshot. -/
def Ending.demands (symbol : String) : Ending → List String
  | .badState => [symbol]
  | .returned | .exception => []

/-- What the reaction of a sequencer demands. -/
def Reaction.demands {Callback : Type} (demands : Callback → List String) (symbol : String)
    (reaction : Reaction Callback) : List String :=
  reaction.callbacks.flatMap demands ++ reaction.ending.demands symbol

/-- The order books that an event demands, of a connection that exists and of a reply that
decodes. -/
def Controller.demands (controller : Controller Driver Store Queue) : Event → List String
  | .stream position (.orderBookUpdate message reaction) =>
    if position < controller.feeds.marketData.length then
      reaction.demands (UpdateCallback.demands message.result.symbol) message.result.symbol
    else []
  | .orderBookReply symbol response reaction =>
    if response.decoded.isSome then reaction.demands (SnapshotCallback.demands symbol) symbol
    else []
  | _ => []

/-- The snapshots that a step demands. -/
def demandedBy (entry : MarketEntry Driver Store Queue) : SnapshotKind → List String
  | .orderBook => entry.before.demands entry.input.event
  | .candlesticks => entry.output.filterMap Output.candlesticks?

/-- The snapshots demanded so far, in order. -/
def demanded (kind : SnapshotKind) : MarketHistory Driver Store Queue → List String
  | [] => []
  | entry :: before => demanded kind before ++ demandedBy entry kind

/-! ### Queueing what is demanded -/

/-- The given order books are queued, and the candlesticks that were subscribed to. Requests are
sent under the given condition only. -/
def Feeds.Demands (ready : Prop) (books : List String) (before after : Feeds Store Queue) : Prop :=
  ∃ outputs, after.outbox = before.outbox ++ outputs ∧
    outputs.filterMap (Output.queued? .orderBook) = books ∧
    outputs.filterMap (Output.queued? .candlesticks) = outputs.filterMap Output.candlesticks? ∧
    ∀ output ∈ outputs, output.isRequest = true → ready

namespace Feeds.Demands

variable {ready : Prop} {first second third : Feeds Store Queue} {books books' : List String}

theorem trans (earlier : first.Demands ready books second)
    (later : second.Demands ready books' third) :
    first.Demands ready (books ++ books') third := by
  obtain ⟨outputs, grown, queued, charted, requests⟩ := earlier
  obtain ⟨outputs', grown', queued', charted', requests'⟩ := later
  refine ⟨outputs ++ outputs', by rw [grown', grown, List.append_assoc],
    by rw [List.filterMap_append, queued, queued'],
    by rw [List.filterMap_append, List.filterMap_append, charted, charted'], ?_⟩
  intro output member
  exact (List.mem_append.mp member).elim (requests output) (requests' output)

/-- What follows demands nothing. -/
theorem append (earlier : first.Demands ready books second)
    (later : second.Demands ready [] third) : first.Demands ready books third := by
  have both := earlier.trans later
  rwa [List.append_nil] at both

/-- Outputs that neither queue nor subscribe to candlesticks nor request. -/
theorem of_quiet (outputs : List Output) (grown : second.outbox = first.outbox ++ outputs)
    (quiet : ∀ output ∈ outputs, (∀ kind, output.queued? kind = none) ∧
      output.candlesticks? = none ∧ output.isRequest = false) : first.Demands ready [] second := by
  refine ⟨outputs, grown, ?_, ?_, fun output member requests => ?_⟩
  · exact List.filterMap_eq_nil_iff.mpr fun output member => (quiet output member).1 .orderBook
  · rw [List.filterMap_eq_nil_iff.mpr fun output member => (quiet output member).1 .candlesticks,
      List.filterMap_eq_nil_iff.mpr fun output member => (quiet output member).2.1]
  · cases (quiet output member).2.2.symm.trans requests

theorem of_outbox (same : second.outbox = first.outbox) : first.Demands ready [] second :=
  of_quiet [] (by rw [same, List.append_nil]) (List.forall_mem_nil _)

theorem refl (feeds : Feeds Store Queue) : feeds.Demands ready [] feeds := of_outbox rfl

theorem emit (feeds : Feeds Store Queue) {output : Output}
    (quiet : (∀ kind, output.queued? kind = none) ∧ output.candlesticks? = none ∧
      output.isRequest = false) : feeds.Demands ready [] (feeds.emit output) :=
  of_quiet [output] rfl (by simpa using quiet)

theorem of_publishes (publishes : first.Publishes second) : first.Demands ready [] second := by
  obtain ⟨outputs, grown, published⟩ := publishes.outbox
  refine of_quiet outputs grown fun output member => ?_
  obtain ⟨unqueued, service⟩ := Bool.and_eq_true_iff.mp (published output member)
  refine ⟨Output.isUnqueued_queued unqueued, ?_, ?_⟩
  · cases output <;> first | rfl | cases service
  · cases output <;> first | rfl | cases unqueued

theorem foldl {Item : Type} {body : Feeds Store Queue → Item → Feeds Store Queue}
    (demands : ∀ (feeds : Feeds Store Queue) (item : Item),
      feeds.Demands ready [] (body feeds item))
    (items : List Item) (feeds : Feeds Store Queue) :
    feeds.Demands ready [] (items.foldl body feeds) := by
  induction items generalizing feeds with
  | nil => exact refl feeds
  | cons item later inductionHypothesis =>
    exact (demands feeds item).trans (inductionHypothesis (body feeds item))

/-- Callbacks that are made in order demand in order. -/
theorem makeCallbacks {Callback : Type}
    {callback : Callback → Feeds Store Queue → Except Fatal (Feeds Store Queue)}
    {demands : Callback → List String}
    (each : ∀ (first : Callback) (feeds next : Feeds Store Queue),
      callback first feeds = .ok next → feeds.Demands ready (demands first) next)
    {callbacks : List Callback} {feeds next : Feeds Store Queue}
    (handled : Market.makeCallbacks callback callbacks feeds = .ok next) :
    feeds.Demands ready (callbacks.flatMap demands) next := by
  induction callbacks generalizing feeds with
  | nil =>
    cases handled
    exact refl _
  | cons first later inductionHypothesis =>
    obtain ⟨middle, called, handled⟩ := bind_ok.mp handled
    exact (each first feeds middle called).trans (inductionHypothesis handled)

variable [LimitQueue String Queue]

theorem emplaceBack (feeds : Feeds Store Queue) (symbol : String) :
    feeds.Demands ready [symbol] (feeds.emplaceBack .orderBook symbol) :=
  ⟨[_], rfl, rfl, rfl, by simp [Output.isRequest]⟩

/-- Candlesticks are subscribed to, and their snapshot is queued. -/
theorem chart (feeds : Feeds Store Queue) (index : Nat) (frame : SubscribeFrame)
    {interval symbol : String} (payload : frame.payload = .candlesticks interval symbol) :
    feeds.Demands ready []
      ((feeds.emit (.sendText index frame)).emplaceBack .candlesticks symbol) := by
  have charted : Output.candlesticks? (.sendText index frame) = some symbol := by
    rw [Output.candlesticks?, payload]
  refine ⟨[.sendText index frame, .emplaceBack .candlesticks symbol], ?_, rfl, ?_, ?_⟩
  · exact List.append_assoc ..
  · rw [List.filterMap_cons_some charted]
    rfl
  · simp [Output.isRequest]

end Feeds.Demands

/-! ### Order books -/

section OrderBooks

variable [LimitQueue String Queue] {ready : Prop} {config : Config} {symbol : String}

theorem requestSnapshot_demands {retries : Nat} {feeds next : Feeds Store Queue}
    (handled : requestSnapshot config symbol retries feeds = .ok next) :
    feeds.Demands ready [symbol] next := by
  rw [requestSnapshot] at handled
  split at handled
  · cases handled
  · cases handled
    exact .emplaceBack feeds symbol

theorem resubscribe_demands (symbol : String) (feeds : Feeds Store Queue) :
    feeds.Demands ready [symbol] (resubscribe symbol feeds) :=
  (Feeds.Demands.of_publishes (.emit feeds (.sequencer (.clear symbol)) rfl)).trans
    (.emplaceBack _ symbol)

omit [LimitQueue String Queue] in
/-- The levels of a message are put in the scratch book, and the sequencer is called. -/
theorem Feeds.sequence_demands (feeds : Feeds Store Queue) (bids asks : List PriceSize)
    (call : SequencerCall) :
    feeds.Demands ready [] ((feeds.getMbp.emplaceMbp bids asks).emit (.sequencer call)) :=
  .of_publishes (((Feeds.getMbp_publishes feeds).trans
    (Feeds.emplaceMbp_publishes _ bids asks)).trans (.emit _ _ rfl))

theorem MarketData.updateCallback_demands {stream : MarketData} {message : OrderBookUpdate}
    {callback : UpdateCallback} {feeds next : Feeds Store Queue}
    (handled : updateCallback config stream message callback feeds = .ok next) :
    feeds.Demands ready (callback.demands message.result.symbol) next := by
  cases callback with
  | publishUpdate bids asks =>
    cases handled
    exact .of_publishes (.emit feeds _ rfl)
  | snapshot callback =>
    cases callback with
    | publishSnapshot bids asks lastSequence =>
      cases handled
      exact .of_publishes (.emit feeds _ rfl)
    | requestSnapshot retries => exact requestSnapshot_demands handled

theorem Rest.snapshotCallback_demands {message : OrderBookAck} {callback : SnapshotCallback}
    {feeds next : Feeds Store Queue}
    (handled : snapshotCallback config symbol message callback feeds = .ok next) :
    feeds.Demands ready (callback.demands symbol) next := by
  cases callback with
  | publishSnapshot bids asks lastSequence =>
    cases handled
    exact .of_publishes (.emit feeds _ rfl)
  | requestSnapshot retries => exact requestSnapshot_demands handled

theorem MarketData.orderBookUpdate_demands {stream : MarketData} {message : OrderBookUpdate}
    {reaction : Reaction UpdateCallback} {feeds next : Feeds Store Queue}
    (handled : orderBookUpdate config stream message reaction feeds = .ok next) :
    feeds.Demands ready (reaction.demands (UpdateCallback.demands message.result.symbol)
      message.result.symbol) next := by
  obtain ⟨called, callbacks, handled⟩ := bind_ok.mp handled
  have demands : feeds.Demands ready
      (reaction.callbacks.flatMap (UpdateCallback.demands message.result.symbol)) called :=
    (Feeds.sequence_demands feeds _ _ _).trans
      (.makeCallbacks (fun _ _ _ called => updateCallback_demands called) callbacks)
  rw [Reaction.demands]
  cases ending : reaction.ending with
  | returned =>
    rw [ending] at handled
    cases handled
    exact demands.trans (.refl _)
  | badState =>
    rw [ending] at handled
    cases handled
    exact demands.trans (resubscribe_demands _ called)
  | exception =>
    rw [ending] at handled
    cases handled

theorem Rest.orderBookAck_demands {reaction : Reaction SnapshotCallback} {message : OrderBookAck}
    {feeds next : Feeds Store Queue} {outcome : Outcome}
    (handled : orderBookAck config symbol reaction message feeds = .ok (next, outcome)) :
    feeds.Demands ready (reaction.demands (SnapshotCallback.demands symbol) symbol) next := by
  obtain ⟨called, callbacks, handled⟩ := bind_ok.mp handled
  have delivers : feeds.Demands ready [] (feeds.emit (.delivered .orderBook symbol)) :=
    .emit feeds ⟨fun _ => rfl, rfl, rfl⟩
  have demands : feeds.Demands ready
      (reaction.callbacks.flatMap (SnapshotCallback.demands symbol)) called :=
    (delivers.trans (Feeds.sequence_demands _ _ _ _)).trans
      (.makeCallbacks (fun _ _ _ called => snapshotCallback_demands called) callbacks)
  rw [Reaction.demands]
  cases ending : reaction.ending with
  | returned | exception =>
    rw [ending] at handled
    cases handled
    exact demands.trans (.refl _)
  | badState =>
    rw [ending] at handled
    cases handled
    exact demands.trans (resubscribe_demands symbol called)

end OrderBooks

/-! ### Subscriptions -/

section Subscriptions

variable [LimitQueue String Queue] {ready : Prop}

namespace MarketData

omit [LimitQueue String Queue] in
theorem setConnectionStatus_demands (position : Nat) (status : ConnectionStatus)
    (stream : MarketData) (feeds : Feeds Store Queue) :
    feeds.Demands ready [] (setConnectionStatus position status stream feeds) :=
  .of_quiet [.streamStatus stream.streamId status] rfl
    (List.forall_mem_singleton.mpr ⟨fun _ => rfl, rfl, rfl⟩)

theorem subscribeAll_demands (config : Config) (context : Context) (stream : MarketData)
    (symbols : List String) (feeds : Feeds Store Queue) :
    feeds.Demands ready [] (subscribeAll config context stream symbols feeds) := by
  have listed (channel : String) (feeds : Feeds Store Queue) :
      feeds.Demands ready [] (subscribeSymbols context stream channel symbols feeds) :=
    .emit feeds ⟨fun _ => rfl, rfl, rfl⟩
  have books (channel : String) (frequency : Int) (depth : Nat) (feeds : Feeds Store Queue) :
      feeds.Demands ready [] (subscribeOrderBook context stream channel symbols frequency depth
        feeds) :=
    .foldl (fun current _ => .emit current ⟨fun _ => rfl, rfl, rfl⟩) symbols feeds
  have series (channel interval : String) (feeds : Feeds Store Queue) :
      feeds.Demands ready [] (subscribeCandlesticks context stream channel symbols interval
        feeds) :=
    .foldl (fun current _ => .chart current stream.index _ rfl) symbols feeds
  unfold subscribeAll
  split
  · exact .refl feeds
  · have books := (((listed "futures.tickers" feeds).trans (listed "futures.trades" _)).trans
      (listed "futures.book_ticker" _)).trans (books "futures.order_book_update"
        (toMilliseconds config.settings.orderBookFreq) config.settings.orderBookDepth _)
    dsimp only
    split
    · exact books.trans (series "futures.candlesticks" "1m" _)
    · exact books

variable [Symbols String Store]

theorem subscribe_demands (config : Config) (context : Context) (startFrom : Nat)
    (stream : MarketData) (feeds : Feeds Store Queue) :
    feeds.Demands ready [] (subscribe config context startFrom stream feeds) := by
  unfold subscribe
  split
  · exact subscribeAll_demands config context stream _ feeds
  · exact .refl feeds

theorem socketReady_demands (config : Config) (context : Context) (position : Nat)
    (stream : MarketData) (feeds : Feeds Store Queue) :
    feeds.Demands ready [] (socketReady config context position stream feeds) :=
  (setConnectionStatus_demands position .ready stream feeds).trans
    (subscribe_demands config context 0 _ _)

end MarketData

variable [Symbols String Store]

theorem symbolsUpdate_demands (config : Config) (context : Context) (symbols : List String)
    (feeds : Feeds Store Queue) :
    feeds.Demands ready [] (symbolsUpdate config context symbols feeds) := by
  have told : feeds.Demands ready [] { feeds.emit (.symbolsUpdate symbols) with
      shared.symbols := (Symbols.append feeds.shared.symbols symbols).1 } :=
    .of_quiet [.symbolsUpdate symbols] rfl
      (List.forall_mem_singleton.mpr ⟨fun _ => rfl, rfl, rfl⟩)
  have created (size : Nat) (feeds : Feeds Store Queue) :
      feeds.Demands ready [] (ensureSymbolSlices size feeds) := by
    refine .foldl (fun feeds _ => ?_) _ feeds
    exact .of_quiet [.start (feeds.streamId + 1)] rfl
      (List.forall_mem_singleton.mpr ⟨fun _ => rfl, rfl, rfl⟩)
  exact (told.trans (created _ _)).trans
    (.foldl (fun feeds stream => MarketData.subscribe_demands config context _ stream feeds) _ _)

theorem subscribe_demands (config : Config) (context : Context) (symbols : List String)
    (feeds : Feeds Store Queue) :
    feeds.Demands ready [] (subscribe config context symbols feeds) := by
  have recorded : feeds.Demands ready [] (collectSymbols symbols [] feeds).1 := by
    rw [collectSymbols_eq]
    exact .of_outbox rfl
  exact recorded.trans (symbolsUpdate_demands config context _ _)

end Subscriptions

/-! ### REST -/

namespace Rest

variable {ready : Prop} {config : Config} {context : Context} {feeds next : Feeds Store Queue}

theorem contractsItem_demands {failure : Option ContractsFailure} {position : Nat}
    {item : ContractsAckItem} {outcome : ItemOutcome}
    (handled : contractsItem config context failure position item feeds = .ok (next, outcome)) :
    feeds.Demands ready [] next := by
  have recorded (symbol : String) (discard : Bool) (feeds : Feeds Store Queue) :
      feeds.Demands ready [] (emplaceSymbol failure position symbol discard feeds).1 := by
    refine .of_outbox ?_
    unfold emplaceSymbol Feeds.recordSymbol
    repeat' split
    all_goals rfl
  have published (data : ReferenceData) (feeds : Feeds Store Queue) :
      feeds.Demands ready [] (feeds.emit (.referenceData data)) :=
    .emit feeds ⟨fun _ => rfl, rfl, rfl⟩
  rw [contractsItem] at handled
  split at handled
  · cases handled
    exact .refl _
  dsimp only at handled
  split at handled
  · cases handled
  split at handled
  · cases handled
    exact .refl _
  split at handled
  · cases handled
    exact published _ feeds
  · obtain ⟨rfl, rfl⟩ := Prod.mk.inj (Except.ok.inj handled)
    exact ((published _ feeds).trans (.of_outbox rfl)).trans (recorded item.name _ _)

theorem collectContracts_demands {failure : Option ContractsFailure}
    {items : List ContractsAckItem} {position : Nat} {symbols collected : List String}
    {outcome : Outcome}
    (handled : collectContracts config context failure items position symbols feeds =
      .ok (next, collected, outcome)) : feeds.Demands ready [] next := by
  induction items generalizing position symbols feeds with
  | nil =>
    cases handled
    exact .refl _
  | cons item later inductionHypothesis =>
    obtain ⟨⟨middle, left⟩, itemHandled, handled⟩ := bind_ok.mp handled
    have first : feeds.Demands ready [] middle := contractsItem_demands itemHandled
    cases left with
    | skipped | included => exact first.trans (inductionHypothesis handled)
    | raised =>
      cases handled
      exact first

theorem candlesticksAck_demands (config : Config) (symbol : String) (raises : Bool)
    (message : CandlesticksAck) (feeds : Feeds Store Queue) :
    feeds.Demands ready [] (candlesticksAck config symbol raises message feeds).1 := by
  have delivers : feeds.Demands ready [] (feeds.emit (.delivered .candlesticks symbol)) :=
    .emit feeds ⟨fun _ => rfl, rfl, rfl⟩
  rw [candlesticksAck]
  split
  · exact delivers.trans (.of_publishes (Feeds.bars_publishes _ _))
  · exact delivers.trans (.of_publishes
      (((Feeds.bars_publishes _ _).trans (.emit _ _ rfl)).trans (Feeds.bars_publishes _ _)))

variable [LimitQueue String Queue] [LawfulLimitQueue String Queue]

/-- The front of a queue is requested while REST is ready. -/
theorem dispatch_demands (holds : ready) (kind : SnapshotKind) (path : String)
    (query : String → String) (allowance : Nat) (queue : Queue) (feeds : Feeds Store Queue) :
    feeds.Demands ready [] (LimitQueue.dispatch allowance (fun symbol current =>
      current.emit (.snapshotRequest kind symbol path (query symbol))) queue feeds).2 := by
  obtain ⟨handed, -, handled⟩ := LawfulLimitQueue.dispatch_hands allowance
    (fun symbol (current : Feeds Store Queue) =>
      current.emit (.snapshotRequest kind symbol path (query symbol))) queue feeds
  rw [handled, Feeds.foldl_emit]
  refine ⟨_, rfl, ?_, ?_, fun _ _ _ => holds⟩
  · rw [List.filterMap_map]
    exact List.filterMap_eq_nil_iff.mpr fun _ _ => rfl
  · rw [List.filterMap_map, List.filterMap_map]
    rfl

theorem timer_demands (refresh : Bool) (allowance : SnapshotKind → Nat) :
    feeds.Demands (feeds.rest.ready = true) [] (timer config refresh allowance feeds) := by
  rw [timer]
  split
  next served =>
    have books := dispatch_demands served.2 .orderBook config.api.futuresOrderBook
      (fun symbol => "?contract=" ++ symbol ++ "&limit=" ++
        toString config.settings.orderBookDepth ++ "&with_id=true")
      (allowance .orderBook) feeds.shared.depthRequestQueue feeds
    have series (feeds : Feeds Store Queue) := dispatch_demands served.2 .candlesticks
      config.api.futuresCandlesticks (fun symbol => "?contract=" ++ symbol ++ "&interval=1m")
      (allowance .candlesticks) feeds.shared.timeSeriesRequestQueue feeds
    have depth : feeds.Demands (feeds.rest.ready = true) []
        (dispatchDepth config (allowance .orderBook) feeds) := books.trans (.of_outbox rfl)
    exact depth.trans ((series _).trans (.of_outbox rfl))
  next => exact .refl feeds

end Rest

/-! ### Steps -/

theorem MarketData.handle_demands [Symbols String Store] [LimitQueue String Queue] {ready : Prop}
    {config : Config} {context : Context} {controller : Controller Driver Store Queue}
    {position : Nat} {stream : MarketData} {event : StreamEvent} {next : Feeds Store Queue}
    (there : position < controller.feeds.marketData.length)
    (handled : handle config context position stream controller.feeds event = .ok next) :
    controller.feeds.Demands ready (controller.demands (.stream position event)) next := by
  cases event with
  | disconnected =>
    cases handled
    exact setConnectionStatus_demands position .disconnected stream _
  | ready =>
    cases handled
    exact socketReady_demands config context position stream _
  | binary => cases handled
  | tickers message =>
    cases handled
    exact .of_publishes (tickers_publishes config stream message _)
  | trades message =>
    cases handled
    exact .of_publishes (trades_publishes config stream message _)
  | bookTicker message =>
    cases handled
    exact .of_publishes (bookTicker_publishes config stream message _)
  | orderBookUpdate message reaction =>
    rw [Controller.demands, if_pos there]
    exact orderBookUpdate_demands handled
  | candlesticks message =>
    cases handled
    exact .of_publishes (candlesticks_publishes config stream message _)

namespace Controller

variable [Download2 Rest.State Driver] [LawfulCallbacks Rest.State Driver]
  [Symbols String Store] [LimitQueue String Queue] [LawfulLimitQueue String Queue]
  {config : Config} {context : Context} {controller next : Controller Driver Store Queue}
  {ready : Prop}

omit [LawfulLimitQueue String Queue] in
theorem getContractsAck_demands {sequence : UInt32} {response : RestResponse ContractsAck}
    {failure : Option Rest.ContractsFailure}
    (handled : controller.getContractsAck config context sequence response failure = .ok next) :
    controller.feeds.Demands ready [] next.feeds := by
  have retried (middle : Controller Driver Store Queue) :
      middle.feeds.Demands ready [] (middle.retry config .contracts).feeds :=
    .of_publishes (middle.retry_publishes config .contracts)
  rcases processResponse_cases handled with ⟨outcome, middle, acknowledged, rfl⟩ | ⟨-, rfl⟩
  · have demands : controller.feeds.Demands ready [] middle.feeds := by
      split at acknowledged
      · cases acknowledged
        exact .refl _
      · split at acknowledged
        next message decoded =>
          obtain ⟨⟨feeds, handling⟩, processed, acknowledged⟩ := bind_ok.mp acknowledged
          obtain ⟨⟨collected, symbols, collecting⟩, looped, processed⟩ := bind_ok.mp processed
          have loops : controller.feeds.Demands ready [] collected :=
            Rest.collectContracts_demands looped
          cases collecting with
          | returned =>
            obtain ⟨rfl, rfl⟩ := Prod.mk.inj (Except.ok.inj processed)
            obtain ⟨rfl, rfl⟩ := Prod.mk.inj (Except.ok.inj acknowledged)
            refine .append ?_ (.of_publishes (Controller.check_publishes config
              { controller with feeds := _ } .contracts))
            dsimp only
            split
            · exact loops.trans (symbolsUpdate_demands config context symbols collected)
            · exact loops
          | raised =>
            cases processed
            cases acknowledged
            exact loops
        next =>
          cases acknowledged
          exact .refl _
    split
    · exact demands.trans (retried middle)
    · exact demands
  · exact retried controller

/-- A handler queues what its event demands, and sends requests only while REST is ready. -/
theorem handle_demands {event : Event}
    (handled : controller.handle config context event = .ok next) :
    controller.feeds.Demands (controller.feeds.rest.ready = true) (controller.demands event)
      next.feeds := by
  cases event with
  | timer refresh allowance =>
    cases handled
    exact Rest.timer_demands refresh allowance
  | subscribe symbols =>
    cases handled
    exact Market.subscribe_demands config context symbols controller.feeds
  | restConnected =>
    cases handled
    exact .of_publishes (controller.restConnected_publishes config)
  | restDisconnected =>
    cases handled
    exact .of_publishes (controller.restDisconnected_publishes config)
  | currenciesReply sequence response => exact .of_publishes (getCurrenciesAck_publishes handled)
  | contractsReply sequence response failure => exact getContractsAck_demands handled
  | orderBookReply symbol response reaction =>
    obtain ⟨feeds, acknowledged, finished⟩ := bind_ok.mp handled
    cases finished
    rw [Controller.demands]
    rcases processResponse_cases acknowledged with
      ⟨outcome, middle, replied, rfl⟩ | ⟨failed, rfl⟩
    · rw [ite_self]
      split at replied
      next message decoded =>
        rw [decoded]
        exact Rest.orderBookAck_demands replied
      next undecoded =>
        cases replied
        rw [undecoded]
        exact .refl _
    · rw [failed]
      exact .refl _
  | candlesticksReply symbol response raises =>
    obtain ⟨feeds, acknowledged, finished⟩ := bind_ok.mp handled
    cases finished
    rcases processResponse_cases acknowledged with ⟨outcome, middle, replied, rfl⟩ | ⟨-, rfl⟩
    · rw [ite_self]
      split at replied
      next message decoded =>
        have same : (Rest.candlesticksAck config symbol raises message controller.feeds).1 =
            middle := congrArg Prod.fst (Except.ok.inj replied)
        exact same ▸ Rest.candlesticksAck_demands config symbol raises message controller.feeds
      next =>
        cases replied
        exact .refl _
    · exact .refl _
  | stream position event =>
    rw [handle] at handled
    split at handled
    next stream there =>
      obtain ⟨feeds, streamed, finished⟩ := bind_ok.mp handled
      cases finished
      exact MarketData.handle_demands (List.getElem?_eq_some_iff.mp there).1 streamed
    next absent =>
      cases handled
      have missing : ¬ position < controller.feeds.marketData.length :=
        Nat.not_lt.mpr (List.getElem?_eq_none_iff.mp absent)
      cases event with
      | orderBookUpdate message reaction =>
        rw [Controller.demands, if_neg missing]
        exact .refl _
      | _ => exact .refl _

/-- A step queues what its event demands and the candlesticks it subscribes to, and sends requests
only while REST is ready. -/
theorem step_demands {input : Input} {output : List Output}
    (taken : controller.step config input = .ok (next, output)) :
    output.filterMap (Output.queued? .orderBook) = controller.demands input.event ∧
      output.filterMap (Output.queued? .candlesticks) = output.filterMap Output.candlesticks? ∧
      ∀ request ∈ output, request.isRequest = true → controller.feeds.rest.ready = true := by
  obtain ⟨handled, rfl⟩ := step_ok taken
  obtain ⟨outputs, grown, books, series, ready⟩ := handle_demands handled
  have all : next.feeds.outbox = outputs := grown
  rw [all]
  refine ⟨books.trans ?_, series, ready⟩
  cases input.event <;> rfl

end Controller

/-! ### Runs -/

/-- Snapshots were requested only while REST was ready. -/
def RequestsReady : StepProperty (Controller Driver Store Queue) Input (List Output) :=
  fun _ entry => ∀ output ∈ entry.output, output.isRequest = true →
    entry.before.feeds.rest.ready = true

section Runs

variable [Download2 Rest.State Driver] [LawfulCallbacks Rest.State Driver]
  [Symbols String Store] [LimitQueue String Queue] [LawfulLimitQueue String Queue]

/-- What was queued is what was demanded, in order. -/
theorem queued_eq_demanded {config : Config}
    {allowed : Environment (Controller Driver Store Queue) Input (List Output)}
    {history : MarketHistory Driver Store Queue} {controller : Controller Driver Store Queue}
    (run : (market config).Run allowed history controller) (kind : SnapshotKind) :
    queued kind history = demanded kind history := by
  induction run with
  | start => rfl
  | step before admitted taken inductionHypothesis =>
    obtain ⟨books, series, -⟩ := Controller.step_demands taken
    rw [queued, demanded, inductionHypothesis]
    cases kind with
    | orderBook => exact congrArg _ books
    | candlesticks => exact congrArg _ series

/-- In every run, the snapshots that were requested, followed by those that are still queued, are
those that were demanded, in the order in which they were; and they were requested while REST was
ready. -/
theorem snapshots_demanded (config : Config)
    (allowed : Environment (Controller Driver Store Queue) Input (List Output))
    (history : MarketHistory Driver Store Queue) (controller : Controller Driver Store Queue)
    (run : (market config).Run allowed history controller) :
    (∀ kind, requested kind history ++
        LimitQueue.elements (controller.feeds.shared.queue kind) = demanded kind history) ∧
      History.Always RequestsReady history := by
  refine ⟨fun kind => (queued_eq run kind).symm.trans (queued_eq_demanded run kind), run.always ?_⟩
  exact fun _ _ _ _ _ _ _ taken => (Controller.step_demands taken).2.2

end Runs

/-! ### A plain run -/

/-- Two order books are demanded, one by its sequencer and one as its state is bad, before REST is
ready; and then REST may request one of them. -/
def plainDemands : List Input :=
  plainInputs [.subscribe ["BTC_USDT", "ETH_USDT"], .stream 0 .ready,
    .stream 0 (.orderBookUpdate ⟨0, ⟨0, "BTC_USDT", 2, 3, [], []⟩⟩
      ⟨[.snapshot (.requestSnapshot 1)], .returned⟩),
    .stream 0 (.orderBookUpdate ⟨0, ⟨0, "ETH_USDT", 5, 6, [], []⟩⟩ ⟨[], .badState⟩),
    .timer true fun _ => 1, .restConnected,
    .contractsReply 1 (.result .success 200 (some ⟨[]⟩)) none, .timer true fun _ => 1]

/-- The first is requested, and the second still queued. -/
theorem snapshots_demanded_plain : ∃ history controller,
    plainMarket.Run (fun _ _ _ => True) history controller ∧
      requested .orderBook history = ["BTC_USDT"] ∧
      LimitQueue.elements controller.feeds.shared.depthRequestQueue = ["ETH_USDT"] ∧
      demanded .orderBook history = ["BTC_USDT", "ETH_USDT"] := by
  have run : plainMarket.Run (fun _ _ _ => True) _ _ :=
    .of_replay plainDemands rfl (History.always_of_forall (fun _ _ => trivial) _)
  have demanded := (snapshots_demanded plainConfig _ _ _ run).1 .orderBook
  exact ⟨_, _, run, rfl, rfl, demanded.symm.trans rfl⟩

end GateFutures.Market
