/-
This file accounts for the queues of snapshot requests.

Every handler accounts for them first in, first out: what was queued before, followed by what
the handler queues, is what it requests, followed by what stays queued. Most handlers do no more
than that: they leave the symbols and the connections alone.
-/

import GateFutures.Market.Effects

namespace GateFutures.Market

open Framework Library Protocol Roq
open Gateway (RestResponse)

variable {Store Queue : Type}

/-! ### Recording symbols -/

/-- A loop that only emits. -/
theorem Feeds.foldl_emit {Item : Type} (output : Item → Output) (items : List Item)
    (feeds : Feeds Store Queue) :
    items.foldl (fun current item => current.emit (output item)) feeds =
      { feeds with outbox := feeds.outbox ++ items.map output } := by
  induction items generalizing feeds with
  | nil => rw [List.foldl_nil, List.map_nil, List.append_nil]
  | cons item later inductionHypothesis =>
    rw [List.foldl_cons, inductionHypothesis, List.map_cons, List.append_cons]
    rfl

/-- The given symbols were recorded. The symbol list and the connections stayed as they were: no
frame was sent, and the controller was told nothing. -/
structure Feeds.Records (recorded : List String) (before after : Feeds Store Queue) : Prop where
  outbox : ∃ outputs, after.outbox = before.outbox ++ outputs ∧
    ∀ output ∈ outputs, output.isService
  symbols : after.shared.symbols = before.shared.symbols
  allSymbols : after.shared.allSymbols = before.shared.allSymbols ++ recorded
  marketData : after.marketData = before.marketData

namespace Feeds.Records

variable {first second third : Feeds Store Queue} {recorded recorded' : List String}

theorem trans (earlier : first.Records recorded second)
    (later : second.Records recorded' third) : first.Records (recorded ++ recorded') third := by
  obtain ⟨outputs, grown, service⟩ := earlier.outbox
  obtain ⟨outputs', grown', service'⟩ := later.outbox
  refine ⟨⟨outputs ++ outputs', by rw [grown', grown, List.append_assoc], ?_⟩,
    later.symbols.trans earlier.symbols,
    by rw [later.allSymbols, earlier.allSymbols, List.append_assoc],
    later.marketData.trans earlier.marketData⟩
  intro output member
  exact (List.mem_append.mp member).elim (service output) (service' output)

theorem of_publishes (publishes : first.Publishes second) : first.Records [] second := by
  obtain ⟨outputs, grown, published⟩ := publishes.outbox
  refine ⟨⟨outputs, grown, ?_⟩, publishes.symbols, ?_, publishes.marketData⟩
  · exact fun output member => (Bool.and_eq_true_iff.mp (published output member)).2
  · rw [publishes.allSymbols, List.append_nil]

theorem refl (feeds : Feeds Store Queue) : feeds.Records [] feeds :=
  of_publishes (Feeds.Publishes.refl feeds)

end Feeds.Records

/-! ### Accounting for the queues -/

variable [LimitQueue String Queue]

/-- The queues are accounted for, first in, first out, and the given replies were given to their
handlers. -/
def Feeds.Accounts (delivered : List (SnapshotKind × String))
    (before after : Feeds Store Queue) : Prop :=
  ∃ outputs, after.outbox = before.outbox ++ outputs ∧
    outputs.filterMap Output.delivered? = delivered ∧
    ∀ kind, LimitQueue.elements (before.shared.queue kind) ++
        outputs.filterMap (Output.queued? kind) =
      outputs.filterMap (Output.requested? kind) ++
        LimitQueue.elements (after.shared.queue kind)

namespace Feeds.Accounts

variable {first second third : Feeds Store Queue}
  {delivered delivered' : List (SnapshotKind × String)}

theorem trans (earlier : first.Accounts delivered second)
    (later : second.Accounts delivered' third) :
    first.Accounts (delivered ++ delivered') third := by
  obtain ⟨outputs, grown, given, accounted⟩ := earlier
  obtain ⟨outputs', grown', given', accounted'⟩ := later
  refine ⟨outputs ++ outputs', by rw [grown', grown, List.append_assoc],
    by rw [List.filterMap_append, given, given'], fun kind => ?_⟩
  rw [List.filterMap_append, List.filterMap_append, ← List.append_assoc, accounted,
    List.append_assoc, accounted', List.append_assoc]

/-- Outputs that are about neither queues nor replies, with the queues unchanged. -/
theorem of_unqueued (outputs : List Output) (grown : second.outbox = first.outbox ++ outputs)
    (unqueued : ∀ output ∈ outputs, output.isUnqueued)
    (queue : ∀ kind, second.shared.queue kind = first.shared.queue kind) :
    first.Accounts [] second := by
  have given : outputs.filterMap Output.delivered? = [] :=
    List.filterMap_eq_nil_iff.mpr fun output member =>
      Output.isUnqueued_delivered (unqueued output member)
  refine ⟨outputs, grown, given, fun kind => ?_⟩
  have queued : outputs.filterMap (Output.queued? kind) = [] :=
    List.filterMap_eq_nil_iff.mpr fun output member =>
      Output.isUnqueued_queued (unqueued output member) kind
  have requested : outputs.filterMap (Output.requested? kind) = [] :=
    List.filterMap_eq_nil_iff.mpr fun output member =>
      Output.isUnqueued_requested (unqueued output member) kind
  rw [queued, requested, queue, List.append_nil, List.nil_append]

theorem of_publishes (publishes : first.Publishes second) : first.Accounts [] second := by
  obtain ⟨outputs, grown, published⟩ := publishes.outbox
  exact of_unqueued outputs grown
    (fun output member => (Bool.and_eq_true_iff.mp (published output member)).1) publishes.queue

theorem refl (feeds : Feeds Store Queue) : feeds.Accounts [] feeds :=
  of_publishes (Feeds.Publishes.refl feeds)

theorem emit (feeds : Feeds Store Queue) (output : Output) (unqueued : output.isUnqueued) :
    feeds.Accounts [] (feeds.emit output) :=
  of_unqueued [output] rfl (by simpa using unqueued) fun _ => rfl

/-- A loop whose body accounts for the queues accounts for them. -/
theorem foldl {Item : Type} {body : Feeds Store Queue → Item → Feeds Store Queue}
    (accounts : ∀ (feeds : Feeds Store Queue) (item : Item),
      feeds.Accounts [] (body feeds item)) (items : List Item) (feeds : Feeds Store Queue) :
    feeds.Accounts [] (items.foldl body feeds) := by
  induction items generalizing feeds with
  | nil => exact refl feeds
  | cons item later inductionHypothesis =>
    exact (accounts feeds item).trans (inductionHypothesis (body feeds item))

theorem deliver (feeds : Feeds Store Queue) (kind : SnapshotKind) (symbol : String) :
    feeds.Accounts [(kind, symbol)] (feeds.emit (.delivered kind symbol)) :=
  ⟨[.delivered kind symbol], rfl, rfl, fun _ => List.append_nil _⟩

theorem emplaceBack [LawfulLimitQueue String Queue] (feeds : Feeds Store Queue)
    (kind : SnapshotKind) (symbol : String) :
    feeds.Accounts [] (feeds.emplaceBack kind symbol) := by
  refine ⟨[.emplaceBack kind symbol], rfl, rfl, fun other => ?_⟩
  cases kind <;> cases other <;>
    first
    | exact (LawfulLimitQueue.elements_emplaceBack _ _).symm
    | exact List.append_nil _

end Feeds.Accounts

theorem MarketData.setConnectionStatus_accounts (position : Nat) (status : ConnectionStatus)
    (stream : MarketData) (feeds : Feeds Store Queue) :
    feeds.Accounts [] (MarketData.setConnectionStatus position status stream feeds) :=
  .of_unqueued [.streamStatus stream.streamId status] rfl (by simp [Output.isUnqueued])
    fun kind => by cases kind <;> rfl

theorem ensureSymbolSlices_accounts (size : Nat) (feeds : Feeds Store Queue) :
    feeds.Accounts [] (ensureSymbolSlices size feeds) := by
  refine .foldl (fun feeds _ => ?_) _ feeds
  exact .of_unqueued [.start (feeds.streamId + 1)] rfl (by simp [Output.isUnqueued])
    fun kind => by cases kind <;> rfl

/-! ### Serving the queues -/

/-- The queues are served, and nothing is recorded. -/
structure Feeds.Serves (delivered : List (SnapshotKind × String))
    (before after : Feeds Store Queue) : Prop where
  accounts : before.Accounts delivered after
  records : before.Records [] after

namespace Feeds.Serves

variable {first second third : Feeds Store Queue}
  {delivered delivered' : List (SnapshotKind × String)}

theorem trans (earlier : first.Serves delivered second) (later : second.Serves delivered' third) :
    first.Serves (delivered ++ delivered') third :=
  ⟨earlier.accounts.trans later.accounts, earlier.records.trans later.records⟩

theorem of_publishes (publishes : first.Publishes second) : first.Serves [] second :=
  ⟨.of_publishes publishes, .of_publishes publishes⟩

theorem refl (feeds : Feeds Store Queue) : feeds.Serves [] feeds :=
  of_publishes (Feeds.Publishes.refl feeds)

theorem deliver (feeds : Feeds Store Queue) (kind : SnapshotKind) (symbol : String) :
    feeds.Serves [(kind, symbol)] (feeds.emit (.delivered kind symbol)) :=
  ⟨.deliver feeds kind symbol,
    ⟨⟨[_], rfl, by simp [Output.isService]⟩, rfl, (List.append_nil _).symm, rfl⟩⟩

variable [LawfulLimitQueue String Queue]

theorem emplaceBack (feeds : Feeds Store Queue) (kind : SnapshotKind) (symbol : String) :
    feeds.Serves [] (feeds.emplaceBack kind symbol) := by
  refine ⟨.emplaceBack feeds kind symbol, ⟨⟨[_], rfl, by simp [Output.isService]⟩, ?_, ?_, rfl⟩⟩
  · cases kind <;> rfl
  · cases kind <;> exact (List.append_nil _).symm

end Feeds.Serves

/-! ### Handlers that serve the queues -/

/-- The levels of a message are put in the scratch book, and the sequencer is called. -/
theorem Feeds.sequence_serves (feeds : Feeds Store Queue) (bids asks : List PriceSize)
    (call : SequencerCall) :
    feeds.Serves [] ((feeds.getMbp.emplaceMbp bids asks).emit (.sequencer call)) :=
  .of_publishes (((Feeds.getMbp_publishes feeds).trans
    (Feeds.emplaceMbp_publishes _ bids asks)).trans (.emit _ _ rfl))

theorem makeCallbacks_serves {Callback : Type}
    {callback : Callback → Feeds Store Queue → Except Fatal (Feeds Store Queue)}
    (serves : ∀ (first : Callback) (feeds next : Feeds Store Queue),
      callback first feeds = .ok next → feeds.Serves [] next)
    {callbacks : List Callback} {feeds next : Feeds Store Queue}
    (handled : makeCallbacks callback callbacks feeds = .ok next) : feeds.Serves [] next := by
  induction callbacks generalizing feeds with
  | nil =>
    cases handled
    exact .refl _
  | cons first later inductionHypothesis =>
    obtain ⟨middle, called, handled⟩ := bind_ok.mp handled
    exact (serves first feeds middle called).trans (inductionHypothesis handled)

theorem Rest.candlesticksAck_serves (config : Config) (symbol : String) (raises : Bool)
    (message : CandlesticksAck) (feeds : Feeds Store Queue) :
    feeds.Serves [(.candlesticks, symbol)]
      (candlesticksAck config symbol raises message feeds).1 := by
  have delivered := Feeds.Serves.deliver feeds .candlesticks symbol
  rw [candlesticksAck]
  split
  · exact delivered.trans (.of_publishes (Feeds.bars_publishes _ _))
  · exact delivered.trans (.of_publishes
      (((Feeds.bars_publishes _ _).trans (.emit _ _ rfl)).trans (Feeds.bars_publishes _ _)))

/-- The front of a queue is requested, and the rest stays queued. -/
theorem Feeds.request_serves (feeds : Feeds Store Queue) (kind : SnapshotKind) (path : String)
    (query : String → String) {handed : List String} {queue : Queue}
    {requested : Feeds Store Queue}
    (front : LimitQueue.elements (feeds.shared.queue kind) = handed ++ LimitQueue.elements queue)
    (requests : requested = handed.foldl (fun current symbol =>
      current.emit (.snapshotRequest kind symbol path (query symbol))) feeds) :
    feeds.Serves [] { requested with shared := requested.shared.setQueue queue kind } := by
  rw [requests, Feeds.foldl_emit]
  refine ⟨⟨_, rfl, ?_, fun other => ?_⟩, ⟨⟨_, rfl, ?_⟩, ?_, ?_, rfl⟩⟩
  · rw [List.filterMap_map]
    exact List.filterMap_eq_nil_iff.mpr fun _ _ => rfl
  · have queued : (handed.map fun symbol =>
        Output.snapshotRequest kind symbol path (query symbol)).filterMap
          (Output.queued? other) = [] := by
      rw [List.filterMap_map]
      exact List.filterMap_eq_nil_iff.mpr fun _ _ => rfl
    rw [queued, List.append_nil, List.filterMap_map]
    by_cases same : kind = other
    · subst same
      have requested : (Output.requested? kind ∘ fun symbol =>
          Output.snapshotRequest kind symbol path (query symbol)) = some := by
        funext symbol
        exact if_pos rfl
      rw [requested, List.filterMap_some, front]
      cases kind <;> rfl
    · have requested : (Output.requested? other ∘ fun symbol =>
          Output.snapshotRequest kind symbol path (query symbol)) = fun _ => none := by
        funext symbol
        exact if_neg same
      rw [requested, List.filterMap_none, List.nil_append]
      cases kind <;> cases other <;> first | rfl | exact absurd rfl same
  · intro output member
    obtain ⟨symbol, -, rfl⟩ := List.mem_map.mp member
    rfl
  · cases kind <;> rfl
  · cases kind <;> exact (List.append_nil _).symm

variable [LawfulLimitQueue String Queue]

theorem requestSnapshot_serves {config : Config} {symbol : String} {retries : Nat}
    {feeds next : Feeds Store Queue}
    (handled : requestSnapshot config symbol retries feeds = .ok next) :
    feeds.Serves [] next := by
  rw [requestSnapshot] at handled
  split at handled
  · cases handled
  · cases handled
    exact .emplaceBack feeds .orderBook symbol

theorem resubscribe_serves (symbol : String) (feeds : Feeds Store Queue) :
    feeds.Serves [] (resubscribe symbol feeds) :=
  (Feeds.Serves.of_publishes (.emit feeds (.sequencer (.clear symbol)) rfl)).trans
    (.emplaceBack _ .orderBook symbol)

theorem MarketData.updateCallback_serves {config : Config} {stream : MarketData}
    {message : OrderBookUpdate} {callback : UpdateCallback} {feeds next : Feeds Store Queue}
    (handled : updateCallback config stream message callback feeds = .ok next) :
    feeds.Serves [] next := by
  cases callback with
  | publishUpdate bids asks =>
    cases handled
    exact .of_publishes (.emit feeds _ rfl)
  | snapshot callback =>
    cases callback with
    | publishSnapshot bids asks lastSequence =>
      cases handled
      exact .of_publishes (.emit feeds _ rfl)
    | requestSnapshot retries => exact requestSnapshot_serves handled

theorem Rest.snapshotCallback_serves {config : Config} {symbol : String}
    {message : OrderBookAck} {callback : SnapshotCallback} {feeds next : Feeds Store Queue}
    (handled : snapshotCallback config symbol message callback feeds = .ok next) :
    feeds.Serves [] next := by
  cases callback with
  | publishSnapshot bids asks lastSequence =>
    cases handled
    exact .of_publishes (.emit feeds _ rfl)
  | requestSnapshot retries => exact requestSnapshot_serves handled

theorem MarketData.orderBookUpdate_serves {config : Config} {stream : MarketData}
    {message : OrderBookUpdate} {reaction : Reaction UpdateCallback}
    {feeds next : Feeds Store Queue}
    (handled : orderBookUpdate config stream message reaction feeds = .ok next) :
    feeds.Serves [] next := by
  obtain ⟨called, callbacks, handled⟩ := bind_ok.mp handled
  have serves := (Feeds.sequence_serves feeds _ _ _).trans
    (makeCallbacks_serves (fun _ _ _ called => updateCallback_serves called) callbacks)
  cases ending : reaction.ending with
  | returned =>
    rw [ending] at handled
    cases handled
    exact serves
  | badState =>
    rw [ending] at handled
    cases handled
    exact serves.trans (resubscribe_serves _ called)
  | exception =>
    rw [ending] at handled
    cases handled

theorem Rest.orderBookAck_serves {config : Config} {symbol : String}
    {reaction : Reaction SnapshotCallback} {message : OrderBookAck}
    {feeds next : Feeds Store Queue} {outcome : Outcome}
    (handled : orderBookAck config symbol reaction message feeds = .ok (next, outcome)) :
    feeds.Serves [(.orderBook, symbol)] next := by
  obtain ⟨called, callbacks, handled⟩ := bind_ok.mp handled
  have serves := ((Feeds.Serves.deliver feeds .orderBook symbol).trans
    (Feeds.sequence_serves _ _ _ _)).trans
    (makeCallbacks_serves (fun _ _ _ called => snapshotCallback_serves called) callbacks)
  cases ending : reaction.ending with
  | returned =>
    rw [ending] at handled
    cases handled
    exact serves
  | badState =>
    rw [ending] at handled
    cases handled
    exact serves.trans (resubscribe_serves symbol called)
  | exception =>
    rw [ending] at handled
    cases handled
    exact serves

namespace Rest

variable (config : Config) (feeds : Feeds Store Queue)

theorem dispatchDepth_serves (allowance : Nat) :
    feeds.Serves [] (dispatchDepth config allowance feeds) := by
  obtain ⟨handed, front, handled⟩ := LawfulLimitQueue.dispatch_hands allowance
    (getOrderBook config) feeds.shared.depthRequestQueue feeds
  exact Feeds.request_serves feeds .orderBook config.api.futuresOrderBook
    (fun symbol => "?contract=" ++ symbol ++ "&limit=" ++
      toString config.settings.orderBookDepth ++ "&with_id=true") front handled

theorem dispatchTimeSeries_serves (allowance : Nat) :
    feeds.Serves [] (dispatchTimeSeries config allowance feeds) := by
  obtain ⟨handed, front, handled⟩ := LawfulLimitQueue.dispatch_hands allowance
    (getCandlesticks config) feeds.shared.timeSeriesRequestQueue feeds
  exact Feeds.request_serves feeds .candlesticks config.api.futuresCandlesticks
    (fun symbol => "?contract=" ++ symbol ++ "&interval=1m") front handled

theorem timer_serves (refresh : Bool) (allowance : SnapshotKind → Nat) :
    feeds.Serves [] (timer config refresh allowance feeds) := by
  rw [timer]
  split
  · exact (dispatchDepth_serves config feeds _).trans (dispatchTimeSeries_serves config _ _)
  · exact .refl feeds

end Rest

/-! ### Subscriptions -/

namespace MarketData

theorem subscribeAll_accounts (config : Config) (context : Context) (stream : MarketData)
    (symbols : List String) (feeds : Feeds Store Queue) :
    feeds.Accounts [] (subscribeAll config context stream symbols feeds) := by
  have listed (channel : String) (feeds : Feeds Store Queue) :
      feeds.Accounts [] (subscribeSymbols context stream channel symbols feeds) :=
    .emit feeds _ rfl
  have books (channel : String) (frequency : Int) (depth : Nat) (feeds : Feeds Store Queue) :
      feeds.Accounts [] (subscribeOrderBook context stream channel symbols frequency depth
        feeds) :=
    .foldl (fun current _ => .emit current _ rfl) symbols feeds
  have series (channel interval : String) (feeds : Feeds Store Queue) :
      feeds.Accounts [] (subscribeCandlesticks context stream channel symbols interval feeds) :=
    .foldl (fun current symbol => (Feeds.Accounts.emit current _ rfl).trans
      (.emplaceBack _ .candlesticks symbol)) symbols feeds
  unfold subscribeAll
  split
  · exact .refl feeds
  · have books := (((listed "futures.tickers" feeds).trans (listed "futures.trades" _)).trans
      (listed "futures.book_ticker" _)).trans (books "futures.order_book_update"
        (toMilliseconds config.settings.orderBookFreq) config.settings.orderBookDepth _)
    dsimp only
    split
    · exact books.trans (series "futures.candlesticks" "1m" _)
    · exact books

variable [Symbols String Store]

theorem subscribe_accounts (config : Config) (context : Context) (startFrom : Nat)
    (stream : MarketData) (feeds : Feeds Store Queue) :
    feeds.Accounts [] (subscribe config context startFrom stream feeds) := by
  unfold subscribe
  split
  · exact subscribeAll_accounts config context stream _ feeds
  · exact .refl feeds

theorem socketReady_accounts (config : Config) (context : Context) (position : Nat)
    (stream : MarketData) (feeds : Feeds Store Queue) :
    feeds.Accounts [] (socketReady config context position stream feeds) :=
  (setConnectionStatus_accounts position .ready stream feeds).trans
    (subscribe_accounts config context 0 _ _)

end MarketData

theorem symbolsUpdate_accounts [Symbols String Store] (config : Config) (context : Context)
    (symbols : List String) (feeds : Feeds Store Queue) :
    feeds.Accounts [] (symbolsUpdate config context symbols feeds) := by
  have told : feeds.Accounts [] { feeds.emit (.symbolsUpdate symbols) with
      shared.symbols := (Symbols.append feeds.shared.symbols symbols).1 } :=
    .of_unqueued [.symbolsUpdate symbols] rfl (by simp [Output.isUnqueued])
      fun kind => by cases kind <;> rfl
  exact (told.trans (ensureSymbolSlices_accounts _ _)).trans
    (.foldl (fun feeds stream => MarketData.subscribe_accounts config context _ stream feeds) _ _)

end GateFutures.Market
