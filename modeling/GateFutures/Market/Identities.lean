/-
This file proves which connection an update of the market data names.

Connections are numbered as they are created, and a number is never given up. Whatever a handler
publishes carries the number of the connection it belongs to, also where it publishes from buffers
that all connections share. What is published as reference data is also what is cached of the
settlement coins.
-/

import GateFutures.Market.Steps
import Mathlib.Algebra.Group.Nat.Defs
import Mathlib.Data.List.Induction

namespace GateFutures.Market

open Framework Library Protocol Roq
open Gateway (RestResponse)

variable {Store Queue : Type} {cached : Prop}

/-! ### Numbers -/

/-- Numbers that follow a number. -/
def following (streamId : UInt16) (count : Nat) : List UInt16 :=
  (List.range count).map fun position => streamId + UInt16.ofNat (position + 1)

@[simp] theorem following_length (streamId : UInt16) (count : Nat) :
    (following streamId count).length = count := by
  rw [following, List.length_map, List.length_range]

theorem following_add (streamId : UInt16) (count more : Nat) :
    following streamId (count + more) =
      following streamId count ++ following (streamId + UInt16.ofNat count) more := by
  unfold following
  rw [List.range_add, List.map_append, List.map_map]
  refine congrArg (_ ++ ·) (List.map_congr_left fun position _ => ?_)
  rw [Function.comp_apply, UInt16.add_assoc, ← UInt16.ofNat_add, Nat.add_assoc]

/-- The numbers that follow a number are distinct until they have all been given. -/
theorem following_nodup {streamId : UInt16} {count : Nat} :
    (following streamId count).Nodup ↔ count ≤ 2 ^ 16 := by
  have same (first second : Nat) :
      streamId + UInt16.ofNat (first + 1) = streamId + UInt16.ofNat (second + 1) ↔
        first % 2 ^ 16 = second % 2 ^ 16 := by
    rw [UInt16.add_right_inj, ← UInt16.toNat_inj, UInt16.toNat_ofNat', UInt16.toNat_ofNat']
    omega
  constructor
  · intro distinct
    by_contra beyond
    have first : (following streamId count)[0]? = (following streamId count)[2 ^ 16]? := by
      unfold following
      rw [List.getElem?_map, List.getElem?_map, List.getElem?_range (by omega),
        List.getElem?_range (by omega)]
      exact congrArg some ((same 0 (2 ^ 16)).mpr (by decide))
    have position := (List.getElem?_inj (by rw [following_length]; omega) distinct).mp first
    cases position
  · intro bounded
    refine List.Nodup.map_on (fun first inside second inside' equal => ?_) List.nodup_range
    have both := (same first second).mp equal
    rw [List.mem_range] at inside inside'
    omega

/-! ### What an update carries -/

/-- The number an update carries. -/
def Output.streamId? : Output → Option UInt16
  | .streamStatus streamId _ => some streamId
  | .statisticsUpdate update => some update.streamId
  | .tradeSummary summary => some summary.streamId
  | .topOfBook top => some top.streamId
  | .marketByPriceUpdate update => some update.streamId
  | .timeSeriesUpdate update => some update.streamId
  | .referenceData data => some data.streamId
  | .start _ | .sequencer _ | .download .. | .snapshotRequest .. | .emplaceBack ..
  | .delivered .. | .symbolsUpdate _ | .sendText .. => none

/-- The reference data an output publishes. -/
def Output.referenceData? : Output → Option ReferenceData
  | .referenceData data => some data
  | _ => none

theorem Output.referenceData?_silent {output : Output} (silent : output.streamId? = none) :
    output.referenceData? = none := by
  cases output <;> first | rfl | cases silent

/-- The settlement coins that are cached once an output was published. -/
def cacheOutput (coins : String → Option String) (output : Output) : String → Option String :=
  match output.referenceData? with
  | some data => Function.update coins data.symbol (some data.settlementCurrency)
  | none => coins

/-- The last reference data of a symbol among outputs. -/
def lastReference (symbol : String) (outputs : List Output) : Option ReferenceData :=
  (outputs.filterMap Output.referenceData?).reverse.find? fun data => data.symbol = symbol

/-- The coin of the last reference data is cached. -/
theorem foldl_cacheOutput (symbol : String) (outputs : List Output)
    (coins : String → Option String) :
    outputs.foldl cacheOutput coins symbol =
      ((lastReference symbol outputs).map ReferenceData.settlementCurrency).or (coins symbol) := by
  induction outputs using List.reverseRecOn with
  | nil => rfl
  | append_singleton outputs output inductionHypothesis =>
    rw [List.foldl_concat, lastReference, List.filterMap_append, List.reverse_append, cacheOutput]
    cases references : output.referenceData? with
    | none =>
      rw [List.filterMap_cons_none references]
      exact inductionHypothesis
    | some data =>
      rw [List.filterMap_cons_some references]
      by_cases same : data.symbol = symbol
      · rw [List.filterMap_nil, List.reverse_singleton, List.singleton_append,
          List.find?_cons_of_pos (by exact decide_eq_true same), ← same]
        exact Function.update_self ..
      · rw [List.filterMap_nil, List.reverse_singleton, List.singleton_append,
          List.find?_cons_of_neg (by simpa using same)]
        exact (Function.update_of_ne (Ne.symm same) ..).trans inductionHypothesis

/-- Every update that was published carries one number, and the settlement coins of reference data
that was published are cached, unless a call that caches fails. Connections were created with the
next numbers, and the others kept theirs. -/
structure Feeds.Carries (carried : UInt16) (cached : Prop) (before after : Feeds Store Queue) :
    Prop where
  outbox : ∃ outputs, after.outbox = before.outbox ++ outputs ∧
    (∀ output ∈ outputs, ∀ streamId ∈ output.streamId?, streamId = carried) ∧
    (cached → after.shared.symbol2SettleCoin =
      outputs.foldl cacheOutput before.shared.symbol2SettleCoin)
  created : ∃ count, after.streamId = before.streamId + UInt16.ofNat count ∧
    after.marketData.map MarketData.streamId =
      before.marketData.map MarketData.streamId ++ following before.streamId count

namespace Feeds.Carries

variable {carried : UInt16} {first second third : Feeds Store Queue}

/-- What changes neither the outbox nor the coins nor the connections carries nothing. -/
theorem of_eq (outbox : second.outbox = first.outbox)
    (coins : second.shared.symbol2SettleCoin = first.shared.symbol2SettleCoin)
    (streamId : second.streamId = first.streamId)
    (marketData : second.marketData.map MarketData.streamId =
      first.marketData.map MarketData.streamId) : first.Carries carried cached second :=
  ⟨⟨[], by rw [outbox, List.append_nil], List.forall_mem_nil _, fun _ => coins⟩,
    ⟨0, by rw [streamId]; exact (UInt16.add_zero _).symm,
      by rw [marketData]; exact (List.append_nil _).symm⟩⟩

theorem refl (feeds : Feeds Store Queue) : feeds.Carries carried cached feeds :=
  of_eq rfl rfl rfl rfl

theorem trans (earlier : first.Carries carried cached second)
    (later : second.Carries carried cached third) : first.Carries carried cached third := by
  obtain ⟨outputs, grown, carries, coins⟩ := earlier.outbox
  obtain ⟨outputs', grown', carries', coins'⟩ := later.outbox
  obtain ⟨count, counted, added⟩ := earlier.created
  obtain ⟨count', counted', added'⟩ := later.created
  refine ⟨⟨outputs ++ outputs', by rw [grown', grown, List.append_assoc], fun output member => ?_,
    fun caches => ?_⟩, ⟨count + count', ?_, ?_⟩⟩
  · exact (List.mem_append.mp member).elim (carries output) (carries' output)
  · rw [coins' caches, coins caches, List.foldl_append]
  · rw [counted', counted, UInt16.ofNat_add, UInt16.add_assoc]
  · rw [added', added, counted, following_add, List.append_assoc]

/-- An update that carries the number, and is no reference data. -/
theorem publish (feeds : Feeds Store Queue) {output : Output}
    (carries : output.streamId? = some carried) (plain : output.referenceData? = none) :
    feeds.Carries carried cached (feeds.emit output) := by
  refine ⟨⟨[output], rfl, ?_, fun _ => ?_⟩,
    (of_eq rfl rfl rfl rfl : feeds.Carries carried cached feeds).created⟩
  · rw [List.forall_mem_singleton, carries]
    exact fun _ there => (Option.mem_some.mp there).symm
  · rw [List.foldl_cons, List.foldl_nil, cacheOutput, plain]
    rfl

/-- An output that carries no number. -/
theorem tell (feeds : Feeds Store Queue) {output : Output} (silent : output.streamId? = none) :
    feeds.Carries carried cached (feeds.emit output) := by
  refine ⟨⟨[output], rfl, ?_, fun _ => ?_⟩,
    (of_eq rfl rfl rfl rfl : feeds.Carries carried cached feeds).created⟩
  · rw [List.forall_mem_singleton, silent]
    exact fun _ there => by cases there
  · rw [List.foldl_cons, List.foldl_nil, cacheOutput, Output.referenceData?_silent silent]
    rfl

/-- Reference data is published, and its settlement coin cached. -/
theorem reference (feeds : Feeds Store Queue) {data : ReferenceData}
    (carries : data.streamId = carried) :
    feeds.Carries carried cached (Rest.cacheSettleCoin data.symbol data.settlementCurrency
      (feeds.emit (.referenceData data))) := by
  refine ⟨⟨[.referenceData data], rfl, ?_, fun _ => ?_⟩,
    (of_eq rfl rfl rfl rfl : feeds.Carries carried cached feeds).created⟩
  · rw [List.forall_mem_singleton]
    exact fun _ there => (Option.mem_some.mp there).symm.trans carries
  · funext symbol
    show (if symbol = data.symbol then some data.settlementCurrency
      else feeds.shared.symbol2SettleCoin symbol) = _
    exact (Function.update_apply ..).symm

/-- Reference data is published, but the call that caches fails. -/
theorem uncached (feeds : Feeds Store Queue) {data : ReferenceData}
    (carries : data.streamId = carried) (fails : ¬ cached) :
    feeds.Carries carried cached (feeds.emit (.referenceData data)) := by
  refine ⟨⟨[.referenceData data], rfl, ?_, fun caches => absurd caches fails⟩,
    (of_eq rfl rfl rfl rfl : feeds.Carries carried cached feeds).created⟩
  rw [List.forall_mem_singleton]
  exact fun _ there => (Option.mem_some.mp there).symm.trans carries

/-- A loop whose body carries one number carries it. -/
theorem foldl {Item : Type} {body : Feeds Store Queue → Item → Feeds Store Queue}
    (carries : ∀ (feeds : Feeds Store Queue) (item : Item),
      feeds.Carries carried cached (body feeds item))
    (items : List Item) (feeds : Feeds Store Queue) :
    feeds.Carries carried cached (items.foldl body feeds) := by
  induction items generalizing feeds with
  | nil => exact refl feeds
  | cons item later inductionHypothesis =>
    exact (carries feeds item).trans (inductionHypothesis (body feeds item))

theorem emplaceBack [LimitQueue String Queue] (feeds : Feeds Store Queue) (kind : SnapshotKind)
    (symbol : String) : feeds.Carries carried cached (feeds.emplaceBack kind symbol) := by
  have queued : feeds.Carries carried cached { feeds with
      shared := feeds.shared.setQueue
        (LimitQueue.emplaceBack (feeds.shared.queue kind) symbol) kind } :=
    of_eq rfl (by cases kind <;> rfl) rfl rfl
  exact queued.trans (tell _ rfl)

theorem trades (feeds : Feeds Store Queue) (trades : List Trade) :
    feeds.Carries carried cached { feeds with shared.trades := trades } := of_eq rfl rfl rfl rfl

theorem bars (feeds : Feeds Store Queue) (bars : List Bar) :
    feeds.Carries carried cached { feeds with shared.bars := bars } := of_eq rfl rfl rfl rfl

theorem recordSymbol (feeds : Feeds Store Queue) (symbol : String) :
    feeds.Carries carried cached (feeds.recordSymbol symbol) := by
  unfold Feeds.recordSymbol
  split <;> exact of_eq rfl rfl rfl rfl

/-- Callbacks that carry one number, made in order, carry it. -/
theorem makeCallbacks {Callback : Type}
    {callback : Callback → Feeds Store Queue → Except Fatal (Feeds Store Queue)}
    (carries : ∀ (first : Callback) (feeds next : Feeds Store Queue),
      callback first feeds = .ok next → feeds.Carries carried cached next)
    {callbacks : List Callback} {feeds next : Feeds Store Queue}
    (handled : Market.makeCallbacks callback callbacks feeds = .ok next) :
    feeds.Carries carried cached next := by
  induction callbacks generalizing feeds with
  | nil =>
    cases handled
    exact refl _
  | cons first later inductionHypothesis =>
    obtain ⟨middle, called, handled⟩ := bind_ok.mp handled
    exact (carries first feeds middle called).trans (inductionHypothesis handled)

end Feeds.Carries

/-! ### Order books -/

section OrderBooks

variable [LimitQueue String Queue] {config : Config} {symbol : String} {carried : UInt16}

theorem requestSnapshot_carries {retries : Nat} {feeds next : Feeds Store Queue}
    (handled : requestSnapshot config symbol retries feeds = .ok next) :
    feeds.Carries carried cached next := by
  rw [requestSnapshot] at handled
  split at handled
  · cases handled
  · cases handled
    exact .emplaceBack feeds .orderBook symbol

theorem resubscribe_carries (symbol : String) (feeds : Feeds Store Queue) :
    feeds.Carries carried cached (resubscribe symbol feeds) :=
  (Feeds.Carries.tell feeds rfl).trans (.emplaceBack _ .orderBook symbol)

omit [LimitQueue String Queue] in
/-- The levels of a message are put in the scratch book, and the sequencer is called. -/
theorem Feeds.sequence_carries (feeds : Feeds Store Queue) (bids asks : List PriceSize)
    (call : SequencerCall) :
    feeds.Carries carried cached ((feeds.getMbp.emplaceMbp bids asks).emit (.sequencer call)) := by
  have scratch : feeds.Carries carried cached (feeds.getMbp.emplaceMbp bids asks) :=
    .of_eq rfl rfl rfl rfl
  exact scratch.trans (.tell _ rfl)

end OrderBooks

/-! ### Market data connections -/

namespace MarketData

section Messages

variable (config : Config) (stream : MarketData)

theorem tickers_carries (message : Tickers) (feeds : Feeds Store Queue) :
    feeds.Carries stream.streamId cached (tickers config stream message feeds) :=
  .foldl (fun feeds _ => .publish feeds rfl rfl) message.result feeds

theorem collectTrades_carries (message : Trades) (items : List TradesItem) (contract : String)
    (timestamp : Int) (feeds : Feeds Store Queue) :
    feeds.Carries stream.streamId cached
      (collectTrades config stream message items contract timestamp feeds).2.2 := by
  induction items generalizing contract timestamp feeds with
  | nil => exact .refl feeds
  | cons item later inductionHypothesis =>
    rw [collectTrades]
    by_cases changed : item.contract ≠ contract
    · rw [if_pos changed]
      refine .trans ?_ (inductionHypothesis _ _ _)
      refine .trans ?_ (.trades _ _)
      split
      · exact .trans (.publish feeds rfl rfl) (.trades _ _)
      · exact .refl feeds
    · rw [if_neg changed]
      exact (Feeds.Carries.trades feeds _).trans (inductionHypothesis _ _ _)

theorem trades_carries (message : Trades) (feeds : Feeds Store Queue) :
    feeds.Carries stream.streamId cached (trades config stream message feeds) := by
  have collected : feeds.Carries stream.streamId cached _ := (Feeds.Carries.trades feeds []).trans
    (collectTrades_carries config stream message message.result "" 0 _)
  rw [trades]
  dsimp only
  split
  · exact collected.trans (.publish _ rfl rfl)
  · exact collected

theorem publishBars_carries (message : Candlesticks) (symbol : String)
    (feeds : Feeds Store Queue) :
    feeds.Carries stream.streamId cached (publishBars config stream message symbol feeds) := by
  rw [publishBars]
  split
  · exact .refl feeds
  · exact .trans (.publish feeds rfl rfl) (.bars _ _)

theorem collectBars_carries (message : Candlesticks) (items : List CandlesticksItem)
    (symbol : String) (feeds : Feeds Store Queue) :
    feeds.Carries stream.streamId cached
      (collectBars config stream message items symbol feeds).2 := by
  induction items generalizing symbol feeds with
  | nil => exact .refl feeds
  | cons item later inductionHypothesis =>
    rw [collectBars]
    have published : feeds.Carries stream.streamId cached (if item.name ≠ symbol then
        (item.name, publishBars config stream message symbol feeds) else (symbol, feeds)).2 := by
      split
      · exact publishBars_carries config stream message symbol feeds
      · exact .refl feeds
    dsimp only
    split
    · exact published.trans (inductionHypothesis _ _)
    · exact (published.trans (.bars _ _)).trans (inductionHypothesis _ _)

theorem candlesticks_carries (message : Candlesticks) (feeds : Feeds Store Queue) :
    feeds.Carries stream.streamId cached (candlesticks config stream message feeds) :=
  ((Feeds.Carries.bars feeds []).trans
    (collectBars_carries config stream message message.result "" _)).trans
    (publishBars_carries config stream message _ _)

end Messages

section Updates

variable [LimitQueue String Queue] {config : Config} {stream : MarketData}

theorem updateCallback_carries {message : OrderBookUpdate} {callback : UpdateCallback}
    {feeds next : Feeds Store Queue}
    (handled : updateCallback config stream message callback feeds = .ok next) :
    feeds.Carries stream.streamId cached next := by
  cases callback with
  | publishUpdate bids asks =>
    cases handled
    exact .publish feeds rfl rfl
  | snapshot callback =>
    cases callback with
    | publishSnapshot bids asks lastSequence =>
      cases handled
      exact .publish feeds rfl rfl
    | requestSnapshot retries => exact requestSnapshot_carries handled

theorem orderBookUpdate_carries {message : OrderBookUpdate} {reaction : Reaction UpdateCallback}
    {feeds next : Feeds Store Queue}
    (handled : orderBookUpdate config stream message reaction feeds = .ok next) :
    feeds.Carries stream.streamId cached next := by
  obtain ⟨called, callbacks, handled⟩ := bind_ok.mp handled
  have carries : feeds.Carries stream.streamId cached called :=
    (Feeds.sequence_carries feeds _ _ _).trans
      (.makeCallbacks (fun _ _ _ called => updateCallback_carries called) callbacks)
  cases ending : reaction.ending with
  | returned =>
    rw [ending] at handled
    cases handled
    exact carries
  | badState =>
    rw [ending] at handled
    cases handled
    exact carries.trans (resubscribe_carries _ called)
  | exception =>
    rw [ending] at handled
    cases handled

end Updates

/-- A connection that is there keeps its number when its status changes. -/
theorem setConnectionStatus_carries {position : Nat} {stream : MarketData}
    {feeds : Feeds Store Queue} (there : feeds.marketData[position]? = some stream)
    (status : ConnectionStatus) :
    feeds.Carries stream.streamId cached (setConnectionStatus position status stream feeds) := by
  have kept : feeds.Carries stream.streamId cached { feeds with
      marketData := feeds.marketData.set position { stream with connectionStatus := status } } := by
    refine .of_eq rfl rfl rfl ?_
    rw [List.map_set]
    obtain ⟨inside, found⟩ := List.getElem?_eq_some_iff.mp there
    refine (congrArg (List.set _ position) ?_).trans (List.set_getElem_self
      (by rw [List.length_map]; exact inside))
    rw [List.getElem_map, found]
  exact kept.trans (.publish _ rfl rfl)

/-! ### Symbols -/

section Subscriptions

variable [LimitQueue String Queue] {carried : UInt16}

/-- Subscribing publishes nothing. -/
theorem subscribeAll_carries (config : Config) (context : Context) (stream : MarketData)
    (symbols : List String) (feeds : Feeds Store Queue) :
    feeds.Carries carried cached (subscribeAll config context stream symbols feeds) := by
  have books (channel : String) (frequency : Int) (depth : Nat) (feeds : Feeds Store Queue) :
      feeds.Carries carried cached
        (subscribeOrderBook context stream channel symbols frequency depth feeds) :=
    .foldl (fun current _ => .tell current rfl) symbols feeds
  have series (channel interval : String) (feeds : Feeds Store Queue) :
      feeds.Carries carried cached
        (subscribeCandlesticks context stream channel symbols interval feeds) :=
    .foldl (fun current symbol => (Feeds.Carries.tell current rfl).trans
      (.emplaceBack _ .candlesticks symbol)) symbols feeds
  unfold subscribeAll
  split
  · exact .refl feeds
  · have listed : feeds.Carries carried cached
        (subscribeSymbols context stream "futures.book_ticker" symbols
          (subscribeSymbols context stream "futures.trades" symbols
            (subscribeSymbols context stream "futures.tickers" symbols feeds))) :=
      ((Feeds.Carries.tell feeds rfl).trans (.tell _ rfl)).trans (.tell _ rfl)
    have booked := listed.trans (books "futures.order_book_update"
      (toMilliseconds config.settings.orderBookFreq) config.settings.orderBookDepth _)
    dsimp only
    split
    · exact booked.trans (series "futures.candlesticks" "1m" _)
    · exact booked

variable [Symbols String Store]

theorem subscribe_carries (config : Config) (context : Context) (startFrom : Nat)
    (stream : MarketData) (feeds : Feeds Store Queue) :
    feeds.Carries carried cached (subscribe config context startFrom stream feeds) := by
  unfold subscribe
  split
  · exact subscribeAll_carries config context stream _ feeds
  · exact .refl feeds

theorem socketReady_carries (config : Config) (context : Context) {position : Nat}
    {stream : MarketData} {feeds : Feeds Store Queue}
    (there : feeds.marketData[position]? = some stream) :
    feeds.Carries stream.streamId cached (socketReady config context position stream feeds) :=
  (setConnectionStatus_carries there .ready).trans (subscribe_carries config context 0 _ _)

theorem handle_carries {config : Config} {context : Context} {position : Nat}
    {stream : MarketData} {event : StreamEvent} {feeds next : Feeds Store Queue}
    (there : feeds.marketData[position]? = some stream)
    (handled : handle config context position stream feeds event = .ok next) :
    feeds.Carries stream.streamId cached next := by
  cases event with
  | disconnected =>
    cases handled
    exact setConnectionStatus_carries there .disconnected
  | ready =>
    cases handled
    exact socketReady_carries config context there
  | binary => cases handled
  | tickers message =>
    cases handled
    exact tickers_carries config stream message feeds
  | trades message =>
    cases handled
    exact trades_carries config stream message feeds
  | bookTicker message =>
    cases handled
    exact .publish feeds rfl rfl
  | orderBookUpdate message reaction => exact orderBookUpdate_carries handled
  | candlesticks message =>
    cases handled
    exact candlesticks_carries config stream message feeds

end Subscriptions

end MarketData

section Symbols

variable {carried : UInt16}

/-- A new connection has the next number. -/
theorem createMarketData_carries (feeds : Feeds Store Queue) :
    feeds.Carries carried cached (createMarketData feeds) := by
  have created : feeds.Carries carried cached { feeds with
      streamId := feeds.streamId + 1
      marketData := feeds.marketData ++
        [⟨feeds.streamId + 1, feeds.marketData.length, .undefined⟩] } :=
    ⟨⟨[], (List.append_nil _).symm, List.forall_mem_nil _, fun _ => rfl⟩,
      ⟨1, rfl, List.map_append⟩⟩
  exact created.trans (.tell _ rfl)

variable [Symbols String Store] [LimitQueue String Queue]

theorem symbolsUpdate_carries (config : Config) (context : Context) (symbols : List String)
    (feeds : Feeds Store Queue) :
    feeds.Carries carried cached (symbolsUpdate config context symbols feeds) := by
  have told : feeds.Carries carried cached { feeds.emit (.symbolsUpdate symbols) with
      shared.symbols := (Symbols.append feeds.shared.symbols symbols).1 } :=
    (Feeds.Carries.tell feeds rfl).trans (.of_eq rfl rfl rfl rfl)
  exact (told.trans (.foldl (fun current _ => createMarketData_carries current) _ _)).trans
    (.foldl (fun feeds stream => MarketData.subscribe_carries config context _ stream feeds) _ _)

theorem subscribe_carries (config : Config) (context : Context) (symbols : List String)
    (feeds : Feeds Store Queue) :
    feeds.Carries carried cached (subscribe config context symbols feeds) := by
  rw [subscribe_eq]
  refine .trans ?_ (symbolsUpdate_carries config context _ _)
  exact .of_eq rfl rfl rfl rfl

end Symbols

/-! ### The REST connection -/

namespace Rest

section Messages

variable {config : Config} {feeds next : Feeds Store Queue}

theorem setConnectionStatus_carries (status : ConnectionStatus) :
    feeds.Carries config.restStreamId cached (setConnectionStatus config status feeds) := by
  have changed : feeds.Carries config.restStreamId cached
      { feeds with rest.connectionStatus := status } := .of_eq rfl rfl rfl rfl
  exact changed.trans (.publish _ rfl rfl)

theorem download_carries (state : Rest.State) (sequence : UInt32) :
    feeds.Carries config.restStreamId cached (download config state sequence feeds).1 := by
  cases state with
  | undefined => exact .refl feeds
  | currencies =>
    rw [download]
    split
    · exact .refl feeds
    · exact .tell feeds rfl
  | contracts => exact .tell feeds rfl
  | done => exact setConnectionStatus_carries .ready

theorem emplaceSymbol_carries {carried : UInt16} (failure : Option ContractsFailure)
    (position : Nat) (symbol : String) (discard : Bool) :
    feeds.Carries carried cached (emplaceSymbol failure position symbol discard feeds).1 := by
  unfold emplaceSymbol
  split
  · exact .refl feeds
  · split
    · exact .refl feeds
    · split
      · exact .refl feeds
      · split <;> exact .recordSymbol feeds symbol

theorem contractsItem_carries {context : Context} {failure : Option ContractsFailure}
    {position : Nat} {item : ContractsAckItem} {outcome : ItemOutcome}
    (caches : cached → ∀ position, failure ≠ some ⟨position, .cacheSettleCoin⟩)
    (handled : contractsItem config context failure position item feeds = .ok (next, outcome)) :
    feeds.Carries config.restStreamId cached next := by
  rw [contractsItem] at handled
  split at handled
  · cases handled
    exact .refl _
  dsimp only at handled
  split at handled
  · cases handled
  next currencies split =>
    split at handled
    · cases handled
      exact .refl _
    split at handled
    next cut =>
      cases handled
      exact .uncached feeds rfl fun holds => caches holds position cut
    next =>
      obtain ⟨rfl, rfl⟩ := Prod.mk.inj (Except.ok.inj handled)
      exact .trans (.reference feeds rfl) (emplaceSymbol_carries failure position item.name _)

theorem collectContracts_carries {context : Context} {failure : Option ContractsFailure}
    {items : List ContractsAckItem} {position : Nat} {symbols collected : List String}
    {outcome : Outcome}
    (caches : cached → ∀ position, failure ≠ some ⟨position, .cacheSettleCoin⟩)
    (handled : collectContracts config context failure items position symbols feeds =
      .ok (next, collected, outcome)) : feeds.Carries config.restStreamId cached next := by
  induction items generalizing position symbols feeds with
  | nil =>
    cases handled
    exact .refl _
  | cons item later inductionHypothesis =>
    obtain ⟨⟨middle, left⟩, itemHandled, handled⟩ := bind_ok.mp handled
    have first : feeds.Carries config.restStreamId cached middle :=
      contractsItem_carries caches itemHandled
    cases left with
    | skipped | included => exact first.trans (inductionHypothesis handled)
    | raised =>
      cases handled
      exact first

theorem contractsAck_carries {context : Context}
    {handler : List String → Feeds Store Queue → Feeds Store Queue}
    (handles : ∀ symbols feeds,
      Feeds.Carries config.restStreamId cached feeds (handler symbols feeds))
    {message : ContractsAck} {failure : Option ContractsFailure} {outcome : Outcome}
    (caches : cached → ∀ position, failure ≠ some ⟨position, .cacheSettleCoin⟩)
    (handled : contractsAck config context handler message failure feeds = .ok (next, outcome)) :
    feeds.Carries config.restStreamId cached next := by
  obtain ⟨⟨collected, symbols, collecting⟩, looped, handled⟩ := bind_ok.mp handled
  have carries : feeds.Carries config.restStreamId cached collected :=
    collectContracts_carries caches looped
  cases collecting with
  | returned =>
    obtain ⟨rfl, rfl⟩ := Prod.mk.inj (Except.ok.inj handled)
    split
    · exact carries.trans (handles symbols collected)
    · exact carries
  | raised =>
    cases handled
    exact carries

theorem candlesticksAck_carries (symbol : String) (raises : Bool) (message : CandlesticksAck) :
    feeds.Carries config.restStreamId cached
      (candlesticksAck config symbol raises message feeds).1 := by
  have told : feeds.Carries config.restStreamId cached
      (feeds.emit (.delivered .candlesticks symbol)) := .tell feeds rfl
  have filled := (told.trans (.bars _ [])).trans (.bars _ ([] ++ message.data.map createBar))
  rw [candlesticksAck]
  split
  · exact filled
  · exact (filled.trans (.publish _ rfl rfl)).trans (.bars _ [])

end Messages

section Requests

variable [LimitQueue String Queue] {config : Config} {feeds next : Feeds Store Queue}

theorem snapshotCallback_carries {symbol : String} {message : OrderBookAck}
    {callback : SnapshotCallback}
    (handled : snapshotCallback config symbol message callback feeds = .ok next) :
    feeds.Carries config.restStreamId cached next := by
  cases callback with
  | publishSnapshot bids asks lastSequence =>
    cases handled
    exact .publish feeds rfl rfl
  | requestSnapshot retries => exact requestSnapshot_carries handled

theorem orderBookAck_carries {symbol : String} {reaction : Reaction SnapshotCallback}
    {message : OrderBookAck} {outcome : Outcome}
    (handled : orderBookAck config symbol reaction message feeds = .ok (next, outcome)) :
    feeds.Carries config.restStreamId cached next := by
  obtain ⟨called, callbacks, handled⟩ := bind_ok.mp handled
  have told : feeds.Carries config.restStreamId cached
      (feeds.emit (.delivered .orderBook symbol)) := .tell feeds rfl
  have carries : feeds.Carries config.restStreamId cached called :=
    (told.trans (Feeds.sequence_carries _ _ _ _)).trans
      (.makeCallbacks (fun _ _ _ called => snapshotCallback_carries called) callbacks)
  cases ending : reaction.ending with
  | returned =>
    rw [ending] at handled
    cases handled
    exact carries
  | badState =>
    rw [ending] at handled
    cases handled
    exact carries.trans (resubscribe_carries symbol called)
  | exception =>
    rw [ending] at handled
    cases handled
    exact carries

/-- Snapshots are requested without publishing anything. -/
theorem timer_carries [LawfulLimitQueue String Queue] (refresh : Bool)
    (allowance : SnapshotKind → Nat) :
    feeds.Carries config.restStreamId cached (timer config refresh allowance feeds) := by
  have depth (feeds : Feeds Store Queue) (allowance : Nat) :
      feeds.Carries config.restStreamId cached (dispatchDepth config allowance feeds) := by
    obtain ⟨handed, -, handled⟩ := LawfulLimitQueue.dispatch_hands allowance
      (getOrderBook config) feeds.shared.depthRequestQueue feeds
    rw [dispatchDepth]
    dsimp only
    rw [handled]
    have requested : feeds.Carries config.restStreamId cached
        (handed.foldl (fun current symbol => getOrderBook config symbol current) feeds) :=
      .foldl (fun feeds _ => .tell feeds rfl) handed feeds
    exact requested.trans (.of_eq rfl rfl rfl rfl)
  have series (feeds : Feeds Store Queue) (allowance : Nat) :
      feeds.Carries config.restStreamId cached (dispatchTimeSeries config allowance feeds) := by
    obtain ⟨handed, -, handled⟩ := LawfulLimitQueue.dispatch_hands allowance
      (getCandlesticks config) feeds.shared.timeSeriesRequestQueue feeds
    rw [dispatchTimeSeries]
    dsimp only
    rw [handled]
    have requested : feeds.Carries config.restStreamId cached
        (handed.foldl (fun current symbol => getCandlesticks config symbol current) feeds) :=
      .foldl (fun feeds _ => .tell feeds rfl) handed feeds
    exact requested.trans (.of_eq rfl rfl rfl rfl)
  rw [timer]
  split
  · exact (depth feeds _).trans (series _ _)
  · exact .refl feeds

end Requests

end Rest

/-! ### Steps -/

/-- No call of an event that caches a settlement coin fails. -/
def Event.Caches : Event → Prop
  | .contractsReply _ _ failure => ∀ position, failure ≠ some ⟨position, .cacheSettleCoin⟩
  | _ => True

namespace Controller

variable {Driver : Type} [Download2 Rest.State Driver] [LawfulCallbacks Rest.State Driver]
  {config : Config} {controller next : Controller Driver Store Queue}

/-- A call of the download's callback carries the number of the REST connection. -/
theorem callback_carries (first : Feeds Store Queue) (state : Rest.State) (sequence : UInt32)
    (feeds : Feeds Store Queue) (before : first.Carries config.restStreamId cached feeds) :
    first.Carries config.restStreamId cached (Rest.download config state sequence feeds).1 :=
  before.trans (Rest.download_carries state sequence)

theorem begin_carries (controller : Controller Driver Store Queue) :
    controller.feeds.Carries config.restStreamId cached (controller.begin config).feeds :=
  LawfulCallbacks.begin_keeps _ _ (callback_carries controller.feeds) _ _ (.refl _)

theorem bump_carries (controller : Controller Driver Store Queue) :
    controller.feeds.Carries config.restStreamId cached (controller.bump config).feeds :=
  LawfulCallbacks.bump_keeps _ _ (callback_carries controller.feeds) _ _ (.refl _)

theorem retry_carries (controller : Controller Driver Store Queue) (state : Rest.State) :
    controller.feeds.Carries config.restStreamId cached (controller.retry config state).feeds :=
  LawfulCallbacks.retry_keeps _ _ (callback_carries controller.feeds) _ _ _ (.refl _)

theorem check_carries (controller : Controller Driver Store Queue) (state : Rest.State) :
    controller.feeds.Carries config.restStreamId cached (controller.check config state).feeds :=
  LawfulCallbacks.check_keeps _ _ (callback_carries controller.feeds) _ _ _ (.refl _)

theorem restConnected_carries :
    controller.feeds.Carries config.restStreamId cached
      (controller.restConnected config).feeds := by
  rw [restConnected]
  split
  · exact bump_carries controller
  · exact (Rest.setConnectionStatus_carries .downloading).trans
      (begin_carries (controller.mapFeeds (Rest.setConnectionStatus config .downloading)))

omit [LawfulCallbacks Rest.State Driver] in
theorem restDisconnected_carries :
    controller.feeds.Carries config.restStreamId cached
      (controller.restDisconnected config).feeds := by
  rw [restDisconnected]
  split <;> exact Rest.setConnectionStatus_carries .disconnected

/-- A reply to a download carries the number of the REST connection if its handlers do. -/
theorem reply_carries {Body : Type} {response : RestResponse Body} {state : Rest.State}
    {successHandler : Option Body → Controller Driver Store Queue →
      Except Fatal (Controller Driver Store Queue × Outcome)}
    (handles : ∀ body middle outcome, successHandler body controller = .ok (middle, outcome) →
      controller.feeds.Carries config.restStreamId cached middle.feeds)
    (processed : processResponse response (retry config state) successHandler controller =
      .ok next) : controller.feeds.Carries config.restStreamId cached next.feeds := by
  rcases processResponse_cases processed with ⟨outcome, middle, acknowledged, rfl⟩ | ⟨-, rfl⟩
  · have carries := handles _ middle outcome acknowledged
    split
    · exact carries.trans (retry_carries middle state)
    · exact carries
  · exact retry_carries controller state

theorem getCurrenciesAck_carries {sequence : UInt32} {response : RestResponse Unit}
    (handled : controller.getCurrenciesAck config sequence response = .ok next) :
    controller.feeds.Carries config.restStreamId cached next.feeds := by
  refine reply_carries (fun body middle outcome acknowledged => ?_) handled
  split at acknowledged
  · cases acknowledged
    exact .refl _
  · cases body with
    | none =>
      cases acknowledged
      exact .refl _
    | some body =>
      cases acknowledged
      exact check_carries controller .currencies

variable [Symbols String Store] [LimitQueue String Queue]

theorem getContractsAck_carries {context : Context} {sequence : UInt32}
    {response : RestResponse ContractsAck} {failure : Option Rest.ContractsFailure}
    (caches : cached → ∀ position, failure ≠ some ⟨position, .cacheSettleCoin⟩)
    (handled : controller.getContractsAck config context sequence response failure = .ok next) :
    controller.feeds.Carries config.restStreamId cached next.feeds := by
  refine reply_carries (fun body middle outcome acknowledged => ?_) handled
  split at acknowledged
  · cases acknowledged
    exact .refl _
  · cases body with
    | none =>
      cases acknowledged
      exact .refl _
    | some message =>
      obtain ⟨⟨feeds, handling⟩, processed, acknowledged⟩ := bind_ok.mp acknowledged
      have carries : controller.feeds.Carries config.restStreamId cached feeds :=
        Rest.contractsAck_carries
          (fun symbols feeds => symbolsUpdate_carries config context symbols feeds) caches processed
      cases handling with
      | returned =>
        obtain ⟨rfl, rfl⟩ := Prod.mk.inj (Except.ok.inj acknowledged)
        exact carries.trans (check_carries { controller with feeds } .contracts)
      | raised =>
        cases acknowledged
        exact carries

/-- The number of the connection that handles an event. A request of a client has none. -/
def handler (config : Config) (controller : Controller Driver Store Queue) :
    Event → Option UInt16
  | .subscribe _ => none
  | .stream position _ => controller.feeds.marketData[position]?.map MarketData.streamId
  | .timer .. | .restConnected | .restDisconnected | .currenciesReply .. | .contractsReply ..
  | .orderBookReply .. | .candlesticksReply .. => some config.restStreamId

variable [LawfulLimitQueue String Queue]

/-- An event without a connection publishes nothing, and any other publishes under the number of
its connection. -/
theorem handle_carries {context : Context} {event : Event} (caches : cached → event.Caches)
    (handled : controller.handle config context event = .ok next) :
    (∀ carried, controller.handler config event = some carried →
      controller.feeds.Carries carried cached next.feeds) ∧
    (controller.handler config event = none → ∀ carried,
      controller.feeds.Carries carried cached next.feeds) := by
  have rest (known : controller.handler config event = some config.restStreamId)
      (carries : controller.feeds.Carries config.restStreamId cached next.feeds) :
      (∀ carried, controller.handler config event = some carried →
        controller.feeds.Carries carried cached next.feeds) ∧
      (controller.handler config event = none → ∀ carried,
        controller.feeds.Carries carried cached next.feeds) := by
    refine ⟨fun carried same => ?_, fun missing => ?_⟩
    · rw [← Option.some.inj (known.symm.trans same)]
      exact carries
    · rw [known] at missing
      cases missing
  cases event with
  | timer refresh allowance =>
    cases handled
    exact rest rfl (Rest.timer_carries refresh allowance)
  | subscribe symbols =>
    cases handled
    refine ⟨fun carried impossible => ?_, fun _ carried => ?_⟩
    · cases impossible
    · exact Market.subscribe_carries config context symbols controller.feeds
  | restConnected =>
    cases handled
    exact rest rfl restConnected_carries
  | restDisconnected =>
    cases handled
    exact rest rfl restDisconnected_carries
  | currenciesReply sequence response => exact rest rfl (getCurrenciesAck_carries handled)
  | contractsReply sequence response failure =>
    exact rest rfl (getContractsAck_carries caches handled)
  | orderBookReply symbol response reaction =>
    obtain ⟨feeds, acknowledged, finished⟩ := bind_ok.mp handled
    cases finished
    refine rest rfl ?_
    rcases processResponse_cases acknowledged with ⟨outcome, middle, decoded, rfl⟩ | ⟨-, rfl⟩
    · rw [ite_self]
      split at decoded
      · exact Rest.orderBookAck_carries decoded
      · cases decoded
        exact .refl _
    · exact .refl _
  | candlesticksReply symbol response raises =>
    obtain ⟨feeds, acknowledged, finished⟩ := bind_ok.mp handled
    cases finished
    refine rest rfl ?_
    rcases processResponse_cases acknowledged with ⟨outcome, middle, decoded, rfl⟩ | ⟨-, rfl⟩
    · rw [ite_self]
      split at decoded
      next message _ =>
        rw [← show (Rest.candlesticksAck config symbol raises message controller.feeds).1 = middle
          from congrArg Prod.fst (Except.ok.inj decoded)]
        exact Rest.candlesticksAck_carries symbol raises message
      next =>
        cases decoded
        exact .refl _
    · exact .refl _
  | stream position event =>
    rw [handle] at handled
    split at handled
    next stream there =>
      obtain ⟨feeds, streamed, finished⟩ := bind_ok.mp handled
      cases finished
      have known : controller.handler config (.stream position event) = some stream.streamId := by
        rw [handler, there]
        rfl
      refine ⟨fun carried same => ?_, fun missing => ?_⟩
      · rw [← Option.some.inj (known.symm.trans same)]
        exact MarketData.handle_carries there streamed
      · rw [known] at missing
        cases missing
    next absent =>
      cases handled
      refine ⟨fun carried same => ?_, fun _ carried => .refl _⟩
      exact .refl _

omit [LawfulLimitQueue String Queue] [Download2 Rest.State Driver]
  [LawfulCallbacks Rest.State Driver] [Symbols String Store] [LimitQueue String Queue] in
/-- A connection that is there keeps its number. -/
theorem handler_carry {carried streamId : UInt16} {event : Event}
    (carries : controller.feeds.Carries carried cached next.feeds)
    (handles : controller.handler config event = some streamId) :
    next.handler config event = some streamId := by
  cases event with
  | stream position event =>
    obtain ⟨count, -, added⟩ := carries.created
    have there : (controller.feeds.marketData.map MarketData.streamId)[position]? =
        some streamId := by
      rw [List.getElem?_map]
      exact handles
    rw [handler, ← List.getElem?_map, added,
      List.getElem?_append_left (List.getElem?_eq_some_iff.mp there).1]
    exact there
  | subscribe symbols => cases handles
  | _ => exact handles

/-- What a step publishes carries the number of the connection whose event it is. -/
theorem step_attributes {input : Input} {output : List Output}
    (taken : controller.step config input = .ok (next, output)) :
    ∀ update ∈ output, ∀ streamId ∈ update.streamId?,
      controller.handler config input.event = some streamId := by
  obtain ⟨handled, rfl⟩ := step_ok taken
  intro update member streamId carries
  obtain ⟨known, unknown⟩ := handle_carries False.elim handled
  have same : controller.clearOutbox.handler config input.event =
      controller.handler config input.event := by
    cases input.event <;> rfl
  rw [← same]
  cases handling : controller.clearOutbox.handler config input.event with
  | some carried =>
    obtain ⟨outputs, grown, carried, -⟩ := (known carried handling).outbox
    rw [show next.feeds.outbox = outputs from grown] at member
    rw [carried update member streamId carries]
  | none =>
    -- It would carry every number.
    have every (carried : UInt16) : streamId = carried := by
      obtain ⟨outputs, grown, carried, -⟩ := (unknown handling carried).outbox
      rw [show next.feeds.outbox = outputs from grown] at member
      exact carried update member streamId carries
    exact absurd ((every 0).symm.trans (every 1)) (by decide)

end Controller

/-! ### Runs -/

/-- The connections are numbered in the order they were created. -/
structure Feeds.Identified (config : Config) (feeds : Feeds Store Queue) : Prop where
  marketData : feeds.marketData.map MarketData.streamId =
    following config.streamIdSeed feeds.marketData.length
  streamId : feeds.streamId = config.streamIdSeed + UInt16.ofNat feeds.marketData.length

theorem Feeds.Identified.carry {config : Config} {carried : UInt16}
    {first second : Feeds Store Queue} (identified : first.Identified config)
    (carries : first.Carries carried cached second) : second.Identified config := by
  obtain ⟨count, counted, added⟩ := carries.created
  have length : second.marketData.length = first.marketData.length + count := by
    have both := congrArg List.length added
    rw [List.length_map, List.length_append, List.length_map, following_length] at both
    exact both
  refine ⟨?_, ?_⟩
  · rw [added, identified.marketData, identified.streamId, length, following_add]
  · rw [counted, identified.streamId, length, UInt16.ofNat_add, UInt16.add_assoc]

section Runs

variable {Driver : Type} [Download2 Rest.State Driver] [LawfulCallbacks Rest.State Driver]
  [Symbols String Store] [LimitQueue String Queue] [LawfulLimitQueue String Queue]
  {config : Config} {allowed : Environment (Controller Driver Store Queue) Input (List Output)}
  {history : MarketHistory Driver Store Queue} {controller : Controller Driver Store Queue}

/-- In every run the connections are numbered in the order they were created. -/
theorem run_identified (run : (market config).Run allowed history controller) :
    controller.feeds.Identified config := by
  refine run.invariant (fun _ controller => controller.feeds.Identified config) ?_ ?_
  · exact ⟨rfl, (UInt16.add_zero _).symm⟩
  intro history controller input next output identified _ taken
  obtain ⟨handled, -⟩ := Controller.step_ok taken
  obtain ⟨known, unknown⟩ := Controller.handle_carries False.elim handled
  have clean : controller.clearOutbox.feeds.Identified config :=
    ⟨identified.marketData, identified.streamId⟩
  cases handling : controller.clearOutbox.handler config input.event with
  | some carried => exact clean.carry (known carried handling)
  | none => exact clean.carry (unknown handling 0)

/-- In every run, every update carries the number of the connection whose event it came from. -/
theorem run_attributes (run : (market config).Run allowed history controller) :
    ∀ entry ∈ history, ∀ update ∈ entry.output, ∀ streamId ∈ update.streamId?,
      controller.handler config entry.input.event = some streamId := by
  refine run.invariant (fun history controller => ∀ entry ∈ history, ∀ update ∈ entry.output,
    ∀ streamId ∈ update.streamId?,
      controller.handler config entry.input.event = some streamId) (List.forall_mem_nil _) ?_
  intro history controller input next output before _ taken
  obtain ⟨handled, -⟩ := Controller.step_ok taken
  obtain ⟨known, unknown⟩ := Controller.handle_carries False.elim handled
  have kept {event : Event} {streamId : UInt16}
      (handles : controller.handler config event = some streamId) :
      next.handler config event = some streamId := by
    have same : controller.clearOutbox.handler config event = some streamId := by
      rw [← handles]
      cases event <;> rfl
    cases handling : controller.clearOutbox.handler config input.event with
    | some carried => exact Controller.handler_carry (known carried handling) same
    | none => exact Controller.handler_carry (unknown handling 0) same
  rw [List.forall_mem_cons]
  refine ⟨fun update member streamId carries => ?_, fun entry earlier update member streamId
    carries => kept (before entry earlier update member streamId carries)⟩
  exact kept (Controller.step_attributes taken update member streamId carries)

/-- The last reference data of a symbol that was published. -/
def lastPublished (symbol : String) (history : MarketHistory Driver Store Queue) :
    Option ReferenceData :=
  history.findSome? fun entry => lastReference symbol entry.output

/-- In every run in which no call that caches a coin fails, the coin of a symbol is cached that was
published last. -/
theorem run_caches (run : (market config).Run allowed history controller)
    (caches : ∀ entry ∈ history, entry.input.event.Caches) (symbol : String) :
    controller.feeds.shared.symbol2SettleCoin symbol =
      (lastPublished symbol history).map ReferenceData.settlementCurrency := by
  refine run.invariant (fun history controller => (∀ entry ∈ history, entry.input.event.Caches) →
    controller.feeds.shared.symbol2SettleCoin symbol =
      (lastPublished symbol history).map ReferenceData.settlementCurrency) (fun _ => rfl) ?_ caches
  intro history controller input next output before _ taken caches
  obtain ⟨now, earlier⟩ := List.forall_mem_cons.mp caches
  obtain ⟨handled, rfl⟩ := Controller.step_ok taken
  obtain ⟨known, unknown⟩ := Controller.handle_carries (fun _ : True => now) handled
  obtain ⟨carried, carries⟩ : ∃ carried,
      controller.clearOutbox.feeds.Carries carried True next.feeds := by
    cases handling : controller.clearOutbox.handler config input.event with
    | some carried => exact ⟨carried, known carried handling⟩
    | none => exact ⟨0, unknown handling 0⟩
  obtain ⟨outputs, grown, -, coins⟩ := carries.outbox
  have same : next.feeds.outbox = outputs := grown
  rw [coins trivial, foldl_cacheOutput, lastPublished, List.findSome?_cons, same]
  cases lastReference symbol outputs with
  | some data => rfl
  | none => exact before earlier

end Runs

end GateFutures.Market
