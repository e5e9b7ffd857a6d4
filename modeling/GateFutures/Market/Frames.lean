/-
This file says what the market data connections send when they subscribe, and what the controller
does when it is given new symbols.

A connection that subscribes sends, on each channel, frames that name every symbol of its slice
once. Nothing but frames and requests for candlesticks leaves it.
-/

import GateFutures.Market.Queues

namespace GateFutures.Market

open Framework Library Protocol Roq

variable {Store Queue : Type}

/-! ### What is handed over and sent -/

/-- The given symbols were handed to the controller, and the connections sent frames that
subscribe to the given symbols, by position and channel. -/
def Feeds.Tells (handed : List String) (sent : Nat → String → List String)
    (before after : Feeds Store Queue) : Prop :=
  ∃ outputs, after.outbox = before.outbox ++ outputs ∧
    outputs.flatMap Output.handed = handed ∧
    ∀ index channel, outputs.flatMap (Output.subscribed index channel) = sent index channel

/-- Nothing is sent. -/
abbrev nothing : Nat → String → List String := fun _ _ => []

namespace Feeds.Tells

variable {first second third : Feeds Store Queue} {handed handed' : List String}
  {sent sent' : Nat → String → List String}

theorem trans (earlier : first.Tells handed sent second)
    (later : second.Tells handed' sent' third) :
    first.Tells (handed ++ handed') (fun index channel => sent index channel ++ sent' index channel)
      third := by
  obtain ⟨outputs, grown, told, frames⟩ := earlier
  obtain ⟨outputs', grown', told', frames'⟩ := later
  refine ⟨outputs ++ outputs', by rw [grown', grown, List.append_assoc], ?_, ?_⟩
  · rw [List.flatMap_append, told, told']
  · intro index channel
    rw [List.flatMap_append, frames, frames']

/-- What serves the queues hands over nothing and sends nothing. -/
theorem of_service (outputs : List Output) (grown : second.outbox = first.outbox ++ outputs)
    (service : ∀ output ∈ outputs, output.isService) : first.Tells [] nothing second := by
  refine ⟨outputs, grown, ?_, fun index channel => ?_⟩
  · exact List.flatMap_eq_nil_iff.mpr fun output member =>
      Output.isService_handed (service output member)
  · exact List.flatMap_eq_nil_iff.mpr fun output member =>
      Output.isService_subscribed (service output member) index channel

theorem of_records {recorded : List String} (records : first.Records recorded second) :
    first.Tells [] nothing second := by
  obtain ⟨outputs, grown, service⟩ := records.outbox
  exact of_service outputs grown service

/-- The same frames, described in another way. -/
theorem congr (tells : first.Tells handed sent second)
    (same : ∀ index channel, sent index channel = sent' index channel) :
    first.Tells handed sent' second := by
  have equal : sent = sent' := by
    funext index channel
    exact same index channel
  rw [← equal]
  exact tells

end Feeds.Tells

/-- The connections sent frames, and nothing else changed: neither the symbols nor the
connections, and nothing was handed to the controller. -/
structure Feeds.Sends (sent : Nat → String → List String) (before after : Feeds Store Queue) :
    Prop where
  tells : before.Tells [] sent after
  symbols : after.shared.symbols = before.shared.symbols
  allSymbols : after.shared.allSymbols = before.shared.allSymbols
  marketData : after.marketData = before.marketData

namespace Feeds.Sends

variable {first second third : Feeds Store Queue} {sent sent' : Nat → String → List String}

theorem trans (earlier : first.Sends sent second) (later : second.Sends sent' third) :
    first.Sends (fun index channel => sent index channel ++ sent' index channel) third :=
  ⟨earlier.tells.trans later.tells, later.symbols.trans earlier.symbols,
    later.allSymbols.trans earlier.allSymbols, later.marketData.trans earlier.marketData⟩

theorem of_records (records : first.Records [] second) : first.Sends nothing second :=
  ⟨.of_records records, records.symbols, records.allSymbols.trans (List.append_nil _),
    records.marketData⟩

theorem refl (feeds : Feeds Store Queue) : feeds.Sends nothing feeds :=
  of_records (.refl feeds)

theorem congr (sends : first.Sends sent second)
    (same : ∀ index channel, sent index channel = sent' index channel) :
    first.Sends sent' second :=
  { sends with tells := sends.tells.congr same }

/-- One frame is sent. -/
theorem emit (feeds : Feeds Store Queue) (index : Nat) (frame : SubscribeFrame) :
    feeds.Sends (fun other channel => (Output.sendText index frame).subscribed other channel)
      (feeds.emit (.sendText index frame)) := by
  refine ⟨⟨[.sendText index frame], rfl, rfl, ?_⟩, rfl, rfl, rfl⟩
  intro other channel
  rw [List.flatMap_cons, List.flatMap_nil, List.append_nil]

/-- A loop sends what its body sends, item by item. -/
theorem foldl {Item : Type} {body : Feeds Store Queue → Item → Feeds Store Queue}
    {each : Item → Nat → String → List String} {items : List Item}
    {feeds : Feeds Store Queue}
    (sends : ∀ current : Feeds Store Queue, current.shared.symbols = feeds.shared.symbols →
      ∀ item ∈ items, current.Sends (each item) (body current item)) :
    feeds.Sends (fun index channel => items.flatMap fun item => each item index channel)
      (items.foldl body feeds) := by
  induction items generalizing feeds with
  | nil => exact refl feeds
  | cons item later inductionHypothesis =>
    have head := sends feeds rfl item List.mem_cons_self
    have rest : ∀ current : Feeds Store Queue,
        current.shared.symbols = (body feeds item).shared.symbols →
        ∀ other ∈ later, current.Sends (each other) (body current other) :=
      fun current same other member =>
        sends current (same.trans head.symbols) other (List.mem_cons_of_mem item member)
    exact (head.trans (inductionHypothesis rest)).congr fun index channel => by
      rw [List.flatMap_cons]

end Feeds.Sends

/-! ### Subscriptions -/

/-- The channels a market data connection subscribes to. -/
def channels (config : Config) : List String :=
  ["futures.tickers", "futures.trades", "futures.book_ticker", "futures.order_book_update"] ++
    if config.settings.timeSeriesLookback ≠ 0 then ["futures.candlesticks"] else []

/-- The symbols are subscribed to on the given channels of one connection, and nothing else is. -/
def subscribedOn (position : Nat) (subscribed : List String) (symbols : List String) (index : Nat)
    (channel : String) : List String :=
  if position = index ∧ channel ∈ subscribed then symbols else []

theorem subscribedOn_singleton (position : Nat) (channel : String) (symbols : List String)
    (index : Nat) (other : String) :
    subscribedOn position [channel] symbols index other =
      if position = index ∧ channel = other then symbols else [] := by
  rw [subscribedOn]
  simp only [List.mem_singleton, eq_comm (a := other)]

/-- Frames on one more channel. -/
theorem subscribedOn_append (position : Nat) (first second : List String) (symbols : List String)
    (index : Nat) (channel : String) (apart : ∀ shared ∈ first, shared ∉ second) :
    subscribedOn position first symbols index channel ++
        subscribedOn position second symbols index channel =
      subscribedOn position (first ++ second) symbols index channel := by
  unfold subscribedOn
  by_cases here : position = index
  · by_cases early : channel ∈ first
    · have late : channel ∉ second := apart channel early
      rw [if_pos ⟨here, early⟩, if_neg fun both => late both.2, List.append_nil,
        if_pos ⟨here, List.mem_append_left second early⟩]
    · rw [if_neg fun both => early both.2, List.nil_append]
      simp only [List.mem_append, early, false_or]
  · simp only [here, false_and, if_false, List.append_nil]

/-- One frame for each symbol subscribes to the symbols. -/
theorem flatMap_subscribed (position : Nat) (channel : String) (frame : String → SubscribeFrame)
    (onChannel : ∀ symbol, (frame symbol).channel = channel)
    (subscribes : ∀ symbol, (frame symbol).event = "subscribe")
    (names : ∀ symbol, (frame symbol).payload.names = [symbol]) (symbols : List String)
    (index : Nat) (other : String) :
    (symbols.flatMap fun symbol => (Output.sendText position (frame symbol)).subscribed index
      other) = subscribedOn position [channel] symbols index other := by
  rw [subscribedOn_singleton]
  simp only [Output.subscribed, onChannel, subscribes, names, and_true]
  split
  · exact List.flatMap_singleton' symbols
  · exact List.flatMap_eq_nil_iff.mpr fun _ _ => rfl

namespace MarketData

variable (context : Context) (stream : MarketData) (channel : String) (symbols : List String)
  (feeds : Feeds Store Queue)

theorem subscribeSymbols_sends :
    feeds.Sends (subscribedOn stream.index [channel] symbols)
      (subscribeSymbols context stream channel symbols feeds) := by
  refine (Feeds.Sends.emit feeds stream.index _).congr fun index other => ?_
  rw [subscribedOn_singleton, Output.subscribed]
  simp only [and_true]
  rfl

theorem subscribeOrderBook_sends (frequency : Int) (depth : Nat) :
    feeds.Sends (subscribedOn stream.index [channel] symbols)
      (subscribeOrderBook context stream channel symbols frequency depth feeds) :=
  (Feeds.Sends.foldl fun current _ _ _ => .emit current stream.index _).congr
    (flatMap_subscribed stream.index channel _ (fun _ => rfl) (fun _ => rfl) (fun _ => rfl)
      symbols)

variable [LimitQueue String Queue] [LawfulLimitQueue String Queue]

theorem subscribeCandlesticks_sends (interval : String) :
    feeds.Sends (subscribedOn stream.index [channel] symbols)
      (subscribeCandlesticks context stream channel symbols interval feeds) := by
  have each (frame : SubscribeFrame) (symbol : String) (current : Feeds Store Queue) :
      current.Sends (fun index other => (Output.sendText stream.index frame).subscribed index other)
        ((current.emit (.sendText stream.index frame)).emplaceBack .candlesticks symbol) :=
    ((Feeds.Sends.emit current stream.index frame).trans
      (.of_records (Feeds.Serves.emplaceBack _ .candlesticks symbol).records)).congr
        fun _ _ => List.append_nil _
  exact (Feeds.Sends.foldl fun current _ symbol _ => each _ symbol current).congr
    (flatMap_subscribed stream.index channel
      (fun symbol =>
        ⟨Gateway.toSeconds context.now, channel, "subscribe", .candlesticks interval symbol⟩)
      (fun _ => rfl) (fun _ => rfl) (fun _ => rfl) symbols)

/-- A connection subscribes to the symbols once, on each of its channels. -/
theorem subscribeAll_sends (config : Config) :
    feeds.Sends (subscribedOn stream.index (channels config) symbols)
      (subscribeAll config context stream symbols feeds) := by
  unfold subscribeAll
  by_cases none : symbols = []
  · rw [if_pos none]
    refine (Feeds.Sends.refl feeds).congr fun index channel => ?_
    rw [subscribedOn, none, ite_self]
  rw [if_neg none]
  have books := (((subscribeSymbols_sends context stream "futures.tickers" symbols feeds).trans
    (subscribeSymbols_sends context stream "futures.trades" symbols _)).trans
    (subscribeSymbols_sends context stream "futures.book_ticker" symbols _)).trans
    (subscribeOrderBook_sends context stream "futures.order_book_update" symbols _
      (toMilliseconds config.settings.orderBookFreq) config.settings.orderBookDepth)
  simp (disch := decide) only [subscribedOn_append, List.cons_append, List.nil_append] at books
  unfold channels
  dsimp only
  split
  next series =>
    refine (books.trans (subscribeCandlesticks_sends context stream "futures.candlesticks" symbols
      _ "1m")).congr fun index channel =>
        subscribedOn_append _ _ _ symbols index channel (by decide)
  next => exact books

variable [Symbols String Store]

/-- What a connection subscribes to from a position on: its part of the list if it is ready. -/
def slice (store : Store) (startFrom : Nat) (stream : MarketData) : List String :=
  if stream.ready then Symbols.getSlice store stream.index startFrom else []

theorem subscribe_sends (config : Config) (startFrom : Nat) :
    feeds.Sends (subscribedOn stream.index (channels config)
        (stream.slice feeds.shared.symbols startFrom))
      (subscribe config context startFrom stream feeds) := by
  unfold subscribe slice
  split
  · exact subscribeAll_sends context stream _ feeds config
  · refine (Feeds.Sends.refl feeds).congr fun index channel => ?_
    rw [subscribedOn, ite_self]

end MarketData

/-! ### New connections -/

/-- Connections were created behind the old ones. Each has its position as its index, and is not
connected yet. -/
structure Feeds.Creates (count : Nat) (before after : Feeds Store Queue) : Prop where
  tells : before.Tells [] nothing after
  symbols : after.shared.symbols = before.shared.symbols
  allSymbols : after.shared.allSymbols = before.shared.allSymbols
  marketData : ∃ created, after.marketData = before.marketData ++ created ∧
    created.length = count ∧ ∀ offset stream, created[offset]? = some stream →
      stream.index = before.marketData.length + offset ∧ stream.ready = false

theorem createMarketData_creates (feeds : Feeds Store Queue) :
    feeds.Creates 1 (createMarketData feeds) := by
  refine ⟨.of_service [.start (feeds.streamId + 1)] rfl (by simp [Output.isService]), rfl, rfl,
    ⟨[_], rfl, rfl, fun offset stream there => ?_⟩⟩
  cases offset with
  | zero =>
    cases there
    exact ⟨rfl, rfl⟩
  | succ offset => cases there

theorem Feeds.Creates.trans {first second third : Feeds Store Queue} {count count' : Nat}
    (earlier : first.Creates count second) (later : second.Creates count' third) :
    first.Creates (count + count') third := by
  obtain ⟨created, grown, counted, fresh⟩ := earlier.marketData
  obtain ⟨created', grown', counted', fresh'⟩ := later.marketData
  refine ⟨earlier.tells.trans later.tells, later.symbols.trans earlier.symbols,
    later.allSymbols.trans earlier.allSymbols, ⟨created ++ created', ?_, ?_, ?_⟩⟩
  · rw [grown', grown, List.append_assoc]
  · rw [List.length_append, counted, counted']
  · intro offset stream there
    rw [List.getElem?_append] at there
    split at there
    next => exact fresh offset stream there
    next beyond =>
      obtain ⟨index, idle⟩ := fresh' _ stream there
      rw [grown, List.length_append] at index
      exact ⟨by omega, idle⟩

/-- The controller creates as many connections as are missing. -/
theorem ensureSymbolSlices_creates (size : Nat) (feeds : Feeds Store Queue) :
    feeds.Creates (size - feeds.marketData.length) (ensureSymbolSlices size feeds) := by
  unfold ensureSymbolSlices
  induction size - feeds.marketData.length with
  | zero =>
    exact ⟨.of_records (.refl feeds), rfl, rfl, ⟨[], (List.append_nil _).symm, rfl,
      fun _ _ there => by cases there⟩⟩
  | succ count inductionHypothesis =>
    rw [List.range_succ, List.foldl_append]
    exact inductionHypothesis.trans (createMarketData_creates _)

/-! ### New symbols -/

/-- What the connections of a list subscribe to from a position on. -/
def slices [Symbols String Store] (config : Config) (startFrom : Nat) (store : Store)
    (streams : List MarketData) (index : Nat) (channel : String) : List String :=
  streams.flatMap fun stream =>
    subscribedOn stream.index (channels config) (stream.slice store startFrom) index channel

theorem slices_sends [Symbols String Store] [LimitQueue String Queue]
    [LawfulLimitQueue String Queue] (config : Config) (context : Context) (startFrom : Nat)
    (streams : List MarketData) (feeds : Feeds Store Queue) :
    feeds.Sends (slices config startFrom feeds.shared.symbols streams)
      (streams.foldl (fun current stream =>
        MarketData.subscribe config context startFrom stream current) feeds) := by
  refine Feeds.Sends.foldl fun current same stream _ => ?_
  rw [← same]
  exact MarketData.subscribe_sends context stream current config startFrom

/-- The given symbols were handed to the controller and appended to the list. Missing connections
were created, and every connection subscribed to the new part of its slice. -/
structure Feeds.Updates [Symbols String Store] (config : Config) (given : List String)
    (before after : Feeds Store Queue) : Prop where
  tells : before.Tells given
    (slices config (Symbols.append before.shared.symbols given).2.2 after.shared.symbols
      after.marketData) after
  symbols : after.shared.symbols = (Symbols.append before.shared.symbols given).1
  allSymbols : after.shared.allSymbols = before.shared.allSymbols
  marketData : ∃ created, after.marketData = before.marketData ++ created ∧
    created.length =
      (Symbols.append before.shared.symbols given).2.1 - before.marketData.length ∧
    ∀ offset stream, created[offset]? = some stream →
      stream.index = before.marketData.length + offset ∧ stream.ready = false

theorem symbolsUpdate_updates [Symbols String Store] [LimitQueue String Queue]
    [LawfulLimitQueue String Queue] (config : Config) (context : Context) (symbols : List String)
    (feeds : Feeds Store Queue) :
    feeds.Updates config symbols (symbolsUpdate config context symbols feeds) := by
  let size := (Symbols.append feeds.shared.symbols symbols).2.1
  let startFrom := (Symbols.append feeds.shared.symbols symbols).2.2
  let told := { feeds.emit (.symbolsUpdate symbols) with
    shared.symbols := (Symbols.append feeds.shared.symbols symbols).1 }
  let ensured := ensureSymbolSlices size told
  have handed : feeds.Tells symbols nothing told := by
    refine ⟨[.symbolsUpdate symbols], rfl, ?_, fun _ _ => rfl⟩
    rw [List.flatMap_singleton, Output.handed]
  have creates : told.Creates _ ensured := ensureSymbolSlices_creates size told
  have sends := slices_sends config context startFrom ensured.marketData ensured
  have store : (symbolsUpdate config context symbols feeds).shared.symbols =
      ensured.shared.symbols := sends.symbols
  have streams : (symbolsUpdate config context symbols feeds).marketData = ensured.marketData :=
    sends.marketData
  refine ⟨?_, store.trans creates.symbols, sends.allSymbols.trans creates.allSymbols, ?_⟩
  · have tells := (handed.trans creates.tells).trans sends.tells
    rw [List.append_nil, List.append_nil] at tells
    refine tells.congr fun index channel => ?_
    rw [store, streams]
    rfl
  · obtain ⟨created, grown, counted, fresh⟩ := creates.marketData
    exact ⟨created, streams.trans grown, counted, fresh⟩

/-! ### Connects and disconnects -/

theorem MarketData.setConnectionStatus_tells (position : Nat) (status : ConnectionStatus)
    (stream : MarketData) (feeds : Feeds Store Queue) :
    feeds.Tells [] nothing (setConnectionStatus position status stream feeds) :=
  .of_service [.streamStatus stream.streamId status] rfl (by simp [Output.isService])

/-- A connection that gets ready subscribes to its whole slice. -/
theorem MarketData.socketReady_sends [Symbols String Store] [LimitQueue String Queue]
    [LawfulLimitQueue String Queue] (config : Config) (context : Context) (position : Nat)
    (stream : MarketData) (feeds : Feeds Store Queue) :
    (setConnectionStatus position .ready stream feeds).Sends
      (subscribedOn stream.index (channels config)
        (Symbols.getSlice feeds.shared.symbols stream.index 0))
      (socketReady config context position stream feeds) :=
  subscribe_sends context { stream with connectionStatus := .ready }
    (setConnectionStatus position .ready stream feeds) config 0

end GateFutures.Market
