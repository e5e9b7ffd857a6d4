/-
This file proves that every symbol is subscribed to exactly once per connection.

A symbol is known from its first request or contract on, and then it is in the list of symbols
once. A connection subscribes to its whole slice when it gets ready, and to the new part of its
slice whenever symbols are added while it is ready. Together these are its slice, at all times.
-/

import GateFutures.Market.Frames
import GateFutures.Market.Steps

namespace GateFutures.Market

open Framework Library Protocol Roq
open Gateway (RestResponse)

variable {Driver Store Queue : Type}

/-! ### Slices -/

/-- Connections have their positions as indices. -/
def Indexed (streams : List MarketData) : Prop :=
  ∀ (index : Nat) (stream : MarketData), streams[index]? = some stream → stream.index = index

theorem Indexed.append {streams created : List MarketData} (indexed : Indexed streams)
    (fresh : ∀ (offset : Nat) (stream : MarketData), created[offset]? = some stream →
      stream.index = streams.length + offset) : Indexed (streams ++ created) := by
  intro index stream there
  rw [List.getElem?_append] at there
  split at there
  next => exact indexed index stream there
  next beyond =>
    have last := fresh _ stream there
    omega

/-- A connection whose state changes keeps its index. -/
theorem Indexed.set {streams : List MarketData} (indexed : Indexed streams) {position : Nat}
    {stream : MarketData} (same : stream.index = position) :
    Indexed (streams.set position stream) := by
  intro index other there
  rw [List.getElem?_set] at there
  split at there
  next here =>
    split at there
    · cases there
      exact same.trans here
    · cases there
  next => exact indexed index other there

section Slices

variable [Symbols String Store] {config : Config} {startFrom : Nat} {store : Store}

/-- Of the connections in a list, only the one at a position subscribes at that position. -/
theorem slices_eq {streams : List MarketData} (indexed : Indexed streams) {index : Nat}
    {stream : MarketData} (there : streams[index]? = some stream) (channel : String) :
    slices config startFrom store streams index channel =
      if channel ∈ channels config then stream.slice store startFrom else [] := by
  obtain ⟨inside, rfl⟩ := List.getElem?_eq_some_iff.mp there
  have parts : streams = streams.take index ++ streams[index] :: streams.drop (index + 1) := by
    rw [← List.drop_eq_getElem_cons, List.take_append_drop]
  have other {part : List MarketData} (elsewhere : ∀ stream ∈ part, stream.index ≠ index) :
      slices config startFrom store part index channel = [] :=
    List.flatMap_eq_nil_iff.mpr fun stream member =>
      if_neg fun both => elsewhere stream member both.1
  have before : slices config startFrom store (streams.take index) index channel = [] := by
    refine other fun stream member => ?_
    obtain ⟨position, bound, rfl⟩ := List.mem_iff_getElem.mp member
    rw [List.getElem_take, indexed position _ (List.getElem?_eq_getElem _)]
    rw [List.length_take] at bound
    omega
  have behind : slices config startFrom store (streams.drop (index + 1)) index channel = [] := by
    refine other fun stream member => ?_
    obtain ⟨position, bound, rfl⟩ := List.mem_iff_getElem.mp member
    rw [List.getElem_drop, indexed (index + 1 + position) _ (List.getElem?_eq_getElem _)]
    omega
  have here : subscribedOn streams[index].index (channels config)
      (streams[index].slice store startFrom) index channel =
        if channel ∈ channels config then streams[index].slice store startFrom else [] := by
    rw [subscribedOn, indexed index _ there]
    simp only [true_and]
  calc slices config startFrom store streams index channel
      = slices config startFrom store (streams.take index) index channel ++
          (subscribedOn streams[index].index (channels config)
            (streams[index].slice store startFrom) index channel ++
          slices config startFrom store (streams.drop (index + 1)) index channel) := by
        conv_lhs => rw [parts]
        rw [slices, List.flatMap_append, List.flatMap_cons]
        rfl
    _ = if channel ∈ channels config then streams[index].slice store startFrom else [] := by
        rw [before, behind, here, List.nil_append, List.append_nil]

end Slices

/-! ### Connections cover their slices -/

section Covered

variable [Symbols String Store]

/-- The list of symbols is what is known, each symbol once. There is a connection for every slice,
and what was sent since a connection got ready subscribes to its slice on every channel. -/
structure Feeds.Covered (config : Config) (sent : Nat → String → List String)
    (feeds : Feeds Store Queue) : Prop where
  contents : Symbols.contents feeds.shared.symbols = feeds.shared.allSymbols
  nodup : feeds.shared.allSymbols.Nodup
  blockSize :
    Symbols.blockSize feeds.shared.symbols = config.settings.maxSubscriptionsPerStream
  length : feeds.marketData.length = blocks config.settings.maxSubscriptionsPerStream
    (Symbols.contents feeds.shared.symbols).length
  indexed : Indexed feeds.marketData
  sent : ∀ (index : Nat) (stream : MarketData), feeds.marketData[index]? = some stream →
    stream.ready → ∀ channel, sent index channel =
      if channel ∈ channels config then Symbols.getSlice feeds.shared.symbols index 0 else []

namespace Feeds.Covered

variable {config : Config} {sent : Nat → String → List String}
  {first middle second : Feeds Store Queue}

theorem of_records (covered : first.Covered config sent) (records : first.Records [] second) :
    second.Covered config sent := by
  have known := records.allSymbols
  rw [List.append_nil] at known
  refine ⟨?_, ?_, ?_, ?_, ?_, ?_⟩
  · rw [records.symbols, known]
    exact covered.contents
  · rw [known]
    exact covered.nodup
  · rw [records.symbols]
    exact covered.blockSize
  · rw [records.symbols, records.marketData]
    exact covered.length
  · rw [records.marketData]
    exact covered.indexed
  · rw [records.symbols, records.marketData]
    exact covered.sent

/-- Only what the existing connections sent matters. -/
theorem congr {sent' : Nat → String → List String} (covered : first.Covered config sent)
    (same : ∀ (index : Nat) (stream : MarketData), first.marketData[index]? = some stream →
      ∀ channel, sent index channel = sent' index channel) : first.Covered config sent' :=
  { covered with
    sent := fun index stream there ready channel =>
      (same index stream there channel).symm.trans
        (covered.sent index stream there ready channel) }

/-- A connection that gets disconnected need not be covered. -/
theorem disconnect (covered : first.Covered config sent) {position : Nat} {stream : MarketData}
    (there : first.marketData[position]? = some stream) :
    (MarketData.setConnectionStatus position .disconnected stream first).Covered config sent := by
  refine ⟨covered.contents, covered.nodup, covered.blockSize, ?_, ?_, ?_⟩
  · exact (List.length_set ..).trans covered.length
  · exact covered.indexed.set (covered.indexed position stream there)
  · intro index other others ready
    have streams : (first.marketData.set position
        { stream with connectionStatus := .disconnected })[index]? = some other := others
    rw [List.getElem?_set] at streams
    split at streams
    next =>
      split at streams
      · cases streams
        cases ready
      · cases streams
    next => exact covered.sent index other streams ready

/-- A connection that gets ready subscribes to its slice. -/
theorem connect [LimitQueue String Queue] [LawfulLimitQueue String Queue] (context : Context)
    (covered : first.Covered config sent) {position : Nat} {stream : MarketData}
    (there : first.marketData[position]? = some stream) :
    (MarketData.socketReady config context position stream first).Covered config
      fun index channel => (if position = index then [] else sent index channel) ++
        subscribedOn stream.index (channels config)
          (Symbols.getSlice first.shared.symbols stream.index 0) index channel := by
  have sends := MarketData.socketReady_sends config context position stream first
  have same := covered.indexed position stream there
  have streams : (MarketData.socketReady config context position stream first).marketData =
      first.marketData.set position { stream with connectionStatus := .ready } := sends.marketData
  refine ⟨?_, ?_, ?_, ?_, ?_, ?_⟩
  · rw [sends.symbols, sends.allSymbols]
    exact covered.contents
  · rw [sends.allSymbols]
    exact covered.nodup
  · rw [sends.symbols]
    exact covered.blockSize
  · rw [sends.symbols, streams, List.length_set]
    exact covered.length
  · rw [streams]
    exact covered.indexed.set same
  · intro index other others ready channel
    rw [sends.symbols]
    rw [streams, List.getElem?_set] at others
    split at others
    next here =>
      subst here
      rw [if_pos rfl, List.nil_append, same, subscribedOn]
      simp only [true_and]
      rfl
    next elsewhere =>
      have silent : subscribedOn stream.index (channels config)
          (Symbols.getSlice first.shared.symbols stream.index 0) index channel = [] :=
        if_neg fun both => elsewhere (same.symm.trans both.1)
      rw [if_neg elsewhere, silent, List.append_nil]
      exact covered.sent index other others ready channel

/-- New symbols are subscribed to by the connections that are ready. -/
theorem update [LawfulSymbols String Store] (covered : first.Covered config sent)
    {recorded : List String} (records : first.Records recorded middle)
    (nodup : (first.shared.allSymbols ++ recorded).Nodup)
    (updates : middle.Updates config recorded second) :
    second.Covered config fun index channel => sent index channel ++
      slices config (Symbols.append middle.shared.symbols recorded).2.2 second.shared.symbols
        second.marketData index channel := by
  obtain ⟨created, grown, counted, fresh⟩ := updates.marketData
  have store : second.shared.symbols = (Symbols.append first.shared.symbols recorded).1 := by
    rw [updates.symbols, records.symbols]
  have contents : Symbols.contents second.shared.symbols =
      Symbols.contents first.shared.symbols ++ recorded := by
    rw [store, LawfulSymbols.contents_append]
  have size : Symbols.blockSize second.shared.symbols =
      config.settings.maxSubscriptionsPerStream := by
    rw [store, LawfulSymbols.blockSize_append, covered.blockSize]
  have known : second.shared.allSymbols = first.shared.allSymbols ++ recorded :=
    updates.allSymbols.trans records.allSymbols
  rw [records.marketData] at grown fresh
  rw [records.symbols, records.marketData, LawfulSymbols.append_slices, covered.length,
    covered.blockSize] at counted
  have indexed : Indexed second.marketData := by
    rw [grown]
    exact covered.indexed.append fun offset stream there => (fresh offset stream there).1
  refine ⟨?_, ?_, size, ?_, indexed, ?_⟩
  · rw [contents, known, covered.contents]
  · rw [known]
    exact nodup
  · have more := blocks_le config.settings.maxSubscriptionsPerStream
      (Symbols.contents first.shared.symbols).length recorded.length
    rw [List.length_append] at counted
    rw [grown, List.length_append, counted, covered.length, contents, List.length_append]
    omega
  · intro index stream there ready channel
    have old : first.marketData[index]? = some stream := by
      rw [grown, List.getElem?_append] at there
      split at there
      next => exact there
      next =>
        rw [(fresh _ stream there).2] at ready
        cases ready
    have part : stream.slice second.shared.symbols
        (Symbols.append middle.shared.symbols recorded).2.2 =
          block config.settings.maxSubscriptionsPerStream
            (Symbols.contents first.shared.symbols ++ recorded) index
            (Symbols.contents first.shared.symbols).length := by
      rw [MarketData.slice, if_pos ready, LawfulSymbols.getSlice_eq, records.symbols,
        LawfulSymbols.append_startFrom, covered.indexed index stream old, size, contents]
    rw [slices_eq indexed there, part, covered.sent index stream old ready]
    split
    · rw [LawfulSymbols.getSlice_eq, LawfulSymbols.getSlice_eq, size, contents,
        covered.blockSize, block_append]
    · exact List.append_nil []

end Feeds.Covered

end Covered

/-! ### Events -/

/-- The event makes the connection at a position ready. -/
def Event.connects (index : Nat) : Event → Bool
  | .stream position .ready => position = index
  | _ => false

/-- The event raises an exception on the way. -/
def Event.raises : Event → Bool
  | .contractsReply _ _ (some _) => true
  | _ => false

/-- What has been sent since a connection got ready, when a step sends more. -/
def sentSince (event : Event) (sent more : Nat → String → List String) (index : Nat)
    (channel : String) : List String :=
  (if event.connects index then [] else sent index channel) ++ more index channel

/-- An event covers the connections if they were covered before. -/
def Feeds.Covers [Symbols String Store] (config : Config) (event : Event)
    (sent : Nat → String → List String) (before after : Feeds Store Queue) : Prop :=
  ∃ given more, before.Tells given more after ∧ after.Covered config (sentSince event sent more)

namespace Feeds.Covers

variable [Symbols String Store] {config : Config} {event : Event}
  {sent : Nat → String → List String} {first middle second : Feeds Store Queue}

/-- An event that makes no connection ready adds to what was sent. -/
theorem of_idle {given : List String} {more : Nat → String → List String}
    (idle : ∀ index, event.connects index = false) (tells : first.Tells given more second)
    (covered : second.Covered config fun index channel =>
      sent index channel ++ more index channel) : first.Covers config event sent second := by
  refine ⟨given, more, tells, ?_⟩
  have same : sentSince event sent more =
      fun index channel => sent index channel ++ more index channel := by
    funext index channel
    rw [sentSince, idle, if_neg Bool.false_ne_true]
  rw [same]
  exact covered

theorem of_records (idle : ∀ index, event.connects index = false)
    (records : first.Records [] second) (covered : first.Covered config sent) :
    first.Covers config event sent second := by
  refine .of_idle idle (.of_records records) ?_
  simp only [List.append_nil]
  exact covered.of_records records

/-- New symbols that were recorded are subscribed to. -/
theorem update [LawfulSymbols String Store] (idle : ∀ index, event.connects index = false)
    (covered : first.Covered config sent) {recorded : List String}
    (records : first.Records recorded middle)
    (nodup : (first.shared.allSymbols ++ recorded).Nodup)
    (updates : middle.Updates config recorded second) : first.Covers config event sent second :=
  .of_idle idle ((Feeds.Tells.of_records records).trans updates.tells)
    (covered.update records nodup updates)

theorem publish (covers : first.Covers config event sent middle)
    (publishes : middle.Publishes second) : first.Covers config event sent second := by
  obtain ⟨given, more, tells, covered⟩ := covers
  have later : middle.Records [] second := .of_publishes publishes
  have all := tells.trans (.of_records later)
  simp only [List.append_nil] at all
  exact ⟨given, more, all, covered.of_records later⟩

end Feeds.Covers

section Steps

variable [Symbols String Store] [LawfulSymbols String Store]
  [LimitQueue String Queue] [LawfulLimitQueue String Queue]
  {config : Config} {context : Context} {sent : Nat → String → List String}

theorem subscribe_covers (symbols : List String) {feeds : Feeds Store Queue}
    (covered : feeds.Covered config sent) :
    feeds.Covers config (.subscribe symbols) sent (subscribe config context symbols feeds) := by
  rw [subscribe_eq]
  refine .update (fun _ => rfl) covered ?_ (newSymbols_nodup covered.nodup symbols)
    (symbolsUpdate_updates config context _ _)
  exact ⟨⟨[], (List.append_nil _).symm, List.forall_mem_nil _⟩, rfl, rfl, rfl⟩

omit [LawfulSymbols String Store] in
theorem socketReady_covers {position : Nat} {stream : MarketData} {feeds : Feeds Store Queue}
    (there : feeds.marketData[position]? = some stream) (covered : feeds.Covered config sent) :
    feeds.Covers config (.stream position .ready) sent
      (MarketData.socketReady config context position stream feeds) := by
  have sends := MarketData.socketReady_sends config context position stream feeds
  have same : sentSince (.stream position .ready) sent (fun index channel =>
        nothing index channel ++ subscribedOn stream.index (channels config)
          (Symbols.getSlice feeds.shared.symbols stream.index 0) index channel) =
      fun index channel => (if position = index then [] else sent index channel) ++
        subscribedOn stream.index (channels config)
          (Symbols.getSlice feeds.shared.symbols stream.index 0) index channel := by
    funext index channel
    simp only [sentSince, Event.connects, decide_eq_true_eq, List.nil_append]
  exact ⟨_, _, (MarketData.setConnectionStatus_tells position .ready stream feeds).trans
    sends.tells, same ▸ covered.connect context there⟩

variable {Driver : Type} [Download2 Rest.State Driver] [LawfulCallbacks Rest.State Driver]
  {controller next : Controller Driver Store Queue}

theorem Controller.getContractsAck_covers {sequence : UInt32}
    {response : RestResponse ContractsAck} (covered : controller.feeds.Covered config sent)
    (handled : controller.getContractsAck config context sequence response none = .ok next) :
    controller.feeds.Covers config (.contractsReply sequence response none) sent next.feeds := by
  rcases getContractsAck_cases handled with ⟨-, published⟩ |
    ⟨message, middle, -, -, -, records, published⟩ | ⟨message, raising, -, raises, -⟩
  · exact .of_records (fun _ => rfl) (.of_publishes published) covered
  · split at published
    next =>
      exact (Feeds.Covers.update (fun _ => rfl) covered records
        (newSymbols_nodup covered.nodup _) (symbolsUpdate_updates config context _ middle)).publish
          published
    next none =>
      rw [not_not] at none
      rw [none] at records
      exact (Feeds.Covers.of_records (fun _ => rfl) records covered).publish published
  · cases raises

/-- A step covers the connections if they were covered before. -/
theorem Controller.handle_covers {event : Event} (quiet : event.raises = false)
    (covered : controller.feeds.Covered config sent)
    (handled : controller.handle config context event = .ok next) :
    controller.feeds.Covers config event sent next.feeds := by
  cases handles handled with
  | serves service serves =>
    refine .of_records (fun index => ?_) serves.records covered
    cases event with
    | stream position event =>
      cases event with
      | ready => cases service
      | _ => rfl
    | _ => rfl
  | subscribes symbols => exact subscribe_covers symbols covered
  | @replies sequence response failure next handled =>
    cases failure with
    | none => exact getContractsAck_covers covered handled
    | some failure => cases quiet
  | @disconnects position stream there =>
    refine .of_idle (fun _ => rfl)
      (MarketData.setConnectionStatus_tells position .disconnected stream _) ?_
    simp only [List.append_nil]
    exact covered.disconnect there
  | connects there => exact socketReady_covers there covered
  | @ignores position event absent =>
    refine ⟨[], nothing, .of_records (.refl _), covered.congr fun index stream there channel => ?_⟩
    have elsewhere : (Event.stream position event).connects index = false := by
      cases event with
      | ready =>
        refine decide_eq_false fun here => ?_
        rw [here, there] at absent
        cases absent
      | _ => rfl
    rw [sentSince, elsewhere, if_neg Bool.false_ne_true, List.append_nil]

end Steps

/-! ### Runs -/

/-- No event raises an exception. -/
def Faultless : Environment (Controller Driver Store Queue) Input (List Output) :=
  fun _ _ input => input.event.raises = false

instance (history : MarketHistory Driver Store Queue) (controller : Controller Driver Store Queue)
    (input : Input) : Decidable (Faultless history controller input) :=
  inferInstanceAs (Decidable (_ = _))

/-- What the connection at a position has subscribed to on a channel since it got ready, in
order. -/
def subscribed (index : Nat) (channel : String) : MarketHistory Driver Store Queue → List String
  | [] => []
  | entry :: before =>
    (if entry.input.event.connects index then [] else subscribed index channel before) ++
      entry.output.flatMap (Output.subscribed index channel)

section Runs

variable [Download2 Rest.State Driver] [LawfulCallbacks Rest.State Driver]
  [Symbols String Store] [LawfulSymbols String Store]
  [LimitQueue String Queue] [LawfulLimitQueue String Queue]

/-- The connections are covered after every run. -/
theorem run_covered {config : Config} {history : MarketHistory Driver Store Queue}
    {controller : Controller Driver Store Queue}
    (run : (market config).Run Faultless history controller) :
    controller.feeds.Covered config fun index channel => subscribed index channel history := by
  induction run with
  | start =>
    have empty : Symbols.contents (Symbols.create config.settings.maxSubscriptionsPerStream : Store)
        = [] := LawfulSymbols.contents_create _
    refine ⟨empty, List.nodup_nil, LawfulSymbols.blockSize_create _, ?_, ?_, ?_⟩
    · show 0 = blocks _ (Symbols.contents (Symbols.create _ : Store)).length
      rw [empty, List.length_nil, blocks_zero]
    · intro index stream there
      cases there
    · intro index stream there
      cases there
  | step before quiet taken inductionHypothesis =>
    next history controller next input output =>
    obtain ⟨handled, rfl⟩ := Controller.step_ok taken
    have clean : controller.clearOutbox.feeds.Covered config
        fun index channel => subscribed index channel history :=
      ⟨inductionHypothesis.contents, inductionHypothesis.nodup, inductionHypothesis.blockSize,
        inductionHypothesis.length, inductionHypothesis.indexed, inductionHypothesis.sent⟩
    obtain ⟨given, more, ⟨outputs, grown, -, frames⟩, covered⟩ :=
      Controller.handle_covers quiet clean handled
    have all : next.feeds.outbox = outputs := grown
    refine covered.congr fun index stream there channel => ?_
    rw [sentSince, subscribed, all, frames]

/-- In a run without exceptions every known symbol is in the list of symbols once, there is a
connection for every slice, and every connection that is ready has subscribed to each symbol of
its slice once on each of its channels since it got ready, and to nothing else. -/
theorem subscribed_once (config : Config) (history : MarketHistory Driver Store Queue)
    (controller : Controller Driver Store Queue)
    (run : (market config).Run Faultless history controller) :
    (∀ symbol ∈ controller.feeds.shared.allSymbols,
        (Symbols.contents controller.feeds.shared.symbols).count symbol = 1) ∧
      controller.feeds.marketData.length = blocks config.settings.maxSubscriptionsPerStream
        (Symbols.contents controller.feeds.shared.symbols).length ∧
      ∀ (index : Nat) (stream : MarketData),
        controller.feeds.marketData[index]? = some stream →
          stream.index = index ∧ (stream.ready → ∀ channel symbol,
            (subscribed index channel history).count symbol =
              if channel ∈ channels config ∧
                symbol ∈ Symbols.getSlice controller.feeds.shared.symbols index 0
              then 1 else 0) := by
  have covered := run_covered run
  refine ⟨fun symbol known => ?_, covered.length, fun index stream there =>
    ⟨covered.indexed index stream there, fun ready channel symbol => ?_⟩⟩
  · rw [covered.contents]
    exact List.count_eq_one_of_mem covered.nodup known
  · have once : (Symbols.getSlice controller.feeds.shared.symbols index 0).Nodup := by
      rw [LawfulSymbols.getSlice_eq]
      exact block_nodup _ (covered.contents ▸ covered.nodup) index 0
    rw [covered.sent index stream there ready channel]
    by_cases subscribes : channel ∈ channels config
    · simp only [subscribes, if_true, true_and]
      split
      next inside => exact List.count_eq_one_of_mem once inside
      next outside => exact List.count_eq_zero_of_not_mem outside
    · rw [if_neg subscribes, if_neg fun both => subscribes both.1, List.count_nil]

end Runs

/-! ### A plain run -/

/-- Clients and the contracts bring four symbols, some of them twice, while the first connection is
ready. Then the second gets ready, and the first reconnects. -/
def plainSubscriptions : List Input :=
  plainInputs [.subscribe ["BTC_USDT", "BTC_USDT"], .stream 0 .ready,
    .subscribe ["BTC_USDT", "ETH_USDT"], .restConnected,
    .contractsReply 1 (.result .success 200 (some ⟨[plainContract "ETH_USDT",
      plainContract "SOL_USDT", plainContract "XRP_USDT"]⟩)) none,
    .stream 1 .ready, .stream 0 .disconnected, .stream 0 .ready]

/-- The second connection has subscribed to the last contract once. -/
theorem subscribed_once_plain :
    ∃ history controller stream, plainMarket.Run Faultless history controller ∧
      controller.feeds.marketData[1]? = some stream ∧ stream.ready ∧ stream.index = 1 ∧
      (subscribed 1 "futures.trades" history).count "XRP_USDT" = 1 := by
  have run : plainMarket.Run Faultless _ _ := .of_replay plainSubscriptions rfl (by decide)
  have covered := (subscribed_once plainConfig _ _ run).2.2 1 _ rfl
  exact ⟨_, _, _, run, rfl, rfl, covered.1,
    (covered.2 rfl "futures.trades" "XRP_USDT").trans (if_pos (by decide))⟩

end GateFutures.Market
