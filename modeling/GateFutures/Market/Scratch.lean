/-
This file proves that the scratch buffers never leak between messages.

One list of trades, one list of bars and one pair of lists of levels are shared by every market
data connection and by the REST handlers. A handler that ends early leaves them as they are. The
two-run law says that a message is handled alike whatever they hold: two gateways with the same
connections, and otherwise in any state at all, output the same. A second law says that what is
output from the buffers is an ordered part of the message.
-/

import GateFutures.Market.Controller

namespace GateFutures.Market

open Framework Library Protocol Roq
open Gateway (RestResponse)

variable {Driver Store Queue : Type}

/-! ### Entries -/

/-- What a scratch buffer holds. -/
inductive ScratchEntry
  | trade (trade : Trade)
  | bar (bar : Bar)
  | bid (level : MbpUpdate)
  | ask (level : MbpUpdate)
  deriving DecidableEq

/-- The two sides of a book. -/
def levelEntries (bids asks : List MbpUpdate) : List ScratchEntry :=
  bids.map .bid ++ asks.map .ask

/-- The entries an output takes from the scratch buffers. -/
def Output.entries : Output → List ScratchEntry
  | .tradeSummary summary => summary.trades.map .trade
  | .timeSeriesUpdate update => update.bars.map .bar
  | .sequencer (.update _ bids asks _ _ _) => levelEntries bids asks
  | .sequencer (.snapshot _ bids asks _) => levelEntries bids asks
  | _ => []

/-- The entries of a message of a market data connection. -/
def StreamEvent.entries (config : Config) : StreamEvent → List ScratchEntry
  | .trades message =>
    message.result.map fun item => .trade (MarketData.createTrade config item)
  | .candlesticks message => message.result.map fun item => .bar (MarketData.createBar item)
  | .orderBookUpdate message _ =>
    levelEntries (mbpUpdates message.result.bids) (mbpUpdates message.result.asks)
  | _ => []

/-- The entries of a reply, if it is a success that decodes. -/
def replyEntries {Body : Type} (entries : Body → List ScratchEntry) :
    RestResponse Body → List ScratchEntry
  | .result .success _ (some body) => entries body
  | _ => []

/-- The entries of the message an event delivers. -/
def Event.entries (config : Config) : Event → List ScratchEntry
  | .stream _ event => event.entries config
  | .orderBookReply _ response _ => replyEntries
      (fun message => levelEntries (mbpUpdates message.bids) (mbpUpdates message.asks)) response
  | .candlesticksReply _ response _ =>
    replyEntries (fun message => message.data.map fun item => .bar (Rest.createBar item)) response
  | _ => []

/-- The message of a market data connection is handled with a scratch buffer. -/
def StreamEvent.usesScratch : StreamEvent → Bool
  | .trades _ | .candlesticks _ | .orderBookUpdate .. => true
  | _ => false

/-- The event delivers a message that is handled with a scratch buffer. -/
def Event.usesScratch : Event → Bool
  | .stream _ event => event.usesScratch
  | .orderBookReply .. | .candlesticksReply .. => true
  | _ => false

/-- The entries output so far. -/
def Feeds.entries (feeds : Feeds Store Queue) : List ScratchEntry :=
  feeds.outbox.flatMap Output.entries

theorem Feeds.entries_emit (feeds : Feeds Store Queue) (output : Output) :
    (feeds.emit output).entries = feeds.entries ++ output.entries := by
  unfold entries
  rw [emit, List.flatMap_append, List.flatMap_singleton]

/-! ### Alike runs -/

/-- The outputs so far are the same, and so is what one scratch buffer holds. -/
structure Feeds.Alike {Buffer : Type} (buffer : Shared Store Queue → Buffer)
    (first second : Feeds Store Queue) : Prop where
  outbox : first.outbox = second.outbox
  buffer : buffer first.shared = buffer second.shared

/-- Two computations that look alike, continued alike, look alike. -/
theorem map_bind_congr {Failure Value Next View NextView : Type} (view : Value → View)
    {nextView : Next → NextView} {first second : Except Failure Value}
    {firstNext secondNext : Value → Except Failure Next}
    (same : first.map view = second.map view)
    (continues : ∀ value other, view value = view other →
      (firstNext value).map nextView = (secondNext other).map nextView) :
    (first >>= firstNext).map nextView = (second >>= secondNext).map nextView := by
  cases first with
  | error failure =>
    cases second with
    | error other =>
      cases same
      rfl
    | ok other => cases same
  | ok value =>
    cases second with
    | error other => cases same
    | ok other =>
      have views : view value = view other := Except.ok.inj same
      exact continues value other views

/-- Callbacks that act alike act alike in a row. -/
theorem makeCallbacks_alike {Callback : Type}
    {firstCallback secondCallback :
      Callback → Feeds Store Queue → Except Fatal (Feeds Store Queue)}
    (alike : ∀ callback first second, first.outbox = second.outbox →
      (firstCallback callback first).map Feeds.outbox =
        (secondCallback callback second).map Feeds.outbox)
    (callbacks : List Callback) {first second : Feeds Store Queue}
    (same : first.outbox = second.outbox) :
    (makeCallbacks firstCallback callbacks first).map Feeds.outbox =
      (makeCallbacks secondCallback callbacks second).map Feeds.outbox := by
  induction callbacks generalizing first second with
  | nil => exact congrArg Except.ok same
  | cons callback later inductionHypothesis =>
    exact map_bind_congr Feeds.outbox (alike callback first second same) fun _ _ =>
      inductionHypothesis

theorem Feeds.emit_alike {first second : Feeds Store Queue} {output other : Output}
    (same : first.outbox = second.outbox) (outputs : output = other) :
    (first.emit output).outbox = (second.emit other).outbox := by
  rw [emit, emit, same, outputs]

/-! ### Trades and candlesticks -/

namespace MarketData

section Loops

variable (config : Config) {stream other : MarketData}
  (sameStream : stream.streamId = other.streamId)
include sameStream

theorem tradeSummary_alike (message : Trades) :
    tradeSummary config stream message = tradeSummary config other message := by
  funext contract timestamp trades
  unfold tradeSummary
  rw [sameStream]

/-- The loop over the items of `Trades` looks at nothing but the trades collected so far. -/
theorem collectTrades_alike (message : Trades) (items : List TradesItem) (contract : String)
    (timestamp : Int) {first second : Feeds Store Queue}
    (alike : first.Alike Shared.trades second) :
    (collectTrades config stream message items contract timestamp first).1 =
        (collectTrades config other message items contract timestamp second).1 ∧
      (collectTrades config stream message items contract timestamp first).2.1 =
        (collectTrades config other message items contract timestamp second).2.1 ∧
      Feeds.Alike Shared.trades
        (collectTrades config stream message items contract timestamp first).2.2
        (collectTrades config other message items contract timestamp second).2.2 := by
  induction items generalizing contract timestamp first second with
  | nil => exact ⟨rfl, rfl, alike⟩
  | cons item later inductionHypothesis =>
    have summaries := tradeSummary_alike config sameStream message
    unfold collectTrades
    by_cases changed : item.contract ≠ contract
    · rw [if_pos changed, if_pos changed, ← alike.buffer]
      by_cases publish : contract ≠ "" ∧ first.shared.trades ≠ []
      · rw [if_pos publish, if_pos publish]
        exact inductionHypothesis _ _ ⟨Feeds.emit_alike alike.outbox (by rw [summaries]), rfl⟩
      · rw [if_neg publish, if_neg publish]
        exact inductionHypothesis _ _ ⟨alike.outbox, by rw [alike.buffer]⟩
    · rw [if_neg changed, if_neg changed]
      exact inductionHypothesis _ _ ⟨alike.outbox, by rw [alike.buffer]⟩

/-- `Trades` is handled alike, whatever the scratch buffers hold. -/
theorem trades_alike (message : Trades) {first second : Feeds Store Queue}
    (same : first.outbox = second.outbox) :
    (trades config stream message first).outbox = (trades config other message second).outbox := by
  have cleared : Feeds.Alike Shared.trades { first with shared.trades := [] }
      { second with shared.trades := [] } := ⟨same, rfl⟩
  obtain ⟨contracts, timestamps, alike⟩ :=
    collectTrades_alike config sameStream message message.result "" 0 cleared
  unfold trades
  simp only [contracts, timestamps, alike.buffer]
  split
  · exact Feeds.emit_alike alike.outbox (by rw [tradeSummary_alike config sameStream message])
  · exact alike.outbox

theorem publishBars_alike (message : Candlesticks) (symbol : String)
    {first second : Feeds Store Queue} (alike : first.Alike Shared.bars second) :
    (publishBars config stream message symbol first).Alike Shared.bars
      (publishBars config other message symbol second) := by
  unfold publishBars
  rw [← alike.buffer, sameStream]
  split
  · exact alike
  · exact ⟨Feeds.emit_alike alike.outbox rfl, rfl⟩

/-- The loop over the items of `Candlesticks` looks at nothing but the bars collected so far. -/
theorem collectBars_alike (message : Candlesticks) (items : List CandlesticksItem)
    (symbol : String) {first second : Feeds Store Queue}
    (alike : first.Alike Shared.bars second) :
    (collectBars config stream message items symbol first).1 =
        (collectBars config other message items symbol second).1 ∧
      Feeds.Alike Shared.bars (collectBars config stream message items symbol first).2
        (collectBars config other message items symbol second).2 := by
  induction items generalizing symbol first second with
  | nil => exact ⟨rfl, alike⟩
  | cons item later inductionHypothesis =>
    have published := publishBars_alike config sameStream message symbol alike
    unfold collectBars
    by_cases skipped : ¬ item.confirmed ∧ ¬ config.settings.timeSeriesRealtime
    · by_cases changed : item.name ≠ symbol
      · simp only [if_pos changed, if_pos skipped]
        exact inductionHypothesis _ published
      · simp only [if_neg changed, if_pos skipped]
        exact inductionHypothesis _ alike
    · by_cases changed : item.name ≠ symbol
      · simp only [if_pos changed, if_neg skipped]
        exact inductionHypothesis _ ⟨published.outbox, congrArg (· ++ _) published.buffer⟩
      · simp only [if_neg changed, if_neg skipped]
        exact inductionHypothesis _ ⟨alike.outbox, congrArg (· ++ _) alike.buffer⟩

/-- `Candlesticks` is handled alike, whatever the scratch buffers hold. -/
theorem candlesticks_alike (message : Candlesticks) {first second : Feeds Store Queue}
    (same : first.outbox = second.outbox) :
    (candlesticks config stream message first).outbox =
      (candlesticks config other message second).outbox := by
  have cleared : Feeds.Alike Shared.bars { first with shared.bars := [] }
      { second with shared.bars := [] } := ⟨same, rfl⟩
  obtain ⟨symbols, alike⟩ :=
    collectBars_alike config sameStream message message.result "" cleared
  unfold candlesticks
  simp only [symbols]
  exact (publishBars_alike config sameStream message _ alike).outbox

end Loops

end MarketData

/-! ### Order books -/

section Books

variable [LimitQueue String Queue]

theorem requestSnapshot_alike (config : Config) (symbol : String) (retries : Nat)
    {first second : Feeds Store Queue} (same : first.outbox = second.outbox) :
    (requestSnapshot config symbol retries first).map Feeds.outbox =
      (requestSnapshot config symbol retries second).map Feeds.outbox := by
  unfold requestSnapshot
  split
  · rfl
  · exact congrArg Except.ok (Feeds.emit_alike same rfl)

theorem resubscribe_alike (symbol : String) {first second : Feeds Store Queue}
    (same : first.outbox = second.outbox) :
    (resubscribe symbol first).outbox = (resubscribe symbol second).outbox :=
  Feeds.emit_alike (Feeds.emit_alike same rfl) rfl

theorem MarketData.updateCallback_alike (config : Config) {stream other : MarketData}
    (sameStream : stream.streamId = other.streamId) (message : OrderBookUpdate)
    (callback : UpdateCallback) (first second : Feeds Store Queue)
    (same : first.outbox = second.outbox) :
    (updateCallback config stream message callback first).map Feeds.outbox =
      (updateCallback config other message callback second).map Feeds.outbox := by
  have updates : createUpdate config stream message = createUpdate config other message := by
    funext bids asks updateType exchangeSequence
    unfold createUpdate
    rw [sameStream]
  match callback with
  | .publishUpdate bids asks | .snapshot (.publishSnapshot bids asks lastSequence) =>
    exact congrArg Except.ok (Feeds.emit_alike same (by rw [updates]))
  | .snapshot (.requestSnapshot retries) => exact requestSnapshot_alike config _ retries same

/-- `OrderBookUpdate` is handled alike, whatever the scratch buffers hold. -/
theorem MarketData.orderBookUpdate_alike (config : Config) {stream other : MarketData}
    (sameStream : stream.streamId = other.streamId) (message : OrderBookUpdate)
    (reaction : Reaction UpdateCallback) {first second : Feeds Store Queue}
    (same : first.outbox = second.outbox) :
    (orderBookUpdate config stream message reaction first).map Feeds.outbox =
      (orderBookUpdate config other message reaction second).map Feeds.outbox := by
  refine map_bind_congr Feeds.outbox ?_ fun feeds others published => ?_
  · exact makeCallbacks_alike (updateCallback_alike config sameStream message) _
      (Feeds.emit_alike same rfl)
  · cases reaction.ending with
    | returned => exact congrArg Except.ok published
    | badState => exact congrArg Except.ok (resubscribe_alike _ published)
    | exception => rfl

end Books

/-! ### Replies -/

/-- What a REST handler shows: the outputs so far, and whether it raised an exception. -/
def shown (result : Feeds Store Queue × Outcome) : List Output × Outcome :=
  (result.1.outbox, result.2)

/-- A reply whose success handler acts alike is handled alike, if the error handler only logs. -/
theorem processResponse_alike {Body : Type} (response : RestResponse Body)
    {successHandler : Option Body → Feeds Store Queue → Except Fatal (Feeds Store Queue × Outcome)}
    {first second : Feeds Store Queue} (same : first.outbox = second.outbox)
    (alike : ∀ body, (successHandler body first).map shown =
      (successHandler body second).map shown) :
    (processResponse response (fun feeds => feeds) successHandler first).map Feeds.outbox =
      (processResponse response (fun feeds => feeds) successHandler second).map Feeds.outbox := by
  match response with
  | .result .success status body =>
    refine map_bind_congr shown (alike body) ?_
    rintro ⟨feeds, outcome⟩ ⟨others, otherOutcome⟩ shows
    obtain ⟨outboxes, sameOutcome⟩ := Prod.mk.inj shows
    subst sameOutcome
    cases outcome <;> exact congrArg Except.ok outboxes
  | .result .redirection _ _ => rfl
  | .result .unknown _ _ | .result .informationalResponse _ _ | .result .clientError _ _
  | .result .serverError _ _ | .omsException | .networkError | .exception =>
    exact congrArg Except.ok same

namespace Rest

section Books

variable [LimitQueue String Queue]

theorem snapshotCallback_alike (config : Config) (symbol : String) (message : OrderBookAck)
    (callback : SnapshotCallback) (first second : Feeds Store Queue)
    (same : first.outbox = second.outbox) :
    (snapshotCallback config symbol message callback first).map Feeds.outbox =
      (snapshotCallback config symbol message callback second).map Feeds.outbox := by
  cases callback with
  | publishSnapshot bids asks lastSequence =>
    exact congrArg Except.ok (Feeds.emit_alike same rfl)
  | requestSnapshot retries => exact requestSnapshot_alike config symbol retries same

/-- `OrderBookAck` is handled alike, whatever the scratch buffers hold. -/
theorem getOrderBookAck_alike (config : Config) (symbol : String)
    (response : RestResponse OrderBookAck) (reaction : Reaction SnapshotCallback)
    {first second : Feeds Store Queue} (same : first.outbox = second.outbox) :
    (getOrderBookAck config symbol response reaction first).map Feeds.outbox =
      (getOrderBookAck config symbol response reaction second).map Feeds.outbox := by
  refine processResponse_alike response same fun body => ?_
  cases body with
  | none => exact congrArg (fun outputs => Except.ok (outputs, Outcome.raised)) same
  | some message =>
    refine map_bind_congr Feeds.outbox ?_ fun feeds others published => ?_
    · exact makeCallbacks_alike (snapshotCallback_alike config symbol message) _
        (Feeds.emit_alike (Feeds.emit_alike same rfl) rfl)
    · cases reaction.ending with
      | returned => exact congrArg (fun outputs => Except.ok (outputs, Outcome.returned)) published
      | badState =>
        exact congrArg (fun outputs => Except.ok (outputs, Outcome.returned))
          (resubscribe_alike symbol published)
      | exception => exact congrArg (fun outputs => Except.ok (outputs, Outcome.raised)) published

end Books

/-- `CandlesticksAck` is handled alike, whatever the scratch buffers hold. -/
theorem getCandlesticksAck_alike (config : Config) (symbol : String)
    (response : RestResponse CandlesticksAck) (raises : Bool)
    {first second : Feeds Store Queue} (same : first.outbox = second.outbox) :
    (getCandlesticksAck config symbol response raises first).map Feeds.outbox =
      (getCandlesticksAck config symbol response raises second).map Feeds.outbox := by
  refine processResponse_alike response same fun body => ?_
  cases body with
  | none => exact congrArg (fun outputs => Except.ok (outputs, Outcome.raised)) same
  | some message =>
    have delivered : (first.emit (.delivered .candlesticks symbol)).outbox =
        (second.emit (.delivered .candlesticks symbol)).outbox := Feeds.emit_alike same rfl
    cases raises with
    | true => exact congrArg (fun outputs => Except.ok (outputs, Outcome.raised)) delivered
    | false =>
      exact congrArg (fun outputs => Except.ok (outputs, Outcome.returned))
        (Feeds.emit_alike delivered rfl)

end Rest

/-! ### The entries of a message -/

/-- The trades published and kept, so far. -/
def Feeds.collectedTrades (feeds : Feeds Store Queue) : List ScratchEntry :=
  feeds.entries ++ feeds.shared.trades.map .trade

/-- The bars published and kept, so far. -/
def Feeds.collectedBars (feeds : Feeds Store Queue) : List ScratchEntry :=
  feeds.entries ++ feeds.shared.bars.map .bar

namespace Feeds

theorem collectedTrades_keep (feeds : Feeds Store Queue) (trade : Trade) :
    { feeds with shared.trades := feeds.shared.trades ++ [trade] }.collectedTrades =
      feeds.collectedTrades ++ [.trade trade] := by
  unfold collectedTrades
  rw [List.map_append, ← List.append_assoc]
  rfl

theorem collectedTrades_publish (feeds : Feeds Store Queue) {summary : TradeSummary}
    (all : summary.trades = feeds.shared.trades) :
    { feeds.emit (.tradeSummary summary) with shared.trades := [] }.collectedTrades =
      feeds.collectedTrades := by
  unfold collectedTrades
  rw [← all, List.map_nil, List.append_nil]
  exact entries_emit feeds (.tradeSummary summary)

theorem collectedBars_keep (feeds : Feeds Store Queue) (bar : Bar) :
    { feeds with shared.bars := feeds.shared.bars ++ [bar] }.collectedBars =
      feeds.collectedBars ++ [.bar bar] := by
  unfold collectedBars
  rw [List.map_append, ← List.append_assoc]
  rfl

end Feeds

namespace MarketData

variable (config : Config) (stream : MarketData)

/-- The loop over the items of `Trades` publishes or keeps every trade, in order. -/
theorem collectTrades_entries (message : Trades) (items : List TradesItem) (contract : String)
    (timestamp : Int) (feeds : Feeds Store Queue) :
    (collectTrades config stream message items contract timestamp feeds).2.2.collectedTrades =
      feeds.collectedTrades ++ items.map fun item => .trade (createTrade config item) := by
  induction items generalizing contract timestamp feeds with
  | nil => exact (List.append_nil _).symm
  | cons item later inductionHypothesis =>
    rw [List.map_cons, List.append_cons]
    unfold collectTrades
    by_cases changed : item.contract ≠ contract
    · rw [if_pos changed]
      by_cases publish : contract ≠ "" ∧ feeds.shared.trades ≠ []
      · rw [if_pos publish, inductionHypothesis, Feeds.collectedTrades_keep,
          Feeds.collectedTrades_publish feeds rfl]
      · rw [if_neg publish, inductionHypothesis, Feeds.collectedTrades_keep]
    · rw [if_neg changed, inductionHypothesis, Feeds.collectedTrades_keep]

/-- `Trades` publishes its trades, in order. -/
theorem trades_entries (message : Trades) (feeds : Feeds Store Queue) :
    (trades config stream message feeds).entries =
      feeds.entries ++ message.result.map fun item => .trade (createTrade config item) := by
  have all := collectTrades_entries config stream message message.result "" 0
    { feeds with shared.trades := [] }
  unfold trades
  generalize collectTrades config stream message message.result "" 0
    { feeds with shared.trades := [] } = result at all
  obtain ⟨contract, timestamp, collected⟩ := result
  have total : collected.collectedTrades =
      feeds.entries ++ message.result.map fun item => .trade (createTrade config item) := by
    rw [all]
    exact congrArg (· ++ _) (List.append_nil _)
  rw [← total]
  show (if collected.shared.trades ≠ [] then _ else collected : Feeds Store Queue).entries = _
  by_cases kept : collected.shared.trades ≠ []
  · rw [if_pos kept]
    exact Feeds.entries_emit collected _
  · rw [if_neg kept, Feeds.collectedTrades, not_not.mp kept]
    exact (List.append_nil _).symm

theorem publishBars_entries (message : Candlesticks) (symbol : String)
    (feeds : Feeds Store Queue) :
    (publishBars config stream message symbol feeds).entries = feeds.collectedBars ∧
      (publishBars config stream message symbol feeds).shared.bars = [] := by
  unfold publishBars
  by_cases empty : feeds.shared.bars = []
  · rw [if_pos empty, Feeds.collectedBars, empty]
    exact ⟨(List.append_nil _).symm, rfl⟩
  · rw [if_neg empty]
    exact ⟨Feeds.entries_emit feeds _, rfl⟩

theorem publishBars_collected (message : Candlesticks) (symbol : String)
    (feeds : Feeds Store Queue) :
    (publishBars config stream message symbol feeds).collectedBars = feeds.collectedBars := by
  obtain ⟨published, flushed⟩ := publishBars_entries config stream message symbol feeds
  rw [Feeds.collectedBars, published, flushed, List.map_nil, List.append_nil]

/-- The loop over the items of `Candlesticks` publishes or keeps only bars of the items, in
order. -/
theorem collectBars_entries (message : Candlesticks) (items : List CandlesticksItem)
    (symbol : String) (feeds : Feeds Store Queue) :
    (collectBars config stream message items symbol feeds).2.collectedBars.Sublist
      (feeds.collectedBars ++ items.map fun item => .bar (createBar item)) := by
  induction items generalizing symbol feeds with
  | nil => exact List.sublist_append_left _ _
  | cons item later inductionHypothesis =>
    have published := publishBars_collected config stream message symbol feeds
    have skip : ∀ (name : String) (current : Feeds Store Queue),
        current.collectedBars = feeds.collectedBars →
        (collectBars config stream message later name current).2.collectedBars.Sublist
          (feeds.collectedBars ++ (item :: later).map fun item => .bar (createBar item)) := by
      intro name current same
      refine (inductionHypothesis name current).trans ?_
      rw [same, List.map_cons]
      exact (List.sublist_cons_self _ _).append_left _
    have keep : ∀ (name : String) (current : Feeds Store Queue),
        current.collectedBars = feeds.collectedBars →
        (collectBars config stream message later name
          { current with shared.bars := current.shared.bars ++ [createBar item] }
          ).2.collectedBars.Sublist
          (feeds.collectedBars ++ (item :: later).map fun item => .bar (createBar item)) := by
      intro name current same
      rw [List.map_cons, List.append_cons feeds.collectedBars, ← same,
        ← Feeds.collectedBars_keep]
      exact inductionHypothesis name _
    unfold collectBars
    by_cases skipped : ¬ item.confirmed ∧ ¬ config.settings.timeSeriesRealtime
    · by_cases changed : item.name ≠ symbol
      · simp only [if_pos changed, if_pos skipped]
        exact skip _ _ published
      · simp only [if_neg changed, if_pos skipped]
        exact skip _ _ rfl
    · by_cases changed : item.name ≠ symbol
      · simp only [if_pos changed, if_neg skipped]
        exact keep _ _ published
      · simp only [if_neg changed, if_neg skipped]
        exact keep _ _ rfl

/-- `Candlesticks` publishes only its bars, in order. -/
theorem candlesticks_entries (message : Candlesticks) (feeds : Feeds Store Queue) :
    (candlesticks config stream message feeds).entries.Sublist
      (feeds.entries ++ message.result.map fun item => .bar (createBar item)) := by
  have collected := collectBars_entries config stream message message.result ""
    { feeds with shared.bars := [] }
  have cleared : { feeds with shared.bars := [] }.collectedBars = feeds.entries :=
    List.append_nil _
  rw [cleared] at collected
  unfold candlesticks
  rw [(publishBars_entries config stream message _ _).1]
  exact collected

end MarketData

/-- Callbacks that output no entries output none in a row. -/
theorem makeCallbacks_entries {Callback : Type}
    {callback : Callback → Feeds Store Queue → Except Fatal (Feeds Store Queue)}
    (silent : ∀ made feeds next, callback made feeds = .ok next →
      (next : Feeds Store Queue).entries = feeds.entries)
    (callbacks : List Callback) {feeds next : Feeds Store Queue}
    (made : makeCallbacks callback callbacks feeds = .ok next) : next.entries = feeds.entries := by
  induction callbacks generalizing feeds with
  | nil =>
    cases made
    rfl
  | cons first later inductionHypothesis =>
    obtain ⟨between, madeFirst, madeLater⟩ := bind_ok.mp made
    exact (inductionHypothesis madeLater).trans (silent first feeds between madeFirst)

section Books

variable [LimitQueue String Queue]

theorem requestSnapshot_entries {config : Config} {symbol : String} {retries : Nat}
    {feeds next : Feeds Store Queue}
    (requested : requestSnapshot config symbol retries feeds = .ok next) :
    next.entries = feeds.entries := by
  unfold requestSnapshot at requested
  split at requested
  · cases requested
  · cases requested
    exact (Feeds.entries_emit _ _).trans (List.append_nil _)

theorem resubscribe_entries (symbol : String) (feeds : Feeds Store Queue) :
    (resubscribe symbol feeds).entries = feeds.entries := by
  refine (Feeds.entries_emit _ _).trans ?_
  refine (List.append_nil _).trans ?_
  exact (Feeds.entries_emit _ _).trans (List.append_nil _)

/-- An update gives the sequencer the levels of the message, and nothing else. -/
theorem MarketData.orderBookUpdate_entries {config : Config} {stream : MarketData}
    {message : OrderBookUpdate} {reaction : Reaction UpdateCallback}
    {feeds next : Feeds Store Queue}
    (handled : orderBookUpdate config stream message reaction feeds = .ok next) :
    next.entries = feeds.entries ++
      levelEntries (mbpUpdates message.result.bids) (mbpUpdates message.result.asks) := by
  obtain ⟨called, made, ended⟩ := bind_ok.mp handled
  have silent : ∀ callback feeds next, updateCallback config stream message callback feeds =
      .ok next → (next : Feeds Store Queue).entries = feeds.entries := by
    intro callback feeds next acted
    match callback with
    | .publishUpdate bids asks | .snapshot (.publishSnapshot bids asks lastSequence) =>
      cases acted
      exact (Feeds.entries_emit _ _).trans (List.append_nil _)
    | .snapshot (.requestSnapshot retries) => exact requestSnapshot_entries acted
  have given := (makeCallbacks_entries silent _ made).trans (Feeds.entries_emit _ _)
  refine Eq.trans ?_ given
  cases ending : reaction.ending with
  | returned =>
    rw [ending] at ended
    cases ended
    rfl
  | badState =>
    rw [ending] at ended
    cases ended
    exact resubscribe_entries _ called
  | exception =>
    rw [ending] at ended
    cases ended

/-- A snapshot gives the sequencer the levels of the message, and nothing else. -/
theorem Rest.orderBookAck_entries {config : Config} {symbol : String}
    {reaction : Reaction SnapshotCallback} {message : OrderBookAck}
    {feeds : Feeds Store Queue} {result : Feeds Store Queue × Outcome}
    (handled : orderBookAck config symbol reaction message feeds = .ok result) :
    result.1.entries =
      feeds.entries ++ levelEntries (mbpUpdates message.bids) (mbpUpdates message.asks) := by
  obtain ⟨called, made, ended⟩ := bind_ok.mp handled
  have silent : ∀ callback feeds next, snapshotCallback config symbol message callback feeds =
      .ok next → (next : Feeds Store Queue).entries = feeds.entries := by
    intro callback feeds next acted
    cases callback with
    | publishSnapshot bids asks lastSequence =>
      cases acted
      exact (Feeds.entries_emit _ _).trans (List.append_nil _)
    | requestSnapshot retries => exact requestSnapshot_entries acted
  have delivered : (feeds.emit (.delivered .orderBook symbol)).entries = feeds.entries :=
    (Feeds.entries_emit _ _).trans (List.append_nil _)
  have given : called.entries =
      feeds.entries ++ levelEntries (mbpUpdates message.bids) (mbpUpdates message.asks) := by
    rw [makeCallbacks_entries silent _ made, Feeds.entries_emit]
    exact congrArg (· ++ _) delivered
  refine Eq.trans ?_ given
  cases ending : reaction.ending with
  | returned | exception =>
    rw [ending] at ended
    cases ended
    rfl
  | badState =>
    rw [ending] at ended
    cases ended
    exact resubscribe_entries _ called

end Books

/-- Candlesticks publish their bars, unless the dispatch raises. -/
theorem Rest.candlesticksAck_entries (config : Config) (symbol : String) (raises : Bool)
    (message : CandlesticksAck) (feeds : Feeds Store Queue) :
    (candlesticksAck config symbol raises message feeds).1.entries.Sublist
      (feeds.entries ++ message.data.map fun item => .bar (createBar item)) := by
  have delivered : (feeds.emit (.delivered .candlesticks symbol)).entries = feeds.entries :=
    (Feeds.entries_emit _ _).trans (List.append_nil _)
  cases raises with
  | true =>
    show (feeds.emit (.delivered .candlesticks symbol)).entries.Sublist _
    rw [delivered]
    exact List.sublist_append_left _ _
  | false =>
    show (Feeds.emit _ _).entries.Sublist _
    rw [Feeds.entries_emit]
    show List.Sublist ((feeds.emit (.delivered .candlesticks symbol)).entries ++
      (message.data.map createBar).map ScratchEntry.bar) _
    rw [delivered, List.map_map]
    exact List.Sublist.refl _

/-- If the error handler only logs, what a reply outputs is what its success handler outputs. -/
theorem processResponse_entries {Body : Type} {response : RestResponse Body}
    {successHandler : Option Body → Feeds Store Queue → Except Fatal (Feeds Store Queue × Outcome)}
    {entries : Body → List ScratchEntry} {feeds next : Feeds Store Queue}
    (undecoded : successHandler none feeds = .ok (feeds, .raised))
    (decoded : ∀ message result, successHandler (some message) feeds = .ok result →
      result.1.entries.Sublist (feeds.entries ++ entries message))
    (processed : processResponse response (fun feeds => feeds) successHandler feeds = .ok next) :
    next.entries.Sublist (feeds.entries ++ replyEntries entries response) := by
  match response with
  | .result .success status body =>
    obtain ⟨⟨handled, outcome⟩, succeeded, returned⟩ := bind_ok.mp processed
    have kept : next = handled := by
      cases outcome <;> exact (Except.ok.inj returned).symm
    subst kept
    cases body with
    | none =>
      rw [undecoded] at succeeded
      cases succeeded
      exact List.sublist_append_left _ _
    | some message => exact decoded message _ succeeded
  | .result .redirection _ _ => cases processed
  | .result .unknown _ _ | .result .informationalResponse _ _ | .result .clientError _ _
  | .result .serverError _ _ | .omsException | .networkError | .exception =>
    cases processed
    exact List.sublist_append_left _ _

/-! ### Every message -/

section Messages

variable [Download2 Rest.State Driver] [Symbols String Store] [LimitQueue String Queue]

/-- A message of a market data connection is handled alike, whatever the scratch buffers hold. -/
theorem MarketData.handle_alike (config : Config) (context : Context) (position : Nat)
    {stream other : MarketData} (sameStream : stream.streamId = other.streamId)
    {event : StreamEvent} (uses : event.usesScratch) {first second : Feeds Store Queue}
    (same : first.outbox = second.outbox) :
    (handle config context position stream first event).map Feeds.outbox =
      (handle config context position other second event).map Feeds.outbox := by
  cases event with
  | trades message => exact congrArg Except.ok (trades_alike config sameStream message same)
  | candlesticks message =>
    exact congrArg Except.ok (candlesticks_alike config sameStream message same)
  | orderBookUpdate message reaction =>
    exact orderBookUpdate_alike config sameStream message reaction same
  | _ => cases uses

/-- What a message of a market data connection outputs are entries of its own. -/
theorem MarketData.handle_entries {config : Config} {context : Context} {position : Nat}
    {stream : MarketData} {event : StreamEvent} (uses : event.usesScratch)
    {feeds next : Feeds Store Queue}
    (handled : handle config context position stream feeds event = .ok next) :
    next.entries.Sublist (feeds.entries ++ event.entries config) := by
  cases event with
  | trades message =>
    cases handled
    rw [trades_entries]
    exact List.Sublist.refl _
  | candlesticks message =>
    cases handled
    exact candlesticks_entries config stream message feeds
  | orderBookUpdate message reaction =>
    rw [orderBookUpdate_entries handled]
    exact List.Sublist.refl _
  | _ => cases uses

/-- The connections of both gateways have the same ids. -/
def Controller.SameConnections (first second : Controller Driver Store Queue) : Prop :=
  first.feeds.marketData.map MarketData.streamId = second.feeds.marketData.map MarketData.streamId

/-- What a handled event shows: the outputs so far. -/
def Controller.outbox (controller : Controller Driver Store Queue) : List Output :=
  controller.feeds.outbox

/-- A message is handled alike, whatever the scratch buffers hold. -/
theorem Controller.handle_alike (config : Config) (context : Context)
    {first second : Controller Driver Store Queue} (connections : first.SameConnections second)
    (same : first.outbox = second.outbox) {event : Event} (uses : event.usesScratch) :
    (first.handle config context event).map outbox =
      (second.handle config context event).map outbox := by
  cases event with
  | stream position event =>
    have connection : first.feeds.marketData[position]?.map MarketData.streamId =
        second.feeds.marketData[position]?.map MarketData.streamId := by
      rw [← List.getElem?_map, connections, List.getElem?_map]
    rw [handle, handle]
    cases firstStream : first.feeds.marketData[position]? with
    | none =>
      cases secondStream : second.feeds.marketData[position]? with
      | none => exact congrArg Except.ok same
      | some other =>
        rw [firstStream, secondStream] at connection
        cases connection
    | some stream =>
      cases secondStream : second.feeds.marketData[position]? with
      | none =>
        rw [firstStream, secondStream] at connection
        cases connection
      | some other =>
        rw [firstStream, secondStream] at connection
        have sameStream : stream.streamId = other.streamId := Option.some.inj connection
        exact map_bind_congr Feeds.outbox
          (MarketData.handle_alike config context position sameStream uses same)
          fun _ _ published => congrArg Except.ok published
  | orderBookReply symbol response reaction =>
    exact map_bind_congr Feeds.outbox
      (Rest.getOrderBookAck_alike config symbol response reaction same)
      fun _ _ published => congrArg Except.ok published
  | candlesticksReply symbol response raises =>
    exact map_bind_congr Feeds.outbox
      (Rest.getCandlesticksAck_alike config symbol response raises same)
      fun _ _ published => congrArg Except.ok published
  | _ => cases uses

/-- What a message outputs from the scratch buffers are entries of its own. -/
theorem Controller.handle_entries {config : Config} {context : Context}
    {controller next : Controller Driver Store Queue} {event : Event} (uses : event.usesScratch)
    (handled : controller.handle config context event = .ok next) :
    next.feeds.entries.Sublist (controller.feeds.entries ++ event.entries config) := by
  cases event with
  | stream position event =>
    rw [handle] at handled
    cases connection : controller.feeds.marketData[position]? with
    | none =>
      rw [connection] at handled
      cases handled
      exact List.sublist_append_left _ _
    | some stream =>
      rw [connection] at handled
      obtain ⟨feeds, published, returned⟩ := bind_ok.mp handled
      cases returned
      exact MarketData.handle_entries uses published
  | orderBookReply symbol response reaction =>
    obtain ⟨feeds, published, returned⟩ := bind_ok.mp handled
    cases returned
    refine processResponse_entries rfl ?_ published
    intro message result acted
    rw [Rest.orderBookAck_entries acted]
  | candlesticksReply symbol response raises =>
    obtain ⟨feeds, published, returned⟩ := bind_ok.mp handled
    cases returned
    refine processResponse_entries rfl ?_ published
    intro message result acted
    cases acted
    exact Rest.candlesticksAck_entries config symbol raises message controller.feeds
  | _ => cases uses

/-- The scratch buffers never leak. Whatever two gateways with the same connections handled
before, and however it ended, they output the same for the next message, or end alike; and the
entries output for it are entries of that message, in order and each at most once. -/
theorem scratch_never_leaks (config : Config) (first second : Controller Driver Store Queue)
    (connections : first.SameConnections second) (input : Input)
    (uses : input.event.usesScratch) :
    (first.step config input).map Prod.snd = (second.step config input).map Prod.snd ∧
      ∀ next outputs, first.step config input = .ok (next, outputs) →
        (outputs.flatMap Output.entries).Sublist (input.event.entries config) := by
  constructor
  · refine map_bind_congr Controller.outbox ?_ fun _ _ shows => congrArg Except.ok shows
    have cleared : first.clearOutbox.SameConnections second.clearOutbox := connections
    exact Controller.handle_alike config input.context cleared rfl uses
  · intro next outputs taken
    obtain ⟨handled, handles, returned⟩ := bind_ok.mp taken
    cases returned
    exact Controller.handle_entries uses handles

end Messages

/-! ### A plain market -/

/-- The trades of two contracts. -/
def plainTrades : Trades where
  timeMs := 0
  result := [⟨.number 1, 7, 0, .number 100, "BTC_USDT"⟩, ⟨.number 2, 8, 0, .number 10, "ETH_USDT"⟩]

/-- A client subscribes, and the connection comes up. -/
def plainConnection : List Event := [.subscribe ["BTC_USDT", "ETH_USDT"], .stream 0 .ready]

/-- Messages that leave something in every scratch buffer. Both replies end by an exception. -/
def plainLeftovers : List Event :=
  [.stream 0 (.trades plainTrades),
    .candlesticksReply "BTC_USDT" (.result .success 200 (some
      ⟨[⟨0, .number 1, .number 1, .number 1, .number 1, .number 1, "1m_BTC_USDT", .number 1, true,
        .number 1⟩]⟩)) true,
    .orderBookReply "BTC_USDT" (.result .success 200 (some
      ⟨0, [⟨.number 2, .number 1⟩], [⟨.number 1, .number 1⟩], 1, 0⟩)) ⟨[], .exception⟩]

/-- The next trades are published as if they were the first. -/
theorem scratch_never_leaks_plain : ∃ history used history' fresh,
    plainMarket.Run (fun _ _ _ => True) history used ∧
      plainMarket.Run (fun _ _ _ => True) history' fresh ∧
        used.feeds.shared.trades ≠ [] ∧ used.feeds.shared.bars ≠ [] ∧
          used.feeds.shared.mbpBids ≠ [] ∧ fresh.feeds.shared.trades = [] ∧
            (used.step plainConfig ⟨⟨0, fun _ => false⟩, .stream 0 (.trades plainTrades)⟩).map
                Prod.snd =
              (fresh.step plainConfig ⟨⟨0, fun _ => false⟩, .stream 0 (.trades plainTrades)⟩).map
                Prod.snd := by
  have used : plainMarket.Run (fun _ _ _ => True) _ _ :=
    .of_replay (plainInputs (plainConnection ++ plainLeftovers)) rfl (by decide)
  have fresh : plainMarket.Run (fun _ _ _ => True) _ _ :=
    .of_replay (plainInputs plainConnection) rfl (by decide)
  refine ⟨_, _, _, _, used, fresh, by decide, by decide, by decide, rfl, ?_⟩
  exact (scratch_never_leaks plainConfig _ _ rfl _ rfl).1

end GateFutures.Market
