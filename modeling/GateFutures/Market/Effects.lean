/-
This file says what the outputs behind the market data are about, and which handlers only
publish: they send no frame, request no snapshot, and leave the queues, the symbols and the
connections alone.
-/

import GateFutures.Market.Controller

namespace GateFutures.Market

open Framework Library Protocol Roq

variable {Store Queue : Type}

/-! ### What outputs say -/

/-- The symbol an output puts on a queue. -/
def Output.queued? (kind : SnapshotKind) : Output → Option String
  | .emplaceBack other symbol => if other = kind then some symbol else none
  | _ => none

/-- The symbol an output requests a snapshot of. -/
def Output.requested? (kind : SnapshotKind) : Output → Option String
  | .snapshotRequest other symbol _ _ => if other = kind then some symbol else none
  | _ => none

/-- The snapshot reply an output gives to its handler. -/
def Output.delivered? : Output → Option (SnapshotKind × String)
  | .delivered kind symbol => some (kind, symbol)
  | _ => none

/-- The symbols an output hands to the controller. -/
def Output.handed : Output → List String
  | .symbolsUpdate symbols => symbols
  | _ => []

/-- The symbols an output subscribes to on a channel of a connection. -/
def Output.subscribed (index : Nat) (channel : String) : Output → List String
  | .sendText other frame =>
    if other = index ∧ frame.channel = channel ∧ frame.event = "subscribe" then
      frame.payload.names
    else []
  | _ => []

/-- The output sends no frame and tells the controller nothing. -/
def Output.isService : Output → Bool
  | .sendText .. | .symbolsUpdate _ => false
  | _ => true

/-- The output is about neither queues nor replies to snapshot requests. -/
def Output.isUnqueued : Output → Bool
  | .emplaceBack .. | .snapshotRequest .. | .delivered .. => false
  | _ => true

/-- The output is none of the above. -/
def Output.isPublication (output : Output) : Bool := output.isUnqueued && output.isService

theorem Output.isUnqueued_queued {output : Output} (unqueued : output.isUnqueued)
    (kind : SnapshotKind) : output.queued? kind = none := by
  cases output <;> first | rfl | cases unqueued

theorem Output.isUnqueued_requested {output : Output} (unqueued : output.isUnqueued)
    (kind : SnapshotKind) : output.requested? kind = none := by
  cases output <;> first | rfl | cases unqueued

theorem Output.isUnqueued_delivered {output : Output} (unqueued : output.isUnqueued) :
    output.delivered? = none := by
  cases output <;> first | rfl | cases unqueued

theorem Output.isService_handed {output : Output} (service : output.isService) :
    output.handed = [] := by
  cases output <;> first | rfl | cases service

theorem Output.isService_subscribed {output : Output} (service : output.isService) (index : Nat)
    (channel : String) : output.subscribed index channel = [] := by
  cases output <;> first | rfl | cases service

/-! ### Publishing -/

/-- The streams only published: nothing changed but scratch buffers, caches and the state of the
REST connection. -/
structure Feeds.Publishes (before after : Feeds Store Queue) : Prop where
  outbox : ∃ outputs, after.outbox = before.outbox ++ outputs ∧
    ∀ output ∈ outputs, output.isPublication
  queue : ∀ kind, after.shared.queue kind = before.shared.queue kind
  symbols : after.shared.symbols = before.shared.symbols
  allSymbols : after.shared.allSymbols = before.shared.allSymbols
  marketData : after.marketData = before.marketData

namespace Feeds.Publishes

variable {first second third : Feeds Store Queue}

theorem refl (feeds : Feeds Store Queue) : feeds.Publishes feeds :=
  ⟨⟨[], (List.append_nil _).symm, List.forall_mem_nil _⟩, fun _ => rfl, rfl, rfl, rfl⟩

theorem trans (earlier : first.Publishes second) (later : second.Publishes third) :
    first.Publishes third := by
  obtain ⟨outputs, grown, published⟩ := earlier.outbox
  obtain ⟨outputs', grown', published'⟩ := later.outbox
  refine ⟨⟨outputs ++ outputs', by rw [grown', grown, List.append_assoc], ?_⟩,
    fun kind => (later.queue kind).trans (earlier.queue kind),
    later.symbols.trans earlier.symbols, later.allSymbols.trans earlier.allSymbols,
    later.marketData.trans earlier.marketData⟩
  intro output member
  exact (List.mem_append.mp member).elim (published output) (published' output)

theorem emit (feeds : Feeds Store Queue) (output : Output) (publication : output.isPublication) :
    feeds.Publishes (feeds.emit output) :=
  ⟨⟨[output], rfl, by simpa using publication⟩, fun _ => rfl, rfl, rfl, rfl⟩

/-- A loop whose body publishes only publishes. -/
theorem foldl {Item : Type} {body : Feeds Store Queue → Item → Feeds Store Queue}
    (publishes : ∀ (feeds : Feeds Store Queue) (item : Item), feeds.Publishes (body feeds item))
    (items : List Item) (feeds : Feeds Store Queue) :
    feeds.Publishes (items.foldl body feeds) := by
  induction items generalizing feeds with
  | nil => exact refl feeds
  | cons item later inductionHypothesis =>
    exact (publishes feeds item).trans (inductionHypothesis (body feeds item))

end Feeds.Publishes

/-- Changes of the scratch buffers, the caches and the state of the REST connection publish
nothing. -/
theorem Feeds.Publishes.of_eq {before after : Feeds Store Queue}
    (outbox : after.outbox = before.outbox)
    (queue : ∀ kind, after.shared.queue kind = before.shared.queue kind)
    (symbols : after.shared.symbols = before.shared.symbols)
    (allSymbols : after.shared.allSymbols = before.shared.allSymbols)
    (marketData : after.marketData = before.marketData) : before.Publishes after :=
  ⟨⟨[], by rw [outbox, List.append_nil], List.forall_mem_nil _⟩, queue, symbols, allSymbols,
    marketData⟩

theorem Feeds.getMbp_publishes (feeds : Feeds Store Queue) : feeds.Publishes feeds.getMbp :=
  .of_eq rfl (fun kind => by cases kind <;> rfl) rfl rfl rfl

theorem Feeds.emplaceMbp_publishes (feeds : Feeds Store Queue) (bids asks : List PriceSize) :
    feeds.Publishes (feeds.emplaceMbp bids asks) :=
  .of_eq rfl (fun kind => by cases kind <;> rfl) rfl rfl rfl

theorem Feeds.trades_publishes (feeds : Feeds Store Queue) (trades : List Trade) :
    feeds.Publishes { feeds with shared.trades := trades } :=
  .of_eq rfl (fun kind => by cases kind <;> rfl) rfl rfl rfl

theorem Feeds.bars_publishes (feeds : Feeds Store Queue) (bars : List Bar) :
    feeds.Publishes { feeds with shared.bars := bars } :=
  .of_eq rfl (fun kind => by cases kind <;> rfl) rfl rfl rfl

/-! ### Handlers that only publish -/

namespace MarketData

variable (config : Config) (stream : MarketData)

theorem tickers_publishes (message : Tickers) (feeds : Feeds Store Queue) :
    feeds.Publishes (tickers config stream message feeds) :=
  .foldl (fun feeds _ => .emit feeds _ rfl) message.result feeds

theorem collectTrades_publishes (message : Trades) (items : List TradesItem) (contract : String)
    (timestamp : Int) (feeds : Feeds Store Queue) :
    feeds.Publishes (collectTrades config stream message items contract timestamp feeds).2.2 := by
  induction items generalizing contract timestamp feeds with
  | nil => exact .refl feeds
  | cons item later inductionHypothesis =>
    rw [collectTrades]
    by_cases changed : item.contract ≠ contract
    · rw [if_pos changed]
      refine .trans ?_ (inductionHypothesis _ _ _)
      refine .trans ?_ (Feeds.trades_publishes _ _)
      split
      · exact (Feeds.Publishes.emit feeds _ rfl).trans (Feeds.trades_publishes _ _)
      · exact .refl feeds
    · rw [if_neg changed]
      exact (Feeds.trades_publishes feeds _).trans (inductionHypothesis _ _ _)

theorem trades_publishes (message : Trades) (feeds : Feeds Store Queue) :
    feeds.Publishes (trades config stream message feeds) := by
  have collected := (Feeds.trades_publishes feeds []).trans
    (collectTrades_publishes config stream message message.result "" 0 _)
  rw [trades]
  dsimp only
  split
  · exact collected.trans (.emit _ _ rfl)
  · exact collected

theorem bookTicker_publishes (message : BookTicker) (feeds : Feeds Store Queue) :
    feeds.Publishes (bookTicker config stream message feeds) :=
  .emit feeds _ rfl

theorem publishBars_publishes (message : Candlesticks) (symbol : String)
    (feeds : Feeds Store Queue) :
    feeds.Publishes (publishBars config stream message symbol feeds) := by
  rw [publishBars]
  split
  · exact .refl feeds
  · exact (Feeds.Publishes.emit feeds _ rfl).trans (Feeds.bars_publishes _ _)

theorem collectBars_publishes (message : Candlesticks) (items : List CandlesticksItem)
    (symbol : String) (feeds : Feeds Store Queue) :
    feeds.Publishes (collectBars config stream message items symbol feeds).2 := by
  induction items generalizing symbol feeds with
  | nil => exact .refl feeds
  | cons item later inductionHypothesis =>
    rw [collectBars]
    by_cases changed : item.name ≠ symbol
    · rw [if_pos changed]
      have published := publishBars_publishes config stream message symbol feeds
      dsimp only
      split
      · exact published.trans (inductionHypothesis _ _)
      · exact (published.trans (Feeds.bars_publishes _ _)).trans (inductionHypothesis _ _)
    · rw [if_neg changed]
      dsimp only
      split
      · exact inductionHypothesis _ _
      · exact (Feeds.bars_publishes feeds _).trans (inductionHypothesis _ _)

theorem candlesticks_publishes (message : Candlesticks) (feeds : Feeds Store Queue) :
    feeds.Publishes (candlesticks config stream message feeds) :=
  ((Feeds.bars_publishes feeds []).trans (collectBars_publishes config stream message _ "" _)).trans
    (publishBars_publishes config stream message _ _)

end MarketData

theorem Rest.setConnectionStatus_publishes (config : Config) (status : ConnectionStatus)
    (feeds : Feeds Store Queue) :
    feeds.Publishes (Rest.setConnectionStatus config status feeds) := by
  have changed : feeds.Publishes { feeds with rest.connectionStatus := status } :=
    .of_eq rfl (fun kind => by cases kind <;> rfl) rfl rfl rfl
  exact changed.trans (.emit _ _ rfl)

theorem Rest.cacheSettleCoin_publishes (symbol currency : String) (feeds : Feeds Store Queue) :
    feeds.Publishes (Rest.cacheSettleCoin symbol currency feeds) :=
  .of_eq rfl (fun kind => by cases kind <;> rfl) rfl rfl rfl

theorem Rest.download_publishes (config : Config) (state : Rest.State) (sequence : UInt32)
    (feeds : Feeds Store Queue) :
    feeds.Publishes (Rest.download config state sequence feeds).1 := by
  cases state with
  | undefined => exact .refl feeds
  | currencies =>
    rw [Rest.download]
    split
    · exact .refl feeds
    · exact .emit feeds _ rfl
  | contracts => exact .emit feeds _ rfl
  | done => exact Rest.setConnectionStatus_publishes config .ready feeds

/-! ### The download publishes -/

namespace Controller

variable {Driver : Type} [Download2 Rest.State Driver]

theorem restDisconnected_publishes (config : Config)
    (controller : Controller Driver Store Queue) :
    controller.feeds.Publishes (controller.restDisconnected config).feeds := by
  have disconnected := Rest.setConnectionStatus_publishes config .disconnected controller.feeds
  rw [restDisconnected]
  split <;> exact disconnected

variable [LawfulCallbacks Rest.State Driver]

/-- A call of the download's callback only publishes. -/
theorem callback_publishes (config : Config) (first : Feeds Store Queue) (state : Rest.State)
    (sequence : UInt32) (feeds : Feeds Store Queue) (before : first.Publishes feeds) :
    first.Publishes (Rest.download config state sequence feeds).1 :=
  before.trans (Rest.download_publishes config state sequence feeds)

variable (config : Config) (controller : Controller Driver Store Queue)

theorem begin_publishes : controller.feeds.Publishes (controller.begin config).feeds :=
  LawfulCallbacks.begin_keeps _ _ (callback_publishes config controller.feeds) _ _ (.refl _)

theorem bump_publishes : controller.feeds.Publishes (controller.bump config).feeds :=
  LawfulCallbacks.bump_keeps _ _ (callback_publishes config controller.feeds) _ _ (.refl _)

theorem retry_publishes (state : Rest.State) :
    controller.feeds.Publishes (controller.retry config state).feeds :=
  LawfulCallbacks.retry_keeps _ _ (callback_publishes config controller.feeds) _ _ _ (.refl _)

theorem check_publishes (state : Rest.State) :
    controller.feeds.Publishes (controller.check config state).feeds :=
  LawfulCallbacks.check_keeps _ _ (callback_publishes config controller.feeds) _ _ _ (.refl _)

theorem restConnected_publishes :
    controller.feeds.Publishes (controller.restConnected config).feeds := by
  rw [restConnected]
  split
  · exact controller.bump_publishes config
  · exact (Rest.setConnectionStatus_publishes config .downloading controller.feeds).trans
      (begin_publishes config (controller.mapFeeds (Rest.setConnectionStatus config .downloading)))

end Controller

end GateFutures.Market
