/-
This file compares the two ways a fill of the account is published: from the trading
connection when it happens, and from the REST connection when the trades are downloaded.

The two handlers read different items, and each has a loop of its own. The bodies of the two loops
are equal but for the values they are given: the number of the connection, the id of the trade, its
times and the type of the update. So both are one conversion, applied to each handler's values. A
live fill and its download are the same fill up to the time of the trade, which the trading
connection knows to the millisecond and the download to the microsecond.
-/

import GateFutures.Gateway.Positions
import Mathlib.Data.List.Forall2

namespace GateFutures.Gateway

open Framework Library Protocol Roq

/-! ### What the two connections report -/

/-- `std::chrono::duration_cast<std::chrono::milliseconds>`. -/
def toMilliseconds (nanoseconds : Int) : Int := nanoseconds.tdiv 1000000

/-- A time that was cut to milliseconds is the same time in milliseconds. -/
theorem toMilliseconds_truncated (nanoseconds : Int) :
    toMilliseconds (1000000 * toMilliseconds nanoseconds) = toMilliseconds nanoseconds :=
  Int.mul_tdiv_cancel_left _ (by decide)

/-- The items of the two connections report one trade: all they have in common is equal, and the
live time is the downloaded one cut to milliseconds. -/
structure SameTrade (live : TradeTradesResultItem) (downloaded : UserTradesItem) : Prop where
  tradeId : live.id = downloaded.tradeId
  orderId : live.orderId = downloaded.orderId
  contract : live.contract = downloaded.contract
  size : live.size = downloaded.size
  role : live.role = downloaded.role
  price : live.price = downloaded.price
  text : live.text = downloaded.text
  fee : live.fee = downloaded.fee
  createTime : live.createTimeMs = 1000000 * toMilliseconds downloaded.createTime

/-- The order of a trade was placed by the gateway. -/
def isPlaced (text : String) : Bool := DropCopy.getClientOrderId text ≠ ""

/-! ### What the handlers publish -/

/-- The update the trading connection publishes of a trade. -/
def liveUpdate (config : Config) (context : Context) (timeMs : Int)
    (item : TradeTradesResultItem) : TradeUpdate :=
  createTradeUpdate config context config.dropCopyStreamId (DropCopy.getClientOrderId item.text)
    item.id item.contract item.orderId item.size item.role item.price item.fee item.createTimeMs
    .incremental timeMs

/-- The update the REST connection publishes of a trade. -/
def downloadedUpdate (config : Config) (context : Context) (item : UserTradesItem) : TradeUpdate :=
  createTradeUpdate config context config.orderEntryStreamId (DropCopy.getClientOrderId item.text)
    item.tradeId item.contract item.orderId item.size item.role item.price item.fee
    item.createTime .snapshot 0

/-- The updates the trading connection publishes: of the orders the gateway placed, in order. -/
def liveUpdates (config : Config) (context : Context) (message : TradeTrades) :
    List TradeUpdate :=
  (message.result.filter fun item => isPlaced item.text).map
    (liveUpdate config context message.timeMs)

/-- The updates the REST connection publishes: of the orders the gateway placed, in order. -/
def downloadedUpdates (config : Config) (context : Context) (message : UserTrades) :
    List TradeUpdate :=
  (message.data.filter fun item => isPlaced item.text).map (downloadedUpdate config context)

variable {Driver Mark : Type}

/-- The loop of both handlers publishes the trades of the orders the gateway placed, in order. -/
theorem foldl_placed_outbox {Item : Type} (text : Item → String) (update : Item → TradeUpdate)
    (items : List Item) (streams : Streams Mark) :
    (items.foldl (fun current item =>
        if DropCopy.getClientOrderId (text item) = "" then current
        else current.emit (.tradeUpdate (update item))) streams).outbox =
      streams.outbox ++
        ((items.filter fun item => isPlaced (text item)).map update).map Output.tradeUpdate := by
  have loop := foldl_emit_outbox (fun item => !isPlaced (text item))
    (fun item => .tradeUpdate (update item)) items streams
  simpa [isPlaced, Function.comp_def] using loop

theorem Session.tradeTrades_outbox (config : Config) (context : Context) (message : TradeTrades)
    (session : Session Driver Mark) :
    (session.tradeTrades config context message).streams.outbox = session.streams.outbox ++
      (liveUpdates config context message).map Output.tradeUpdate :=
  foldl_placed_outbox TradeTradesResultItem.text (liveUpdate config context message.timeMs)
    message.result session.streams

theorem OrderEntry.userTrades_outbox (config : Config) (context : Context) (message : UserTrades)
    (streams : Streams Mark) :
    (OrderEntry.userTrades config context message streams).outbox = streams.outbox ++
      (downloadedUpdates config context message).map Output.tradeUpdate :=
  foldl_placed_outbox UserTradesItem.text (downloadedUpdate config context) message.data streams

/-! ### One fill -/

/-- The fills agree: all but their times is equal, and their times are to the millisecond. -/
structure FillsAgree (live downloaded : Fill) : Prop where
  exchangeTime : toMilliseconds live.exchangeTimeUtc = toMilliseconds downloaded.exchangeTimeUtc
  others : live = { downloaded with exchangeTimeUtc := live.exchangeTimeUtc }

/-- The updates agree: their times are equal to the millisecond, their fills agree, and all else
is equal but the stream, the update type and the sending time. -/
structure UpdatesAgree (live downloaded : TradeUpdate) : Prop where
  createTime : toMilliseconds live.createTimeUtc = toMilliseconds downloaded.createTimeUtc
  updateTime : toMilliseconds live.updateTimeUtc = toMilliseconds downloaded.updateTimeUtc
  fills : List.Forall₂ FillsAgree live.fills downloaded.fills
  others : live =
    { downloaded with
      streamId := live.streamId
      createTimeUtc := live.createTimeUtc
      updateTimeUtc := live.updateTimeUtc
      fills := live.fills
      updateType := live.updateType
      sendingTimeUtc := live.sendingTimeUtc }

/-- One trade is published as updates that agree, if the host has the same contracts. -/
theorem SameTrade.updatesAgree {live : TradeTradesResultItem} {downloaded : UserTradesItem}
    (same : SameTrade live downloaded) (config : Config) {liveContext context : Context}
    (refData : liveContext.dispatcher.multiplier = context.dispatcher.multiplier) (timeMs : Int) :
    UpdatesAgree (liveUpdate config liveContext timeMs live)
      (downloadedUpdate config context downloaded) := by
  obtain ⟨id, orderId, contract, createTimeMs, size, role, price, text, fee⟩ := live
  obtain ⟨rfl, rfl, rfl, rfl, rfl, rfl, rfl, rfl, rfl⟩ := same
  have time := toMilliseconds_truncated downloaded.createTime
  refine ⟨time, time, .cons ⟨time, ?_⟩ .nil, ?_⟩
  · simp only [refData]
  · rfl

/-! ### The account's trades -/

/-- Trades that both connections report, in one order, are skipped by both handlers or published
by both, in that order, as updates that agree. -/
theorem fills_agree (config : Config) (liveContext context : Context)
    (refData : liveContext.dispatcher.multiplier = context.dispatcher.multiplier)
    (trades : TradeTrades) (userTrades : UserTrades)
    (same : List.Forall₂ SameTrade trades.result userTrades.data) (session : Session Driver Mark)
    (streams : Streams Mark) :
    (session.tradeTrades config liveContext trades).streams.outbox = session.streams.outbox ++
        (liveUpdates config liveContext trades).map Output.tradeUpdate ∧
      (OrderEntry.userTrades config context userTrades streams).outbox = streams.outbox ++
        (downloadedUpdates config context userTrades).map Output.tradeUpdate ∧
      List.Forall₂ (fun live downloaded => isPlaced live.text = isPlaced downloaded.text)
        trades.result userTrades.data ∧
      List.Forall₂ UpdatesAgree (liveUpdates config liveContext trades)
        (downloadedUpdates config context userTrades) := by
  refine ⟨session.tradeTrades_outbox config liveContext trades,
    OrderEntry.userTrades_outbox config context userTrades streams, ?_, ?_⟩
  · exact same.imp fun live downloaded reports => congrArg isPlaced reports.text
  · have placed : List.Forall₂ SameTrade
        (trades.result.filter fun item => isPlaced item.text)
        (userTrades.data.filter fun item => isPlaced item.text) :=
      List.rel_filter (fun live downloaded reports => by
        show isPlaced live.text = true ↔ isPlaced downloaded.text = true
        rw [reports.text]) same
    refine List.forall₂_map_left_iff.mpr (List.forall₂_map_right_iff.mpr ?_)
    exact placed.imp fun live downloaded reports =>
      reports.updatesAgree config refData trades.timeMs

/-- Two trades as the trading connection reports them, the second of an order of another client. -/
def plainTradeTrades : TradeTrades where
  timeMs := 1727169518414000000
  result := [
    { id := "60117765", orderId := 533324294866, contract := "SOL_USDT"
      createTimeMs := 1727169518413000000, size := -1, role := .maker, price := .number 147.6
      text := "t-KAICtn9Y5BkCAQAAAAAA", fee := .number (-0.00738) },
    { id := "60117508", orderId := 533322588362, contract := "SOL_USDT"
      createTimeMs := 1727169120012000000, size := 1, role := .taker, price := .number 147.76
      text := "web", fee := .number 0.022164 }]

/-- The same trades as they are downloaded. -/
def plainUserTrades : UserTrades where
  data := [
    { contract := "SOL_USDT", createTime := 1727169518413100000, tradeId := "60117765"
      orderId := 533324294866, price := .number 147.6, size := -1, role := .maker
      text := "t-KAICtn9Y5BkCAQAAAAAA", fee := .number (-0.00738) },
    { contract := "SOL_USDT", createTime := 1727169120012400000, tradeId := "60117508"
      orderId := 533322588362, price := .number 147.76, size := 1, role := .taker
      text := "web", fee := .number 0.022164 }]

/-- The first of the two trades is published by both connections. -/
theorem fills_agree_plain :
    (liveUpdates plainConfig (plainContext []) plainTradeTrades).length = 1 ∧
      List.Forall₂ UpdatesAgree (liveUpdates plainConfig (plainContext []) plainTradeTrades)
        (downloadedUpdates plainConfig (plainContext []) plainUserTrades) := by
  have reported : List.Forall₂ SameTrade plainTradeTrades.result plainUserTrades.data :=
    .cons ⟨rfl, rfl, rfl, rfl, rfl, rfl, rfl, rfl, rfl⟩
      (.cons ⟨rfl, rfl, rfl, rfl, rfl, rfl, rfl, rfl, rfl⟩ .nil)
  exact ⟨by decide, (fills_agree plainConfig (plainContext []) (plainContext []) rfl
    plainTradeTrades plainUserTrades reported
    (Session.initial : Session (PlainDownload DropCopy.State) PlainRequest)
    Streams.initial).2.2.2⟩

end GateFutures.Gateway
