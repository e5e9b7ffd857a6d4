/-
This file assembles the streams of one account into a reactive machine.

Its inputs are every event the two streams handle, in any order: timers, connects and
disconnects of either connection, order actions of the host, messages of the exchange
and replies to REST requests. An input that answers a request names it. The name is for
the observer only: no handler reads it.
-/

import GateFutures.Gateway.OrderEntry
import GateFutures.Library.Run

namespace GateFutures.Gateway

open Framework Library Protocol Roq

/-! ### Inputs -/

/-- A query for the status of one order: the id of its frame, the order it names, and the
stage the download was in when the query was raised. -/
structure StatusQuery where
  frame : UInt32
  clientOrderId : String
  stage : DropCopy.State
  deriving DecidableEq

/-- A REST request: its kind, and how many steps were taken before it was sent. -/
structure RestRequest where
  kind : RestKind
  sentAt : Nat
  deriving DecidableEq

/-- An event the two streams handle. -/
inductive Event
  | timer (refresh : Bool)
  | connected
  | disconnected
  | ready
  | binary
  | createOrder (messageInfo : MessageInfo) (request : CreateOrder) (order : Order)
      (refData : RefData) (requestId : String)
  | modifyOrder (messageInfo : MessageInfo) (request : ModifyOrder) (order : Order)
      (refData : RefData) (requestId : String)
  | cancelOrder (messageInfo : MessageInfo) (order : Order) (requestId : String)
  | cancelAllOrders (messageInfo : MessageInfo) (requestId : String)
  | tradeLogin (message : TradeLogin)
  | tradeSubscribe (message : TradeSubscribe)
  | tradeBalances (message : TradeBalances)
  | tradePositions (message : TradePositions)
  | tradeOrders (message : TradeOrders)
  | tradeTrades (message : TradeTrades)
  | tradeOrderPlace (message : TradeOrderPlace)
  | tradeOrderAmend (message : TradeOrderAmend)
  | tradeOrderCancel (message : TradeOrderCancel)
  | tradeOrderCancelCp (message : TradeOrderCancelCp)
  | tradeOrderList (message : TradeOrderList)
  | tradeOrderStatus (query : StatusQuery) (message : TradeOrderStatus)
  | futuresSystem
  | orderEntryTimer (refresh : Bool) (allowed : RestKind → Bool)
  | orderEntryConnected
  | orderEntryDisconnected
  | accountsReply (request : RestRequest) (response : RestResponse Unit)
  | positionsReply (request : RestRequest) (response : RestResponse Positions)
  | tradesReply (request : RestRequest) (response : RestResponse UserTrades)

/-- An event, and what its handler may read. -/
structure Input where
  context : Context
  event : Event

/-! ### The machine -/

section Machine

variable {Driver Mark : Type} [Download2 DropCopy.State Driver] [LimitRequest Mark]

/-- Handle an event. -/
def Session.handle (config : Config) (context : Context) (session : Session Driver Mark) :
    Event → Except Fatal (Session Driver Mark)
  | .timer refresh => .ok (session.timer config context refresh)
  | .connected => .ok session
  | .disconnected => .ok session.disconnected
  | .ready => .ok (session.socketReady config context)
  | .binary => .error .binaryMessage
  | .createOrder messageInfo request order refData requestId =>
    .ok (session.createOrder config messageInfo request order refData requestId)
  | .modifyOrder messageInfo request order refData requestId =>
    .ok (session.modifyOrder config messageInfo request order refData requestId)
  | .cancelOrder messageInfo order requestId =>
    .ok (session.cancelOrder messageInfo order requestId)
  | .cancelAllOrders messageInfo requestId =>
    .ok (session.cancelAllOrders context messageInfo requestId)
  | .tradeLogin message => session.tradeLogin config context message
  | .tradeSubscribe message => session.tradeSubscribe config context message
  | .tradeBalances message => .ok (session.tradeBalances config message)
  | .tradePositions message => .ok (session.tradePositions config context message)
  | .tradeOrders message => session.tradeOrders config message
  | .tradeTrades message => .ok (session.tradeTrades config context message)
  | .tradeOrderPlace message => session.tradeOrderPlace config message
  | .tradeOrderAmend message => session.tradeOrderAmend config message
  | .tradeOrderCancel message => session.tradeOrderCancel config message
  | .tradeOrderCancelCp message => .ok (session.tradeOrderCancelCp config message)
  | .tradeOrderList message => session.tradeOrderList config context message
  | .tradeOrderStatus _ message => session.tradeOrderStatus config context message
  | .futuresSystem => .ok session
  | .orderEntryTimer refresh allowed =>
    .ok (session.mapStreams (OrderEntry.timer config context.traceInfo refresh allowed))
  | .orderEntryConnected => .ok (session.mapStreams (OrderEntry.setConnectionStatus .ready))
  | .orderEntryDisconnected =>
    .ok (session.mapStreams (OrderEntry.setConnectionStatus .disconnected))
  | .accountsReply _ response => do
    let streams ← OrderEntry.getAccountsAck response session.streams
    return { session with streams }
  | .positionsReply _ response => do
    let streams ← OrderEntry.getPositionsAck config context response session.streams
    return { session with streams }
  | .tradesReply _ response => do
    let streams ← OrderEntry.getTradesAck config context response session.streams
    return { session with streams }

/-- Forget the outputs of earlier steps. -/
def Session.clearOutbox (session : Session Driver Mark) : Session Driver Mark :=
  session.mapStreams fun streams => { streams with outbox := [] }

/-- Handle an input; the outputs are those of this step. -/
def Session.step (config : Config) (session : Session Driver Mark) (input : Input) :
    Except Fatal (Session Driver Mark × List Output) := do
  let next ← session.clearOutbox.handle config input.context input.event
  return (next, next.streams.outbox)

/-- The streams of an account, as constructed. -/
def Session.initial : Session Driver Mark where
  streams := Streams.initial
  download := Download2.initial

/-- The streams of one account. -/
def account (config : Config) : Machine (Session Driver Mark) Input (List Output) Fatal where
  initial := Session.initial
  step := Session.step config

end Machine

/-! ### What an observer sees -/

variable {Driver Mark : Type} [Download2 DropCopy.State Driver]

/-- The history of an account's streams. -/
abbrev AccountHistory (Driver Mark : Type) := History (Session Driver Mark) Input (List Output)

/-- One step of an account's streams. -/
abbrev AccountEntry (Driver Mark : Type) := Entry (Session Driver Mark) Input (List Output)

/-- The stage a step was taken in. -/
def stage (entry : AccountEntry Driver Mark) : DropCopy.State := entry.before.state

/-- The trading connection published `READY`. -/
def PublishesReady (outputs : List Output) : Prop :=
  Output.streamStatus .dropCopy .ready "" ∈ outputs

instance (outputs : List Output) : Decidable (PublishesReady outputs) :=
  inferInstanceAs (Decidable (_ ∈ outputs))

/-- The trading connection published that it entered a stage of the download. -/
def EntersStage (state : DropCopy.State) (outputs : List Output) : Prop :=
  Output.streamStatus .dropCopy .downloading state.enumName ∈ outputs

instance (state : DropCopy.State) (outputs : List Output) :
    Decidable (EntersStage state outputs) :=
  inferInstanceAs (Decidable (_ ∈ outputs))

/-- The event is the end of a connection. -/
def Event.isDisconnected : Event → Bool
  | .disconnected => true
  | _ => false

/-- The status query a frame makes. -/
def Frame.statusQuery (frame : Frame) (stage : DropCopy.State) : Option StatusQuery :=
  match frame.payload with
  | .orderStatus reqId _ _ => some ⟨frame.id, reqId, stage⟩
  | _ => none

/-- The status query an output makes. -/
def Output.statusQuery (stage : DropCopy.State) : Output → Option StatusQuery
  | .sendText frame => Frame.statusQuery frame stage
  | _ => none

/-- The order request a frame makes: its request id and its type. -/
def Frame.orderRequest (frame : Frame) : Option (String × RequestType) :=
  match frame.payload with
  | .orderPlace reqId .. => some (reqId, .createOrder)
  | .orderAmend reqId .. => some (reqId, .modifyOrder)
  | .orderCancel reqId _ => some (reqId, .cancelOrder)
  | _ => none

/-- The order request an output makes. -/
def Output.orderRequest : Output → Option (String × RequestType)
  | .sendText frame => Frame.orderRequest frame
  | _ => none

/-- The response an output dispatches. -/
def Output.response? : Output → Option Response
  | .response answer _ => some answer
  | _ => none

/-- The order update an output dispatches on its own. -/
def Output.orderUpdate? : Output → Option OrderUpdate
  | .orderUpdate update => some update
  | _ => none

/-- The position update an output dispatches. -/
def Output.positionUpdate? : Output → Option PositionUpdate
  | .positionUpdate update => some update
  | _ => none

/-- The kind of REST request an output sends. -/
def Output.restKind? : Output → Option RestKind
  | .restRequest kind _ _ => some kind
  | _ => none

/-! ### A plain account -/

/-- An account without a trades lookback. -/
def plainConfig : Config where
  settings :=
    { exchange := "gate.io", tradesLookback := 0, tradesLookbackOnRestart := 0
      checkStaleOrderFreq := 1000000000, retryLogon := false }
  account :=
    { name := "A1", key := "key", createSignatureLogin := fun _ _ _ _ => "signature"
      createSignature := fun _ _ _ => "signature" }
  api :=
    { accounts := "/futures/usdt/accounts", positions := "/futures/usdt/positions"
      trades := "/futures/usdt/my_trades" }
  dropCopyStreamId := 1
  orderEntryStreamId := 2
  sign
    | .buy => 1
    | .sell => -1
    | .undefined => 0
  computeProfitLossAmount _ _ _ _ := .nan

/-- A host that reports the given orders stale. -/
def plainContext (allStaleOrders : List Order) : Context where
  traceInfo := ⟨1000000000, 1000000000⟩
  dispatcher :=
    { allStaleOrders, allOrderSymbols := [], discardSymbol := fun _ => false
      multiplier := fun _ _ => .number 1 }
  symbol2SettleCoin _ := some "usdt"

/-- The streams of the plain account, over the plain driver and marks. -/
abbrev plainAccount : Machine (Session (PlainDownload DropCopy.State) PlainRequest) Input
    (List Output) Fatal := account plainConfig

/-- Events of a host that reports nothing stale. -/
def plainInputs (events : List Event) : List Input := events.map fun event =>
  ⟨plainContext [], event⟩

/-- The connection, the login and the acknowledged subscription of the balances. -/
def plainLogin : List Event :=
  [.orderEntryConnected, .ready, .tradeLogin ⟨⟨0, 200⟩, 1⟩, .tradeSubscribe ⟨.balances, .success⟩]

/-- A download of the plain account up to its order list, given the two REST replies and the
orders the host then reports stale. -/
def plainDownload (accounts : RestResponse Unit) (positions : RestResponse Positions)
    (allStaleOrders : List Order) : List Input :=
  plainInputs (plainLogin ++
    [.orderEntryTimer true fun _ => true, .accountsReply ⟨.accounts, 4⟩ accounts, .timer true,
      .tradeSubscribe ⟨.positions, .success⟩,
      .orderEntryTimer true fun _ => true, .positionsReply ⟨.positions, 8⟩ positions, .timer true,
      .tradeSubscribe ⟨.orders, .success⟩]) ++
    [⟨plainContext allStaleOrders, .tradeOrderList ⟨[]⟩⟩]

end GateFutures.Gateway
