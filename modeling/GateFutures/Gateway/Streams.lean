/-
This file defines the state of one account's two streams: the trading connection
(`DropCopy`), the REST connection (`OrderEntry`), and the request marks (`Request`)
through which the first asks the second for a snapshot.

A handler's effects outside the streams are outputs. They collect in an outbox, in the
order the handler produced them.
-/

import GateFutures.Framework.Download
import GateFutures.Framework.Limit
import GateFutures.Protocol.Encoder

namespace GateFutures.Gateway

open Framework Protocol Roq

/-! ### What the streams read -/

/-- `Settings`, as far as the streams read them. -/
structure Settings where
  exchange : String
  tradesLookback : Int
  tradesLookbackOnRestart : Int
  checkStaleOrderFreq : Int
  retryLogon : Bool

/-- `Account`: its name, its key and its two signatures. -/
structure Account where
  name : String
  key : String
  createSignatureLogin : (event channel reqParam : String) → (timestamp : Int) → String
  createSignature : (channel event : String) → (timestamp : Int) → String

/-- `API`: the paths of the account's REST requests. -/
structure Api where
  accounts : String
  positions : String
  trades : String

/-- What is fixed when the streams are created, and the host's arithmetic. -/
structure Config where
  settings : Settings
  account : Account
  api : Api
  dropCopyStreamId : UInt16
  orderEntryStreamId : UInt16
  sign : Side → ℚ
  computeProfitLossAmount : Side → Double → Double → Double → Double

/-- What `server::Dispatcher` answers at the moment of an event. -/
structure Dispatcher where
  allStaleOrders : List Order
  allOrderSymbols : List String
  discardSymbol : String → Bool
  multiplier : (exchange symbol : String) → Double

/-- What a handler may read besides its message and the streams. -/
structure Context where
  traceInfo : TraceInfo
  dispatcher : Dispatcher
  symbol2SettleCoin : String → Option String

/-- `Shared::get_settle_coin`. -/
def Context.getSettleCoin (context : Context) (symbol : String) : String :=
  (context.symbol2SettleCoin symbol).getD ""

/-- `std::chrono::duration_cast<std::chrono::seconds>`. -/
def toSeconds (nanoseconds : Int) : Int := nanoseconds.tdiv 1000000000

/-- `log::fatal`, by where it is called. The process ends there. -/
inductive Fatal
  | loginUserId
  | loginRejected
  | subscribeRejected
  | unexpectedOrderStatus
  | unexpectedStatusReply
  | binaryMessage
  | redirected
  deriving DecidableEq, Repr

/-! ### Outputs -/

/-- The REST requests of `OrderEntry`. -/
inductive RestKind
  | accounts | positions | trades
  deriving DecidableEq, Repr

/-- Which of the two streams published a status. -/
inductive Stream
  | dropCopy | orderEntry
  deriving DecidableEq, Repr

/-- An effect of a handler outside the streams. -/
inductive Output
  | streamStatus (stream : Stream) (status : ConnectionStatus) (reason : String)
  | fundsUpdate (update : FundsUpdate)
  | positionUpdate (update : PositionUpdate)
  | tradeUpdate (update : TradeUpdate)
  | orderUpdate (update : OrderUpdate)
  | response (response : Response) (update : Option OrderUpdate)
  | cancelAllOrdersAck (ack : CancelAllOrdersAck)
  | sendText (frame : Frame)
  | close
  | restRequest (kind : RestKind) (path query : String)
  deriving DecidableEq

/-! ### The streams -/

/-- `DropCopy::State`. -/
inductive DropCopy.State
  | undefined
  | subscribeBalances
  | getBalances
  | subscribePositions
  | getPositions
  | subscribeOrders
  | getOpenOrders
  | getStaleOrders
  | subscribeTrades
  | getTrades
  | done
  deriving DecidableEq, Repr

instance : Enumerated DropCopy.State where
  undefined := .undefined
  enumerators := [.subscribeBalances, .getBalances, .subscribePositions, .getPositions,
    .subscribeOrders, .getOpenOrders, .getStaleOrders, .subscribeTrades, .getTrades, .done]

/-- `magic_enum::enum_name`. -/
def DropCopy.State.enumName : DropCopy.State → String
  | .undefined => "UNDEFINED"
  | .subscribeBalances => "SUBSCRIBE_BALANCES"
  | .getBalances => "GET_BALANCES"
  | .subscribePositions => "SUBSCRIBE_POSITIONS"
  | .getPositions => "GET_POSITIONS"
  | .subscribeOrders => "SUBSCRIBE_ORDERS"
  | .getOpenOrders => "GET_OPEN_ORDERS"
  | .getStaleOrders => "GET_STALE_ORDERS"
  | .subscribeTrades => "SUBSCRIBE_TRADES"
  | .getTrades => "GET_TRADES"
  | .done => "DONE"

theorem DropCopy.State.enumName_injective : Function.Injective DropCopy.State.enumName := by
  intro first second same
  cases first <;> cases second <;> first | rfl | exact absurd same (by decide)

/-- `DropCopy`, less its download. -/
structure DropCopy where
  requestId : UInt32
  ready : Bool
  connectionStatus : ConnectionStatus
  userId : Int
  nextCheckStaleOrders : Int
  downloadStaleOrdersCounter : Nat
  deriving DecidableEq

/-- `OrderEntry`. -/
structure OrderEntry where
  connectionStatus : ConnectionStatus
  downloadTradesIsFirst : Bool
  deriving DecidableEq

/-- `Request`: one mark for each snapshot the trading connection asks for. -/
structure Request (Mark : Type) where
  balances : Mark
  positions : Mark
  trades : Mark
  deriving DecidableEq

/-- The two streams of an account, less the download, and the outputs so far. -/
structure Streams (Mark : Type) where
  dropCopy : DropCopy
  orderEntry : OrderEntry
  request : Request Mark
  outbox : List Output
  deriving DecidableEq

variable {Mark : Type}

/-- The streams as constructed. -/
def Streams.initial [LimitRequest Mark] : Streams Mark where
  dropCopy :=
    { requestId := 0, ready := false, connectionStatus := .undefined, userId := 0,
      nextCheckStaleOrders := 0, downloadStaleOrdersCounter := 0 }
  orderEntry := { connectionStatus := .undefined, downloadTradesIsFirst := true }
  request := ⟨LimitRequest.initial, LimitRequest.initial, LimitRequest.initial⟩
  outbox := []

/-- `create_trace_and_dispatch`, and every other effect outside the streams. -/
def Streams.emit (streams : Streams Mark) (output : Output) : Streams Mark :=
  { streams with outbox := streams.outbox ++ [output] }

/-- Take the next request id and send the frame built with it. -/
def Streams.sendText (streams : Streams Mark) (frame : UInt32 → Frame) : Streams Mark :=
  { streams with dropCopy.requestId := streams.dropCopy.requestId + 1 }.emit
    (.sendText (frame (streams.dropCopy.requestId + 1)))

/-- The request mark of a REST request. -/
def Request.mark (request : Request Mark) : RestKind → Mark
  | .accounts => request.balances
  | .positions => request.positions
  | .trades => request.trades

end GateFutures.Gateway
