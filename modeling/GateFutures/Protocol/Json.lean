/-
This file defines the exchange's vocabulary: the enumerations and the decoded messages
of the JSON schemas, and their translation to the host's enumerations.

An enumeration decodes an empty text to its undefined value and a text outside the
schema to its unknown value. A schema's integers keep their width.
-/

import GateFutures.Roq.Types

namespace GateFutures.Protocol

open Roq

/-! ### Enumerations -/

/-- `Channel`. -/
inductive Channel
  | undefinedInternal | unknownInternal
  | tickers | trades | bookTicker | orderBookUpdate | candlesticks
  | login | balances | positions | orders | usertrades
  | orderPlace | orderAmend | orderCancel | orderCancelCp | orderList | orderStatus
  | futuresSystem
  deriving DecidableEq, Repr

/-- `Status`. -/
inductive Status
  | undefinedInternal | unknownInternal | success | fail
  deriving DecidableEq, Repr

/-- `OrderStatus`. -/
inductive OrderStatus
  | undefinedInternal | unknownInternal | «open» | finished
  deriving DecidableEq, Repr

/-- `FinishAs`. -/
inductive FinishAs
  | undefinedInternal | unknownInternal
  | filled | cancelled | liquidated | ioc | autoDeleveraged | reduceOnly | positionClose | stp
  | new | update | reduceOut
  deriving DecidableEq, Repr

/-- `TIF`. -/
inductive Tif
  | undefinedInternal | unknownInternal | gtc | ioc | poc | fok
  deriving DecidableEq, Repr

/-- `Role`. -/
inductive Role
  | undefinedInternal | unknownInternal | maker | taker
  deriving DecidableEq, Repr

/-- Decode a `TIF`. -/
def Tif.parse (text : String) : Tif :=
  if text = "" then .undefinedInternal
  else if text = "gtc" then .gtc
  else if text = "ioc" then .ioc
  else if text = "poc" then .poc
  else if text = "fok" then .fok
  else .unknownInternal

/-- Decode a `FinishAs`. -/
def FinishAs.parse (text : String) : FinishAs :=
  if text = "" then .undefinedInternal
  else if text = "filled" then .filled
  else if text = "cancelled" then .cancelled
  else if text = "liquidated" then .liquidated
  else if text = "ioc" then .ioc
  else if text = "auto_deleveraged" then .autoDeleveraged
  else if text = "reduce_only" then .reduceOnly
  else if text = "position_close" then .positionClose
  else if text = "stp" then .stp
  else if text = "_new" then .new
  else if text = "_update" then .update
  else if text = "reduce_out" then .reduceOut
  else .unknownInternal

/-- `map(FinishAs)`. -/
def FinishAs.map : FinishAs → Roq.OrderStatus
  | .undefinedInternal => .undefined
  | .unknownInternal => .undefined
  | .filled => .completed
  | .cancelled => .canceled
  | .liquidated => .canceled
  | .ioc => .completed
  | .autoDeleveraged => .canceled
  | .reduceOnly => .canceled
  | .positionClose => .canceled
  | .stp => .canceled
  | .new => .working
  | .update => .working
  | .reduceOut => .working

/-- `map(Role)`. -/
def Role.map : Role → Liquidity
  | .undefinedInternal => .undefined
  | .unknownInternal => .undefined
  | .maker => .maker
  | .taker => .taker

/-- `map(TIF)`. -/
def Tif.map : Tif → TimeInForce
  | .undefinedInternal => .undefined
  | .unknownInternal => .undefined
  | .gtc => .gtc
  | .fok => .fok
  | .poc => .gtc
  | .ioc => .ioc

/-! ### Messages of the trading connection -/

/-- `TradeHeader`. -/
structure TradeHeader where
  responseTime : Int
  status : BitVec 32

/-- The errors of an answer: `TradeOrderPlaceDataErrs` and its namesakes. -/
structure TradeErrs where
  label : String
  message : String

/-- An order as the exchange reports it, with sizes of the given width. Only the schema of the
order channel has `create_time_ms`. -/
structure OrderItem (width : Nat) where
  text : String
  price : Double
  tif : Tif
  status : OrderStatus
  contract : String
  finishAs : FinishAs
  fillPrice : Double
  id : BitVec 64
  createTime : Int
  createTimeMs : Option Int
  size : BitVec width
  updateTime : Int
  left : BitVec width

/-- `TradeOrderPlaceDataResult`. -/
abbrev TradeOrderPlaceDataResult := OrderItem 32

/-- `TradeOrderAmendDataResult`. -/
abbrev TradeOrderAmendDataResult := OrderItem 32

/-- `TradeOrderCancelDataResult`. -/
abbrev TradeOrderCancelDataResult := OrderItem 32

/-- `TradeOrderListDataResultItem`. -/
abbrev TradeOrderListDataResultItem := OrderItem 32

/-- `TradeOrderStatusDataResult`. -/
abbrev TradeOrderStatusDataResult := OrderItem 32

/-- `OrdersItem`. -/
abbrev OrdersItem := OrderItem 64

/-- The answer to one order request, with a result of the given type. -/
structure TradeOrderAnswer (Result : Type) where
  header : TradeHeader
  result : Result
  errs : TradeErrs
  requestId : String

/-- `TradeOrderPlace`. -/
abbrev TradeOrderPlace := TradeOrderAnswer TradeOrderPlaceDataResult

/-- `TradeOrderAmend`. -/
abbrev TradeOrderAmend := TradeOrderAnswer TradeOrderAmendDataResult

/-- `TradeOrderCancel`. -/
abbrev TradeOrderCancel := TradeOrderAnswer TradeOrderCancelDataResult

/-- `TradeOrderCancelCP`. Its result is not read. -/
abbrev TradeOrderCancelCp := TradeOrderAnswer Unit

/-- `TradeOrderStatus`. -/
abbrev TradeOrderStatus := TradeOrderAnswer TradeOrderStatusDataResult

/-- `TradeOrderList`. -/
structure TradeOrderList where
  result : List TradeOrderListDataResultItem

/-- `TradeLogin`. -/
structure TradeLogin where
  header : TradeHeader
  uid : BitVec 64

/-- `TradeSubscribe`. -/
structure TradeSubscribe where
  channel : Channel
  status : Status

/-- `BalancesItem`. -/
structure BalancesItem where
  currency : String
  balance : Double
  timeMs : Int

/-- `TradeBalances`. -/
structure TradeBalances where
  timeMs : Int
  result : List BalancesItem

/-- `PositionsItem`. The web socket fills `time_ms`, the REST reply `update_time`. -/
structure PositionsItem where
  contract : String
  size : BitVec 64
  updateId : BitVec 64
  updateTime : Int
  timeMs : Int
  deriving DecidableEq

/-- `TradePositions`. -/
structure TradePositions where
  timeMs : Int
  result : List PositionsItem

/-- `TradeOrders`. -/
structure TradeOrders where
  result : List OrdersItem

/-- `TradeTradesResultItem`. -/
structure TradeTradesResultItem where
  id : String
  orderId : BitVec 64
  contract : String
  createTimeMs : Int
  size : BitVec 32
  role : Role
  price : Double
  text : String
  fee : Double

/-- `TradeTrades`. -/
structure TradeTrades where
  timeMs : Int
  result : List TradeTradesResultItem

/-! ### Replies of the account's REST connection -/

/-- `Positions`. -/
structure Positions where
  data : List PositionsItem

/-- `UserTradesItem`. -/
structure UserTradesItem where
  contract : String
  createTime : Int
  tradeId : String
  orderId : BitVec 64
  price : Double
  size : BitVec 32
  role : Role
  text : String
  fee : Double

/-- `UserTrades`. -/
structure UserTrades where
  data : List UserTradesItem

end GateFutures.Protocol
