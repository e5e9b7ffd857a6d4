/-
This file defines the host's vocabulary: the numbers, enumerations and messages the
gateway exchanges with the server it runs in. Enumerations list the enumerators the
gateway's source names. Durations and instants are counted in nanoseconds.
-/

import Mathlib.Algebra.Group.Nat.Defs
import Mathlib.Algebra.Order.Ring.Unbundled.Rat

namespace GateFutures.Roq

/-! ### Numbers -/

/-- A `double`, kept exact. -/
inductive Double
  | nan
  | infinity (negative : Bool)
  | number (value : ℚ)
  deriving DecidableEq

/-- `std::isnan`. -/
def Double.isNan : Double → Bool
  | .nan => true
  | _ => false

/-- A `double` times a finite factor. -/
def Double.scale (factor : ℚ) : Double → Double
  | .nan => .nan
  | .infinity negative =>
    if factor = 0 then .nan else .infinity (if factor < 0 then !negative else negative)
  | .number value => .number (factor * value)

/-- `static_cast<double>` of an integer. It is the integer itself only where a `double` holds it. -/
def Double.ofInt (value : Int) : Double := .number value

/-- A `double` holds every integer up to this magnitude, and so does not round it. -/
def Double.Holds (value : Int) : Prop := value.natAbs ≤ 2 ^ 53

instance (value : Int) : Decidable (Double.Holds value) := inferInstanceAs (Decidable (_ ≤ _))

/-- `Decimal`: a value and the number of decimals to print it with. -/
structure Decimal where
  value : Double
  precision : Nat
  deriving DecidableEq

/-! ### Enumerations -/

/-- `roq::Side`. -/
inductive Side
  | undefined | buy | sell
  deriving DecidableEq, Repr

/-- `roq::OrderType`. -/
inductive OrderType
  | undefined | market | limit
  deriving DecidableEq, Repr

/-- `roq::TimeInForce`. -/
inductive TimeInForce
  | undefined | gfd | gtc | opg | ioc | fok | gtx | gtd | atTheClose | goodThroughCrossing
  | atCrossing | goodForTime | gfa | gfm
  deriving DecidableEq, Repr

/-- `roq::ExecutionInstruction`. -/
inductive ExecutionInstruction
  | participateDoNotInitiate | doNotIncrease
  deriving DecidableEq, Repr

/-- `roq::OrderStatus`. -/
inductive OrderStatus
  | undefined | working | completed | canceled | rejected
  deriving DecidableEq, Repr

/-- `roq::Liquidity`. -/
inductive Liquidity
  | undefined | maker | taker
  deriving DecidableEq, Repr

/-- `roq::RequestType`. -/
inductive RequestType
  | createOrder | modifyOrder | cancelOrder
  deriving DecidableEq, Repr

/-- `roq::RequestStatus`. -/
inductive RequestStatus
  | accepted | rejected
  deriving DecidableEq, Repr

/-- `roq::Origin`. -/
inductive Origin
  | gateway | exchange
  deriving DecidableEq, Repr

/-- `roq::Error`. -/
inductive Error
  | undefined | unknown
  deriving DecidableEq, Repr

/-- `roq::UpdateType`. -/
inductive UpdateType
  | snapshot | incremental
  deriving DecidableEq, Repr

/-- `roq::ConnectionStatus`. -/
inductive ConnectionStatus
  | undefined | disconnected | loginSent | downloading | ready
  deriving DecidableEq, Repr

/-! ### Requests from the host -/

/-- `roq::TraceInfo`: the clock readings that travel with an event. -/
structure TraceInfo where
  originCreateTime : Int
  originCreateTimeUtc : Int
  deriving DecidableEq

/-- `roq::MessageInfo`. -/
structure MessageInfo where
  receiveTimeUtc : Int
  deriving DecidableEq

/-- `roq::CreateOrder`. -/
structure CreateOrder where
  side : Side
  orderType : OrderType
  timeInForce : TimeInForce
  executionInstructions : List ExecutionInstruction
  quantity : Double
  price : Double

/-- `roq::ModifyOrder`. -/
structure ModifyOrder where
  quantity : Double
  price : Double

/-- `server::oms::Order`: the order a request is about. -/
structure Order where
  symbol : String
  side : Side
  clientOrderId : String
  externalOrderId : String
  deriving DecidableEq

/-- `server::oms::RefData`. -/
structure RefData where
  quantityPrecision : Nat
  pricePrecision : Nat

/-! ### Messages to the host -/

/-- `server::oms::OrderUpdate`, less the fields every producer leaves empty. -/
structure OrderUpdate where
  account : String
  exchange : String
  symbol : String
  side : Side
  orderType : OrderType
  timeInForce : TimeInForce
  createTimeUtc : Int
  updateTimeUtc : Int
  externalOrderId : String
  clientOrderId : String
  orderStatus : OrderStatus
  quantity : Double
  price : Double
  remainingQuantity : Double
  tradedQuantity : Double
  averageTradedPrice : Double
  updateType : UpdateType
  sendingTimeUtc : Int
  deriving DecidableEq

/-- `server::oms::Response`, less the fields every producer leaves empty. -/
structure Response where
  requestType : RequestType
  origin : Origin
  requestStatus : RequestStatus
  error : Error
  text : String
  version : Nat
  requestId : String
  externalOrderId : String
  clientOrderId : String
  deriving DecidableEq

/-- `roq::CancelAllOrdersAck`, less the fields every producer leaves empty. -/
structure CancelAllOrdersAck where
  streamId : UInt16
  account : String
  origin : Origin
  requestStatus : RequestStatus
  error : Error
  text : String
  requestId : String
  deriving DecidableEq

/-- `roq::FundsUpdate`, less the fields every producer leaves empty. -/
structure FundsUpdate where
  streamId : UInt16
  account : String
  currency : String
  balance : Double
  updateType : UpdateType
  exchangeTimeUtc : Int
  sendingTimeUtc : Int
  deriving DecidableEq

/-- `roq::PositionUpdate`, less the fields every producer leaves empty. -/
structure PositionUpdate where
  streamId : UInt16
  account : String
  exchange : String
  symbol : String
  longQuantity : Double
  shortQuantity : Double
  updateType : UpdateType
  exchangeTimeUtc : Int
  sendingTimeUtc : Int
  deriving DecidableEq

/-- `roq::Fill`, less the fields every producer leaves empty. -/
structure Fill where
  exchangeTimeUtc : Int
  externalTradeId : String
  quantity : Double
  price : Double
  liquidity : Liquidity
  commissionAmount : Double
  profitLossAmount : Double
  deriving DecidableEq

/-- `roq::TradeUpdate`, less the fields every producer leaves empty. -/
structure TradeUpdate where
  streamId : UInt16
  account : String
  exchange : String
  symbol : String
  side : Side
  createTimeUtc : Int
  updateTimeUtc : Int
  externalOrderId : String
  clientOrderId : String
  fills : List Fill
  updateType : UpdateType
  sendingTimeUtc : Int
  deriving DecidableEq

end GateFutures.Roq
