/-
This file defines the frames the gateway sends over the trading connection, and the
encoder of the four order requests.
-/

import GateFutures.Protocol.Json

namespace GateFutures.Protocol

open Roq

/-- What a frame asks for. -/
inductive Payload
  | login (reqId : UInt32) (timestamp : Int) (apiKey signature : String)
  | subscribe (payload : List String) (key sign : String)
  | orderList (reqId : UInt32)
  | orderStatus (reqId settle orderId : String)
  | orderPlace (reqId contract : String) (size price : Decimal) (reduceOnly : Bool)
      (tif text : String)
  | orderAmend (reqId orderId : String) (size price : Option Decimal) (amendText : String)
  | orderCancel (reqId orderId : String)
  | orderCancelCp (reqId contract : String)
  deriving DecidableEq

/-- A frame: the envelope every sender fills, and what it asks for. -/
structure Frame where
  id : UInt32
  time : Int
  channel : String
  event : String
  payload : Payload
  deriving DecidableEq

/-- `server::oms::NotSupported`. -/
inductive NotSupported
  | notSupported
  deriving DecidableEq

namespace Encoder

/-- The price `order_place` encodes. -/
def orderPlacePrice (createOrder : CreateOrder) : Double :=
  if createOrder.orderType = .market then .number 0
  else if createOrder.price.isNan then .number 0
  else createOrder.price

/-- The time in force `order_place` encodes. -/
def orderPlaceTif (createOrder : CreateOrder) : Except NotSupported String :=
  if createOrder.orderType = .market then .ok "ioc"
  else if createOrder.executionInstructions.contains .participateDoNotInitiate then .ok "poc"
  else match createOrder.timeInForce with
    | .gtc => .ok "gtc"
    | .ioc => .ok "ioc"
    | .fok => .ok "fok"
    | _ => .error .notSupported

/-- `Encoder::order_place`. -/
def orderPlace (sign : Side → ℚ) (messageInfo : MessageInfo) (createOrder : CreateOrder)
    (order : Order) (refData : RefData) (requestId : String) (requestId2 : UInt32) :
    Except NotSupported Frame := do
  let quantity := createOrder.quantity.scale (sign createOrder.side)
  let price := orderPlacePrice createOrder
  let reduceOnly := createOrder.executionInstructions.contains .doNotIncrease
  let tif ← orderPlaceTif createOrder
  return {
    id := requestId2
    time := messageInfo.receiveTimeUtc
    channel := "futures.order_place"
    event := "api"
    payload := .orderPlace requestId order.symbol ⟨quantity, refData.quantityPrecision⟩
      ⟨price, refData.pricePrecision⟩ reduceOnly tif ("t-" ++ requestId) }

/-- `Encoder::order_amend`. -/
def orderAmend (sign : Side → ℚ) (messageInfo : MessageInfo) (modifyOrder : ModifyOrder)
    (order : Order) (refData : RefData) (requestId : String) (requestId2 : UInt32) : Frame where
  id := requestId2
  time := messageInfo.receiveTimeUtc
  channel := "futures.order_amend"
  event := "api"
  payload := .orderAmend requestId ("t-" ++ order.clientOrderId)
    (if modifyOrder.quantity.isNan then none
      else some ⟨modifyOrder.quantity.scale (sign order.side), refData.quantityPrecision⟩)
    (if modifyOrder.price.isNan then none else some ⟨modifyOrder.price, refData.pricePrecision⟩)
    order.clientOrderId

/-- `Encoder::order_cancel`. -/
def orderCancel (messageInfo : MessageInfo) (order : Order) (requestId : String)
    (requestId2 : UInt32) : Frame where
  id := requestId2
  time := messageInfo.receiveTimeUtc
  channel := "futures.order_cancel"
  event := "api"
  payload := .orderCancel requestId ("t-" ++ order.clientOrderId)

/-- `Encoder::order_cancel_cp`. -/
def orderCancelCp (messageInfo : MessageInfo) (requestId : String) (requestId2 : UInt32)
    (symbol : String) : Frame where
  id := requestId2
  time := messageInfo.receiveTimeUtc
  channel := "futures.order_cancel_cp"
  event := "api"
  payload := .orderCancelCp requestId symbol

end Encoder

end GateFutures.Protocol
