/-
This file models the texts of the frames that the encoder writes, and proves that each reads as
the frame it stands for.

The encoder is modelled twice. `Encoder.orderPlace` and its siblings say which frame an order
request becomes. The functions of this file write the text of the frame, piece by piece as the
source does. A frame's `json` lists its fields, so that the two can be compared.
-/

import GateFutures.Library.Json
import GateFutures.Protocol.Encoder
import GateFutures.Protocol.Market

namespace GateFutures.Protocol

open Library Library.Json Roq

/-! ### Decimals -/

/-- How the host prints a `Decimal`: its text, and what a number is rounded to for a number of
decimals. -/
structure DecimalFormat where
  text : Decimal → String
  round : (precision : Nat) → ℚ → ℚ

/-- A finite `Decimal` prints as the number it is rounded to, which is the number itself if the
decimals suffice. -/
structure DecimalFormat.IsLawful (format : DecimalFormat) : Prop where
  prints : ∀ value precision,
    IsNumber (format.text ⟨.number value, precision⟩).toList (format.round precision value)
  exact : ∀ value precision, (value * 10 ^ precision).den = 1 →
    format.round precision value = value

/-- The value of a `Decimal` as a field. -/
def DecimalFormat.json (format : DecimalFormat) (decimal : Decimal) : Json :=
  match decimal.value with
  | .number value => .number (format.round decimal.precision value)
  | _ => .null

/-- A finite `double`. -/
def IsFinite (value : Double) : Prop := ∃ number, value = .number number

/-! ### Fields -/

/-- The fields of a request: its id and its parameters. -/
def requestJson (reqId : String) (params : List (String × Json)) : Json :=
  .object [("req_id", .string reqId), ("req_param", .object params)]

/-- The fields of a payload. -/
def Payload.json (format : DecimalFormat) : Payload → Json
  | .login reqId timestamp apiKey signature =>
    .object [("req_id", .string (toString reqId)), ("timestamp", .string (toString timestamp)),
      ("api_key", .string apiKey), ("signature", .string signature)]
  | .subscribe payload _ _ => .array (payload.map .string)
  | .orderList reqId => requestJson (toString reqId) [("status", .string "open")]
  | .orderStatus reqId settle orderId =>
    requestJson reqId [("settle", .string settle), ("order_id", .string orderId)]
  | .orderPlace reqId contract size price reduceOnly tif text =>
    requestJson reqId
      [("contract", .string contract), ("size", format.json size), ("iceberg", .number 0),
        ("price", .string (format.text price)), ("close", .bool false),
        ("reduce_only", .bool reduceOnly), ("tif", .string tif), ("text", .string text)]
  | .orderAmend reqId orderId size price amendText =>
    requestJson reqId
      (("order_id", .string orderId) ::
        (size.toList.map (fun size => ("size", format.json size)) ++
          price.toList.map (fun price => ("price", .string (format.text price))) ++
          [("amend_text", .string amendText)]))
  | .orderCancel reqId orderId => requestJson reqId [("order_id", .string orderId)]
  | .orderCancelCp reqId contract => requestJson reqId [("contract", .string contract)]

/-- The fields by which a subscription is authenticated. -/
def Payload.auth : Payload → List (String × Json)
  | .subscribe _ key sign =>
    [("auth", .object
      [("method", .string "api_key"), ("KEY", .string key), ("SIGN", .string sign)])]
  | _ => []

/-- The fields of a frame. -/
def Frame.json (format : DecimalFormat) (frame : Frame) : Json :=
  .object
    ([("id", .number frame.id.toNat), ("time", .number frame.time),
        ("channel", .string frame.channel), ("event", .string frame.event),
        ("payload", frame.payload.json format)] ++
      frame.payload.auth)

/-- The fields of what a subscription to market data asks for. -/
def SubscribePayload.json : SubscribePayload → Json
  | .symbols listed => .array (listed.map .string)
  | .orderBook symbol frequency depth =>
    .array [.string symbol, .string (toString frequency ++ "ms"), .string (toString depth)]
  | .candlesticks interval symbol => .array [.string interval, .string symbol]

/-- The fields of a subscription to market data. -/
def SubscribeFrame.json (frame : SubscribeFrame) : Json :=
  .object
    [("time", .number frame.time), ("channel", .string frame.channel),
      ("event", .string frame.event), ("payload", frame.payload.json)]

/-! ### Texts of the encoder -/

namespace Encoder

/-- The format of `Encoder::order_place`. -/
def orderPlaceFormat (requestId2 : UInt32) (time : Int) (channel event requestId symbol : String)
    (quantity price : String) (reduceOnly : Bool) (tif : String) : String :=
  "\x7b" ++
    s!"\"id\":{requestId2}," ++
    s!"\"time\":{time}," ++
    s!"\"channel\":\"{channel}\"," ++
    s!"\"event\":\"{event}\"," ++
    "\"payload\":\x7b" ++
    s!"\"req_id\":\"{requestId}\"," ++
    "\"req_param\":\x7b" ++
    s!"\"contract\":\"{symbol}\"," ++
    s!"\"size\":{quantity}," ++
    "\"iceberg\":0," ++
    s!"\"price\":\"{price}\"," ++
    "\"close\":false," ++
    s!"\"reduce_only\":{reduceOnly}," ++
    s!"\"tif\":\"{tif}\"," ++
    s!"\"text\":\"t-{requestId}\"" ++
    "\x7d" ++
    "\x7d" ++
    "\x7d"

/-- The text `Encoder::order_place` writes. -/
def orderPlaceText (format : DecimalFormat) (sign : Side → ℚ) (messageInfo : MessageInfo)
    (createOrder : CreateOrder) (order : Order) (refData : RefData) (requestId : String)
    (requestId2 : UInt32) : Except NotSupported String := do
  let channel := "futures.order_place"
  let event := "api"
  let quantity := createOrder.quantity.scale (sign createOrder.side)
  let price := orderPlacePrice createOrder
  let reduceOnly := createOrder.executionInstructions.contains .doNotIncrease
  let tif ← orderPlaceTif createOrder
  return orderPlaceFormat requestId2 messageInfo.receiveTimeUtc channel event requestId
    order.symbol (format.text ⟨quantity, refData.quantityPrecision⟩)
    (format.text ⟨price, refData.pricePrecision⟩) reduceOnly tif

/-- The text `Encoder::order_amend` writes. -/
def orderAmendText (format : DecimalFormat) (sign : Side → ℚ) (messageInfo : MessageInfo)
    (modifyOrder : ModifyOrder) (order : Order) (refData : RefData) (requestId : String)
    (requestId2 : UInt32) : String :=
  let channel := "futures.order_amend"
  let event := "api"
  let buffer := "\x7b" ++
    s!"\"id\":{requestId2}," ++
    s!"\"time\":{messageInfo.receiveTimeUtc}," ++
    s!"\"channel\":\"{channel}\"," ++
    s!"\"event\":\"{event}\"," ++
    "\"payload\":\x7b" ++
    s!"\"req_id\":\"{requestId}\"," ++
    "\"req_param\":\x7b" ++
    s!"\"order_id\":\"t-{order.clientOrderId}\","
  let buffer :=
    if modifyOrder.quantity.isNan then buffer
    else
      let quantity := modifyOrder.quantity.scale (sign order.side)
      let size := format.text ⟨quantity, refData.quantityPrecision⟩
      buffer ++ s!"\"size\":{size},"
  let buffer :=
    if modifyOrder.price.isNan then buffer
    else
      let price := format.text ⟨modifyOrder.price, refData.pricePrecision⟩
      buffer ++ s!"\"price\":\"{price}\","
  buffer ++
    s!"\"amend_text\":\"{order.clientOrderId}\"" ++
    "\x7d" ++
    "\x7d" ++
    "\x7d"

/-- The text `Encoder::order_cancel` writes. -/
def orderCancelText (messageInfo : MessageInfo) (order : Order) (requestId : String)
    (requestId2 : UInt32) : String :=
  let channel := "futures.order_cancel"
  let event := "api"
  "\x7b" ++
    s!"\"id\":{requestId2}," ++
    s!"\"time\":{messageInfo.receiveTimeUtc}," ++
    s!"\"channel\":\"{channel}\"," ++
    s!"\"event\":\"{event}\"," ++
    "\"payload\":\x7b" ++
    s!"\"req_id\":\"{requestId}\"," ++
    "\"req_param\":\x7b" ++
    s!"\"order_id\":\"t-{order.clientOrderId}\"" ++
    "\x7d" ++
    "\x7d" ++
    "\x7d"

/-- The text `Encoder::order_cancel_cp` writes. -/
def orderCancelCpText (messageInfo : MessageInfo) (requestId : String) (requestId2 : UInt32)
    (symbol : String) : String :=
  let channel := "futures.order_cancel_cp"
  let event := "api"
  "\x7b" ++
    s!"\"id\":{requestId2}," ++
    s!"\"time\":{messageInfo.receiveTimeUtc}," ++
    s!"\"channel\":\"{channel}\"," ++
    s!"\"event\":\"{event}\"," ++
    "\"payload\":\x7b" ++
    s!"\"req_id\":\"{requestId}\"," ++
    "\"req_param\":\x7b" ++
    s!"\"contract\":\"{symbol}\"" ++
    "\x7d" ++
    "\x7d" ++
    "\x7d"

end Encoder

/-! ### Reading -/

@[simp] theorem toString_text (text : String) : toString text = text := rfl

theorem isPlain_append {first second : List Char} (plain : IsPlain first)
    (others : IsPlain second) : IsPlain (first ++ second) :=
  List.all_append.trans (Bool.and_eq_true_iff.mpr ⟨plain, others⟩)

/-- A member whose value is read. -/
theorem member_reads {name : String} {text : List Char} {value : Json} (plain : IsPlain name.toList)
    (reads : Reads text value) : ReadsMember (name, text) (name, value) :=
  ⟨rfl, plain, reads⟩

/-- The text of a request. -/
@[simp] def requestText (reqId : String) (params : List (String × List Char)) : List Char :=
  objectText [("req_id", stringText reqId.toList), ("req_param", objectText params)]

theorem request_reads {reqId : String} (plain : IsPlain reqId.toList)
    {params : List (String × List Char)} {fields : List (String × Json)}
    (reads : List.Forall₂ ReadsMember params fields) :
    Reads (requestText reqId params) (requestJson reqId fields) :=
  .object (.cons (member_reads rfl (.string plain))
    (.cons (member_reads rfl (.object reads)) .nil))

/-- The text of a frame. -/
@[simp] def frameText (id : UInt32) (time : Int) (channel event : String) (payload : List Char)
    (auth : List (String × List Char)) : List Char :=
  objectText
    ([("id", (toString id).toList), ("time", (toString time).toList),
        ("channel", stringText channel.toList), ("event", stringText event.toList),
        ("payload", payload)] ++
      auth)

/-- The text of a frame whose payload is read is read. -/
theorem frame_reads {format : DecimalFormat} {id : UInt32} {time : Int} {channel event : String}
    {payload : Payload} {text : List Char} {auth : List (String × List Char)}
    (plainChannel : IsPlain channel.toList) (plainEvent : IsPlain event.toList)
    (reads : Reads text (payload.json format))
    (signed : List.Forall₂ ReadsMember auth payload.auth) :
    Reads (frameText id time channel event text auth)
      (Frame.json format { id, time, channel, event, payload }) :=
  .object <|
    .cons (member_reads rfl (.number (isNumber_natural id.toNat))) <|
    .cons (member_reads rfl (.number (isNumber_integer time))) <|
    .cons (member_reads rfl (.string plainChannel)) <|
    .cons (member_reads rfl (.string plainEvent)) <|
    .cons (member_reads rfl reads) signed

/-- The text of a subscription to market data. -/
@[simp] def subscribeFrameText (time : Int) (channel event : String) (payload : List Char) :
    List Char :=
  objectText
    [("time", (toString time).toList), ("channel", stringText channel.toList),
      ("event", stringText event.toList), ("payload", payload)]

/-- The text of a subscription whose payload is read is read. -/
theorem subscribeFrame_reads {time : Int} {channel event : String} {payload : SubscribePayload}
    {text : List Char} (plainChannel : IsPlain channel.toList) (plainEvent : IsPlain event.toList)
    (reads : Reads text payload.json) :
    Reads (subscribeFrameText time channel event text)
      (SubscribeFrame.json { time, channel, event, payload }) :=
  .object <|
    .cons (member_reads rfl (.number (isNumber_integer time))) <|
    .cons (member_reads rfl (.string plainChannel)) <|
    .cons (member_reads rfl (.string plainEvent)) <|
    .cons (member_reads rfl reads) .nil

/-- Plain strings are read. -/
theorem strings_read {texts : List String} (plain : ∀ text ∈ texts, IsPlain text.toList) :
    List.Forall₂ Reads (texts.map fun text => stringText text.toList) (texts.map .string) :=
  List.forall₂_map_left_iff.mpr <| List.forall₂_map_right_iff.mpr <|
    List.forall₂_same.mpr fun text member => .string (plain text member)

/-- A finite decimal is read. -/
theorem DecimalFormat.IsLawful.reads {format : DecimalFormat} (lawful : format.IsLawful)
    {decimal : Decimal} (finite : IsFinite decimal.value) :
    Reads (format.text decimal).toList (format.json decimal) := by
  obtain ⟨_, precision⟩ := decimal
  obtain ⟨value, rfl⟩ := finite
  exact .number (lawful.prints value precision)

/-- The text of a finite decimal needs no escape. -/
theorem DecimalFormat.IsLawful.isPlain {format : DecimalFormat} (lawful : format.IsLawful)
    {decimal : Decimal} (finite : IsFinite decimal.value) :
    IsPlain (format.text decimal).toList := by
  obtain ⟨_, precision⟩ := decimal
  obtain ⟨value, rfl⟩ := finite
  exact (lawful.prints value precision).isPlain

/-- A finite number times a sign is finite. -/
theorem IsFinite.scale {value : Double} (finite : IsFinite value) (factor : ℚ) :
    IsFinite (value.scale factor) := by
  obtain ⟨number, rfl⟩ := finite
  exact ⟨factor * number, rfl⟩

theorem isPlain_api : IsPlain "api".toList := rfl

/-- The prefix of a client order id needs no escape. -/
theorem isPlain_prefixed {id : String} (plain : IsPlain id.toList) :
    IsPlain ("t-" ++ id).toList := by
  rw [String.toList_append]
  exact isPlain_append rfl plain

namespace Encoder

variable {format : DecimalFormat} {sign : Side → ℚ} {messageInfo : MessageInfo} {order : Order}
  {refData : RefData} {requestId : String} {requestId2 : UInt32}

/-- The time in force needs no escape. -/
theorem orderPlaceTif_isPlain {createOrder : CreateOrder} {tif : String}
    (encoded : orderPlaceTif createOrder = .ok tif) : IsPlain tif.toList := by
  unfold orderPlaceTif at encoded
  split at encoded
  · cases encoded
    rfl
  split at encoded
  · cases encoded
    rfl
  split at encoded <;> cases encoded <;> rfl

/-- The price that is encoded is finite, if the price that is asked for is. -/
theorem orderPlacePrice_finite {createOrder : CreateOrder}
    (finite : createOrder.price.isNan = false → IsFinite createOrder.price) :
    IsFinite (orderPlacePrice createOrder) := by
  unfold orderPlacePrice
  split
  · exact ⟨0, rfl⟩
  split
  · exact ⟨0, rfl⟩
  next number => exact finite (Bool.eq_false_iff.mpr number)

set_option maxRecDepth 4000 in
theorem orderPlaceFormat_toList (time : Int)
    (channel event requestId symbol quantity price : String) (reduceOnly : Bool) (tif : String) :
    (orderPlaceFormat requestId2 time channel event requestId symbol quantity price reduceOnly
        tif).toList =
      frameText requestId2 time channel event
        (requestText requestId
          [("contract", stringText symbol.toList), ("size", quantity.toList),
            ("iceberg", "0".toList), ("price", stringText price.toList),
            ("close", "false".toList), ("reduce_only", (toString reduceOnly).toList),
            ("tif", stringText tif.toList), ("text", stringText ("t-" ++ requestId).toList)])
        [] := by
  unfold orderPlaceFormat
  simp

/-- `Encoder::order_place` writes no text exactly where it refuses the order. -/
theorem orderPlaceText_refused {createOrder : CreateOrder} {refused : NotSupported} :
    orderPlaceText format sign messageInfo createOrder order refData requestId requestId2 =
        .error refused ↔
      orderPlace sign messageInfo createOrder order refData requestId requestId2 =
        .error refused := by
  unfold orderPlaceText orderPlace
  cases orderPlaceTif createOrder with
  | error other =>
    constructor
    · intro failed
      cases failed
      rfl
    · intro failed
      cases failed
      rfl
  | ok tif =>
    refine iff_of_false (fun failed => ?_) (fun failed => ?_)
    · cases failed
    · cases failed

/-- The text of `Encoder::order_place` reads as its frame. -/
theorem orderPlaceText_reads (lawful : format.IsLawful) {createOrder : CreateOrder}
    (finite : IsFinite createOrder.quantity)
    (limited : createOrder.price.isNan = false → IsFinite createOrder.price)
    (plainSymbol : IsPlain order.symbol.toList) (plainRequest : IsPlain requestId.toList)
    {frame : Frame}
    (placed : orderPlace sign messageInfo createOrder order refData requestId requestId2 =
      .ok frame) :
    ∃ written, orderPlaceText format sign messageInfo createOrder order refData requestId
        requestId2 = .ok written ∧ Reads written.toList (frame.json format) := by
  cases encoded : orderPlaceTif createOrder with
  | error refused =>
    rw [orderPlace, encoded] at placed
    cases placed
  | ok tif =>
    rw [orderPlace, encoded] at placed
    obtain rfl := Except.ok.inj placed
    rw [orderPlaceText, encoded]
    refine ⟨_, rfl, ?_⟩
    have channel : IsPlain "futures.order_place".toList := rfl
    have zero : IsNumber "0".toList 0 := isNumber_natural 0
    rw [orderPlaceFormat_toList]
    refine frame_reads channel isPlain_api (request_reads plainRequest ?_) .nil
    exact
      .cons (member_reads rfl (.string plainSymbol)) <|
      .cons (member_reads rfl (lawful.reads (finite.scale _))) <|
      .cons (member_reads rfl (.number zero)) <|
      .cons (member_reads rfl
        (.string (lawful.isPlain (orderPlacePrice_finite limited)))) <|
      .cons (member_reads rfl (.bool false)) <|
      .cons (member_reads rfl (.bool _)) <|
      .cons (member_reads rfl (.string (orderPlaceTif_isPlain encoded))) <|
      .cons (member_reads rfl (.string (isPlain_prefixed plainRequest))) .nil

/-- A member that may be missing is read. -/
theorem optional_reads {name : String} (plain : IsPlain name.toList) {decimal : Option Decimal}
    {text : Decimal → List Char} {json : Decimal → Json}
    (reads : ∀ value ∈ decimal, Reads (text value) (json value)) :
    List.Forall₂ ReadsMember (decimal.toList.map fun value => (name, text value))
      (decimal.toList.map fun value => (name, json value)) := by
  cases decimal with
  | none => exact .nil
  | some value => exact .cons (member_reads plain (reads value rfl)) .nil

/-- A decimal that is left out if a number is not given is finite. -/
theorem optional_finite {asked : Double} {decimal : Decimal}
    (finite : asked.isNan = false → IsFinite decimal.value) :
    ∀ value ∈ (if asked.isNan then none else some decimal), IsFinite value.value := by
  intro value given
  split at given
  · cases given
  next number =>
    cases given
    exact finite (Bool.eq_false_iff.mpr number)

/-- The text of `Encoder::order_amend` reads as its frame. -/
theorem orderAmendText_reads (lawful : format.IsLawful) {modifyOrder : ModifyOrder}
    (sized : modifyOrder.quantity.isNan = false → IsFinite modifyOrder.quantity)
    (limited : modifyOrder.price.isNan = false → IsFinite modifyOrder.price)
    (plainOrder : IsPlain order.clientOrderId.toList) (plainRequest : IsPlain requestId.toList) :
    Reads (orderAmendText format sign messageInfo modifyOrder order refData requestId
        requestId2).toList
      ((orderAmend sign messageInfo modifyOrder order refData requestId requestId2).json
        format) := by
  set size : Option Decimal :=
    if modifyOrder.quantity.isNan then none
    else some ⟨modifyOrder.quantity.scale (sign order.side), refData.quantityPrecision⟩
    with sizeIs
  set price : Option Decimal :=
    if modifyOrder.price.isNan then none else some ⟨modifyOrder.price, refData.pricePrecision⟩
    with priceIs
  have text : (orderAmendText format sign messageInfo modifyOrder order refData requestId
        requestId2).toList =
      frameText requestId2 messageInfo.receiveTimeUtc "futures.order_amend" "api"
        (requestText requestId
          (("order_id", stringText ("t-" ++ order.clientOrderId).toList) ::
            (size.toList.map (fun size => ("size", (format.text size).toList)) ++
              price.toList.map (fun price => ("price", stringText (format.text price).toList)) ++
              [("amend_text", stringText order.clientOrderId.toList)]))) [] := by
    cases quantityNan : modifyOrder.quantity.isNan <;>
      cases priceNan : modifyOrder.price.isNan <;>
      simp [sizeIs, priceIs, quantityNan, priceNan, orderAmendText]
  have channel : IsPlain "futures.order_amend".toList := rfl
  have sizeReads : ∀ value ∈ size, Reads (format.text value).toList (format.json value) :=
    fun value given =>
      lawful.reads (optional_finite (fun number => (sized number).scale _) value given)
  have priceReads : ∀ value ∈ price,
      Reads (stringText (format.text value).toList) (.string (format.text value)) :=
    fun value given => .string (lawful.isPlain (optional_finite limited value given))
  rw [text]
  refine frame_reads channel isPlain_api (request_reads plainRequest (.cons ?_ ?_)) .nil
  · exact member_reads rfl (.string (isPlain_prefixed plainOrder))
  · exact List.rel_append
      (List.rel_append (optional_reads (by rfl) sizeReads)
        (optional_reads (by rfl) priceReads))
      (.cons (member_reads rfl (.string plainOrder)) .nil)

/-- The text of `Encoder::order_cancel` reads as its frame. -/
theorem orderCancelText_reads (plainOrder : IsPlain order.clientOrderId.toList)
    (plainRequest : IsPlain requestId.toList) :
    Reads (orderCancelText messageInfo order requestId requestId2).toList
      ((orderCancel messageInfo order requestId requestId2).json format) := by
  have text : (orderCancelText messageInfo order requestId requestId2).toList =
      frameText requestId2 messageInfo.receiveTimeUtc "futures.order_cancel" "api"
        (requestText requestId [("order_id", stringText ("t-" ++ order.clientOrderId).toList)])
        [] := by
    unfold orderCancelText
    simp
  have channel : IsPlain "futures.order_cancel".toList := rfl
  rw [text]
  exact frame_reads channel isPlain_api
    (request_reads plainRequest
      (.cons (member_reads rfl (.string (isPlain_prefixed plainOrder))) .nil))
    .nil

/-- The text of `Encoder::order_cancel_cp` reads as its frame. -/
theorem orderCancelCpText_reads {symbol : String} (plainSymbol : IsPlain symbol.toList)
    (plainRequest : IsPlain requestId.toList) :
    Reads (orderCancelCpText messageInfo requestId requestId2 symbol).toList
      ((orderCancelCp messageInfo requestId requestId2 symbol).json format) := by
  have text : (orderCancelCpText messageInfo requestId requestId2 symbol).toList =
      frameText requestId2 messageInfo.receiveTimeUtc "futures.order_cancel_cp" "api"
        (requestText requestId [("contract", stringText symbol.toList)]) [] := by
    unfold orderCancelCpText
    simp
  have channel : IsPlain "futures.order_cancel_cp".toList := rfl
  rw [text]
  exact frame_reads channel isPlain_api
    (request_reads plainRequest (.cons (member_reads rfl (.string plainSymbol)) .nil))
    .nil

end Encoder

end GateFutures.Protocol
