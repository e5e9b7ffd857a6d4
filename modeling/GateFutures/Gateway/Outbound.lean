/-
This file proves that the text of every frame the gateway sends is valid and says what was asked.

There are eleven writers: the encoder's four, the four of the trading connection, and the three
of a market data connection. Each text reads as a JSON object, and the object has exactly the
fields of the frame that the writer stands for. The assumptions are on the arguments: strings
need no escape, numbers are finite, and the host prints finite decimals as JSON numbers.
-/

import GateFutures.Gateway.Account
import GateFutures.Gateway.Texts
import GateFutures.Market.Controller
import GateFutures.Market.Texts

namespace GateFutures.Gateway

open Framework Library Library.Json Protocol Roq

/-! ### What the texts say -/

/-- A parameter of a request's text. -/
def requestParam (text name : String) : Option Json :=
  (parse text).bind (path? ["payload", "req_param", name])

/-- The text of an amendment has a size exactly if a quantity is given, the signed quantity, and a
price exactly if a price is given. -/
structure AmendsAsAsked (format : DecimalFormat) (sign : ℚ) (modifyOrder : ModifyOrder)
    (refData : RefData) (text : String) : Prop where
  hasSize : (requestParam text "size").isSome = !modifyOrder.quantity.isNan
  hasPrice : (requestParam text "price").isSome = !modifyOrder.price.isNan
  size : ∀ quantity, modifyOrder.quantity = .number quantity →
    requestParam text "size" =
      some (.number (format.round refData.quantityPrecision (sign * quantity)))
  exactSize : ∀ quantity, modifyOrder.quantity = .number quantity →
    (sign * quantity * 10 ^ refData.quantityPrecision).den = 1 →
      requestParam text "size" = some (.number (sign * quantity))
  price : ∀ value, modifyOrder.price = .number value →
    requestParam text "price" =
      some (.string (format.text ⟨.number value, refData.pricePrecision⟩))

/-- The texts of the encoder read as its frames. An order that is placed has a text, and one that is
refused has none. -/
structure EncoderReads (format : DecimalFormat) (sign : Side → ℚ) : Prop where
  orderPlace : ∀ messageInfo createOrder order refData requestId requestId2 frame,
    IsFinite createOrder.quantity →
    (createOrder.price.isNan = false → IsFinite createOrder.price) →
    IsPlain order.symbol.toList → IsPlain requestId.toList →
    Encoder.orderPlace sign messageInfo createOrder order refData requestId requestId2 =
      .ok frame →
    ∃ text, Encoder.orderPlaceText format sign messageInfo createOrder order refData requestId
      requestId2 = .ok text ∧ parse text = some (frame.json format)
  orderPlaceRefused : ∀ messageInfo createOrder order refData requestId requestId2 refused,
    Encoder.orderPlaceText format sign messageInfo createOrder order refData requestId
        requestId2 = .error refused ↔
      Encoder.orderPlace sign messageInfo createOrder order refData requestId requestId2 =
        .error refused
  orderAmend : ∀ messageInfo modifyOrder order refData requestId requestId2,
    (modifyOrder.quantity.isNan = false → IsFinite modifyOrder.quantity) →
    (modifyOrder.price.isNan = false → IsFinite modifyOrder.price) →
    IsPlain order.clientOrderId.toList → IsPlain requestId.toList →
    parse (Encoder.orderAmendText format sign messageInfo modifyOrder order refData requestId
        requestId2) =
      some ((Encoder.orderAmend sign messageInfo modifyOrder order refData requestId
        requestId2).json format) ∧
    AmendsAsAsked format (sign order.side) modifyOrder refData
      (Encoder.orderAmendText format sign messageInfo modifyOrder order refData requestId
        requestId2)
  orderCancel : ∀ messageInfo order requestId requestId2,
    IsPlain order.clientOrderId.toList → IsPlain requestId.toList →
    parse (Encoder.orderCancelText messageInfo order requestId requestId2) =
      some ((Encoder.orderCancel messageInfo order requestId requestId2).json format)
  orderCancelCp : ∀ messageInfo requestId requestId2 symbol,
    IsPlain symbol.toList → IsPlain requestId.toList →
    parse (Encoder.orderCancelCpText messageInfo requestId requestId2 symbol) =
      some ((Encoder.orderCancelCp messageInfo requestId requestId2 symbol).json format)

/-- The texts of the trading connection read as the frames it sends. -/
structure DropCopyReads (format : DecimalFormat) (config : Config) (Mark : Type) : Prop where
  sendLogin : ∀ traceInfo (streams : Streams Mark),
    SendsText format (DropCopy.sendLoginText config traceInfo) streams
      (DropCopy.sendLogin config traceInfo streams)
  subscribe : ∀ traceInfo channel event payloadText payload (streams : Streams Mark),
    IsPlain channel.toList → IsPlain event.toList →
    Reads payloadText.toList (.array (payload.map .string)) →
    SendsText format (DropCopy.subscribeText config traceInfo channel event payloadText) streams
      (DropCopy.subscribe config traceInfo channel event payload streams)
  subscribeBalances : ∀ traceInfo (streams : Streams Mark),
    SendsText format
      (DropCopy.subscribeBalancesText config traceInfo streams.dropCopy.userId) streams
      (DropCopy.subscribeBalances config traceInfo streams)
  subscribePositions : ∀ traceInfo (streams : Streams Mark),
    SendsText format
      (DropCopy.subscribePositionsText config traceInfo streams.dropCopy.userId) streams
      (DropCopy.subscribePositions config traceInfo streams)
  subscribeOrders : ∀ traceInfo (streams : Streams Mark),
    SendsText format
      (DropCopy.subscribeOrdersText config traceInfo streams.dropCopy.userId) streams
      (DropCopy.subscribeOrders config traceInfo streams)
  subscribeTrades : ∀ traceInfo (streams : Streams Mark),
    SendsText format
      (DropCopy.subscribeTradesText config traceInfo streams.dropCopy.userId) streams
      (DropCopy.subscribeTrades config traceInfo streams)
  getOpenOrders : ∀ traceInfo (streams : Streams Mark),
    SendsText format (DropCopy.getOpenOrdersText traceInfo) streams
      (DropCopy.getOpenOrders traceInfo streams)
  getSingleOrderStatus : ∀ traceInfo clientOrderId externalOrderId settlementCoin
      (streams : Streams Mark),
    IsPlain clientOrderId.toList → IsPlain externalOrderId.toList →
    IsPlain settlementCoin.toList →
    SendsText format
      (DropCopy.getSingleOrderStatusText traceInfo clientOrderId externalOrderId settlementCoin)
      streams
      (DropCopy.getSingleOrderStatus traceInfo clientOrderId externalOrderId settlementCoin
        streams)

open Market in
/-- The texts of a market data connection read as the frames it sends, for every list of symbols
that is not empty. -/
structure MarketDataReads (Store Queue : Type) [LimitQueue String Queue] : Prop where
  subscribeSymbols : ∀ (context : Market.Context) stream channel symbols
      (feeds : Feeds Store Queue),
    symbols ≠ [] → IsPlain channel.toList → (∀ symbol ∈ symbols, IsPlain symbol.toList) →
    SendsTexts [MarketData.subscribeSymbolsText context channel symbols] feeds
      (MarketData.subscribeSymbols context stream channel symbols feeds)
  subscribeOrderBook : ∀ (context : Market.Context) stream channel symbols frequency depth
      (feeds : Feeds Store Queue),
    symbols ≠ [] → IsPlain channel.toList → (∀ symbol ∈ symbols, IsPlain symbol.toList) →
    SendsTexts
      (symbols.map (MarketData.subscribeOrderBookText context channel frequency depth)) feeds
      (MarketData.subscribeOrderBook context stream channel symbols frequency depth feeds)
  subscribeCandlesticks : ∀ (context : Market.Context) stream channel symbols interval
      (feeds : Feeds Store Queue),
    symbols ≠ [] → IsPlain channel.toList → (∀ symbol ∈ symbols, IsPlain symbol.toList) →
    IsPlain interval.toList →
    SendsTexts (symbols.map (MarketData.subscribeCandlesticksText context channel interval)) feeds
      (MarketData.subscribeCandlesticks context stream channel symbols interval feeds)

/-! ### Amendments -/

section Amendments

variable {format : DecimalFormat} {sign : Side → ℚ} {messageInfo : MessageInfo}
  {modifyOrder : ModifyOrder} {order : Order} {refData : RefData} {requestId : String}
  {requestId2 : UInt32}

/-- The parameters of an amendment. -/
theorem requestParam_orderAmend {text : String}
    (reads : parse text = some ((Encoder.orderAmend sign messageInfo modifyOrder order refData
      requestId requestId2).json format)) :
    requestParam text "size" =
        (if modifyOrder.quantity.isNan then none
        else some (format.json
          ⟨modifyOrder.quantity.scale (sign order.side), refData.quantityPrecision⟩)) ∧
      requestParam text "price" =
        (if modifyOrder.price.isNan then none
        else some (.string (format.text ⟨modifyOrder.price, refData.pricePrecision⟩))) := by
  rw [requestParam, requestParam, reads]
  cases quantity : modifyOrder.quantity.isNan <;> cases price : modifyOrder.price.isNan <;>
    simp [Encoder.orderAmend, Frame.json, Payload.json, requestJson, path?, get?, List.lookup_cons,
      quantity, price]

/-- The text of an amendment says what was asked. -/
theorem amends_as_asked (lawful : format.IsLawful)
    (sized : modifyOrder.quantity.isNan = false → IsFinite modifyOrder.quantity)
    (limited : modifyOrder.price.isNan = false → IsFinite modifyOrder.price)
    (plainOrder : IsPlain order.clientOrderId.toList) (plainRequest : IsPlain requestId.toList) :
    AmendsAsAsked format (sign order.side) modifyOrder refData
      (Encoder.orderAmendText format sign messageInfo modifyOrder order refData requestId
        requestId2) := by
  have reads : parse (Encoder.orderAmendText format sign messageInfo modifyOrder order refData
        requestId requestId2) =
      some ((Encoder.orderAmend sign messageInfo modifyOrder order refData requestId
        requestId2).json format) :=
    (Encoder.orderAmendText_reads lawful sized limited plainOrder plainRequest).parse
  obtain ⟨size, price⟩ := requestParam_orderAmend reads
  refine ⟨?_, ?_, ?_, ?_, ?_⟩
  · rw [size]
    cases modifyOrder.quantity.isNan <;> rfl
  · rw [price]
    cases modifyOrder.price.isNan <;> rfl
  · intro quantity given
    rw [size, given]
    rfl
  · intro quantity given room
    rw [size, given]
    exact congrArg (fun value => some (Json.number value)) (lawful.exact _ _ room)
  · intro value given
    rw [price, given]
    rfl

end Amendments

/-! ### Every text -/

/-- The text of every frame the gateway sends reads as the frame. -/
theorem frames_read_as_asked {format : DecimalFormat} (lawful : format.IsLawful) (config : Config)
    (plain : config.account.IsPlain) (Mark Store Queue : Type) [LimitQueue String Queue] :
    EncoderReads format config.sign ∧ DropCopyReads format config Mark ∧
      MarketDataReads Store Queue := by
  refine ⟨⟨?_, ?_, ?_, ?_, ?_⟩, ⟨?_, ?_, ?_, ?_, ?_, ?_, ?_, ?_⟩, ⟨?_, ?_, ?_⟩⟩
  · intro _ _ _ _ _ _ _ finite limited plainSymbol plainRequest placed
    obtain ⟨text, written, reads⟩ :=
      Encoder.orderPlaceText_reads lawful finite limited plainSymbol plainRequest placed
    exact ⟨text, written, reads.parse⟩
  · exact fun _ _ _ _ _ _ _ => Encoder.orderPlaceText_refused
  · intro _ _ _ _ _ _ sized limited plainOrder plainRequest
    exact ⟨(Encoder.orderAmendText_reads lawful sized limited plainOrder plainRequest).parse,
      amends_as_asked lawful sized limited plainOrder plainRequest⟩
  · intro _ _ _ _ plainOrder plainRequest
    exact (Encoder.orderCancelText_reads plainOrder plainRequest).parse
  · intro _ _ _ _ plainSymbol plainRequest
    exact (Encoder.orderCancelCpText_reads plainSymbol plainRequest).parse
  · exact fun _ streams => DropCopy.sendLogin_sendsText plain streams
  · exact fun _ _ _ _ _ streams plainChannel plainEvent reads =>
      DropCopy.subscribe_sendsText plain plainChannel plainEvent reads streams
  · exact fun _ streams => DropCopy.subscribeBalances_sendsText plain streams
  · exact fun _ streams => DropCopy.subscribePositions_sendsText plain streams
  · exact fun _ streams => DropCopy.subscribeOrders_sendsText plain streams
  · exact fun _ streams => DropCopy.subscribeTrades_sendsText plain streams
  · exact fun _ streams => DropCopy.getOpenOrders_sendsText streams
  · exact fun _ _ _ _ streams plainClient plainExternal plainCoin =>
      DropCopy.getSingleOrderStatus_sendsText plainClient plainExternal plainCoin streams
  · exact fun _ _ _ _ feeds written plainChannel plainSymbols =>
      Market.MarketData.subscribeSymbols_sendsTexts written plainChannel plainSymbols feeds
  · exact fun _ _ _ _ frequency depth feeds _ plainChannel plainSymbols =>
      Market.MarketData.subscribeOrderBook_sendsTexts plainChannel plainSymbols frequency depth
        feeds
  · exact fun _ _ _ _ _ feeds _ plainChannel plainSymbols plainInterval =>
      Market.MarketData.subscribeCandlesticks_sendsTexts plainChannel plainSymbols plainInterval
        feeds

/-! ### A run -/

/-- The exponent that moves the point by some decimals. -/
def plainExponent (precision : Nat) : List Char :=
  if precision = 0 then [] else 'e' :: '-' :: Nat.toDigits 10 precision

/-- A host that rounds down, and prints whole numbers without a point. -/
def plainFormat : DecimalFormat where
  text decimal :=
    match decimal.value with
    | .number value =>
      toString (value * 10 ^ decimal.precision).floor ++
        String.ofList (plainExponent decimal.precision)
    | _ => ""
  round precision value := (value * 10 ^ precision).floor * 10 ^ (-precision : ℤ)

theorem plainExponent_reads (precision : Nat) :
    (∀ c ∈ (plainExponent precision).head?, c = 'e') ∧
      (∀ c ∈ plainExponent precision, isNumberChar c = true) ∧
      exponentPart (plainExponent precision) = some (-(precision : ℤ)) := by
  unfold plainExponent
  split
  next none =>
    rw [none]
    exact ⟨nofun, List.forall_mem_nil _, rfl⟩
  next some =>
    refine ⟨?_, ?_, ?_⟩
    · rintro c ⟨⟩
      rfl
    · intro c member
      rcases List.mem_cons.mp member with rfl | member
      · rfl
      rcases List.mem_cons.mp member with rfl | member
      · rfl
      simp [isNumberChar, toDigits_isDigit member]
    · rw [exponentPart, digits_toDigits]
      rfl

theorem plainFormat_isLawful : plainFormat.IsLawful := by
  refine ⟨fun value precision => ?_, fun value precision room => ?_⟩
  · obtain ⟨starts, characters, reads⟩ := plainExponent_reads precision
    show IsNumber (toString _ ++ String.ofList _).toList _
    rw [String.toList_append, String.toList_ofList]
    exact isNumber_int _ starts characters reads
  · show ((value * 10 ^ precision).floor : ℚ) * 10 ^ (-precision : ℤ) = value
    have whole : ((value * 10 ^ precision).floor : ℚ) = value * 10 ^ precision := by
      rw [Rat.floor, if_pos room]
      exact Rat.coe_int_num_of_den_eq_one room
    have positive : (10 : ℚ) ^ precision ≠ 0 := pow_ne_zero _ (by decide)
    rw [whole, zpow_neg, zpow_natCast, mul_inv_cancel_right₀ positive]

/-- The plain account's frames read as asked. The amendment of a sell order to 3 contracts at no
price has the size -3. -/
theorem frames_read_as_asked_plain :
    (EncoderReads plainFormat plainConfig.sign ∧
      DropCopyReads plainFormat plainConfig PlainRequest ∧
      MarketDataReads (PlainSymbols String) (PlainQueue String)) ∧
      Encoder.orderAmendText plainFormat plainConfig.sign ⟨1000000000⟩ ⟨.number 3, .nan⟩
          ⟨"BTC_USDT", .sell, "id", ""⟩ ⟨0, 1⟩ "request" 7 =
        "\x7b\"id\":7,\"time\":1000000000,\"channel\":\"futures.order_amend\",\"event\":\"api\"," ++
          "\"payload\":\x7b\"req_id\":\"request\",\"req_param\":\x7b\"order_id\":\"t-id\"," ++
          "\"size\":-3,\"amend_text\":\"id\"\x7d\x7d\x7d" := by
  have signature : IsPlain "signature".toList := rfl
  have plain : plainConfig.account.IsPlain :=
    ⟨rfl, fun _ _ _ _ => signature, fun _ _ _ => signature⟩
  exact ⟨frames_read_as_asked plainFormat_isLawful plainConfig plain PlainRequest
    (PlainSymbols String) (PlainQueue String), by decide +kernel⟩

/-! ### Prices of orders -/

/-- The text of the price that a payload has. -/
def priceText (format : DecimalFormat) : Payload → Option String
  | .orderPlace _ _ _ price .. => some (format.text price)
  | _ => none

/-- An order is refused, or its message has a price that is a number other than zero. -/
def IsPriced (format : DecimalFormat) : Except NotSupported Frame → Prop
  | .error _ => True
  | .ok frame => ∃ text value,
    priceText format frame.payload = some text ∧ numberValue text.toList = some value ∧ value ≠ 0

/-- The time in force of an order is none that the exchange knows. -/
def RefusedTif (createOrder : CreateOrder) : Prop :=
  .participateDoNotInitiate ∉ createOrder.executionInstructions ∧
    createOrder.timeInForce ∉ [TimeInForce.gtc, .ioc, .fok]

/-- The price of an order is a number that is not rounded to zero. -/
def KeepsPrice (format : DecimalFormat) (createOrder : CreateOrder) (refData : RefData) : Prop :=
  ∃ price, createOrder.price = .number price ∧ format.round refData.pricePrecision price ≠ 0

section Prices

variable {format : DecimalFormat} {createOrder : CreateOrder}

/-- An order that is no market order is refused for its time in force alone. -/
theorem orderPlaceTif_refused (limit : createOrder.orderType ≠ .market) :
    Encoder.orderPlaceTif createOrder = .error .notSupported ∧ RefusedTif createOrder ∨
      (∃ tif, Encoder.orderPlaceTif createOrder = .ok tif) ∧ ¬ RefusedTif createOrder := by
  unfold Encoder.orderPlaceTif RefusedTif
  rw [if_neg limit]
  by_cases passive : .participateDoNotInitiate ∈ createOrder.executionInstructions
  · rw [if_pos (List.contains_iff_mem.mpr passive)]
    exact Or.inr ⟨⟨_, rfl⟩, fun refused => refused.1 passive⟩
  · rw [if_neg fun contained => passive (List.contains_iff_mem.mp contained)]
    cases createOrder.timeInForce <;> simp [passive]

/-- The price of an order that is no market order is a number other than zero exactly if it is a
number that is not rounded to zero. -/
theorem orderPlacePrice_iff (lawful : format.IsLawful)
    (unlimited : ∀ negative precision,
      numberValue (format.text ⟨.infinity negative, precision⟩).toList = none)
    (limit : createOrder.orderType ≠ .market) (refData : RefData) :
    (∃ value, numberValue (format.text
        ⟨Encoder.orderPlacePrice createOrder, refData.pricePrecision⟩).toList = some value ∧
          value ≠ 0) ↔
      KeepsPrice format createOrder refData := by
  unfold Encoder.orderPlacePrice KeepsPrice
  rw [if_neg limit]
  cases createOrder.price with
  | nan =>
    have zero : format.round refData.pricePrecision 0 = 0 := lawful.exact 0 _ (by simp)
    show (∃ value, numberValue (format.text ⟨.number 0, _⟩).toList = some value ∧ _) ↔ _
    rw [(lawful.prints 0 refData.pricePrecision).denotes, zero]
    simp
  | infinity negative =>
    show (∃ value, numberValue (format.text ⟨.infinity negative, _⟩).toList = some value ∧ _) ↔ _
    rw [unlimited]
    simp
  | number price =>
    show (∃ value, numberValue (format.text ⟨.number price, _⟩).toList = some value ∧ _) ↔ _
    rw [(lawful.prints price refData.pricePrecision).denotes]
    simp

/-- An order that is no market order is refused or priced exactly if the exchange does not know
its time in force, or its price is a number that is not rounded to zero. -/
theorem limit_orders_priced_iff (lawful : format.IsLawful)
    (unlimited : ∀ negative precision,
      numberValue (format.text ⟨.infinity negative, precision⟩).toList = none)
    (sign : Side → ℚ) (messageInfo : MessageInfo) (createOrder : CreateOrder)
    (limit : createOrder.orderType ≠ .market) (order : Order) (refData : RefData)
    (requestId : String) (requestId2 : UInt32) :
    IsPriced format (Encoder.orderPlace sign messageInfo createOrder order refData requestId
        requestId2) ↔
      RefusedTif createOrder ∨ KeepsPrice format createOrder refData := by
  rw [← orderPlacePrice_iff lawful unlimited limit refData]
  rcases orderPlaceTif_refused limit with ⟨refused, unknown⟩ | ⟨⟨tif, encoded⟩, known⟩
  · rw [Encoder.orderPlace, refused]
    exact iff_of_true trivial (Or.inl unknown)
  · rw [Encoder.orderPlace, encoded, or_iff_right known]
    constructor
    · rintro ⟨text, value, same, denotes, nonzero⟩
      cases same
      exact ⟨value, denotes, nonzero⟩
    · rintro ⟨value, denotes, nonzero⟩
      exact ⟨_, value, rfl, denotes, nonzero⟩

end Prices

/-- A limit order at a price, good for immediate execution. -/
def plainLimit (price : Double) : CreateOrder where
  side := .buy
  orderType := .limit
  timeInForce := .ioc
  executionInstructions := []
  quantity := .number 3
  price

/-- The request of a limit order at 100 has a price. -/
theorem limit_orders_priced_plain :
    IsPriced plainFormat (Encoder.orderPlace plainConfig.sign ⟨1⟩ (plainLimit (.number 100))
      ⟨"BTC_USDT", .buy, "A1", ""⟩ ⟨0, 0⟩ "A1" 1) := by
  refine (limit_orders_priced_iff plainFormat_isLawful (fun _ _ => rfl) _ _ _ (by decide)
    _ _ _ _).mpr (Or.inr ⟨100, rfl, ?_⟩)
  rw [plainFormat_isLawful.exact 100 0 (by norm_num)]
  norm_num

/-- A limit order without a price is sent with the price of a market order. -/
theorem unpriced_limit_order_sent :
    ¬ IsPriced plainFormat (Encoder.orderPlace plainConfig.sign ⟨1⟩ (plainLimit .nan)
      ⟨"BTC_USDT", .buy, "A1", ""⟩ ⟨0, 0⟩ "A1" 1) := by
  rintro ⟨text, value, ⟨⟩, denotes, nonzero⟩
  obtain ⟨price, ⟨⟩, -⟩ := (orderPlacePrice_iff plainFormat_isLawful (fun _ _ => rfl) (by decide)
    ⟨0, 0⟩).mp ⟨value, denotes, nonzero⟩

end GateFutures.Gateway
