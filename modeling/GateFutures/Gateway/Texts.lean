/-
This file models the texts that `DropCopy` writes itself, the login, the subscriptions and the two
queries, and proves that each reads as the frame the trading connection sends.
-/

import GateFutures.Gateway.DropCopy
import GateFutures.Protocol.Texts

namespace GateFutures.Gateway

open Library Library.Json Protocol Roq

variable {Mark : Type}

/-! ### Texts -/

namespace DropCopy

/-- The text `DropCopy::send_login` writes. -/
def sendLoginText (config : Config) (traceInfo : TraceInfo) (requestId : UInt32) : String :=
  let now := toSeconds traceInfo.originCreateTimeUtc
  let event := "api"
  let channel := "futures.login"
  let signature := config.account.createSignatureLogin event channel "" now
  let key := config.account.key
  "\x7b" ++
    s!"\"id\":{requestId}," ++
    s!"\"time\":{now}," ++
    s!"\"channel\":\"{channel}\"," ++
    s!"\"event\":\"{event}\"," ++
    "\"payload\":\x7b" ++
    s!"\"req_id\":\"{requestId}\"," ++
    s!"\"timestamp\":\"{now}\"," ++
    s!"\"api_key\":\"{key}\"," ++
    s!"\"signature\":\"{signature}\"" ++
    "\x7d" ++
    "\x7d"

/-- The text `DropCopy::subscribe` writes. -/
def subscribeText (config : Config) (traceInfo : TraceInfo) (channel event payload : String)
    (requestId : UInt32) : String :=
  let now := toSeconds traceInfo.originCreateTimeUtc
  let signature := config.account.createSignature channel event now
  let key := config.account.key
  "\x7b" ++
    s!"\"id\":{requestId}," ++
    s!"\"time\":{now}," ++
    s!"\"channel\":\"{channel}\"," ++
    s!"\"event\":\"{event}\"," ++
    s!"\"payload\":{payload}," ++
    "\"auth\":\x7b" ++
    "\"method\":\"api_key\"," ++
    s!"\"KEY\":\"{key}\"," ++
    s!"\"SIGN\":\"{signature}\"" ++
    "\x7d" ++
    "\x7d"

/-- The text `DropCopy::subscribe_balances` writes. -/
def subscribeBalancesText (config : Config) (traceInfo : TraceInfo) (userId : Int) :
    UInt32 → String :=
  let payload := s!"[\"{userId}\"]"
  subscribeText config traceInfo "futures.balances" "subscribe" payload

/-- The text `DropCopy::subscribe_positions` writes. -/
def subscribePositionsText (config : Config) (traceInfo : TraceInfo) (userId : Int) :
    UInt32 → String :=
  let payload := s!"[\"{userId}\",\"!all\"]"
  subscribeText config traceInfo "futures.positions" "subscribe" payload

/-- The text `DropCopy::subscribe_orders` writes. -/
def subscribeOrdersText (config : Config) (traceInfo : TraceInfo) (userId : Int) :
    UInt32 → String :=
  let payload := s!"[\"{userId}\",\"!all\"]"
  subscribeText config traceInfo "futures.orders" "subscribe" payload

/-- The text `DropCopy::subscribe_trades` writes. -/
def subscribeTradesText (config : Config) (traceInfo : TraceInfo) (userId : Int) :
    UInt32 → String :=
  let payload := s!"[\"{userId}\",\"!all\"]"
  subscribeText config traceInfo "futures.usertrades" "subscribe" payload

/-- The text `DropCopy::get_open_orders` writes. -/
def getOpenOrdersText (traceInfo : TraceInfo) (requestId : UInt32) : String :=
  let now := toSeconds traceInfo.originCreateTimeUtc
  let channel := "futures.order_list"
  let event := "api"
  "\x7b" ++
    s!"\"id\":{requestId}," ++
    s!"\"time\":{now}," ++
    s!"\"channel\":\"{channel}\"," ++
    s!"\"event\":\"{event}\"," ++
    "\"payload\":\x7b" ++
    s!"\"req_id\":\"{requestId}\"," ++
    "\"req_param\":\x7b" ++
    "\"status\":\"open\"" ++
    "\x7d" ++
    "\x7d" ++
    "\x7d"

/-- The text `DropCopy::get_single_order_status` writes. -/
def getSingleOrderStatusText (traceInfo : TraceInfo)
    (clientOrderId externalOrderId settlementCoin : String) (requestId : UInt32) : String :=
  let now := toSeconds traceInfo.originCreateTimeUtc
  let channel := "futures.order_status"
  let event := "api"
  let encodeBuffer := "\x7b" ++
    s!"\"id\":{requestId}," ++
    s!"\"time\":{now}," ++
    s!"\"channel\":\"{channel}\"," ++
    s!"\"event\":\"{event}\"," ++
    "\"payload\":\x7b" ++
    s!"\"req_id\":\"{clientOrderId}\"," ++
    "\"req_param\":\x7b" ++
    s!"\"settle\":\"{settlementCoin}\","
  let encodeBuffer :=
    if externalOrderId = "" then encodeBuffer ++ s!"\"order_id\":\"t-{clientOrderId}\""
    else encodeBuffer ++ s!"\"order_id\":\"{externalOrderId}\""
  encodeBuffer ++
    "\x7d" ++
    "\x7d" ++
    "\x7d"

end DropCopy

/-! ### Reading -/

/-- The key and the signatures of an account need no escape. -/
structure Account.IsPlain (account : Account) : Prop where
  key : Json.IsPlain account.key.toList
  login : ∀ event channel reqParam timestamp,
    Json.IsPlain (account.createSignatureLogin event channel reqParam timestamp).toList
  signature : ∀ channel event timestamp,
    Json.IsPlain (account.createSignature channel event timestamp).toList

/-- A sender takes the next request id and sends one frame, and the text it writes with that id
reads as the frame. -/
def SendsText (format : DecimalFormat) (text : UInt32 → String) (before after : Streams Mark) :
    Prop :=
  ∃ frame, after.dropCopy.requestId = before.dropCopy.requestId + 1 ∧
    after.outbox = before.outbox ++ [.sendText frame] ∧
    parse (text after.dropCopy.requestId) = some (frame.json format)

theorem isPlain_toString (value : Int) : IsPlain (toString value).toList :=
  (isNumber_integer value).isPlain

theorem isPlain_requestId (requestId : UInt32) : IsPlain (toString requestId).toList :=
  (isNumber_natural requestId.toNat).isPlain

/-- What is sent is what the text reads as. -/
theorem SendsText.of_reads {format : DecimalFormat} {text : UInt32 → String}
    {frame : UInt32 → Frame} {streams : Streams Mark}
    (reads : ∀ requestId, Reads (text requestId).toList ((frame requestId).json format)) :
    SendsText format text streams (streams.sendText frame) :=
  ⟨frame (streams.dropCopy.requestId + 1), rfl, rfl, (reads _).parse⟩

namespace DropCopy

variable {format : DecimalFormat} {config : Config} {traceInfo : TraceInfo}

/-- The text of `DropCopy::send_login` reads as its frame. -/
theorem sendLogin_sendsText (plain : config.account.IsPlain) (streams : Streams Mark) :
    SendsText format (sendLoginText config traceInfo) streams
      (sendLogin config traceInfo streams) := by
  refine .of_reads fun requestId => ?_
  set now := toSeconds traceInfo.originCreateTimeUtc with nowIs
  set signature := config.account.createSignatureLogin "api" "futures.login" "" now
    with signatureIs
  have text : (sendLoginText config traceInfo requestId).toList =
      frameText requestId now "futures.login" "api"
        (objectText
          [("req_id", stringText (toString requestId).toList),
            ("timestamp", stringText (toString now).toList),
            ("api_key", stringText config.account.key.toList),
            ("signature", stringText signature.toList)]) [] := by
    unfold sendLoginText
    simp [← nowIs, ← signatureIs]
  have channel : IsPlain "futures.login".toList := rfl
  rw [text]
  exact frame_reads channel isPlain_api (.object <|
    .cons (member_reads rfl (.string (isPlain_requestId requestId))) <|
    .cons (member_reads rfl (.string (isPlain_toString now))) <|
    .cons (member_reads rfl (.string plain.key)) <|
    .cons (member_reads rfl (.string (plain.login _ _ _ _))) .nil) .nil

/-- The text of `DropCopy::subscribe` reads as its frame, if its payload reads as the strings it
lists. -/
theorem subscribe_sendsText (plain : config.account.IsPlain) {channel event payloadText : String}
    {payload : List String} (plainChannel : IsPlain channel.toList)
    (plainEvent : IsPlain event.toList)
    (reads : Reads payloadText.toList (.array (payload.map .string))) (streams : Streams Mark) :
    SendsText format (subscribeText config traceInfo channel event payloadText) streams
      (subscribe config traceInfo channel event payload streams) := by
  refine .of_reads fun requestId => ?_
  set now := toSeconds traceInfo.originCreateTimeUtc with nowIs
  set signature := config.account.createSignature channel event now with signatureIs
  have text : (subscribeText config traceInfo channel event payloadText requestId).toList =
      frameText requestId now channel event payloadText.toList
        [("auth", objectText
          [("method", stringText "api_key".toList), ("KEY", stringText config.account.key.toList),
            ("SIGN", stringText signature.toList)])] := by
    unfold subscribeText
    simp [← nowIs, ← signatureIs]
  have method : IsPlain "api_key".toList := rfl
  rw [text]
  exact frame_reads plainChannel plainEvent reads <|
    .cons (member_reads rfl (.object <|
      .cons (member_reads rfl (.string method)) <|
      .cons (member_reads rfl (.string plain.key)) <|
      .cons (member_reads rfl (.string (plain.signature _ _ _))) .nil)) .nil

/-- The text of `DropCopy::subscribe_balances` reads as its frame. -/
theorem subscribeBalances_sendsText (plain : config.account.IsPlain) (streams : Streams Mark) :
    SendsText format (subscribeBalancesText config traceInfo streams.dropCopy.userId) streams
      (subscribeBalances config traceInfo streams) := by
  set userId := toString streams.dropCopy.userId with userIdIs
  have channel : IsPlain "futures.balances".toList := rfl
  have event : IsPlain "subscribe".toList := rfl
  have text : (s!"[\"{userId}\"]").toList = arrayText [stringText userId.toList] := by simp
  have strings : ∀ listed ∈ [userId], IsPlain listed.toList := by
    rintro _ (_ | ⟨_, ⟨⟩⟩)
    exact isPlain_toString _
  exact subscribe_sendsText plain channel event (text ▸ .array (strings_read strings)) streams

/-- A subscription to all contracts of a user reads as its frame. -/
theorem subscribeAll_sendsText (plain : config.account.IsPlain) {channel : String}
    (plainChannel : IsPlain channel.toList) (userId : Int) (streams : Streams Mark) :
    SendsText format
      (subscribeText config traceInfo channel "subscribe" s!"[\"{userId}\",\"!all\"]") streams
      (subscribe config traceInfo channel "subscribe" [toString userId, "!all"] streams) := by
  have event : IsPlain "subscribe".toList := rfl
  have text : (s!"[\"{userId}\",\"!all\"]").toList =
      arrayText [stringText (toString userId).toList, stringText "!all".toList] := by simp
  have strings : ∀ listed ∈ [toString userId, "!all"], IsPlain listed.toList := by
    rintro _ (_ | ⟨_, _ | ⟨_, ⟨⟩⟩⟩)
    · exact isPlain_toString _
    · rfl
  exact subscribe_sendsText plain plainChannel event (text ▸ .array (strings_read strings)) streams

/-- The text of `DropCopy::subscribe_positions` reads as its frame. -/
theorem subscribePositions_sendsText (plain : config.account.IsPlain) (streams : Streams Mark) :
    SendsText format (subscribePositionsText config traceInfo streams.dropCopy.userId) streams
      (subscribePositions config traceInfo streams) :=
  subscribeAll_sendsText plain (by rfl) _ streams

/-- The text of `DropCopy::subscribe_orders` reads as its frame. -/
theorem subscribeOrders_sendsText (plain : config.account.IsPlain) (streams : Streams Mark) :
    SendsText format (subscribeOrdersText config traceInfo streams.dropCopy.userId) streams
      (subscribeOrders config traceInfo streams) :=
  subscribeAll_sendsText plain (by rfl) _ streams

/-- The text of `DropCopy::subscribe_trades` reads as its frame. -/
theorem subscribeTrades_sendsText (plain : config.account.IsPlain) (streams : Streams Mark) :
    SendsText format (subscribeTradesText config traceInfo streams.dropCopy.userId) streams
      (subscribeTrades config traceInfo streams) :=
  subscribeAll_sendsText plain (by rfl) _ streams

/-- The text of `DropCopy::get_open_orders` reads as its frame. -/
theorem getOpenOrders_sendsText (streams : Streams Mark) :
    SendsText format (getOpenOrdersText traceInfo) streams (getOpenOrders traceInfo streams) := by
  refine .of_reads fun requestId => ?_
  set now := toSeconds traceInfo.originCreateTimeUtc with nowIs
  have text : (getOpenOrdersText traceInfo requestId).toList =
      frameText requestId now "futures.order_list" "api"
        (requestText (toString requestId) [("status", stringText "open".toList)]) [] := by
    unfold getOpenOrdersText
    simp [← nowIs]
  have channel : IsPlain "futures.order_list".toList := rfl
  have status : IsPlain "open".toList := rfl
  rw [text]
  exact frame_reads channel isPlain_api (request_reads (isPlain_requestId requestId) <|
    .cons (member_reads rfl (.string status)) .nil) .nil

/-- The text of `DropCopy::get_single_order_status` reads as its frame. -/
theorem getSingleOrderStatus_sendsText {clientOrderId externalOrderId settlementCoin : String}
    (plainClient : IsPlain clientOrderId.toList) (plainExternal : IsPlain externalOrderId.toList)
    (plainCoin : IsPlain settlementCoin.toList) (streams : Streams Mark) :
    SendsText format
      (getSingleOrderStatusText traceInfo clientOrderId externalOrderId settlementCoin) streams
      (getSingleOrderStatus traceInfo clientOrderId externalOrderId settlementCoin streams) := by
  refine .of_reads fun requestId => ?_
  set now := toSeconds traceInfo.originCreateTimeUtc with nowIs
  set orderId := if externalOrderId = "" then "t-" ++ clientOrderId else externalOrderId
    with orderIdIs
  have text : (getSingleOrderStatusText traceInfo clientOrderId externalOrderId settlementCoin
        requestId).toList =
      frameText requestId now "futures.order_status" "api"
        (requestText clientOrderId
          [("settle", stringText settlementCoin.toList),
            ("order_id", stringText orderId.toList)]) [] := by
    unfold getSingleOrderStatusText
    by_cases empty : externalOrderId = "" <;> simp [← nowIs, orderIdIs, empty]
  have channel : IsPlain "futures.order_status".toList := rfl
  have plainOrder : IsPlain orderId.toList := by
    rw [orderIdIs]
    split
    · exact isPlain_prefixed plainClient
    · exact plainExternal
  rw [text]
  exact frame_reads channel isPlain_api (request_reads plainClient <|
    .cons (member_reads rfl (.string plainCoin)) <|
    .cons (member_reads rfl (.string plainOrder)) .nil) .nil

end DropCopy

end GateFutures.Gateway
