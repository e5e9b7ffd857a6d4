/-
This file models `DropCopy`, the trading connection: its senders, its download and the
handlers of its messages.
-/

import GateFutures.Gateway.Streams

namespace GateFutures.Gateway

open Framework Protocol Roq

variable {Mark : Type} [LimitRequest Mark]

namespace DropCopy

/-! ### Helpers -/

/-- `get_client_order_id`. -/
def getClientOrderId (text : String) : String :=
  if "t-".toList <+: text.toList then String.ofList (text.toList.drop 2) else ""

@[simp] theorem getClientOrderId_prefixed (clientOrderId : String) :
    getClientOrderId ("t-" ++ clientOrderId) = clientOrderId := by
  simp [getClientOrderId]

/-- `get_order_status`. -/
def getOrderStatus (finishAs : FinishAs) (status : Protocol.OrderStatus) :
    Except Fatal Roq.OrderStatus :=
  if finishAs.map ≠ .undefined then .ok finishAs.map
  else if status = .open then .ok .working
  else .error .unexpectedOrderStatus

/-- `DropCopy::operator()(Trace<ConnectionStatus>)`. -/
def setConnectionStatus (status : ConnectionStatus) (reason : String) (streams : Streams Mark) :
    Streams Mark :=
  { streams with dropCopy.connectionStatus := status }.emit (.streamStatus .dropCopy status reason)

/-- `DropCopy::create_order_update`. An order the gateway did not place has no update. -/
def createOrderUpdate {width : Nat} (config : Config) (value : OrderItem width)
    (updateType : UpdateType) : Except Fatal (Option OrderUpdate) := do
  let clientOrderId := getClientOrderId value.text
  if clientOrderId = "" then
    return none
  let orderStatus ← getOrderStatus value.finishAs value.status
  let quantity := value.size.abs.toInt
  let remainingQuantity := value.left.abs.toInt
  let tradedQuantity := quantity - remainingQuantity
  return some {
    account := config.account.name
    exchange := config.settings.exchange
    symbol := value.contract
    side := if value.size.toInt < 0 then .sell else .buy
    orderType := if updateType = .snapshot then .limit else .undefined
    timeInForce := value.tif.map
    createTimeUtc := match value.createTimeMs with
      | some createTimeMs => if createTimeMs ≠ 0 then createTimeMs else value.createTime
      | none => value.createTime
    updateTimeUtc := value.updateTime
    externalOrderId := toString value.id.toInt
    clientOrderId
    orderStatus
    quantity := .ofInt quantity
    price := value.price
    remainingQuantity := .ofInt remainingQuantity
    tradedQuantity := .ofInt tradedQuantity
    averageTradedPrice := if 0 < tradedQuantity then value.fillPrice else .nan
    updateType
    sendingTimeUtc := value.updateTime }

/-! ### Senders -/

/-- `DropCopy::send_login`. -/
def sendLogin (config : Config) (traceInfo : TraceInfo) (streams : Streams Mark) :
    Streams Mark :=
  let now := toSeconds traceInfo.originCreateTimeUtc
  streams.sendText fun requestId =>
    { id := requestId, time := now, channel := "futures.login", event := "api"
      payload := .login requestId now config.account.key
        (config.account.createSignatureLogin "api" "futures.login" "" now) }

/-- `DropCopy::subscribe`. -/
def subscribe (config : Config) (traceInfo : TraceInfo) (channel event : String)
    (payload : List String) (streams : Streams Mark) : Streams Mark :=
  let now := toSeconds traceInfo.originCreateTimeUtc
  streams.sendText fun requestId =>
    { id := requestId, time := now, channel, event
      payload := .subscribe payload config.account.key
        (config.account.createSignature channel event now) }

/-- `DropCopy::subscribe_balances`. -/
def subscribeBalances (config : Config) (traceInfo : TraceInfo) (streams : Streams Mark) :
    Streams Mark :=
  subscribe config traceInfo "futures.balances" "subscribe" [toString streams.dropCopy.userId]
    streams

/-- `DropCopy::subscribe_positions`. -/
def subscribePositions (config : Config) (traceInfo : TraceInfo) (streams : Streams Mark) :
    Streams Mark :=
  subscribe config traceInfo "futures.positions" "subscribe"
    [toString streams.dropCopy.userId, "!all"] streams

/-- `DropCopy::subscribe_orders`. -/
def subscribeOrders (config : Config) (traceInfo : TraceInfo) (streams : Streams Mark) :
    Streams Mark :=
  subscribe config traceInfo "futures.orders" "subscribe"
    [toString streams.dropCopy.userId, "!all"] streams

/-- `DropCopy::subscribe_trades`. -/
def subscribeTrades (config : Config) (traceInfo : TraceInfo) (streams : Streams Mark) :
    Streams Mark :=
  subscribe config traceInfo "futures.usertrades" "subscribe"
    [toString streams.dropCopy.userId, "!all"] streams

/-- `DropCopy::get_open_orders`. -/
def getOpenOrders (traceInfo : TraceInfo) (streams : Streams Mark) : Streams Mark :=
  streams.sendText fun requestId =>
    { id := requestId, time := toSeconds traceInfo.originCreateTimeUtc
      channel := "futures.order_list", event := "api", payload := .orderList requestId }

/-- `DropCopy::get_single_order_status`. Without an external order id the prefixed client
order id selects the order. -/
def getSingleOrderStatus (traceInfo : TraceInfo)
    (clientOrderId externalOrderId settlementCoin : String) (streams : Streams Mark) :
    Streams Mark :=
  streams.sendText fun requestId =>
    { id := requestId, time := toSeconds traceInfo.originCreateTimeUtc
      channel := "futures.order_status", event := "api"
      payload := .orderStatus clientOrderId settlementCoin
        (if externalOrderId = "" then "t-" ++ clientOrderId else externalOrderId) }

/-- `DropCopy::check_stale_orders`: count and query every order the host reports stale. -/
def checkStaleOrders (context : Context) (streams : Streams Mark) : Streams Mark :=
  context.dispatcher.allStaleOrders.foldl
    (fun current order =>
      getSingleOrderStatus context.traceInfo order.clientOrderId order.externalOrderId
        (context.getSettleCoin order.symbol)
        { current with dropCopy.downloadStaleOrdersCounter :=
            current.dropCopy.downloadStaleOrdersCounter + 1 })
    streams

/-- `DropCopy::check_stale_orders_2`. -/
def checkStaleOrders2 (config : Config) (context : Context) (streams : Streams Mark) :
    Streams Mark :=
  if streams.dropCopy.nextCheckStaleOrders < context.traceInfo.originCreateTime then
    checkStaleOrders context
      { streams with dropCopy.nextCheckStaleOrders :=
          context.traceInfo.originCreateTime + config.settings.checkStaleOrderFreq }
  else streams

/-! ### The download -/

/-- `publish_downloading`. -/
def publishDownloading (state : State) (streams : Streams Mark) : Streams Mark :=
  setConnectionStatus .downloading state.enumName streams

/-- `DropCopy::download`. -/
def download (config : Config) (context : Context) : Callback State (Streams Mark)
  | .undefined, _, streams => (streams, 0)
  | .subscribeBalances, _, streams =>
    (subscribeBalances config context.traceInfo (publishDownloading .subscribeBalances streams), 1)
  | .getBalances, _, streams =>
    let streams := publishDownloading .getBalances streams
    ({ streams with request.balances := LimitRequest.request streams.request.balances }, 1)
  | .subscribePositions, _, streams =>
    (subscribePositions config context.traceInfo
      (publishDownloading .subscribePositions streams), 1)
  | .getPositions, _, streams =>
    let streams := publishDownloading .getPositions streams
    ({ streams with request.positions := LimitRequest.request streams.request.positions }, 1)
  | .subscribeOrders, _, streams =>
    (subscribeOrders config context.traceInfo (publishDownloading .subscribeOrders streams), 1)
  | .getOpenOrders, _, streams =>
    (getOpenOrders context.traceInfo (publishDownloading .getOpenOrders streams), 1)
  | .getStaleOrders, _, streams =>
    if streams.dropCopy.downloadStaleOrdersCounter ≠ 0 then
      (publishDownloading .getStaleOrders streams, 1)
    else (streams, 0)
  | .subscribeTrades, _, streams =>
    (subscribeTrades config context.traceInfo (publishDownloading .subscribeTrades streams), 1)
  | .getTrades, _, streams =>
    if config.settings.tradesLookback ≠ 0 then
      let streams := publishDownloading .getTrades streams
      ({ streams with request.trades := LimitRequest.request streams.request.trades }, 1)
    else (streams, 0)
  | .done, _, streams =>
    ({ setConnectionStatus .ready "" streams with dropCopy.ready := true }, 0)

end DropCopy

/-! ### Sessions -/

/-- An account's streams and the download of its trading connection. -/
structure Session (Driver Mark : Type) where
  streams : Streams Mark
  download : Driver

namespace Session

variable {Driver : Type} [Download2 DropCopy.State Driver]

/-- Act on the streams of a session. -/
def mapStreams (act : Streams Mark → Streams Mark) (session : Session Driver Mark) :
    Session Driver Mark :=
  { session with streams := act session.streams }

/-- `download_.state()`. -/
def state (session : Session Driver Mark) : DropCopy.State := Download2.state session.download

/-- `ready()` of the trading connection. -/
def ready (session : Session Driver Mark) : Bool :=
  session.streams.dropCopy.connectionStatus = .ready

/-- `download_.begin(trace_info)`. -/
def begin (config : Config) (context : Context) (session : Session Driver Mark) :
    Session Driver Mark :=
  let (download, streams) :=
    Download2.begin (DropCopy.download config context) session.download session.streams
  { streams, download }

/-- `download_.check(trace_info, state)`. -/
def check (config : Config) (context : Context) (state : DropCopy.State)
    (session : Session Driver Mark) : Session Driver Mark :=
  let (download, streams) :=
    Download2.check (DropCopy.download config context) state session.download session.streams
  { streams, download }

/-- `download_.check_relaxed(trace_info, state)`. -/
def checkRelaxed (config : Config) (context : Context) (state : DropCopy.State)
    (session : Session Driver Mark) : Session Driver Mark :=
  let (download, streams) :=
    Download2.checkRelaxed (DropCopy.download config context) state session.download
      session.streams
  { streams, download }

/-- `DropCopy::check_request_queue`. -/
def checkRequestQueue (config : Config) (context : Context) (session : Session Driver Mark) :
    Session Driver Mark :=
  match session.state with
  | .getBalances =>
    if LimitRequest.hasResponse session.streams.request.balances then
      session.check config context .getBalances
    else session
  | .getPositions =>
    if LimitRequest.hasResponse session.streams.request.positions then
      session.check config context .getPositions
    else session
  | .getTrades =>
    if LimitRequest.hasResponse session.streams.request.trades then
      session.check config context .getTrades
    else session
  | .undefined | .subscribeBalances | .subscribePositions | .subscribeOrders | .getOpenOrders
  | .getStaleOrders | .subscribeTrades | .done => session

/-! ### Events of the connection -/

/-- `DropCopy::operator()(Trace<Timer>)`. -/
def timer (config : Config) (context : Context) (refresh : Bool)
    (session : Session Driver Mark) : Session Driver Mark :=
  if refresh then
    let session := session.checkRequestQueue config context
    if session.ready then
      session.mapStreams (DropCopy.checkStaleOrders2 config context)
    else session
  else session

/-- `DropCopy::operator()(Trace<web::socket::Disconnected>)`. -/
def disconnected (session : Session Driver Mark) : Session Driver Mark :=
  let streams := session.streams
  let streams := DropCopy.setConnectionStatus .disconnected ""
    { streams with dropCopy.ready := false }
  { streams := { streams with dropCopy.downloadStaleOrdersCounter := 0 }
    download := Download2.reset session.download }

/-- `DropCopy::operator()(Trace<web::socket::Ready>)`. -/
def socketReady (config : Config) (context : Context) (session : Session Driver Mark) :
    Session Driver Mark :=
  session.mapStreams fun streams =>
    DropCopy.sendLogin config context.traceInfo
      (DropCopy.setConnectionStatus .loginSent "" streams)

/-! ### Order actions -/

/-- `DropCopy::operator()(Event<CreateOrder>)`. The encoder may throw after the request id was
taken; nothing is sent then. -/
def createOrder (config : Config) (messageInfo : MessageInfo) (request : CreateOrder)
    (order : Order) (refData : RefData) (requestId : String) (session : Session Driver Mark) :
    Session Driver Mark :=
  session.mapStreams fun streams =>
    let requestId2 := streams.dropCopy.requestId + 1
    match Encoder.orderPlace config.sign messageInfo request order refData requestId
      requestId2 with
    | .ok frame => streams.sendText fun _ => frame
    | .error _ => { streams with dropCopy.requestId := requestId2 }

/-- `DropCopy::operator()(Event<ModifyOrder>)`. -/
def modifyOrder (config : Config) (messageInfo : MessageInfo) (request : ModifyOrder)
    (order : Order) (refData : RefData) (requestId : String) (session : Session Driver Mark) :
    Session Driver Mark :=
  session.mapStreams fun streams => streams.sendText
    (Encoder.orderAmend config.sign messageInfo request order refData requestId)

/-- `DropCopy::operator()(Event<CancelOrder>)`. -/
def cancelOrder (messageInfo : MessageInfo) (order : Order) (requestId : String)
    (session : Session Driver Mark) : Session Driver Mark :=
  session.mapStreams fun streams => streams.sendText
    (Encoder.orderCancel messageInfo order requestId)

/-- `DropCopy::operator()(Event<CancelAllOrders>)`: one frame for each symbol the account has
orders in. -/
def cancelAllOrders (context : Context) (messageInfo : MessageInfo) (requestId : String)
    (session : Session Driver Mark) : Session Driver Mark :=
  session.mapStreams fun streams => context.dispatcher.allOrderSymbols.foldl
    (fun current symbol => current.sendText fun requestId2 =>
      Encoder.orderCancelCp messageInfo requestId requestId2 symbol) streams

/-! ### Messages of the exchange -/

/-- `DropCopy::operator()(Trace<TradeLogin>)`. -/
def tradeLogin (config : Config) (context : Context) (message : TradeLogin)
    (session : Session Driver Mark) : Except Fatal (Session Driver Mark) :=
  if message.header.status = 200 then
    if message.uid.toInt ≤ 0 then .error .loginUserId
    else
      .ok ((session.mapStreams fun streams =>
        { streams with dropCopy.userId := message.uid.toInt }).begin config context)
  else if config.settings.retryLogon then
    .ok (session.mapStreams fun streams => streams.emit .close)
  else .error .loginRejected

/-- `DropCopy::operator()(Trace<TradeSubscribe>)`. -/
def tradeSubscribe (config : Config) (context : Context) (message : TradeSubscribe)
    (session : Session Driver Mark) : Except Fatal (Session Driver Mark) :=
  if message.status ≠ .success then .error .subscribeRejected
  else .ok (match message.channel with
    | .balances => session.check config context .subscribeBalances
    | .positions => session.check config context .subscribePositions
    | .orders => session.check config context .subscribeOrders
    | .usertrades => session.check config context .subscribeTrades
    | _ => session)

/-- The update published for one item of `TradeBalances`. -/
def fundsUpdate (config : Config) (message : TradeBalances) (item : BalancesItem) :
    FundsUpdate where
  streamId := config.dropCopyStreamId
  account := config.account.name
  currency := item.currency
  balance := item.balance
  updateType := .incremental
  exchangeTimeUtc := item.timeMs
  sendingTimeUtc := message.timeMs

/-- `DropCopy::operator()(Trace<TradeBalances>)`. -/
def tradeBalances (config : Config) (message : TradeBalances) (session : Session Driver Mark) :
    Session Driver Mark :=
  session.mapStreams fun streams => message.result.foldl
    (fun current item => current.emit (.fundsUpdate (fundsUpdate config message item))) streams

end Session

/-- A position update, from either connection. -/
def createPositionUpdate (config : Config) (streamId : UInt16) (item : PositionsItem)
    (updateType : UpdateType) (exchangeTimeUtc sendingTimeUtc : Int) : PositionUpdate where
  streamId
  account := config.account.name
  exchange := config.settings.exchange
  symbol := item.contract
  longQuantity := .number (max 0 item.size.toInt)
  shortQuantity := .number (max 0 (-item.size.toInt))
  updateType
  exchangeTimeUtc
  sendingTimeUtc

/-- A trade update with one fill, from either connection. -/
def createTradeUpdate (config : Config) (context : Context) (streamId : UInt16)
    (clientOrderId externalTradeId contract : String) (orderId : BitVec 64) (size : BitVec 32)
    (role : Role) (price fee : Double) (exchangeTimeUtc : Int) (updateType : UpdateType)
    (sendingTimeUtc : Int) : TradeUpdate :=
  let side : Side := if size.toInt < 0 then .sell else .buy
  let quantity := Double.ofInt size.abs.toInt
  { streamId
    account := config.account.name
    exchange := config.settings.exchange
    symbol := contract
    side
    createTimeUtc := exchangeTimeUtc
    updateTimeUtc := exchangeTimeUtc
    externalOrderId := toString orderId.toInt
    clientOrderId
    fills := [
      { exchangeTimeUtc
        externalTradeId
        quantity
        price
        liquidity := role.map
        commissionAmount := fee
        profitLossAmount := config.computeProfitLossAmount side quantity price
          (context.dispatcher.multiplier config.settings.exchange contract) }]
    updateType
    sendingTimeUtc }

namespace Session

variable {Driver : Type} [Download2 DropCopy.State Driver]

/-- `DropCopy::operator()(Trace<TradePositions>)`. -/
def tradePositions (config : Config) (context : Context) (message : TradePositions)
    (session : Session Driver Mark) : Session Driver Mark :=
  session.mapStreams fun streams => message.result.foldl
    (fun current item =>
      if context.dispatcher.discardSymbol item.contract then current
      else current.emit (.positionUpdate (createPositionUpdate config config.dropCopyStreamId
        item .incremental item.timeMs message.timeMs)))
    streams

/-- Publish the updates of a list of orders. -/
def publishOrderUpdates {width : Nat} (config : Config) (updateType : UpdateType) :
    List (OrderItem width) → Streams Mark → Except Fatal (Streams Mark)
  | [], streams => .ok streams
  | item :: rest, streams => do
    let update ← DropCopy.createOrderUpdate config item updateType
    publishOrderUpdates config updateType rest
      (update.elim streams fun update => streams.emit (.orderUpdate update))

/-- `DropCopy::operator()(Trace<TradeOrders>)`. -/
def tradeOrders (config : Config) (message : TradeOrders) (session : Session Driver Mark) :
    Except Fatal (Session Driver Mark) := do
  let streams ← publishOrderUpdates config .incremental message.result session.streams
  return { session with streams }

/-- `DropCopy::operator()(Trace<TradeTrades>)`. -/
def tradeTrades (config : Config) (context : Context) (message : TradeTrades)
    (session : Session Driver Mark) : Session Driver Mark :=
  session.mapStreams fun streams => message.result.foldl
    (fun current item =>
      let clientOrderId := DropCopy.getClientOrderId item.text
      if clientOrderId = "" then current
      else current.emit (.tradeUpdate (createTradeUpdate config context config.dropCopyStreamId
        clientOrderId item.id item.contract item.orderId item.size item.role item.price
        item.fee item.createTimeMs .incremental message.timeMs)))
    streams

/-- The response to an accepted request. -/
def acceptedResponse (requestType : RequestType) (requestId : String) (update : OrderUpdate) :
    Response where
  requestType
  origin := .exchange
  requestStatus := .accepted
  error := .undefined
  text := ""
  version := 0
  requestId
  externalOrderId := update.externalOrderId
  clientOrderId := update.clientOrderId

/-- The response to a rejected request. -/
def rejectedResponse (requestType : RequestType) (version : Nat) (requestId text : String) :
    Response where
  requestType
  origin := .exchange
  requestStatus := .rejected
  error := .unknown
  text
  version
  requestId
  externalOrderId := ""
  clientOrderId := ""

/-- Publish the update of an accepted request together with its response. -/
def publishAccepted {width : Nat} (config : Config) (requestType : RequestType)
    (requestId : String) (result : OrderItem width) (session : Session Driver Mark) :
    Except Fatal (Session Driver Mark) := do
  let update ← DropCopy.createOrderUpdate config result .incremental
  return session.mapStreams fun streams => update.elim streams fun update =>
    streams.emit (.response (acceptedResponse requestType requestId update) (some update))

/-- Publish the response to a rejected request. -/
def publishRejected (requestType : RequestType) (version : Nat) (requestId text : String)
    (session : Session Driver Mark) : Session Driver Mark :=
  session.mapStreams fun streams => streams.emit
    (.response (rejectedResponse requestType version requestId text) none)

/-- `DropCopy::operator()(Trace<TradeOrderPlace>)`. The first acknowledgement does not contain
the order. -/
def tradeOrderPlace (config : Config) (message : TradeOrderPlace)
    (session : Session Driver Mark) : Except Fatal (Session Driver Mark) :=
  if message.header.status = 200 then
    if message.result.text ≠ "" then
      session.publishAccepted config .createOrder message.requestId message.result
    else .ok session
  else .ok (session.publishRejected .createOrder 1 message.requestId message.errs.message)

/-- `DropCopy::operator()(Trace<TradeOrderAmend>)`. A rejected amendment is answered as a
rejected cancellation. -/
def tradeOrderAmend (config : Config) (message : TradeOrderAmend)
    (session : Session Driver Mark) : Except Fatal (Session Driver Mark) :=
  if message.header.status = 200 then
    session.publishAccepted config .modifyOrder message.requestId message.result
  else .ok (session.publishRejected .cancelOrder 0 message.requestId message.errs.message)

/-- `DropCopy::operator()(Trace<TradeOrderCancel>)`. -/
def tradeOrderCancel (config : Config) (message : TradeOrderCancel)
    (session : Session Driver Mark) : Except Fatal (Session Driver Mark) :=
  if message.header.status = 200 then
    session.publishAccepted config .cancelOrder message.requestId message.result
  else .ok (session.publishRejected .cancelOrder 0 message.requestId message.errs.message)

/-- `DropCopy::operator()(Trace<TradeOrderCancelCP>)`. -/
def tradeOrderCancelCp (config : Config) (message : TradeOrderCancelCp)
    (session : Session Driver Mark) : Session Driver Mark :=
  let accepted := message.header.status = 200
  session.mapStreams fun streams => streams.emit (.cancelAllOrdersAck
    { streamId := config.dropCopyStreamId
      account := config.account.name
      origin := .exchange
      requestStatus := if accepted then .accepted else .rejected
      error := if accepted then .undefined else .unknown
      text := if accepted then "" else message.errs.message
      requestId := message.requestId })

/-- `DropCopy::operator()(Trace<TradeOrderList>)`. Stale orders are counted before the
download moves on. -/
def tradeOrderList (config : Config) (context : Context) (message : TradeOrderList)
    (session : Session Driver Mark) : Except Fatal (Session Driver Mark) := do
  let streams ← publishOrderUpdates config .snapshot message.result session.streams
  let session := { session with streams := DropCopy.checkStaleOrders context streams }
  return session.checkRelaxed config context .getOpenOrders

/-- The update published for an order the exchange does not know. -/
def doesNotExist (config : Config) (message : TradeOrderStatus) : OrderUpdate where
  account := config.account.name
  exchange := ""
  symbol := ""
  side := .undefined
  orderType := .undefined
  timeInForce := .undefined
  createTimeUtc := 0
  updateTimeUtc := 0
  externalOrderId := ""
  clientOrderId := message.requestId
  orderStatus := .rejected
  quantity := .nan
  price := .nan
  remainingQuantity := .nan
  tradedQuantity := .nan
  averageTradedPrice := .nan
  updateType := .snapshot
  sendingTimeUtc := message.header.responseTime

/-- The update a `TradeOrderStatus` is published as, if any. -/
def orderStatusUpdate (config : Config) (message : TradeOrderStatus) :
    Except Fatal (Option OrderUpdate) :=
  if message.header.status = 404 then .ok (some (doesNotExist config message))
  else DropCopy.createOrderUpdate config message.result .snapshot

/-- `DropCopy::operator()(Trace<TradeOrderStatus>)`. -/
def tradeOrderStatus (config : Config) (context : Context) (message : TradeOrderStatus)
    (session : Session Driver Mark) : Except Fatal (Session Driver Mark) := do
  let update ← orderStatusUpdate config message
  let session := session.mapStreams fun streams => update.elim streams fun update =>
    streams.emit (.orderUpdate update)
  let counter := session.streams.dropCopy.downloadStaleOrdersCounter
  if counter = 0 then .error .unexpectedStatusReply
  else
    let session := session.mapStreams fun streams =>
      { streams with dropCopy.downloadStaleOrdersCounter := counter - 1 }
    if counter - 1 = 0 then .ok (session.checkRelaxed config context .getStaleOrders)
    else .ok session

end Session

end GateFutures.Gateway
