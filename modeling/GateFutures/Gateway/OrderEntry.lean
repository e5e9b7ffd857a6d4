/-
This file models `OrderEntry`, the account's REST connection: the three requests the
trading connection asks for, and the handling of their replies.

A reply reaches its callback with nothing but the response: the callbacks carry
neither a session nor a sequence number.
-/

import GateFutures.Gateway.DropCopy

namespace GateFutures.Gateway

open Framework Protocol Roq

/-- `web::http::Category`. -/
inductive Category
  | unknown | informationalResponse | success | redirection | clientError | serverError
  deriving DecidableEq, Repr

/-- What `web::rest::Response` delivers: a result, whose body may not decode, or an exception
thrown by `response.result()`. -/
inductive RestResponse (Body : Type)
  | result (category : Category) (status : Nat) (body : Option Body)
  | omsException
  | networkError
  | exception
  deriving DecidableEq

/-- The body of a reply of category `SUCCESS` that decodes. -/
def RestResponse.decoded {Body : Type} : RestResponse Body → Option Body
  | .result .success _ body => body
  | _ => none

namespace OrderEntry

/-- `OrderEntry::process_response`: the body the success handler was called with, or nothing
where the error handler was called. The error handlers only log. -/
def processResponse {Body : Type} (response : RestResponse Body) : Except Fatal (Option Body) :=
  match response with
  | .result .success _ body => .ok body
  | .result .redirection _ _ => .error .redirected
  | .result .unknown _ _ | .result .informationalResponse _ _ | .result .clientError _ _
  | .result .serverError _ _ | .omsException | .networkError | .exception => .ok none

/-- A response that does not end the process reaches the success handler exactly with the
decoded body of a successful reply. -/
theorem processResponse_eq {Body : Type} {response : RestResponse Body} {handled : Option Body}
    (processed : processResponse response = .ok handled) : handled = response.decoded := by
  cases response with
  | result category status body =>
    cases category <;> simp_all [processResponse, RestResponse.decoded]
  | omsException => simp_all [processResponse, RestResponse.decoded]
  | networkError => simp_all [processResponse, RestResponse.decoded]
  | exception => simp_all [processResponse, RestResponse.decoded]

/-- `get_download_trades_lookback`. -/
def getDownloadTradesLookback (settings : Settings) (downloadTradesIsFirst : Bool) : Int :=
  if downloadTradesIsFirst ∧ settings.tradesLookbackOnRestart ≠ 0 then
    settings.tradesLookbackOnRestart
  else settings.tradesLookback

variable {Mark : Type} [LimitRequest Mark]

/-- `OrderEntry::operator()(Trace<ConnectionStatus>)`. -/
def setConnectionStatus (status : ConnectionStatus) (streams : Streams Mark) : Streams Mark :=
  { streams with orderEntry.connectionStatus := status }.emit (.streamStatus .orderEntry status "")

/-! ### Requests -/

/-- `OrderEntry::get_accounts`. -/
def getAccounts (config : Config) (streams : Streams Mark) : Streams Mark :=
  streams.emit (.restRequest .accounts config.api.accounts "")

/-- `OrderEntry::get_positions`. -/
def getPositions (config : Config) (streams : Streams Mark) : Streams Mark :=
  streams.emit (.restRequest .positions config.api.positions "")

/-- `OrderEntry::get_trades`. -/
def getTrades (config : Config) (traceInfo : TraceInfo) (streams : Streams Mark) :
    Streams Mark :=
  let lookback := getDownloadTradesLookback config.settings
    streams.orderEntry.downloadTradesIsFirst
  let «from» := toSeconds (traceInfo.originCreateTimeUtc - lookback)
  streams.emit (.restRequest .trades config.api.trades ("?from=" ++ toString «from»))

/-- `request_.balances.check_pending`. -/
def checkBalances (config : Config) (allowed : Bool) (streams : Streams Mark) : Streams Mark :=
  let (mark, streams) := LimitRequest.checkPending allowed (getAccounts config)
    streams.request.balances streams
  { streams with request.balances := mark }

/-- `request_.positions.check_pending`. -/
def checkPositions (config : Config) (allowed : Bool) (streams : Streams Mark) :
    Streams Mark :=
  let (mark, streams) := LimitRequest.checkPending allowed (getPositions config)
    streams.request.positions streams
  { streams with request.positions := mark }

/-- `request_.trades.check_pending`. -/
def checkTrades (config : Config) (traceInfo : TraceInfo) (allowed : Bool)
    (streams : Streams Mark) : Streams Mark :=
  let (mark, streams) := LimitRequest.checkPending allowed (getTrades config traceInfo)
    streams.request.trades streams
  { streams with request.trades := mark }

/-- `OrderEntry::check_request_queue`. The flags say which requests the rate limiter lets
through. -/
def checkRequestQueue (config : Config) (traceInfo : TraceInfo) (allowed : RestKind → Bool)
    (streams : Streams Mark) : Streams Mark :=
  checkTrades config traceInfo (allowed .trades)
    (checkPositions config (allowed .positions)
      (checkBalances config (allowed .accounts) streams))

/-- `OrderEntry::operator()(Trace<Timer>)`. -/
def timer (config : Config) (traceInfo : TraceInfo) (refresh : Bool)
    (allowed : RestKind → Bool) (streams : Streams Mark) : Streams Mark :=
  if refresh ∧ streams.orderEntry.connectionStatus = .ready then
    checkRequestQueue config traceInfo allowed streams
  else streams

/-! ### Replies -/

/-- `OrderEntry::operator()(Trace<Positions>)`. -/
def positions (config : Config) (context : Context) (message : Positions)
    (streams : Streams Mark) : Streams Mark :=
  message.data.foldl
    (fun current item =>
      if context.dispatcher.discardSymbol item.contract then current
      else current.emit (.positionUpdate (createPositionUpdate config config.orderEntryStreamId
        item .snapshot item.updateTime 0)))
    streams

/-- `OrderEntry::operator()(Trace<UserTrades>)`. -/
def userTrades (config : Config) (context : Context) (message : UserTrades)
    (streams : Streams Mark) : Streams Mark :=
  message.data.foldl
    (fun current item =>
      let clientOrderId := DropCopy.getClientOrderId item.text
      if clientOrderId = "" then current
      else current.emit (.tradeUpdate (createTradeUpdate config context config.orderEntryStreamId
        clientOrderId item.tradeId item.contract item.orderId item.size item.role item.price
        item.fee item.createTime .snapshot 0)))
    streams

/-- `OrderEntry::get_accounts_ack`. The accounts are only logged. -/
def getAccountsAck (response : RestResponse Unit) (streams : Streams Mark) :
    Except Fatal (Streams Mark) := do
  let _ ← processResponse response
  return { streams with request.balances := LimitRequest.commit streams.request.balances }

/-- `OrderEntry::get_positions_ack`. -/
def getPositionsAck (config : Config) (context : Context) (response : RestResponse Positions)
    (streams : Streams Mark) : Except Fatal (Streams Mark) := do
  let handled ← processResponse response
  let streams := handled.elim streams fun message => positions config context message streams
  return { streams with request.positions := LimitRequest.commit streams.request.positions }

/-- `OrderEntry::get_trades_ack`. -/
def getTradesAck (config : Config) (context : Context) (response : RestResponse UserTrades)
    (streams : Streams Mark) : Except Fatal (Streams Mark) := do
  let handled ← processResponse response
  let streams := handled.elim streams fun message =>
    { userTrades config context message streams with
      orderEntry.downloadTradesIsFirst := false }
  return { streams with request.trades := LimitRequest.commit streams.request.trades }

end OrderEntry

end GateFutures.Gateway
