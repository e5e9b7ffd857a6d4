/-
This file models `Controller`: the gateway as a whole.

It is created from the configuration: an account, a request and two connections for every name,
and the connections are numbered. Then it is a machine of many parts: the market data with its
REST connection, the interceptor that all connections share, and the streams of every account. The
host's events are given to the parts they concern. A timer goes to all of them, in the orders in
which the maps of connections happen to be visited. What the shared rate limiter and the interceptor
answer comes with the timer here; the gateway that keeps them is built on top of this one.
-/

import GateFutures.Gateway.SettleCoins
import GateFutures.Library.Composition
import GateFutures.System.Config
import GateFutures.Tools.Crypto
import GateFutures.Tools.Throttle

namespace GateFutures.System

open Framework Library Protocol Roq

/-! ### What the gateway is created with -/

/-- `Settings`, as far as the parts read them, and the host's arithmetic and cryptography. -/
structure Setup (Digest : Type) where
  api : Gateway.Api.Key
  account : Gateway.Settings
  market : Market.Settings
  throttle : Tools.Config
  cryptography : Tools.Cryptography Digest
  sign : Side → ℚ
  computeProfitLossAmount : Side → Double → Double → Double → Double
  isZero : Double → Bool
  compare : Double → Double → Ordering

/-- `API::create`, as far as the streams of an account read it. -/
def accountApi : Gateway.Api.Key → Gateway.Api
  | .btc =>
    { accounts := "/futures/btc/accounts"
      positions := "/futures/btc/positions"
      trades := "/futures/btc/my_trades_timerange" }
  | .usdt =>
    { accounts := "/futures/usdt/accounts"
      positions := "/futures/usdt/positions"
      trades := "/futures/usdt/my_trades_timerange" }

/-- The orders in which the maps of the gateway are visited: `config.accounts`, `accounts_`,
`order_entry_` and `drop_copy_`. -/
structure Visits where
  configured : Iteration String
  accounts : Iteration String
  orderEntry : Iteration String
  dropCopy : Iteration String

/-! ### Creation -/

section Creation

variable {Digest Settings Symbols User Limit : Type}

/-- `Account::Account`. -/
def createAccount (setup : Setup Digest) (config : Config Settings Symbols User Limit)
    (name : String) : Except StartFatal Gateway.Account := do
  let key ← config.getApiKey name
  let secret ← config.getSecret name
  let crypto : Tools.Crypto := { key, secret }
  return {
    name
    key := crypto.key
    createSignatureLogin := crypto.createSignatureLogin setup.cryptography
    createSignature := crypto.createSignature setup.cryptography }

/-- `create_accounts`. -/
def createAccounts (setup : Setup Digest) (visits : Visits)
    (config : Config Settings Symbols User Limit) :
    Except StartFatal (Registry String Gateway.Account) := do
  let accounts ← (visits.configured.visit config.accounts.entries).mapM fun entry => do
    let account ← createAccount setup config entry.2.name
    return (entry.2.name, account)
  return Registry.empty.emplaceAll accounts

/-- `create_requests`. A request has no data of its own yet. -/
def createRequests (visits : Visits) (config : Config Settings Symbols User Limit) :
    Registry String Unit :=
  Registry.empty.emplaceAll
    ((visits.configured.visit config.accounts.entries).map fun entry => (entry.2.name, ()))

/-- `get_request`. -/
def getRequest (requests : Registry String Unit) (account : String) : Except StartFatal Unit :=
  match requests.find? account with
  | some request => .ok request
  | none => .error .unexpected

/-- The loop of `create_order_entry` and of `create_drop_copy`: number the connections of the
accounts. -/
def createStreams (requests : Registry String Unit) :
    List (String × Gateway.Account) → UInt16 → Registry String UInt16 →
      Except StartFatal (UInt16 × Registry String UInt16)
  | [], streamId, streams => .ok (streamId, streams)
  | item :: later, streamId, streams => do
    let _ ← getRequest requests item.2.name
    let streamId := streamId + 1
    createStreams requests later streamId (streams.emplace item.2.name streamId)

/-- `create_order_entry`. -/
def createOrderEntry (visits : Visits) (accounts : Registry String Gateway.Account)
    (requests : Registry String Unit) (streamId : UInt16) :
    Except StartFatal (UInt16 × Registry String UInt16) :=
  createStreams requests (visits.accounts.visit accounts.entries) streamId .empty

/-- `create_drop_copy`. -/
def createDropCopy (visits : Visits) (accounts : Registry String Gateway.Account)
    (requests : Registry String Unit) (streamId : UInt16) :
    Except StartFatal (UInt16 × Registry String UInt16) :=
  createStreams requests (visits.accounts.visit accounts.entries) streamId .empty

/-- `Controller`, as far as it does not change any more: its accounts, and the numbers of its
connections. The last number is the seed for those of the market data connections. -/
structure Layout where
  accounts : Registry String Gateway.Account
  restStreamId : UInt16
  orderEntry : Registry String UInt16
  dropCopy : Registry String UInt16
  streamId : UInt16

/-- `Controller::Controller`. -/
def createLayout (setup : Setup Digest) (visits : Visits)
    (config : Config Settings Symbols User Limit) : Except StartFatal Layout := do
  let accounts ← createAccounts setup visits config
  let requests := createRequests visits config
  let restStreamId : UInt16 := 0 + 1
  let (streamId, orderEntry) ← createOrderEntry visits accounts requests restStreamId
  let (streamId, dropCopy) ← createDropCopy visits accounts requests streamId
  return { accounts, restStreamId, orderEntry, dropCopy, streamId }

end Creation

/-! ### Parts -/

/-- The parts of the gateway. -/
inductive Part
  | market
  | throttle
  | account (name : String)
  deriving DecidableEq

section Parts

variable (Driver Mark MarketDriver Store Queue : Type)

/-- The state of a part. -/
abbrev Part.State : Part → Type
  | .market => Market.Controller MarketDriver Store Queue
  | .throttle => Tools.Throttle
  | .account _ => Gateway.Session Driver Mark

/-- The states of all parts. -/
abbrev States := (part : Part) → part.State Driver Mark MarketDriver Store Queue

end Parts

/-- What a part handles. -/
abbrev Part.Input : Part → Type
  | .market => Market.Input
  | .throttle => Tools.Input
  | .account _ => Gateway.Input

/-- What a part shows. -/
abbrev Part.Output : Part → Type
  | .market => List Market.Output
  | .throttle => Int
  | .account _ => List Gateway.Output

/-- How a part ends the process. -/
abbrev Part.Failure : Part → Type
  | .market => Market.Fatal
  | .throttle => Empty
  | .account _ => Gateway.Fatal

/-- The configuration of the market data. -/
def Layout.market {Digest : Type} (setup : Setup Digest) (layout : Layout) : Market.Config where
  settings := setup.market
  api := setup.api.create
  restStreamId := layout.restStreamId
  streamIdSeed := layout.streamId
  isZero := setup.isZero
  compare := setup.compare

/-- The configuration of the streams of an account. -/
def Layout.account {Digest : Type} (setup : Setup Digest) (layout : Layout)
    (account : Gateway.Account) : Gateway.Config where
  settings := setup.account
  account
  api := accountApi setup.api
  dropCopyStreamId := (layout.dropCopy.find? account.name).getD 0
  orderEntryStreamId := (layout.orderEntry.find? account.name).getD 0
  sign := setup.sign
  computeProfitLossAmount := setup.computeProfitLossAmount

/-! ### Events -/

/-- Whether a market data event comes from a connection, and not from the host. -/
def fromExchange : Market.Event → Bool
  | .timer .. | .subscribe _ => false
  | .restConnected | .restDisconnected | .currenciesReply .. | .contractsReply ..
  | .orderBookReply .. | .candlesticksReply .. | .stream .. => true

/-- Whether an event of an account comes from a connection, and not from the host. -/
def fromConnection : Gateway.Event → Bool
  | .timer _ | .createOrder .. | .modifyOrder .. | .cancelOrder .. | .cancelAllOrders ..
  | .orderEntryTimer .. => false
  | _ => true

/-- `Action`, of `Control`. -/
inductive Action
  | undefined | enable | disable
  deriving DecidableEq, Repr

/-- What the connections say when a timer reaches them: whether they refresh, and what the rate
limiter lets through. Both depend on what all connections share, which these are the answers of. -/
structure Timer where
  rest : Bool
  allowance : Market.SnapshotKind → Nat
  orderEntry : String → Bool
  allowed : String → Gateway.RestKind → Bool
  dropCopy : String → Bool

/-- An event of the gateway. An order action names its account. -/
inductive Event
  | timer (timer : Timer)
  | connected
  | disconnected
  | subscribe (symbols : List String)
  | control (action : Action)
  | createOrder (account : String) (messageInfo : MessageInfo) (request : CreateOrder)
      (order : Order) (refData : RefData) (requestId : String)
  | modifyOrder (account : String) (messageInfo : MessageInfo) (request : ModifyOrder)
      (order : Order) (refData : RefData) (requestId : String)
  | cancelOrder (account : String) (messageInfo : MessageInfo) (order : Order)
      (requestId : String)
  | cancelAllOrders (account : String) (messageInfo : MessageInfo) (requestId : String)
  | massQuote
  | cancelQuotes
  | market (event : { event : Market.Event // fromExchange event = true })
  | throttle (input : Tools.Input)
  | account (name : String) (event : { event : Gateway.Event // fromConnection event = true })

/-- What the host answers at the moment of an event, by account where it matters. -/
structure Host where
  traceInfo : TraceInfo
  now : Int
  allStaleOrders : String → List Order
  allOrderSymbols : String → List String
  discardSymbol : String → Bool
  multiplier : (exchange symbol : String) → Double

/-- An event, and what the host answers meanwhile. -/
structure Input where
  host : Host
  event : Event

/-- What the host is answered: nothing, its new state, the connection an order action went over, or
an exception. -/
inductive Answer
  | nothing
  | enabled (enabled : Bool)
  | streamId (streamId : UInt16)
  | notSupported
  | runtimeError (text : String)
  deriving DecidableEq

/-! ### The machine -/

section Machine

variable {Driver Mark MarketDriver Store Queue : Type}

/-- Give an event to the market data. -/
def toMarket (host : Host) (event : Market.Event) :
    Call (Part.State Driver Mark MarketDriver Store Queue) Part.Input where
  part := .market
  input _ := ⟨⟨host.now, host.discardSymbol⟩, event⟩

/-- Give an event to the streams of an account. They share the settlement coins that the REST
connection cached. -/
def toAccount (host : Host) (name : String) (event : Gateway.Event) :
    Call (Part.State Driver Mark MarketDriver Store Queue) Part.Input where
  part := .account name
  input states :=
    let controller : Market.Controller MarketDriver Store Queue := states .market
    { context :=
        { traceInfo := host.traceInfo
          dispatcher :=
            { allStaleOrders := host.allStaleOrders name
              allOrderSymbols := host.allOrderSymbols name
              discardSymbol := host.discardSymbol
              multiplier := host.multiplier }
          symbol2SettleCoin := controller.feeds.shared.symbol2SettleCoin }
      event }

/-- `Controller::get_drop_copy`, and the order action of the connection it found. -/
def toDropCopy (layout : Layout) (host : Host) (account : String) (event : Gateway.Event) :
    List (Call (Part.State Driver Mark MarketDriver Store Queue) Part.Input) :=
  match layout.dropCopy.find? account with
  | some _ => [toAccount host account event]
  | none => []

/-- `Controller::dispatch_helper` for a timer. The market data connections do nothing with it. -/
def dispatchTimer (layout : Layout) (visits : Visits) (host : Host) (timer : Timer) :
    List (Call (Part.State Driver Mark MarketDriver Store Queue) Part.Input) :=
  toMarket host (.timer timer.rest timer.allowance) ::
    (visits.orderEntry.visit layout.orderEntry.entries).map (fun entry =>
      toAccount host entry.1
        (.orderEntryTimer (timer.orderEntry entry.1) (timer.allowed entry.1))) ++
    (visits.dropCopy.visit layout.dropCopy.entries).map fun entry =>
      toAccount host entry.1 (.timer (timer.dropCopy entry.1))

/-- `Controller::operator()`: what an event makes the parts do. -/
def calls (layout : Layout) (visits : Visits) (input : Input) :
    List (Call (Part.State Driver Mark MarketDriver Store Queue) Part.Input) :=
  match input.event with
  | .timer timer => dispatchTimer layout visits input.host timer
  | .connected | .disconnected | .control _ | .massQuote | .cancelQuotes => []
  | .subscribe symbols => [toMarket input.host (.subscribe symbols)]
  | .createOrder account messageInfo request order refData requestId =>
    toDropCopy layout input.host account
      (.createOrder messageInfo request order refData requestId)
  | .modifyOrder account messageInfo request order refData requestId =>
    toDropCopy layout input.host account
      (.modifyOrder messageInfo request order refData requestId)
  | .cancelOrder account messageInfo order requestId =>
    toDropCopy layout input.host account (.cancelOrder messageInfo order requestId)
  | .cancelAllOrders account messageInfo requestId =>
    toDropCopy layout input.host account (.cancelAllOrders messageInfo requestId)
  | .market event => [toMarket input.host event.val]
  | .throttle event => [{ part := .throttle, input := fun _ => event }]
  | .account name event =>
    match layout.accounts.find? name with
    | some _ => [toAccount input.host name event.val]
    | none => []

/-- What the connection of an account returns to an order action. -/
def ofDropCopy (layout : Layout) (account : String) (returned : UInt16 → Answer) : Answer :=
  match layout.dropCopy.find? account with
  | some streamId => returned streamId
  | none => .runtimeError ("Unknown account=\"" ++ account ++ "\"")

/-- `Controller::operator()`: what an event is answered with. Creating an order fails where its
time in force is not supported. -/
def answer (layout : Layout) : Event → Answer
  | .control .enable => .enabled true
  | .control .disable => .enabled false
  | .createOrder account _ request _ _ _ =>
    ofDropCopy layout account fun streamId =>
      match Encoder.orderPlaceTif request with
      | .ok _ => .streamId streamId
      | .error _ => .notSupported
  | .modifyOrder account .. | .cancelOrder account .. | .cancelAllOrders account .. =>
    ofDropCopy layout account .streamId
  | .massQuote | .cancelQuotes => .notSupported
  | .timer _ | .connected | .disconnected | .subscribe _ | .control .undefined | .market _
  | .throttle _ | .account .. => .nothing

variable [Download2 Gateway.DropCopy.State Driver] [LimitRequest Mark]
  [Download2 Market.Rest.State MarketDriver] [Symbols String Store] [LimitQueue String Queue]

/-- The machines of the parts. A name without an account stands for streams that do nothing. -/
def parts {Digest : Type} (setup : Setup Digest) (layout : Layout) :
    Family (Part.State Driver Mark MarketDriver Store Queue) Part.Input Part.Output Part.Failure
  | .market => Market.market (layout.market setup)
  | .throttle => Tools.interceptor setup.throttle
  | .account name =>
    match layout.accounts.find? name with
    | some account => Gateway.account (layout.account setup account)
    | none => { initial := Gateway.Session.initial, step := fun session _ => .ok (session, []) }

/-- The gateway. It shows the turns its parts take. -/
def gateway {Digest : Type} (setup : Setup Digest) (layout : Layout) (visits : Visits) :
    Machine (States Driver Mark MarketDriver Store Queue) Input
      (List (Turn (Part.State Driver Mark MarketDriver Store Queue) Part.Input Part.Output))
      (Σ part : Part, part.Failure) :=
  (parts setup layout).compose (calls layout visits)

end Machine

end GateFutures.System
