/-
This file says what one step behind the market data does, event by event.

Most events serve the queues and nothing else. The others are the requests of clients and the
contracts, which bring new symbols, and the connects and disconnects of market data connections.
-/

import GateFutures.Market.NewSymbols

namespace GateFutures.Market

open Framework Library Protocol Roq
open Gateway (RestResponse)

variable {Driver Store Queue : Type}

/-! ### Replies -/

/-- A reply is given to the success handler, which returns or raises, or to the error handler
alone. -/
theorem processResponse_cases {Body Owner : Type} {response : RestResponse Body}
    {errorHandler : Owner → Owner}
    {successHandler : Option Body → Owner → Except Fatal (Owner × Outcome)} {owner next : Owner}
    (processed : processResponse response errorHandler successHandler owner = .ok next) :
    (∃ outcome middle, successHandler response.decoded owner = .ok (middle, outcome) ∧
        next = if outcome = .raised then errorHandler middle else middle) ∨
      response.decoded = none ∧ next = errorHandler owner := by
  cases response with
  | result category status body =>
    cases category with
    | success =>
      obtain ⟨⟨middle, outcome⟩, handled, finished⟩ := bind_ok.mp processed
      refine Or.inl ⟨outcome, middle, handled, ?_⟩
      cases outcome with
      | returned =>
        cases finished
        rfl
      | raised =>
        cases finished
        rfl
    | redirection => cases processed
    | unknown | informationalResponse | clientError | serverError =>
      cases processed
      exact Or.inr ⟨rfl, rfl⟩
  | omsException | networkError | exception =>
    cases processed
    exact Or.inr ⟨rfl, rfl⟩

/-- The snapshot replies an event gives to their handlers: those that succeed and decode. -/
def Event.delivered : Event → List (SnapshotKind × String)
  | .orderBookReply symbol response _ =>
    if response.decoded.isSome then [(.orderBook, symbol)] else []
  | .candlesticksReply symbol response _ =>
    if response.decoded.isSome then [(.candlesticks, symbol)] else []
  | _ => []

section Replies

variable [LimitQueue String Queue] {config : Config} {symbol : String}
  {feeds next : Feeds Store Queue}

/-- A snapshot reply that decodes is given to its handler, and one that fails changes nothing. -/
theorem snapshotReply_serves {Body : Type} {response : RestResponse Body}
    {request : SnapshotKind × String}
    {successHandler : Option Body → Feeds Store Queue → Except Fatal (Feeds Store Queue × Outcome)}
    (undecoded : successHandler none feeds = .ok (feeds, .raised))
    (serves : ∀ (message : Body) (middle : Feeds Store Queue) (outcome : Outcome),
      successHandler (some message) feeds = .ok (middle, outcome) →
        feeds.Serves [request] middle)
    (handled : processResponse response (fun feeds => feeds) successHandler feeds = .ok next) :
    feeds.Serves (if response.decoded.isSome then [request] else []) next := by
  rcases processResponse_cases handled with ⟨outcome, middle, acknowledged, rfl⟩ | ⟨failed, rfl⟩
  · rw [ite_self]
    cases decoded : response.decoded with
    | none =>
      rw [decoded, undecoded] at acknowledged
      cases acknowledged
      exact .refl _
    | some message =>
      rw [decoded] at acknowledged
      exact serves message middle outcome acknowledged
  · rw [failed]
    exact .refl _

theorem Rest.getCandlesticksAck_serves {response : RestResponse CandlesticksAck} {raises : Bool}
    (handled : getCandlesticksAck config symbol response raises feeds = .ok next) :
    feeds.Serves (Event.candlesticksReply symbol response raises).delivered next := by
  refine snapshotReply_serves rfl (fun message middle outcome acknowledged => ?_) handled
  have same : (candlesticksAck config symbol raises message feeds).1 = middle :=
    congrArg Prod.fst (Except.ok.inj acknowledged)
  exact same ▸ candlesticksAck_serves config symbol raises message feeds

theorem Rest.getOrderBookAck_serves [LawfulLimitQueue String Queue]
    {response : RestResponse OrderBookAck} {reaction : Reaction SnapshotCallback}
    (handled : getOrderBookAck config symbol response reaction feeds = .ok next) :
    feeds.Serves (Event.orderBookReply symbol response reaction).delivered next :=
  snapshotReply_serves rfl (fun _ _ _ acknowledged => orderBookAck_serves acknowledged) handled

end Replies

/-! ### Events that serve the queues -/

/-- The event brings no symbols, and no change of a market data connection. -/
def Event.isService : Event → Bool
  | .subscribe _ | .contractsReply .. | .stream _ .ready | .stream _ .disconnected => false
  | _ => true

section Service

variable [Download2 Rest.State Driver] [LawfulCallbacks Rest.State Driver]
  [Symbols String Store] [LimitQueue String Queue] [LawfulLimitQueue String Queue]
  {config : Config} {context : Context} {controller next : Controller Driver Store Queue}

omit [Symbols String Store] [LimitQueue String Queue] [LawfulLimitQueue String Queue] in
theorem Controller.getCurrenciesAck_publishes {sequence : UInt32} {response : RestResponse Unit}
    (handled : controller.getCurrenciesAck config sequence response = .ok next) :
    controller.feeds.Publishes next.feeds := by
  rcases processResponse_cases handled with ⟨outcome, middle, acknowledged, rfl⟩ | ⟨-, rfl⟩
  · by_cases skips : Download2.skip controller.download sequence Rest.State.currencies
    · rw [if_pos skips] at acknowledged
      cases acknowledged
      exact .refl _
    · rw [if_neg skips] at acknowledged
      cases decoded : response.decoded with
      | none =>
        rw [decoded] at acknowledged
        cases acknowledged
        exact controller.retry_publishes config .currencies
      | some body =>
        rw [decoded] at acknowledged
        cases acknowledged
        exact controller.check_publishes config .currencies
  · exact controller.retry_publishes config .currencies

theorem MarketData.handle_serves {position : Nat} {stream : MarketData} {event : StreamEvent}
    {feeds next : Feeds Store Queue} (service : (Event.stream position event).isService)
    (handled : handle config context position stream feeds event = .ok next) :
    feeds.Serves [] next := by
  cases event with
  | disconnected | ready => cases service
  | binary => cases handled
  | tickers message =>
    cases handled
    exact .of_publishes (tickers_publishes config stream message feeds)
  | trades message =>
    cases handled
    exact .of_publishes (trades_publishes config stream message feeds)
  | bookTicker message =>
    cases handled
    exact .of_publishes (bookTicker_publishes config stream message feeds)
  | orderBookUpdate message reaction => exact orderBookUpdate_serves handled
  | candlesticks message =>
    cases handled
    exact .of_publishes (candlesticks_publishes config stream message feeds)

theorem Controller.handle_serves {event : Event} (service : event.isService)
    (handled : controller.handle config context event = .ok next) :
    controller.feeds.Serves event.delivered next.feeds := by
  cases event with
  | timer refresh allowance =>
    cases handled
    exact Rest.timer_serves config controller.feeds refresh allowance
  | subscribe symbols => cases service
  | restConnected =>
    cases handled
    exact .of_publishes (controller.restConnected_publishes config)
  | restDisconnected =>
    cases handled
    exact .of_publishes (controller.restDisconnected_publishes config)
  | currenciesReply sequence response => exact .of_publishes (getCurrenciesAck_publishes handled)
  | contractsReply sequence response failure => cases service
  | orderBookReply symbol response reaction =>
    obtain ⟨feeds, acknowledged, finished⟩ := bind_ok.mp handled
    cases finished
    exact Rest.getOrderBookAck_serves acknowledged
  | candlesticksReply symbol response raises =>
    obtain ⟨feeds, acknowledged, finished⟩ := bind_ok.mp handled
    cases finished
    exact Rest.getCandlesticksAck_serves acknowledged
  | stream position event =>
    rw [handle] at handled
    split at handled
    · obtain ⟨feeds, streamed, finished⟩ := bind_ok.mp handled
      cases finished
      exact MarketData.handle_serves service streamed
    · cases handled
      exact .refl _

end Service

/-! ### Contracts -/

section Contracts

variable [Download2 Rest.State Driver] [LawfulCallbacks Rest.State Driver]
  [Symbols String Store] [LimitQueue String Queue]
  {config : Config} {context : Context} {controller next : Controller Driver Store Queue}

/-- A contracts reply brings a message to be processed: it succeeds and decodes, and belongs to
the current attempt. -/
def Controller.Processes (controller : Controller Driver Store Queue) (sequence : UInt32)
    (response : RestResponse ContractsAck) (message : ContractsAck) : Prop :=
  response.decoded = some message ∧
    Download2.skip controller.download sequence Rest.State.contracts = false

/-- The call that raises an exception is reached while the message is processed. -/
def Controller.Fails (controller : Controller Driver Store Queue) (context : Context)
    (message : ContractsAck) (failure : Rest.ContractsFailure) : Prop :=
  failure.Reached context.discardSymbol controller.feeds.shared.allSymbols message.data

/-- The symbols of a list of contracts that are new to the controller. -/
def Controller.newContracts (controller : Controller Driver Store Queue) (context : Context)
    (items : List ContractsAckItem) : List String :=
  Market.newContracts context.discardSymbol controller.feeds.shared.allSymbols items

/-- A contracts reply brings no message, or its new symbols are recorded and given to the
controller, or a call raises an exception and the symbols of the contracts done by then stay
recorded. -/
theorem Controller.getContractsAck_cases {sequence : UInt32}
    {response : RestResponse ContractsAck} {failure : Option Rest.ContractsFailure}
    (handled : controller.getContractsAck config context sequence response failure = .ok next) :
    ((∀ message, ¬ controller.Processes sequence response message) ∧
        controller.feeds.Publishes next.feeds) ∨
      (∃ message middle, controller.Processes sequence response message ∧
        (∀ raising, failure = some raising → ¬ controller.Fails context message raising) ∧
        controller.feeds.Accounts [] middle ∧
        controller.feeds.Records (controller.newContracts context message.data) middle ∧
        Feeds.Publishes (if controller.newContracts context message.data ≠ [] then
          symbolsUpdate config context (controller.newContracts context message.data) middle
          else middle) next.feeds) ∨
      ∃ message raising, controller.Processes sequence response message ∧
        failure = some raising ∧ controller.Fails context message raising ∧
        controller.feeds.Accounts [] next.feeds ∧
        controller.feeds.Records
          (controller.newContracts context (message.data.take raising.done)) next.feeds := by
  rcases processResponse_cases handled with ⟨outcome, middle, acknowledged, rfl⟩ | ⟨failed, rfl⟩
  · by_cases skips : Download2.skip controller.download sequence Rest.State.contracts
    · rw [if_pos skips] at acknowledged
      cases acknowledged
      refine Or.inl ⟨?_, .refl _⟩
      rintro message ⟨-, current⟩
      rw [skips] at current
      cases current
    · rw [if_neg skips] at acknowledged
      have current := Bool.not_eq_true _ ▸ skips
      cases decoded : response.decoded with
      | none =>
        rw [decoded] at acknowledged
        cases acknowledged
        refine Or.inl ⟨?_, controller.retry_publishes config .contracts⟩
        rintro message ⟨decodes, -⟩
        rw [decoded] at decodes
        cases decodes
      | some message =>
        rw [decoded] at acknowledged
        obtain ⟨⟨feeds, handling⟩, processed, acknowledged⟩ := bind_ok.mp acknowledged
        obtain ⟨⟨collected, symbols, collecting⟩, looped, processed⟩ := bind_ok.mp processed
        obtain ⟨accounts, finished⟩ := Rest.collectContracts_cases looped
        rcases finished with ⟨rfl, records, rfl, unreached⟩ |
          ⟨rfl, done, call, fails, reached, records⟩
        · obtain ⟨rfl, rfl⟩ := Prod.mk.inj (Except.ok.inj processed)
          obtain ⟨rfl, rfl⟩ := Prod.mk.inj (Except.ok.inj acknowledged)
          refine Or.inr (Or.inl ⟨message, collected, ⟨decoded, current⟩, ?_, accounts, records, ?_⟩)
          · rintro ⟨position, call⟩ fails
            exact unreached position call (by rw [fails, Nat.zero_add])
          · exact Controller.check_publishes config { controller with feeds := _ } .contracts
        · obtain ⟨rfl, rfl⟩ := Prod.mk.inj (Except.ok.inj processed)
          obtain ⟨rfl, rfl⟩ := Prod.mk.inj (Except.ok.inj acknowledged)
          have retried := Controller.retry_publishes config
            { controller with feeds := collected } .contracts
          refine Or.inr (Or.inr ⟨message, ⟨done, call⟩, ⟨decoded, current⟩, ?_, reached,
            accounts.trans (.of_publishes retried), ?_⟩)
          · rw [fails, Nat.zero_add]
          · have kept := records.trans (.of_publishes retried)
            rw [List.append_nil] at kept
            exact kept
  · refine Or.inl ⟨?_, controller.retry_publishes config .contracts⟩
    rintro message ⟨decodes, -⟩
    rw [failed] at decodes
    cases decodes

end Contracts

/-! ### Steps -/

section Steps

variable [Download2 Rest.State Driver] [Symbols String Store] [LimitQueue String Queue]
  {config : Config} {context : Context} {controller next : Controller Driver Store Queue}

/-- How an event is handled: it serves the queues, it brings symbols, it connects or disconnects a
market data connection, or it names a connection that does not exist. -/
inductive Controller.Handles (config : Config) (context : Context)
    (controller : Controller Driver Store Queue) : Event → Controller Driver Store Queue → Prop
  | serves {event : Event} {next : Controller Driver Store Queue} (service : event.isService)
      (serves : controller.feeds.Serves event.delivered next.feeds) :
      Handles config context controller event next
  | subscribes (symbols : List String) :
      Handles config context controller (.subscribe symbols)
        (controller.mapFeeds (Market.subscribe config context symbols))
  | replies {sequence : UInt32} {response : RestResponse ContractsAck}
      {failure : Option Rest.ContractsFailure} {next : Controller Driver Store Queue}
      (handled : controller.getContractsAck config context sequence response failure = .ok next) :
      Handles config context controller (.contractsReply sequence response failure) next
  | disconnects {position : Nat} {stream : MarketData}
      (there : controller.feeds.marketData[position]? = some stream) :
      Handles config context controller (.stream position .disconnected)
        (controller.mapFeeds (MarketData.setConnectionStatus position .disconnected stream))
  | connects {position : Nat} {stream : MarketData}
      (there : controller.feeds.marketData[position]? = some stream) :
      Handles config context controller (.stream position .ready)
        (controller.mapFeeds (MarketData.socketReady config context position stream))
  | ignores {position : Nat} (event : StreamEvent)
      (absent : controller.feeds.marketData[position]? = none) :
      Handles config context controller (.stream position event) controller

theorem Controller.handles [LawfulCallbacks Rest.State Driver] [LawfulLimitQueue String Queue]
    {event : Event} (handled : controller.handle config context event = .ok next) :
    controller.Handles config context event next := by
  by_cases service : event.isService
  · exact .serves service (handle_serves service handled)
  cases event with
  | subscribe symbols =>
    cases handled
    exact .subscribes symbols
  | contractsReply sequence response failure => exact .replies handled
  | stream position event =>
    rw [handle] at handled
    split at handled
    next stream there =>
      cases event with
      | disconnected =>
        cases handled
        exact .disconnects there
      | ready =>
        cases handled
        exact .connects there
      | _ => exact absurd rfl service
    next absent =>
      cases handled
      exact .ignores event absent
  | _ => exact absurd rfl service

/-- A step handles its event with an empty outbox, and outputs what the handler emits. -/
theorem Controller.step_ok {input : Input} {output : List Output}
    (taken : controller.step config input = .ok (next, output)) :
    controller.clearOutbox.handle config input.context input.event = .ok next ∧
      output = next.feeds.outbox := by
  obtain ⟨handled, handles, returned⟩ := bind_ok.mp taken
  cases returned
  exact ⟨handles, rfl⟩

end Steps

/-! ### Every step accounts for the queues -/

section Accounts

variable [Download2 Rest.State Driver] [LawfulCallbacks Rest.State Driver]
  [Symbols String Store] [LimitQueue String Queue] [LawfulLimitQueue String Queue]
  {config : Config} {context : Context} {controller next : Controller Driver Store Queue}

omit [Download2 Rest.State Driver] [LawfulCallbacks Rest.State Driver] in
theorem subscribe_accounts (symbols : List String) (feeds : Feeds Store Queue) :
    feeds.Accounts [] (subscribe config context symbols feeds) := by
  have recorded : feeds.Accounts [] (collectSymbols symbols [] feeds).1 := by
    rw [collectSymbols_eq]
    exact .of_unqueued [] (List.append_nil _).symm (List.forall_mem_nil _)
      fun kind => by cases kind <;> rfl
  exact recorded.trans (symbolsUpdate_accounts config context _ _)

theorem Controller.getContractsAck_accounts {sequence : UInt32}
    {response : RestResponse ContractsAck} {failure : Option Rest.ContractsFailure}
    (handled : controller.getContractsAck config context sequence response failure = .ok next) :
    controller.feeds.Accounts [] next.feeds := by
  rcases getContractsAck_cases handled with ⟨-, published⟩ |
    ⟨message, middle, -, -, accounts, -, published⟩ | ⟨message, raising, -, -, -, accounts, -⟩
  · exact .of_publishes published
  · have updated : middle.Accounts [] (if controller.newContracts context message.data ≠ [] then
        symbolsUpdate config context (controller.newContracts context message.data) middle
        else middle) := by
      split
      · exact symbolsUpdate_accounts config context _ middle
      · exact .refl middle
    exact (accounts.trans updated).trans (.of_publishes published)
  · exact accounts

theorem Controller.handle_accounts {event : Event}
    (handled : controller.handle config context event = .ok next) :
    controller.feeds.Accounts event.delivered next.feeds := by
  cases handles handled with
  | serves service serves => exact serves.accounts
  | subscribes symbols => exact subscribe_accounts symbols controller.feeds
  | replies handled => exact getContractsAck_accounts handled
  | disconnects there => exact MarketData.setConnectionStatus_accounts ..
  | connects there => exact MarketData.socketReady_accounts ..
  | ignores event absent => exact .refl _

/-- What was queued before a step, followed by what the step queues, is what it requests, followed
by what is queued after it. -/
theorem Controller.step_accounts {input : Input} {output : List Output}
    (taken : controller.step config input = .ok (next, output)) :
    output.filterMap Output.delivered? = input.event.delivered ∧
      ∀ kind, LimitQueue.elements (controller.feeds.shared.queue kind) ++
          output.filterMap (Output.queued? kind) =
        output.filterMap (Output.requested? kind) ++
          LimitQueue.elements (next.feeds.shared.queue kind) := by
  obtain ⟨handled, rfl⟩ := step_ok taken
  obtain ⟨outputs, grown, delivered, accounted⟩ := handle_accounts handled
  have all : next.feeds.outbox = outputs := grown
  rw [all]
  exact ⟨delivered, accounted⟩

end Accounts

end GateFutures.Market
