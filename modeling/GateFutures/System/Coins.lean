/-
This file proves with which coins the accounts ask for their stale orders.

The REST connection publishes reference data of contracts, and caches the coins they settle in. The
trading connections of all accounts read that cache when they ask for the status of an order. So
they ask with the coin that the clients were told last, whatever happens in between.
-/

import GateFutures.Gateway.StaleOrders
import GateFutures.Market.Identities
import GateFutures.System.Runs

/-! ### The queries of a step -/

namespace GateFutures.Gateway

open Framework Library Protocol Roq

variable {Driver Mark : Type}

/-- What a status query says: its own id, a coin and an order's id. -/
def Output.query? : Output → Option (String × String × String)
  | .sendText { payload := .orderStatus reqId settle orderId, .. } => some (reqId, settle, orderId)
  | _ => none

theorem Output.query?_kind (output : Output) (query : String × String × String)
    (asks : output.query? = some query) : output.kind = .statusQuery := by
  cases output with
  | sendText frame =>
    obtain ⟨id, time, channel, event, payload⟩ := frame
    cases payload <;> first | rfl | cases asks
  | _ => cases asks

/-- The status query of an order, in a coin. -/
def Order.query (order : Order) (coin : String) : String × String × String :=
  (order.clientOrderId, coin,
    if order.externalOrderId = "" then "t-" ++ order.clientOrderId else order.externalOrderId)

/-- Every stale order is asked for once, in the order the host lists them. -/
theorem DropCopy.checkStaleOrders_asks (context : Context) (streams : Streams Mark) :
    (DropCopy.checkStaleOrders context streams).outbox.filterMap Output.query? =
      streams.outbox.filterMap Output.query? ++ context.dispatcher.allStaleOrders.map fun order =>
        Order.query order (context.getSettleCoin order.symbol) := by
  unfold DropCopy.checkStaleOrders
  induction context.dispatcher.allStaleOrders generalizing streams with
  | nil => exact (List.append_nil _).symm
  | cons order later inductionHypothesis =>
    rw [List.foldl_cons, inductionHypothesis, List.map_cons, List.append_cons]
    refine congrArg (· ++ _) ?_
    show (streams.outbox ++ [_]).filterMap Output.query? = _
    rw [List.filterMap_append]
    rfl

variable [Download2 DropCopy.State Driver] [LawfulDownload2 DropCopy.State Driver]
  [LimitRequest Mark] [LawfulLimitRequest Mark]

/-- A step asks for no order, or for every stale order in its cached coin. -/
theorem Session.step_asks {config : Config} {session next : Session Driver Mark} {input : Input}
    {outputs : List Output} (taken : session.step config input = .ok (next, outputs)) :
    outputs.filterMap Output.query? = [] ∨
      outputs.filterMap Output.query? = input.context.dispatcher.allStaleOrders.map fun order =>
        Order.query order (input.context.getSettleCoin order.symbol) := by
  have silent (absent : OutputKind.statusQuery ∉ input.event.kinds) :
      outputs.filterMap Output.query? = [] :=
    Session.step_selects taken Output.query?_kind absent
  obtain ⟨handled, rfl⟩ := Session.step_ok taken
  obtain ⟨context, event⟩ := input
  have quiet {kinds : List OutputKind} {before after : Streams Mark}
      (adds : before.Adds kinds after) (absent : OutputKind.statusQuery ∉ kinds) :
      after.outbox.filterMap Output.query? = before.outbox.filterMap Output.query? :=
    adds.filterMap Output.query?_kind absent
  cases event with
  | timer refresh =>
    cases handled
    cases refresh with
    | false => exact Or.inl rfl
    | true =>
      have moved : (session.clearOutbox.checkRequestQueue config context).streams.outbox.filterMap
          Output.query? = [] := by
        rcases session.clearOutbox.checkRequestQueue_cases config context with
          stays | ⟨-, -, -, enters⟩
        · rw [stays.streams]
          rfl
        · exact quiet enters.streams.adds (by simp)
      simp only [Session.timer, if_pos]
      split
      · simp only [Session.mapStreams, DropCopy.checkStaleOrders2]
        split
        · rw [DropCopy.checkStaleOrders_asks]
          exact Or.inr (congrArg (· ++ _) moved)
        · exact Or.inl moved
      · exact Or.inl moved
  | tradeOrderList message =>
    obtain ⟨listed, published, handled⟩ := bind_ok.mp handled
    cases handled
    have asked : (DropCopy.checkStaleOrders context listed).outbox.filterMap Output.query? =
        context.dispatcher.allStaleOrders.map fun order =>
          Order.query order (context.getSettleCoin order.symbol) := by
      rw [DropCopy.checkStaleOrders_asks,
        quiet (publishOrderUpdates_emits published).adds (by simp)]
      exact List.nil_append _
    refine Or.inr ?_
    rcases Session.checkRelaxed_cases config context .getOpenOrders
        ⟨DropCopy.checkStaleOrders context listed, session.clearOutbox.download⟩ (by decide)
        (by decide) with
      ⟨-, stays⟩ | ⟨-, enters⟩
    · exact (congrArg (fun streams => streams.outbox.filterMap Output.query?) stays.streams).trans
        asked
    · exact (quiet enters.streams.adds (by simp)).trans asked
  | _ => exact Or.inl (silent (by simp [Event.kinds]))

end GateFutures.Gateway

namespace GateFutures.System

open Framework Library Protocol Roq

variable {Driver Mark MarketDriver Store Queue Digest : Type}

/-! ### The queries of a turn -/

/-- What the market data did. -/
def marketHistory (turns : Turns Driver Mark MarketDriver Store Queue) :
    Market.MarketHistory MarketDriver Store Queue :=
  ownTurns Part.market turns

/-- The coin of the reference data that turns published last for a symbol. -/
def publishedCoin (symbol : String) (turns : Turns Driver Mark MarketDriver Store Queue) : String :=
  ((Market.lastPublished symbol (marketHistory turns)).map ReferenceData.settlementCurrency).getD ""

/-- Whether a turn queries all stale orders of its account, with the coins that were published
before, or none. -/
def QueriesPublished (before : Turns Driver Mark MarketDriver Store Queue) :
    Turn (Part.State Driver Mark MarketDriver Store Queue) Part.Input Part.Output → Prop
  | ⟨.account _, entry⟩ =>
    entry.output.filterMap Gateway.Output.query? = [] ∨
      entry.output.filterMap Gateway.Output.query? =
        entry.input.context.dispatcher.allStaleOrders.map fun order =>
          Gateway.Order.query order (publishedCoin order.symbol before)
  | ⟨.market, _⟩ | ⟨.throttle, _⟩ => True

variable [Download2 Gateway.DropCopy.State Driver] [LawfulDownload2 Gateway.DropCopy.State Driver]
  [LimitRequest Mark] [LawfulLimitRequest Mark] [Download2 Market.Rest.State MarketDriver]
  [LawfulCallbacks Market.Rest.State MarketDriver] [Symbols String Store]
  [LimitQueue String Queue] [LawfulLimitQueue String Queue]

/-- In every run of the gateway, every status query of a stale order asks with the settlement coin
of the reference data that was published last for the order's symbol, and with none where there was
no such data, as long as no call that caches a coin has failed. -/
theorem queries_ask_published (setup : Setup Digest) (layout : Layout) (visits : Visits)
    (history : GatewayHistory Driver Mark MarketDriver Store Queue)
    (states : States Driver Mark MarketDriver Store Queue)
    (run : (gateway setup layout visits).Run (fun _ _ _ => True) history states) :
    TurnsAlways (fun before turn =>
      (∀ entry ∈ marketHistory before, entry.input.event.Caches) →
        QueriesPublished before turn) (turns history) := by
  refine run.takes.always ?_
  rintro turns states call next output before ⟨input, called⟩ taken caches
  rcases calls_account layout visits input call called with here | here | ⟨name, event, rfl, -⟩
  · obtain ⟨part, input⟩ := call
    cases here
    trivial
  · obtain ⟨part, input⟩ := call
    cases here
    trivial
  have coins (symbol : String) := Market.run_caches (before.project .market) caches symbol
  have step : (parts setup layout (.account name)).step (states (.account name))
    ((toAccount input.host name event).input states) = .ok (next, output) := taken
  simp only [parts] at step
  cases found : layout.accounts.find? name with
  | none =>
    rw [found] at step
    cases step
    exact Or.inl rfl
  | some account =>
    rw [found] at step
    refine (Gateway.Session.step_asks step).imp_right fun asked => asked.trans ?_
    refine List.map_congr_left fun order _ => congrArg (Gateway.Order.query order) ?_
    exact congrArg (Option.getD · "") (coins order.symbol)

/-- A contract is downloaded, and then the host reports an order on it stale while the second
account lists its orders. -/
def plainStaleInputs : List Input :=
  [⟨plainHost, .market ⟨.restConnected, rfl⟩⟩,
    ⟨plainHost, .market ⟨.contractsReply 1 (.result .success 200
      (some ⟨[Market.plainContract "BTC_USDT"]⟩)) none, rfl⟩⟩,
    ⟨{ plainHost with allStaleOrders := fun _ => [Gateway.plainStaleOrder] },
      .account "A2" ⟨.tradeOrderList ⟨[]⟩, rfl⟩⟩]

/-- The stale order is asked for with the coin of the contract. -/
theorem queries_ask_published_plain : ∃ history states turn before,
    (plainGateway plainVisits).Run (fun _ _ _ => True) history states ∧
      turns history = turn :: before ∧ QueriesPublished before turn ∧
      publishedCoin "BTC_USDT" before = "USDT" := by
  have run : (plainGateway plainVisits).Run (fun _ _ _ => True) _ _ :=
    .of_replay plainStaleInputs rfl (History.always_of_forall (fun _ _ => trivial) _)
  have asks := queries_ask_published plainSetup plainLayout plainVisits _ _ run
  refine ⟨_, _, _, _, run, rfl, asks.1 ?_, rfl⟩
  exact List.forall_mem_cons.mpr ⟨fun _ => (Option.some_ne_none _).symm, List.forall_mem_cons.mpr
    ⟨trivial, List.forall_mem_nil _⟩⟩

end GateFutures.System
