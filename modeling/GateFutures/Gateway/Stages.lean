/-
This file says how the trading connection's download moves from stage to stage, and what
the handlers that are not quiet do: entering a stage, querying stale orders, sending REST
requests and recording their responses.
-/

import GateFutures.Gateway.Effects

namespace GateFutures.Gateway

open Framework Library Protocol Roq

variable {Driver Mark : Type}

/-! ### Querying stale orders -/

/-- Orders were counted and queried, in order, and nothing else of the download changed. -/
structure Streams.Queries (clientOrderIds : List String) (before after : Streams Mark) :
    Prop where
  counter : after.dropCopy.downloadStaleOrdersCounter =
    before.dropCopy.downloadStaleOrdersCounter + clientOrderIds.length
  connectionStatus : after.dropCopy.connectionStatus = before.dropCopy.connectionStatus
  request : after.request = before.request
  outbox : ∃ queries, after.outbox = before.outbox ++ queries ∧
    (∀ query ∈ queries, query.kind = .statusQuery) ∧
    ∀ stage, (queries.filterMap (Output.statusQuery stage)).map StatusQuery.clientOrderId =
      clientOrderIds

theorem Streams.Queries.refl (streams : Streams Mark) : streams.Queries [] streams :=
  ⟨rfl, rfl, rfl, [], (List.append_nil _).symm, by simp, by simp⟩

theorem Streams.Queries.trans {earlier later : List String} {first second third : Streams Mark}
    (queries : first.Queries earlier second) (queries' : second.Queries later third) :
    first.Queries (earlier ++ later) third := by
  obtain ⟨sent, outbox, kind, ids⟩ := queries.outbox
  obtain ⟨sent', outbox', kind', ids'⟩ := queries'.outbox
  refine ⟨?_, ?_, ?_, sent ++ sent', ?_, ?_, ?_⟩
  · rw [queries'.counter, queries.counter, List.length_append, Nat.add_assoc]
  · rw [queries'.connectionStatus, queries.connectionStatus]
  · rw [queries'.request, queries.request]
  · rw [outbox', outbox, List.append_assoc]
  · intro query member
    exact (List.mem_append.mp member).elim (kind query) (kind' query)
  · intro stage
    rw [List.filterMap_append, List.map_append, ids, ids']

theorem Streams.Queries.adds {clientOrderIds : List String} {before after : Streams Mark}
    (queries : before.Queries clientOrderIds after) : before.Adds [.statusQuery] after := by
  obtain ⟨sent, outbox, kind, -⟩ := queries.outbox
  exact ⟨sent, outbox, fun query member => by simp [kind query member]⟩

theorem DropCopy.getSingleOrderStatus_queries (traceInfo : TraceInfo)
    (clientOrderId externalOrderId settlementCoin : String) (streams : Streams Mark) :
    streams.Queries [clientOrderId]
      (DropCopy.getSingleOrderStatus traceInfo clientOrderId externalOrderId settlementCoin
        { streams with dropCopy.downloadStaleOrdersCounter :=
            streams.dropCopy.downloadStaleOrdersCounter + 1 }) := by
  refine ⟨rfl, rfl, rfl, _, rfl, ?_, ?_⟩
  · simp [Output.kind, payloadKind]
  · simp [Output.statusQuery, Frame.statusQuery]

/-- A stale check counts and queries every order the host reports stale. -/
theorem DropCopy.checkStaleOrders_queries (context : Context) (streams : Streams Mark) :
    streams.Queries (context.dispatcher.allStaleOrders.map Order.clientOrderId)
      (DropCopy.checkStaleOrders context streams) := by
  rw [DropCopy.checkStaleOrders]
  induction context.dispatcher.allStaleOrders generalizing streams with
  | nil => exact .refl streams
  | cons order rest inductionHypothesis =>
    exact (DropCopy.getSingleOrderStatus_queries context.traceInfo order.clientOrderId
      order.externalOrderId (context.getSettleCoin order.symbol) streams).trans
        (inductionHypothesis _)

/-- The stale check of the timer is a stale check, or nothing. -/
theorem DropCopy.checkStaleOrders2_queries (config : Config) (context : Context)
    (streams : Streams Mark) :
    ∃ clientOrderIds, streams.Queries clientOrderIds
      (DropCopy.checkStaleOrders2 config context streams) := by
  rw [DropCopy.checkStaleOrders2]
  split
  · obtain ⟨counter, connectionStatus, request, outbox⟩ :=
      DropCopy.checkStaleOrders_queries context { streams with
        dropCopy.nextCheckStaleOrders :=
          context.traceInfo.originCreateTime + config.settings.checkStaleOrderFreq }
    exact ⟨_, counter, connectionStatus, request, outbox⟩
  · exact ⟨[], .refl streams⟩

variable [LimitRequest Mark]

/-! ### Entering a stage -/

/-- The stage in which a REST request is asked for, and its reply is waited for. -/
def RestKind.stage : RestKind → DropCopy.State
  | .accounts => .getBalances
  | .positions => .getPositions
  | .trades => .getTrades

instance (condition : RestKind → Prop) [DecidablePred condition] :
    Decidable (∀ kind, condition kind) :=
  decidable_of_iff (condition .accounts ∧ condition .positions ∧ condition .trades)
    ⟨fun each kind => by cases kind <;> simp_all, fun all => ⟨all _, all _, all _⟩⟩

theorem RestKind.stage_injective : Function.Injective RestKind.stage := by
  intro first second same
  cases first <;> cases second <;> first | rfl | cases same

/-- The stage the download waits in, or ends in, once it leaves the given one. -/
def DropCopy.nextStage (tradesLookback : Int) (counter : Nat) : DropCopy.State → DropCopy.State
  | .undefined => .subscribeBalances
  | .subscribeBalances => .getBalances
  | .getBalances => .subscribePositions
  | .subscribePositions => .getPositions
  | .getPositions => .subscribeOrders
  | .subscribeOrders => .getOpenOrders
  | .getOpenOrders => if counter = 0 then .subscribeTrades else .getStaleOrders
  | .getStaleOrders => .subscribeTrades
  | .subscribeTrades => if tradesLookback = 0 then .done else .getTrades
  | .getTrades => .done
  | .done => .done

/-- The stages a download needs. Trades are downloaded if they are configured. -/
def Required (config : Config) : RestKind → Prop
  | .accounts | .positions => True
  | .trades => config.settings.tradesLookback ≠ 0

/-- The connection status a stage is entered with. -/
def DropCopy.State.status : DropCopy.State → ConnectionStatus
  | .done => .ready
  | _ => .downloading

/-- What is published when a stage is entered. -/
def DropCopy.State.announcement : DropCopy.State → Output
  | .done => .streamStatus .dropCopy .ready ""
  | state => .streamStatus .dropCopy .downloading state.enumName

/-- The marks once a stage was entered. -/
def Request.enter (state : DropCopy.State) (request : Request Mark) : Request Mark :=
  match state with
  | .getBalances => { request with balances := LimitRequest.request request.balances }
  | .getPositions => { request with positions := LimitRequest.request request.positions }
  | .getTrades => { request with trades := LimitRequest.request request.trades }
  | _ => request

/-- What entering a stage does to the streams. -/
structure Streams.Enters (next : DropCopy.State) (before after : Streams Mark) : Prop where
  counter : after.dropCopy.downloadStaleOrdersCounter =
    before.dropCopy.downloadStaleOrdersCounter
  connectionStatus : after.dropCopy.connectionStatus = next.status
  request : after.request = before.request.enter next
  outbox : ∃ frames, after.outbox = before.outbox ++ next.announcement :: frames ∧
    ∀ frame ∈ frames, frame.kind = .sessionFrame

/-- The callback enters the stages in which the download waits or ends. -/
theorem DropCopy.download_enters (config : Config) (context : Context) (next : DropCopy.State)
    (sequence : UInt32) (streams : Streams Mark) (known : next ≠ .undefined)
    (stale : next = .getStaleOrders → streams.dropCopy.downloadStaleOrdersCounter ≠ 0)
    (trades : next = .getTrades → config.settings.tradesLookback ≠ 0) :
    streams.Enters next (DropCopy.download config context next sequence streams).1 := by
  cases next with
  | undefined => exact absurd rfl known
  | getStaleOrders =>
    simp only [DropCopy.download, if_pos (stale rfl)]
    exact ⟨rfl, rfl, rfl, [], rfl, by simp⟩
  | getTrades =>
    simp only [DropCopy.download, if_pos (trades rfl)]
    exact ⟨rfl, rfl, rfl, [], rfl, by simp⟩
  | getBalances | getPositions | done => exact ⟨rfl, rfl, rfl, [], rfl, by simp⟩
  | subscribeBalances | subscribePositions | subscribeOrders | subscribeTrades | getOpenOrders =>
    exact ⟨rfl, rfl, rfl, [_], List.append_assoc .., by simp [Output.kind, payloadKind]⟩

/-- Leaving a stage enters the next one that waits, or the last. -/
theorem DropCopy.enter_after (config : Config) (context : Context)
    (sequence : DropCopy.State → UInt32) (state : DropCopy.State) (streams : Streams Mark)
    (begun : state ≠ .undefined) (unfinished : state ≠ .done) :
    let entered := (DropCopy.download config context).enter sequence (after state) state streams
    let next := DropCopy.nextStage config.settings.tradesLookback
      streams.dropCopy.downloadStaleOrdersCounter state
    entered.1 = next ∧ streams.Enters next entered.2 := by
  have enters := fun next => DropCopy.download_enters config context next (sequence next) streams
  have plainly (next : DropCopy.State) (known : next ≠ .undefined)
      (plain : next ≠ .getStaleOrders ∧ next ≠ .getTrades) :
      streams.Enters next (DropCopy.download config context next (sequence next) streams).1 :=
    enters next known (fun stale => absurd stale plain.1) fun trades => absurd trades plain.2
  cases state with
  | undefined => exact absurd rfl begun
  | done => exact absurd rfl unfinished
  | getOpenOrders =>
    by_cases none : streams.dropCopy.downloadStaleOrdersCounter = 0
    · have entered := plainly .subscribeTrades (by decide) (by decide)
      simpa [after, Enumerated.enumerators, Callback.enter, DropCopy.nextStage,
        DropCopy.download, none] using entered
    · have entered := enters .getStaleOrders (by decide) (fun _ => none) fun other => by cases other
      simpa [after, Enumerated.enumerators, Callback.enter, DropCopy.nextStage,
        DropCopy.download, none] using entered
  | subscribeTrades =>
    by_cases skipped : config.settings.tradesLookback = 0
    · have entered := plainly .done (by decide) (by decide)
      simpa [after, Enumerated.enumerators, Callback.enter, DropCopy.nextStage,
        DropCopy.download, skipped] using entered
    · have entered := enters .getTrades (by decide) (fun other => by cases other) fun _ => skipped
      simpa [after, Enumerated.enumerators, Callback.enter, DropCopy.nextStage,
        DropCopy.download, skipped] using entered
  | subscribeBalances => exact ⟨rfl, plainly .getBalances (by decide) (by decide)⟩
  | getBalances => exact ⟨rfl, plainly .subscribePositions (by decide) (by decide)⟩
  | subscribePositions => exact ⟨rfl, plainly .getPositions (by decide) (by decide)⟩
  | getPositions => exact ⟨rfl, plainly .subscribeOrders (by decide) (by decide)⟩
  | subscribeOrders => exact ⟨rfl, plainly .getOpenOrders (by decide) (by decide)⟩
  | getStaleOrders => exact ⟨rfl, plainly .subscribeTrades (by decide) (by decide)⟩
  | getTrades => exact ⟨rfl, plainly .done (by decide) (by decide)⟩

theorem Streams.Enters.adds {next : DropCopy.State} {before after : Streams Mark}
    (enters : before.Enters next after) : before.Adds [.progress, .sessionFrame] after := by
  obtain ⟨frames, outbox, kind⟩ := enters.outbox
  refine ⟨next.announcement :: frames, outbox, ?_⟩
  rintro output member
  rcases List.mem_cons.mp member with rfl | member
  · cases next <;> simp [DropCopy.State.announcement, Output.kind]
  · simp [kind output member]

/-! ### REST requests and replies -/

/-- The responses recorded by the request marks. -/
def Streams.responses (streams : Streams Mark) (kind : RestKind) : Bool :=
  LimitRequest.hasResponse (streams.request.mark kind)

/-- The recorded responses are those of the marks. -/
theorem Streams.responses_of_request {first second : Streams Mark}
    (same : second.request = first.request) : second.responses = first.responses := by
  funext kind
  rw [Streams.responses, Streams.responses, same]

/-- REST requests were sent, and nothing but the pending marks changed. -/
structure Streams.Sends (before after : Streams Mark) : Prop where
  adds : before.Adds [.restRequest] after
  dropCopy : after.dropCopy = before.dropCopy
  responses : after.responses = before.responses

theorem Streams.Sends.trans {first second third : Streams Mark} (earlier : first.Sends second)
    (later : second.Sends third) : first.Sends third :=
  ⟨earlier.adds.trans later.adds, by rw [later.dropCopy, earlier.dropCopy],
    by rw [later.responses, earlier.responses]⟩

section Rest

variable [LawfulLimitRequest Mark]

/-- Checking one mark, with a callback that sends one REST request, sends it or nothing. -/
theorem Streams.Sends.of_checkPending {streams after : Streams Mark} (allowed : Bool)
    (callback : Streams Mark → Streams Mark) (kind : RestKind) {path query : String}
    (sends : callback streams = streams.emit (.restRequest kind path query))
    (dropCopy : after.dropCopy = (LimitRequest.checkPending allowed callback
      (streams.request.mark kind) streams).2.dropCopy)
    (outbox : after.outbox = (LimitRequest.checkPending allowed callback
      (streams.request.mark kind) streams).2.outbox)
    (marked : after.request.mark kind =
      (LimitRequest.checkPending allowed callback (streams.request.mark kind) streams).1)
    (others : ∀ other ≠ kind, after.request.mark other = (LimitRequest.checkPending allowed
      callback (streams.request.mark kind) streams).2.request.mark other) :
    streams.Sends after := by
  have response := LawfulLimitRequest.hasResponse_checkPending allowed callback
    (streams.request.mark kind) streams
  have responses (same : (LimitRequest.checkPending allowed callback
      (streams.request.mark kind) streams).2.request = streams.request) :
      after.responses = streams.responses := by
    funext other
    by_cases checked : other = kind
    · rw [Streams.responses, Streams.responses, checked, marked, response]
    · rw [Streams.responses, Streams.responses, others other checked, same]
  rcases LawfulLimitRequest.checkPending_cases allowed callback (streams.request.mark kind)
    streams with ⟨-, -, runs⟩ | ⟨-, skips⟩
  · rw [runs, sends] at dropCopy outbox responses
    exact ⟨⟨[_], outbox, by simp [Output.kind]⟩, dropCopy, responses rfl⟩
  · rw [skips] at dropCopy outbox responses
    exact ⟨.of_outbox outbox, dropCopy, responses rfl⟩

theorem OrderEntry.checkBalances_sends (config : Config) (allowed : Bool)
    (streams : Streams Mark) : streams.Sends (OrderEntry.checkBalances config allowed streams) :=
  .of_checkPending allowed (OrderEntry.getAccounts config) .accounts rfl rfl rfl rfl
    (by rintro (_ | _ | _) other <;> first | rfl | exact absurd rfl other)

theorem OrderEntry.checkPositions_sends (config : Config) (allowed : Bool)
    (streams : Streams Mark) :
    streams.Sends (OrderEntry.checkPositions config allowed streams) :=
  .of_checkPending allowed (OrderEntry.getPositions config) .positions rfl rfl rfl rfl
    (by rintro (_ | _ | _) other <;> first | rfl | exact absurd rfl other)

theorem OrderEntry.checkTrades_sends (config : Config) (traceInfo : TraceInfo) (allowed : Bool)
    (streams : Streams Mark) :
    streams.Sends (OrderEntry.checkTrades config traceInfo allowed streams) :=
  .of_checkPending allowed (OrderEntry.getTrades config traceInfo) .trades rfl rfl rfl rfl
    (by rintro (_ | _ | _) other <;> first | rfl | exact absurd rfl other)

theorem OrderEntry.timer_sends (config : Config) (traceInfo : TraceInfo) (refresh : Bool)
    (allowed : RestKind → Bool) (streams : Streams Mark) :
    streams.Sends (OrderEntry.timer config traceInfo refresh allowed streams) := by
  rw [OrderEntry.timer]
  split
  · exact ((OrderEntry.checkBalances_sends config (allowed .accounts) streams).trans
      (OrderEntry.checkPositions_sends config (allowed .positions) _)).trans
        (OrderEntry.checkTrades_sends config traceInfo (allowed .trades) _)
  · exact ⟨.of_outbox rfl, rfl, rfl⟩

/-- A reply to a REST request: its kind, the request it answers, and whether it is a success
whose body decodes. -/
structure RestReply where
  kind : RestKind
  request : RestRequest
  decoded : Bool
  deriving DecidableEq

/-- The reply an event delivers. -/
def Event.restReply : Event → Option RestReply
  | .accountsReply request response => some ⟨.accounts, request, response.decoded.isSome⟩
  | .positionsReply request response => some ⟨.positions, request, response.decoded.isSome⟩
  | .tradesReply request response => some ⟨.trades, request, response.decoded.isSome⟩
  | _ => none

/-- A response was recorded, and otherwise the streams only emitted. -/
structure Streams.Commits (kind : RestKind) (kinds : List OutputKind)
    (before after : Streams Mark) : Prop where
  adds : before.Adds kinds after
  dropCopy : after.dropCopy = { before.dropCopy with requestId := after.dropCopy.requestId }
  responses : after.responses = fun other => if other = kind then true else before.responses other

theorem Streams.Commits.of_commit {kind : RestKind} {kinds : List OutputKind}
    {streams handled after : Streams Mark} (emits : streams.Emits kinds handled)
    (outbox : after.outbox = handled.outbox) (dropCopy : after.dropCopy = handled.dropCopy)
    (marked : after.request.mark kind = LimitRequest.commit (handled.request.mark kind))
    (others : ∀ other ≠ kind, after.request.mark other = handled.request.mark other) :
    streams.Commits kind kinds after := by
  refine ⟨emits.adds.trans (.of_outbox outbox), by rw [dropCopy, emits.dropCopy], ?_⟩
  funext other
  rw [Streams.responses]
  split
  next same => rw [same, marked, LawfulLimitRequest.hasResponse_commit]
  next different => rw [others other different, emits.request, Streams.responses]

theorem OrderEntry.getAccountsAck_commits {response : RestResponse Unit}
    {streams after : Streams Mark}
    (handled : OrderEntry.getAccountsAck response streams = .ok after) :
    streams.Commits .accounts [] after := by
  obtain ⟨_, -, handled⟩ := bind_ok.mp handled
  cases handled
  exact .of_commit (.refl streams) rfl rfl rfl
    (by rintro (_ | _ | _) other <;> first | rfl | exact absurd rfl other)

theorem OrderEntry.getPositionsAck_commits {config : Config} {context : Context}
    {response : RestResponse Positions} {streams after : Streams Mark}
    (handled : OrderEntry.getPositionsAck config context response streams = .ok after) :
    streams.Commits .positions [.position] after := by
  obtain ⟨body, -, handled⟩ := bind_ok.mp handled
  cases handled
  have emits := Streams.Emits.elim
    (fun message => OrderEntry.positions_emits config context message streams) body
  exact .of_commit emits rfl rfl rfl
    (by rintro (_ | _ | _) other <;> first | rfl | exact absurd rfl other)

theorem OrderEntry.getTradesAck_commits {config : Config} {context : Context}
    {response : RestResponse UserTrades} {streams after : Streams Mark}
    (handled : OrderEntry.getTradesAck config context response streams = .ok after) :
    streams.Commits .trades [.trade] after := by
  obtain ⟨body, -, handled⟩ := bind_ok.mp handled
  cases handled
  have emits : streams.Emits [.trade]
      (body.elim streams fun message => { OrderEntry.userTrades config context message streams with
        orderEntry.downloadTradesIsFirst := false }) := by
    refine .elim (fun message => ?_) body
    obtain ⟨adds, dropCopy, request⟩ := OrderEntry.userTrades_emits config context message streams
    exact ⟨adds, dropCopy, request⟩
  exact .of_commit emits rfl rfl rfl
    (by rintro (_ | _ | _) other <;> first | rfl | exact absurd rfl other)

variable [Download2 DropCopy.State Driver]

/-- A reply records its response, and leaves the download alone. -/
theorem handle_reply {config : Config} {context : Context} {session next : Session Driver Mark}
    {event : Event} {reply : RestReply} (delivers : event.restReply = some reply)
    (handled : session.handle config context event = .ok next) :
    next.download = session.download ∧
      session.streams.Commits reply.kind event.kinds next.streams := by
  cases event <;> cases delivers
  all_goals
    obtain ⟨streams, committed, handled⟩ := bind_ok.mp handled
    cases handled
  · exact ⟨rfl, OrderEntry.getAccountsAck_commits committed⟩
  · exact ⟨rfl, OrderEntry.getPositionsAck_commits committed⟩
  · exact ⟨rfl, OrderEntry.getTradesAck_commits committed⟩

end Rest

/-! ### Moving the download of a session -/

variable [Download2 DropCopy.State Driver]

/-- The download stays where it is, and the streams are left alone. -/
structure Session.Stays (before after : Session Driver Mark) : Prop where
  state : after.state = before.state
  streams : after.streams = before.streams

/-- The download enters a stage. -/
structure Session.Enters (next : DropCopy.State)
    (before after : Session Driver Mark) : Prop where
  state : after.state = next
  streams : before.streams.Enters next after.streams

variable [LawfulDownload2 DropCopy.State Driver]

/-- The stage a session enters when it leaves the one it is in. -/
def Session.nextStage (config : Config) (session : Session Driver Mark) : DropCopy.State :=
  DropCopy.nextStage config.settings.tradesLookback
    session.streams.dropCopy.downloadStaleOrdersCounter session.state

theorem Session.begin_enters (config : Config) (context : Context)
    (session : Session Driver Mark) :
    session.Enters .subscribeBalances (session.begin config context) := by
  obtain ⟨sequence, entered⟩ := LawfulDownload2.begin_enters
    (DropCopy.download config context) session.download session.streams
  obtain ⟨state, streams⟩ := Prod.mk.inj entered
  refine ⟨state, ?_⟩
  show session.streams.Enters _ (Download2.begin _ session.download session.streams).2
  rw [streams]
  exact DropCopy.download_enters config context .subscribeBalances
    (sequence .subscribeBalances) session.streams nofun nofun nofun

omit [LawfulDownload2 DropCopy.State Driver] in
/-- Entering the states after the current one enters the next stage. -/
theorem Session.Enters.of_entered {config : Config} {context : Context}
    {session next : Session Driver Mark} {sequence : DropCopy.State → UInt32}
    (begun : session.state ≠ .undefined) (unfinished : session.state ≠ .done)
    (entered : (next.state, next.streams) = (DropCopy.download config context).enter sequence
      (after session.state) session.state session.streams) :
    session.Enters (session.nextStage config) next := by
  obtain ⟨state, streams⟩ := Prod.mk.inj entered
  obtain ⟨stage, enters⟩ := DropCopy.enter_after config context sequence session.state
    session.streams begun unfinished
  refine ⟨state.trans stage, ?_⟩
  rw [streams]
  exact enters

/-- A check for a stage moves on if the download is in it, and otherwise does nothing. -/
theorem Session.check_cases (config : Config) (context : Context) (state : DropCopy.State)
    (session : Session Driver Mark) (begun : state ≠ .undefined) (unfinished : state ≠ .done) :
    session.state ≠ state ∧ session.Stays (session.check config context state) ∨
      session.state = state ∧
        session.Enters (session.nextStage config) (session.check config context state) := by
  by_cases current : session.state = state
  · subst current
    obtain ⟨sequence, entered⟩ := LawfulDownload2.check_enters
      (DropCopy.download config context) session.state session.download session.streams rfl
    exact Or.inr ⟨rfl, .of_entered begun unfinished entered⟩
  · obtain ⟨same, streams⟩ := LawfulDownload2.check_other
      (DropCopy.download config context) state session.download session.streams current
    exact Or.inl ⟨current, same, streams⟩

theorem Session.checkRelaxed_cases (config : Config) (context : Context)
    (state : DropCopy.State) (session : Session Driver Mark) (begun : state ≠ .undefined)
    (unfinished : state ≠ .done) :
    session.state ≠ state ∧ session.Stays (session.checkRelaxed config context state) ∨
      session.state = state ∧
        session.Enters (session.nextStage config)
          (session.checkRelaxed config context state) := by
  by_cases current : session.state = state
  · subst current
    obtain ⟨sequence, entered⟩ := LawfulDownload2.checkRelaxed_enters
      (DropCopy.download config context) session.state session.download session.streams rfl
    exact Or.inr ⟨rfl, .of_entered begun unfinished entered⟩
  · obtain ⟨same, streams⟩ := LawfulDownload2.checkRelaxed_other
      (DropCopy.download config context) state session.download session.streams current
    exact Or.inl ⟨current, same, streams⟩

/-- The trading connection leaves a `GET` stage exactly when its response is recorded. -/
theorem Session.checkRequestQueue_cases (config : Config) (context : Context)
    (session : Session Driver Mark) :
    session.Stays (session.checkRequestQueue config context) ∨
      ∃ kind : RestKind, session.state = kind.stage ∧
        LimitRequest.hasResponse (session.streams.request.mark kind) = true ∧
        session.Enters (session.nextStage config)
          (session.checkRequestQueue config context) := by
  by_cases waiting : ∃ kind : RestKind, session.state = kind.stage
  · obtain ⟨kind, current⟩ := waiting
    have moves : session.checkRequestQueue config context =
        if LimitRequest.hasResponse (session.streams.request.mark kind) then
          session.check config context session.state else session := by
      rw [Session.checkRequestQueue, current]
      cases kind <;> rfl
    rw [moves]
    split
    next responded =>
      have begun : session.state ≠ .undefined := by
        rw [current]
        cases kind <;> decide
      have unfinished : session.state ≠ .done := by
        rw [current]
        cases kind <;> decide
      rcases session.check_cases config context session.state begun unfinished with
        ⟨other, -⟩ | ⟨-, enters⟩
      · exact absurd rfl other
      · exact Or.inr ⟨kind, current, responded, enters⟩
    next => exact Or.inl ⟨rfl, rfl⟩
  · refine Or.inl ?_
    rw [Session.checkRequestQueue]
    split
    next current => exact absurd ⟨.accounts, current⟩ waiting
    next current => exact absurd ⟨.positions, current⟩ waiting
    next current => exact absurd ⟨.trades, current⟩ waiting
    all_goals exact ⟨rfl, rfl⟩

/-! ### The timer -/

/-- The timer moves on from a `GET` stage whose response is recorded, and then, if the
connection is ready, queries stale orders. -/
theorem Session.timer_cases (config : Config) (context : Context) (refresh : Bool)
    (session : Session Driver Mark) :
    ∃ middle : Session Driver Mark, (session.Stays middle ∨
        ∃ kind : RestKind, session.state = kind.stage ∧
          LimitRequest.hasResponse (session.streams.request.mark kind) = true ∧
          session.Enters (session.nextStage config) middle) ∧
      (session.timer config context refresh).download = middle.download ∧
      ∃ clientOrderIds, middle.streams.Queries clientOrderIds
          (session.timer config context refresh).streams ∧
        (clientOrderIds ≠ [] → middle.ready = true) := by
  cases refresh with
  | false => exact ⟨session, Or.inl ⟨rfl, rfl⟩, rfl, [], .refl session.streams, by simp⟩
  | true =>
    refine ⟨_, session.checkRequestQueue_cases config context, ?_⟩
    simp only [Session.timer, if_pos]
    split
    next ready =>
      obtain ⟨clientOrderIds, queries⟩ := DropCopy.checkStaleOrders2_queries config context
        (session.checkRequestQueue config context).streams
      exact ⟨rfl, clientOrderIds, queries, fun _ => ready⟩
    next => exact ⟨rfl, [], .refl _, by simp⟩

/-- What the callback keeps of the streams, looking for responses keeps. -/
theorem Session.checkRequestQueue_keeps {config : Config} {context : Context}
    (keeps : Streams Mark → Prop)
    (called : ∀ state sequence streams, keeps streams →
      keeps (DropCopy.download config context state sequence streams).1)
    (session : Session Driver Mark) (before : keeps session.streams) :
    keeps (session.checkRequestQueue config context).streams := by
  have moved (state : DropCopy.State) : keeps (session.check config context state).streams :=
    LawfulDownload2.check_keeps keeps called state session.download session.streams before
  rw [Session.checkRequestQueue]
  split
  · split
    · exact moved .getBalances
    · exact before
  · split
    · exact moved .getPositions
    · exact before
  · split
    · exact moved .getTrades
    · exact before
  all_goals exact before

/-- What the callback and the stale check keep of the streams, the timer keeps. -/
theorem Session.timer_keeps {config : Config} {context : Context} (keeps : Streams Mark → Prop)
    (called : ∀ state sequence streams, keeps streams →
      keeps (DropCopy.download config context state sequence streams).1)
    (checked : ∀ streams, keeps streams →
      keeps (DropCopy.checkStaleOrders2 config context streams))
    (refresh : Bool) (session : Session Driver Mark) (before : keeps session.streams) :
    keeps (session.timer config context refresh).streams := by
  have queued : keeps (session.checkRequestQueue config context).streams :=
    session.checkRequestQueue_keeps keeps called before
  simp only [Session.timer]
  split
  · split
    · exact checked _ queued
    · exact queued
  · exact before

/-! ### Messages that move the download -/

/-- A login begins a download, or closes the connection. -/
theorem Session.tradeLogin_cases {config : Config} {context : Context} {message : TradeLogin}
    {session next : Session Driver Mark}
    (handled : session.tradeLogin config context message = .ok next) :
    next.download = session.download ∧ session.streams.Emits [.close] next.streams ∨
      session.Enters .subscribeBalances next := by
  rw [Session.tradeLogin] at handled
  split at handled
  · split at handled
    · cases handled
    · cases handled
      obtain ⟨state, counter, connectionStatus, request, outbox⟩ := Session.begin_enters config
        context (session.mapStreams fun streams =>
          { streams with dropCopy.userId := message.uid.toInt })
      exact Or.inr ⟨state, counter, connectionStatus, request, outbox⟩
  · split at handled
    · cases handled
      exact Or.inl ⟨rfl, .emit session.streams _ (by simp [Output.kind])⟩
    · cases handled

/-- The stage an acknowledged subscription ends. -/
def subscribeStage : Channel → Option DropCopy.State
  | .balances => some .subscribeBalances
  | .positions => some .subscribePositions
  | .orders => some .subscribeOrders
  | .usertrades => some .subscribeTrades
  | _ => none

/-- An acknowledged subscription moves on from its stage. -/
theorem Session.tradeSubscribe_cases {config : Config} {context : Context}
    {message : TradeSubscribe} {session next : Session Driver Mark}
    (handled : session.tradeSubscribe config context message = .ok next) :
    subscribeStage message.channel ≠ some session.state ∧ session.Stays next ∨
      message.status = .success ∧ subscribeStage message.channel = some session.state ∧
        session.Enters (session.nextStage config) next := by
  rw [Session.tradeSubscribe] at handled
  split at handled
  · cases handled
  next success =>
    have checked (state : DropCopy.State) (begun : state ≠ .undefined)
        (unfinished : state ≠ .done) (channel : subscribeStage message.channel = some state)
        (moved : session.check config context state = next) :
        subscribeStage message.channel ≠ some session.state ∧ session.Stays next ∨
          message.status = .success ∧ subscribeStage message.channel = some session.state ∧
            session.Enters (session.nextStage config) next := by
      subst moved
      rcases session.check_cases config context state begun unfinished with
        ⟨other, stays⟩ | ⟨current, enters⟩
      · refine Or.inl ⟨fun same => other (Option.some.inj (same.symm.trans channel)), stays⟩
      · exact Or.inr ⟨not_not.mp success, channel.trans (congrArg some current.symm), enters⟩
    cases channel : message.channel with
    | balances =>
      rw [channel] at handled checked
      exact checked .subscribeBalances nofun nofun rfl (Except.ok.inj handled)
    | positions =>
      rw [channel] at handled checked
      exact checked .subscribePositions nofun nofun rfl (Except.ok.inj handled)
    | orders =>
      rw [channel] at handled checked
      exact checked .subscribeOrders nofun nofun rfl (Except.ok.inj handled)
    | usertrades =>
      rw [channel] at handled checked
      exact checked .subscribeTrades nofun nofun rfl (Except.ok.inj handled)
    | _ =>
      rw [channel] at handled
      cases handled
      exact Or.inl ⟨nofun, rfl, rfl⟩

/-- An order list is published, then the stale orders are queried, and only then does the
download move on. -/
theorem Session.tradeOrderList_cases {config : Config} {context : Context}
    {message : TradeOrderList} {session next : Session Driver Mark}
    (handled : session.tradeOrderList config context message = .ok next) :
    ∃ listed queried : Streams Mark, session.streams.Emits [.order] listed ∧
      listed.Queries (context.dispatcher.allStaleOrders.map Order.clientOrderId) queried ∧
      (session.state ≠ .getOpenOrders ∧ Session.Stays ⟨queried, session.download⟩ next ∨
        session.state = .getOpenOrders ∧ Session.Enters
          (Session.nextStage config ⟨queried, session.download⟩) ⟨queried, session.download⟩
            next) := by
  obtain ⟨listed, published, handled⟩ := bind_ok.mp handled
  cases handled
  have moves := Session.checkRelaxed_cases config context .getOpenOrders
    ⟨DropCopy.checkStaleOrders context listed, session.download⟩ nofun nofun
  exact ⟨listed, DropCopy.checkStaleOrders context listed, publishOrderUpdates_emits published,
    DropCopy.checkStaleOrders_queries context listed, moves⟩

/-- The streams once a status reply was published and counted. -/
def Streams.resolve (update : Option OrderUpdate) (streams : Streams Mark) : Streams Mark :=
  { (update.elim streams fun update => streams.emit (.orderUpdate update)) with
    dropCopy.downloadStaleOrdersCounter := streams.dropCopy.downloadStaleOrdersCounter - 1 }

/-- A status reply publishes its update and lowers the counter, and the last one moves on. -/
theorem Session.tradeOrderStatus_cases {config : Config} {context : Context}
    {message : TradeOrderStatus} {session next : Session Driver Mark}
    (handled : session.tradeOrderStatus config context message = .ok next) :
    ∃ update : Option OrderUpdate, Session.orderStatusUpdate config message = .ok update ∧
      session.streams.dropCopy.downloadStaleOrdersCounter ≠ 0 ∧
      ((session.mapStreams (Streams.resolve update)).Stays next ∧
          ¬ (session.streams.dropCopy.downloadStaleOrdersCounter = 1 ∧
            session.state = .getStaleOrders) ∨
        (session.streams.dropCopy.downloadStaleOrdersCounter = 1 ∧
            session.state = .getStaleOrders) ∧
          (session.mapStreams (Streams.resolve update)).Enters .subscribeTrades next) := by
  obtain ⟨update, updated, handled⟩ := bind_ok.mp handled
  have counter : (update.elim session.streams fun update =>
      session.streams.emit (.orderUpdate update)).dropCopy.downloadStaleOrdersCounter =
      session.streams.dropCopy.downloadStaleOrdersCounter := by
    cases update <;> rfl
  simp only [Session.mapStreams, counter] at handled
  split at handled
  · cases handled
  next positive =>
    refine ⟨update, updated, positive, ?_⟩
    split at handled
    next last =>
      cases handled
      have one : session.streams.dropCopy.downloadStaleOrdersCounter = 1 := by omega
      have notUndefined : DropCopy.State.getStaleOrders ≠ .undefined := by decide
      have notDone : DropCopy.State.getStaleOrders ≠ .done := by decide
      rcases Session.checkRelaxed_cases config context .getStaleOrders
        (session.mapStreams (Streams.resolve update)) notUndefined notDone with
        ⟨other, stays⟩ | ⟨current, enters⟩
      · exact Or.inl ⟨stays, fun moves => other moves.2⟩
      · rw [Session.nextStage, current] at enters
        exact Or.inr ⟨⟨one, current⟩, enters⟩
    next more =>
      cases handled
      exact Or.inl ⟨⟨rfl, rfl⟩, fun moves => more (by omega)⟩

end GateFutures.Gateway
