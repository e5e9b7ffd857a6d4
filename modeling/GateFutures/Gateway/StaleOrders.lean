/-
This file accounts for the status queries of stale orders.

The counter is raised by a query and lowered by a status reply, whatever the reply says,
and the end of the connection clears it. So it counts the unanswered queries of the
connection, no status reply finds it zero, and `READY` waits for the queries that were raised before
the download left the stage of the stale orders. An order list may still come later, and `READY`
does not wait for the queries that it raises.
-/

import GateFutures.Gateway.Steps

namespace GateFutures.Gateway

open Framework Library Protocol Roq

variable {Driver Mark : Type}

/-! ### The queries of a step -/

/-- The status queries among outputs. -/
def statusQueries (stage : DropCopy.State) (outputs : List Output) : List StatusQuery :=
  outputs.filterMap (Output.statusQuery stage)

/-- Orders were queried and counted. -/
structure Streams.Accounts (clientOrderIds : List String) (before after : Streams Mark) :
    Prop where
  counter : after.dropCopy.downloadStaleOrdersCounter =
    before.dropCopy.downloadStaleOrdersCounter + clientOrderIds.length
  queries : ∀ stage, (statusQueries stage after.outbox).map StatusQuery.clientOrderId =
    (statusQueries stage before.outbox).map StatusQuery.clientOrderId ++ clientOrderIds

/-- Outputs of other kinds query nothing. -/
theorem Streams.Adds.statusQueries {kinds : List OutputKind} {before after : Streams Mark}
    (adds : before.Adds kinds after) (unqueried : OutputKind.statusQuery ∉ kinds)
    (stage : DropCopy.State) :
    statusQueries stage after.outbox = statusQueries stage before.outbox :=
  adds.filterMap (Output.statusQuery_kind stage) unqueried

theorem stage_of_statusQueries {stage : DropCopy.State} {outputs : List Output}
    {query : StatusQuery} (member : query ∈ statusQueries stage outputs) :
    query.stage = stage := by
  obtain ⟨output, -, same⟩ := List.mem_filterMap.mp member
  cases output with
  | sendText frame =>
    obtain ⟨id, time, channel, event, payload⟩ := frame
    cases payload <;> cases same
    rfl
  | _ => cases same

namespace Streams.Accounts

variable {first second third : Streams Mark}

theorem trans {earlier later : List String} (accounts : first.Accounts earlier second)
    (accounts' : second.Accounts later third) : first.Accounts (earlier ++ later) third :=
  ⟨by rw [accounts'.counter, accounts.counter, List.length_append, Nat.add_assoc],
    fun stage => by rw [accounts'.queries, accounts.queries, List.append_assoc]⟩

theorem of_adds {kinds : List OutputKind} (adds : first.Adds kinds second)
    (unqueried : OutputKind.statusQuery ∉ kinds)
    (counter : second.dropCopy.downloadStaleOrdersCounter =
      first.dropCopy.downloadStaleOrdersCounter) : first.Accounts [] second :=
  ⟨counter, fun stage => by rw [adds.statusQueries unqueried, List.append_nil]⟩

theorem of_emits {kinds : List OutputKind} (emits : first.Emits kinds second)
    (unqueried : OutputKind.statusQuery ∉ kinds) : first.Accounts [] second :=
  of_adds emits.adds unqueried emits.counter

theorem of_eq (same : second = first) : first.Accounts [] second :=
  ⟨by rw [same]; rfl, fun stage => by rw [same, List.append_nil]⟩

theorem of_queries {clientOrderIds : List String} (queries : first.Queries clientOrderIds second) :
    first.Accounts clientOrderIds second := by
  obtain ⟨sent, outbox, -, ids⟩ := queries.outbox
  refine ⟨queries.counter, fun stage => ?_⟩
  rw [outbox, statusQueries, List.filterMap_append, List.map_append, ids]
  rfl

variable [LimitRequest Mark]

theorem of_enters {stage : DropCopy.State} (enters : first.Enters stage second) :
    first.Accounts [] second :=
  of_adds enters.adds (by simp) enters.counter

end Streams.Accounts

/-! ### Events -/

/-- The query an event answers, and the answer. -/
def Event.statusReply : Event → Option (StatusQuery × TradeOrderStatus)
  | .tradeOrderStatus query message => some (query, message)
  | _ => none

theorem Event.quiet_unqueried {event : Event} (quiet : event.isQuiet = true) :
    event.isDisconnected = false ∧ event.statusReply = none ∧
      OutputKind.statusQuery ∉ event.kinds := by
  cases event <;>
    simp_all [Event.isQuiet, Event.isDisconnected, Event.statusReply, Event.kinds]

theorem Event.reply_unqueried {event : Event} {reply : RestReply}
    (delivers : event.restReply = some reply) :
    event.isDisconnected = false ∧ event.statusReply = none ∧
      OutputKind.statusQuery ∉ event.kinds := by
  cases event <;>
    simp_all [Event.isDisconnected, Event.restReply, Event.statusReply, Event.kinds]

/-! ### Failures -/

theorem createOrderUpdate_error {width : Nat} {config : Config} {value : OrderItem width}
    {updateType : UpdateType} {failure : Fatal}
    (failed : DropCopy.createOrderUpdate config value updateType = .error failure) :
    failure = .unexpectedOrderStatus := by
  rw [DropCopy.createOrderUpdate] at failed
  split at failed
  · cases failed
  · rcases bind_error.mp failed with failed | ⟨_, -, impossible⟩
    · rw [DropCopy.getOrderStatus] at failed
      split at failed
      · cases failed
      · split at failed <;> cases failed
        rfl
    · cases impossible

theorem publishOrderUpdates_error {width : Nat} {config : Config} {updateType : UpdateType}
    {items : List (OrderItem width)} {streams : Streams Mark} {failure : Fatal}
    (failed : Session.publishOrderUpdates config updateType items streams = .error failure) :
    failure = .unexpectedOrderStatus := by
  induction items generalizing streams with
  | nil => cases failed
  | cons item rest inductionHypothesis =>
    rcases bind_error.mp failed with failed | ⟨update, -, failed⟩
    · exact createOrderUpdate_error failed
    · exact inductionHypothesis failed

theorem publishAccepted_error {width : Nat} {config : Config} {requestType : RequestType}
    {requestId : String} {result : OrderItem width} {session : Session Driver Mark}
    {failure : Fatal}
    (failed : session.publishAccepted config requestType requestId result = .error failure) :
    failure = .unexpectedOrderStatus := by
  rcases bind_error.mp failed with failed | ⟨_, -, impossible⟩
  · exact createOrderUpdate_error failed
  · cases impossible

theorem processResponse_error {Body : Type} {response : RestResponse Body} {failure : Fatal}
    (failed : OrderEntry.processResponse response = .error failure) : failure = .redirected := by
  cases response with
  | result category status body => cases category <;> cases failed; rfl
  | omsException | networkError | exception => cases failed

variable [LimitRequest Mark] [Download2 DropCopy.State Driver]

/-- Only a status reply that finds the counter zero is unexpected. -/
theorem handle_unexpected {config : Config} {context : Context} {session : Session Driver Mark}
    {event : Event}
    (failed : session.handle config context event = .error .unexpectedStatusReply) :
    (∃ reply, event.statusReply = some reply) ∧ session.counter = 0 := by
  cases event with
  | tradeLogin message =>
    simp only [Session.handle, Session.tradeLogin] at failed
    split at failed <;> split at failed <;> cases failed
  | tradeSubscribe message =>
    simp only [Session.handle, Session.tradeSubscribe] at failed
    split at failed <;> cases failed
  | tradeOrders message =>
    rcases bind_error.mp failed with failed | ⟨_, -, impossible⟩
    · cases publishOrderUpdates_error failed
    · cases impossible
  | tradeOrderPlace message =>
    simp only [Session.handle, Session.tradeOrderPlace] at failed
    split at failed
    · split at failed
      · cases publishAccepted_error failed
      · cases failed
    · cases failed
  | tradeOrderAmend message =>
    simp only [Session.handle, Session.tradeOrderAmend] at failed
    split at failed
    · cases publishAccepted_error failed
    · cases failed
  | tradeOrderCancel message =>
    simp only [Session.handle, Session.tradeOrderCancel] at failed
    split at failed
    · cases publishAccepted_error failed
    · cases failed
  | tradeOrderList message =>
    rcases bind_error.mp failed with failed | ⟨_, -, impossible⟩
    · cases publishOrderUpdates_error failed
    · cases impossible
  | tradeOrderStatus query message =>
    refine ⟨⟨_, rfl⟩, ?_⟩
    rcases bind_error.mp failed with failed | ⟨update, -, failed⟩
    · rw [Session.orderStatusUpdate] at failed
      split at failed
      · cases failed
      · cases createOrderUpdate_error failed
    · simp only at failed
      split at failed
      next zero => cases update <;> exact zero
      next => split at failed <;> cases failed
  | accountsReply request response =>
    rcases bind_error.mp failed with failed | ⟨_, -, impossible⟩
    · rcases bind_error.mp failed with failed | ⟨_, -, impossible⟩
      · cases processResponse_error failed
      · cases impossible
    · cases impossible
  | positionsReply request response =>
    rcases bind_error.mp failed with failed | ⟨_, -, impossible⟩
    · rcases bind_error.mp failed with failed | ⟨_, -, impossible⟩
      · cases processResponse_error failed
      · cases impossible
    · cases impossible
  | tradesReply request response =>
    rcases bind_error.mp failed with failed | ⟨_, -, impossible⟩
    · rcases bind_error.mp failed with failed | ⟨_, -, impossible⟩
      · cases processResponse_error failed
      · cases impossible
    · cases impossible
  | _ => cases failed

/-! ### One step -/

/-- What a step does to the counter, with the queries it outputs. -/
inductive Session.QueryStep (session : Session Driver Mark) (event : Event)
    (next : Session Driver Mark) (outputs : List Output) : Prop
  | counts (connected : event.isDisconnected = false) (unanswered : event.statusReply = none)
      (counter : next.counter =
        session.counter + (statusQueries session.state outputs).length)
  | answers (query : StatusQuery) (message : TradeOrderStatus)
      (connected : event.isDisconnected = false)
      (answered : event.statusReply = some (query, message)) (positive : session.counter ≠ 0)
      (counter : next.counter = session.counter - 1)
      (unqueried : statusQueries session.state outputs = [])
  | resets (disconnected : event.isDisconnected = true) (counter : next.counter = 0)
      (unqueried : statusQueries session.state outputs = [])

omit [LimitRequest Mark] in
theorem Streams.Accounts.counts {clientOrderIds : List String}
    {session next : Session Driver Mark} {event : Event}
    (accounts : session.clearOutbox.streams.Accounts clientOrderIds next.streams)
    (connected : event.isDisconnected = false) (unanswered : event.statusReply = none) :
    session.QueryStep event next next.streams.outbox := by
  refine .counts connected unanswered ?_
  have queries := congrArg List.length (accounts.queries session.state)
  rw [List.length_map, List.length_append, List.length_map] at queries
  rw [queries]
  exact accounts.counter.trans (by simp [statusQueries, Session.clearOutbox, Session.mapStreams,
    Session.counter])

section Laws

variable [LawfulDownload2 DropCopy.State Driver]

/-- An order list queries the stale orders, and no others. -/
theorem Session.tradeOrderList_accounts {config : Config} {context : Context}
    {message : TradeOrderList} {session next : Session Driver Mark}
    (handled : session.tradeOrderList config context message = .ok next) :
    session.streams.Accounts (context.dispatcher.allStaleOrders.map Order.clientOrderId)
      next.streams := by
  obtain ⟨listed, queried, emits, queries, moved⟩ := Session.tradeOrderList_cases handled
  have queried : session.streams.Accounts _ queried :=
    (Streams.Accounts.of_emits emits (by simp)).trans (.of_queries queries)
  rcases moved with ⟨-, stays⟩ | ⟨-, enters⟩
  · simpa using queried.trans (.of_eq stays.streams)
  · simpa using queried.trans (.of_enters enters.streams)

variable [LawfulLimitRequest Mark]

/-- Every step of an account's streams is one of the steps above. -/
theorem Session.step_queries {config : Config} {session next : Session Driver Mark}
    {input : Input} {outputs : List Output}
    (taken : session.step config input = .ok (next, outputs)) :
    session.QueryStep input.event next outputs := by
  obtain ⟨handled, rfl⟩ := Session.step_ok taken
  have adds := Session.handle_adds handled
  obtain ⟨context, event⟩ := input
  cases Session.handles handled with
  | quiet quiet download emits =>
    obtain ⟨connected, unanswered, unqueried⟩ := Event.quiet_unqueried quiet
    exact (Streams.Accounts.of_emits emits unqueried).counts connected unanswered
  | replies reply delivers download commits =>
    obtain ⟨connected, unanswered, unqueried⟩ := Event.reply_unqueried delivers
    exact (Streams.Accounts.of_adds commits.adds unqueried (by rw [commits.dropCopy])).counts
      connected unanswered
  | timer refresh =>
    obtain ⟨middle, moved, -, clientOrderIds, queries, -⟩ :=
      session.clearOutbox.timer_cases config context refresh
    have accounts : session.clearOutbox.streams.Accounts [] middle.streams := by
      rcases moved with stays | ⟨-, -, -, enters⟩
      · exact .of_eq stays.streams
      · exact .of_enters enters.streams
    exact (accounts.trans (.of_queries queries)).counts rfl rfl
  | disconnected =>
    exact .resets rfl rfl (adds.statusQueries (by simp [Event.kinds]) session.state)
  | ready => exact (Streams.Accounts.of_adds adds (by simp [Event.kinds]) rfl).counts rfl rfl
  | tradeLogin handled =>
    rcases Session.tradeLogin_cases handled with ⟨-, emits⟩ | enters
    · exact (Streams.Accounts.of_emits emits (by simp)).counts rfl rfl
    · exact (Streams.Accounts.of_enters enters.streams).counts rfl rfl
  | tradeSubscribe handled =>
    rcases Session.tradeSubscribe_cases handled with ⟨-, stays⟩ | ⟨-, -, enters⟩
    · exact (Streams.Accounts.of_eq stays.streams).counts rfl rfl
    · exact (Streams.Accounts.of_enters enters.streams).counts rfl rfl
  | tradeOrderList handled => exact (Session.tradeOrderList_accounts handled).counts rfl rfl
  | @tradeOrderStatus query message next handled =>
    obtain ⟨update, -, positive, moved⟩ := Session.tradeOrderStatus_cases handled
    refine .answers query message rfl rfl positive ?_
      (adds.statusQueries (by simp [Event.kinds]) session.state)
    rcases moved with ⟨stays, -⟩ | ⟨-, enters⟩
    · rw [Session.counter, stays.streams]
      rfl
    · rw [Session.counter, enters.streams.counter]
      rfl
  | orderEntryTimer refresh allowed =>
    have sends := OrderEntry.timer_sends config context.traceInfo refresh allowed
      session.clearOutbox.streams
    exact (Streams.Accounts.of_adds sends.adds (by simp) (by rw [sends.dropCopy])).counts
      rfl rfl

end Laws

/-! ### Unanswered queries -/

/-- The status queries of the connection that are not yet answered, with the stages they were
raised in. -/
def unanswered : AccountHistory Driver Mark → List StatusQuery
  | [] => []
  | entry :: before =>
    if entry.input.event.isDisconnected then []
    else
      (match entry.input.event.statusReply with
        | some (query, _) => (unanswered before).erase query
        | none => unanswered before) ++ statusQueries (stage entry) entry.output

omit [LimitRequest Mark] in
theorem mem_unanswered_cons {entry : AccountEntry Driver Mark}
    {before : AccountHistory Driver Mark} {query : StatusQuery}
    (member : query ∈ unanswered (entry :: before)) :
    query ∈ unanswered before ∨ query.stage = stage entry := by
  rw [unanswered] at member
  split at member
  · cases member
  · rcases List.mem_append.mp member with member | member
    · split at member
      · exact Or.inl (List.mem_of_mem_erase member)
      · exact Or.inl member
    · exact Or.inr (stage_of_statusQueries member)

/-- Every query is answered at most once, and only on the connection it was asked on. -/
def StatusRepliesAnswerQueries : Environment (Session Driver Mark) Input (List Output) :=
  fun history _ input => ∀ reply ∈ input.event.statusReply, reply.1 ∈ unanswered history

/-- The download has left the stage of the stale orders, and is not done. -/
def DropCopy.State.isLate (state : DropCopy.State) : Prop :=
  state = .subscribeTrades ∨ state = .getTrades

/-- The counter counts the unanswered queries. Once the stage of the stale orders is left, they
were raised since. -/
structure StaleInvariant (history : AccountHistory Driver Mark)
    (session : Session Driver Mark) : Prop where
  counted : session.counter = (unanswered history).length
  late : session.state.isLate → ∀ query ∈ unanswered history, query.stage.isLate

/-- The download enters a late stage from another late one, or with no query unanswered. -/
theorem Session.Advances.late {config : Config} {session next : Session Driver Mark}
    {event : Event} {stage : DropCopy.State} (advances : session.Advances config event next stage)
    (late : stage.isLate) : session.state.isLate ∨ next.counter = 0 := by
  obtain ⟨-, rfl, -, settled⟩ := advances
  cases current : session.state with
  | getStaleOrders => exact Or.inr (settled current)
  | getOpenOrders =>
    refine Or.inr (by_contra fun positive => ?_)
    rw [current, DropCopy.nextStage, if_neg positive] at late
    rcases late with late | late <;> cases late
  | subscribeTrades => exact Or.inl (Or.inl rfl)
  | getTrades => exact Or.inl (Or.inr rfl)
  | _ =>
    rw [current] at late
    rcases late with late | late <;> cases late

/-- No step ends at the unexpected status reply. -/
theorem StaleInvariant.safe {config : Config} {history : AccountHistory Driver Mark}
    {session : Session Driver Mark} {input : Input}
    (invariant : StaleInvariant history session)
    (answers : StatusRepliesAnswerQueries history session input) :
    session.step config input ≠ .error .unexpectedStatusReply := by
  intro failed
  rcases bind_error.mp failed with failed | ⟨_, -, impossible⟩
  · obtain ⟨⟨reply, answered⟩, zero⟩ := handle_unexpected failed
    have none := List.eq_nil_of_length_eq_zero (invariant.counted.symm.trans zero)
    exact absurd (none ▸ answers reply answered) (List.not_mem_nil)
  · cases impossible

variable [LawfulLimitRequest Mark] [LawfulDownload2 DropCopy.State Driver]

theorem StaleInvariant.step {config : Config} {history : AccountHistory Driver Mark}
    {session next : Session Driver Mark} {input : Input} {outputs : List Output}
    (invariant : StaleInvariant history session)
    (answers : StatusRepliesAnswerQueries history session input)
    (taken : session.step config input = .ok (next, outputs)) :
    StaleInvariant (⟨session, input, outputs⟩ :: history) next := by
  have counted : next.counter =
      (unanswered (⟨session, input, outputs⟩ :: history)).length := by
    cases Session.step_queries taken with
    | counts connected silent counter =>
      simp [unanswered, connected, silent, counter, invariant.counted, stage]
    | answers query message connected answered positive counter unqueried =>
      have member := answers _ answered
      simp [unanswered, connected, answered, counter, invariant.counted, unqueried, stage,
        List.length_erase_of_mem member]
    | resets disconnected counter =>
      simp [unanswered, disconnected, counter]
  refine ⟨counted, fun late query member => ?_⟩
  have kept : session.state.isLate → query.stage.isLate := by
    intro before
    rcases mem_unanswered_cons member with member | raised
    · exact invariant.late before query member
    · exact raised ▸ before
  cases Session.step_stage taken with
  | stays _ _ state => exact kept (state ▸ late)
  | commits _ _ _ state => exact kept (state ▸ late)
  | resets _ _ state =>
    rw [state] at late
    rcases late with late | late <;> cases late
  | enters stage _ _ cause state =>
    rw [state] at late
    rcases cause with rfl | advances
    · rcases late with late | late <;> cases late
    · rcases advances.late late with before | settled
      · exact kept before
      · rw [List.eq_nil_of_length_eq_zero (counted.symm.trans settled)] at member
        cases member

/-! ### Runs -/

theorem StaleInvariant.of_run {config : Config} {history : AccountHistory Driver Mark}
    {session : Session Driver Mark}
    (run : (account config).Run StatusRepliesAnswerQueries history session) :
    StaleInvariant history session := by
  refine run.invariant StaleInvariant ⟨rfl, fun _ _ member => nomatch member⟩ ?_
  intro history session input next outputs invariant answers taken
  exact invariant.step answers taken

instance (history : AccountHistory Driver Mark) (session : Session Driver Mark)
    (input : Input) : Decidable (StatusRepliesAnswerQueries history session input) :=
  inferInstanceAs (Decidable (∀ reply ∈ input.event.statusReply, _))

/-- A query that is unanswered when `READY` is published was raised after the download left the
stage of the stale orders, and so by no order list that was handled earlier. -/
def ReadyWaitsForOrderList : StepProperty (Session Driver Mark) Input (List Output) :=
  fun history entry => PublishesReady entry.output →
    ∀ query ∈ unanswered history, query.stage.isLate

/-- A `READY` is published on leaving a late stage. -/
theorem StaleInvariant.ready {config : Config} {history : AccountHistory Driver Mark}
    {session next : Session Driver Mark} {input : Input} {outputs : List Output}
    (invariant : StaleInvariant history session)
    (taken : session.step config input = .ok (next, outputs)) :
    ReadyWaitsForOrderList history ⟨session, input, outputs⟩ := by
  intro ready
  refine invariant.late ?_
  cases Session.step_stage taken with
  | stays _ _ _ _ silent => exact absurd ready silent.not_ready
  | commits _ _ _ _ _ silent => exact absurd ready silent.not_ready
  | resets _ _ _ silent => exact absurd ready silent.not_ready
  | enters stage _ _ cause _ _ announced =>
    obtain rfl := announced.ready_iff.mp ready
    rcases cause with impossible | ⟨advances, stage, -, -⟩
    · cases impossible
    · cases current : session.state with
      | subscribeTrades => exact Or.inl rfl
      | getTrades => exact Or.inr rfl
      | done => exact absurd current (Event.advances_unfinished advances)
      | getOpenOrders =>
        rw [current, DropCopy.nextStage] at stage
        split at stage <;> cases stage
      | _ =>
        rw [current] at stage
        cases stage

/-- The counter is the number of unanswered queries of the connection, no status reply is
unexpected, and `READY` waits for the queries of every order list that was handled before the
download left the stage of the stale orders. -/
theorem stale_orders_accounted (config : Config) (history : AccountHistory Driver Mark)
    (session : Session Driver Mark)
    (run : (account config).Run StatusRepliesAnswerQueries history session) :
    session.counter = (unanswered history).length ∧
      (∀ input, StatusRepliesAnswerQueries history session input →
        session.step config input ≠ .error .unexpectedStatusReply) ∧
      History.Always ReadyWaitsForOrderList history := by
  have invariant := StaleInvariant.of_run run
  refine ⟨invariant.counted, fun input answers => invariant.safe answers, run.always ?_⟩
  intro history session input next outputs run _ taken
  exact (StaleInvariant.of_run run).ready taken

/-- An order of the plain account that the host reports stale. -/
def plainStaleOrder : Order where
  symbol := "BTC_USDT"
  side := .buy
  clientOrderId := "c1"
  externalOrderId := ""

/-- The reply to the query for it, given its status. -/
def plainStatusReply (status : BitVec 32) (text : String) : Event :=
  .tradeOrderStatus ⟨6, "c1", .getOpenOrders⟩
    { header := ⟨0, status⟩, errs := ⟨"", ""⟩, requestId := "c1"
      result :=
        { text, price := .number 1, tif := .gtc, status := .open, contract := "BTC_USDT"
          finishAs := .undefinedInternal, fillPrice := .number 0, id := 7, createTime := 0
          createTimeMs := none, size := 1, updateTime := 0, left := 1 } }

/-- A stale order is queried and answered, and `READY` follows. -/
theorem stale_orders_accounted_plain : ∃ history session,
    plainAccount.replay (plainDownload .networkError .networkError [plainStaleOrder] ++
      plainInputs [plainStatusReply 404 "", .tradeSubscribe ⟨.usertrades, .success⟩]) =
        .ok (history, session) ∧
    session.ready = true ∧ session.counter = (unanswered history).length ∧
      (∀ input, StatusRepliesAnswerQueries history session input →
        session.step plainConfig input ≠ .error .unexpectedStatusReply) ∧
      History.Always ReadyWaitsForOrderList history :=
  ⟨_, _, rfl, rfl, stale_orders_accounted plainConfig _ _
    (.of_replay (plainDownload .networkError .networkError [plainStaleOrder] ++
      plainInputs [plainStatusReply 404 "", .tradeSubscribe ⟨.usertrades, .success⟩]) rfl
      (by decide))⟩

/-! ### Late order lists -/

/-- The status queries that order lists of the connection raised and that are not yet answered. -/
def unansweredListed : AccountHistory Driver Mark → List StatusQuery
  | [] => []
  | entry :: before =>
    if entry.input.event.isDisconnected then []
    else
      (match entry.input.event.statusReply with
        | some (query, _) => (unansweredListed before).erase query
        | none => unansweredListed before) ++
        match entry.input.event with
        | .tradeOrderList _ => statusQueries (stage entry) entry.output
        | _ => []

/-- `READY` waits for the queries of all order lists. -/
def ReadyWaitsForAllOrderLists : StepProperty (Session Driver Mark) Input (List Output) :=
  fun history entry => PublishesReady entry.output → unansweredListed history = []

/-- An order list that is handled while the trades are subscribed to raises a query, and `READY`
follows before the query is answered. -/
theorem late_order_list_not_awaited : ∃ history session,
    plainAccount.Run StatusRepliesAnswerQueries history session ∧ session.ready = true ∧
      ¬ History.Always ReadyWaitsForAllOrderLists history := by
  refine ⟨_, _, .of_replay (plainDownload .networkError .networkError [] ++
    [⟨plainContext [plainStaleOrder], .tradeOrderList ⟨[]⟩⟩] ++
    plainInputs [.tradeSubscribe ⟨.usertrades, .success⟩]) rfl (by decide), rfl, ?_⟩
  intro always
  exact absurd (always.1 (by decide)) (by decide)

end GateFutures.Gateway
