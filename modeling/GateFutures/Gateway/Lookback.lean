/-
This file proves when a session looks back at the account's trades.

Two places decide it. The trading connection skips `GET_TRADES` unless one setting is
non-zero, and the REST connection takes the look-back from two settings and from whether
trades were ever downloaded. They agree in the sessions that do not skip the stage of a
first download that has a look-back of its own, and that are left alone by the trades
requests of earlier sessions.
-/

import GateFutures.Gateway.Downloaded
import GateFutures.Gateway.Freshness

namespace GateFutures.Gateway

open Framework Library Protocol Roq

variable {Driver Mark : Type}

/-! ### Trades requests and their replies -/

/-- The event delivers trades: a reply to a trades request that is a success and decodes. -/
def Event.downloadsTrades : Event → Bool
  | .tradesReply _ response => response.decoded.isSome
  | _ => false

/-- The query of the trades request an output sends. -/
def Output.tradesQuery? : Output → Option String
  | .restRequest .trades _ query => some query
  | _ => none

theorem Output.tradesQuery_kind (output : Output) (query : String)
    (sends : output.tradesQuery? = some query) : output.kind = .restRequest := by
  cases output <;> first | rfl | cases sends

/-- The query for the trades from a time on. -/
def fromQuery (time : Int) : String := "?from=" ++ toString (toSeconds time)

theorem Event.downloadsTrades_answered {event : Event} (unanswered : event.restReply = none) :
    event.downloadsTrades = false := by
  cases event with
  | tradesReply => cases unanswered
  | _ => rfl

theorem Event.downloadsTrades_kind {event : Event} {reply : RestReply}
    (answered : event.restReply = some reply) (other : reply.kind ≠ .trades) :
    event.downloadsTrades = false := by
  cases event with
  | tradesReply =>
    cases answered
    exact absurd rfl other
  | _ => rfl

theorem Event.reply_unsent {event : Event} {reply : RestReply}
    (answered : event.restReply = some reply) : OutputKind.restRequest ∉ event.kinds := by
  cases event <;> simp_all [Event.restReply, Event.kinds]

/-! ### Sessions and their look-back -/

/-- A trades download has succeeded. -/
def downloaded (history : AccountHistory Driver Mark) : Bool :=
  history.any fun entry => entry.input.event.downloadsTrades

/-- The effective look-back of the session that is going on, as it was when it began. -/
def effectiveLookback (settings : Settings) : AccountHistory Driver Mark → Option Int
  | [] => none
  | entry :: before =>
    if entry.input.event.isDisconnected then none
    else if EntersStage .subscribeBalances entry.output then
      some (OrderEntry.getDownloadTradesLookback settings (!downloaded before))
    else effectiveLookback settings before

/-- The trades requests of the session that is going on, newest first: when each was made, and
its query. -/
def tradesRequests : AccountHistory Driver Mark → List (Int × String)
  | [] => []
  | entry :: before =>
    if entry.input.event.isDisconnected then []
    else if EntersStage .subscribeBalances entry.output then []
    else ((entry.output.filterMap Output.tradesQuery?).map fun query =>
      (entry.input.context.traceInfo.originCreateTimeUtc, query)) ++ tradesRequests before

theorem effectiveLookback_silent {settings : Settings} {entry : AccountEntry Driver Mark}
    {before : AccountHistory Driver Mark} (connected : entry.input.event.isDisconnected = false)
    (silent : Silent entry.output) :
    effectiveLookback settings (entry :: before) = effectiveLookback settings before := by
  simp [effectiveLookback, connected, silent.not_enters]

/-- A step that announces no stage adds its trades queries to the session's. -/
theorem tradesRequests_silent {entry : AccountEntry Driver Mark}
    {before : AccountHistory Driver Mark} (connected : entry.input.event.isDisconnected = false)
    (silent : Silent entry.output) : tradesRequests (entry :: before) =
      ((entry.output.filterMap Output.tradesQuery?).map fun query =>
        (entry.input.context.traceInfo.originCreateTimeUtc, query)) ++ tradesRequests before := by
  simp [tradesRequests, connected, silent.not_enters]

/-! ### The flag -/

/-- `download_trades_is_first_`. -/
def Session.first (session : Session Driver Mark) : Bool :=
  session.streams.orderEntry.downloadTradesIsFirst

/-- A loop that leaves the REST connection alone at every element leaves it alone. -/
theorem Streams.foldl_orderEntry {Element : Type} {body : Streams Mark → Element → Streams Mark}
    (each : ∀ streams element, (body streams element).orderEntry = streams.orderEntry)
    (elements : List Element) (streams : Streams Mark) :
    (elements.foldl body streams).orderEntry = streams.orderEntry := by
  induction elements generalizing streams with
  | nil => rfl
  | cons element rest inductionHypothesis =>
    rw [List.foldl_cons, inductionHypothesis, each]

theorem DropCopy.checkStaleOrders_orderEntry (context : Context) (streams : Streams Mark) :
    (DropCopy.checkStaleOrders context streams).orderEntry = streams.orderEntry := by
  rw [DropCopy.checkStaleOrders]
  exact Streams.foldl_orderEntry (fun _ _ => by rfl) _ streams

theorem DropCopy.checkStaleOrders2_orderEntry (config : Config) (context : Context)
    (streams : Streams Mark) :
    (DropCopy.checkStaleOrders2 config context streams).orderEntry = streams.orderEntry := by
  rw [DropCopy.checkStaleOrders2]
  split
  · rw [DropCopy.checkStaleOrders_orderEntry]
  · rfl

theorem publishOrderUpdates_orderEntry {width : Nat} {config : Config} {updateType : UpdateType}
    {items : List (OrderItem width)} {streams after : Streams Mark}
    (published : Session.publishOrderUpdates config updateType items streams = .ok after) :
    after.orderEntry = streams.orderEntry := by
  induction items generalizing streams with
  | nil =>
    cases published
    rfl
  | cons item rest inductionHypothesis =>
    obtain ⟨update, -, published⟩ := bind_ok.mp published
    rw [inductionHypothesis published]
    cases update <;> rfl

theorem publishAccepted_orderEntry {width : Nat} {config : Config} {requestType : RequestType}
    {requestId : String} {result : OrderItem width} {session next : Session Driver Mark}
    (published : session.publishAccepted config requestType requestId result = .ok next) :
    next.streams.orderEntry = session.streams.orderEntry := by
  obtain ⟨update, -, published⟩ := bind_ok.mp published
  cases published
  cases update <;> rfl

variable [LimitRequest Mark]

theorem DropCopy.download_orderEntry (config : Config) (context : Context)
    (state : DropCopy.State) (sequence : UInt32) (streams : Streams Mark) :
    (DropCopy.download config context state sequence streams).1.orderEntry =
      streams.orderEntry := by
  cases state with
  | getStaleOrders | getTrades =>
    rw [DropCopy.download]
    split <;> rfl
  | _ => rfl

/-! ### The trades request -/

/-- The trades request is pending, and the flag and the queries sent so far are as given. -/
structure Streams.TradesState (pending : Bool) (orderEntry : OrderEntry) (queries : List String)
    (streams : Streams Mark) : Prop where
  pending : LimitRequest.pending streams.request.trades = pending
  orderEntry : streams.orderEntry = orderEntry
  queries : streams.outbox.filterMap Output.tradesQuery? = queries

/-- The trades request is asked for, and not yet sent. -/
def Session.asked (session : Session Driver Mark) : Bool :=
  LimitRequest.pending session.streams.request.trades

/-- The event sends the trades request: the REST connection's timer, with the request pending,
the connection ready and the rate limiter willing. -/
def Session.sendsTrades (session : Session Driver Mark) : Event → Bool
  | .orderEntryTimer refresh allowed =>
    (refresh && session.streams.orderEntry.connectionStatus = .ready) &&
      (allowed .trades && session.asked)
  | _ => false

theorem Session.sendsTrades_none (session : Session Driver Mark) {event : Event}
    (unsent : OutputKind.restRequest ∉ event.kinds) : session.sendsTrades event = false := by
  cases event with
  | orderEntryTimer => exact absurd (by simp [Event.kinds]) unsent
  | _ => rfl

theorem Session.sendsTrades_asked {session : Session Driver Mark} {event : Event}
    (sends : session.sendsTrades event = true) : session.asked = true := by
  cases event with
  | orderEntryTimer => exact (Bool.and_eq_true_iff.mp (Bool.and_eq_true_iff.mp sends).2).2
  | _ => cases sends

section Rest

variable [LawfulLimitRequest Mark] {pending : Bool} {orderEntry : OrderEntry}
  {queries : List String} {streams : Streams Mark}

/-- Checking the mark of another request leaves the trades request alone. -/
theorem Streams.TradesState.of_checkPending {after : Streams Mark}
    (state : streams.TradesState pending orderEntry queries) (allowed : Bool)
    (callback : Streams Mark → Streams Mark) (mark : Mark) (kind : RestKind) {path query : String}
    (other : kind ≠ .trades)
    (sends : callback streams = streams.emit (.restRequest kind path query))
    (trades : after.request.trades =
      (LimitRequest.checkPending allowed callback mark streams).2.request.trades)
    (entry : after.orderEntry =
      (LimitRequest.checkPending allowed callback mark streams).2.orderEntry)
    (outbox : after.outbox = (LimitRequest.checkPending allowed callback mark streams).2.outbox) :
    after.TradesState pending orderEntry queries := by
  rcases LawfulLimitRequest.checkPending_cases allowed callback mark streams with
    ⟨-, -, runs⟩ | ⟨-, skips⟩
  · rw [runs, sends] at trades entry outbox
    have silent : [Output.restRequest kind path query].filterMap Output.tradesQuery? = [] := by
      cases kind with
      | trades => exact absurd rfl other
      | accounts | positions => rfl
    refine ⟨(congrArg LimitRequest.pending trades).trans state.pending,
      entry.trans state.orderEntry, ?_⟩
    rw [outbox, Streams.emit, List.filterMap_append, silent, List.append_nil, state.queries]
  · rw [skips] at trades entry outbox
    exact ⟨(congrArg LimitRequest.pending trades).trans state.pending,
      entry.trans state.orderEntry, by rw [outbox, state.queries]⟩

theorem OrderEntry.checkBalances_trades (config : Config) (allowed : Bool)
    (state : streams.TradesState pending orderEntry queries) :
    (OrderEntry.checkBalances config allowed streams).TradesState pending orderEntry queries :=
  state.of_checkPending allowed (OrderEntry.getAccounts config) streams.request.balances
    .accounts nofun rfl rfl rfl rfl

theorem OrderEntry.checkPositions_trades (config : Config) (allowed : Bool)
    (state : streams.TradesState pending orderEntry queries) :
    (OrderEntry.checkPositions config allowed streams).TradesState pending orderEntry queries :=
  state.of_checkPending allowed (OrderEntry.getPositions config) streams.request.positions
    .positions nofun rfl rfl rfl rfl

/-- A pending trades request is sent if the rate limiter lets it through, and is not pending
then. -/
theorem OrderEntry.checkTrades_trades (config : Config) (traceInfo : TraceInfo) (allowed : Bool)
    (state : streams.TradesState pending orderEntry queries) :
    (OrderEntry.checkTrades config traceInfo allowed streams).TradesState
      (pending && !allowed) orderEntry
      (queries ++ if allowed && pending then [fromQuery (traceInfo.originCreateTimeUtc -
        OrderEntry.getDownloadTradesLookback config.settings orderEntry.downloadTradesIsFirst)]
        else []) := by
  obtain ⟨rfl, rfl, rfl⟩ := state
  cases runs : allowed && LimitRequest.pending streams.request.trades with
  | true =>
    obtain ⟨rfl, asked⟩ := Bool.and_eq_true_iff.mp runs
    obtain ⟨mark, sends⟩ := LawfulLimitRequest.checkPending_runs
      (OrderEntry.getTrades config traceInfo) streams.request.trades streams asked
    simp only [OrderEntry.checkTrades, sends]
    refine ⟨by simpa using mark, rfl, ?_⟩
    simp [OrderEntry.getTrades, Streams.emit, Output.tradesQuery?, fromQuery]
  | false =>
    obtain ⟨mark, skips⟩ := LawfulLimitRequest.checkPending_skips allowed
      (OrderEntry.getTrades config traceInfo) streams.request.trades streams
      (by simpa using runs)
    simp only [OrderEntry.checkTrades, skips]
    refine ⟨mark.trans ?_, rfl, ?_⟩
    · cases allowed <;> simp_all
    · simp

/-- The REST connection's timer sends the trades request, or leaves it as it is. -/
theorem Session.orderEntryTimer_trades (config : Config)
    (traceInfo : TraceInfo) (refresh : Bool) (allowed : RestKind → Bool)
    (session : Session Driver Mark) :
    let sends := session.sendsTrades (.orderEntryTimer refresh allowed)
    (OrderEntry.timer config traceInfo refresh allowed session.streams).TradesState
      (session.asked && !sends) session.streams.orderEntry
      (session.streams.outbox.filterMap Output.tradesQuery? ++
        if sends then [fromQuery (traceInfo.originCreateTimeUtc -
          OrderEntry.getDownloadTradesLookback config.settings session.first)] else []) := by
  have state : session.streams.TradesState session.asked session.streams.orderEntry
      (session.streams.outbox.filterMap Output.tradesQuery?) := ⟨rfl, rfl, rfl⟩
  rw [OrderEntry.timer]
  split
  next runs =>
    have checked := OrderEntry.checkTrades_trades config traceInfo (allowed .trades)
      (OrderEntry.checkPositions_trades config (allowed .positions)
        (OrderEntry.checkBalances_trades config (allowed .accounts) state))
    simp only [Session.sendsTrades, runs.1, runs.2, decide_true, Bool.and_self, Bool.true_and]
    refine ⟨checked.pending.trans ?_, checked.orderEntry, checked.queries⟩
    cases session.asked <;> simp
  next idle =>
    have skips : session.sendsTrades (.orderEntryTimer refresh allowed) = false := by
      have unready : (refresh && decide (session.streams.orderEntry.connectionStatus = .ready)) =
          false := by
        rw [← Bool.not_eq_true, Bool.and_eq_true, decide_eq_true_iff]
        exact idle
      rw [Session.sendsTrades, unready, Bool.false_and]
    rw [skips]
    exact ⟨by simp [state.pending], rfl, by simp⟩

end Rest

variable [Download2 DropCopy.State Driver] [LawfulDownload2 DropCopy.State Driver]

/-- A call of the callback leaves the REST connection as it was. -/
theorem DropCopy.download_orderEntry_after (config : Config) (context : Context)
    (orderEntry : OrderEntry) (state : DropCopy.State) (sequence : UInt32)
    (streams : Streams Mark) (before : streams.orderEntry = orderEntry) :
    (DropCopy.download config context state sequence streams).1.orderEntry = orderEntry :=
  (DropCopy.download_orderEntry config context state sequence streams).trans before

theorem Session.begin_orderEntry (config : Config) (context : Context)
    (session : Session Driver Mark) :
    (session.begin config context).streams.orderEntry = session.streams.orderEntry :=
  LawfulDownload2.begin_keeps (fun moved => moved.orderEntry = session.streams.orderEntry)
    (DropCopy.download_orderEntry_after config context session.streams.orderEntry)
    session.download session.streams rfl

theorem Session.check_orderEntry (config : Config) (context : Context) (state : DropCopy.State)
    (session : Session Driver Mark) :
    (session.check config context state).streams.orderEntry = session.streams.orderEntry :=
  LawfulDownload2.check_keeps (fun moved => moved.orderEntry = session.streams.orderEntry)
    (DropCopy.download_orderEntry_after config context session.streams.orderEntry) state
    session.download session.streams rfl

theorem Session.checkRelaxed_orderEntry (config : Config) (context : Context)
    (state : DropCopy.State) (session : Session Driver Mark) :
    (session.checkRelaxed config context state).streams.orderEntry = session.streams.orderEntry :=
  LawfulDownload2.checkRelaxed_keeps (fun moved => moved.orderEntry = session.streams.orderEntry)
    (DropCopy.download_orderEntry_after config context session.streams.orderEntry) state
    session.download session.streams rfl

theorem Session.timer_orderEntry (config : Config) (context : Context) (refresh : Bool)
    (session : Session Driver Mark) :
    (session.timer config context refresh).streams.orderEntry = session.streams.orderEntry :=
  session.timer_keeps (fun moved => moved.orderEntry = session.streams.orderEntry)
    (DropCopy.download_orderEntry_after config context session.streams.orderEntry)
    (fun streams before =>
      (DropCopy.checkStaleOrders2_orderEntry config context streams).trans before)
    refresh rfl

/-- Trades count as downloaded once they were delivered, and never again as not downloaded. -/
theorem Session.handle_first [LawfulLimitRequest Mark] {config : Config} {context : Context}
    {session next : Session Driver Mark} {event : Event}
    (handled : session.handle config context event = .ok next) :
    next.first = (session.first && !event.downloadsTrades) := by
  have kept (unread : event.downloadsTrades = false)
      (same : next.streams.orderEntry = session.streams.orderEntry) :
      next.first = (session.first && !event.downloadsTrades) := by
    rw [unread, Bool.not_false, Bool.and_true, Session.first, same]
    rfl
  cases event with
  | timer refresh =>
    cases handled
    exact kept rfl (session.timer_orderEntry config context refresh)
  | connected | disconnected | ready | futuresSystem | modifyOrder | cancelOrder
  | tradeOrderCancelCp =>
    cases handled
    exact kept rfl rfl
  | orderEntryConnected | orderEntryDisconnected =>
    cases handled
    exact (Bool.and_true _).symm
  | binary => cases handled
  | tradeTrades message =>
    cases handled
    refine kept rfl (Streams.foldl_orderEntry (fun streams item => ?_) _ session.streams)
    simp only []
    split <;> rfl
  | tradePositions message =>
    cases handled
    refine kept rfl (Streams.foldl_orderEntry (fun streams item => ?_) _ session.streams)
    split <;> rfl
  | tradeBalances | cancelAllOrders =>
    cases handled
    exact kept rfl (Streams.foldl_orderEntry (fun _ _ => by rfl) _ session.streams)
  | createOrder messageInfo request order refData requestId =>
    cases handled
    refine kept rfl ?_
    simp only [Session.createOrder, Session.mapStreams]
    split <;> rfl
  | tradeLogin message =>
    refine kept rfl ?_
    simp only [Session.handle, Session.tradeLogin] at handled
    split at handled
    · split at handled <;> cases handled
      exact Session.begin_orderEntry config context _
    · split at handled <;> cases handled
      rfl
  | tradeSubscribe message =>
    refine kept rfl ?_
    simp only [Session.handle, Session.tradeSubscribe] at handled
    split at handled <;> cases handled
    split <;> first | rfl | exact session.check_orderEntry config context _
  | tradeOrders message =>
    obtain ⟨streams, published, handled⟩ := bind_ok.mp handled
    cases handled
    exact kept rfl (publishOrderUpdates_orderEntry published)
  | tradeOrderPlace message =>
    refine kept rfl ?_
    simp only [Session.handle, Session.tradeOrderPlace] at handled
    split at handled
    · split at handled
      · exact publishAccepted_orderEntry handled
      · cases handled
        rfl
    · cases handled
      rfl
  | tradeOrderAmend message =>
    refine kept rfl ?_
    simp only [Session.handle, Session.tradeOrderAmend] at handled
    split at handled
    · exact publishAccepted_orderEntry handled
    · cases handled
      rfl
  | tradeOrderCancel message =>
    refine kept rfl ?_
    simp only [Session.handle, Session.tradeOrderCancel] at handled
    split at handled
    · exact publishAccepted_orderEntry handled
    · cases handled
      rfl
  | tradeOrderList message =>
    obtain ⟨listed, published, handled⟩ := bind_ok.mp handled
    cases handled
    refine kept rfl (Eq.trans (Session.checkRelaxed_orderEntry ..) ?_)
    exact (DropCopy.checkStaleOrders_orderEntry context listed).trans
      (publishOrderUpdates_orderEntry published)
  | tradeOrderStatus query message =>
    refine kept rfl ?_
    obtain ⟨update, -, handled⟩ := bind_ok.mp handled
    have resolved : (update.elim session.streams fun update =>
        session.streams.emit (.orderUpdate update)).orderEntry = session.streams.orderEntry := by
      cases update <;> rfl
    simp only [] at handled
    split at handled
    · cases handled
    · split at handled <;> cases handled
      · exact (Session.checkRelaxed_orderEntry ..).trans resolved
      · exact resolved
  | orderEntryTimer refresh allowed =>
    cases handled
    exact kept rfl
      (session.orderEntryTimer_trades config context.traceInfo refresh allowed).orderEntry
  | accountsReply request response =>
    obtain ⟨streams, committed, handled⟩ := bind_ok.mp handled
    obtain ⟨body, -, committed⟩ := bind_ok.mp committed
    cases handled
    cases committed
    exact kept rfl rfl
  | positionsReply request response =>
    obtain ⟨streams, committed, handled⟩ := bind_ok.mp handled
    obtain ⟨body, -, committed⟩ := bind_ok.mp committed
    cases handled
    cases committed
    refine kept rfl ?_
    cases body with
    | none => rfl
    | some message =>
      refine Streams.foldl_orderEntry (fun streams item => ?_) message.data session.streams
      split <;> rfl
  | tradesReply request response =>
    obtain ⟨streams, committed, handled⟩ := bind_ok.mp handled
    obtain ⟨body, processed, committed⟩ := bind_ok.mp committed
    cases handled
    cases committed
    rw [Event.downloadsTrades, ← OrderEntry.processResponse_eq processed]
    cases body with
    | none => exact (Bool.and_true _).symm
    | some message => exact (Bool.and_false _).symm

/-! ### The marks -/

/-- An event that neither answers nor sends a REST request leaves the marks as they are, except
that entering a stage asks for the request the stage waits for. -/
theorem Session.handle_request [LawfulLimitRequest Mark] {config : Config} {context : Context}
    {session next : Session Driver Mark} {event : Event}
    (handled : session.handle config context event = .ok next)
    (unanswered : event.restReply = none) (unsent : OutputKind.restRequest ∉ event.kinds) :
    (next.state = session.state ∨ next.state = .undefined) ∧
        next.streams.request = session.streams.request ∨
      (next.state = .subscribeBalances ∨ ∃ counter,
          next.state = DropCopy.nextStage config.settings.tradesLookback counter session.state) ∧
        next.streams.request = session.streams.request.enter next.state := by
  cases Session.handles handled with
  | quiet quiet download emits =>
    exact Or.inl ⟨Or.inl (congrArg Download2.state download), emits.request⟩
  | replies reply delivers => cases delivers.symm.trans unanswered
  | timer refresh =>
    obtain ⟨middle, moved, download, clientOrderIds, queries, -⟩ :=
      session.timer_cases config context refresh
    have state := congrArg Download2.state download
    rcases moved with stays | ⟨kind, current, -, enters⟩
    · exact Or.inl ⟨Or.inl (state.trans stays.state),
        queries.request.trans (congrArg Streams.request stays.streams)⟩
    · refine Or.inr ⟨Or.inr ⟨_, state.trans enters.state⟩, ?_⟩
      rw [queries.request, enters.streams.request, ← enters.state]
      exact congrArg (Request.enter · session.streams.request) state.symm
  | disconnected => exact Or.inl ⟨Or.inr (LawfulDownload2.state_reset _), rfl⟩
  | ready => exact Or.inl ⟨Or.inl rfl, rfl⟩
  | tradeLogin handled =>
    rcases Session.tradeLogin_cases handled with ⟨download, emits⟩ | enters
    · exact Or.inl ⟨Or.inl (congrArg Download2.state download), emits.request⟩
    · exact Or.inr ⟨Or.inl enters.state, enters.state ▸ enters.streams.request⟩
  | tradeSubscribe handled =>
    rcases Session.tradeSubscribe_cases handled with ⟨-, stays⟩ | ⟨-, -, enters⟩
    · exact Or.inl ⟨Or.inl stays.state, congrArg Streams.request stays.streams⟩
    · exact Or.inr ⟨Or.inr ⟨_, enters.state⟩, enters.state ▸ enters.streams.request⟩
  | tradeOrderList handled =>
    obtain ⟨listed, queried, emits, queries, moved⟩ := Session.tradeOrderList_cases handled
    have marks : queried.request = session.streams.request := queries.request.trans emits.request
    rcases moved with ⟨-, stays⟩ | ⟨-, enters⟩
    · exact Or.inl ⟨Or.inl stays.state, (congrArg Streams.request stays.streams).trans marks⟩
    · exact Or.inr ⟨Or.inr ⟨_, enters.state⟩, enters.state ▸ marks ▸ enters.streams.request⟩
  | tradeOrderStatus query handled =>
    obtain ⟨update, -, -, moved⟩ := Session.tradeOrderStatus_cases handled
    have marks : (session.streams.resolve update).request =
        session.streams.request := by
      cases update <;> rfl
    rcases moved with ⟨stays, -⟩ | ⟨⟨-, current⟩, enters⟩
    · exact Or.inl ⟨Or.inl stays.state, (congrArg Streams.request stays.streams).trans marks⟩
    · have current : session.state = .getStaleOrders := current
      refine Or.inr ⟨Or.inr ⟨0, ?_⟩, enters.state ▸ marks ▸ enters.streams.request⟩
      rw [enters.state, current]
      rfl
  | orderEntryTimer => exact absurd (by simp [Event.kinds]) unsent

omit [LawfulDownload2 DropCopy.State Driver] in
/-- A reply leaves the mark of the trades alone, or commits it. -/
theorem handle_reply_trades [LawfulLimitRequest Mark] {config : Config} {context : Context}
    {session next : Session Driver Mark} {event : Event} {reply : RestReply}
    (delivers : event.restReply = some reply)
    (handled : session.handle config context event = .ok next) :
    next.streams.request.trades =
      if reply.kind = .trades then LimitRequest.commit session.streams.request.trades
      else session.streams.request.trades := by
  cases event <;> cases delivers
  all_goals
    obtain ⟨streams, committed, handled⟩ := bind_ok.mp handled
    obtain ⟨body, -, committed⟩ := bind_ok.mp committed
    cases handled
    cases committed
  · rfl
  · have emits := Streams.Emits.elim
      (fun message => OrderEntry.positions_emits config context message session.streams) body
    have same := congrArg Request.trades emits.request
    exact same
  · cases body with
    | none => rfl
    | some message =>
      have emits := OrderEntry.userTrades_emits config context message session.streams
      have same := congrArg (fun request => LimitRequest.commit request.trades) emits.request
      exact same

/-- In `GET_TRADES`, the request stays asked for until it is sent. -/
theorem Session.handle_asked [LawfulLimitRequest Mark] {config : Config} {context : Context}
    {session next : Session Driver Mark} {event : Event}
    (handled : session.handle config context event = .ok next)
    (unanswered : event.restReply = none) (current : session.state = .getTrades)
    (stays : next.state = .getTrades) :
    next.asked = (session.asked && !session.sendsTrades event) := by
  by_cases unsent : OutputKind.restRequest ∉ event.kinds
  · rw [session.sendsTrades_none unsent, Bool.not_false, Bool.and_true]
    rcases Session.handle_request handled unanswered unsent with
      ⟨-, same⟩ | ⟨moves | ⟨counter, moves⟩, -⟩
    · exact congrArg (fun request => LimitRequest.pending request.trades) same
    · cases stays.symm.trans moves
    · rw [current] at moves
      cases stays.symm.trans moves
  · cases event with
    | orderEntryTimer refresh allowed =>
      cases handled
      exact (session.orderEntryTimer_trades config context.traceInfo refresh allowed).pending
    | _ => exact absurd (by simp [Event.kinds]) unsent

/-- Entering `GET_TRADES` asks for the trades. -/
theorem Session.handle_enters_trades [LawfulLimitRequest Mark] {config : Config}
    {context : Context} {session next : Session Driver Mark} {event : Event}
    (handled : session.handle config context event = .ok next)
    (unanswered : event.restReply = none) (unsent : OutputKind.restRequest ∉ event.kinds)
    (enters : next.state = .getTrades) (elsewhere : session.state ≠ .getTrades) :
    next.asked = true := by
  rcases Session.handle_request handled unanswered unsent with ⟨stays | resets, -⟩ | ⟨-, marks⟩
  · exact absurd (stays.symm.trans enters) elsewhere
  · cases enters.symm.trans resets
  · rw [Session.asked, marks, enters]
    exact LawfulLimitRequest.pending_request session.streams.request.trades

/-- The trades queries of a step are the one the REST connection's timer sends. -/
theorem Session.step_tradesQueries [LawfulLimitRequest Mark] {config : Config}
    {session next : Session Driver Mark} {input : Input} {outputs : List Output}
    (taken : session.step config input = .ok (next, outputs)) :
    outputs.filterMap Output.tradesQuery? = if session.sendsTrades input.event then
      [fromQuery (input.context.traceInfo.originCreateTimeUtc -
        OrderEntry.getDownloadTradesLookback config.settings session.first)] else [] := by
  by_cases unsent : OutputKind.restRequest ∉ input.event.kinds
  · rw [Session.step_selects taken Output.tradesQuery_kind unsent,
      session.sendsTrades_none unsent]
    rfl
  · obtain ⟨handled, rfl⟩ := Session.step_ok taken
    obtain ⟨context, event⟩ := input
    cases event with
    | orderEntryTimer refresh allowed =>
      cases handled
      exact (session.clearOutbox.orderEntryTimer_trades config context.traceInfo refresh
        allowed).queries
    | _ => exact absurd (by simp [Event.kinds]) unsent

/-! ### Where the two decisions agree -/

/-- A session with a look-back makes one trades request before it publishes `READY`, for the
trades from that far back; and it skips `GET_TRADES` only if it has no look-back. -/
def RequestsLookback (config : Config) :
    StepProperty (Session Driver Mark) Input (List Output) := fun history entry =>
  PublishesReady entry.output → ∃ lookback ∈ effectiveLookback config.settings history,
    (lookback ≠ 0 → ∃ time, tradesRequests history = [(time, fromQuery (time - lookback))]) ∧
    (stage entry ≠ .getTrades → lookback = 0)

/-- The session has begun, and has not come to `GET_TRADES`. -/
def Session.Subscribing (session : Session Driver Mark) : Prop :=
  session.state ≠ .undefined ∧ session.state ≠ .getTrades ∧ session.state ≠ .done

instance (session : Session Driver Mark) : Decidable session.Subscribing :=
  inferInstanceAs (Decidable (_ ∧ _))

/-- A step that keeps the session's look-back: it does not skip `GET_TRADES` with a look-back on
restart to come, and until the session has sent its trades request, none that was left over is
sent, none delivers trades that change the look-back, and none is answered in `GET_TRADES`. -/
def KeepsLookback (config : Config) : Environment (Session Driver Mark) Input (List Output) :=
  fun _ session input =>
    (session.state = .subscribeTrades → input.event.advances session.state →
      config.settings.tradesLookback = 0 →
      OrderEntry.getDownloadTradesLookback config.settings session.first = 0) ∧
    (session.Subscribing → session.sendsTrades input.event = false) ∧
    (session.Subscribing → input.event.downloadsTrades = true →
      OrderEntry.getDownloadTradesLookback config.settings session.first =
        OrderEntry.getDownloadTradesLookback config.settings false) ∧
    (session.state = .getTrades → session.asked = true →
      ∀ reply ∈ input.event.restReply, reply.kind ≠ .trades)

instance (config : Config) (history : AccountHistory Driver Mark)
    (session : Session Driver Mark) (input : Input) :
    Decidable (KeepsLookback config history session input) :=
  inferInstanceAs (Decidable (_ ∧ _ ∧ _ ∧ _))

/-! ### The invariant -/

/-- The session has begun, and has not sent its trades request. -/
def Session.Unsent (session : Session Driver Mark) : Prop :=
  session.Subscribing ∨ session.state = .getTrades ∧ session.asked = true

/-- Until a session's trades request is sent it has its look-back to come, and no response;
then it was sent once. -/
structure LookbackInvariant (config : Config) (history : AccountHistory Driver Mark)
    (session : Session Driver Mark) : Prop where
  first : session.first = !downloaded history
  unsent : session.Unsent → effectiveLookback config.settings history =
      some (OrderEntry.getDownloadTradesLookback config.settings session.first) ∧
    tradesRequests history = []
  unanswered : session.state = .getTrades → session.asked = true →
    session.responses .trades = false
  sent : session.state = .getTrades → session.asked = false →
    ∃ lookback ∈ effectiveLookback config.settings history,
      ∃ time, tradesRequests history = [(time, fromQuery (time - lookback))]

theorem LookbackInvariant.initial (config : Config) :
    LookbackInvariant config [] (Session.initial : Session Driver Mark) := by
  have state : (Session.initial : Session Driver Mark).state = .undefined :=
    LawfulDownload2.state_initial
  have elsewhere : (Session.initial : Session Driver Mark).state ≠ .getTrades := by
    rw [state]
    decide
  refine ⟨rfl, fun unsent => ?_, fun current => absurd current elsewhere,
    fun current => absurd current elsewhere⟩
  rcases unsent with subscribing | ⟨current, -⟩
  · exact absurd state subscribing.1
  · exact absurd current elsewhere

omit [LawfulDownload2 DropCopy.State Driver] in
/-- Before a session comes to `GET_TRADES`, the stage it leaves was one of the same session. -/
theorem nextStage_subscribing {tradesLookback : Int} {counter : Nat}
    {session next : Session Driver Mark}
    (moves : next.state = DropCopy.nextStage tradesLookback counter session.state)
    (restarts : next.state ≠ .subscribeBalances) (unsent : next.Unsent) :
    session.Subscribing := by
  have unfinished : next.state ≠ .done := by
    rcases unsent with subscribing | ⟨current, -⟩
    · exact subscribing.2.2
    · rw [current]
      decide
  refine ⟨fun same => ?_, fun same => ?_, fun same => ?_⟩ <;> rw [same] at moves
  · exact restarts moves
  · exact unfinished moves
  · exact unfinished moves

/-- The flag is what the history says, after every step. -/
theorem LookbackInvariant.step_first [LawfulLimitRequest Mark] {config : Config}
    {history : AccountHistory Driver Mark} {session next : Session Driver Mark} {input : Input}
    {outputs : List Output} (invariant : LookbackInvariant config history session)
    (taken : session.step config input = .ok (next, outputs)) :
    next.first = (session.first && !input.event.downloadsTrades) ∧
      next.first = !downloaded (⟨session, input, outputs⟩ :: history) := by
  obtain ⟨handled, -⟩ := Session.step_ok taken
  have flag := Session.handle_first handled
  refine ⟨flag, flag.trans ?_⟩
  rw [downloaded, List.any_cons, Bool.not_or, Bool.and_comm]
  exact congrArg (_ && ·) invariant.first

variable [LawfulLimitRequest Mark] {config : Config} {history : AccountHistory Driver Mark}
  {session next : Session Driver Mark} {input : Input} {outputs : List Output}

/-- A step that stays in its stage sends the trades request, or leaves all as it is. -/
theorem LookbackInvariant.stays (invariant : LookbackInvariant config history session)
    (keeps : KeepsLookback config history session input)
    (taken : session.step config input = .ok (next, outputs))
    (connected : input.event.isDisconnected = false) (unanswered : input.event.restReply = none)
    (state : next.state = session.state) (responses : next.responses = session.responses)
    (silent : Silent outputs) :
    LookbackInvariant config (⟨session, input, outputs⟩ :: history) next := by
  obtain ⟨handled, -⟩ := Session.step_ok taken
  obtain ⟨flag, first⟩ := invariant.step_first taken
  rw [Event.downloadsTrades_answered unanswered, Bool.not_false, Bool.and_true] at flag
  have lookback : effectiveLookback config.settings (⟨session, input, outputs⟩ :: history) =
      effectiveLookback config.settings history := effectiveLookback_silent connected silent
  have requests : tradesRequests (⟨session, input, outputs⟩ :: history) = _ :=
    tradesRequests_silent connected silent
  rw [show (⟨session, input, outputs⟩ : AccountEntry Driver Mark).output = outputs from rfl,
    Session.step_tradesQueries taken] at requests
  have asked (current : session.state = .getTrades) :
      next.asked = (session.asked && !session.sendsTrades input.event) := by
    have kept := Session.handle_asked handled unanswered current (state.trans current)
    exact kept
  cases sends : session.sendsTrades input.event with
  | false =>
    simp only [sends, Bool.not_false, Bool.and_true] at asked
    simp only [sends, Bool.false_eq_true, if_false, List.map_nil, List.nil_append] at requests
    refine ⟨first, fun unsent => ?_, fun current waiting => ?_, fun current sent => ?_⟩
    · rw [lookback, requests, flag]
      refine invariant.unsent ?_
      rcases unsent with subscribing | ⟨current, waiting⟩
      · exact Or.inl (by simpa [Session.Subscribing, state] using subscribing)
      · have current := state.symm.trans current
        exact Or.inr ⟨current, (asked current).symm.trans waiting⟩
    · have current := state.symm.trans current
      rw [responses]
      exact invariant.unanswered current ((asked current).symm.trans waiting)
    · have current := state.symm.trans current
      rw [lookback, requests]
      exact invariant.sent current ((asked current).symm.trans sent)
  | true =>
    -- Only a session that has come to `GET_TRADES` may send it, and then it is its own.
    simp only [sends, Bool.not_true, Bool.and_false] at asked
    have unsubscribed : ¬ session.Subscribing := fun subscribing =>
      Bool.noConfusion (sends.symm.trans (keeps.2.1 subscribing))
    refine ⟨first, fun unsent => ?_, fun current waiting => ?_, fun current sent => ?_⟩
    · rcases unsent with subscribing | ⟨current, waiting⟩
      · exact absurd (by simpa [Session.Subscribing, state] using subscribing) unsubscribed
      · exact Bool.noConfusion (waiting.symm.trans (asked (state.symm.trans current)))
    · exact Bool.noConfusion (waiting.symm.trans (asked (state.symm.trans current)))
    · obtain ⟨effective, none⟩ := invariant.unsent
        (Or.inr ⟨state.symm.trans current, Session.sendsTrades_asked sends⟩)
      refine ⟨_, lookback.trans effective, input.context.traceInfo.originCreateTimeUtc, ?_⟩
      rw [requests, none, sends]
      rfl

/-- A reply leaves all as it is, unless it delivers trades, and then it leaves the look-back as
it is. -/
theorem LookbackInvariant.commits [LawfulCommit Mark]
    (invariant : LookbackInvariant config history session)
    (keeps : KeepsLookback config history session input)
    (taken : session.step config input = .ok (next, outputs)) {reply : RestReply}
    (connected : input.event.isDisconnected = false)
    (answered : input.event.restReply = some reply) (state : next.state = session.state)
    (responses : next.responses =
      fun other => if other = reply.kind then true else session.responses other)
    (silent : Silent outputs) :
    LookbackInvariant config (⟨session, input, outputs⟩ :: history) next := by
  obtain ⟨-, -, delivers, answers⟩ := keeps
  obtain ⟨handled, -⟩ := Session.step_ok taken
  obtain ⟨flag, first⟩ := invariant.step_first taken
  have lookback : effectiveLookback config.settings (⟨session, input, outputs⟩ :: history) =
      effectiveLookback config.settings history := effectiveLookback_silent connected silent
  have requests : tradesRequests (⟨session, input, outputs⟩ :: history) =
      tradesRequests history := by
    rw [tradesRequests_silent connected silent]
    show (outputs.filterMap Output.tradesQuery?).map _ ++ _ = _
    rw [Session.step_tradesQueries taken, session.sendsTrades_none (Event.reply_unsent answered)]
    rfl
  have mark := handle_reply_trades answered handled
  have asked (current : session.state = .getTrades) : next.asked = session.asked := by
    rw [Session.asked, mark]
    split
    next ofTrades =>
      have idle : session.asked = false := by
        rw [← Bool.not_eq_true]
        exact fun waiting => answers current waiting reply answered ofTrades
      rw [idle]
      exact LawfulCommit.pending_commit _ idle
    next => rfl
  have other (current : session.state = .getTrades) (waiting : session.asked = true) :
      reply.kind ≠ .trades := answers current waiting reply answered
  refine ⟨first, fun unsent => ?_, fun current waiting => ?_, fun current sent => ?_⟩
  · rw [lookback, requests]
    rcases unsent with subscribing | ⟨current, waiting⟩
    · have subscribing : session.Subscribing := by
        simpa [Session.Subscribing, state] using subscribing
      obtain ⟨effective, none⟩ := invariant.unsent (Or.inl subscribing)
      refine ⟨effective.trans (congrArg some ?_), none⟩
      cases downloads : input.event.downloadsTrades with
      | false => rw [flag, downloads, Bool.not_false, Bool.and_true]
      | true =>
        rw [flag, downloads, Bool.not_true, Bool.and_false]
        exact delivers subscribing downloads
    · have current := state.symm.trans current
      have waiting := (asked current).symm.trans waiting
      rw [flag, Event.downloadsTrades_kind answered (other current waiting), Bool.not_false,
        Bool.and_true]
      exact invariant.unsent (Or.inr ⟨current, waiting⟩)
  · have current := state.symm.trans current
    have waiting := (asked current).symm.trans waiting
    rw [responses]
    exact (if_neg (other current waiting).symm).trans (invariant.unanswered current waiting)
  · have current := state.symm.trans current
    rw [lookback, requests]
    exact invariant.sent current ((asked current).symm.trans sent)

/-- A step that begins a session fixes its look-back; one that moves on within a session leaves
it, and asks for the trades when it enters `GET_TRADES`. -/
theorem LookbackInvariant.enters (invariant : LookbackInvariant config history session)
    (taken : session.step config input = .ok (next, outputs)) {stage : DropCopy.State}
    (connected : input.event.isDisconnected = false) (unanswered : input.event.restReply = none)
    (cause : stage = .subscribeBalances ∨ session.Advances config input.event next stage)
    (state : next.state = stage)
    (responses : next.responses =
      fun kind => if kind.stage = stage then false else session.responses kind)
    (announced : Announces stage outputs) :
    LookbackInvariant config (⟨session, input, outputs⟩ :: history) next := by
  obtain ⟨handled, -⟩ := Session.step_ok taken
  obtain ⟨flag, first⟩ := invariant.step_first taken
  have entered : EntersStage .subscribeBalances outputs ↔ .subscribeBalances = stage :=
    announced.enters_stage (by decide)
  by_cases begins : stage = .subscribeBalances
  · have entered := entered.mpr begins.symm
    have elsewhere : next.state ≠ .getTrades := by
      rw [state, begins]
      decide
    refine ⟨first, fun _ => ⟨?_, ?_⟩, fun current => absurd current elsewhere,
      fun current => absurd current elsewhere⟩
    · rw [flag, invariant.first, Event.downloadsTrades_answered unanswered, Bool.not_false,
        Bool.and_true]
      simp [effectiveLookback, connected, entered]
    · simp [tradesRequests, connected, entered]
  · have advances := cause.resolve_left begins
    have unsent := Event.advances_sends_none advances.event
    have other : ¬ EntersStage .subscribeBalances outputs := fun enters =>
      begins (entered.mp enters).symm
    have within (awaits : next.Unsent) : session.Subscribing :=
      nextStage_subscribing (state.trans advances.stage) (state ▸ begins) awaits
    refine ⟨first, fun awaits => ?_, fun current _ => ?_, fun current sent => ?_⟩
    · rw [flag, Event.downloadsTrades_answered unanswered, Bool.not_false, Bool.and_true]
      obtain ⟨effective, none⟩ := invariant.unsent (Or.inl (within awaits))
      refine ⟨?_, ?_⟩
      · simpa [effectiveLookback, connected, other] using effective
      · simpa [tradesRequests, connected, other, none, Session.step_tradesQueries taken] using
          session.sendsTrades_none unsent
    · rw [responses]
      exact if_pos (current.symm.trans state)
    · have elsewhere : session.state ≠ .getTrades := fun same => by
        have moves := advances.stage
        rw [same] at moves
        cases (current.symm.trans state).trans moves
      have asked := Session.handle_enters_trades handled unanswered unsent current elsewhere
      exact Bool.noConfusion (sent.symm.trans asked)

theorem LookbackInvariant.step [LawfulCommit Mark]
    (invariant : LookbackInvariant config history session)
    (keeps : KeepsLookback config history session input)
    (taken : session.step config input = .ok (next, outputs)) :
    LookbackInvariant config (⟨session, input, outputs⟩ :: history) next := by
  cases Session.step_stage taken with
  | stays connected unanswered state responses silent =>
    exact invariant.stays keeps taken connected unanswered state responses silent
  | commits reply connected answered state responses silent =>
    exact invariant.commits keeps taken connected answered state responses silent
  | resets disconnected unanswered state silent =>
    have elsewhere : next.state ≠ .getTrades := by
      rw [state]
      decide
    refine ⟨(invariant.step_first taken).2, fun unsent => ?_,
      fun current => absurd current elsewhere, fun current => absurd current elsewhere⟩
    rcases unsent with subscribing | ⟨current, -⟩
    · exact absurd state subscribing.1
    · exact absurd current elsewhere
  | enters stage connected unanswered cause state responses announced =>
    exact invariant.enters taken connected unanswered cause state responses announced

/-! ### Runs -/

/-- Which stages `READY` is published from. -/
theorem nextStage_done {tradesLookback : Int} {counter : Nat} {state : DropCopy.State}
    (unfinished : state ≠ .done)
    (done : DropCopy.nextStage tradesLookback counter state = .done) :
    state = .getTrades ∨ state = .subscribeTrades ∧ tradesLookback = 0 := by
  by_cases none : counter = 0 <;> by_cases skipped : tradesLookback = 0 <;>
    cases state <;> simp_all [DropCopy.nextStage]

/-- In a run whose steps keep the look-back of their sessions, every session with a look-back
makes one trades request before it is `READY`, from that far back, and a session skips
`GET_TRADES` only if it has none. -/
theorem lookback_requested [LawfulCommit Mark] (config : Config)
    (history : AccountHistory Driver Mark) (session : Session Driver Mark)
    (run : (account config).Run anyInput history session)
    (keep : History.Always
      (fun before entry => KeepsLookback config before entry.before entry.input) history) :
    History.Always (RequestsLookback config) history := by
  refine (run.restrict keep).always ?_
  intro history session input next outputs run admitted taken ready
  have invariant : LookbackInvariant config history session :=
    run.invariant (LookbackInvariant config) (.initial config)
      fun history session input next outputs invariant admitted taken =>
        invariant.step admitted.2 taken
  cases Session.step_stage taken with
  | stays _ _ _ _ silent => exact absurd ready silent.not_ready
  | commits _ _ _ _ _ silent => exact absurd ready silent.not_ready
  | resets _ _ _ silent => exact absurd ready silent.not_ready
  | enters stage _ _ cause _ _ announced =>
    obtain rfl := announced.ready_iff.mp ready
    have advances := cause.resolve_left (by decide)
    rcases nextStage_done (Event.advances_unfinished advances.event) advances.stage.symm with
      current | ⟨current, skipped⟩
    · have answered := advances.responded .trades current
      have sent : session.asked = false := by
        rw [← Bool.not_eq_true]
        exact fun waiting =>
          Bool.noConfusion (answered.symm.trans (invariant.unanswered current waiting))
      obtain ⟨lookback, effective, requested⟩ := invariant.sent current sent
      exact ⟨lookback, effective, fun _ => requested, fun skips => absurd current skips⟩
    · have subscribing : session.Subscribing := by
        rw [Session.Subscribing, current]
        decide
      obtain ⟨effective, -⟩ := invariant.unsent (Or.inl subscribing)
      have none := admitted.2.1 current advances.event skipped
      exact ⟨_, effective, fun some => absurd none some, fun _ => none⟩

/-- The plain account with the given look-backs. -/
def lookbackConfig (tradesLookback tradesLookbackOnRestart : Int) : Config where
  settings := { plainConfig.settings with tradesLookback, tradesLookbackOnRestart }
  account := plainConfig.account
  api := plainConfig.api
  dropCopyStreamId := plainConfig.dropCopyStreamId
  orderEntryStreamId := plainConfig.orderEntryStreamId
  sign := plainConfig.sign
  computeProfitLossAmount := plainConfig.computeProfitLossAmount

/-- The plain account's download up to the acknowledged subscription of its trades. -/
def plainSubscribed : List Input :=
  plainDownload (.result .success 200 (some ())) (.result .success 200 (some ⟨[]⟩)) [] ++
    plainInputs [.tradeSubscribe ⟨.usertrades, .success⟩]

/-- The plain account's download with a trades request, answered as given. -/
def plainTrades (response : RestResponse UserTrades) : List Input :=
  plainSubscribed ++ plainInputs [.orderEntryTimer true fun _ => true,
    .tradesReply ⟨.trades, 14⟩ response, .timer true]

/-- A first download looks back as far as configured for a restart, and one after a reconnect as
far as configured. -/
theorem lookback_requested_plain : ∃ history session,
    (account (lookbackConfig 60000000000 3600000000000) :
      Machine (Session (PlainDownload DropCopy.State) PlainRequest) _ _ _).replay
        (plainTrades (.result .success 200 (some ⟨[]⟩)) ++ plainInputs [.disconnected] ++
          plainTrades .networkError) = .ok (history, session) ∧
    session.ready = true ∧
    History.Always (RequestsLookback (lookbackConfig 60000000000 3600000000000)) history :=
  ⟨_, _, rfl, rfl, lookback_requested (lookbackConfig 60000000000 3600000000000) _ _
    (.of_replay (plainTrades (.result .success 200 (some ⟨[]⟩)) ++ plainInputs [.disconnected] ++
      plainTrades .networkError) rfl (History.always_of_forall (fun _ _ => trivial) _))
    (by decide)⟩

/-- With a look-back on restart only, the first session is `READY` without having asked for the
trades. -/
theorem restart_lookback_skipped : ∃ history session,
    (account (lookbackConfig 0 3600000000000) :
      Machine (Session (PlainDownload DropCopy.State) PlainRequest) _ _ _).Run anyInput history
        session ∧
    ¬ History.Always (RequestsLookback (lookbackConfig 0 3600000000000)) history := by
  refine ⟨_, _, .of_replay plainSubscribed rfl (History.always_of_forall (fun _ _ => trivial) _),
    ?_⟩
  intro always
  obtain ⟨lookback, effective, -, skips⟩ := always.1 (by decide)
  cases effective
  exact absurd (skips (by decide)) (by decide)

end GateFutures.Gateway
