/-
This file proves that the trading connection can always get ready.

Whatever happened before, a run can go on to `READY` with an exchange that answers what it is
asked. A download that is under way can get there without being started over. The induction is on
the stages that are left, and on the stale orders that are unanswered.
-/

import GateFutures.Gateway.Downloaded
import GateFutures.Gateway.Waiting

namespace GateFutures.Gateway

open Framework Library Protocol Roq

variable {Driver Mark : Type}

/-! ### Cooperation -/

/-- The channel of a frame that an event answers. -/
def Event.answers : Event → Option String
  | .tradeLogin _ => some "futures.login"
  | .tradeSubscribe message => (subscribeStage message.channel).bind DropCopy.State.channel
  | .tradeOrderList _ => some "futures.order_list"
  | _ => none

variable [Download2 DropCopy.State Driver]

/-- The exchange answers what it is asked: over the trading connection, frames that were sent over
it, and otherwise requests and queries that are unanswered. -/
def Cooperates : Environment (Session Driver Mark) Input (List Output) :=
  fun history session input => RepliesAnswer history session input ∧
    ∀ channel ∈ input.event.answers, ∃ frame ∈ sessionFrames history, frame.channel = channel

instance (history : AccountHistory Driver Mark) (session : Session Driver Mark)
    (input : Input) : Decidable (Cooperates history session input) :=
  inferInstanceAs (Decidable (_ ∧ ∀ channel ∈ input.event.answers, _))

variable [LimitRequest Mark]

/-- A run goes on, with what the host answers given, and without losing the trading connection. -/
structure GoesOn (config : Config) (context : Context) (history later : AccountHistory Driver Mark)
    (next : Session Driver Mark) : Prop where
  run : (account config).Run Cooperates (later ++ history) next
  kept : ∀ entry ∈ later, entry.input.context = context ∧
    entry.input.event.isDisconnected = false

section Steps

variable {config : Config} {context : Context} {history later : AccountHistory Driver Mark}
  {session next : Session Driver Mark}

theorem GoesOn.refl (run : (account config).Run Cooperates history session) :
    GoesOn config context history [] session :=
  ⟨run, List.forall_mem_nil _⟩

theorem GoesOn.trans {latest : AccountHistory Driver Mark} {last : Session Driver Mark}
    (first : GoesOn config context history later next)
    (second : GoesOn config context (later ++ history) latest last) :
    GoesOn config context history (latest ++ later) last := by
  refine ⟨?_, fun entry member => ?_⟩
  · rw [List.append_assoc]
    exact second.run
  · exact (List.mem_append.mp member).elim (second.kept entry) (first.kept entry)

/-- An event that is handled is one more step. -/
theorem GoesOn.handle (run : (account config).Run Cooperates history session) {event : Event}
    (cooperates : Cooperates history session ⟨context, event⟩)
    (connected : event.isDisconnected = false)
    (handled : session.clearOutbox.handle config context event = .ok next) :
    GoesOn config context history [⟨session, ⟨context, event⟩, next.streams.outbox⟩] next := by
  refine ⟨.step run cooperates ?_, List.forall_mem_singleton.mpr ⟨rfl, connected⟩⟩
  show session.step config ⟨context, event⟩ = _
  rw [Session.step, handled]
  rfl

end Steps

/-! ### Stages -/

/-- A later stage was entered. -/
structure Later (session next : Session Driver Mark) : Prop where
  rank : session.state.rank < next.state.rank
  ready : next.state = .done → next.ready = true

theorem Later.of_enters {config : Config} {session middle next : Session Driver Mark}
    (unfinished : session.state ≠ .done) (enters : middle.Enters (middle.nextStage config) next)
    (same : middle.state = session.state) : Later session next := by
  refine ⟨?_, fun last => ?_⟩
  · rw [enters.state, Session.nextStage, same]
    exact nextStage_rank _ _ unfinished
  · have status := enters.streams.connectionStatus
    rw [← enters.state, last] at status
    exact decide_eq_true status

section Stages

variable [LawfulLimitRequest Mark] [LawfulDownload2 DropCopy.State Driver] {config : Config}
  {history : AccountHistory Driver Mark} {session : Session Driver Mark}

omit [LimitRequest Mark] [LawfulLimitRequest Mark] [LawfulDownload2 DropCopy.State Driver] in
/-- An event that answers no request and no query has to answer a frame, if anything. -/
theorem Cooperates.of_frames {context : Context} {event : Event}
    (unanswered : event.restReply = none) (unqueried : event.statusReply = none)
    (frames : ∀ channel ∈ event.answers, ∃ frame ∈ sessionFrames history, frame.channel = channel) :
    Cooperates history session ⟨context, event⟩ := by
  refine And.intro (And.intro (fun reply replied => ?_) fun reply replied => ?_) frames
  · cases replied.symm.trans unanswered
  · cases replied.symm.trans unqueried

omit [LimitRequest Mark] [LawfulLimitRequest Mark] [LawfulDownload2 DropCopy.State Driver] in
/-- An event that answers nothing may always come. -/
theorem Cooperates.of_silent {context : Context} {event : Event}
    (unanswered : event.restReply = none) (unqueried : event.statusReply = none)
    (silent : event.answers = none) : Cooperates history session ⟨context, event⟩ :=
  .of_frames unanswered unqueried fun _ answered => by cases silent.symm.trans answered

theorem waits_of_run (run : (account config).Run Cooperates history session) :
    Waits history session :=
  .of_run (run.weaken fun _ _ _ cooperates => cooperates.1.1)

theorem unanswered_of_run (run : (account config).Run Cooperates history session) :
    session.counter = (unanswered history).length :=
  (StaleInvariant.of_run (run.weaken fun _ _ _ cooperates => cooperates.1.2)).counted

/-- An acknowledgement ends the stage of a subscription. -/
theorem goes_on_subscribe (channel : Channel)
    (run : (account config).Run Cooperates history session) (context : Context)
    (current : subscribeStage channel = some session.state) :
    ∃ later next, GoesOn config context history later next ∧ Later session next := by
  have unfinished : session.state ≠ .done := fun last =>
    subscribeStage_unfinished channel (current.trans (congrArg some last))
  obtain ⟨next, handled⟩ : ∃ next, session.clearOutbox.handle config context
      (.tradeSubscribe ⟨channel, .success⟩) = .ok next := ⟨_, rfl⟩
  refine ⟨_, next, .handle run (.of_frames rfl rfl fun spoken asked => ?_) rfl handled, ?_⟩
  · refine (waits_of_run run).frames spoken ?_
    simp only [Event.answers, current] at asked
    exact asked
  · rcases Session.tradeSubscribe_cases handled with ⟨other, -⟩ | ⟨-, -, enters⟩
    · exact absurd current other
    · exact .of_enters unfinished enters rfl

/-- The list of orders ends its stage. -/
theorem goes_on_orders (run : (account config).Run Cooperates history session)
    (context : Context) (current : session.state = .getOpenOrders) :
    ∃ later next, GoesOn config context history later next ∧ Later session next := by
  obtain ⟨next, handled⟩ : ∃ next, session.clearOutbox.handle config context
      (.tradeOrderList ⟨[]⟩) = .ok next := ⟨_, rfl⟩
  refine ⟨_, next, .handle run (.of_frames rfl rfl fun spoken asked => ?_) rfl handled, ?_⟩
  · refine (waits_of_run run).frames spoken ?_
    rw [current]
    exact asked
  · obtain ⟨listed, queried, -, -, ⟨other, -⟩ | ⟨-, enters⟩⟩ :=
      Session.tradeOrderList_cases handled
    · exact absurd current other
    · exact .of_enters (by rw [current]; nofun) enters rfl

/-! ### REST requests -/

/-- A successful reply to a REST request. -/
def RestKind.reply (kind : RestKind) (request : RestRequest) : Event :=
  match kind with
  | .accounts => .accountsReply request (.result .success 200 (some ()))
  | .positions => .positionsReply request (.result .success 200 (some ⟨[]⟩))
  | .trades => .tradesReply request (.result .success 200 (some ⟨[]⟩))

theorem RestKind.reply_delivers (kind : RestKind) (request : RestRequest) :
    (kind.reply request).restReply = some ⟨kind, request, true⟩ := by
  cases kind <;> rfl

omit [LawfulLimitRequest Mark] [LawfulDownload2 DropCopy.State Driver] in
theorem RestKind.reply_handled (config : Config) (kind : RestKind) (request : RestRequest)
    (context : Context) (session : Session Driver Mark) :
    ∃ next, session.handle config context (kind.reply request) = .ok next := by
  cases kind <;> exact ⟨_, rfl⟩

omit [LawfulLimitRequest Mark] [LawfulDownload2 DropCopy.State Driver] in
theorem Session.checkRequestQueue_responded {kind : RestKind} (context : Context)
    (current : session.state = kind.stage) (responded : session.responses kind = true) :
    session.checkRequestQueue config context = session.check config context session.state := by
  have recorded : LimitRequest.hasResponse (session.streams.request.mark kind) = true := responded
  rw [Session.checkRequestQueue, current]
  cases kind <;> exact if_pos recorded

omit [LawfulLimitRequest Mark] in
/-- The timer moves on from a stage whose reply is recorded. -/
theorem goes_on_responded (run : (account config).Run Cooperates history session)
    (context : Context) {kind : RestKind} (current : session.state = kind.stage)
    (responded : session.responses kind = true) :
    ∃ later next, GoesOn config context history later next ∧ Later session next := by
  have begun : session.state ≠ .undefined := by
    rw [current]
    cases kind <;> decide
  have unfinished : session.state ≠ .done := by
    rw [current]
    cases kind <;> decide
  obtain ⟨next, handled⟩ : ∃ next, session.clearOutbox.handle config context (.timer true) =
      .ok next := ⟨_, rfl⟩
  refine ⟨_, next, .handle run (.of_silent rfl rfl rfl) rfl handled, ?_⟩
  cases handled
  have moves : session.clearOutbox.checkRequestQueue config context =
      session.clearOutbox.check config context session.state :=
    Session.checkRequestQueue_responded context current responded
  rcases session.clearOutbox.check_cases config context session.state begun unfinished with
    ⟨other, -⟩ | ⟨-, enters⟩
  · exact absurd rfl other
  · have entered : Later session (session.clearOutbox.checkRequestQueue config context) := by
      rw [moves]
      exact .of_enters unfinished enters rfl
    simp only [Session.timer, if_pos]
    split
    next ready =>
      obtain ⟨clientOrderIds, queries⟩ := DropCopy.checkStaleOrders2_queries config context
        (session.clearOutbox.checkRequestQueue config context).streams
      exact ⟨entered.rank, fun _ => decide_eq_true
        (queries.connectionStatus.trans (of_decide_eq_true ready))⟩
    next => exact entered

omit [LawfulDownload2 DropCopy.State Driver] in
/-- A request in flight is answered, and the answer recorded. -/
theorem goes_on_in_flight (run : (account config).Run Cooperates history session)
    (context : Context) {request : RestRequest} (flying : request ∈ inFlight history) :
    ∃ later next, GoesOn config context history later next ∧ next.state = session.state ∧
      next.responses request.kind = true := by
  have delivers := request.kind.reply_delivers request
  obtain ⟨next, handled⟩ := request.kind.reply_handled config request context session.clearOutbox
  have connected := (Event.reply_unprogressed delivers).1
  obtain ⟨download, commits⟩ := handle_reply delivers handled
  refine ⟨_, next, .handle run (And.intro (And.intro ?_ ?_) ?_) connected handled,
    congrArg Download2.state download, ?_⟩
  · rintro reply replied
    cases Option.some.inj (delivers.symm.trans replied)
    exact ⟨rfl, flying⟩
  · intro reply replied
    cases (Event.reply_unqueried delivers).2.1.symm.trans replied
  · intro channel answered
    cases named : request.kind <;> rw [named] at answered <;> cases answered
  · rw [Session.responses, commits.responses]
    exact if_pos rfl

omit [LawfulDownload2 DropCopy.State Driver] in
/-- A request that is asked for is sent once the REST connection is ready. -/
theorem goes_on_pending (run : (account config).Run Cooperates history session)
    (context : Context) {kind : RestKind} (pending : session.streams.pending kind = true) :
    ∃ later next, GoesOn config context history later next ∧ next.state = session.state ∧
      ∃ request ∈ inFlight (later ++ history), request.kind = kind := by
  obtain ⟨middle, connects⟩ : ∃ middle, session.clearOutbox.handle config context
      .orderEntryConnected = .ok middle := ⟨_, rfl⟩
  have first := GoesOn.handle run (.of_silent rfl rfl rfl) rfl connects
  cases connects
  obtain ⟨next, handled⟩ : ∃ next, Session.handle config context (Session.clearOutbox
      (session.clearOutbox.mapStreams (OrderEntry.setConnectionStatus .ready)))
        (.orderEntryTimer true fun _ => true) = .ok next := ⟨_, rfl⟩
  have second := GoesOn.handle first.run (.of_silent rfl rfl rfl) rfl handled
  cases handled
  refine ⟨_, _, first.trans second, rfl, _, inFlight_sent ?_, rfl⟩
  exact OrderEntry.timer_requests config context.traceInfo pending rfl

theorem goes_on_rest (kind : RestKind)
    (run : (account config).Run Cooperates history session) (context : Context)
    (current : session.state = kind.stage) :
    ∃ later next, GoesOn config context history later next ∧ Later session next := by
  have flies {history : AccountHistory Driver Mark} {session : Session Driver Mark}
      (run : (account config).Run Cooperates history session)
      (current : session.state = kind.stage)
      (flying : ∃ request ∈ inFlight history, request.kind = kind) :
      ∃ later next, GoesOn config context history later next ∧ Later session next := by
    obtain ⟨request, flying, rfl⟩ := flying
    obtain ⟨later, next, first, state, responded⟩ := goes_on_in_flight run context flying
    obtain ⟨latest, last, second, entered⟩ :=
      goes_on_responded first.run context (state.trans current) responded
    exact ⟨_, last, first.trans second, state ▸ entered.rank, entered.ready⟩
  rcases (waits_of_run run).requests kind current with pending | responded | flying
  · obtain ⟨later, next, first, state, flying⟩ := goes_on_pending run context pending
    obtain ⟨latest, last, second, entered⟩ := flies first.run (state.trans current) flying
    exact ⟨_, last, first.trans second, state ▸ entered.rank, entered.ready⟩
  · exact goes_on_responded run context current responded
  · exact flies run current flying

/-! ### Stale orders -/

/-- The reply that an order does not exist. -/
def StatusQuery.notFound (query : StatusQuery) : TradeOrderStatus where
  header := ⟨0, 404⟩
  result :=
    { text := "", price := .nan, tif := .undefinedInternal, status := .undefinedInternal
      contract := "", finishAs := .undefinedInternal, fillPrice := .nan, id := 0, createTime := 0
      createTimeMs := none, size := 0, updateTime := 0, left := 0 }
  errs := ⟨"", ""⟩
  requestId := query.clientOrderId

omit [LawfulLimitRequest Mark] [LawfulDownload2 DropCopy.State Driver] in
/-- The reply is handled where one is waited for. -/
theorem StatusQuery.notFound_handled (config : Config) (query : StatusQuery) (context : Context)
    (waits : session.counter ≠ 0) :
    ∃ next, session.handle config context (.tradeOrderStatus query query.notFound) = .ok next := by
  cases handled : session.handle config context (.tradeOrderStatus query query.notFound) with
  | ok next => exact ⟨next, rfl⟩
  | error failure =>
    rcases bind_error.mp handled with impossible | ⟨update, updated, failed⟩
    · cases impossible
    · cases updated
      simp only at failed
      split at failed
      next none => exact absurd none waits
      next => split at failed <;> cases failed

/-- The stale orders are answered one by one, and the last answer ends their stage. -/
theorem goes_on_stale (run : (account config).Run Cooperates history session)
    (context : Context) (current : session.state = .getStaleOrders) :
    ∃ later next, GoesOn config context history later next ∧ Later session next := by
  have waits := (waits_of_run run).queries current
  induction counted : session.counter generalizing history session with
  | zero => exact absurd counted waits
  | succ count inductionHypothesis =>
    obtain ⟨query, later, asked⟩ : ∃ query later, unanswered history = query :: later :=
      List.exists_cons_of_length_eq_add_one ((unanswered_of_run run).symm.trans counted)
    have unresolved : session.clearOutbox.counter ≠ 0 := waits
    obtain ⟨next, handled⟩ := query.notFound_handled config context unresolved
    have cooperates : Cooperates history session
        ⟨context, .tradeOrderStatus query query.notFound⟩ := by
      refine And.intro (And.intro ?_ ?_) ?_
      · intro reply replied
        cases replied
      · rintro reply replied
        cases Option.some.inj replied
        rw [asked]
        exact List.mem_cons_self
      · intro channel answered
        cases answered
    have first := GoesOn.handle run cooperates rfl handled
    obtain ⟨update, -, -, ⟨stays, goes⟩ | ⟨-, enters⟩⟩ := Session.tradeOrderStatus_cases handled
    · have state : next.state = session.state := stays.state
      have lower : next.counter = count := by
        rw [Session.counter, stays.streams]
        exact congrArg (· - 1) counted
      have remain : next.counter ≠ 0 := fun none =>
        goes ⟨counted.trans (congrArg Nat.succ (lower.symm.trans none)), current⟩
      obtain ⟨latest, last, second, entered⟩ :=
        inductionHypothesis first.run (state.trans current) remain lower
      exact ⟨_, last, first.trans second, state ▸ entered.rank, entered.ready⟩
    · refine ⟨_, next, first, ?_, fun last => ?_⟩
      · rw [enters.state, current]
        decide
      · cases enters.state.symm.trans last

/-! ### Downloads -/

/-- A download that is under way goes on to a later stage. -/
theorem goes_on (run : (account config).Run Cooperates history session) (context : Context)
    (begun : session.state ≠ .undefined) (unfinished : session.state ≠ .done) :
    ∃ later next, GoesOn config context history later next ∧ Later session next := by
  cases current : session.state with
  | undefined => exact absurd current begun
  | subscribeBalances =>
    exact goes_on_subscribe .balances run context (congrArg some current.symm)
  | getBalances => exact goes_on_rest .accounts run context current
  | subscribePositions =>
    exact goes_on_subscribe .positions run context (congrArg some current.symm)
  | getPositions => exact goes_on_rest .positions run context current
  | subscribeOrders =>
    exact goes_on_subscribe .orders run context (congrArg some current.symm)
  | getOpenOrders => exact goes_on_orders run context current
  | getStaleOrders => exact goes_on_stale run context current
  | subscribeTrades =>
    exact goes_on_subscribe .usertrades run context (congrArg some current.symm)
  | getTrades => exact goes_on_rest .trades run context current
  | done => exact absurd current unfinished

theorem DropCopy.State.rank_le (state : DropCopy.State) :
    state.rank ≤ DropCopy.State.done.rank := by
  cases state <;> decide

/-- A download that is under way can go on until it is done. -/
theorem goes_on_done (run : (account config).Run Cooperates history session) (context : Context)
    (begun : session.state ≠ .undefined) (ready : session.state = .done → session.ready = true) :
    ∃ later next, GoesOn config context history later next ∧ next.ready = true := by
  induction remaining : DropCopy.State.done.rank - session.state.rank using
    Nat.strong_induction_on generalizing history session with
  | _ count inductionHypothesis =>
    by_cases last : session.state = .done
    · exact ⟨[], session, .refl run, ready last⟩
    · obtain ⟨later, next, first, entered⟩ := goes_on run context begun last
      have fewer : DropCopy.State.done.rank - next.state.rank < count := by
        have bounded := next.state.rank_le
        have higher := entered.rank
        omega
      have begun' : next.state ≠ .undefined := by
        intro undefined
        have higher := entered.rank
        rw [undefined] at higher
        exact Nat.not_lt_zero _ higher
      obtain ⟨latest, last, second, published⟩ :=
        inductionHypothesis _ fewer first.run begun' entered.ready rfl
      exact ⟨_, last, first.trans second, published⟩

omit [LawfulLimitRequest Mark] in
/-- A new connection logs in and begins the download. -/
theorem goes_on_connect (run : (account config).Run Cooperates history session)
    (context : Context) :
    ∃ later next, GoesOn config context history later next ∧ next.state = .subscribeBalances := by
  obtain ⟨middle, connects⟩ : ∃ middle, session.clearOutbox.handle config context .ready =
      .ok middle := ⟨_, rfl⟩
  have first := GoesOn.handle run (.of_silent rfl rfl rfl) rfl connects
  cases connects
  obtain ⟨next, handled⟩ : ∃ next, Session.handle config context
      (session.clearOutbox.socketReady config context).clearOutbox
        (.tradeLogin ⟨⟨0, 200⟩, 1⟩) = .ok next := ⟨_, rfl⟩
  refine ⟨_, next, first.trans (.handle first.run (.of_frames rfl rfl ?_) rfl handled), ?_⟩
  · rintro channel answered
    cases answered
    exact ⟨_, List.mem_append_right _ List.mem_cons_self, rfl⟩
  · cases handled
    exact (Session.begin_enters config context _).state

end Stages

variable [LawfulLimitRequest Mark] [LawfulDownload2 DropCopy.State Driver]

/-- Every run in which the exchange answers what it is asked can go on to `READY`, for any answers
that the host then keeps to, and without losing the trading connection where a download is under
way. -/
theorem ready_reachable (config : Config) (history : AccountHistory Driver Mark)
    (session : Session Driver Mark) (run : (account config).Run Cooperates history session)
    (context : Context) : ∃ later next, (account config).Run Cooperates (later ++ history) next ∧
      next.ready = true ∧ (∀ entry ∈ later, entry.input.context = context) ∧
      (session.state ≠ .undefined → session.state ≠ .done →
        ∀ entry ∈ later, entry.input.event.isDisconnected = false) := by
  by_cases underway : session.state ≠ .undefined ∧ session.state ≠ .done
  · obtain ⟨later, next, goes, ready⟩ := goes_on_done run context underway.1
      fun last => absurd last underway.2
    exact ⟨later, next, goes.run, ready, fun entry member => (goes.kept entry member).1,
      fun _ _ entry member => (goes.kept entry member).2⟩
  · obtain ⟨entry, lost, given⟩ : ∃ entry : AccountEntry Driver Mark,
        (account config).Run Cooperates (entry :: history) session.clearOutbox.disconnected ∧
          entry.input.context = context :=
      ⟨⟨_, ⟨context, .disconnected⟩, _⟩, .step run (.of_silent rfl rfl rfl) rfl, rfl⟩
    obtain ⟨later, middle, first, state⟩ := goes_on_connect lost context
    have begun : middle.state ≠ .undefined := by
      rw [state]
      decide
    obtain ⟨latest, next, second, ready⟩ := goes_on_done first.run context begun
      fun last => by cases state.symm.trans last
    have goes := first.trans second
    refine ⟨latest ++ later ++ [entry], next, ?_, ready, fun other member => ?_,
      fun begun unfinished => absurd ⟨begun, unfinished⟩ underway⟩
    · rw [List.append_assoc]
      exact goes.run
    · rcases List.mem_append.mp member with member | member
      · exact (goes.kept other member).1
      · rw [List.mem_singleton.mp member]
        exact given

/-- The REST connection is lost while the accounts are requested, and `READY` is reached without a
new login. -/
theorem ready_reachable_plain : ∃ history session, plainAccount.Run Cooperates history session ∧
    session.state = .getBalances ∧ ∃ later next,
      plainAccount.Run Cooperates (later ++ history) next ∧ next.ready = true ∧
      ∀ entry ∈ later, entry.input.event.isDisconnected = false := by
  have run : plainAccount.Run Cooperates _ _ :=
    .of_replay (plainInputs (plainLogin ++ [.orderEntryDisconnected])) rfl (by decide)
  obtain ⟨later, next, goes, ready, -, connected⟩ :=
    ready_reachable plainConfig _ _ run (plainContext [])
  exact ⟨_, _, run, rfl, later, next, goes, ready, connected nofun nofun⟩

end GateFutures.Gateway
