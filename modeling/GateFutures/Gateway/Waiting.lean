/-
This file proves that the download never waits in vain.

A stage of the download waits for something that was asked for: for the answer to a frame that was
sent over this connection, for a REST request that is pending, in flight or answered, or for the
status of stale orders of which some are unanswered. This holds in every run, also when either
connection was lost in the middle of an earlier download.
-/

import GateFutures.Gateway.Envelope
import GateFutures.Gateway.Freshness
import GateFutures.Gateway.StaleOrders

namespace GateFutures.Gateway

open Framework Library Protocol Roq

variable {Driver Mark : Type}

/-! ### What a stage waits for -/

/-- The frames that were sent over the trading connection since it was lost last. -/
def sessionFrames : AccountHistory Driver Mark → List Frame
  | [] => []
  | entry :: before =>
    if entry.input.event.isDisconnected then []
    else sessionFrames before ++ frames entry.output

/-- The channel over which a stage asks for what it waits for. -/
def DropCopy.State.channel : DropCopy.State → Option String
  | .subscribeBalances => some "futures.balances"
  | .subscribePositions => some "futures.positions"
  | .subscribeOrders => some "futures.orders"
  | .getOpenOrders => some "futures.order_list"
  | .subscribeTrades => some "futures.usertrades"
  | .undefined | .getBalances | .getPositions | .getStaleOrders | .getTrades | .done => none

variable [LimitRequest Mark]

/-- A REST request is asked for, and not yet sent. -/
def Streams.pending (streams : Streams Mark) (kind : RestKind) : Bool :=
  LimitRequest.pending (streams.request.mark kind)

/-- What the download waits for was asked for: over this connection, from the REST connection, or
for a stale order. -/
structure Waits [Download2 DropCopy.State Driver] (history : AccountHistory Driver Mark)
    (session : Session Driver Mark) : Prop where
  frames : ∀ channel ∈ session.state.channel, ∃ frame ∈ sessionFrames history,
    frame.channel = channel
  requests : ∀ kind : RestKind, session.state = kind.stage → session.streams.pending kind = true ∨
    session.responses kind = true ∨ ∃ request ∈ inFlight history, request.kind = kind
  queries : session.state = .getStaleOrders → session.counter ≠ 0

/-! ### Asking on entering a stage -/

/-- Whatever stage was announced, it was asked for what it waits for. -/
structure Streams.Asks (streams : Streams Mark) : Prop where
  frames : ∀ stage : DropCopy.State, stage.announcement ∈ streams.outbox →
    ∀ channel ∈ stage.channel, ∃ frame, .sendText frame ∈ streams.outbox ∧ frame.channel = channel
  requests : ∀ kind : RestKind, kind.stage.announcement ∈ streams.outbox →
    streams.pending kind = true
  queries : DropCopy.State.announcement .getStaleOrders ∈ streams.outbox →
    streams.dropCopy.downloadStaleOrdersCounter ≠ 0

omit [LimitRequest Mark] in
theorem announcement_kind (stage : DropCopy.State) : stage.announcement.kind = .progress := by
  cases stage <;> rfl

theorem announcement_injective : Function.Injective DropCopy.State.announcement := by
  intro first second same
  by_cases last : first = .done ∨ second = .done
  · cases first <;> cases second <;> first | rfl | cases same | simp at last
  · obtain ⟨unfinished, unfinished'⟩ := not_or.mp last
    have named : first.enumName = second.enumName := by
      cases first <;> cases second <;>
        simp_all [DropCopy.State.announcement]
    exact DropCopy.State.enumName_injective named

namespace Streams.Asks

variable {first second : Streams Mark}

/-- Where nothing was announced, nothing had to be asked for. -/
theorem of_silent {streams : Streams Mark} (silent : Silent streams.outbox) : streams.Asks :=
  ⟨fun stage announced => absurd (announcement_kind stage) (silent _ announced),
    fun kind announced => absurd (announcement_kind kind.stage) (silent _ announced),
    fun announced => absurd (announcement_kind .getStaleOrders) (silent _ announced)⟩

/-- What announces nothing, and takes neither a request nor a query back, keeps what was asked. -/
theorem of_adds (asks : first.Asks) {kinds : List OutputKind} (adds : first.Adds kinds second)
    (unprogressed : OutputKind.progress ∉ kinds) (request : second.request = first.request)
    (counter : first.dropCopy.downloadStaleOrdersCounter ≤
      second.dropCopy.downloadStaleOrdersCounter) : second.Asks := by
  obtain ⟨emitted, outbox, kind⟩ := adds
  have before (stage : DropCopy.State) (announced : stage.announcement ∈ second.outbox) :
      stage.announcement ∈ first.outbox := by
    rw [outbox] at announced
    refine (List.mem_append.mp announced).resolve_right fun added => ?_
    exact unprogressed (announcement_kind stage ▸ kind _ added)
  refine ⟨fun stage announced channel asked => ?_, fun other announced => ?_, fun announced => ?_⟩
  · obtain ⟨frame, sent, spoken⟩ := asks.frames stage (before stage announced) channel asked
    exact ⟨frame, outbox ▸ List.mem_append_left _ sent, spoken⟩
  · rw [Streams.pending, request]
    exact asks.requests other (before other.stage announced)
  · exact fun none => asks.queries (before .getStaleOrders announced)
      (Nat.le_zero.mp (none ▸ counter))

theorem of_queries (asks : first.Asks) {clientOrderIds : List String}
    (queries : first.Queries clientOrderIds second) : second.Asks :=
  asks.of_adds queries.adds (by simp) queries.request
    (queries.counter ▸ Nat.le_add_right _ _)

/-- A stage is announced, and asked for what it waits for. -/
theorem enter (asks : first.Asks) (stage : DropCopy.State) (frames : List Output)
    (outbox : second.outbox = first.outbox ++ stage.announcement :: frames)
    (unprogressed : ∀ output ∈ frames, output.kind ≠ .progress)
    (channels : ∀ channel ∈ stage.channel, ∃ frame, .sendText frame ∈ frames ∧
      frame.channel = channel)
    (requests : ∀ kind, kind.stage = stage → second.pending kind = true)
    (kept : ∀ kind, first.pending kind = true → second.pending kind = true)
    (counter : second.dropCopy.downloadStaleOrdersCounter =
      first.dropCopy.downloadStaleOrdersCounter)
    (stale : stage = .getStaleOrders → first.dropCopy.downloadStaleOrdersCounter ≠ 0) :
    second.Asks := by
  have before (other : DropCopy.State) (announced : other.announcement ∈ second.outbox) :
      other.announcement ∈ first.outbox ∨ other = stage := by
    rw [outbox] at announced
    refine (List.mem_append.mp announced).imp_right fun added => ?_
    rcases List.mem_cons.mp added with same | added
    · exact announcement_injective same
    · exact absurd (announcement_kind other) (unprogressed _ added)
  refine ⟨fun other announced channel asked => ?_, fun kind announced => ?_, fun announced => ?_⟩
  · rw [outbox]
    rcases before other announced with earlier | rfl
    · obtain ⟨frame, sent, spoken⟩ := asks.frames other earlier channel asked
      exact ⟨frame, List.mem_append_left _ sent, spoken⟩
    · obtain ⟨frame, sent, spoken⟩ := channels channel asked
      exact ⟨frame, List.mem_append_right _ (List.mem_cons_of_mem _ sent), spoken⟩
  · exact (before kind.stage announced).elim (fun earlier => kept kind (asks.requests kind earlier))
      (requests kind)
  · rw [counter]
    exact (before .getStaleOrders announced).elim asks.queries fun same => stale same.symm

end Streams.Asks

/-- A stage is announced, and asks over its channel. -/
theorem Streams.Asks.sendText {first second : Streams Mark} (asks : first.Asks)
    (stage : DropCopy.State) {frame : Frame}
    (outbox : second.outbox = first.outbox ++ [stage.announcement, .sendText frame])
    (asked : stage.channel = some frame.channel)
    (request : second.request = first.request)
    (counter : second.dropCopy.downloadStaleOrdersCounter =
      first.dropCopy.downloadStaleOrdersCounter) : second.Asks := by
  refine asks.enter stage [.sendText frame] outbox ?_ ?_ ?_ ?_ counter ?_
  · rw [List.forall_mem_singleton, Output.kind]
    cases frame.payload <;> simp [payloadKind]
  · intro other same
    exact ⟨frame, List.mem_cons_self, Option.some.inj (asked.symm.trans same)⟩
  · rintro kind rfl
    cases kind <;> cases asked
  · intro kind pending
    rw [Streams.pending, request]
    exact pending
  · rintro rfl
    cases asked

/-- A stage is announced, and asks for a REST request. -/
theorem Streams.Asks.request [LawfulLimitRequest Mark] {streams : Streams Mark}
    (asks : streams.Asks) (kind : RestKind) :
    Streams.Asks { DropCopy.publishDownloading kind.stage streams with
      request := streams.request.enter kind.stage } := by
  have requested (mark : Mark) : LimitRequest.pending (LimitRequest.request mark) = true :=
    LawfulLimitRequest.pending_request mark
  refine asks.enter kind.stage [] ?_ (List.forall_mem_nil _) ?_ ?_ ?_ rfl ?_
  · cases kind <;> rfl
  · cases kind <;> exact nofun
  · intro other same
    rw [RestKind.stage_injective same]
    cases kind <;> exact requested _
  · intro other pending
    cases kind <;> cases other <;> first | exact requested _ | exact pending
  · cases kind <;> exact nofun

/-- The callback asks for what it announces. -/
theorem DropCopy.download_asks [LawfulLimitRequest Mark] (config : Config) (context : Context)
    (state : DropCopy.State) (sequence : UInt32) (streams : Streams Mark)
    (asks : streams.Asks) :
    (DropCopy.download config context state sequence streams).1.Asks := by
  cases state with
  | undefined => exact asks
  | subscribeBalances =>
    exact asks.sendText .subscribeBalances (List.append_assoc ..) rfl rfl rfl
  | subscribePositions =>
    exact asks.sendText .subscribePositions (List.append_assoc ..) rfl rfl rfl
  | subscribeOrders =>
    exact asks.sendText .subscribeOrders (List.append_assoc ..) rfl rfl rfl
  | subscribeTrades =>
    exact asks.sendText .subscribeTrades (List.append_assoc ..) rfl rfl rfl
  | getOpenOrders =>
    exact asks.sendText .getOpenOrders (List.append_assoc ..) rfl rfl rfl
  | getBalances => exact asks.request .accounts
  | getPositions => exact asks.request .positions
  | getTrades =>
    rw [DropCopy.download]
    split
    · exact asks.request .trades
    · exact asks
  | getStaleOrders =>
    rw [DropCopy.download]
    split
    next stale =>
      exact asks.enter .getStaleOrders [] rfl (List.forall_mem_nil _)
        (fun channel asked => by cases asked) (fun kind same => by cases kind <;> cases same)
        (fun _ pending => pending) rfl fun _ => stale
    next => exact asks
  | done =>
    exact asks.enter .done [] rfl (List.forall_mem_nil _) (fun channel asked => by cases asked)
      (fun kind same => by cases kind <;> cases same) (fun _ pending => pending) rfl
      fun same => by cases same

/-! ### Requests that are asked for -/

section Requests

variable [LawfulLimitRequest Mark] {kind : RestKind}

/-- A REST request that is asked for stays so when a stage is entered. -/
theorem Streams.Enters.pending {stage : DropCopy.State} {before after : Streams Mark}
    (enters : before.Enters stage after) (pending : before.pending kind = true) :
    after.pending kind = true := by
  have requested (mark : Mark) : LimitRequest.pending (LimitRequest.request mark) = true :=
    LawfulLimitRequest.pending_request mark
  rw [Streams.pending, enters.request]
  cases stage <;> cases kind <;> first | exact pending | exact requested _

omit [LawfulLimitRequest Mark] in
theorem Streams.pending_of_request {first second : Streams Mark}
    (same : second.request = first.request) (pending : first.pending kind = true) :
    second.pending kind = true := by
  rw [Streams.pending, same]
  exact pending

/-- A REST request was sent. -/
def Streams.Sent (kind : RestKind) (streams : Streams Mark) : Prop :=
  ∃ output ∈ streams.outbox, output.restKind? = some kind

/-- What a check of one mark does: it takes no request back, and sends the one that is asked for,
at once if the rate limiter lets it through. -/
structure Streams.Checks (checked : RestKind) (allowed : Bool) (before after : Streams Mark) :
    Prop where
  sent : ∀ kind, before.Sent kind → after.Sent kind
  pending : ∀ kind, before.pending kind = true → after.pending kind = true ∨ after.Sent kind
  sends : allowed = true → before.pending checked = true → after.Sent checked

theorem Streams.Checks.of_checkPending {streams after : Streams Mark} (allowed : Bool)
    (callback : Streams Mark → Streams Mark) (checked : RestKind) {path query : String}
    (sends : callback streams = streams.emit (.restRequest checked path query))
    (outbox : after.outbox = (LimitRequest.checkPending allowed callback
      (streams.request.mark checked) streams).2.outbox)
    (marked : after.request.mark checked =
      (LimitRequest.checkPending allowed callback (streams.request.mark checked) streams).1)
    (others : ∀ other ≠ checked, after.request.mark other = (LimitRequest.checkPending allowed
      callback (streams.request.mark checked) streams).2.request.mark other) :
    streams.Checks checked allowed after := by
  have runs (ran : (LimitRequest.checkPending allowed callback (streams.request.mark checked)
      streams).2 = callback streams) : after.Sent checked ∧
        (∀ kind, streams.Sent kind → after.Sent kind) ∧
        ∀ kind ≠ checked, streams.pending kind = true → after.pending kind = true := by
    rw [ran, sends] at outbox others
    refine ⟨⟨.restRequest checked path query, ?_, rfl⟩, fun kind ⟨output, sent, asks⟩ => ?_,
      fun kind other pending => ?_⟩
    · rw [outbox]
      exact List.mem_append_right _ List.mem_cons_self
    · exact ⟨output, outbox ▸ List.mem_append_left _ sent, asks⟩
    · rw [Streams.pending, others kind other]
      exact pending
  rcases LawfulLimitRequest.checkPending_cases allowed callback (streams.request.mark checked)
    streams with ⟨-, -, ran⟩ | ⟨same, skips⟩
  · obtain ⟨sent, kept, rest⟩ := runs ran
    refine ⟨kept, fun kind pending => ?_, fun _ _ => sent⟩
    by_cases own : kind = checked
    · rw [own]
      exact Or.inr sent
    · exact Or.inl (rest kind own pending)
  · refine ⟨fun kind ⟨output, sent, asks⟩ => ?_, fun kind pending => ?_, fun lets pending => ?_⟩
    · rw [skips] at outbox
      exact ⟨output, outbox ▸ sent, asks⟩
    · refine Or.inl ?_
      by_cases own : kind = checked
      · subst own
        rw [Streams.pending, marked, same]
        exact pending
      · rw [Streams.pending, others kind own, skips]
        exact pending
    · subst lets
      exact (runs (LawfulLimitRequest.checkPending_runs callback _ streams pending).2).1

theorem OrderEntry.checkBalances_checks (config : Config) (allowed : Bool)
    (streams : Streams Mark) :
    streams.Checks .accounts allowed (OrderEntry.checkBalances config allowed streams) :=
  .of_checkPending allowed (OrderEntry.getAccounts config) .accounts rfl rfl rfl
    (by rintro (_ | _ | _) other <;> first | rfl | exact absurd rfl other)

theorem OrderEntry.checkPositions_checks (config : Config) (allowed : Bool)
    (streams : Streams Mark) :
    streams.Checks .positions allowed (OrderEntry.checkPositions config allowed streams) :=
  .of_checkPending allowed (OrderEntry.getPositions config) .positions rfl rfl rfl
    (by rintro (_ | _ | _) other <;> first | rfl | exact absurd rfl other)

theorem OrderEntry.checkTrades_checks (config : Config) (traceInfo : TraceInfo) (allowed : Bool)
    (streams : Streams Mark) :
    streams.Checks .trades allowed (OrderEntry.checkTrades config traceInfo allowed streams) :=
  .of_checkPending allowed (OrderEntry.getTrades config traceInfo) .trades rfl rfl rfl
    (by rintro (_ | _ | _) other <;> first | rfl | exact absurd rfl other)

/-- The timer of the REST connection sends what is asked for, or leaves it pending. -/
theorem OrderEntry.timer_owes (config : Config) (traceInfo : TraceInfo) (refresh : Bool)
    (allowed : RestKind → Bool) {streams : Streams Mark} (pending : streams.pending kind = true) :
    (OrderEntry.timer config traceInfo refresh allowed streams).pending kind = true ∨
      (OrderEntry.timer config traceInfo refresh allowed streams).Sent kind := by
  rw [OrderEntry.timer]
  split
  · have trades := OrderEntry.checkTrades_checks config traceInfo (allowed .trades)
      (OrderEntry.checkPositions config (allowed .positions)
        (OrderEntry.checkBalances config (allowed .accounts) streams))
    rcases (OrderEntry.checkBalances_checks config (allowed .accounts) streams).pending kind pending
      with pending | sent
    · rcases (OrderEntry.checkPositions_checks config (allowed .positions) _).pending kind pending
        with pending | sent
      · exact trades.pending kind pending
      · exact Or.inr (trades.sent kind sent)
    · exact Or.inr (trades.sent kind
        ((OrderEntry.checkPositions_checks config (allowed .positions) _).sent kind sent))
  · exact Or.inl pending

/-- The timer sends what is asked for, where the connection is ready and the rate limiter lets
everything through. -/
theorem OrderEntry.timer_requests (config : Config) (traceInfo : TraceInfo)
    {streams : Streams Mark} (pending : streams.pending kind = true)
    (connected : streams.orderEntry.connectionStatus = .ready) :
    (OrderEntry.timer config traceInfo true (fun _ => true) streams).Sent kind := by
  rw [OrderEntry.timer, if_pos ⟨rfl, connected⟩]
  have balances := OrderEntry.checkBalances_checks config true streams
  have positions := OrderEntry.checkPositions_checks config true
    (OrderEntry.checkBalances config true streams)
  have trades := OrderEntry.checkTrades_checks config traceInfo true
    (OrderEntry.checkPositions config true (OrderEntry.checkBalances config true streams))
  cases kind with
  | accounts => exact trades.sent _ (positions.sent _ (balances.sends rfl pending))
  | positions =>
    rcases balances.pending _ pending with pending | sent
    · exact trades.sent _ (positions.sends rfl pending)
    · exact trades.sent _ (positions.sent _ sent)
  | trades =>
    rcases balances.pending _ pending with pending | sent
    · rcases positions.pending _ pending with pending | sent
      · exact trades.sends rfl pending
      · exact trades.sent _ sent
    · exact trades.sent _ (positions.sent _ sent)

omit [LawfulLimitRequest Mark] in
/-- A reply commits the mark of its kind, and leaves the others alone. -/
theorem handle_reply_mark [Download2 DropCopy.State Driver] {config : Config}
    {context : Context} {session next : Session Driver Mark} {event : Event} {reply : RestReply}
    (delivers : event.restReply = some reply)
    (handled : session.handle config context event = .ok next) (kind : RestKind) :
    next.streams.request.mark kind =
      if kind = reply.kind then LimitRequest.commit (session.streams.request.mark kind)
      else session.streams.request.mark kind := by
  cases event <;> cases delivers
  all_goals
    obtain ⟨streams, acknowledged, handled⟩ := bind_ok.mp handled
    cases handled
    obtain ⟨body, -, acknowledged⟩ := bind_ok.mp acknowledged
    cases acknowledged
  · cases kind <;> rfl
  · have emits := Streams.Emits.elim
      (fun message => OrderEntry.positions_emits config context message session.streams) body
    cases kind <;> simp [Request.mark, emits.request]
  · cases body with
    | none => cases kind <;> rfl
    | some message =>
      have emits := OrderEntry.userTrades_emits config context message session.streams
      cases kind <;> simp [Request.mark, emits.request]

end Requests

/-! ### One step -/

variable [LawfulLimitRequest Mark] [Download2 DropCopy.State Driver]
  [LawfulDownload2 DropCopy.State Driver]

/-- A handler asks for what it announces. -/
theorem Session.handle_asks {config : Config} {context : Context}
    {session next : Session Driver Mark} {event : Event} (silent : Silent session.streams.outbox)
    (handled : session.handle config context event = .ok next) : next.streams.Asks := by
  have unannounced (unprogressed : OutputKind.progress ∉ event.kinds) : next.streams.Asks :=
    .of_silent ((Session.handle_adds handled).silent unprogressed silent)
  have called := fun state sequence streams =>
    @DropCopy.download_asks Mark _ _ config context state sequence streams
  by_cases continues : event.continues = true
  · refine Session.handle_keeps Streams.Asks continues called (fun streams asks => ?_)
      (fun _ _ streams asks => ?_) (.of_silent silent) (fun streams emits => ?_) (fun update => ?_)
      handled
    · exact asks.of_queries (DropCopy.checkStaleOrders_queries context streams)
    · obtain ⟨clientOrderIds, queries⟩ := DropCopy.checkStaleOrders2_queries config context streams
      exact asks.of_queries queries
    · exact .of_silent (emits.adds.silent (by simp) silent)
    · exact .of_silent ((session.streams.resolve_adds update).silent (by simp) silent)
  cases event with
  | tradeLogin message =>
    simp only [Session.handle, Session.tradeLogin] at handled
    split at handled
    · split at handled
      · cases handled
      · cases handled
        exact LawfulDownload2.begin_keeps _ called session.download _ (.of_silent silent)
    · split at handled
      · cases handled
        have closes : session.streams.Adds [.close] (session.streams.emit .close) :=
          .emit session.streams .close (by simp [Output.kind])
        exact .of_silent (closes.silent (by simp) silent)
      · cases handled
  | timer | tradeSubscribe | tradeOrderList | tradeOrderStatus => exact absurd rfl continues
  | _ => exact unannounced (by simp [Event.kinds])

/-- A REST request that is asked for stays so, unless it is sent or a reply is recorded. -/
theorem Session.handle_owes {config : Config} {context : Context}
    {session next : Session Driver Mark} {event : Event} {kind : RestKind}
    (pending : session.streams.pending kind = true)
    (handled : session.handle config context event = .ok next) :
    next.streams.pending kind = true ∨ next.streams.Sent kind ∨ next.responses kind = true := by
  cases Session.handles handled with
  | quiet quiet download emits => exact Or.inl (Streams.pending_of_request emits.request pending)
  | replies reply delivers download commits =>
    by_cases own : kind = reply.kind
    · refine Or.inr (Or.inr ?_)
      rw [Session.responses, commits.responses]
      exact if_pos own
    · rw [Streams.pending, handle_reply_mark delivers handled, if_neg own]
      exact Or.inl pending
  | timer refresh =>
    obtain ⟨middle, moved, -, clientOrderIds, queries, -⟩ :=
      session.timer_cases config context refresh
    refine Or.inl (Streams.pending_of_request queries.request ?_)
    rcases moved with stays | ⟨-, -, -, enters⟩
    · rw [stays.streams]
      exact pending
    · exact enters.streams.pending pending
  | disconnected => exact Or.inl pending
  | ready => exact Or.inl pending
  | tradeLogin handled =>
    rcases Session.tradeLogin_cases handled with ⟨-, emits⟩ | enters
    · exact Or.inl (Streams.pending_of_request emits.request pending)
    · exact Or.inl (enters.streams.pending pending)
  | tradeSubscribe handled =>
    rcases Session.tradeSubscribe_cases handled with ⟨-, stays⟩ | ⟨-, -, enters⟩
    · rw [stays.streams]
      exact Or.inl pending
    · exact Or.inl (enters.streams.pending pending)
  | tradeOrderList handled =>
    obtain ⟨listed, queried, emits, queries, moved⟩ := Session.tradeOrderList_cases handled
    have kept := Streams.pending_of_request queries.request
      (Streams.pending_of_request emits.request pending)
    rcases moved with ⟨-, stays⟩ | ⟨-, enters⟩
    · rw [stays.streams]
      exact Or.inl kept
    · exact Or.inl (enters.streams.pending kept)
  | tradeOrderStatus query handled =>
    obtain ⟨update, -, -, moved⟩ := Session.tradeOrderStatus_cases handled
    have kept : (session.streams.resolve update).pending kind = true := by
      cases update <;> exact pending
    rcases moved with ⟨stays, -⟩ | ⟨-, enters⟩
    · rw [stays.streams]
      exact Or.inl kept
    · exact Or.inl (enters.streams.pending kept)
  | orderEntryTimer refresh allowed =>
    exact (OrderEntry.timer_owes config context.traceInfo refresh allowed pending).imp_right Or.inl

/-- While the download waits for the status of stale orders, some are unanswered. -/
theorem Session.step_stale {config : Config} {session next : Session Driver Mark} {input : Input}
    {outputs : List Output} (taken : session.step config input = .ok (next, outputs))
    (waits : session.counter ≠ 0) (state : next.state = .getStaleOrders)
    (stays : session.state = .getStaleOrders) : next.counter ≠ 0 := by
  cases Session.step_queries taken with
  | counts _ _ counter =>
    rw [counter]
    exact fun none => waits (Nat.eq_zero_of_add_eq_zero_right none)
  | resets disconnected =>
    cases Session.step_stage taken with
    | resets _ _ reset => cases reset.symm.trans state
    | stays connected | commits _ connected | enters _ connected =>
      cases disconnected.symm.trans connected
  | answers query message _ answered _ counter =>
    rw [counter]
    intro none
    obtain ⟨handled, -⟩ := Session.step_ok taken
    obtain ⟨context, event⟩ := input
    cases event with
    | tradeOrderStatus query message =>
      obtain ⟨update, -, -, ⟨-, goes⟩ | ⟨-, enters⟩⟩ := Session.tradeOrderStatus_cases handled
      · exact goes ⟨Nat.le_antisymm (Nat.sub_eq_zero_iff_le.mp none) (Nat.pos_of_ne_zero waits),
          stays⟩
      · cases enters.state.symm.trans state
    | _ => cases answered

/-! ### Runs -/

omit [LimitRequest Mark] [LawfulLimitRequest Mark] [Download2 DropCopy.State Driver]
  [LawfulDownload2 DropCopy.State Driver] in
/-- A request stays in flight that is not answered. -/
theorem inFlight_cons {entry : AccountEntry Driver Mark} {before : AccountHistory Driver Mark}
    {request : RestRequest} (member : request ∈ inFlight before)
    (others : ∀ reply ∈ entry.input.event.restReply, request ≠ reply.request) :
    request ∈ inFlight (entry :: before) := by
  refine List.mem_append_left _ ?_
  cases answered : entry.input.event.restReply with
  | none => exact member
  | some reply => exact (List.mem_erase_of_ne (others reply answered)).mpr member

omit [LimitRequest Mark] [LawfulLimitRequest Mark] [Download2 DropCopy.State Driver]
  [LawfulDownload2 DropCopy.State Driver] in
/-- A request is in flight once it is sent. -/
theorem inFlight_sent {session : Session Driver Mark} {input : Input} {next : Streams Mark}
    {before : AccountHistory Driver Mark} {kind : RestKind} (sent : next.Sent kind) :
    ⟨kind, before.length⟩ ∈ inFlight (⟨session, input, next.outbox⟩ :: before) := by
  obtain ⟨output, member, asks⟩ := sent
  exact List.mem_append_right _
    (List.mem_map.mpr ⟨kind, List.mem_filterMap.mpr ⟨output, member, asks⟩, rfl⟩)

namespace Waits

variable {config : Config} {history : AccountHistory Driver Mark}
  {session next : Session Driver Mark} {input : Input} {outputs : List Output}

/-- What is waited for stays so where the stage stays. -/
theorem same_stage (waits : Waits history session)
    (answers : RepliesAnswerRequests history session input)
    (taken : session.step config input = .ok (next, outputs))
    (connected : input.event.isDisconnected = false) (state : next.state = session.state)
    (recorded : ∀ kind, session.responses kind = true → next.responses kind = true)
    (replied : ∀ reply ∈ input.event.restReply, next.responses reply.kind = true) :
    Waits (⟨session, input, outputs⟩ :: history) next := by
  obtain ⟨handled, rfl⟩ := Session.step_ok taken
  refine ⟨fun channel asked => ?_, fun kind current => ?_, fun current => ?_⟩
  · obtain ⟨frame, sent, spoken⟩ := waits.frames channel (state ▸ asked)
    refine ⟨frame, ?_, spoken⟩
    rw [sessionFrames, connected]
    exact List.mem_append_left _ sent
  · rcases waits.requests kind (state.symm.trans current) with
      pending | responded | ⟨request, member, rfl⟩
    · have asked : session.clearOutbox.streams.pending kind = true := pending
      rcases Session.handle_owes asked handled with pending | sent | responded
      · exact Or.inl pending
      · exact Or.inr (Or.inr ⟨_, inFlight_sent sent, rfl⟩)
      · exact Or.inr (Or.inl responded)
    · exact Or.inr (Or.inl (recorded kind responded))
    · by_cases ended : ∃ reply ∈ input.event.restReply, request = reply.request
      · obtain ⟨reply, answered, rfl⟩ := ended
        rw [(answers reply answered).1]
        exact Or.inr (Or.inl (replied reply answered))
      · exact Or.inr (Or.inr ⟨request, inFlight_cons member fun reply answered same =>
          ended ⟨reply, answered, same⟩, rfl⟩)
  · have stays := state.symm.trans current
    exact Session.step_stale taken (waits.queries stays) current stays

theorem step (waits : Waits history session)
    (answers : RepliesAnswerRequests history session input)
    (taken : session.step config input = .ok (next, outputs)) :
    Waits (⟨session, input, outputs⟩ :: history) next := by
  cases Session.step_stage taken with
  | stays connected unanswered state responses =>
    refine waits.same_stage answers taken connected state (fun kind responded => ?_) ?_
    · rw [responses]
      exact responded
    · rw [unanswered]
      exact nofun
  | commits reply connected answered state responses =>
    refine waits.same_stage answers taken connected state (fun kind responded => ?_) ?_
    · rw [responses]
      dsimp only
      split
      · rfl
      · exact responded
    · rintro other same
      rw [responses, Option.some.inj (answered.symm.trans same)]
      exact if_pos rfl
  | resets _ _ state =>
    refine ⟨fun channel asked => ?_, fun kind current => ?_, fun current => ?_⟩
    · rw [state] at asked
      cases asked
    · cases kind <;> cases state.symm.trans current
    · cases state.symm.trans current
  | enters stage connected _ _ state _ announced =>
    obtain ⟨handled, rfl⟩ := Session.step_ok taken
    have silent : Silent session.clearOutbox.streams.outbox := List.forall_mem_nil _
    have asks := Session.handle_asks silent handled
    refine ⟨fun channel asked => ?_, fun kind current => ?_, fun current => ?_⟩
    · obtain ⟨frame, sent, spoken⟩ := asks.frames stage announced.1 channel (state ▸ asked)
      refine ⟨frame, ?_, spoken⟩
      rw [sessionFrames, connected]
      exact List.mem_append_right _ (List.mem_filterMap.mpr ⟨_, sent, rfl⟩)
    · obtain rfl := current.symm.trans state
      exact Or.inl (asks.requests kind announced.1)
    · obtain rfl := current.symm.trans state
      exact asks.queries announced.1

theorem of_run (run : (account config).Run RepliesAnswerRequests history session) :
    Waits history session := by
  refine run.invariant Waits ?_ fun history session input next outputs waits answers taken =>
    waits.step answers taken
  have state : ((account config).initial : Session Driver Mark).state = .undefined :=
    LawfulDownload2.state_initial
  refine ⟨fun channel asked => ?_, fun kind current => ?_, fun current => ?_⟩
  · rw [state] at asked
    cases asked
  · cases kind <;> cases state.symm.trans current
  · cases state.symm.trans current

end Waits

/-- Replies of either connection answer what was asked for and is unanswered. -/
def RepliesAnswer : Environment (Session Driver Mark) Input (List Output) :=
  fun history session input => RepliesAnswerRequests history session input ∧
    StatusRepliesAnswerQueries history session input

instance (history : AccountHistory Driver Mark) (session : Session Driver Mark)
    (input : Input) : Decidable (RepliesAnswer history session input) :=
  inferInstanceAs (Decidable (_ ∧ _))

/-- In every run, the download never waits in vain: for the answer over a channel, a frame was sent
over this connection; for a REST request, it is pending, in flight, or answered; and for the status
of stale orders, some are unanswered. -/
theorem never_waits_in_vain (config : Config) (history : AccountHistory Driver Mark)
    (session : Session Driver Mark) (run : (account config).Run RepliesAnswer history session) :
    Waits history session ∧ (session.state = .getStaleOrders → unanswered history ≠ []) := by
  have waits := Waits.of_run (run.weaken fun _ _ _ answers => answers.1)
  have counted := (StaleInvariant.of_run (run.weaken fun _ _ _ answers => answers.2)).counted
  refine ⟨waits, fun current none => waits.queries current ?_⟩
  rw [counted, none]
  rfl

/-- The REST connection is lost while the accounts are requested: their request is in flight. -/
theorem never_waits_in_vain_plain : ∃ history session,
    plainAccount.Run RepliesAnswer history session ∧ session.state = .getBalances ∧
      session.streams.pending .accounts = false ∧ session.responses .accounts = false ∧
      ∃ request ∈ inFlight history, request.kind = .accounts := by
  have run : plainAccount.Run RepliesAnswer _ _ :=
    .of_replay (plainInputs (plainLogin ++ [.orderEntryTimer true fun _ => true,
      .orderEntryDisconnected])) rfl (by decide)
  have waits := never_waits_in_vain plainConfig _ _ run
  rcases waits.1.requests .accounts rfl with pending | responded | flying
  · cases pending
  · cases responded
  · exact ⟨_, _, run, rfl, rfl, rfl, flying⟩

end GateFutures.Gateway
