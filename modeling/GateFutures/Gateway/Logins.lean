/-
This file proves that a connection introduces itself before it asks for anything.

Frames with credentials carry those of the account. The connection subscribes and queries only
for the user whose login the exchange accepted on that very connection, and it is ready only while
there is such a user.
-/

import GateFutures.Gateway.Waiting

namespace GateFutures.Gateway

open Framework Library Protocol Roq

variable {Driver Mark : Type}

/-! ### Credentials -/

/-- A frame that carries credentials carries those of the account: its key, and a signature of the
frame's own channel, event and instant. -/
def Account.Authenticates (account : Account) (frame : Frame) : Prop :=
  match frame.payload with
  | .login _ timestamp apiKey signature => timestamp = frame.time ∧ apiKey = account.key ∧
      signature = account.createSignatureLogin frame.event frame.channel "" frame.time
  | .subscribe _ key sign => key = account.key ∧
      sign = account.createSignature frame.channel frame.event frame.time
  | _ => True

/-- A subscription is one of the user's. -/
def SubscribesFor (userId : Int) (frame : Frame) : Prop :=
  match frame.payload with
  | .subscribe payload .. => payload.head? = some (toString userId)
  | _ => True

/-- The frames in the outbox carry the account's credentials, and subscribe for its user. -/
def Streams.Authentic (account : Account) (streams : Streams Mark) : Prop :=
  ∀ frame, .sendText frame ∈ streams.outbox →
    account.Authenticates frame ∧ SubscribesFor streams.dropCopy.userId frame

namespace Streams.Authentic

variable {account : Account} {first second : Streams Mark}

/-- Where no session frames were sent, there are no credentials. -/
theorem of_plain (plain : ∀ output ∈ second.outbox, output.kind ≠ .sessionFrame) :
    second.Authentic account := by
  intro frame sent
  have other : payloadKind frame.payload ≠ .sessionFrame := plain _ sent
  rw [Account.Authenticates, SubscribesFor]
  cases payload : frame.payload with
  | login | subscribe => exact absurd (congrArg payloadKind payload) other
  | _ => exact ⟨trivial, trivial⟩

theorem of_adds (authentic : first.Authentic account) {kinds : List OutputKind}
    (adds : first.Adds kinds second) (plain : OutputKind.sessionFrame ∉ kinds)
    (userId : second.dropCopy.userId = first.dropCopy.userId) : second.Authentic account := by
  obtain ⟨emitted, outbox, kind⟩ := adds
  have unsigned : Streams.Authentic account { second with outbox := emitted } :=
    .of_plain fun output added same => plain (same ▸ kind output added)
  intro frame sent
  rw [outbox] at sent
  rcases List.mem_append.mp sent with earlier | added
  · rw [userId]
    exact authentic frame earlier
  · exact unsigned frame added

theorem setConnectionStatus (authentic : first.Authentic account) (status : ConnectionStatus)
    (reason : String) : (DropCopy.setConnectionStatus status reason first).Authentic account := by
  have plain : (Output.streamStatus .dropCopy status reason).kind ≠ .sessionFrame := by
    cases status <;> simp [Output.kind]
  refine authentic.of_adds ⟨[_], rfl, fun output member => ?_⟩
    (fun same => plain (List.mem_singleton.mp same).symm) rfl
  rw [List.mem_singleton.mp member]
  exact List.mem_singleton_self _

theorem sendText (authentic : first.Authentic account) {frame : UInt32 → Frame}
    (signed : ∀ requestId, account.Authenticates (frame requestId) ∧
      SubscribesFor first.dropCopy.userId (frame requestId)) :
    (first.sendText frame).Authentic account := by
  intro other sent
  rcases List.mem_append.mp sent with earlier | added
  · exact authentic other earlier
  · cases List.mem_singleton.mp added
    exact signed _

end Streams.Authentic

variable [LimitRequest Mark]

/-- The callback signs what it sends. -/
theorem DropCopy.download_authentic (config : Config) (context : Context) (state : DropCopy.State)
    (sequence : UInt32) (streams : Streams Mark) (authentic : streams.Authentic config.account) :
    (DropCopy.download config context state sequence streams).1.Authentic config.account := by
  have published (stage : DropCopy.State) :
      (DropCopy.publishDownloading stage streams).Authentic config.account :=
    authentic.setConnectionStatus .downloading stage.enumName
  cases state with
  | undefined => exact authentic
  | subscribeBalances | subscribePositions | subscribeOrders | subscribeTrades =>
    exact (published _).sendText fun _ => ⟨⟨rfl, rfl⟩, rfl⟩
  | getOpenOrders => exact (published _).sendText fun _ => ⟨trivial, trivial⟩
  | getBalances | getPositions => exact published _
  | getStaleOrders =>
    rw [DropCopy.download]
    split
    · exact published _
    · exact authentic
  | getTrades =>
    rw [DropCopy.download]
    split
    · exact published _
    · exact authentic
  | done => exact authentic.setConnectionStatus .ready ""

/-- What only a login or the timer changes: the user, and when stale orders are asked for next. -/
def DropCopy.settled (dropCopy : DropCopy) : Int × Int :=
  (dropCopy.userId, dropCopy.nextCheckStaleOrders)

/-- The callback keeps what is settled. -/
theorem DropCopy.download_settled (config : Config) (context : Context) (state : DropCopy.State)
    (sequence : UInt32) (streams : Streams Mark) :
    (DropCopy.download config context state sequence streams).1.dropCopy.settled =
      streams.dropCopy.settled := by
  cases state with
  | getStaleOrders | getTrades =>
    rw [DropCopy.download]
    split <;> rfl
  | _ => rfl

/-- The callback keeps the user. -/
theorem DropCopy.download_userId (config : Config) (context : Context) (state : DropCopy.State)
    (sequence : UInt32) (streams : Streams Mark) :
    (DropCopy.download config context state sequence streams).1.dropCopy.userId =
      streams.dropCopy.userId :=
  congrArg Prod.fst (DropCopy.download_settled config context state sequence streams)

omit [LimitRequest Mark] in
/-- Queries keep what is settled. -/
theorem DropCopy.checkStaleOrders_settled (context : Context) (streams : Streams Mark) :
    (DropCopy.checkStaleOrders context streams).dropCopy.settled = streams.dropCopy.settled := by
  unfold DropCopy.checkStaleOrders
  induction context.dispatcher.allStaleOrders generalizing streams with
  | nil => rfl
  | cons order later inductionHypothesis => exact inductionHypothesis _

omit [LimitRequest Mark] in
/-- The check of the timer keeps the user. -/
theorem DropCopy.checkStaleOrders2_userId (config : Config) (context : Context)
    (streams : Streams Mark) :
    (DropCopy.checkStaleOrders2 config context streams).dropCopy.userId =
      streams.dropCopy.userId := by
  rw [DropCopy.checkStaleOrders2]
  split
  · exact congrArg Prod.fst (DropCopy.checkStaleOrders_settled context _)
  · rfl

section Handlers

variable [LawfulLimitRequest Mark] [Download2 DropCopy.State Driver]
  [LawfulDownload2 DropCopy.State Driver] {config : Config} {context : Context}
  {session next : Session Driver Mark} {event : Event}

/-- A handler signs what it sends, and subscribes for the user who is logged in. -/
theorem Session.handle_authentic (fresh : session.streams.outbox = [])
    (handled : session.handle config context event = .ok next) :
    next.streams.Authentic config.account := by
  have adds := Session.handle_adds handled
  have empty (streams : Streams Mark) (unsent : streams.outbox = []) :
      streams.Authentic config.account :=
    .of_plain (by simp [unsent])
  by_cases plain : OutputKind.sessionFrame ∉ event.kinds
  · refine .of_plain fun output sent same => plain ?_
    obtain ⟨emitted, outbox, kind⟩ := adds
    rw [outbox, fresh, List.nil_append] at sent
    exact same ▸ kind output sent
  have called := fun state sequence streams =>
    @DropCopy.download_authentic Mark _ config context state sequence streams
  by_cases continues : event.continues = true
  · refine Session.handle_keeps _ continues called (fun streams before => ?_)
      (fun _ _ streams before => ?_) (empty _ fresh) (fun streams emits => ?_) (fun update => ?_)
      handled
    · exact before.of_adds (DropCopy.checkStaleOrders_queries context streams).adds (by simp)
        (congrArg Prod.fst (DropCopy.checkStaleOrders_settled context streams))
    · obtain ⟨clientOrderIds, queries⟩ := DropCopy.checkStaleOrders2_queries config context streams
      exact before.of_adds queries.adds (by simp)
        (DropCopy.checkStaleOrders2_userId config context streams)
    · exact (empty _ fresh).of_adds emits.adds (by simp) (by rw [emits.dropCopy])
    · exact (empty _ fresh).of_adds (session.streams.resolve_adds update) (by simp)
        (by cases update <;> rfl)
  cases event with
  | ready =>
    cases handled
    exact ((empty _ fresh).setConnectionStatus .loginSent "").sendText
      fun _ => ⟨⟨rfl, rfl, rfl⟩, trivial⟩
  | tradeLogin message =>
    simp only [Session.handle, Session.tradeLogin] at handled
    split at handled
    · split at handled
      · cases handled
      · cases handled
        exact LawfulDownload2.begin_keeps _ called session.download _ (empty _ fresh)
    · split at handled
      · cases handled
        exact (empty _ fresh).of_adds (.emit _ _ (List.mem_singleton_self _))
          (by simp [Output.kind]) rfl
      · cases handled
  | timer | tradeSubscribe | tradeOrderList | tradeOrderStatus => exact absurd rfl continues
  | _ => exact absurd (by simp [Event.kinds]) plain

/-- In every run, every frame that carries credentials carries those of the account, signed. -/
theorem run_authentic {allowed : Environment (Session Driver Mark) Input (List Output)}
    {history : AccountHistory Driver Mark} (run : (account config).Run allowed history session) :
    ∀ entry ∈ history, ∀ frame, .sendText frame ∈ entry.output →
      config.account.Authenticates frame := by
  refine History.always_iff_forall_mem.mp (run.always fun _ _ _ _ _ _ _ taken => ?_)
  obtain ⟨handled, rfl⟩ := Session.step_ok taken
  exact fun frame sent => (Session.handle_authentic rfl handled frame sent).1

/-! ### Who is logged in -/

/-- The user who is logged in after an event. -/
def Event.user (user : Option Int) : Event → Option Int
  | .disconnected => none
  | .tradeLogin message => if message.header.status = 200 then some message.uid.toInt else user
  | _ => user

/-- The user whose login was accepted last since the connection was lost. -/
def loggedIn : AccountHistory Driver Mark → Option Int
  | [] => none
  | entry :: earlier => entry.input.event.user (loggedIn earlier)

/-- The frame asks for what a user has. -/
def asksForUser (frame : Frame) : Bool :=
  match frame.payload with
  | .subscribe .. | .orderList .. | .orderStatus .. => true
  | .login .. | .orderPlace .. | .orderAmend .. | .orderCancel .. | .orderCancelCp .. => false

/-- Whatever is asked for is asked for by the user who is logged in. -/
def Addresses (user : Option Int) (frame : Frame) : Prop :=
  (asksForUser frame = true → user.isSome = true) ∧ ∀ userId ∈ user, SubscribesFor userId frame

/-- The frame asks for the list of orders. -/
def asksForOrders (frame : Frame) : Bool :=
  match frame.payload with
  | .orderList _ => true
  | _ => false

/-- The event is the list of orders. -/
def Event.listsOrders : Event → Bool
  | .tradeOrderList _ => true
  | _ => false

/-- A list of orders answers a frame that asked for one over this connection. -/
def ListsAnswer : Environment (Session Driver Mark) Input (List Output) :=
  fun history _ input => input.event.listsOrders = true →
    ∃ frame ∈ sessionFrames history, asksForOrders frame = true

instance (history : AccountHistory Driver Mark) (session : Session Driver Mark)
    (input : Input) : Decidable (ListsAnswer history session input) :=
  inferInstanceAs (Decidable (input.event.listsOrders = true → _))

omit [LimitRequest Mark] [LawfulLimitRequest Mark] [Download2 DropCopy.State Driver]
  [LawfulDownload2 DropCopy.State Driver] in
theorem asksForUser_of_orders {frame : Frame} (asks : asksForOrders frame = true) :
    asksForUser frame = true := by
  rw [asksForOrders] at asks
  rw [asksForUser]
  split at asks
  next payload => rw [payload]
  · cases asks

omit [LimitRequest Mark] [LawfulLimitRequest Mark] [Download2 DropCopy.State Driver]
  [LawfulDownload2 DropCopy.State Driver] in
/-- Only the connection's own frames and queries ask for what a user has. -/
theorem asksForUser_kind {frame : Frame} (asks : asksForUser frame = true) :
    payloadKind frame.payload = .sessionFrame ∨ payloadKind frame.payload = .statusQuery := by
  rw [asksForUser] at asks
  cases payload : frame.payload <;> simp_all [payloadKind]

/-- A connection without a user has not begun a download, and is not ready. -/
structure Introduced (user : Option Int) (session : Session Driver Mark) : Prop where
  state : user = none → session.state = .undefined
  unready : user = none → session.ready = false
  userId : ∀ userId ∈ user, session.streams.dropCopy.userId = userId

omit [LawfulLimitRequest Mark] [LawfulDownload2 DropCopy.State Driver] in
theorem Session.timer_idle (context : Context) (refresh : Bool)
    (state : session.state = .undefined) (unready : session.ready = false) :
    session.timer config context refresh = session := by
  have idle : session.checkRequestQueue config context = session := by
    rw [Session.checkRequestQueue, state]
  rw [Session.timer, idle]
  simp [unready]

/-- What a handler does while nobody is logged in: nothing is begun, and nothing asked for. -/
theorem Session.handle_stranger (fresh : session.streams.outbox = [])
    (state : session.state = .undefined) (unready : session.ready = false)
    (stranger : event.user none = none) (unlisted : event.listsOrders = false)
    (handled : session.handle config context event = .ok next) :
    next.state = .undefined ∧ next.ready = false ∧
      ∀ frame, .sendText frame ∈ next.streams.outbox → asksForUser frame = false := by
  have unasked (kinds : List OutputKind) (adds : session.streams.Adds kinds next.streams)
      (session : OutputKind.sessionFrame ∉ kinds) (query : OutputKind.statusQuery ∉ kinds)
      (frame : Frame) (sent : .sendText frame ∈ next.streams.outbox) :
      asksForUser frame = false := by
    obtain ⟨emitted, outbox, kind⟩ := adds
    rw [outbox, fresh, List.nil_append] at sent
    refine Bool.eq_false_iff.mpr fun asks => ?_
    rcases asksForUser_kind asks with same | same
    · exact session (same ▸ kind _ sent)
    · exact query (same ▸ kind _ sent)
  cases Session.handles handled with
  | quiet quiet download emits =>
    refine ⟨(congrArg Download2.state download).trans state, ?_, unasked _ emits.adds ?_ ?_⟩
    · rw [Session.ready, emits.dropCopy]
      exact unready
    all_goals cases event <;> simp_all [Event.isQuiet, Event.kinds]
  | replies reply delivers download commits =>
    refine ⟨(congrArg Download2.state download).trans state, ?_, unasked _ commits.adds ?_ ?_⟩
    · rw [Session.ready, commits.dropCopy]
      exact unready
    all_goals cases event <;> simp_all [Event.restReply, Event.kinds]
  | timer refresh =>
    rw [Session.timer_idle context refresh state unready]
    rw [Session.timer_idle context refresh state unready] at unasked
    exact ⟨state, unready, unasked [] (.refl _) List.not_mem_nil List.not_mem_nil⟩
  | disconnected =>
    exact ⟨LawfulDownload2.state_reset _, rfl,
      unasked _ (Session.handle_adds handled) (by simp [Event.kinds]) (by simp [Event.kinds])⟩
  | ready =>
    refine ⟨state, rfl, fun frame sent => ?_⟩
    rcases List.mem_append.mp sent with earlier | introduction
    · rcases List.mem_append.mp earlier with before | connects
      · rw [show session.streams.outbox = [] from fresh] at before
        cases before
      · cases List.mem_singleton.mp connects
    · cases List.mem_singleton.mp introduction
      rfl
  | @tradeLogin message next handled =>
    rw [Session.tradeLogin] at handled
    have refused : message.header.status ≠ 200 := fun accepted => by
      cases (if_pos accepted).symm.trans stranger
    rw [if_neg refused] at handled
    split at handled
    · cases handled
      exact ⟨state, unready, unasked [.close] (.emit _ _ (List.mem_singleton_self _))
        (by simp) (by simp)⟩
    · cases handled
  | @tradeSubscribe message next handled =>
    rcases Session.tradeSubscribe_cases handled with ⟨-, stays⟩ | ⟨-, current, -⟩
    · refine ⟨stays.state.trans state, ?_, unasked [] (.of_outbox ?_) (by simp) (by simp)⟩
      · rw [Session.ready, stays.streams]
        exact unready
      · rw [stays.streams]
    · rw [state] at current
      cases channel : message.channel <;> rw [channel] at current <;> cases current
  | tradeOrderList handled => cases unlisted
  | tradeOrderStatus query handled =>
    obtain ⟨update, -, -, ⟨stays, -⟩ | ⟨⟨-, current⟩, -⟩⟩ := Session.tradeOrderStatus_cases handled
    · refine ⟨stays.state.trans state, ?_, unasked [.order] ?_ (by simp) (by simp)⟩
      · rw [Session.ready, stays.streams]
        cases update <;> exact unready
      · rw [stays.streams]
        exact session.streams.resolve_adds update
    · cases state.symm.trans current
  | orderEntryTimer refresh allowed =>
    have sends := OrderEntry.timer_sends config context.traceInfo refresh allowed session.streams
    refine ⟨state, ?_, unasked _ sends.adds (by simp) (by simp)⟩
    rw [Session.ready, Session.mapStreams, sends.dropCopy]
    exact unready

/-- Other events than a login and the timer keep what is settled. -/
theorem Session.handle_settled (stranger : ∀ message, event ≠ .tradeLogin message)
    (untimed : ∀ refresh, event ≠ .timer refresh)
    (handled : session.handle config context event = .ok next) :
    next.streams.dropCopy.settled = session.streams.dropCopy.settled := by
  by_cases continues : event.continues = true
  · refine Session.handle_keeps
      (fun streams => streams.dropCopy.settled = session.streams.dropCopy.settled) continues
      (fun stage sequence streams same => ?_) (fun streams same => ?_)
      (fun refresh timer => absurd timer (untimed refresh)) rfl
      (fun streams emits => by rw [emits.dropCopy]; rfl) (fun update => by cases update <;> rfl)
      handled
    · exact (DropCopy.download_settled config context stage sequence streams).trans same
    · exact (DropCopy.checkStaleOrders_settled context streams).trans same
  cases Session.handles handled with
  | quiet quiet download emits =>
    rw [emits.dropCopy]
    rfl
  | replies reply delivers download commits =>
    rw [commits.dropCopy]
    rfl
  | disconnected | ready => rfl
  | tradeLogin handled => exact absurd rfl (stranger _)
  | timer | tradeSubscribe | tradeOrderList | tradeOrderStatus => exact absurd rfl continues
  | orderEntryTimer refresh allowed =>
    exact congrArg DropCopy.settled
      (OrderEntry.timer_sends config context.traceInfo refresh allowed session.streams).dropCopy

/-- Only an accepted login changes the user that the connection subscribes for. -/
theorem Session.handle_userId (stranger : ∀ message, event ≠ .tradeLogin message)
    (handled : session.handle config context event = .ok next) :
    next.streams.dropCopy.userId = session.streams.dropCopy.userId := by
  by_cases timer : ∃ refresh, event = .timer refresh
  · obtain ⟨refresh, rfl⟩ := timer
    cases handled
    exact Session.timer_keeps
      (fun streams => streams.dropCopy.userId = session.streams.dropCopy.userId)
      (fun stage sequence streams same =>
        (DropCopy.download_userId config context stage sequence streams).trans same)
      (fun streams same => (DropCopy.checkStaleOrders2_userId config context streams).trans same)
      refresh session rfl
  · exact congrArg Prod.fst
      (Session.handle_settled stranger (fun refresh same => timer ⟨refresh, same⟩) handled)

omit [LawfulLimitRequest Mark] in
/-- After a login that was accepted, the connection subscribes for its user. -/
theorem Session.tradeLogin_userId {message : TradeLogin}
    (handled : session.tradeLogin config context message = .ok next) :
    next.streams.dropCopy.userId = if message.header.status = 200 then message.uid.toInt
      else session.streams.dropCopy.userId := by
  rw [Session.tradeLogin] at handled
  split at handled
  next accepted =>
    rw [if_pos accepted]
    split at handled
    · cases handled
    · cases handled
      exact LawfulDownload2.begin_keeps
        (fun streams : Streams Mark => streams.dropCopy.userId = message.uid.toInt)
        (fun stage sequence streams same =>
          (DropCopy.download_userId config context stage sequence streams).trans same)
        session.download _ rfl
  next refused =>
    rw [if_neg refused]
    split at handled
    · cases handled
      rfl
    · cases handled

omit [LimitRequest Mark] [LawfulLimitRequest Mark] [Download2 DropCopy.State Driver]
  [LawfulDownload2 DropCopy.State Driver] in
/-- Nobody is logged in after the connection was lost, and where nobody was and no login was
accepted. -/
theorem Event.user_eq_none {user : Option Int} (stranger : event.user user = none) :
    event = .disconnected ∨ user = none ∧ event.user none = none := by
  cases event with
  | disconnected => exact Or.inl rfl
  | tradeLogin message =>
    rw [Event.user] at stranger
    split at stranger
    · cases stranger
    next refused => exact Or.inr ⟨stranger, if_neg refused⟩
  | _ => exact Or.inr ⟨stranger, rfl⟩

omit [LimitRequest Mark] [LawfulLimitRequest Mark] [Download2 DropCopy.State Driver]
  [LawfulDownload2 DropCopy.State Driver] in
/-- While the connection is not lost, somebody stays logged in. -/
theorem Event.user_isSome {user : Option Int} (connected : event.isDisconnected = false)
    (known : user.isSome = true) : (event.user user).isSome = true := by
  cases event with
  | disconnected => cases connected
  | tradeLogin message =>
    rw [Event.user]
    split
    · rfl
    · exact known
  | _ => exact known

namespace Introduced

variable {user : Option Int}

theorem handle_userId (introduced : Introduced user session)
    (handled : session.handle config context event = .ok next) :
    ∀ userId ∈ event.user user, next.streams.dropCopy.userId = userId := by
  intro userId known
  by_cases login : ∃ message, event = .tradeLogin message
  · obtain ⟨message, rfl⟩ := login
    rw [Session.tradeLogin_userId handled]
    rw [Event.user] at known
    split
    next accepted =>
      rw [if_pos accepted] at known
      exact Option.some.inj known
    next refused =>
      rw [if_neg refused] at known
      exact introduced.userId userId known
  · rw [Session.handle_userId (fun message same => login ⟨message, same⟩) handled]
    refine introduced.userId userId ?_
    cases event with
    | disconnected => cases known
    | tradeLogin message => exact absurd ⟨message, rfl⟩ login
    | _ => exact known

/-- A handler keeps the connection introduced, and asks only for the user who is logged in. -/
theorem handle (introduced : Introduced user session) (fresh : session.streams.outbox = [])
    (listed : event.listsOrders = true → user.isSome = true)
    (handled : session.handle config context event = .ok next) :
    Introduced (event.user user) next ∧
      ∀ frame, .sendText frame ∈ next.streams.outbox → Addresses (event.user user) frame := by
  have userId := introduced.handle_userId handled
  have stranger (nobody : event.user user = none) : next.state = .undefined ∧
      next.ready = false ∧
        ∀ frame, .sendText frame ∈ next.streams.outbox → asksForUser frame = false := by
    rcases Event.user_eq_none nobody with rfl | ⟨rfl, still⟩
    · cases handled
      refine ⟨LawfulDownload2.state_reset _, rfl, fun frame sent => ?_⟩
      rcases List.mem_append.mp sent with before | connects
      · rw [show session.streams.outbox = [] from fresh] at before
        cases before
      · cases List.mem_singleton.mp connects
    · exact Session.handle_stranger fresh (introduced.state rfl) (introduced.unready rfl) still
        (Bool.eq_false_iff.mpr fun lists => Bool.false_ne_true (listed lists)) handled
  refine ⟨⟨fun nobody => (stranger nobody).1, fun nobody => (stranger nobody).2.1, userId⟩,
    fun frame sent => ⟨fun asks => ?_, fun known logged => ?_⟩⟩
  · refine Option.isSome_iff_ne_none.mpr fun nobody => ?_
    cases asks.symm.trans ((stranger nobody).2.2 frame sent)
  · rw [← userId known logged]
    exact (Session.handle_authentic fresh handled frame sent).2

end Introduced

/-- The connection is introduced, and asked only as a user. -/
structure LoginInvariant (history : AccountHistory Driver Mark) (session : Session Driver Mark) :
    Prop where
  introduced : Introduced (loggedIn history) session
  asked : ∀ frame ∈ sessionFrames history, asksForUser frame = true →
    (loggedIn history).isSome = true

namespace LoginInvariant

variable {history : AccountHistory Driver Mark} {input : Input} {outputs : List Output}

theorem step (invariant : LoginInvariant history session)
    (answers : ListsAnswer history session input)
    (taken : session.step config input = .ok (next, outputs)) :
    LoginInvariant (⟨session, input, outputs⟩ :: history) next ∧
      ∀ frame, .sendText frame ∈ outputs →
        Addresses (loggedIn (⟨session, input, outputs⟩ :: history)) frame := by
  obtain ⟨handled, rfl⟩ := Session.step_ok taken
  have introduced : Introduced (loggedIn history) session.clearOutbox :=
    ⟨invariant.introduced.state, invariant.introduced.unready, invariant.introduced.userId⟩
  have listed (lists : input.event.listsOrders = true) : (loggedIn history).isSome = true := by
    obtain ⟨frame, sent, asks⟩ := answers lists
    exact invariant.asked frame sent (asksForUser_of_orders asks)
  obtain ⟨next, addresses⟩ := introduced.handle rfl listed handled
  refine ⟨⟨next, fun frame sent asks => ?_⟩, addresses⟩
  rw [sessionFrames] at sent
  split at sent
  · cases sent
  next connected =>
    rcases List.mem_append.mp sent with earlier | added
    · exact Event.user_isSome (Bool.eq_false_iff.mpr connected)
        (invariant.asked frame earlier asks)
    · obtain ⟨output, added, same⟩ := List.mem_filterMap.mp added
      cases output with
      | sendText other =>
        cases same
        exact (addresses frame added).1 asks
      | _ => cases same

theorem of_run (run : (account config).Run ListsAnswer history session) :
    LoginInvariant history session := by
  refine run.invariant LoginInvariant ?_
    fun history session input next outputs invariant answers taken =>
      (invariant.step answers taken).1
  have state : ((account config).initial : Session Driver Mark).state = .undefined :=
    LawfulDownload2.state_initial
  exact ⟨⟨fun _ => state, fun _ => rfl, nofun⟩, List.forall_mem_nil _⟩

end LoginInvariant

/-- In every run, the connection is ready only while a user is logged in whose login was accepted
since the connection was lost last, and only then asks for what a user has: it subscribes for that
very user. -/
theorem introduced_first (config : Config) (history : AccountHistory Driver Mark)
    (session : Session Driver Mark) (run : (account config).Run ListsAnswer history session) :
    (session.ready = true → (loggedIn history).isSome = true) ∧
      History.Always (fun earlier entry => ∀ frame, .sendText frame ∈ entry.output →
        Addresses (loggedIn (entry :: earlier)) frame) history := by
  refine ⟨fun ready => Option.isSome_iff_ne_none.mpr fun nobody => ?_, run.always
    fun _ _ _ _ _ before answers taken => ((LoginInvariant.of_run before).step answers taken).2⟩
  cases ready.symm.trans ((LoginInvariant.of_run run).introduced.unready nobody)

end Handlers

/-- A connection that got through its order list is lost, and comes back for another user. -/
def plainReturn : List Input :=
  plainDownload (.result .success 200 (some ())) (.result .success 200 (some ⟨[]⟩)) [] ++
    plainInputs [.disconnected, .ready, .tradeLogin ⟨⟨0, 200⟩, 2⟩]

/-- It subscribes for the other user. -/
theorem introduced_first_plain : ∃ history session entry earlier frame payload key sign,
    plainAccount.Run ListsAnswer history session ∧ history = entry :: earlier ∧
      .sendText frame ∈ entry.output ∧ frame.payload = .subscribe payload key sign ∧
      payload.head? = some (toString (2 : Int)) := by
  have run : plainAccount.Run ListsAnswer _ _ := .of_replay plainReturn rfl (by decide)
  have introduced := introduced_first plainConfig _ _ run
  have addresses := introduced.2.1 _ (List.mem_cons_of_mem _ List.mem_cons_self)
  exact ⟨_, _, _, _, _, _, _, _, run, rfl, List.mem_cons_of_mem _ List.mem_cons_self, rfl,
    addresses.2 2 rfl⟩

end GateFutures.Gateway
