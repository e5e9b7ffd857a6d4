/-
This file inverts one step of an account's streams: the kinds of outputs it has, and what
it does to the stage of the download and to the recorded responses.
-/

import GateFutures.Gateway.Stages

namespace GateFutures.Gateway

open Framework Library Protocol Roq

variable {Driver Mark : Type}

/-! ### Outputs and progress -/

/-- What was added to an empty outbox is the outbox. -/
theorem Streams.Adds.kinds_of_clear {kinds : List OutputKind} {session : Session Driver Mark}
    {after : Streams Mark} (adds : session.clearOutbox.streams.Adds kinds after) :
    ∀ output ∈ after.outbox, output.kind ∈ kinds := by
  obtain ⟨emitted, outbox, kind⟩ := adds
  rw [outbox]
  simpa [Session.clearOutbox, Session.mapStreams] using kind

/-- No output is progress. -/
def Silent (outputs : List Output) : Prop := ∀ output ∈ outputs, output.kind ≠ .progress

/-- The progress of a step is that it entered a stage. -/
def Announces (stage : DropCopy.State) (outputs : List Output) : Prop :=
  stage.announcement ∈ outputs ∧
    ∀ output ∈ outputs, output.kind = .progress → output = stage.announcement

theorem Silent.not_enters {outputs : List Output} (silent : Silent outputs)
    (state : DropCopy.State) : ¬ EntersStage state outputs :=
  fun enters => silent _ enters rfl

theorem Silent.not_ready {outputs : List Output} (silent : Silent outputs) :
    ¬ PublishesReady outputs :=
  fun ready => silent _ ready rfl

/-- The stage whose entry is announced is the only one. -/
theorem Announces.enters_stage {stage : DropCopy.State} {outputs : List Output}
    (announces : Announces stage outputs) {state : DropCopy.State} (unfinished : state ≠ .done) :
    EntersStage state outputs ↔ state = stage := by
  constructor
  · intro enters
    have same := announces.2 _ enters rfl
    cases stage with
    | done => simp [DropCopy.State.announcement] at same
    | _ =>
      simp only [DropCopy.State.announcement, Output.streamStatus.injEq, true_and] at same
      exact DropCopy.State.enumName_injective same
  · rintro rfl
    cases state with
    | done => exact absurd rfl unfinished
    | _ => exact announces.1

theorem Announces.enters_iff {stage : DropCopy.State} {outputs : List Output}
    (announces : Announces stage outputs) (kind : RestKind) :
    EntersStage kind.stage outputs ↔ kind.stage = stage :=
  announces.enters_stage (by cases kind <;> decide)

theorem Announces.ready_iff {stage : DropCopy.State} {outputs : List Output}
    (announces : Announces stage outputs) : PublishesReady outputs ↔ stage = .done := by
  constructor
  · intro ready
    have same := announces.2 _ ready rfl
    cases stage <;> simp_all [DropCopy.State.announcement]
  · rintro rfl
    exact announces.1

theorem Streams.Adds.silent {kinds : List OutputKind} {before after : Streams Mark}
    (adds : before.Adds kinds after) (unprogressed : OutputKind.progress ∉ kinds)
    (silent : Silent before.outbox) : Silent after.outbox := by
  obtain ⟨emitted, outbox, kind⟩ := adds
  rw [outbox]
  intro output member same
  rcases List.mem_append.mp member with member | member
  · exact silent output member same
  · exact unprogressed (same ▸ kind output member)

theorem Streams.Adds.announces {kinds : List OutputKind} {stage : DropCopy.State}
    {before after : Streams Mark} (adds : before.Adds kinds after)
    (unprogressed : OutputKind.progress ∉ kinds) (announces : Announces stage before.outbox) :
    Announces stage after.outbox := by
  obtain ⟨emitted, outbox, kind⟩ := adds
  rw [outbox]
  refine ⟨List.mem_append_left _ announces.1, fun output member progress => ?_⟩
  rcases List.mem_append.mp member with member | member
  · exact announces.2 output member progress
  · exact absurd (progress ▸ kind output member) unprogressed

theorem Event.quiet_unprogressed {event : Event} (quiet : event.isQuiet = true) :
    event.isDisconnected = false ∧ event.restReply = none ∧ OutputKind.progress ∉ event.kinds := by
  cases event <;>
    simp_all [Event.isQuiet, Event.isDisconnected, Event.restReply, Event.kinds]

theorem Event.reply_unprogressed {event : Event} {reply : RestReply}
    (delivers : event.restReply = some reply) :
    event.isDisconnected = false ∧ OutputKind.progress ∉ event.kinds := by
  cases event <;> simp_all [Event.isDisconnected, Event.restReply, Event.kinds]

variable [LimitRequest Mark]

theorem Streams.Enters.announces {stage : DropCopy.State} {before after : Streams Mark}
    (enters : before.Enters stage after) (silent : Silent before.outbox) :
    Announces stage after.outbox := by
  obtain ⟨frames, outbox, kind⟩ := enters.outbox
  rw [outbox]
  refine ⟨by simp, fun output member progress => ?_⟩
  rcases List.mem_append.mp member with member | member
  · exact absurd progress (silent output member)
  · rcases List.mem_cons.mp member with same | member
    · exact same
    · cases (kind output member).symm.trans progress

variable [Download2 DropCopy.State Driver]

/-! ### How an event is handled -/

/-- A step handles its event with an empty outbox, and outputs what the handler emits. -/
theorem Session.step_ok {config : Config} {session next : Session Driver Mark} {input : Input}
    {outputs : List Output} (taken : session.step config input = .ok (next, outputs)) :
    session.clearOutbox.handle config input.context input.event = .ok next ∧
      outputs = next.streams.outbox := by
  obtain ⟨handled, succeeded, returned⟩ := bind_ok.mp taken
  cases returned
  exact ⟨succeeded, rfl⟩

/-- How an event is handled: quietly, as a reply to a REST request, or by one of the handlers that
move the download or the stale orders on. -/
inductive Session.Handles (config : Config) (context : Context) (session : Session Driver Mark) :
    Event → Session Driver Mark → Prop
  | quiet {event : Event} {next : Session Driver Mark} (quiet : event.isQuiet = true)
      (download : next.download = session.download)
      (emits : session.streams.Emits event.kinds next.streams) :
      Handles config context session event next
  | replies {event : Event} {next : Session Driver Mark} (reply : RestReply)
      (delivers : event.restReply = some reply) (download : next.download = session.download)
      (commits : session.streams.Commits reply.kind event.kinds next.streams) :
      Handles config context session event next
  | timer (refresh : Bool) :
      Handles config context session (.timer refresh) (session.timer config context refresh)
  | disconnected : Handles config context session .disconnected session.disconnected
  | ready : Handles config context session .ready (session.socketReady config context)
  | tradeLogin {message : TradeLogin} {next : Session Driver Mark}
      (handled : session.tradeLogin config context message = .ok next) :
      Handles config context session (.tradeLogin message) next
  | tradeSubscribe {message : TradeSubscribe} {next : Session Driver Mark}
      (handled : session.tradeSubscribe config context message = .ok next) :
      Handles config context session (.tradeSubscribe message) next
  | tradeOrderList {message : TradeOrderList} {next : Session Driver Mark}
      (handled : session.tradeOrderList config context message = .ok next) :
      Handles config context session (.tradeOrderList message) next
  | tradeOrderStatus (query : StatusQuery) {message : TradeOrderStatus}
      {next : Session Driver Mark}
      (handled : session.tradeOrderStatus config context message = .ok next) :
      Handles config context session (.tradeOrderStatus query message) next
  | orderEntryTimer (refresh : Bool) (allowed : RestKind → Bool) :
      Handles config context session (.orderEntryTimer refresh allowed)
        (session.mapStreams (OrderEntry.timer config context.traceInfo refresh allowed))

theorem Session.handles [LawfulLimitRequest Mark] {config : Config} {context : Context}
    {session next : Session Driver Mark} {event : Event}
    (handled : session.handle config context event = .ok next) :
    session.Handles config context event next := by
  by_cases quiet : event.isQuiet = true
  · obtain ⟨download, emits⟩ := handle_quiet quiet handled
    exact .quiet quiet download emits
  cases delivers : event.restReply with
  | some reply =>
    obtain ⟨download, commits⟩ := handle_reply delivers handled
    exact .replies reply delivers download commits
  | none =>
    cases event with
    | timer refresh =>
      cases handled
      exact .timer refresh
    | disconnected =>
      cases handled
      exact .disconnected
    | ready =>
      cases handled
      exact .ready
    | binary => cases handled
    | tradeLogin message => exact .tradeLogin handled
    | tradeSubscribe message => exact .tradeSubscribe handled
    | tradeOrderList message => exact .tradeOrderList handled
    | tradeOrderStatus query message => exact .tradeOrderStatus query handled
    | orderEntryTimer refresh allowed =>
      cases handled
      exact .orderEntryTimer refresh allowed
    | _ => first
      | exact absurd rfl quiet
      | cases delivers

/-! ### Outputs of a step -/

variable [LawfulLimitRequest Mark] [LawfulDownload2 DropCopy.State Driver]

/-- Every handler emits outputs of the event's kinds. -/
theorem Session.handle_adds {config : Config} {context : Context}
    {session next : Session Driver Mark} {event : Event}
    (handled : session.handle config context event = .ok next) :
    session.streams.Adds event.kinds next.streams := by
  cases Session.handles handled with
  | quiet quiet download emits => exact emits.adds
  | replies reply delivers download commits => exact commits.adds
  | timer refresh =>
    obtain ⟨middle, moved, -, clientOrderIds, queries, -⟩ :=
      session.timer_cases config context refresh
    have adds : session.streams.Adds [.progress, .sessionFrame] middle.streams := by
      rcases moved with stays | ⟨-, -, -, enters⟩
      · exact .of_outbox (congrArg Streams.outbox stays.streams)
      · exact enters.streams.adds
    exact (adds.mono (by simp [Event.kinds])).trans (queries.adds.mono (by simp [Event.kinds]))
  | disconnected => exact ⟨[_], rfl, by simp [Output.kind, Event.kinds]⟩
  | ready =>
    exact .trans (.emit _ _ (by simp [Output.kind, Event.kinds]))
      ((Streams.Emits.sendText _ _ (by simp [payloadKind, Event.kinds])).adds)
  | tradeLogin handled =>
    rcases Session.tradeLogin_cases handled with ⟨-, emits⟩ | enters
    · exact emits.adds.mono (by simp [Event.kinds])
    · exact enters.streams.adds.mono (by simp [Event.kinds])
  | tradeSubscribe handled =>
    rcases Session.tradeSubscribe_cases handled with ⟨-, stays⟩ | ⟨-, -, enters⟩
    · exact .of_outbox (congrArg Streams.outbox stays.streams)
    · exact enters.streams.adds
  | tradeOrderList handled =>
    obtain ⟨listed, queried, emits, queries, moved⟩ := Session.tradeOrderList_cases handled
    have adds : queried.Adds [.progress, .sessionFrame] next.streams := by
      rcases moved with ⟨-, stays⟩ | ⟨-, enters⟩
      · exact .of_outbox (congrArg Streams.outbox stays.streams)
      · exact enters.streams.adds
    exact ((emits.adds.mono (by simp [Event.kinds])).trans
      (queries.adds.mono (by simp [Event.kinds]))).trans (adds.mono (by simp [Event.kinds]))
  | tradeOrderStatus query handled =>
    obtain ⟨update, -, -, moved⟩ := Session.tradeOrderStatus_cases handled
    have resolved : session.streams.Adds [.order] (session.streams.resolve update) := by
      cases update with
      | none => exact .of_outbox rfl
      | some update => exact ⟨[_], rfl, by simp [Output.kind]⟩
    have adds : (session.streams.resolve update).Adds [.progress, .sessionFrame]
        next.streams := by
      rcases moved with ⟨stays, -⟩ | ⟨-, enters⟩
      · exact .of_outbox (congrArg Streams.outbox stays.streams)
      · exact enters.streams.adds
    exact (resolved.mono (by simp [Event.kinds])).trans (adds.mono (by simp [Event.kinds]))
  | orderEntryTimer refresh allowed =>
    exact (OrderEntry.timer_sends config context.traceInfo refresh allowed session.streams).adds

omit [LimitRequest Mark] [Download2 DropCopy.State Driver] [LawfulLimitRequest Mark]
  [LawfulDownload2 DropCopy.State Driver] in
theorem Streams.resolve_adds (update : Option OrderUpdate) (streams : Streams Mark) :
    streams.Adds [.order] (streams.resolve update) := by
  cases update with
  | none => exact .of_outbox rfl
  | some update => exact ⟨[_], rfl, by simp [Output.kind]⟩

/-- The event may go on with a download that has begun. -/
def Event.continues : Event → Bool
  | .timer _ | .tradeSubscribe _ | .tradeOrderList _ | .tradeOrderStatus .. => true
  | _ => false

omit [LawfulLimitRequest Mark] in
/-- What the callback, the queries and the updates keep of the streams, every handler that goes on
with the download keeps. -/
theorem Session.handle_keeps {config : Config} {context : Context}
    {session next : Session Driver Mark} {event : Event} (keeps : Streams Mark → Prop)
    (continues : event.continues = true)
    (called : ∀ state sequence streams, keeps streams →
      keeps (DropCopy.download config context state sequence streams).1)
    (checked : ∀ streams, keeps streams → keeps (DropCopy.checkStaleOrders context streams))
    (timed : ∀ refresh, event = .timer refresh → ∀ streams, keeps streams →
      keeps (DropCopy.checkStaleOrders2 config context streams))
    (before : keeps session.streams)
    (published : ∀ streams, session.streams.Emits [.order] streams → keeps streams)
    (resolved : ∀ update, keeps (session.streams.resolve update))
    (handled : session.handle config context event = .ok next) : keeps next.streams := by
  cases event with
  | timer refresh =>
    cases handled
    exact Session.timer_keeps keeps called (timed refresh rfl) refresh session before
  | tradeSubscribe message =>
    have moved (state : DropCopy.State) : keeps (session.check config context state).streams :=
      LawfulDownload2.check_keeps keeps called state session.download session.streams before
    simp only [Session.handle, Session.tradeSubscribe] at handled
    split at handled
    · cases handled
    · cases handled
      split
      · exact moved .subscribeBalances
      · exact moved .subscribePositions
      · exact moved .subscribeOrders
      · exact moved .subscribeTrades
      · exact before
  | tradeOrderList message =>
    obtain ⟨listed, updated, handled⟩ := bind_ok.mp handled
    cases handled
    exact LawfulDownload2.checkRelaxed_keeps keeps called .getOpenOrders session.download _
      (checked listed (published listed (publishOrderUpdates_emits updated)))
  | tradeOrderStatus query message =>
    obtain ⟨update, -, handled⟩ := bind_ok.mp handled
    have same : (update.elim session.streams fun update =>
        session.streams.emit (.orderUpdate update)).dropCopy.downloadStaleOrdersCounter =
          session.streams.dropCopy.downloadStaleOrdersCounter := by
      cases update <;> rfl
    simp only [Session.mapStreams, same] at handled
    split at handled
    · cases handled
    · split at handled
      · cases handled
        exact LawfulDownload2.checkRelaxed_keeps keeps called .getStaleOrders session.download _
          (resolved update)
      · cases handled
        exact resolved update
  | _ => cases continues

/-- The outputs of a step are of the event's kinds. -/
theorem Session.step_kinds {config : Config} {session next : Session Driver Mark}
    {input : Input} {outputs : List Output}
    (taken : session.step config input = .ok (next, outputs)) :
    ∀ output ∈ outputs, output.kind ∈ input.event.kinds := by
  obtain ⟨handled, rfl⟩ := Session.step_ok taken
  exact (Session.handle_adds handled).kinds_of_clear

/-- A step whose event emits none of a kind outputs nothing that is selected of it. -/
theorem Session.step_selects {config : Config} {session next : Session Driver Mark}
    {input : Input} {outputs : List Output} {Value : Type} {select : Output → Option Value}
    {kind : OutputKind} (taken : session.step config input = .ok (next, outputs))
    (selects : ∀ output value, select output = some value → output.kind = kind)
    (absent : kind ∉ input.event.kinds) : outputs.filterMap select = [] := by
  obtain ⟨handled, rfl⟩ := Session.step_ok taken
  exact (Session.handle_adds handled).filterMap selects absent

/-! ### Stages and responses -/

/-- The event may move the download on from a stage. -/
def Event.advances (state : DropCopy.State) : Event → Prop
  | .timer _ => ∃ kind : RestKind, state = kind.stage
  | .tradeSubscribe message =>
    message.status = .success ∧ subscribeStage message.channel = some state
  | .tradeOrderList _ => state = .getOpenOrders
  | .tradeOrderStatus .. => state = .getStaleOrders
  | _ => False

instance (state : DropCopy.State) : (event : Event) → Decidable (event.advances state)
  | .timer _ => decidable_of_iff (¬ ∀ kind : RestKind, state ≠ kind.stage) not_forall_not
  | .tradeSubscribe _ => inferInstanceAs (Decidable (_ ∧ _))
  | .tradeOrderList _ | .tradeOrderStatus .. => inferInstanceAs (Decidable (_ = _))
  | .connected | .disconnected | .ready | .binary | .createOrder .. | .modifyOrder ..
  | .cancelOrder .. | .cancelAllOrders .. | .tradeLogin _ | .tradeBalances _
  | .tradePositions _ | .tradeOrders _ | .tradeTrades _ | .tradeOrderPlace _
  | .tradeOrderAmend _ | .tradeOrderCancel _ | .tradeOrderCancelCp _ | .futuresSystem
  | .orderEntryTimer .. | .orderEntryConnected | .orderEntryDisconnected | .accountsReply ..
  | .positionsReply .. | .tradesReply .. => isFalse id

theorem subscribeStage_ne (channel : Channel) (kind : RestKind) :
    subscribeStage channel ≠ some kind.stage := by
  cases channel <;> cases kind <;> decide

theorem subscribeStage_unfinished (channel : Channel) : subscribeStage channel ≠ some .done := by
  cases channel <;> decide

theorem Event.advances_connected {event : Event} {state : DropCopy.State}
    (advances : event.advances state) : event.isDisconnected = false := by
  cases event <;> first | rfl | cases advances

theorem Event.advances_answers_none {event : Event} {state : DropCopy.State}
    (advances : event.advances state) : event.restReply = none := by
  cases event <;> first | rfl | cases advances

theorem Event.advances_sends_none {event : Event} {state : DropCopy.State}
    (advances : event.advances state) : OutputKind.restRequest ∉ event.kinds := by
  cases event <;> simp_all [Event.advances, Event.kinds]

theorem Event.advances_unfinished {event : Event} {state : DropCopy.State}
    (advances : event.advances state) : state ≠ .done := by
  rintro rfl
  cases event with
  | timer =>
    obtain ⟨kind, same⟩ := advances
    cases kind <;> cases same
  | tradeSubscribe message => exact subscribeStage_unfinished message.channel advances.2
  | tradeOrderList | tradeOrderStatus => cases advances
  | _ => exact advances

/-- `download_stale_orders_counter_`. -/
def Session.counter (session : Session Driver Mark) : Nat :=
  session.streams.dropCopy.downloadStaleOrdersCounter

/-- The responses recorded for a session. -/
def Session.responses (session : Session Driver Mark) : RestKind → Bool :=
  session.streams.responses

/-- What is known when a step leaves one stage for the next: a stage that waits for a REST reply
has its response recorded, and the stage of the stale orders has none left. -/
structure Session.Advances (config : Config) (session : Session Driver Mark) (event : Event)
    (next : Session Driver Mark) (stage : DropCopy.State) : Prop where
  event : event.advances session.state
  stage : stage =
    DropCopy.nextStage config.settings.tradesLookback next.counter session.state
  responded : ∀ kind : RestKind, session.state = kind.stage → session.responses kind = true
  settled : session.state = .getStaleOrders → next.counter = 0

/-- What a step does to the stage of the download, the recorded responses and the published
progress. -/
inductive Session.StageStep (config : Config) (session : Session Driver Mark) (event : Event)
    (next : Session Driver Mark) (outputs : List Output) : Prop
  | stays (connected : event.isDisconnected = false) (unanswered : event.restReply = none)
      (state : next.state = session.state) (responses : next.responses = session.responses)
      (silent : Silent outputs)
  | commits (reply : RestReply) (connected : event.isDisconnected = false)
      (answered : event.restReply = some reply) (state : next.state = session.state)
      (responses : next.responses =
        fun other => if other = reply.kind then true else session.responses other)
      (silent : Silent outputs)
  | resets (disconnected : event.isDisconnected = true) (unanswered : event.restReply = none)
      (state : next.state = .undefined) (silent : Silent outputs)
  | enters (stage : DropCopy.State) (connected : event.isDisconnected = false)
      (unanswered : event.restReply = none)
      (cause : stage = .subscribeBalances ∨ session.Advances config event next stage)
      (state : next.state = stage)
      (responses : next.responses =
        fun kind => if kind.stage = stage then false else session.responses kind)
      (announced : Announces stage outputs)

theorem Streams.Enters.responses {stage : DropCopy.State} {before after : Streams Mark}
    (enters : before.Enters stage after) :
    after.responses = fun kind => if kind.stage = stage then false else before.responses kind := by
  funext kind
  simp only [Streams.responses, enters.request]
  cases kind <;> cases stage <;>
    simp [RestKind.stage, Request.enter, Request.mark, LawfulLimitRequest.hasResponse_request]

/-- Every step of an account's streams is one of the steps above. -/
theorem Session.step_stage {config : Config} {session next : Session Driver Mark}
    {input : Input} {outputs : List Output}
    (taken : session.step config input = .ok (next, outputs)) :
    session.StageStep config input.event next outputs := by
  obtain ⟨handled, rfl⟩ := Session.step_ok taken
  have fresh : Silent session.clearOutbox.streams.outbox := by
    simp [Silent, clearOutbox, mapStreams]
  have same : session.clearOutbox.state = session.state := rfl
  have responses : session.clearOutbox.streams.responses = session.responses := rfl
  have adds := Session.handle_adds handled
  obtain ⟨context, event⟩ := input
  cases Session.handles handled with
  | quiet quiet download emits =>
    obtain ⟨connected, unanswered, unprogressed⟩ := Event.quiet_unprogressed quiet
    exact .stays connected unanswered (congrArg Download2.state download)
      (Streams.responses_of_request emits.request) (adds.silent unprogressed fresh)
  | replies reply delivers download commits =>
    obtain ⟨connected, unprogressed⟩ := Event.reply_unprogressed delivers
    exact .commits reply connected delivers (congrArg Download2.state download)
      commits.responses (adds.silent unprogressed fresh)
  | timer refresh =>
    obtain ⟨middle, moved, download, clientOrderIds, queries, -⟩ :=
      session.clearOutbox.timer_cases config context refresh
    have state := congrArg Download2.state download
    have marks : (session.clearOutbox.timer config context refresh).responses =
        middle.streams.responses := Streams.responses_of_request queries.request
    rcases moved with stays | ⟨kind, current, responded, enters⟩
    · have silent : Silent middle.streams.outbox := by
        rw [stays.streams]
        exact fresh
      exact .stays rfl rfl (state.trans stays.state)
        ((marks.trans (congrArg Streams.responses stays.streams)).trans responses)
        (queries.adds.silent (by simp) silent)
    · have current : session.state = kind.stage := current
      refine .enters _ rfl rfl (Or.inr ⟨⟨kind, current⟩, ?_, ?_, ?_⟩)
        (state.trans enters.state) (marks.trans enters.streams.responses)
        (queries.adds.announces (by simp) (enters.streams.announces fresh))
      · rw [Session.nextStage, same, current]
        cases kind <;> rfl
      · intro other waits
        rw [RestKind.stage_injective (waits.symm.trans current)]
        exact responded
      · intro stale
        cases kind <;> cases stale.symm.trans current
  | disconnected =>
    exact .resets rfl rfl (LawfulDownload2.state_reset _)
      (adds.silent (by simp [Event.kinds]) fresh)
  | ready => exact .stays rfl rfl rfl rfl (adds.silent (by simp [Event.kinds]) fresh)
  | tradeLogin handled =>
    rcases Session.tradeLogin_cases handled with ⟨download, emits⟩ | enters
    · exact .stays rfl rfl (congrArg Download2.state download)
        (Streams.responses_of_request emits.request) (emits.adds.silent (by simp) fresh)
    · exact .enters _ rfl rfl (Or.inl rfl) enters.state enters.streams.responses
        (enters.streams.announces fresh)
  | @tradeSubscribe message next handled =>
    rcases Session.tradeSubscribe_cases handled with
      ⟨-, stays⟩ | ⟨success, channel, enters⟩
    · exact .stays rfl rfl stays.state
        ((congrArg Streams.responses stays.streams).trans responses) (stays.streams ▸ fresh)
    · refine .enters _ rfl rfl (Or.inr ⟨⟨success, channel⟩, ?_, ?_, ?_⟩) enters.state
        enters.streams.responses (enters.streams.announces fresh)
      · rw [Session.counter, enters.streams.counter]
        rfl
      · exact fun kind current => absurd (channel.trans (congrArg some current))
          (subscribeStage_ne message.channel kind)
      · exact fun stale => absurd (channel.trans (congrArg some stale))
          (by cases message.channel <;> decide)
  | tradeOrderList handled =>
    obtain ⟨listed, queried, emits, queries, moved⟩ := Session.tradeOrderList_cases handled
    have marks : queried.responses = session.responses :=
      Streams.responses_of_request (queries.request.trans emits.request)
    have silent := queries.adds.silent (by simp) (emits.adds.silent (by simp) fresh)
    rcases moved with ⟨-, stays⟩ | ⟨current, enters⟩
    · exact .stays rfl rfl stays.state
        ((congrArg Streams.responses stays.streams).trans marks) (stays.streams ▸ silent)
    · have current : session.state = .getOpenOrders := current
      refine .enters _ rfl rfl (Or.inr ⟨current, ?_, ?_, ?_⟩) enters.state
        (marks ▸ enters.streams.responses) (enters.streams.announces silent)
      · rw [Session.counter, enters.streams.counter]
        rfl
      · intro kind waits
        cases kind <;> cases current.symm.trans waits
      · intro stale
        cases current.symm.trans stale
  | tradeOrderStatus query handled =>
    obtain ⟨update, -, -, moved⟩ := Session.tradeOrderStatus_cases handled
    have marks : (session.clearOutbox.streams.resolve update).responses =
        session.responses := by
      cases update <;> rfl
    have silent : Silent (session.clearOutbox.streams.resolve update).outbox := by
      cases update <;>
        simp [Silent, Streams.resolve, Streams.emit, clearOutbox, mapStreams, Output.kind]
    rcases moved with ⟨stays, -⟩ | ⟨⟨last, current⟩, enters⟩
    · exact .stays rfl rfl stays.state
        ((congrArg Streams.responses stays.streams).trans marks) (stays.streams ▸ silent)
    · have current : session.state = .getStaleOrders := current
      have counter : next.counter = 0 := by
        rw [Session.counter, enters.streams.counter]
        exact Nat.sub_eq_zero_of_le (Nat.le_of_eq last)
      refine .enters _ rfl rfl (Or.inr ⟨current, ?_, ?_, fun _ => counter⟩) enters.state
        (marks ▸ enters.streams.responses) (enters.streams.announces silent)
      · rw [current]
        rfl
      · intro kind waits
        cases kind <;> cases current.symm.trans waits
  | orderEntryTimer refresh allowed =>
    have sends := OrderEntry.timer_sends config context.traceInfo refresh allowed
      session.clearOutbox.streams
    exact .stays rfl rfl rfl sends.responses (sends.adds.silent (by simp) fresh)

end GateFutures.Gateway
