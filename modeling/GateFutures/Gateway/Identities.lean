/-
This file proves which account and which connection an update of an account's streams names.

An update is made of a message and of what the streams were created with. Every update names the
account, and carries the number of the connection whose event was handled, also where both
connections publish updates of one type.
-/

import GateFutures.Gateway.Steps

namespace GateFutures.Gateway

open Framework Library Protocol Roq

variable {Driver Mark : Type}

/-! ### What an update names -/

/-- The connection that handles an event. -/
def Event.stream : Event → Stream
  | .orderEntryTimer .. | .orderEntryConnected | .orderEntryDisconnected | .accountsReply ..
  | .positionsReply .. | .tradesReply .. => .orderEntry
  | .timer _ | .connected | .disconnected | .ready | .binary | .createOrder .. | .modifyOrder ..
  | .cancelOrder .. | .cancelAllOrders .. | .tradeLogin _ | .tradeSubscribe _ | .tradeBalances _
  | .tradePositions _ | .tradeOrders _ | .tradeTrades _ | .tradeOrderPlace _ | .tradeOrderAmend _
  | .tradeOrderCancel _ | .tradeOrderCancelCp _ | .tradeOrderList _ | .tradeOrderStatus ..
  | .futuresSystem => .dropCopy

/-- The number of a connection. -/
def Config.streamId (config : Config) : Stream → UInt16
  | .dropCopy => config.dropCopyStreamId
  | .orderEntry => config.orderEntryStreamId

/-- The number an update carries. -/
def Output.streamId? (config : Config) : Output → Option UInt16
  | .streamStatus stream _ _ => some (config.streamId stream)
  | .fundsUpdate update => some update.streamId
  | .positionUpdate update => some update.streamId
  | .tradeUpdate update => some update.streamId
  | .cancelAllOrdersAck ack => some ack.streamId
  | .orderUpdate _ | .response .. | .sendText _ | .close | .restRequest .. => none

/-- The account an update names. -/
def Output.account? : Output → Option String
  | .fundsUpdate update => some update.account
  | .positionUpdate update => some update.account
  | .tradeUpdate update => some update.account
  | .orderUpdate update => some update.account
  | .response _ update => update.map OrderUpdate.account
  | .cancelAllOrdersAck ack => some ack.account
  | .streamStatus .. | .sendText _ | .close | .restRequest .. => none

/-- What an update names is the account, and what it carries is the number of the connection. -/
structure Output.Signed (config : Config) (stream : Stream) (output : Output) : Prop where
  streamId : output.streamId? config = none ∨
    output.streamId? config = some (config.streamId stream)
  account : output.account? = none ∨ output.account? = some config.account.name

/-- The kinds that name neither account nor connection, or can only name the trading
connection. -/
def OutputKind.plain : OutputKind → Bool
  | .progress | .close | .sessionFrame | .statusQuery | .orderRequest | .cancelAll
  | .restRequest => true
  | .connection | .funds | .position | .trade | .order | .response | .cancelAllAck => false

theorem Output.Signed.of_plain {config : Config} {stream : Stream} {output : Output}
    (plain : output.kind.plain = true) (progress : output.kind = .progress → stream = .dropCopy) :
    output.Signed config stream := by
  cases output with
  | streamStatus published status reason =>
    cases published with
    | orderEntry => cases status <;> cases plain
    | dropCopy =>
      have same : stream = .dropCopy := by
        cases status with
        | downloading | ready => exact progress rfl
        | _ => cases plain
      exact ⟨Or.inr (congrArg (fun stream => some (config.streamId stream)) same.symm),
        Or.inl rfl⟩
  | sendText | close | restRequest => exact ⟨Or.inl rfl, Or.inl rfl⟩
  | _ => cases plain

/-! ### Signing -/

/-- Every update in what the outbox grew by names the account and carries the number of the
connection. -/
def Streams.Signs (config : Config) (stream : Stream) (before after : Streams Mark) : Prop :=
  ∃ emitted, after.outbox = before.outbox ++ emitted ∧
    ∀ output ∈ emitted, output.Signed config stream

namespace Streams.Signs

variable {config : Config} {stream : Stream} {first second third : Streams Mark}

theorem of_outbox (same : second.outbox = first.outbox) : first.Signs config stream second :=
  ⟨[], by rw [same, List.append_nil], List.forall_mem_nil _⟩

theorem refl (streams : Streams Mark) : streams.Signs config stream streams := of_outbox rfl

theorem trans (earlier : first.Signs config stream second)
    (later : second.Signs config stream third) : first.Signs config stream third := by
  obtain ⟨emitted, outbox, signed⟩ := earlier
  obtain ⟨emitted', outbox', signed'⟩ := later
  refine ⟨emitted ++ emitted', by rw [outbox', outbox, List.append_assoc], fun output member => ?_⟩
  exact (List.mem_append.mp member).elim (signed output) (signed' output)

theorem emit (streams : Streams Mark) {output : Output} (signed : output.Signed config stream) :
    streams.Signs config stream (streams.emit output) :=
  ⟨[output], rfl, by simpa using signed⟩

/-- Outputs of plain kinds are signed. -/
theorem of_adds {kinds : List OutputKind} (adds : first.Adds kinds second)
    (plain : ∀ kind ∈ kinds, kind.plain = true)
    (progress : .progress ∈ kinds → stream = .dropCopy) : first.Signs config stream second := by
  obtain ⟨emitted, outbox, kind⟩ := adds
  exact ⟨emitted, outbox, fun output member =>
    .of_plain (plain _ (kind output member)) fun progresses =>
      progress (progresses ▸ kind output member)⟩

/-- A loop whose body signs signs. -/
theorem foldl {Element : Type} {body : Streams Mark → Element → Streams Mark}
    (each : ∀ (streams : Streams Mark) element,
      streams.Signs config stream (body streams element))
    (elements : List Element) (streams : Streams Mark) :
    streams.Signs config stream (elements.foldl body streams) := by
  induction elements generalizing streams with
  | nil => exact .refl streams
  | cons element rest inductionHypothesis =>
    exact (each streams element).trans (inductionHypothesis (body streams element))

end Streams.Signs

/-! ### Orders -/

/-- An order update names the account. -/
theorem createOrderUpdate_account {width : Nat} {config : Config} {value : OrderItem width}
    {updateType : UpdateType} {update : OrderUpdate}
    (created : DropCopy.createOrderUpdate config value updateType = .ok (some update)) :
    update.account = config.account.name := by
  rw [DropCopy.createOrderUpdate] at created
  split at created
  · cases created
  · obtain ⟨status, -, created⟩ := bind_ok.mp created
    cases created
    rfl

theorem orderUpdate_signed {config : Config} {update : OrderUpdate}
    (named : update.account = config.account.name) (stream : Stream) :
    (Output.orderUpdate update).Signed config stream :=
  ⟨Or.inl rfl, Or.inr (congrArg some named)⟩

theorem publishOrderUpdates_signs {width : Nat} {config : Config} {updateType : UpdateType}
    {items : List (OrderItem width)} {streams after : Streams Mark}
    (published : Session.publishOrderUpdates config updateType items streams = .ok after) :
    streams.Signs config .dropCopy after := by
  induction items generalizing streams with
  | nil =>
    cases published
    exact .refl _
  | cons item rest inductionHypothesis =>
    obtain ⟨update, created, published⟩ := bind_ok.mp published
    refine .trans ?_ (inductionHypothesis published)
    cases update with
    | none => exact .refl streams
    | some update =>
      exact .emit streams (orderUpdate_signed (createOrderUpdate_account created) .dropCopy)

theorem publishAccepted_signs {width : Nat} {config : Config} {requestType : RequestType}
    {requestId : String} {result : OrderItem width} {session next : Session Driver Mark}
    (published : session.publishAccepted config requestType requestId result = .ok next) :
    session.streams.Signs config .dropCopy next.streams := by
  obtain ⟨update, created, published⟩ := bind_ok.mp published
  cases published
  cases update with
  | none => exact .refl session.streams
  | some update =>
    exact .emit session.streams
      ⟨Or.inl rfl, Or.inr (congrArg some (createOrderUpdate_account created))⟩

theorem publishRejected_signs {config : Config} (requestType : RequestType) (version : Nat)
    (requestId text : String) (session : Session Driver Mark) :
    session.streams.Signs config .dropCopy
      (session.publishRejected requestType version requestId text).streams :=
  .emit session.streams ⟨Or.inl rfl, Or.inl rfl⟩

/-! ### Steps -/

variable [LimitRequest Mark] [LawfulLimitRequest Mark] [Download2 DropCopy.State Driver]
  [LawfulDownload2 DropCopy.State Driver]

/-- Events whose outputs are all of plain kinds sign what they emit. -/
theorem handle_plain_signs {config : Config} {context : Context}
    {session next : Session Driver Mark} {event : Event}
    (plain : ∀ kind ∈ event.kinds, kind.plain = true)
    (progress : .progress ∈ event.kinds → event.stream = .dropCopy)
    (handled : session.handle config context event = .ok next) :
    session.streams.Signs config event.stream next.streams :=
  .of_adds (Session.handle_adds handled) plain progress

/-- What a handler emits names the account and carries the number of its connection. -/
theorem Session.handle_signs {config : Config} {context : Context}
    {session next : Session Driver Mark} {event : Event}
    (handled : session.handle config context event = .ok next) :
    session.streams.Signs config event.stream next.streams := by
  by_cases plain : ∀ kind ∈ event.kinds, kind.plain = true
  · refine handle_plain_signs plain (fun progress => ?_) handled
    cases event <;> first | rfl | simp [Event.kinds] at progress
  cases event with
  | disconnected =>
    cases handled
    exact ⟨[_], rfl, by simpa using ⟨Or.inr rfl, Or.inl rfl⟩⟩
  | ready =>
    cases handled
    let published := DropCopy.setConnectionStatus .loginSent "" session.streams
    have signed : session.streams.Signs config .dropCopy published :=
      ⟨[_], rfl, by simpa using ⟨Or.inr rfl, Or.inl rfl⟩⟩
    exact signed.trans ⟨[_], rfl, by simpa using ⟨Or.inl rfl, Or.inl rfl⟩⟩
  | tradeBalances message =>
    cases handled
    exact .foldl (fun streams item => .emit streams ⟨Or.inr rfl, Or.inr rfl⟩) _ session.streams
  | tradePositions message =>
    cases handled
    refine .foldl (fun streams item => ?_) _ session.streams
    split
    · exact .refl streams
    · exact .emit streams ⟨Or.inr rfl, Or.inr rfl⟩
  | tradeOrders message =>
    obtain ⟨streams, published, handled⟩ := bind_ok.mp handled
    cases handled
    exact publishOrderUpdates_signs published
  | tradeTrades message =>
    cases handled
    refine .foldl (fun streams item => ?_) _ session.streams
    dsimp only
    split
    · exact .refl streams
    · exact .emit streams ⟨Or.inr rfl, Or.inr rfl⟩
  | tradeOrderPlace message =>
    simp only [Session.handle, Session.tradeOrderPlace] at handled
    split at handled
    · split at handled
      · exact publishAccepted_signs handled
      · cases handled
        exact .refl session.streams
    · cases handled
      exact publishRejected_signs _ _ _ _ session
  | tradeOrderAmend message =>
    simp only [Session.handle, Session.tradeOrderAmend] at handled
    split at handled
    · exact publishAccepted_signs handled
    · cases handled
      exact publishRejected_signs _ _ _ _ session
  | tradeOrderCancel message =>
    simp only [Session.handle, Session.tradeOrderCancel] at handled
    split at handled
    · exact publishAccepted_signs handled
    · cases handled
      exact publishRejected_signs _ _ _ _ session
  | tradeOrderCancelCp message =>
    cases handled
    exact .emit session.streams ⟨Or.inr rfl, Or.inr rfl⟩
  | tradeOrderList message =>
    obtain ⟨listed, published, handled⟩ := bind_ok.mp handled
    cases handled
    have queries := DropCopy.checkStaleOrders_queries context listed
    have moves := Session.checkRelaxed_cases config context .getOpenOrders
      ⟨DropCopy.checkStaleOrders context listed, session.download⟩ (by decide) (by decide)
    refine ((publishOrderUpdates_signs published).trans
      (.of_adds queries.adds (by simp [OutputKind.plain]) fun _ => rfl)).trans ?_
    rcases moves with ⟨-, stays⟩ | ⟨-, enters⟩
    · exact .of_outbox (congrArg Streams.outbox stays.streams)
    · exact .of_adds enters.streams.adds (by simp [OutputKind.plain]) fun _ => rfl
  | tradeOrderStatus query message =>
    obtain ⟨update, updated, -, moved⟩ := Session.tradeOrderStatus_cases handled
    have resolved : session.streams.Signs config .dropCopy (session.streams.resolve update) := by
      cases update with
      | none => exact .of_outbox rfl
      | some update =>
        refine ⟨[_], rfl, ?_⟩
        rw [List.forall_mem_singleton]
        refine orderUpdate_signed ?_ .dropCopy
        rw [Session.orderStatusUpdate] at updated
        split at updated
        · cases updated
          rfl
        · exact createOrderUpdate_account updated
    refine resolved.trans ?_
    rcases moved with ⟨stays, -⟩ | ⟨-, enters⟩
    · exact .of_outbox (congrArg Streams.outbox stays.streams)
    · exact .of_adds enters.streams.adds (by simp [OutputKind.plain]) fun _ => rfl
  | orderEntryConnected | orderEntryDisconnected =>
    cases handled
    exact ⟨[_], rfl, by simpa using ⟨Or.inr rfl, Or.inl rfl⟩⟩
  | positionsReply request response =>
    obtain ⟨streams, committed, handled⟩ := bind_ok.mp handled
    cases handled
    obtain ⟨message, -, committed⟩ := bind_ok.mp committed
    cases committed
    cases message with
    | none => exact .of_outbox rfl
    | some message =>
      have published : session.streams.Signs config .orderEntry
          (OrderEntry.positions config context message session.streams) := by
        refine .foldl (fun streams item => ?_) _ session.streams
        split
        · exact .refl streams
        · exact .emit streams ⟨Or.inr rfl, Or.inr rfl⟩
      exact published.trans (.of_outbox rfl)
  | tradesReply request response =>
    obtain ⟨streams, committed, handled⟩ := bind_ok.mp handled
    cases handled
    obtain ⟨message, -, committed⟩ := bind_ok.mp committed
    cases committed
    cases message with
    | none => exact .of_outbox rfl
    | some message =>
      have published : session.streams.Signs config .orderEntry
          (OrderEntry.userTrades config context message session.streams) := by
        refine .foldl (fun streams item => ?_) _ session.streams
        dsimp only
        split
        · exact .refl streams
        · exact .emit streams ⟨Or.inr rfl, Or.inr rfl⟩
      exact published.trans (.of_outbox rfl)
  | _ => exact absurd (by simp [Event.kinds, OutputKind.plain]) plain

/-- Every update a step publishes names the account and carries the number of the connection whose
event was handled. -/
theorem Session.step_signed {config : Config} {session next : Session Driver Mark} {input : Input}
    {outputs : List Output} (taken : session.step config input = .ok (next, outputs)) :
    ∀ output ∈ outputs, output.Signed config input.event.stream := by
  obtain ⟨handled, rfl⟩ := Session.step_ok taken
  obtain ⟨emitted, outbox, signed⟩ := Session.handle_signs handled
  rw [show next.streams.outbox = emitted from outbox]
  exact signed

/-- In every run, every update names the account and carries the number of its connection. -/
theorem run_signed {config : Config}
    {allowed : Environment (Session Driver Mark) Input (List Output)}
    {history : AccountHistory Driver Mark} {session : Session Driver Mark}
    (run : (account config).Run allowed history session) :
    ∀ entry ∈ history, ∀ output ∈ entry.output, output.Signed config entry.input.event.stream := by
  refine History.always_iff_forall_mem.mp (run.always fun _ _ _ _ _ _ _ taken => ?_)
  exact Session.step_signed taken

end GateFutures.Gateway
