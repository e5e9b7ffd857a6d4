/-
This file bounds what one step of an account's streams can do.

Outputs are sorted into kinds, and every event has the kinds its handler may emit. Most
events are quiet: their handlers emit, and otherwise touch nothing of the trading
connection but its request id.
-/

import GateFutures.Gateway.Account

namespace GateFutures.Gateway

open Framework Library Protocol Roq

/-! ### Kinds of outputs -/

/-- What an output is about. -/
inductive OutputKind
  | connection
  | progress
  | funds
  | position
  | trade
  | order
  | response
  | cancelAllAck
  | close
  | sessionFrame
  | statusQuery
  | orderRequest
  | cancelAll
  | restRequest
  deriving DecidableEq

/-- The kind of a frame. -/
def payloadKind : Payload → OutputKind
  | .login .. | .subscribe .. | .orderList .. => .sessionFrame
  | .orderStatus .. => .statusQuery
  | .orderPlace .. | .orderAmend .. | .orderCancel .. => .orderRequest
  | .orderCancelCp .. => .cancelAll

/-- The kind of an output. Only the trading connection's `DOWNLOADING` and `READY` are
progress. -/
def Output.kind : Output → OutputKind
  | .streamStatus .dropCopy .downloading _ | .streamStatus .dropCopy .ready _ => .progress
  | .streamStatus .. => .connection
  | .fundsUpdate _ => .funds
  | .positionUpdate _ => .position
  | .tradeUpdate _ => .trade
  | .orderUpdate _ => .order
  | .response .. => .response
  | .cancelAllOrdersAck _ => .cancelAllAck
  | .close => .close
  | .sendText frame => payloadKind frame.payload
  | .restRequest .. => .restRequest

/-- The kinds of outputs the handler of an event may emit. -/
def Event.kinds : Event → List OutputKind
  | .timer _ => [.progress, .sessionFrame, .statusQuery]
  | .connected | .binary | .futuresSystem | .accountsReply .. => []
  | .disconnected | .orderEntryConnected | .orderEntryDisconnected => [.connection]
  | .ready => [.connection, .sessionFrame]
  | .createOrder .. | .modifyOrder .. | .cancelOrder .. => [.orderRequest]
  | .cancelAllOrders .. => [.cancelAll]
  | .tradeLogin _ => [.progress, .sessionFrame, .close]
  | .tradeSubscribe _ => [.progress, .sessionFrame]
  | .tradeBalances _ => [.funds]
  | .tradePositions _ | .positionsReply .. => [.position]
  | .tradeOrders _ => [.order]
  | .tradeTrades _ | .tradesReply .. => [.trade]
  | .tradeOrderPlace _ | .tradeOrderAmend _ | .tradeOrderCancel _ => [.response]
  | .tradeOrderCancelCp _ => [.cancelAllAck]
  | .tradeOrderList _ => [.order, .statusQuery, .progress, .sessionFrame]
  | .tradeOrderStatus .. => [.order, .progress, .sessionFrame]
  | .orderEntryTimer .. => [.restRequest]

/-- The event's handler emits, and otherwise touches nothing of the trading connection but
its request id. -/
def Event.isQuiet : Event → Bool
  | .timer _ | .disconnected | .ready | .binary | .tradeLogin _ | .tradeSubscribe _
  | .tradeOrderList _ | .tradeOrderStatus .. | .orderEntryTimer .. | .accountsReply ..
  | .positionsReply .. | .tradesReply .. => false
  | _ => true

/-! ### Adding to the outbox -/

variable {Mark : Type}

/-- The outbox grew by outputs of the given kinds. -/
def Streams.Adds (kinds : List OutputKind) (before after : Streams Mark) : Prop :=
  ∃ emitted, after.outbox = before.outbox ++ emitted ∧ ∀ output ∈ emitted, output.kind ∈ kinds

namespace Streams.Adds

variable {kinds wider : List OutputKind} {first second third : Streams Mark}

theorem of_outbox (same : second.outbox = first.outbox) : first.Adds kinds second :=
  ⟨[], by rw [same, List.append_nil], by simp⟩

theorem refl (streams : Streams Mark) : streams.Adds kinds streams := of_outbox rfl

theorem trans (earlier : first.Adds kinds second) (later : second.Adds kinds third) :
    first.Adds kinds third := by
  obtain ⟨emitted, outbox, kind⟩ := earlier
  obtain ⟨emitted', outbox', kind'⟩ := later
  refine ⟨emitted ++ emitted', by rw [outbox', outbox, List.append_assoc], ?_⟩
  intro output member
  rcases List.mem_append.mp member with member | member
  · exact kind output member
  · exact kind' output member

theorem mono (adds : first.Adds kinds second) (within : kinds ⊆ wider) :
    first.Adds wider second := by
  obtain ⟨emitted, outbox, kind⟩ := adds
  exact ⟨emitted, outbox, fun output member => within (kind output member)⟩

theorem emit (streams : Streams Mark) (output : Output) (allowed : output.kind ∈ kinds) :
    streams.Adds kinds (streams.emit output) :=
  ⟨[output], rfl, by simpa using allowed⟩

/-- Outputs of other kinds do not change what is selected of one kind. -/
theorem filterMap {Value : Type} {select : Output → Option Value} {kind : OutputKind}
    (adds : first.Adds kinds second)
    (selects : ∀ output value, select output = some value → output.kind = kind)
    (absent : kind ∉ kinds) :
    second.outbox.filterMap select = first.outbox.filterMap select := by
  obtain ⟨emitted, outbox, others⟩ := adds
  have none : emitted.filterMap select = [] := by
    refine List.filterMap_eq_nil_iff.mpr fun output member => ?_
    cases selected : select output with
    | none => rfl
    | some value => exact absurd (selects output value selected ▸ others output member) absent
  rw [outbox, List.filterMap_append, none, List.append_nil]

end Streams.Adds

theorem Output.statusQuery_kind (stage : DropCopy.State) (output : Output) (query : StatusQuery)
    (queries : output.statusQuery stage = some query) : output.kind = .statusQuery := by
  cases output with
  | sendText frame =>
    obtain ⟨id, time, channel, event, payload⟩ := frame
    cases payload <;> first | rfl | cases queries
  | _ => cases queries

theorem Output.orderRequest_kind (output : Output) (request : String × RequestType)
    (requests : output.orderRequest = some request) : output.kind = .orderRequest := by
  cases output with
  | sendText frame =>
    obtain ⟨id, time, channel, event, payload⟩ := frame
    cases payload <;> first | rfl | cases requests
  | _ => cases requests

theorem Output.response_kind (output : Output) (answer : Response)
    (dispatches : output.response? = some answer) : output.kind = .response := by
  cases output <;> first | rfl | cases dispatches

theorem Output.orderUpdate_kind (output : Output) (update : OrderUpdate)
    (dispatches : output.orderUpdate? = some update) : output.kind = .order := by
  cases output <;> first | rfl | cases dispatches

theorem Output.positionUpdate_kind (output : Output) (update : PositionUpdate)
    (dispatches : output.positionUpdate? = some update) : output.kind = .position := by
  cases output <;> first | rfl | cases dispatches

/-- The outbox grew by outputs of the given kinds, and nothing else of the trading connection
or the request marks changed but the request id. -/
structure Streams.Emits (kinds : List OutputKind) (before after : Streams Mark) : Prop where
  adds : before.Adds kinds after
  dropCopy : after.dropCopy =
    { before.dropCopy with requestId := after.dropCopy.requestId }
  request : after.request = before.request

namespace Streams.Emits

variable {kinds : List OutputKind} {first second third : Streams Mark}

theorem refl (streams : Streams Mark) : streams.Emits kinds streams :=
  ⟨.refl streams, rfl, rfl⟩

theorem trans (earlier : first.Emits kinds second) (later : second.Emits kinds third) :
    first.Emits kinds third :=
  ⟨earlier.adds.trans later.adds, by rw [later.dropCopy, earlier.dropCopy],
    by rw [later.request, earlier.request]⟩

theorem emit (streams : Streams Mark) (output : Output) (allowed : output.kind ∈ kinds) :
    streams.Emits kinds (streams.emit output) :=
  ⟨.emit streams output allowed, rfl, rfl⟩

theorem sendText (streams : Streams Mark) (frame : UInt32 → Frame)
    (allowed : ∀ requestId, payloadKind (frame requestId).payload ∈ kinds) :
    streams.Emits kinds (streams.sendText frame) :=
  ⟨⟨[_], rfl, by simpa [Output.kind] using allowed (streams.dropCopy.requestId + 1)⟩, rfl, rfl⟩

/-- A loop emits what its body emits. -/
theorem foldl {Element : Type} {body : Streams Mark → Element → Streams Mark}
    (each : ∀ (streams : Streams Mark) element, streams.Emits kinds (body streams element))
    (elements : List Element) (streams : Streams Mark) :
    streams.Emits kinds (elements.foldl body streams) := by
  induction elements generalizing streams with
  | nil => exact .refl streams
  | cons element rest inductionHypothesis =>
    exact (each streams element).trans (inductionHypothesis (body streams element))

/-- A value that may be missing emits nothing then. -/
theorem elim {Value : Type} {streams : Streams Mark} {act : Value → Streams Mark}
    (emits : ∀ value, streams.Emits kinds (act value)) (value : Option Value) :
    streams.Emits kinds (value.elim streams act) := by
  cases value with
  | none => exact .refl streams
  | some value => exact emits value

@[simp] theorem counter (emits : first.Emits kinds second) :
    second.dropCopy.downloadStaleOrdersCounter = first.dropCopy.downloadStaleOrdersCounter := by
  rw [emits.dropCopy]

end Streams.Emits

/-! ### Handlers that only emit -/

theorem OrderEntry.positions_emits (config : Config) (context : Context) (message : Positions)
    (streams : Streams Mark) :
    streams.Emits [.position] (OrderEntry.positions config context message streams) := by
  refine .foldl (fun streams item => ?_) _ streams
  split
  · exact .refl streams
  · exact .emit streams _ (by simp [Output.kind])

theorem OrderEntry.userTrades_emits (config : Config) (context : Context)
    (message : UserTrades) (streams : Streams Mark) :
    streams.Emits [.trade] (OrderEntry.userTrades config context message streams) := by
  refine .foldl (fun streams item => ?_) _ streams
  simp only []
  split
  · exact .refl streams
  · exact .emit streams _ (by simp [Output.kind])

variable {Driver : Type}

theorem publishOrderUpdates_emits {width : Nat} {config : Config} {updateType : UpdateType}
    {items : List (OrderItem width)} {streams after : Streams Mark}
    (published : Session.publishOrderUpdates config updateType items streams = .ok after) :
    streams.Emits [.order] after := by
  induction items generalizing streams with
  | nil =>
    cases published
    exact .refl _
  | cons item rest inductionHypothesis =>
    obtain ⟨update, -, published⟩ := bind_ok.mp published
    exact (Streams.Emits.elim (fun _ => .emit streams _ (by simp [Output.kind])) update).trans
      (inductionHypothesis published)

theorem publishAccepted_emits {width : Nat} {config : Config} {requestType : RequestType}
    {requestId : String} {result : OrderItem width} {session next : Session Driver Mark}
    (published : session.publishAccepted config requestType requestId result = .ok next) :
    next.download = session.download ∧ session.streams.Emits [.response] next.streams := by
  obtain ⟨update, -, published⟩ := bind_ok.mp published
  cases published
  exact ⟨rfl, .elim (fun _ => .emit session.streams _ (by simp [Output.kind])) update⟩

theorem publishRejected_emits (requestType : RequestType) (version : Nat)
    (requestId text : String) (session : Session Driver Mark) :
    session.streams.Emits [.response]
      (session.publishRejected requestType version requestId text).streams :=
  .emit session.streams _ (by simp [Output.kind])

theorem createOrder_emits (config : Config) (messageInfo : MessageInfo) (request : CreateOrder)
    (order : Order) (refData : RefData) (requestId : String) (session : Session Driver Mark) :
    session.streams.Emits [.orderRequest]
      (session.createOrder config messageInfo request order refData requestId).streams := by
  simp only [Session.createOrder, Session.mapStreams]
  split
  next frame encoded =>
    obtain ⟨tif, -, encoded⟩ := bind_ok.mp encoded
    cases encoded
    exact .sendText session.streams _ (by simp [payloadKind])
  next => exact ⟨.of_outbox rfl, rfl, rfl⟩

variable [LimitRequest Mark] [Download2 DropCopy.State Driver]

/-- A quiet event's handler emits outputs of its kinds, and leaves the download alone. -/
theorem handle_quiet {config : Config} {context : Context} {session next : Session Driver Mark}
    {event : Event} (quiet : event.isQuiet = true)
    (handled : session.handle config context event = .ok next) :
    next.download = session.download ∧ session.streams.Emits event.kinds next.streams := by
  cases event with
  | timer | disconnected | ready | binary | tradeLogin | tradeSubscribe | tradeOrderList
  | tradeOrderStatus | orderEntryTimer | accountsReply | positionsReply | tradesReply =>
    cases quiet
  | connected | futuresSystem =>
    cases handled
    exact ⟨rfl, .refl session.streams⟩
  | createOrder messageInfo request order refData requestId =>
    cases handled
    exact ⟨rfl, createOrder_emits config messageInfo request order refData requestId session⟩
  | modifyOrder | cancelOrder =>
    cases handled
    exact ⟨rfl, .sendText session.streams _ (by
      simp [Encoder.orderAmend, Encoder.orderCancel, payloadKind, Event.kinds])⟩
  | cancelAllOrders messageInfo requestId =>
    cases handled
    exact ⟨rfl, .foldl (fun streams symbol => .sendText streams _ (by
      simp [Encoder.orderCancelCp, payloadKind, Event.kinds])) _ session.streams⟩
  | tradeBalances message =>
    cases handled
    exact ⟨rfl, .foldl (fun streams item => .emit streams _ (by simp [Output.kind, Event.kinds]))
      _ session.streams⟩
  | tradePositions message =>
    cases handled
    refine ⟨rfl, .foldl (fun streams item => ?_) _ session.streams⟩
    split
    · exact .refl streams
    · exact .emit streams _ (by simp [Output.kind, Event.kinds])
  | tradeOrders message =>
    obtain ⟨streams, published, handled⟩ := bind_ok.mp handled
    cases handled
    exact ⟨rfl, publishOrderUpdates_emits published⟩
  | tradeTrades message =>
    cases handled
    refine ⟨rfl, .foldl (fun streams item => ?_) _ session.streams⟩
    simp only []
    split
    · exact .refl streams
    · exact .emit streams _ (by simp [Output.kind, Event.kinds])
  | tradeOrderPlace message =>
    simp only [Session.handle, Session.tradeOrderPlace] at handled
    split at handled
    · split at handled
      · exact publishAccepted_emits handled
      · cases handled
        exact ⟨rfl, .refl session.streams⟩
    · cases handled
      exact ⟨rfl, publishRejected_emits _ _ _ _ session⟩
  | tradeOrderAmend message =>
    simp only [Session.handle, Session.tradeOrderAmend] at handled
    split at handled
    · exact publishAccepted_emits handled
    · cases handled
      exact ⟨rfl, publishRejected_emits _ _ _ _ session⟩
  | tradeOrderCancel message =>
    simp only [Session.handle, Session.tradeOrderCancel] at handled
    split at handled
    · exact publishAccepted_emits handled
    · cases handled
      exact ⟨rfl, publishRejected_emits _ _ _ _ session⟩
  | tradeOrderCancelCp message =>
    cases handled
    exact ⟨rfl, .emit session.streams _ (by simp [Output.kind, Event.kinds])⟩
  | orderEntryConnected | orderEntryDisconnected =>
    cases handled
    exact ⟨rfl, ⟨[_], rfl, by simp [Output.kind, Event.kinds]⟩, rfl, rfl⟩

end GateFutures.Gateway
