/-
This file proves when every frame of the trading connection has the same envelope: an id
greater than every earlier one, and its instant in whole seconds.

Every sender takes the next request id. The session's own senders cast their instant to
seconds, the order actions write it as it is, in nanoseconds. So the envelopes agree exactly
in the runs in which no order action sends a frame.
-/

import GateFutures.Gateway.Steps
import Mathlib.Algebra.Group.Nat.Defs

namespace GateFutures.Gateway

open Framework Library Protocol Roq

variable {Driver Mark : Type}

/-! ### Frames and instants -/

/-- The frame an output sends. -/
def Output.frame? : Output → Option Frame
  | .sendText frame => some frame
  | _ => none

/-- The frames among outputs. -/
def frames (outputs : List Output) : List Frame := outputs.filterMap Output.frame?

/-- The frames that were sent. -/
def sentFrames : AccountHistory Driver Mark → List Frame
  | [] => []
  | entry :: before => sentFrames before ++ frames entry.output

/-- When the host received an order action. -/
def Event.receiveTimeUtc : Event → Option Int
  | .createOrder messageInfo .. | .modifyOrder messageInfo .. | .cancelOrder messageInfo ..
  | .cancelAllOrders messageInfo _ => some messageInfo.receiveTimeUtc
  | _ => none

/-- The instant a frame of this input is created at: when the host received the order action, or
else when the trace began. -/
def Input.instant (input : Input) : Int :=
  input.event.receiveTimeUtc.getD input.context.traceInfo.originCreateTimeUtc

/-- The encoder refuses the order, after its request id was taken. -/
def Event.refused : Event → Bool
  | .createOrder _ request .. => !(Encoder.orderPlaceTif request).isOk
  | _ => false

/-- The input is an order action that sends a frame. A refused order sends none, and neither does
a cancellation of all orders if there are none. -/
def Input.sendsOrder (input : Input) : Bool :=
  match input.event with
  | .createOrder .. => !input.event.refused
  | .modifyOrder .. | .cancelOrder .. => true
  | .cancelAllOrders .. => !input.context.dispatcher.allOrderSymbols.isEmpty
  | _ => false

/-- How many request ids were taken: one for each frame, and one for each refused order. -/
def idsTaken : AccountHistory Driver Mark → Nat
  | [] => 0
  | entry :: before =>
    idsTaken before + (frames entry.output).length + entry.input.event.refused.toNat

/-- The times of the host are positive, as the encoder asserts. -/
def ReceiveTimesPositive : Environment (Session Driver Mark) Input (List Output) :=
  fun _ _ input => ∀ time ∈ input.event.receiveTimeUtc, 0 < time

instance (history : AccountHistory Driver Mark) (session : Session Driver Mark)
    (input : Input) : Decidable (ReceiveTimesPositive history session input) :=
  inferInstanceAs (Decidable (∀ time ∈ input.event.receiveTimeUtc, _))

/-- Every frame says its instant in whole seconds. -/
def TimesInSeconds : StepProperty (Session Driver Mark) Input (List Output) :=
  fun _ entry => ∀ frame ∈ frames entry.output, frame.time = toSeconds entry.input.instant

/-- The ids of the frames increase, and every frame says its instant in whole seconds. -/
def EnvelopesAgree (history : AccountHistory Driver Mark) : Prop :=
  (sentFrames history).Pairwise (fun earlier later => earlier.id < later.id) ∧
    History.Always TimesInSeconds history

/-! ### Numbered frames -/

/-- The frames have the ids that follow the first one, up to the last. -/
def Numbered : UInt32 → List Frame → UInt32 → Prop
  | first, [], last => last = first
  | first, frame :: later, last => frame.id = first + 1 ∧ Numbered (first + 1) later last

theorem Numbered.append {first middle last : UInt32} {earlier later : List Frame}
    (start : Numbered first earlier middle) (rest : Numbered middle later last) :
    Numbered first (earlier ++ later) last := by
  induction earlier generalizing first with
  | nil => exact start ▸ rest
  | cons frame others inductionHypothesis => exact ⟨start.1, inductionHypothesis start.2⟩

/-- The id after a given one, if there is one. -/
theorem toNat_succ {id : UInt32} (fits : id.toNat + 1 < 2 ^ 32) :
    (id + 1).toNat = id.toNat + 1 := by
  rw [UInt32.toNat_add]
  exact Nat.mod_eq_of_lt fits

/-- Without overflow numbered frames are counted, and their ids increase. -/
theorem Numbered.increases {first last : UInt32} {frames : List Frame}
    (numbered : Numbered first frames last) (fits : first.toNat + frames.length < 2 ^ 32) :
    last.toNat = first.toNat + frames.length ∧
      (∀ frame ∈ frames, first.toNat < frame.id.toNat ∧ frame.id.toNat ≤ last.toNat) ∧
        frames.Pairwise (fun earlier later => earlier.id < later.id) := by
  induction frames generalizing first with
  | nil => exact ⟨congrArg UInt32.toNat numbered, List.forall_mem_nil _, .nil⟩
  | cons frame later inductionHypothesis =>
    obtain ⟨id, rest⟩ := numbered
    rw [List.length_cons] at fits
    have next : (first + 1).toNat = first.toNat + 1 := toNat_succ (by omega)
    have here : frame.id.toNat = first.toNat + 1 := by rw [id, next]
    obtain ⟨total, between, increasing⟩ := inductionHypothesis rest (by omega)
    refine ⟨by rw [total, next, List.length_cons]; omega, ?_, .cons ?_ increasing⟩
    · intro other member
      rcases List.mem_cons.mp member with rfl | member
      · omega
      · have bounds := between other member
        omega
    · intro other member
      have bounds := between other member
      rw [UInt32.lt_iff_toNat_lt]
      omega

/-! ### Stamped frames -/

/-- The outbox grew, and its frames took the next request ids and were stamped with a time. -/
def Streams.Stamps (time : Int) (before after : Streams Mark) : Prop :=
  ∃ outputs, after.outbox = before.outbox ++ outputs ∧
    Numbered before.dropCopy.requestId (frames outputs) after.dropCopy.requestId ∧
      ∀ frame ∈ frames outputs, frame.time = time

namespace Streams.Stamps

variable {time : Int} {first second third : Streams Mark}

theorem of_eq (outbox : second.outbox = first.outbox)
    (requestId : second.dropCopy.requestId = first.dropCopy.requestId) :
    first.Stamps time second :=
  ⟨[], by rw [outbox, List.append_nil], requestId, List.forall_mem_nil _⟩

theorem refl (streams : Streams Mark) : streams.Stamps time streams := of_eq rfl rfl

theorem trans (earlier : first.Stamps time second) (later : second.Stamps time third) :
    first.Stamps time third := by
  obtain ⟨outputs, grown, numbered, stamped⟩ := earlier
  obtain ⟨outputs', grown', numbered', stamped'⟩ := later
  refine ⟨outputs ++ outputs', by rw [grown', grown, List.append_assoc], ?_, ?_⟩
  · rw [frames, List.filterMap_append]
    exact numbered.append numbered'
  · rw [frames, List.filterMap_append]
    intro frame member
    exact (List.mem_append.mp member).elim (stamped frame) (stamped' frame)

theorem emit (streams : Streams Mark) {output : Output} (silent : output.frame? = none) :
    streams.Stamps time (streams.emit output) := by
  have none : frames [output] = [] := List.filterMap_cons_none silent
  refine ⟨[output], rfl, ?_, ?_⟩
  · rw [none]
    rfl
  · rw [none]
    exact List.forall_mem_nil _

theorem sendText (streams : Streams Mark) {frame : UInt32 → Frame}
    (numbered : (frame (streams.dropCopy.requestId + 1)).id = streams.dropCopy.requestId + 1)
    (stamped : (frame (streams.dropCopy.requestId + 1)).time = time) :
    streams.Stamps time (streams.sendText frame) := by
  refine ⟨[_], rfl, ⟨numbered, rfl⟩, ?_⟩
  intro other member
  cases List.mem_singleton.mp member
  exact stamped

/-- A loop stamps what its body stamps. -/
theorem foldl {Element : Type} {body : Streams Mark → Element → Streams Mark}
    (each : ∀ (streams : Streams Mark) element, streams.Stamps time (body streams element))
    (elements : List Element) (streams : Streams Mark) :
    streams.Stamps time (elements.foldl body streams) := by
  induction elements generalizing streams with
  | nil => exact .refl streams
  | cons element rest inductionHypothesis =>
    exact (each streams element).trans (inductionHypothesis (body streams element))

/-- A value that may be missing stamps nothing then. -/
theorem elim {Value : Type} {streams : Streams Mark} {act : Value → Streams Mark}
    (stamps : ∀ value, streams.Stamps time (act value)) (value : Option Value) :
    streams.Stamps time (value.elim streams act) := by
  cases value with
  | none => exact .refl streams
  | some value => exact stamps value

end Streams.Stamps

/-! ### The session's senders -/

section Senders

namespace DropCopy

theorem setConnectionStatus_stamps {time : Int} (status : ConnectionStatus) (reason : String)
    (streams : Streams Mark) :
    streams.Stamps time (setConnectionStatus status reason streams) :=
  ⟨[_], rfl, rfl, List.forall_mem_nil _⟩

theorem sendLogin_stamps (config : Config) (traceInfo : TraceInfo) (streams : Streams Mark) :
    streams.Stamps (toSeconds traceInfo.originCreateTimeUtc)
      (sendLogin config traceInfo streams) :=
  .sendText streams rfl rfl

theorem subscribe_stamps (config : Config) (traceInfo : TraceInfo) (channel event : String)
    (payload : List String) (streams : Streams Mark) :
    streams.Stamps (toSeconds traceInfo.originCreateTimeUtc)
      (subscribe config traceInfo channel event payload streams) :=
  .sendText streams rfl rfl

theorem getOpenOrders_stamps (traceInfo : TraceInfo) (streams : Streams Mark) :
    streams.Stamps (toSeconds traceInfo.originCreateTimeUtc) (getOpenOrders traceInfo streams) :=
  .sendText streams rfl rfl

theorem checkStaleOrders_stamps (context : Context) (streams : Streams Mark) :
    streams.Stamps (toSeconds context.traceInfo.originCreateTimeUtc)
      (checkStaleOrders context streams) := by
  refine .foldl (fun current order => ?_) _ streams
  have counted : current.Stamps (toSeconds context.traceInfo.originCreateTimeUtc)
      { current with dropCopy.downloadStaleOrdersCounter :=
          current.dropCopy.downloadStaleOrdersCounter + 1 } := .of_eq rfl rfl
  exact counted.trans (.sendText _ rfl rfl)

theorem checkStaleOrders2_stamps (config : Config) (context : Context) (streams : Streams Mark) :
    streams.Stamps (toSeconds context.traceInfo.originCreateTimeUtc)
      (checkStaleOrders2 config context streams) := by
  unfold checkStaleOrders2
  split
  · exact checkStaleOrders_stamps context _
  · exact .refl streams

variable [LimitRequest Mark]

/-- A call of the download's callback stamps its frames. -/
theorem download_stamps (config : Config) (context : Context) (state : State)
    (sequence : UInt32) (streams : Streams Mark) :
    streams.Stamps (toSeconds context.traceInfo.originCreateTimeUtc)
      (download config context state sequence streams).1 := by
  have publishing (next : State) : streams.Stamps (toSeconds context.traceInfo.originCreateTimeUtc)
      (publishDownloading next streams) :=
    setConnectionStatus_stamps .downloading next.enumName streams
  cases state with
  | undefined => exact .refl streams
  | subscribeBalances | subscribePositions | subscribeOrders | subscribeTrades =>
    exact (publishing _).trans (subscribe_stamps config context.traceInfo _ _ _ _)
  | getOpenOrders => exact (publishing _).trans (getOpenOrders_stamps context.traceInfo _)
  | getBalances | getPositions => exact (publishing _).trans (.of_eq rfl rfl)
  | getStaleOrders =>
    rw [download]
    split
    · exact publishing .getStaleOrders
    · exact .refl streams
  | getTrades =>
    rw [download]
    split
    · exact (publishing .getTrades).trans (.of_eq rfl rfl)
    · exact .refl streams
  | done => exact (setConnectionStatus_stamps .ready "" streams).trans (.of_eq rfl rfl)

end DropCopy

variable [LimitRequest Mark]

namespace Session

variable [Download2 DropCopy.State Driver]

variable [LawfulDownload2 DropCopy.State Driver]

/-- A call of the callback goes on stamping. -/
theorem download_stamps_after (config : Config) (context : Context) (first : Streams Mark)
    (state : DropCopy.State) (sequence : UInt32) (streams : Streams Mark)
    (before : first.Stamps (toSeconds context.traceInfo.originCreateTimeUtc) streams) :
    first.Stamps (toSeconds context.traceInfo.originCreateTimeUtc)
      (DropCopy.download config context state sequence streams).1 :=
  before.trans (DropCopy.download_stamps config context state sequence streams)

theorem begin_stamps (config : Config) (context : Context) (session : Session Driver Mark) :
    session.streams.Stamps (toSeconds context.traceInfo.originCreateTimeUtc)
      (session.begin config context).streams :=
  LawfulDownload2.begin_keeps _ (download_stamps_after config context session.streams)
    session.download session.streams (.refl session.streams)

theorem check_stamps (config : Config) (context : Context) (state : DropCopy.State)
    (session : Session Driver Mark) :
    session.streams.Stamps (toSeconds context.traceInfo.originCreateTimeUtc)
      (session.check config context state).streams :=
  LawfulDownload2.check_keeps _ (download_stamps_after config context session.streams) state
    session.download session.streams (.refl session.streams)

theorem checkRelaxed_stamps (config : Config) (context : Context) (state : DropCopy.State)
    (session : Session Driver Mark) :
    session.streams.Stamps (toSeconds context.traceInfo.originCreateTimeUtc)
      (session.checkRelaxed config context state).streams :=
  LawfulDownload2.checkRelaxed_keeps _ (download_stamps_after config context session.streams) state
    session.download session.streams (.refl session.streams)

theorem timer_stamps (config : Config) (context : Context) (refresh : Bool)
    (session : Session Driver Mark) :
    session.streams.Stamps (toSeconds context.traceInfo.originCreateTimeUtc)
      (session.timer config context refresh).streams :=
  session.timer_keeps _ (download_stamps_after config context session.streams)
    (fun streams before => before.trans (DropCopy.checkStaleOrders2_stamps config context streams))
    refresh (.refl session.streams)

end Session

end Senders

/-! ### Handlers that send no frame -/

section Handlers

variable {time : Int}

theorem publishOrderUpdates_stamps {width : Nat} {config : Config} {updateType : UpdateType}
    {items : List (OrderItem width)} {streams after : Streams Mark}
    (published : Session.publishOrderUpdates config updateType items streams = .ok after) :
    streams.Stamps time after := by
  induction items generalizing streams with
  | nil =>
    cases published
    exact .refl _
  | cons item rest inductionHypothesis =>
    obtain ⟨update, -, published⟩ := bind_ok.mp published
    exact (Streams.Stamps.elim (fun _ => .emit streams rfl) update).trans
      (inductionHypothesis published)

theorem publishAccepted_stamps {width : Nat} {config : Config} {requestType : RequestType}
    {requestId : String} {result : OrderItem width} {session next : Session Driver Mark}
    (published : session.publishAccepted config requestType requestId result = .ok next) :
    session.streams.Stamps time next.streams := by
  obtain ⟨update, -, published⟩ := bind_ok.mp published
  cases published
  exact .elim (fun _ => .emit session.streams rfl) update

theorem OrderEntry.positions_stamps (config : Config) (context : Context) (message : Positions)
    (streams : Streams Mark) :
    streams.Stamps time (OrderEntry.positions config context message streams) := by
  refine .foldl (fun streams item => ?_) _ streams
  split
  · exact .refl streams
  · exact .emit streams rfl

theorem OrderEntry.userTrades_stamps (config : Config) (context : Context)
    (message : UserTrades) (streams : Streams Mark) :
    streams.Stamps time (OrderEntry.userTrades config context message streams) := by
  refine .foldl (fun streams item => ?_) _ streams
  dsimp only
  split
  · exact .refl streams
  · exact .emit streams rfl

/-- REST requests send no frame. -/
theorem Streams.Sends.stamps [LimitRequest Mark] {before after : Streams Mark}
    (sends : before.Sends after) : before.Stamps time after := by
  obtain ⟨outputs, grown, kind⟩ := sends.adds
  have none : frames outputs = [] := by
    refine List.filterMap_eq_nil_iff.mpr fun output member => ?_
    have request := kind output member
    cases output with
    | sendText frame =>
      obtain ⟨id, time, channel, event, payload⟩ := frame
      cases payload <;> simp [Output.kind, payloadKind] at request
    | _ => rfl
  refine ⟨outputs, grown, ?_, ?_⟩
  · rw [none, sends.dropCopy]
    rfl
  · rw [none]
    exact List.forall_mem_nil _

end Handlers

/-! ### One step -/

/-- The time the frames of an input are stamped with. -/
def Input.stamp (input : Input) : Int :=
  input.event.receiveTimeUtc.getD (toSeconds input.context.traceInfo.originCreateTimeUtc)

namespace Session

/-- An order that is not refused is sent in one frame, stamped with its receive time. -/
theorem createOrder_accepted (config : Config) (messageInfo : MessageInfo)
    (request : CreateOrder) (order : Order) (refData : RefData) (requestId : String)
    (session : Session Driver Mark) (accepted : (Encoder.orderPlaceTif request).isOk) :
    ∃ frame : Frame, frame.id = session.streams.dropCopy.requestId + 1 ∧
      frame.time = messageInfo.receiveTimeUtc ∧
        (session.createOrder config messageInfo request order refData requestId).streams =
          session.streams.sendText fun _ => frame := by
  cases encodes : Encoder.orderPlaceTif request with
  | error failure =>
    rw [encodes] at accepted
    cases accepted
  | ok tif =>
    rw [createOrder, mapStreams]
    simp only [Encoder.orderPlace, encodes]
    exact ⟨_, rfl, rfl, rfl⟩

/-- A refused order takes a request id, and sends nothing. -/
theorem createOrder_refused (config : Config) (messageInfo : MessageInfo) (request : CreateOrder)
    (order : Order) (refData : RefData) (requestId : String) (session : Session Driver Mark)
    (refused : ¬ (Encoder.orderPlaceTif request).isOk) :
    (session.createOrder config messageInfo request order refData requestId).streams =
      { session.streams with dropCopy.requestId := session.streams.dropCopy.requestId + 1 } := by
  cases encodes : Encoder.orderPlaceTif request with
  | error failure =>
    rw [createOrder, mapStreams]
    simp only [Encoder.orderPlace, encodes]
    rfl
  | ok tif =>
    rw [encodes] at refused
    exact absurd rfl refused

/-- A cancellation of all orders sends one frame for each symbol, in order. -/
theorem cancelAllOrders_payloads (context : Context) (messageInfo : MessageInfo)
    (requestId : String) (session : Session Driver Mark) :
    (frames (session.cancelAllOrders context messageInfo requestId).streams.outbox).map
        Frame.payload =
      (frames session.streams.outbox).map Frame.payload ++
        context.dispatcher.allOrderSymbols.map (.orderCancelCp requestId) := by
  have loop (symbols : List String) (streams : Streams Mark) :
      (frames (symbols.foldl (fun current symbol => current.sendText fun requestId2 =>
          Encoder.orderCancelCp messageInfo requestId requestId2 symbol) streams).outbox).map
          Frame.payload =
        (frames streams.outbox).map Frame.payload ++ symbols.map (.orderCancelCp requestId) := by
    induction symbols generalizing streams with
    | nil => exact (List.append_nil _).symm
    | cons symbol later inductionHypothesis =>
      rw [List.foldl_cons, inductionHypothesis, List.map_cons, List.append_cons]
      refine congrArg (· ++ _) ?_
      rw [Streams.sendText, Streams.emit, frames, List.filterMap_append, List.map_append]
      rfl
  exact loop context.dispatcher.allOrderSymbols session.streams

variable [LimitRequest Mark] [Download2 DropCopy.State Driver]

/-- A step that refuses an order sends nothing. -/
theorem step_refused {config : Config} {session next : Session Driver Mark} {input : Input}
    {outputs : List Output} (taken : session.step config input = .ok (next, outputs))
    (refused : input.event.refused = true) :
    outputs = [] ∧
      next.streams.dropCopy.requestId = session.streams.dropCopy.requestId + 1 := by
  obtain ⟨handled, rfl⟩ := step_ok taken
  obtain ⟨context, event⟩ := input
  cases event with
  | createOrder messageInfo request order refData requestId =>
    have encodes : ¬ (Encoder.orderPlaceTif request).isOk := by
      intro encoded
      rw [Event.refused, encoded] at refused
      cases refused
    cases handled
    rw [createOrder_refused config messageInfo request order refData requestId _ encodes]
    exact ⟨rfl, rfl⟩
  | _ => cases refused

/-- An order action sends a frame exactly if the input says so. -/
theorem step_sendsOrder {config : Config} {session next : Session Driver Mark} {input : Input}
    {outputs : List Output} (taken : session.step config input = .ok (next, outputs))
    {time : Int} (action : input.event.receiveTimeUtc = some time) :
    input.sendsOrder = true ↔ frames outputs ≠ [] := by
  obtain ⟨handled, rfl⟩ := step_ok taken
  obtain ⟨context, event⟩ := input
  cases event with
  | createOrder messageInfo request order refData requestId =>
    cases handled
    rw [Input.sendsOrder, Event.refused, Bool.not_not]
    by_cases encodes : (Encoder.orderPlaceTif request).isOk = true
    · obtain ⟨frame, -, -, sends⟩ :=
        createOrder_accepted config messageInfo request order refData requestId
          session.clearOutbox encodes
      rw [sends]
      exact ⟨fun _ => nofun, fun _ => encodes⟩
    · rw [createOrder_refused config messageInfo request order refData requestId _ encodes]
      exact ⟨fun accepted => absurd accepted encodes, fun sends => absurd rfl sends⟩
  | modifyOrder | cancelOrder =>
    cases handled
    exact ⟨fun _ => nofun, fun _ => rfl⟩
  | cancelAllOrders messageInfo requestId =>
    cases handled
    have payloads := cancelAllOrders_payloads context messageInfo requestId session.clearOutbox
    have one : frames (session.clearOutbox.cancelAllOrders context messageInfo
        requestId).streams.outbox = [] ↔ context.dispatcher.allOrderSymbols = [] := by
      refine Iff.trans (List.map_eq_nil_iff.symm : _ ↔ List.map Frame.payload _ = []) ?_
      rw [payloads]
      exact List.map_eq_nil_iff
    rw [ne_eq, one, Input.sendsOrder, Bool.not_eq_true', List.isEmpty_eq_false_iff]
  | _ => cases action

variable [LawfulLimitRequest Mark] [LawfulDownload2 DropCopy.State Driver]

/-- Every handler stamps its frames, unless it refuses an order. -/
theorem handle_stamps {config : Config} {context : Context} {session next : Session Driver Mark}
    {event : Event} (handled : session.handle config context event = .ok next)
    (accepted : event.refused = false) :
    session.streams.Stamps (Input.stamp ⟨context, event⟩) next.streams := by
  cases event with
  | timer refresh =>
    cases handled
    exact timer_stamps config context refresh session
  | connected | futuresSystem =>
    cases handled
    exact .refl session.streams
  | disconnected =>
    cases handled
    exact ⟨[_], rfl, rfl, List.forall_mem_nil _⟩
  | ready =>
    cases handled
    exact (DropCopy.setConnectionStatus_stamps .loginSent "" session.streams).trans
      (DropCopy.sendLogin_stamps config context.traceInfo _)
  | binary => cases handled
  | createOrder messageInfo request order refData requestId =>
    cases handled
    have encodes : (Encoder.orderPlaceTif request).isOk = true := by
      simpa [Event.refused] using accepted
    obtain ⟨frame, id, time, sends⟩ :=
      createOrder_accepted config messageInfo request order refData requestId session encodes
    rw [sends]
    exact .sendText session.streams id time
  | modifyOrder | cancelOrder =>
    cases handled
    exact .sendText session.streams rfl rfl
  | cancelAllOrders messageInfo requestId =>
    cases handled
    exact .foldl (fun streams symbol => .sendText streams rfl rfl) _ session.streams
  | tradeLogin message =>
    rw [handle, tradeLogin] at handled
    split at handled
    · split at handled
      · cases handled
      · cases handled
        exact begin_stamps config context (session.mapStreams fun streams =>
          { streams with dropCopy.userId := message.uid.toInt })
    · split at handled
      · cases handled
        exact .emit session.streams rfl
      · cases handled
  | tradeSubscribe message =>
    rw [handle, tradeSubscribe] at handled
    split at handled
    · cases handled
    · cases handled
      split
      all_goals first | exact check_stamps config context _ session | exact .refl session.streams
  | tradeBalances message =>
    cases handled
    exact .foldl (fun streams item => .emit streams rfl) _ session.streams
  | tradePositions message =>
    cases handled
    refine .foldl (fun streams item => ?_) _ session.streams
    split
    · exact .refl streams
    · exact .emit streams rfl
  | tradeOrders message =>
    obtain ⟨streams, published, handled⟩ := bind_ok.mp handled
    cases handled
    exact publishOrderUpdates_stamps published
  | tradeTrades message =>
    cases handled
    refine .foldl (fun streams item => ?_) _ session.streams
    dsimp only
    split
    · exact .refl streams
    · exact .emit streams rfl
  | tradeOrderPlace message =>
    rw [handle, tradeOrderPlace] at handled
    split at handled
    · split at handled
      · exact publishAccepted_stamps handled
      · cases handled
        exact .refl session.streams
    · cases handled
      exact .emit session.streams rfl
  | tradeOrderAmend message =>
    rw [handle, tradeOrderAmend] at handled
    split at handled
    · exact publishAccepted_stamps handled
    · cases handled
      exact .emit session.streams rfl
  | tradeOrderCancel message =>
    rw [handle, tradeOrderCancel] at handled
    split at handled
    · exact publishAccepted_stamps handled
    · cases handled
      exact .emit session.streams rfl
  | tradeOrderCancelCp message =>
    cases handled
    exact .emit session.streams rfl
  | tradeOrderList message =>
    obtain ⟨listed, published, handled⟩ := bind_ok.mp handled
    cases handled
    have queried := (publishOrderUpdates_stamps published).trans
      (DropCopy.checkStaleOrders_stamps context listed)
    exact queried.trans (checkRelaxed_stamps config context .getOpenOrders
      ⟨DropCopy.checkStaleOrders context listed, session.download⟩)
  | tradeOrderStatus query message =>
    obtain ⟨update, -, handled⟩ := bind_ok.mp handled
    have published : session.streams.Stamps (Input.stamp ⟨context, .tradeOrderStatus query message⟩)
        (update.elim session.streams fun update => session.streams.emit (.orderUpdate update)) :=
      .elim (fun _ => .emit session.streams rfl) update
    dsimp only at handled
    split at handled
    · cases handled
    · split at handled
      · cases handled
        exact (published.trans (.of_eq rfl rfl)).trans
          (checkRelaxed_stamps config context .getStaleOrders (Session.mapStreams _ _))
      · cases handled
        exact published.trans (.of_eq rfl rfl)
  | orderEntryTimer refresh allowed =>
    cases handled
    exact (OrderEntry.timer_sends config context.traceInfo refresh allowed session.streams).stamps
  | orderEntryConnected | orderEntryDisconnected =>
    cases handled
    exact ⟨[_], rfl, rfl, List.forall_mem_nil _⟩
  | accountsReply request response =>
    obtain ⟨streams, committed, handled⟩ := bind_ok.mp handled
    cases handled
    obtain ⟨body, -, committed⟩ := bind_ok.mp committed
    cases committed
    exact .of_eq rfl rfl
  | positionsReply request response =>
    obtain ⟨streams, committed, handled⟩ := bind_ok.mp handled
    cases handled
    obtain ⟨body, -, committed⟩ := bind_ok.mp committed
    cases committed
    cases body with
    | none => exact .of_eq rfl rfl
    | some message =>
      exact (OrderEntry.positions_stamps config context message session.streams).trans
        (.of_eq rfl rfl)
  | tradesReply request response =>
    obtain ⟨streams, committed, handled⟩ := bind_ok.mp handled
    cases handled
    obtain ⟨body, -, committed⟩ := bind_ok.mp committed
    cases committed
    cases body with
    | none => exact .of_eq rfl rfl
    | some message =>
      exact (OrderEntry.userTrades_stamps config context message session.streams).trans
        (.of_eq rfl rfl)

/-- A step that refuses no order stamps its frames with the next request ids and one time. -/
theorem step_stamps {config : Config} {session next : Session Driver Mark} {input : Input}
    {outputs : List Output} (taken : session.step config input = .ok (next, outputs))
    (accepted : input.event.refused = false) :
    Numbered session.streams.dropCopy.requestId (frames outputs)
        next.streams.dropCopy.requestId ∧
      ∀ frame ∈ frames outputs, frame.time = input.stamp := by
  obtain ⟨handled, rfl⟩ := step_ok taken
  obtain ⟨emitted, grown, numbered, stamped⟩ := handle_stamps handled accepted
  have all : next.streams.outbox = emitted := grown
  rw [all]
  exact ⟨numbered, stamped⟩

end Session

/-! ### Runs -/

/-- A positive time is not the time in seconds. -/
theorem toSeconds_ne {time : Int} (positive : 0 < time) : time ≠ toSeconds time := by
  unfold toSeconds
  rw [Int.tdiv_eq_ediv_of_nonneg positive.le]
  omega

/-- Only an order action sends an order. -/
theorem Input.sendsOrder_session {input : Input} (session : input.event.receiveTimeUtc = none) :
    input.sendsOrder = false ∧ input.event.refused = false := by
  obtain ⟨context, event⟩ := input
  cases event <;> first | exact ⟨rfl, rfl⟩ | cases session

section Runs

variable [LimitRequest Mark] [LawfulLimitRequest Mark] [Download2 DropCopy.State Driver]
  [LawfulDownload2 DropCopy.State Driver]

/-- While the request ids last, the ids of the frames increase. -/
theorem sentFrames_increase {config : Config} {history : AccountHistory Driver Mark}
    {session : Session Driver Mark}
    (run : (account config).Run ReceiveTimesPositive history session)
    (few : idsTaken history < 2 ^ 32) :
    (sentFrames history).Pairwise (fun earlier later => earlier.id < later.id) := by
  have numbered := run.invariant (fun history session => idsTaken history < 2 ^ 32 →
    session.streams.dropCopy.requestId.toNat = idsTaken history ∧
      (∀ frame ∈ sentFrames history, frame.id.toNat ≤ idsTaken history) ∧
        (sentFrames history).Pairwise fun earlier later => earlier.id < later.id)
    (fun _ => ⟨rfl, List.forall_mem_nil _, .nil⟩) ?_
  · exact (numbered few).2.2
  intro history session input next outputs before admitted taken few
  rw [idsTaken] at few ⊢
  obtain ⟨counted, bounded, increasing⟩ := before (by omega)
  rw [sentFrames]
  cases refused : input.event.refused with
  | true =>
    obtain ⟨silent, requestId⟩ := Session.step_refused taken refused
    have none : frames outputs = [] := by
      rw [silent]
      rfl
    rw [refused, none] at few
    have one : idsTaken history + 1 < 2 ^ 32 := few
    rw [none, List.append_nil, requestId]
    refine ⟨?_, fun frame member => ?_, increasing⟩
    · rw [toNat_succ (by omega), counted]
      rfl
    · exact (bounded frame member).trans (by omega)
  | false =>
    obtain ⟨numbered, -⟩ := Session.step_stamps taken refused
    rw [refused] at few
    have room : idsTaken history + (frames outputs).length < 2 ^ 32 := few
    obtain ⟨total, between, rising⟩ := numbered.increases (by omega)
    rw [counted] at total between
    refine ⟨total, ?_, List.pairwise_append.mpr ⟨increasing, rising, ?_⟩⟩
    · intro frame member
      rcases List.mem_append.mp member with member | member
      · exact (bounded frame member).trans (Nat.le_add_right _ _)
      · exact (between frame member).2.trans (total.le.trans (Nat.le_add_right _ _))
    · intro earlier member later member'
      have before := bounded earlier member
      have after := (between later member').1
      rw [UInt32.lt_iff_toNat_lt]
      omega

/-- The times of all frames are in seconds exactly if no order action sends a frame. -/
theorem timesInSeconds_iff {config : Config} {history : AccountHistory Driver Mark}
    {session : Session Driver Mark}
    (run : (account config).Run ReceiveTimesPositive history session) :
    History.Always TimesInSeconds history ↔
      History.Always (fun _ entry => entry.input.sendsOrder = false) history := by
  refine run.always_iff ?_
  intro history session input next outputs before positive taken
  cases action : input.event.receiveTimeUtc with
  | none =>
    obtain ⟨sendsNone, accepted⟩ := Input.sendsOrder_session action
    refine ⟨fun _ => sendsNone, fun _ frame member => ?_⟩
    rw [(Session.step_stamps taken accepted).2 frame member, Input.stamp, Input.instant, action]
    rfl
  | some time =>
    have sends := Session.step_sendsOrder taken action
    constructor
    · intro inSeconds
      by_contra sendsSome
      have some := sends.mp (Bool.eq_true_of_not_eq_false sendsSome)
      obtain ⟨frame, member⟩ := List.exists_mem_of_ne_nil _ some
      have accepted : input.event.refused = false := by
        by_contra refused
        have silent := (Session.step_refused taken (Bool.eq_true_of_not_eq_false refused)).1
        exact some (congrArg frames silent)
      have stamped := (Session.step_stamps taken accepted).2 frame member
      have seconds := inSeconds frame member
      simp only [Input.stamp, Input.instant, action, Option.getD_some] at stamped seconds
      exact toSeconds_ne (positive time action) (stamped.symm.trans seconds)
    · intro sendsNone frame member
      have none : frames outputs = [] := by
        by_contra some
        cases sendsNone.symm.trans (sends.mpr some)
      rw [none] at member
      cases member

/-- All envelopes agree while the request ids last and no order action sends a frame, and never
once an order action has sent one. -/
theorem envelopes_agree_when (config : Config) (history : AccountHistory Driver Mark)
    (session : Session Driver Mark)
    (run : (account config).Run ReceiveTimesPositive history session) :
    (idsTaken history < 2 ^ 32 →
        History.Always (fun _ entry => entry.input.sendsOrder = false) history →
          EnvelopesAgree history) ∧
      (EnvelopesAgree history →
        History.Always (fun _ entry => entry.input.sendsOrder = false) history) :=
  ⟨fun few none => ⟨sentFrames_increase run few, (timesInSeconds_iff run).mpr none⟩,
    fun agree => (timesInSeconds_iff run).mp agree.2⟩

end Runs

/-! ### A plain account -/

/-- The login and a subscription, and the order actions of an account that has no orders. The
first order is refused, for its time in force. -/
def plainUnsent : List Input :=
  plainInputs (plainLogin ++
    [.createOrder ⟨1700000000123456789⟩ ⟨.buy, .limit, .gtd, [], .number 1, .number 100⟩
        ⟨"BTC_USDT", .buy, "c1", ""⟩ ⟨0, 1⟩ "r1",
      .cancelAllOrders ⟨1700000000123456789⟩ "r2", .timer true])

/-- The envelopes of a run without order frames agree. -/
theorem envelopes_agree_plain : ∃ history session,
    plainAccount.Run ReceiveTimesPositive history session ∧
      (sentFrames history).map Frame.id = [1, 2] ∧ idsTaken history = 3 ∧
        EnvelopesAgree history := by
  have run : plainAccount.Run ReceiveTimesPositive _ _ := .of_replay plainUnsent rfl (by decide)
  exact ⟨_, _, run, rfl, rfl,
    (envelopes_agree_when plainConfig _ _ run).1 (by decide) (by decide)⟩

/-- A cancellation is stamped in nanoseconds. -/
theorem cancellation_in_nanoseconds : ∃ history session,
    plainAccount.Run ReceiveTimesPositive history session ∧
      (sentFrames history).length < 2 ^ 32 ∧ ¬ EnvelopesAgree history := by
  refine ⟨_, _, .of_replay (plainInputs (plainLogin ++
    [.cancelOrder ⟨1700000000123456789⟩ ⟨"BTC_USDT", .buy, "c1", "7"⟩ "r1"])) rfl (by decide),
    by decide, ?_⟩
  intro agree
  exact absurd (agree.2.1 _ (List.mem_singleton.mpr rfl)) (by decide)

end GateFutures.Gateway
