/-
This file proves how the creations and the cancellations of all orders are acknowledged.

The exchange may answer a creation twice on one channel: first with a receipt that does not
contain the order, and then with the final message. The receipt is recognised by its empty text.
So every creation is answered once, by its final message, if its request id is not empty.

A cancellation of all orders is answered once for each symbol. No state is kept, and each reply
is acknowledged on its own.
-/

import GateFutures.Gateway.Correlation
import GateFutures.Gateway.Envelope

namespace GateFutures.Gateway

open Framework Library Protocol Roq

variable {Driver Mark : Type}

/-! ### Answers to creations -/

/-- The response an output dispatches, and the update that accompanies it. -/
def Output.answer? : Output → Option (Response × Option OrderUpdate)
  | .response answer update => some (answer, update)
  | _ => none

/-- The responses among outputs that name a request. -/
def answersTo (requestId : String) (outputs : List Output) :
    List (Response × Option OrderUpdate) :=
  (outputs.filterMap Output.answer?).filter fun answer => answer.1.requestId = requestId

/-- The responses dispatched so far that name a request. -/
def answered (requestId : String) :
    AccountHistory Driver Mark → List (Response × Option OrderUpdate)
  | [] => []
  | entry :: before => answered requestId before ++ answersTo requestId entry.output

/-- The schema lists the text. -/
def isKnown : FinishAs → Bool
  | .undefinedInternal | .unknownInternal => false
  | _ => true

/-- The first acknowledgement of a creation, which does not contain the order. -/
def IsReceipt (message : TradeOrderPlace) : Prop :=
  message.header.status = 200 ∧ message.result.text = ""

instance (message : TradeOrderPlace) : Decidable (IsReceipt message) :=
  inferInstanceAs (Decidable (_ ∧ _))

/-- The final message about a creation: a rejection, or the order under the request's text. -/
def IsFinal (message : TradeOrderPlace) : Prop :=
  message.header.status ≠ 200 ∨
    message.result.text = "t-" ++ message.requestId ∧
      (isKnown message.result.finishAs = true ∨ message.result.status = .open)

instance (message : TradeOrderPlace) : Decidable (IsFinal message) :=
  inferInstanceAs (Decidable (_ ∨ _))

/-- The message about a creation that an event delivers. -/
def Event.orderPlaced : Event → Option TradeOrderPlace
  | .tradeOrderPlace message => some message
  | _ => none

/-- The final message about a request that an event delivers. -/
def Event.final (requestId : String) (event : Event) : Option TradeOrderPlace :=
  event.orderPlaced.filter fun message => message.requestId = requestId ∧ IsFinal message

/-- The final messages about a request so far. -/
def finals (requestId : String) : AccountHistory Driver Mark → List TradeOrderPlace
  | [] => []
  | entry :: before => finals requestId before ++ (entry.input.event.final requestId).toList

/-- The exchange's messages about a creation are receipts, and last one final message. Requests
have ids of their own, and every answer echoes the channel and the id of a request. -/
def CreationMessages : Environment (Session Driver Mark) Input (List Output) :=
  fun history session input => OrderAnswersEcho history session input ∧
    ∀ message ∈ input.event.orderPlaced, finals message.requestId history = [] ∧
      (IsReceipt message ∨ IsFinal message)

instance (history : AccountHistory Driver Mark) (session : Session Driver Mark)
    (input : Input) : Decidable (CreationMessages history session input) :=
  inferInstanceAs (Decidable (_ ∧ ∀ message ∈ input.event.orderPlaced, _))

/-- A response answers a final message: it has its id and status, and an update accompanies it
exactly if it is accepted. -/
structure Answers (message : TradeOrderPlace) (answer : Response × Option OrderUpdate) :
    Prop where
  requestId : answer.1.requestId = message.requestId
  requestType : answer.1.requestType = .createOrder
  requestStatus : answer.1.requestStatus =
    if message.header.status = 200 then .accepted else .rejected
  update : answer.2.isSome = true ↔ answer.1.requestStatus = .accepted

/-- Nothing is answered before the final message, and one response answers it. -/
def AnsweredOnce (requestId : String) (history : AccountHistory Driver Mark) : Prop :=
  finals requestId history = [] ∧ answered requestId history = [] ∨
    ∃ message answer, finals requestId history = [message] ∧
      answered requestId history = [answer] ∧ Answers message answer

/-- Updates of the order channel are no responses. -/
def OrderUpdatesAnswerNothing : StepProperty (Session Driver Mark) Input (List Output) :=
  fun _ entry => ∀ message, entry.input.event = .tradeOrders message →
    orderResponses entry.output = []

/-! ### One message about a creation -/

theorem IsReceipt.not_final {message : TradeOrderPlace} (receipt : IsReceipt message) :
    ¬ IsFinal message := by
  rintro (rejected | ⟨text, -⟩)
  · exact rejected receipt.1
  · have empty : "t-" ++ message.requestId = "" := text.symm.trans receipt.2
    have characters := congrArg String.toList empty
    simp at characters

theorem map_known {finishAs : FinishAs} (known : isKnown finishAs = true) :
    finishAs.map ≠ .undefined := by
  revert known
  cases finishAs <;> decide

theorem getOrderStatus_final {finishAs : FinishAs} {status : Protocol.OrderStatus}
    (final : isKnown finishAs = true ∨ status = .open) :
    ∃ orderStatus, DropCopy.getOrderStatus finishAs status = .ok orderStatus := by
  unfold DropCopy.getOrderStatus
  split
  · exact ⟨_, rfl⟩
  next undefined =>
    have opened : status = .open := by
      rcases final with known | opened
      · exact absurd (map_known known) undefined
      · exact opened
    rw [if_pos opened]
    exact ⟨_, rfl⟩

section Creations

variable [LimitRequest Mark] [Download2 DropCopy.State Driver]

/-- A receipt is not answered. -/
theorem Session.step_receipt {config : Config} {session next : Session Driver Mark}
    {context : Context} {message : TradeOrderPlace} {outputs : List Output}
    (taken : session.step config ⟨context, .tradeOrderPlace message⟩ = .ok (next, outputs))
    (receipt : IsReceipt message) : outputs.filterMap Output.answer? = [] := by
  obtain ⟨handled, rfl⟩ := Session.step_ok taken
  rw [handle, tradeOrderPlace, if_pos receipt.1, if_neg (not_not.mpr receipt.2)] at handled
  cases handled
  rfl

/-- A final message under a request id that is not empty is answered once. -/
theorem Session.step_final {config : Config} {session next : Session Driver Mark}
    {context : Context} {message : TradeOrderPlace} {outputs : List Output}
    (taken : session.step config ⟨context, .tradeOrderPlace message⟩ = .ok (next, outputs))
    (final : IsFinal message) (named : message.requestId ≠ "") :
    ∃ answer, outputs.filterMap Output.answer? = [answer] ∧ Answers message answer := by
  obtain ⟨handled, rfl⟩ := Session.step_ok taken
  rw [handle, tradeOrderPlace] at handled
  by_cases accepted : message.header.status = 200
  · obtain ⟨text, known⟩ := final.resolve_left (not_not.mpr accepted)
    have written : message.result.text ≠ "" := fun empty =>
      IsReceipt.not_final ⟨accepted, empty⟩ final
    rw [if_pos accepted, if_pos written] at handled
    obtain ⟨update, created, handled⟩ := bind_ok.mp handled
    obtain ⟨orderStatus, mapped⟩ := getOrderStatus_final known
    have some : ∃ update', update = some update' := by
      rw [DropCopy.createOrderUpdate, text, DropCopy.getClientOrderId_prefixed, if_neg named,
        mapped] at created
      exact ⟨_, (Except.ok.inj created).symm⟩
    obtain ⟨update, rfl⟩ := some
    cases handled
    exact ⟨_, rfl, rfl, rfl, (if_pos accepted).symm, iff_of_true rfl rfl⟩
  · rw [if_neg accepted] at handled
    cases handled
    exact ⟨_, rfl, rfl, rfl, (if_neg accepted).symm,
      iff_of_false (by simp) (by simp [rejectedResponse])⟩

/-- A receipt or a final message is handled. -/
theorem Session.step_placed (config : Config) (session : Session Driver Mark) (context : Context)
    {message : TradeOrderPlace} (placed : IsReceipt message ∨ IsFinal message) :
    ∃ next outputs, session.step config ⟨context, .tradeOrderPlace message⟩ =
      .ok (next, outputs) := by
  suffices handles : ∃ next, session.clearOutbox.tradeOrderPlace config message = .ok next by
    obtain ⟨next, handled⟩ := handles
    exact ⟨next, next.streams.outbox, bind_ok.mpr ⟨next, handled, rfl⟩⟩
  rw [tradeOrderPlace]
  split
  next accepted =>
    split
    next written =>
      have final : IsFinal message := placed.resolve_left fun receipt => written receipt.2
      obtain ⟨text, known⟩ := final.resolve_left (not_not.mpr accepted)
      obtain ⟨orderStatus, mapped⟩ := getOrderStatus_final known
      have creates : ∃ update, DropCopy.createOrderUpdate config message.result .incremental =
          .ok update := by
        rw [DropCopy.createOrderUpdate, mapped]
        split <;> exact ⟨_, rfl⟩
      obtain ⟨update, created⟩ := creates
      exact ⟨_, bind_ok.mpr ⟨update, created, rfl⟩⟩
    next empty => exact ⟨_, rfl⟩
  next rejected => exact ⟨_, rfl⟩

variable [LawfulLimitRequest Mark] [LawfulDownload2 DropCopy.State Driver]

/-- Every response among outputs answers the event's answer, under its id. -/
theorem Session.step_answers {config : Config} {session next : Session Driver Mark}
    {input : Input} {outputs : List Output}
    (taken : session.step config input = .ok (next, outputs)) (requestId : String)
    (others : ∀ answer ∈ input.event.orderAnswer, answer.requestId ≠ requestId) :
    answersTo requestId outputs = [] := by
  refine List.filter_eq_nil_iff.mpr fun answer member => ?_
  obtain ⟨output, dispatched, selected⟩ := List.mem_filterMap.mp member
  have response : answer.1 ∈ orderResponses outputs := by
    refine List.mem_filterMap.mpr ⟨output, dispatched, ?_⟩
    cases output with
    | response => exact congrArg (Option.map Prod.fst) selected
    | _ => cases selected
  obtain ⟨echo, delivers, sameId, -⟩ := Session.step_responses taken answer.1 response
  rw [decide_eq_true_eq, sameId]
  exact others echo delivers

/-- A step answers a creation exactly if it delivers the final message about it. -/
theorem Session.step_creation {config : Config} {session next : Session Driver Mark}
    {input : Input} {outputs : List Output} {history : AccountHistory Driver Mark}
    (taken : session.step config input = .ok (next, outputs))
    (messages : CreationMessages history session input) {requestId : String}
    (named : requestId ≠ "")
    (created : ∀ requestType, (requestId, requestType) ∈ sent history →
      requestType = .createOrder) :
    input.event.final requestId = none ∧ answersTo requestId outputs = [] ∨
      ∃ message answer, input.event.final requestId = some message ∧
        answersTo requestId outputs = [answer] ∧ Answers message answer ∧
          finals requestId history = [] := by
  obtain ⟨⟨-, echoes⟩, placed⟩ := messages
  obtain ⟨context, event⟩ := input
  cases event with
  | tradeOrderPlace message =>
    obtain ⟨last, receiptOrFinal⟩ := placed message rfl
    by_cases same : message.requestId = requestId
    · subst same
      rcases receiptOrFinal with receipt | final
      · refine Or.inl ⟨?_, ?_⟩
        · simp [Event.final, Event.orderPlaced, receipt.not_final]
        · rw [answersTo, Session.step_receipt taken receipt]
          rfl
      · obtain ⟨answer, answers, facts⟩ := Session.step_final taken final named
        refine Or.inr ⟨message, answer, ?_, ?_, facts, last⟩
        · simp [Event.final, Event.orderPlaced, final]
        · rw [answersTo, answers]
          exact List.filter_eq_self.mpr (by simpa using facts.requestId)
    · refine Or.inl ⟨?_, Session.step_answers taken requestId ?_⟩
      · simp [Event.final, Event.orderPlaced, same]
      · rintro answer ⟨⟩
        exact same
  | tradeOrderAmend message =>
    refine Or.inl ⟨rfl, Session.step_answers taken requestId ?_⟩
    rintro answer delivers rfl
    have echo := created _ (echoes answer delivers)
    cases delivers
    cases echo
  | tradeOrderCancel message =>
    refine Or.inl ⟨rfl, Session.step_answers taken requestId ?_⟩
    rintro answer delivers rfl
    have echo := created _ (echoes answer delivers)
    cases delivers
    cases echo
  | _ => exact Or.inl ⟨rfl, Session.step_answers taken requestId nofun⟩

/-! ### Runs with creations -/

/-- What is only created under its id is answered once. -/
theorem answered_once_of_run {config : Config} {history : AccountHistory Driver Mark}
    {session : Session Driver Mark}
    (run : (account config).Run CreationMessages history session) {requestId : String}
    (named : requestId ≠ "")
    (created : ∀ requestType, (requestId, requestType) ∈ sent history →
      requestType = .createOrder) :
    AnsweredOnce requestId history := by
  revert created
  refine run.invariant (fun history _ => (∀ requestType, (requestId, requestType) ∈ sent history →
    requestType = .createOrder) → AnsweredOnce requestId history)
    (fun _ => Or.inl ⟨rfl, rfl⟩) ?_
  intro history session input next outputs before messages taken created
  have createdBefore : ∀ requestType, (requestId, requestType) ∈ sent history →
      requestType = .createOrder :=
    fun requestType member => created requestType (List.mem_append_left _ member)
  rw [AnsweredOnce, finals, answered]
  rcases Session.step_creation taken messages named createdBefore with
    ⟨none, silent⟩ | ⟨message, answer, final, answers, facts, last⟩
  · rw [none, silent, Option.toList_none, List.append_nil, List.append_nil]
    exact before createdBefore
  · rcases before createdBefore with ⟨-, unanswered⟩ | ⟨earlier, _, once, -⟩
    · rw [final, answers, last, unanswered]
      exact Or.inr ⟨message, answer, rfl, rfl, facts⟩
    · cases last.symm.trans once

/-- Every creation under a request id that is not empty is answered once: by nothing before its
final message, then by one response. Updates of the order channel are no responses. The messages
about creations that may come next are handled. -/
theorem creations_answered_once (config : Config) (history : AccountHistory Driver Mark)
    (session : Session Driver Mark)
    (run : (account config).Run CreationMessages history session) :
    (∀ requestId, (requestId, .createOrder) ∈ sent history → requestId ≠ "" →
        AnsweredOnce requestId history) ∧
      (∀ context message,
        CreationMessages history session ⟨context, .tradeOrderPlace message⟩ →
          ∃ next outputs, session.step config ⟨context, .tradeOrderPlace message⟩ =
            .ok (next, outputs)) ∧
      History.Always OrderUpdatesAnswerNothing history := by
  refine ⟨?_, fun context message messages => ?_, ?_⟩
  · intro requestId created named
    have unique := IdsUnique.of_run (run.weaken fun _ _ _ messages => messages.1)
    exact answered_once_of_run run named fun requestType member =>
      unique.sameType member created
  · exact session.step_placed config context (messages.2 message rfl).2
  · refine run.always ?_
    rintro history session ⟨context, event⟩ next outputs before messages taken message rfl
    exact Session.step_selects taken Output.response_kind (by simp [Event.kinds])

end Creations

/-- A creation by the host. -/
def plainCreation (requestId : String) : Event :=
  .createOrder ⟨1000000000⟩ ⟨.buy, .limit, .gtc, [], .number 1, .number 100⟩
    ⟨"BTC_USDT", .buy, requestId, ""⟩ ⟨0, 1⟩ requestId

/-- A message of the exchange about a creation. -/
def plainPlaced (requestId text : String) (status : BitVec 32) : Event :=
  .tradeOrderPlace
    { header := ⟨0, status⟩, errs := ⟨"", ""⟩, requestId
      result :=
        { text, price := .number 100, tif := .gtc, status := .open, contract := "BTC_USDT"
          finishAs := .undefinedInternal, fillPrice := .number 0, id := 7, createTime := 0
          createTimeMs := none, size := 1, updateTime := 0, left := 1 } }

/-- Two creations: one with a receipt and the order, the other rejected at once. -/
def plainCreations : List Input :=
  plainInputs (plainLogin ++
    [plainCreation "r1", plainCreation "r2", plainPlaced "r1" "" 200, plainPlaced "r2" "" 400,
      .tradeOrders ⟨[]⟩, plainPlaced "r1" "t-r1" 200])

/-- Both creations are answered once. -/
theorem creations_answered_once_plain : ∃ history session,
    plainAccount.Run CreationMessages history session ∧
      (finals "r1" history).length = 1 ∧ (finals "r2" history).length = 1 ∧
        AnsweredOnce "r1" history ∧ AnsweredOnce "r2" history := by
  have run : plainAccount.Run CreationMessages _ _ := .of_replay plainCreations rfl (by decide)
  have once := creations_answered_once plainConfig _ _ run
  exact ⟨_, _, run, rfl, rfl, once.1 "r1" (by decide) (by decide),
    once.1 "r2" (by decide) (by decide)⟩

/-- A creation under the empty request id is taken for an order of somebody else, and never
answered. -/
theorem unnamed_creation_unanswered : ∃ history session,
    plainAccount.Run CreationMessages history session ∧ ("", .createOrder) ∈ sent history ∧
      (finals "" history).length = 1 ∧ ¬ AnsweredOnce "" history := by
  refine ⟨_, _, .of_replay (plainInputs (plainLogin ++
    [plainCreation "", plainPlaced "" "t-" 200])) rfl (by decide), by decide, rfl, ?_⟩
  rintro (⟨none, -⟩ | ⟨message, answer, -, one, -⟩)
  · cases none
  · cases one

/-! ### Cancellations of all orders -/

/-- The symbol a frame cancels all orders of, under a request. -/
def cancelled (requestId : String) : Payload → Option String
  | .orderCancelCp reqId contract => if reqId = requestId then some contract else none
  | _ => none

/-- The symbol an output cancels all orders of, under a request. -/
def Output.cancelled (requestId : String) (output : Output) : Option String :=
  output.frame?.bind fun frame => Gateway.cancelled requestId frame.payload

/-- The symbols all orders of which were cancelled under a request. -/
def cancelledSymbols (requestId : String) : AccountHistory Driver Mark → List String
  | [] => []
  | entry :: before =>
    cancelledSymbols requestId before ++ entry.output.filterMap (Output.cancelled requestId)

/-- The cancellation of all orders an input asks for: its request id, and the symbols the account
has orders in. -/
def Input.cancellation (input : Input) : Option (String × List String) :=
  match input.event with
  | .cancelAllOrders _ requestId => some (requestId, input.context.dispatcher.allOrderSymbols)
  | _ => none

/-- The cancellations of all orders that were asked for. -/
def cancellations : AccountHistory Driver Mark → List (String × List String)
  | [] => []
  | entry :: before => cancellations before ++ entry.input.cancellation.toList

/-- The reply to a cancellation that an event delivers. -/
def Event.cancelReplied : Event → Option TradeOrderCancelCp
  | .tradeOrderCancelCp message => some message
  | _ => none

/-- The reply to a cancellation under a request that an event delivers. -/
def Event.cancelReply (requestId : String) (event : Event) : Option TradeOrderCancelCp :=
  event.cancelReplied.filter fun message => message.requestId = requestId

/-- The replies to the cancellations under a request. -/
def cancelReplies (requestId : String) : AccountHistory Driver Mark → List TradeOrderCancelCp
  | [] => []
  | entry :: before =>
    cancelReplies requestId before ++ (entry.input.event.cancelReply requestId).toList

/-- The acknowledgement of a request that an output dispatches. -/
def Output.cancelAck (requestId : String) : Output → Option CancelAllOrdersAck
  | .cancelAllOrdersAck ack => if ack.requestId = requestId then some ack else none
  | _ => none

/-- The acknowledgements of a request. -/
def cancelAcks (requestId : String) : AccountHistory Driver Mark → List CancelAllOrdersAck
  | [] => []
  | entry :: before =>
    cancelAcks requestId before ++ entry.output.filterMap (Output.cancelAck requestId)

/-- Cancellations have request ids of their own, and every reply answers a frame that was sent
under its request id and not yet answered. -/
def CancellationReplies : Environment (Session Driver Mark) Input (List Output) :=
  fun history _ input =>
    (∀ cancellation ∈ input.cancellation,
        cancellation.1 ∉ (cancellations history).map Prod.fst) ∧
      ∀ message ∈ input.event.cancelReplied,
        (cancelReplies message.requestId history).length <
          (cancelledSymbols message.requestId history).length

instance (history : AccountHistory Driver Mark) (session : Session Driver Mark)
    (input : Input) : Decidable (CancellationReplies history session input) :=
  inferInstanceAs (Decidable ((∀ cancellation ∈ input.cancellation, _) ∧
    ∀ message ∈ input.event.cancelReplied, _))

/-- An acknowledgement answers a reply. -/
structure AcknowledgesReply (message : TradeOrderCancelCp) (ack : CancelAllOrdersAck) : Prop where
  requestId : ack.requestId = message.requestId
  requestStatus : ack.requestStatus = .accepted ↔ message.header.status = 200

/-- One acknowledgement stands for all replies to a cancellation. -/
def AcknowledgedOnce (requestId : String) (history : AccountHistory Driver Mark) : Prop :=
  ∃ ack, cancelAcks requestId history = [ack] ∧ (ack.requestStatus = .accepted →
    ∀ message ∈ cancelReplies requestId history, message.header.status = 200)

theorem Output.cancelled_kind (requestId : String) (output : Output) (symbol : String)
    (cancels : output.cancelled requestId = some symbol) : output.kind = .cancelAll := by
  cases output with
  | sendText frame =>
    obtain ⟨id, time, channel, event, payload⟩ := frame
    cases payload <;> first | rfl | cases cancels
  | _ => cases cancels

theorem Output.cancelAck_kind (requestId : String) (output : Output) (ack : CancelAllOrdersAck)
    (acknowledges : output.cancelAck requestId = some ack) : output.kind = .cancelAllAck := by
  cases output <;> first | rfl | cases acknowledges

/-- The symbols among outputs are those of their payloads. -/
theorem filterMap_cancelled (requestId : String) (outputs : List Output) :
    outputs.filterMap (Output.cancelled requestId) =
      ((frames outputs).map Frame.payload).filterMap (cancelled requestId) := by
  rw [frames, List.filterMap_map, List.filterMap_filterMap]
  rfl

/-- The payloads of one cancellation name its symbols. -/
theorem filterMap_orderCancelCp (requestId other : String) (symbols : List String) :
    (symbols.map (Payload.orderCancelCp other)).filterMap (cancelled requestId) =
      if other = requestId then symbols else [] := by
  rw [List.filterMap_map]
  split
  next same =>
    refine (List.filterMap_congr fun symbol _ => ?_).trans List.filterMap_some
    exact if_pos same
  next different =>
    exact List.filterMap_eq_nil_iff.mpr fun symbol _ => if_neg different

/-- A reply is acknowledged on its own. -/
theorem Session.tradeOrderCancelCp_acknowledges (config : Config) (message : TradeOrderCancelCp)
    (session : Session Driver Mark) :
    ∃ ack, (session.tradeOrderCancelCp config message).streams.outbox =
        session.streams.outbox ++ [.cancelAllOrdersAck ack] ∧ AcknowledgesReply message ack := by
  refine ⟨_, rfl, rfl, ?_⟩
  show (if message.header.status = 200 then RequestStatus.accepted else .rejected) = _ ↔ _
  split
  next accepted => exact iff_of_true rfl accepted
  next rejected => exact iff_of_false nofun rejected

section Cancellations

variable [LimitRequest Mark] [Download2 DropCopy.State Driver] [LawfulLimitRequest Mark]
  [LawfulDownload2 DropCopy.State Driver]

/-- A step sends one frame for each symbol of its cancellation. -/
theorem Session.step_cancelled {config : Config} {session next : Session Driver Mark}
    {input : Input} {outputs : List Output}
    (taken : session.step config input = .ok (next, outputs)) (requestId : String) :
    outputs.filterMap (Output.cancelled requestId) =
      match input.cancellation with
      | some (other, symbols) => if other = requestId then symbols else []
      | none => [] := by
  have others := Session.step_selects taken (Output.cancelled_kind requestId)
  obtain ⟨handled, rfl⟩ := Session.step_ok taken
  obtain ⟨context, event⟩ := input
  cases event with
  | cancelAllOrders messageInfo other =>
    cases handled
    rw [filterMap_cancelled, cancelAllOrders_payloads]
    exact filterMap_orderCancelCp requestId other context.dispatcher.allOrderSymbols
  | _ => exact others (by simp [Event.kinds])

/-- A step acknowledges the reply it delivers. -/
theorem Session.step_acknowledges {config : Config} {session next : Session Driver Mark}
    {input : Input} {outputs : List Output}
    (taken : session.step config input = .ok (next, outputs)) (requestId : String) :
    List.Forall₂ AcknowledgesReply (input.event.cancelReply requestId).toList
      (outputs.filterMap (Output.cancelAck requestId)) := by
  have others := Session.step_selects taken (Output.cancelAck_kind requestId)
  obtain ⟨handled, rfl⟩ := Session.step_ok taken
  obtain ⟨context, event⟩ := input
  cases event with
  | tradeOrderCancelCp message =>
    cases handled
    obtain ⟨ack, dispatched, acknowledges⟩ :=
      tradeOrderCancelCp_acknowledges config message session.clearOutbox
    rw [dispatched]
    show List.Forall₂ _ ((some message).filter fun message => message.requestId = requestId).toList
      ([Output.cancelAllOrdersAck ack].filterMap _)
    by_cases same : message.requestId = requestId
    · have selected : (Output.cancelAllOrdersAck ack).cancelAck requestId = some ack :=
        if_pos (acknowledges.requestId.trans same)
      rw [Option.filter_some_pos (by simpa using same), List.filterMap_cons_some selected]
      exact .cons acknowledges .nil
    · have skipped : (Output.cancelAllOrdersAck ack).cancelAck requestId = none :=
        if_neg fun named => same (acknowledges.requestId.symm.trans named)
      rw [Option.filter_some_neg (by simpa using same), List.filterMap_cons_none skipped]
      exact .nil
  | _ =>
    rw [others (by simp [Event.kinds])]
    exact .nil

/-- What is sent under a request are frames for the symbols of its cancellation. -/
theorem cancelledSymbols_of_run {config : Config} {history : AccountHistory Driver Mark}
    {session : Session Driver Mark}
    (run : (account config).Run CancellationReplies history session) (requestId : String) :
    (∀ symbols, (requestId, symbols) ∈ cancellations history →
        cancelledSymbols requestId history = symbols) ∧
      (requestId ∉ (cancellations history).map Prod.fst →
        cancelledSymbols requestId history = []) := by
  refine run.invariant (fun history _ =>
    (∀ symbols, (requestId, symbols) ∈ cancellations history →
        cancelledSymbols requestId history = symbols) ∧
      (requestId ∉ (cancellations history).map Prod.fst →
        cancelledSymbols requestId history = [])) ⟨nofun, fun _ => rfl⟩ ?_
  intro history session input next outputs before replies taken
  obtain ⟨known, unknown⟩ := before
  have sends := Session.step_cancelled taken requestId
  rw [cancelledSymbols, cancellations, sends]
  cases asked : input.cancellation with
  | none =>
    rw [Option.toList_none, List.append_nil, List.append_nil]
    exact ⟨known, unknown⟩
  | some cancellation =>
    obtain ⟨other, symbols⟩ := cancellation
    have fresh := replies.1 _ asked
    dsimp only [Option.toList_some]
    by_cases same : other = requestId
    · subst same
      rw [if_pos rfl, unknown fresh, List.nil_append]
      refine ⟨fun symbols' member => ?_, fun absent => absurd (by simp) absent⟩
      rcases List.mem_append.mp member with earlier | now
      · exact absurd (List.mem_map_of_mem earlier) fresh
      · cases List.mem_singleton.mp now
        rfl
    · rw [if_neg same, List.append_nil]
      refine ⟨fun symbols' member => ?_, fun absent => unknown fun earlier => ?_⟩
      · rcases List.mem_append.mp member with earlier | now
        · exact known symbols' earlier
        · cases List.mem_singleton.mp now
          exact absurd rfl same
      · rw [List.map_append] at absent
        exact absent (List.mem_append_left _ earlier)

/-- Every reply to a cancellation is acknowledged once, in order. -/
theorem cancelAcks_of_run {config : Config} {history : AccountHistory Driver Mark}
    {session : Session Driver Mark}
    (run : (account config).Run CancellationReplies history session) (requestId : String) :
    List.Forall₂ AcknowledgesReply (cancelReplies requestId history)
        (cancelAcks requestId history) ∧
      (cancelReplies requestId history).length ≤
        (cancelledSymbols requestId history).length := by
  refine run.invariant (fun history _ =>
    List.Forall₂ AcknowledgesReply (cancelReplies requestId history)
        (cancelAcks requestId history) ∧
      (cancelReplies requestId history).length ≤
        (cancelledSymbols requestId history).length) ⟨.nil, Nat.le_refl 0⟩ ?_
  intro history session input next outputs before replies taken
  obtain ⟨acknowledged, within⟩ := before
  refine ⟨List.rel_append acknowledged (Session.step_acknowledges taken requestId), ?_⟩
  rw [cancelReplies, cancelledSymbols, List.length_append, List.length_append]
  cases reply : input.event.cancelReply requestId with
  | none => exact within.trans (Nat.le_add_right _ _)
  | some message =>
    obtain ⟨replied, same⟩ := Option.filter_eq_some_iff.mp reply
    have unanswered := replies.2 message replied
    rw [of_decide_eq_true same] at unanswered
    rw [Option.toList_some, List.length_singleton]
    omega

/-- A cancellation of all orders sends one frame for each symbol under its request id, and every
reply to it is acknowledged once, under that id, and as accepted exactly if the reply is. -/
theorem cancellations_acknowledged (config : Config) (history : AccountHistory Driver Mark)
    (session : Session Driver Mark)
    (run : (account config).Run CancellationReplies history session) (requestId : String)
    (symbols : List String) (asked : (requestId, symbols) ∈ cancellations history) :
    cancelledSymbols requestId history = symbols ∧
      (cancelReplies requestId history).length ≤ symbols.length ∧
        List.Forall₂ AcknowledgesReply (cancelReplies requestId history)
          (cancelAcks requestId history) := by
  have sends := (cancelledSymbols_of_run run requestId).1 symbols asked
  obtain ⟨acknowledged, within⟩ := cancelAcks_of_run run requestId
  rw [sends] at within
  exact ⟨sends, within, acknowledged⟩

end Cancellations

/-- A reply of the exchange to a cancellation of all orders. -/
def plainCancelReply (requestId : String) (status : BitVec 32) : Event :=
  .tradeOrderCancelCp { header := ⟨0, status⟩, result := (), errs := ⟨"", ""⟩, requestId }

/-- The cancellation of all orders of an account that has orders in the given symbols, and the
replies of the exchange. -/
def plainCancellation (symbols : List String) (statuses : List (BitVec 32)) : List Input :=
  plainInputs plainLogin ++
    ⟨{ plainContext [] with dispatcher.allOrderSymbols := symbols },
        .cancelAllOrders ⟨1000000000⟩ "r1"⟩ ::
      plainInputs (statuses.map (plainCancelReply "r1"))

/-- Every reply is acknowledged, the accepted ones as accepted. -/
theorem cancellations_acknowledged_plain : ∃ history session,
    plainAccount.Run CancellationReplies history session ∧
      cancelledSymbols "r1" history = ["BTC_USDT", "ETH_USDT"] ∧
        List.Forall₂ AcknowledgesReply (cancelReplies "r1" history) (cancelAcks "r1" history) := by
  have run : plainAccount.Run CancellationReplies _ _ :=
    .of_replay (plainCancellation ["BTC_USDT", "ETH_USDT"] [400, 200]) rfl (by decide)
  obtain ⟨sends, -, acknowledged⟩ := cancellations_acknowledged plainConfig _ _ run "r1"
    ["BTC_USDT", "ETH_USDT"] (by decide)
  exact ⟨_, _, run, sends, acknowledged⟩

/-- The two replies to a cancellation in two symbols are acknowledged one by one, the second as
accepted although the first is not. -/
theorem cancellation_acknowledged_twice : ∃ history session,
    plainAccount.Run CancellationReplies history session ∧
      cancellations history = [("r1", ["BTC_USDT", "ETH_USDT"])] ∧
        (cancelReplies "r1" history).length = 2 ∧ ¬ AcknowledgedOnce "r1" history := by
  refine ⟨_, _, .of_replay (plainCancellation ["BTC_USDT", "ETH_USDT"] [400, 200]) rfl
    (by decide), rfl, rfl, ?_⟩
  rintro ⟨ack, one, -⟩
  cases one

end GateFutures.Gateway
