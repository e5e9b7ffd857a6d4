/-
This file proves how the responses of an account correlate with its order requests.

An accepted or rejected answer is dispatched as a response under the id it echoes. Its
type is written by hand in each branch, and the branch of a rejected amendment writes the
type of a cancellation. So every response names a request that was sent, with the type of
that request, exactly in the runs in which no amendment is rejected.
-/

import GateFutures.Gateway.Steps
import Mathlib.Data.List.Nodup

namespace GateFutures.Gateway

open Framework Library Protocol Roq

variable {Driver Mark : Type}

/-! ### Requests and answers -/

/-- The order requests among outputs: their ids and types. -/
def orderRequests (outputs : List Output) : List (String × RequestType) :=
  outputs.filterMap Output.orderRequest

/-- The responses among outputs. -/
def orderResponses (outputs : List Output) : List Response :=
  outputs.filterMap Output.response?

/-- The order requests that were sent. -/
def sent : AccountHistory Driver Mark → List (String × RequestType)
  | [] => []
  | entry :: before => sent before ++ orderRequests entry.output

/-- Two requests of one id are the same request. -/
def IdsUnique (history : AccountHistory Driver Mark) : Prop :=
  ((sent history).map Prod.fst).Nodup

/-- A request's type is determined by its id. -/
theorem IdsUnique.sameType {history : AccountHistory Driver Mark} (unique : IdsUnique history)
    {requestId : String} {first second : RequestType} (member : (requestId, first) ∈ sent history)
    (member' : (requestId, second) ∈ sent history) : first = second :=
  congrArg Prod.snd (List.inj_on_of_nodup_map unique member member' rfl)

/-- The order request an event asks for. -/
def Event.orderAction : Event → Option (String × RequestType)
  | .createOrder _ _ _ _ requestId => some (requestId, .createOrder)
  | .modifyOrder _ _ _ _ requestId => some (requestId, .modifyOrder)
  | .cancelOrder _ _ requestId => some (requestId, .cancelOrder)
  | _ => none

/-- An answer to an order request: the type its channel says, the id it echoes, and its header
status. -/
structure OrderAnswer where
  requestType : RequestType
  requestId : String
  status : BitVec 32
  deriving DecidableEq

/-- The answer an event delivers. -/
def Event.orderAnswer : Event → Option OrderAnswer
  | .tradeOrderPlace message => some ⟨.createOrder, message.requestId, message.header.status⟩
  | .tradeOrderAmend message => some ⟨.modifyOrder, message.requestId, message.header.status⟩
  | .tradeOrderCancel message => some ⟨.cancelOrder, message.requestId, message.header.status⟩
  | _ => none

/-- The status of a response to an answer. -/
def OrderAnswer.requestStatus (answer : OrderAnswer) : RequestStatus :=
  if answer.status = 200 then .accepted else .rejected

/-- Requests have ids of their own, and answers echo the channel and the id of a request that was
sent. A request may be answered any number of times. -/
def OrderAnswersEcho : Environment (Session Driver Mark) Input (List Output) :=
  fun history _ input =>
    (∀ request ∈ input.event.orderAction, request.1 ∉ (sent history).map Prod.fst) ∧
      ∀ answer ∈ input.event.orderAnswer, (answer.requestId, answer.requestType) ∈ sent history

instance (history : AccountHistory Driver Mark) (session : Session Driver Mark)
    (input : Input) : Decidable (OrderAnswersEcho history session input) :=
  inferInstanceAs (Decidable ((∀ request ∈ input.event.orderAction, _) ∧
    ∀ answer ∈ input.event.orderAnswer, _))

/-- Every response answers a request that was sent, under its id and with its type, and with the
status of the answer. -/
def ResponsesCorrelate : StepProperty (Session Driver Mark) Input (List Output) :=
  fun history entry => ∀ response ∈ orderResponses entry.output,
    (response.requestId, response.requestType) ∈ sent history ∧
      ∃ answer ∈ entry.input.event.orderAnswer, response.requestId = answer.requestId ∧
        response.requestStatus = answer.requestStatus

/-- An answered amendment is accepted. -/
def AmendmentsAccepted : Environment (Session Driver Mark) Input (List Output) :=
  fun _ _ input => ∀ answer ∈ input.event.orderAnswer,
    answer.requestType = .modifyOrder → answer.status = 200

instance (history : AccountHistory Driver Mark) (session : Session Driver Mark)
    (input : Input) : Decidable (AmendmentsAccepted history session input) :=
  inferInstanceAs (Decidable (∀ answer ∈ input.event.orderAnswer, _ → _))

/-- The type a response to an answer is dispatched with. -/
def OrderAnswer.responseType (answer : OrderAnswer) : RequestType :=
  if answer.requestType = .modifyOrder ∧ answer.status ≠ 200 then .cancelOrder
  else answer.requestType

/-! ### One step -/

theorem publishAccepted_responses {width : Nat} {config : Config} {requestType : RequestType}
    {requestId : String} {result : OrderItem width} {session next : Session Driver Mark}
    (published : session.clearOutbox.publishAccepted config requestType requestId result =
      .ok next) :
    ∀ response ∈ orderResponses next.streams.outbox, response.requestId = requestId ∧
      response.requestType = requestType ∧ response.requestStatus = .accepted := by
  obtain ⟨update, -, published⟩ := bind_ok.mp published
  cases published
  cases update with
  | none => exact fun _ member => nomatch member
  | some update =>
    intro response member
    cases List.mem_singleton.mp member
    exact ⟨rfl, rfl, rfl⟩

variable [LimitRequest Mark] [Download2 DropCopy.State Driver]

/-- A rejected amendment is answered, under its id, as a rejected cancellation. -/
theorem Session.step_amendRejected {config : Config} {session next : Session Driver Mark}
    {context : Context} {message : TradeOrderAmend} {outputs : List Output}
    (taken : session.step config ⟨context, .tradeOrderAmend message⟩ = .ok (next, outputs))
    (rejected : message.header.status ≠ 200) :
    rejectedResponse .cancelOrder 0 message.requestId message.errs.message ∈
      orderResponses outputs := by
  obtain ⟨handled, rfl⟩ := Session.step_ok taken
  simp only [Session.handle, Session.tradeOrderAmend, if_neg rejected] at handled
  cases handled
  exact List.mem_singleton.mpr rfl

variable [LawfulLimitRequest Mark] [LawfulDownload2 DropCopy.State Driver]

/-- A response answers the event's answer, with the type of its branch. -/
theorem Session.step_responses {config : Config} {session next : Session Driver Mark}
    {input : Input} {outputs : List Output}
    (taken : session.step config input = .ok (next, outputs)) :
    ∀ response ∈ orderResponses outputs, ∃ answer ∈ input.event.orderAnswer,
      response.requestId = answer.requestId ∧ response.requestType = answer.responseType ∧
        response.requestStatus = answer.requestStatus := by
  have others := Session.step_selects taken Output.response_kind
  obtain ⟨handled, rfl⟩ := Session.step_ok taken
  obtain ⟨context, event⟩ := input
  intro response member
  cases event with
  | tradeOrderPlace message =>
    refine ⟨_, rfl, ?_⟩
    simp only [Session.handle, Session.tradeOrderPlace] at handled
    split at handled
    next accepted =>
      split at handled
      · obtain ⟨sameId, sameType, sameStatus⟩ :=
          publishAccepted_responses handled response member
        exact ⟨sameId, sameType, sameStatus.trans (if_pos accepted).symm⟩
      · cases handled
        cases member
    next rejected =>
      cases handled
      cases List.mem_singleton.mp member
      exact ⟨rfl, rfl, (if_neg rejected).symm⟩
  | tradeOrderAmend message =>
    refine ⟨_, rfl, ?_⟩
    simp only [Session.handle, Session.tradeOrderAmend] at handled
    split at handled
    next accepted =>
      obtain ⟨sameId, sameType, sameStatus⟩ := publishAccepted_responses handled response member
      exact ⟨sameId, sameType.trans (if_neg fun both => both.2 accepted).symm,
        sameStatus.trans (if_pos accepted).symm⟩
    next rejected =>
      cases handled
      cases List.mem_singleton.mp member
      exact ⟨rfl, (if_pos ⟨rfl, rejected⟩).symm, (if_neg rejected).symm⟩
  | tradeOrderCancel message =>
    refine ⟨_, rfl, ?_⟩
    simp only [Session.handle, Session.tradeOrderCancel] at handled
    split at handled
    next accepted =>
      obtain ⟨sameId, sameType, sameStatus⟩ := publishAccepted_responses handled response member
      exact ⟨sameId, sameType, sameStatus.trans (if_pos accepted).symm⟩
    next rejected =>
      cases handled
      cases List.mem_singleton.mp member
      exact ⟨rfl, rfl, (if_neg rejected).symm⟩
  | _ =>
    rw [orderResponses, others (by simp [Event.kinds])] at member
    cases member

/-- A step sends the order request its event asks for, or none. -/
theorem Session.step_orderRequests {config : Config} {session next : Session Driver Mark}
    {input : Input} {outputs : List Output}
    (taken : session.step config input = .ok (next, outputs)) :
    orderRequests outputs = [] ∨ orderRequests outputs = input.event.orderAction.toList := by
  have others := Session.step_selects taken Output.orderRequest_kind
  obtain ⟨handled, rfl⟩ := Session.step_ok taken
  obtain ⟨context, event⟩ := input
  cases event with
  | createOrder messageInfo request order refData requestId =>
    cases handled
    simp only [Session.createOrder, Session.mapStreams]
    split
    next frame encoded =>
      obtain ⟨tif, -, encoded⟩ := bind_ok.mp encoded
      cases encoded
      exact Or.inr rfl
    next => exact Or.inl rfl
  | modifyOrder | cancelOrder =>
    cases handled
    exact Or.inr rfl
  | _ => exact Or.inl (others (by simp [Event.kinds]))

/-! ### Runs -/

theorem IdsUnique.of_run {config : Config} {history : AccountHistory Driver Mark}
    {session : Session Driver Mark}
    (run : (account config).Run OrderAnswersEcho history session) : IdsUnique history := by
  refine run.invariant (fun history _ => IdsUnique history) List.nodup_nil ?_
  intro history session input next outputs unique echoes taken
  rw [IdsUnique, sent]
  rcases Session.step_orderRequests taken with none | asked
  · rw [none, List.append_nil]
    exact unique
  · rw [asked]
    cases action : input.event.orderAction with
    | none =>
      rw [Option.toList_none, List.append_nil]
      exact unique
    | some request =>
      have fresh := echoes.1 request action
      simp only [Option.toList_some, List.map_append, List.map_cons, List.map_nil]
      exact List.nodup_append.mpr ⟨unique, List.nodup_singleton _, by
        rintro id member other only rfl
        cases List.mem_singleton.mp only
        exact fresh member⟩

/-- Every response names a request that was sent, with its type and the status of its answer,
exactly in the runs in which every answered amendment is accepted. -/
theorem responses_correlate_iff (config : Config) (history : AccountHistory Driver Mark)
    (session : Session Driver Mark)
    (run : (account config).Run OrderAnswersEcho history session) :
    History.Always ResponsesCorrelate history ↔
      History.Always
        (fun before entry => AmendmentsAccepted before entry.before entry.input) history := by
  refine run.always_iff ?_
  intro history session input next outputs run echoes taken
  constructor
  · intro correlate answer answered amends
    by_contra rejected
    obtain ⟨context, event⟩ := input
    cases event with
    | tradeOrderAmend message =>
      cases answered
      have named := (correlate _ (Session.step_amendRejected taken rejected)).1
      cases (IdsUnique.of_run run).sameType named (echoes.2 _ rfl)
    | tradeOrderPlace | tradeOrderCancel =>
      cases answered
      cases amends
    | _ => cases answered
  · intro accepted response member
    obtain ⟨answer, answered, sameId, sameType, sameStatus⟩ :=
      Session.step_responses taken response member
    have unchanged : answer.responseType = answer.requestType :=
      if_neg fun both => both.2 (accepted answer answered both.1)
    refine ⟨?_, answer, answered, sameId, sameStatus⟩
    rw [sameId, sameType, unchanged]
    exact echoes.2 answer answered

/-- An amendment of the plain account, and its answer. -/
def plainAmendment (status : BitVec 32) : List Input :=
  plainInputs (plainLogin ++
    [.modifyOrder ⟨1000000000⟩ ⟨.number 2, .number 100⟩ ⟨"BTC_USDT", .buy, "c1", "7"⟩ ⟨0, 1⟩ "r1",
      .tradeOrderAmend
        { header := ⟨0, status⟩, errs := ⟨"", ""⟩, requestId := "r1"
          result :=
            { text := "t-c1", price := .number 100, tif := .gtc, status := .open
              contract := "BTC_USDT", finishAs := .undefinedInternal, fillPrice := .number 0
              id := 7, createTime := 0, createTimeMs := none, size := 2, updateTime := 0
              left := 2 } }])

/-- An accepted amendment is answered as such. -/
theorem responses_correlate_plain : ∃ history session,
    plainAccount.Run OrderAnswersEcho history session ∧
      sent history = [("r1", .modifyOrder)] ∧ History.Always ResponsesCorrelate history := by
  have run : plainAccount.Run OrderAnswersEcho _ _ :=
    .of_replay (plainAmendment 200) rfl (by decide)
  exact ⟨_, _, run, rfl, (responses_correlate_iff plainConfig _ _ run).mpr (by decide)⟩

/-- A rejected amendment is answered as a rejected cancellation. -/
theorem rejected_amendment_miscorrelates : ∃ history session,
    plainAccount.Run OrderAnswersEcho history session ∧
      ¬ History.Always ResponsesCorrelate history := by
  refine ⟨_, _, .of_replay (plainAmendment 400) rfl (by decide), ?_⟩
  intro always
  exact absurd (always.1 _ (List.mem_singleton.mpr rfl)).1 (by decide)

end GateFutures.Gateway
