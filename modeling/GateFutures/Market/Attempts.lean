/-
This file proves which late replies of the download have no effect.

A request of the download carries the number of its attempt. A reply to a superseded attempt is
skipped by the success handler, before its body is read. The error handler does not look at the
number: it retries. So a late reply has no effect exactly when it is a success.
-/

import GateFutures.Market.Steps

namespace GateFutures.Market

open Framework Library Protocol Roq
open Gateway (RestResponse)

variable {Driver Store Queue : Type}

/-! ### Replies of the download -/

/-- The reply is of category `SUCCESS`. -/
def isSuccess {Body : Type} : RestResponse Body → Bool
  | .result .success _ _ => true
  | _ => false

/-- A reply of the download: the state and the number of the attempt its request was sent for, and
whether it is a success. -/
structure DownloadReply where
  state : Rest.State
  sequence : UInt32
  success : Bool

/-- The reply of the download an event delivers. -/
def Event.downloadReply : Event → Option DownloadReply
  | .currenciesReply sequence response => some ⟨.currencies, sequence, isSuccess response⟩
  | .contractsReply sequence response _ => some ⟨.contracts, sequence, isSuccess response⟩
  | _ => none

variable [Download2 Rest.State Driver]

/-- The reply belongs to a superseded attempt. -/
def DownloadReply.IsLate (reply : DownloadReply) (controller : Controller Driver Store Queue) :
    Prop :=
  Download2.skip controller.download reply.sequence reply.state = true

instance (reply : DownloadReply) (controller : Controller Driver Store Queue) :
    Decidable (reply.IsLate controller) :=
  inferInstanceAs (Decidable (_ = true))

/-- A late reply is a success. -/
def LateRepliesSucceed : Environment (Controller Driver Store Queue) Input (List Output) :=
  fun _ controller input => ∀ reply ∈ input.event.downloadReply, reply.IsLate controller →
    reply.success = true

instance (history : MarketHistory Driver Store Queue) (controller : Controller Driver Store Queue)
    (input : Input) : Decidable (LateRepliesSucceed history controller input) :=
  inferInstanceAs (Decidable (∀ reply ∈ input.event.downloadReply, _ → _))

variable [Symbols String Store] [LimitQueue String Queue]

/-- A late reply has no effect: nothing is output, no attempt is started, and neither the download
nor the streams change. -/
def LateRepliesIgnored (config : Config) :
    StepProperty (Controller Driver Store Queue) Input (List Output) :=
  fun _ entry => ∀ reply ∈ entry.input.event.downloadReply, reply.IsLate entry.before →
    entry.before.step config entry.input = .ok (entry.before.clearOutbox, [])

/-! ### One step -/

/-- A reply that is a success is given to the success handler. -/
theorem processResponse_success {Body Owner : Type} {response : RestResponse Body}
    {errorHandler : Owner → Owner}
    {successHandler : Option Body → Owner → Except Fatal (Owner × Outcome)} {owner : Owner}
    (success : isSuccess response = true)
    (skips : ∀ body, successHandler body owner = .ok (owner, .returned)) :
    processResponse response errorHandler successHandler owner = .ok owner := by
  cases response with
  | result category status body =>
    cases category with
    | success =>
      rw [processResponse, skips]
      rfl
    | _ => cases success
  | _ => cases success

/-- A reply that is no success, and does not end the process, is given to the error handler. -/
theorem processResponse_failure {Body Owner : Type} {response : RestResponse Body}
    {errorHandler : Owner → Owner}
    {successHandler : Option Body → Owner → Except Fatal (Owner × Outcome)} {owner next : Owner}
    (failure : ¬ isSuccess response = true)
    (processed : processResponse response errorHandler successHandler owner = .ok next) :
    next = errorHandler owner := by
  cases response with
  | result category status body =>
    cases category with
    | success => exact absurd rfl failure
    | redirection => cases processed
    | unknown | informationalResponse | clientError | serverError =>
      cases processed
      rfl
  | omsException | networkError | exception =>
    cases processed
    rfl

namespace Controller

/-- A late success changes nothing. -/
theorem handle_lateSuccess {config : Config} {context : Context}
    {controller : Controller Driver Store Queue} {event : Event} {reply : DownloadReply}
    (delivers : event.downloadReply = some reply) (late : reply.IsLate controller)
    (success : reply.success = true) :
    controller.handle config context event = .ok controller := by
  cases event with
  | currenciesReply sequence response =>
    cases delivers
    rw [handle, getCurrenciesAck]
    exact processResponse_success success fun body => if_pos late
  | contractsReply sequence response failure =>
    cases delivers
    rw [handle, getContractsAck]
    exact processResponse_success success fun body => if_pos late
  | _ => cases delivers

/-- A failed reply is retried, late or not. -/
theorem handle_failure {config : Config} {context : Context}
    {controller next : Controller Driver Store Queue} {event : Event} {reply : DownloadReply}
    (delivers : event.downloadReply = some reply) (failure : ¬ reply.success = true)
    (handled : controller.handle config context event = .ok next) :
    next = controller.retry config reply.state := by
  cases event with
  | currenciesReply sequence response =>
    cases delivers
    rw [handle, getCurrenciesAck] at handled
    exact processResponse_failure failure handled
  | contractsReply sequence response failed =>
    cases delivers
    rw [handle, getContractsAck] at handled
    exact processResponse_failure failure handled
  | _ => cases delivers

end Controller

/-- Every late reply has no effect exactly in the runs in which every late reply is a success. -/
theorem late_replies_ignored_iff [LawfulAttempts Rest.State Driver] (config : Config)
    (history : MarketHistory Driver Store Queue) (controller : Controller Driver Store Queue)
    (run : (market config).Run (fun _ _ _ => True) history controller) :
    History.Always (LateRepliesIgnored config) history ↔
      History.Always
        (fun before entry => LateRepliesSucceed before entry.before entry.input) history := by
  refine run.always_iff ?_
  intro history controller input next outputs before admitted taken
  refine forall_congr' fun reply => forall_congr' fun delivers => forall_congr' fun late => ?_
  constructor
  · intro ignored
    by_contra failure
    have retried := Controller.handle_failure delivers failure (Controller.step_ok taken).1
    have unchanged : next = controller.clearOutbox := by
      cases taken.symm.trans ignored
      rfl
    have renewed := LawfulAttempts.retry_renews (Rest.download config) reply.state
      controller.clearOutbox.download controller.clearOutbox.feeds
    refine renewed (congrArg Download2.sequence ?_)
    exact congrArg Controller.download (retried.symm.trans unchanged)
  · intro success
    have handled : controller.clearOutbox.handle config input.context input.event =
        .ok controller.clearOutbox := Controller.handle_lateSuccess delivers late success
    rw [Controller.step, handled]
    rfl

/-- A plain market that reconnects, and a reply to the request of the first attempt. -/
def plainLateReply (response : RestResponse ContractsAck) : List Input :=
  plainInputs
    [.restConnected, .restDisconnected, .restConnected, .contractsReply 1 response none]

/-- A late success, even of a body that does not decode, is ignored. -/
theorem late_replies_ignored_plain : ∃ history controller,
    plainMarket.Run (fun _ _ _ => True) history controller ∧
      controller.download.sequence = 2 ∧
        History.Always (LateRepliesIgnored plainConfig) history := by
  have run : plainMarket.Run (fun _ _ _ => True) _ _ :=
    .of_replay (plainLateReply (.result .success 200 none)) rfl (by decide)
  exact ⟨_, _, run, rfl, (late_replies_ignored_iff plainConfig _ _ run).mpr (by decide)⟩

/-- A late failure starts a new attempt while one is under way. -/
theorem late_failure_retried : ∃ history controller,
    plainMarket.Run (fun _ _ _ => True) history controller ∧
      ¬ History.Always (LateRepliesIgnored plainConfig) history := by
  refine ⟨_, _, .of_replay (plainLateReply .networkError) rfl (by decide), ?_⟩
  intro always
  have ignored := always.1 ⟨.contracts, 1, false⟩ rfl (by decide)
  exact absurd (congrArg (Except.map fun taken => taken.2) ignored) (by decide)

end GateFutures.Market
