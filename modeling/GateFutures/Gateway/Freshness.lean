/-
This file proves which REST requests complete a stage of the download.

A connection that ends leaves its REST requests in flight and the request marks as they
are, and a reply records its response without saying which request it answers. A stage is
completed by a request sent after it was entered in the runs that enter the stage with no
request of its kind in flight; otherwise an older request may complete it.
-/

import GateFutures.Gateway.Steps

namespace GateFutures.Gateway

open Framework Library Protocol Roq

variable {Driver Mark : Type}

/-! ### Requests in flight -/

/-- The REST requests a step sent. -/
def sentRequests (sentAt : Nat) (outputs : List Output) : List RestRequest :=
  (outputs.filterMap Output.restKind?).map fun kind => ⟨kind, sentAt⟩

/-- The REST requests that were sent and not yet answered. A reply is the end of its request;
neither connection's end is. -/
def inFlight : AccountHistory Driver Mark → List RestRequest
  | [] => []
  | entry :: before =>
    (match entry.input.event.restReply with
      | some reply => (inFlight before).erase reply.request
      | none => inFlight before) ++ sentRequests before.length entry.output

/-- Replies answer requests of their kind that are in flight. -/
def RepliesAnswerRequests : Environment (Session Driver Mark) Input (List Output) :=
  fun history _ input => ∀ reply ∈ input.event.restReply,
    reply.request.kind = reply.kind ∧ reply.request ∈ inFlight history

instance (history : AccountHistory Driver Mark) (session : Session Driver Mark)
    (input : Input) : Decidable (RepliesAnswerRequests history session input) :=
  inferInstanceAs (Decidable (∀ reply ∈ input.event.restReply, _ ∧ _))

theorem mem_sentRequests {sentAt : Nat} {outputs : List Output} {request : RestRequest}
    (member : request ∈ sentRequests sentAt outputs) :
    request.sentAt = sentAt ∧ ∃ output ∈ outputs, output.kind = .restRequest := by
  obtain ⟨kind, sent, rfl⟩ := List.mem_map.mp member
  obtain ⟨output, output_mem, same⟩ := List.mem_filterMap.mp sent
  cases output <;> cases same
  exact ⟨rfl, _, output_mem, rfl⟩

/-- A request in flight was in flight before the last step, or is sent by it. -/
theorem mem_inFlight_cons {entry : AccountEntry Driver Mark}
    {before : AccountHistory Driver Mark} {request : RestRequest}
    (member : request ∈ inFlight (entry :: before)) :
    request ∈ inFlight before ∨ request ∈ sentRequests before.length entry.output := by
  rcases List.mem_append.mp member with member | member
  · split at member
    · exact Or.inl (List.mem_of_mem_erase member)
    · exact Or.inl member
  · exact Or.inr member

theorem sentAt_lt {history : AccountHistory Driver Mark} {request : RestRequest}
    (member : request ∈ inFlight history) : request.sentAt < history.length := by
  induction history with
  | nil => cases member
  | cons entry before inductionHypothesis =>
    rcases mem_inFlight_cons member with member | member
    · exact Nat.lt_succ_of_lt (inductionHypothesis member)
    · rw [(mem_sentRequests member).1]
      exact Nat.lt_succ_self before.length

/-! ### When a stage was entered -/

/-- The step at which the stage of a REST request was last entered since the connection
began. -/
def enteredAt [Download2 DropCopy.State Driver] (kind : RestKind) :
    AccountHistory Driver Mark → Option Nat
  | [] => none
  | entry :: before =>
    if entry.input.event.isDisconnected then none
    else if EntersStage kind.stage entry.output then some before.length
    else enteredAt kind before

/-- The subscription that comes before the stage of a REST request. -/
def RestKind.subscription : RestKind → DropCopy.State
  | .accounts => .subscribeBalances
  | .positions => .subscribePositions
  | .trades => .subscribeTrades

variable [Download2 DropCopy.State Driver]

theorem enteredAt_lt {kind : RestKind} {history : AccountHistory Driver Mark} {entered : Nat}
    (last : enteredAt kind history = some entered) : entered < history.length := by
  induction history with
  | nil => cases last
  | cons entry before inductionHypothesis =>
    rw [enteredAt] at last
    split at last
    · cases last
    · split at last
      · cases last
        exact Nat.lt_succ_self before.length
      · exact Nat.lt_succ_of_lt (inductionHypothesis last)

/-- A reply that completes a stage answers a request sent after the stage was entered. -/
def CompletesFresh [LimitRequest Mark] :
    StepProperty (Session Driver Mark) Input (List Output) := fun history entry =>
  ∀ reply ∈ entry.input.event.restReply, entry.before.state = reply.kind.stage →
    entry.before.responses reply.kind = false →
      ∃ entered ∈ enteredAt reply.kind history, entered < reply.request.sentAt

/-- The acknowledged subscription ends a stage, and the stage of a REST request is next. -/
def Acknowledges (session : Session Driver Mark) (input : Input) (kind : RestKind) : Prop :=
  input.event.advances session.state ∧ session.state = kind.subscription

instance (session : Session Driver Mark) (input : Input) (kind : RestKind) :
    Decidable (Acknowledges session input kind) :=
  inferInstanceAs (Decidable (_ ∧ _))

/-- When the subscription before a stage is acknowledged, no request of the stage's kind is in
flight. -/
def EntersWithNoneInFlight : Environment (Session Driver Mark) Input (List Output) :=
  fun history session input => ∀ kind, Acknowledges session input kind →
    ∀ request ∈ inFlight history, request.kind ≠ kind

instance (history : AccountHistory Driver Mark) (session : Session Driver Mark)
    (input : Input) : Decidable (EntersWithNoneInFlight history session input) :=
  inferInstanceAs (Decidable (∀ kind, Acknowledges session input kind → _))

/-! ### The invariant -/

/-- In the stage of a REST request, all requests of its kind in flight were sent after the
stage was entered. -/
def FreshInvariant (history : AccountHistory Driver Mark) (session : Session Driver Mark) :
    Prop :=
  ∀ kind : RestKind, session.state = kind.stage → ∃ entered ∈ enteredAt kind history,
    ∀ request ∈ inFlight history, request.kind = kind → entered < request.sentAt

/-- A step that leaves the stage alone keeps the invariant. -/
theorem FreshInvariant.same_stage {history : AccountHistory Driver Mark}
    {session next : Session Driver Mark} {input : Input} {outputs : List Output}
    (invariant : FreshInvariant history session) (connected : input.event.isDisconnected = false)
    (state : next.state = session.state) (silent : Silent outputs) :
    FreshInvariant (⟨session, input, outputs⟩ :: history) next := by
  intro kind current
  obtain ⟨entered, last, after⟩ := invariant kind (state.symm.trans current)
  refine ⟨entered, ?_, fun request member same => ?_⟩
  · simpa [enteredAt, connected, silent.not_enters] using last
  · rcases mem_inFlight_cons member with member | member
    · exact after request member same
    · rw [(mem_sentRequests member).1]
      exact enteredAt_lt last

theorem nextStage_subscription {tradesLookback : Int} {counter : Nat} {state : DropCopy.State}
    {kind : RestKind}
    (entered : DropCopy.nextStage tradesLookback counter state = kind.stage) :
    state = kind.subscription := by
  by_cases none : counter = 0 <;> by_cases skipped : tradesLookback = 0 <;>
    cases state <;> cases kind <;>
    simp_all [DropCopy.nextStage, RestKind.stage, RestKind.subscription]

variable [LimitRequest Mark] [LawfulLimitRequest Mark] [LawfulDownload2 DropCopy.State Driver]

theorem FreshInvariant.step {config : Config} {history : AccountHistory Driver Mark}
    {session next : Session Driver Mark} {input : Input} {outputs : List Output}
    (invariant : FreshInvariant history session)
    (idle : EntersWithNoneInFlight history session input)
    (taken : session.step config input = .ok (next, outputs)) :
    FreshInvariant (⟨session, input, outputs⟩ :: history) next := by
  cases Session.step_stage taken with
  | stays connected _ state _ silent => exact invariant.same_stage connected state silent
  | commits _ connected _ state _ silent => exact invariant.same_stage connected state silent
  | resets _ _ state _ =>
    intro kind current
    cases kind <;> cases state.symm.trans current
  | enters stage connected _ cause state _ announced =>
    intro kind current
    have same : kind.stage = stage := current.symm.trans state
    refine ⟨history.length, ?_, fun request member ofKind => ?_⟩
    · simp [enteredAt, connected, (announced.enters_iff kind).mpr same]
    · rcases cause with rfl | ⟨advances, next, -⟩
      · cases kind <;> cases same
      · rcases mem_inFlight_cons member with member | member
        · exact absurd ofKind (idle kind
            ⟨advances, nextStage_subscription (next.symm.trans same.symm)⟩ request member)
        · obtain ⟨-, output, output_mem, sent⟩ := mem_sentRequests member
          exact absurd (sent ▸ Session.step_kinds taken output output_mem)
            (Event.advances_sends_none advances)

/-! ### Runs -/

/-- In a run that enters its stages with no request of their kind in flight, a reply that
completes a stage answers a request sent after the stage was entered. -/
theorem replies_complete_fresh (config : Config) (history : AccountHistory Driver Mark)
    (session : Session Driver Mark)
    (run : (account config).Run RepliesAnswerRequests history session)
    (idle : History.Always
      (fun before entry => EntersWithNoneInFlight before entry.before entry.input) history) :
    History.Always CompletesFresh history := by
  refine (run.restrict idle).always ?_
  intro history session input next outputs run admitted taken reply answered current waiting
  have invariant : FreshInvariant history session := by
    refine run.invariant FreshInvariant ?_
      fun history session input next outputs invariant admitted taken =>
        invariant.step admitted.2 taken
    intro kind current
    have state : (Session.initial : Session Driver Mark).state = .undefined :=
      LawfulDownload2.state_initial
    cases kind <;> cases state.symm.trans current
  obtain ⟨entered, last, after⟩ := invariant reply.kind current
  obtain ⟨ofKind, member⟩ := admitted.1 reply answered
  exact ⟨entered, last, after reply.request member ofKind⟩

/-- The accounts of the plain account are requested and answered within one connection. -/
theorem replies_complete_fresh_plain : ∃ history session,
    plainAccount.replay (plainInputs (plainLogin ++ [.orderEntryTimer true fun _ => true,
      .accountsReply ⟨.accounts, 4⟩ (.result .success 200 (some ()))])) = .ok (history, session) ∧
    session.responses .accounts = true ∧ History.Always CompletesFresh history :=
  ⟨_, _, rfl, rfl, replies_complete_fresh plainConfig _ _
    (.of_replay (plainInputs (plainLogin ++ [.orderEntryTimer true fun _ => true,
      .accountsReply ⟨.accounts, 4⟩ (.result .success 200 (some ()))])) rfl (by decide))
    (by decide)⟩

/-- A request is sent, the connection ends, and the reply completes the stage of the next
connection. -/
theorem stale_accounts_complete : ∃ history session,
    plainAccount.Run RepliesAnswerRequests history session ∧
      ¬ History.Always CompletesFresh history := by
  refine ⟨_, _, .of_replay (plainInputs (plainLogin ++ [.orderEntryTimer true fun _ => true,
    .disconnected] ++ plainLogin ++
      [.accountsReply ⟨.accounts, 4⟩ (.result .success 200 (some ()))])) rfl (by decide), ?_⟩
  intro always
  obtain ⟨entered, last, later⟩ := always.1 _ rfl rfl rfl
  cases last
  exact absurd later (by decide)

/-! ### Requests left in flight -/

/-- An acknowledged subscription enters the stage that follows it. -/
theorem Acknowledges.enters {config : Config} {session next : Session Driver Mark}
    {input : Input} {outputs : List Output} {kind : RestKind}
    (acknowledges : Acknowledges session input kind) (required : Required config kind)
    (taken : session.step config input = .ok (next, outputs)) :
    next.state = kind.stage ∧ next.responses kind = false ∧ EntersStage kind.stage outputs := by
  obtain ⟨advances, current⟩ := acknowledges
  obtain ⟨context, event⟩ := input
  obtain ⟨handled, rfl⟩ := Session.step_ok taken
  cases event with
  | tradeSubscribe message =>
    rcases Session.tradeSubscribe_cases handled with ⟨other, -⟩ | ⟨-, -, enters⟩
    · exact absurd advances.2 other
    · have stage : session.clearOutbox.nextStage config = kind.stage := by
        rw [Session.nextStage, show session.clearOutbox.state = kind.subscription from current]
        cases kind with
        | accounts | positions => rfl
        | trades => exact if_neg required
      rw [stage] at enters
      refine ⟨enters.state, ?_, ?_⟩
      · rw [Session.responses, enters.streams.responses]
        exact if_pos rfl
      · exact ((enters.streams.announces (by simp [Silent, Session.clearOutbox,
          Session.mapStreams])).enters_iff kind).mpr rfl
  | timer =>
    obtain ⟨other, waits⟩ := advances
    cases kind <;> cases other <;> cases current.symm.trans waits
  | tradeOrderList => cases kind <;> cases current.symm.trans advances
  | tradeOrderStatus => cases kind <;> cases current.symm.trans advances
  | _ => cases advances

/-- A request in flight when the subscription before its stage is acknowledged may complete the
stage: its reply may be the next input. -/
theorem stale_reply_may_complete (config : Config) {history : AccountHistory Driver Mark}
    {session next : Session Driver Mark} {input : Input} {outputs : List Output}
    {kind : RestKind} {request : RestRequest}
    (run : (account config).Run RepliesAnswerRequests history session)
    (admitted : RepliesAnswerRequests history session input)
    (taken : (account config).step session input = .ok (next, outputs))
    (acknowledges : Acknowledges session input kind) (required : Required config kind)
    (ofKind : request.kind = kind) (member : request ∈ inFlight history) :
    ∃ entry last, (account config).Run RepliesAnswerRequests
        (entry :: ⟨session, input, outputs⟩ :: history) last ∧
      ¬ CompletesFresh (⟨session, input, outputs⟩ :: history) entry := by
  obtain ⟨state, waiting, entered⟩ := acknowledges.enters required taken
  have silent := Event.advances_answers_none acknowledges.1
  have connected := Event.advances_connected acknowledges.1
  let answer : Event := match kind with
    | .accounts => .accountsReply request .networkError
    | .positions => .positionsReply request .networkError
    | .trades => .tradesReply request .networkError
  have answered : answer.restReply = some ⟨kind, request, false⟩ := by
    cases kind <;> rfl
  obtain ⟨last, outputs', replied⟩ : ∃ last outputs',
      (account config).step next ⟨input.context, answer⟩ = .ok (last, outputs') := by
    cases kind <;> exact ⟨_, _, rfl⟩
  refine ⟨⟨next, ⟨input.context, answer⟩, outputs'⟩, last,
    .step (.step run admitted taken) ?_ replied, fun fresh => ?_⟩
  · intro reply same
    cases answered.symm.trans same
    exact ⟨ofKind, by simp [inFlight, silent, member]⟩
  · obtain ⟨at', last, later⟩ := fresh ⟨kind, request, false⟩ answered state waiting
    have earlier := sentAt_lt member
    simp only [enteredAt, connected, entered, if_true, Option.mem_def] at last
    cases last
    exact absurd later (Nat.not_lt.mpr (Nat.le_of_lt earlier))

end GateFutures.Gateway
