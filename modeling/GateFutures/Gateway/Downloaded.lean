/-
This file proves what `READY` says about the downloads of an account.

A stage that waits for a REST reply is left once a response is recorded, and a response
is recorded whatever the reply was. So `READY` means downloaded in the runs whose replies
succeed while they are waited for, and in a run with a failed reply it may not.
-/

import GateFutures.Gateway.Steps

namespace GateFutures.Gateway

open Framework Library Protocol Roq

variable {Driver Mark : Type}

/-! ### How a stage was completed -/

/-- What became of a stage since the connection began: not entered, waiting for a reply, or
completed by a reply that was, or was not, a success whose body decodes. -/
inductive Completion
  | notEntered
  | waiting
  | completed (decoded : Bool)
  deriving DecidableEq

/-- A reply completes a stage of its kind that is waiting. -/
def Completion.reply (kind : RestKind) (reply : RestReply) : Completion → Completion
  | .waiting => if reply.kind = kind then .completed reply.decoded else .waiting
  | completion => completion

/-- What became of a stage since the last `Disconnected`. -/
def completion [Download2 DropCopy.State Driver] (kind : RestKind) :
    AccountHistory Driver Mark → Completion
  | [] => .notEntered
  | entry :: before =>
    if entry.input.event.isDisconnected then .notEntered
    else if EntersStage kind.stage entry.output then .waiting
    else match entry.input.event.restReply with
      | some reply => (completion kind before).reply kind reply
      | none => completion kind before

variable [LimitRequest Mark] [Download2 DropCopy.State Driver]

/-- `READY` is published only once every stage needed was completed by a reply that is a
success and decodes. -/
def ReadyMeansDownloaded (config : Config) :
    StepProperty (Session Driver Mark) Input (List Output) := fun history entry =>
  PublishesReady entry.output →
    ∀ kind, Required config kind → completion kind history = .completed true

/-- A reply that is waited for is a success and decodes. -/
def AwaitedRepliesSucceed : Environment (Session Driver Mark) Input (List Output) :=
  fun _ session input => ∀ reply ∈ input.event.restReply,
    session.state = reply.kind.stage → session.responses reply.kind = false →
      reply.decoded = true

instance (history : AccountHistory Driver Mark) (session : Session Driver Mark)
    (input : Input) : Decidable (AwaitedRepliesSucceed history session input) :=
  inferInstanceAs (Decidable (∀ reply ∈ input.event.restReply, _ → _ → _))

/-- Every input may come at any time. -/
def anyInput : Environment (Session Driver Mark) Input (List Output) := fun _ _ _ => True

/-! ### The invariant -/

/-- The position of a stage in the download. -/
def DropCopy.State.rank : DropCopy.State → Nat
  | .undefined => 0
  | .subscribeBalances => 1
  | .getBalances => 2
  | .subscribePositions => 3
  | .getPositions => 4
  | .subscribeOrders => 5
  | .getOpenOrders => 6
  | .getStaleOrders => 7
  | .subscribeTrades => 8
  | .getTrades => 9
  | .done => 10

/-- A stage that is left is followed by a later one. -/
theorem nextStage_rank (tradesLookback : Int) (counter : Nat) {state : DropCopy.State}
    (unfinished : state ≠ .done) :
    state.rank < (DropCopy.nextStage tradesLookback counter state).rank := by
  by_cases none : counter = 0 <;> by_cases skipped : tradesLookback = 0 <;> cases state <;>
    simp_all [DropCopy.nextStage, DropCopy.State.rank]

/-- Moving on skips no stage that is needed. -/
theorem nextStage_skips_none {config : Config} {counter : Nat} {state : DropCopy.State}
    {kind : RestKind} (required : Required config kind)
    (passed : kind.stage.rank <
      (DropCopy.nextStage config.settings.tradesLookback counter state).rank) :
    kind.stage.rank < state.rank ∨ state = kind.stage := by
  by_cases none : counter = 0 <;> by_cases skipped : config.settings.tradesLookback = 0 <;>
    cases state <;> cases kind <;>
    simp_all [DropCopy.nextStage, RestKind.stage, DropCopy.State.rank, Required]

/-- A stage the download is in is waiting or completed, and the stages behind it are
completed. -/
structure DownloadInvariant (config : Config) (history : AccountHistory Driver Mark)
    (session : Session Driver Mark) : Prop where
  current : ∀ kind : RestKind, session.state = kind.stage → completion kind history =
    if session.responses kind then .completed true else .waiting
  passed : ∀ kind : RestKind, kind.stage.rank < session.state.rank → Required config kind →
    completion kind history = .completed true

theorem DownloadInvariant.initial [LawfulDownload2 DropCopy.State Driver] (config : Config) :
    DownloadInvariant config [] (Session.initial : Session Driver Mark) := by
  have state : (Session.initial : Session Driver Mark).state = .undefined :=
    LawfulDownload2.state_initial
  refine ⟨fun kind current => ?_, fun kind behind => ?_⟩
  · rw [state] at current
    cases kind <;> cases current
  · rw [state] at behind
    cases behind

/-- The stages behind the one a download enters are completed. -/
theorem DownloadInvariant.behind {config : Config} {history : AccountHistory Driver Mark}
    {session next : Session Driver Mark} (invariant : DownloadInvariant config history session)
    {stage : DropCopy.State} {event : Event}
    (cause : stage = .subscribeBalances ∨ session.Advances config event next stage)
    {kind : RestKind} (required : Required config kind)
    (behind : kind.stage.rank < stage.rank) : completion kind history = .completed true := by
  rcases cause with rfl | ⟨-, rfl, responded, -⟩
  · cases kind <;> simp [RestKind.stage, DropCopy.State.rank] at behind
  · rcases nextStage_skips_none required behind with before | current
    · exact invariant.passed kind before required
    · rw [invariant.current kind current, if_pos (responded kind current)]

variable [LawfulLimitRequest Mark] [LawfulDownload2 DropCopy.State Driver]

/-- A step whose awaited reply succeeds keeps the invariant. -/
theorem DownloadInvariant.step {config : Config} {history : AccountHistory Driver Mark}
    {session next : Session Driver Mark} {input : Input} {outputs : List Output}
    (invariant : DownloadInvariant config history session)
    (succeeds : AwaitedRepliesSucceed history session input)
    (taken : session.step config input = .ok (next, outputs)) :
    DownloadInvariant config (⟨session, input, outputs⟩ :: history) next := by
  cases Session.step_stage taken with
  | stays connected unanswered state responses silent =>
    have unchanged : ∀ kind, completion kind (⟨session, input, outputs⟩ :: history) =
        completion kind history := by
      intro kind
      simp [completion, connected, unanswered, silent.not_enters]
    refine ⟨fun kind => ?_, fun kind => ?_⟩
    · rw [unchanged, state, responses]
      exact invariant.current kind
    · rw [unchanged, state]
      exact invariant.passed kind
  | commits reply connected answered state responses silent =>
    have replied : ∀ kind, completion kind (⟨session, input, outputs⟩ :: history) =
        (completion kind history).reply kind reply := by
      intro kind
      simp [completion, connected, answered, silent.not_enters]
    refine ⟨fun kind => ?_, fun kind => ?_⟩
    · rw [replied, state, responses]
      intro current
      rw [invariant.current kind current]
      by_cases same : reply.kind = kind
      · subst same
        cases responded : session.responses reply.kind with
        | true => simp [Completion.reply]
        | false => simp [Completion.reply, succeeds reply answered current responded]
      · have different : ¬ kind = reply.kind := fun equal => same equal.symm
        cases responded : session.responses kind <;>
          simp [Completion.reply, same, different, responded]
    · rw [replied, state]
      intro behind required
      rw [invariant.passed kind behind required]
      rfl
  | resets disconnected unanswered state silent =>
    refine ⟨fun kind current => ?_, fun kind behind => ?_⟩
    · rw [state] at current
      cases kind <;> cases current
    · rw [state] at behind
      cases behind
  | enters stage connected unanswered cause state responses announced =>
    have entered : ∀ kind, completion kind (⟨session, input, outputs⟩ :: history) =
        if kind.stage = stage then .waiting else completion kind history := by
      intro kind
      simp [completion, connected, unanswered, announced.enters_iff]
    refine ⟨fun kind current => ?_, fun kind behind required => ?_⟩
    · rw [state] at current
      simp [entered, responses, current]
    · rw [state] at behind
      have different : kind.stage ≠ stage := fun same => by
        rw [same] at behind
        exact Nat.lt_irrefl _ behind
      rw [entered, if_neg different]
      exact invariant.behind cause required behind

/-! ### Runs -/

/-- In a run whose awaited replies succeed, `READY` means downloaded. -/
theorem ready_means_downloaded (config : Config) (history : AccountHistory Driver Mark)
    (session : Session Driver Mark) (run : (account config).Run anyInput history session)
    (succeed : History.Always
      (fun before entry => AwaitedRepliesSucceed before entry.before entry.input) history) :
    History.Always (ReadyMeansDownloaded config) history := by
  have restricted := run.restrict succeed
  refine restricted.always ?_
  intro history session input next outputs run admitted taken ready kind required
  have invariant : DownloadInvariant config history session :=
    run.invariant (DownloadInvariant config) (DownloadInvariant.initial config)
      fun history session input next outputs invariant admitted taken =>
        invariant.step admitted.2 taken
  cases Session.step_stage taken with
  | stays _ _ _ _ silent => exact absurd ready silent.not_ready
  | commits _ _ _ _ _ silent => exact absurd ready silent.not_ready
  | resets _ _ _ silent => exact absurd ready silent.not_ready
  | enters stage _ _ cause _ _ announced =>
    obtain rfl := announced.ready_iff.mp ready
    exact invariant.behind cause required (by cases kind <;> decide)

/-- A download whose replies succeed publishes `READY`, and is downloaded. -/
theorem ready_means_downloaded_plain : ∃ history session,
    plainAccount.replay (plainDownload (.result .success 200 (some ()))
      (.result .success 200 (some ⟨[]⟩)) [] ++
        plainInputs [.tradeSubscribe ⟨.usertrades, .success⟩]) = .ok (history, session) ∧
    session.ready = true ∧ History.Always (ReadyMeansDownloaded plainConfig) history :=
  ⟨_, _, rfl, rfl, ready_means_downloaded plainConfig _ _
    (.of_replay (plainDownload (.result .success 200 (some ()))
      (.result .success 200 (some ⟨[]⟩)) [] ++
        plainInputs [.tradeSubscribe ⟨.usertrades, .success⟩])
      rfl (History.always_of_forall (fun _ _ => trivial) _)) (by decide)⟩

/-- A download whose positions reply fails publishes `READY` all the same. -/
theorem ready_without_positions : ∃ history session, plainAccount.Run anyInput history session ∧
    ¬ History.Always (ReadyMeansDownloaded plainConfig) history := by
  refine ⟨_, _, .of_replay (plainDownload (.result .success 200 (some ())) .networkError [] ++
    plainInputs [.tradeSubscribe ⟨.usertrades, .success⟩]) rfl
    (History.always_of_forall (fun _ _ => trivial) _), ?_⟩
  intro always
  exact absurd (always.1 (by decide) .positions trivial) (by decide)

end GateFutures.Gateway
