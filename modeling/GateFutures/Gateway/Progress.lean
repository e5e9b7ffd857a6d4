/-
This file proves how the download is published, and how often REST requests are sent for it.

The stages that are published since a download began are its path up to the stage it is in: each
once, in order, with the stage of the stale orders exactly where the download was in it, and the
trades exactly where they are configured. A REST request is sent at most once for every time its
stage was entered, whatever connections are lost meanwhile.
-/

import GateFutures.Gateway.Downloaded
import GateFutures.Gateway.Waiting

namespace GateFutures.Gateway

open Framework Library Protocol Roq

variable {Driver Mark : Type}

/-! ### Published progress -/

/-- The progress among outputs. -/
def announcements (outputs : List Output) : List Output :=
  outputs.filter fun output => output.kind = .progress

theorem announcements_append (first second : List Output) :
    announcements (first ++ second) = announcements first ++ announcements second :=
  List.filter_append ..

theorem Silent.announcements {outputs : List Output} (silent : Silent outputs) :
    announcements outputs = [] := by
  rw [Gateway.announcements, List.filter_eq_nil_iff]
  exact fun output member progress => silent output member (of_decide_eq_true progress)

/-- The stages were announced, and no others. -/
def Streams.Progresses (stages : List DropCopy.State) (before after : Streams Mark) : Prop :=
  announcements after.outbox =
    announcements before.outbox ++ stages.map DropCopy.State.announcement

namespace Streams.Progresses

variable {first second third : Streams Mark}

theorem trans {earlier later : List DropCopy.State} (progresses : first.Progresses earlier second)
    (progresses' : second.Progresses later third) : first.Progresses (earlier ++ later) third := by
  rw [Streams.Progresses] at *
  rw [progresses', progresses, List.map_append, List.append_assoc]

theorem of_outbox (same : second.outbox = first.outbox) : first.Progresses [] second := by
  rw [Streams.Progresses, same]
  exact (List.append_nil _).symm

theorem of_adds {kinds : List OutputKind} (adds : first.Adds kinds second)
    (unprogressed : OutputKind.progress ∉ kinds) : first.Progresses [] second := by
  obtain ⟨emitted, outbox, kind⟩ := adds
  have silent : Silent emitted := fun output member progress =>
    unprogressed (progress ▸ kind output member)
  rw [Streams.Progresses, outbox, announcements_append, silent.announcements]
  rfl

theorem of_enters [LimitRequest Mark] {stage : DropCopy.State}
    (enters : first.Enters stage second) : first.Progresses [stage] second := by
  obtain ⟨frames, outbox, kind⟩ := enters.outbox
  have silent : Silent frames := fun output member progress => by
    cases (kind output member).symm.trans progress
  have progress : stage.announcement.kind = .progress := by
    cases stage <;> rfl
  have one : announcements (stage.announcement :: frames) = [stage.announcement] := by
    rw [announcements, List.filter_cons, if_pos (decide_eq_true progress)]
    exact congrArg _ silent.announcements
  rw [Streams.Progresses, outbox, announcements_append, one]
  rfl

end Streams.Progresses

section Steps

variable [LimitRequest Mark] [LawfulLimitRequest Mark] [Download2 DropCopy.State Driver]
  [LawfulDownload2 DropCopy.State Driver]

/-- A handler announces one stage, or none. -/
theorem Session.handle_progresses {config : Config} {context : Context}
    {session next : Session Driver Mark} {event : Event}
    (handled : session.handle config context event = .ok next) :
    session.streams.Progresses [] next.streams ∨
      ∃ stage, session.streams.Progresses [stage] next.streams := by
  by_cases unprogressed : OutputKind.progress ∉ event.kinds
  · exact Or.inl (.of_adds (Session.handle_adds handled) unprogressed)
  cases Session.handles handled with
  | timer refresh =>
    obtain ⟨middle, moved, -, clientOrderIds, queries, -⟩ :=
      session.timer_cases config context refresh
    have queried := Streams.Progresses.of_adds queries.adds (by simp)
    rcases moved with stays | ⟨-, -, -, enters⟩
    · exact Or.inl (.trans (.of_outbox (congrArg Streams.outbox stays.streams)) queried)
    · exact Or.inr ⟨_, .trans (.of_enters enters.streams) queried⟩
  | tradeLogin handled =>
    rcases Session.tradeLogin_cases handled with ⟨-, emits⟩ | enters
    · exact Or.inl (.of_adds emits.adds (by simp))
    · exact Or.inr ⟨_, .of_enters enters.streams⟩
  | tradeSubscribe handled =>
    rcases Session.tradeSubscribe_cases handled with ⟨-, stays⟩ | ⟨-, -, enters⟩
    · exact Or.inl (.of_outbox (congrArg Streams.outbox stays.streams))
    · exact Or.inr ⟨_, .of_enters enters.streams⟩
  | tradeOrderList handled =>
    obtain ⟨listed, queried, emits, queries, moved⟩ := Session.tradeOrderList_cases handled
    have queried := (Streams.Progresses.of_adds emits.adds (by simp)).trans
      (.of_adds queries.adds (by simp))
    rcases moved with ⟨-, stays⟩ | ⟨-, enters⟩
    · exact Or.inl (queried.trans (.of_outbox (congrArg Streams.outbox stays.streams)))
    · exact Or.inr ⟨_, queried.trans (.of_enters enters.streams)⟩
  | tradeOrderStatus query handled =>
    obtain ⟨update, -, -, moved⟩ := Session.tradeOrderStatus_cases handled
    have resolved : session.streams.Progresses [] (session.streams.resolve update) :=
      .of_adds (session.streams.resolve_adds update) (by simp)
    rcases moved with ⟨stays, -⟩ | ⟨-, enters⟩
    · exact Or.inl (resolved.trans (.of_outbox (congrArg Streams.outbox stays.streams)))
    · exact Or.inr ⟨_, resolved.trans (.of_enters enters.streams)⟩
  | quiet quiet => exact absurd (Event.quiet_unprogressed quiet).2.2 unprogressed
  | replies reply delivers => exact absurd (Event.reply_unprogressed delivers).2 unprogressed
  | disconnected | ready | orderEntryTimer => exact absurd (by simp [Event.kinds]) unprogressed

/-- A step that announces a stage announces it once, and nothing else. -/
theorem Session.step_announcements {config : Config} {session next : Session Driver Mark}
    {input : Input} {outputs : List Output}
    (taken : session.step config input = .ok (next, outputs)) {stage : DropCopy.State}
    (announced : Announces stage outputs) : announcements outputs = [stage.announcement] := by
  obtain ⟨handled, rfl⟩ := Session.step_ok taken
  have there : stage.announcement ∈ announcements next.streams.outbox := by
    refine List.mem_filter.mpr ⟨announced.1, decide_eq_true ?_⟩
    cases stage <;> rfl
  rcases Session.handle_progresses handled with none | ⟨other, one⟩
  · rw [show announcements next.streams.outbox = [] from none] at there
    cases there
  · have single : announcements next.streams.outbox = [other.announcement] := one
    rw [single] at there ⊢
    rw [List.mem_singleton.mp there]

end Steps

/-! ### The path of a download -/

/-- The stages of a download, given whether there are stale orders. -/
def DropCopy.stages (tradesLookback : Int) (stale : Bool) : List DropCopy.State :=
  [.subscribeBalances, .getBalances, .subscribePositions, .getPositions, .subscribeOrders,
    .getOpenOrders] ++ (if stale then [.getStaleOrders] else []) ++ [.subscribeTrades] ++
    (if tradesLookback = 0 then [] else [.getTrades]) ++ [.done]

/-- The stages up to the one the download is in. -/
def DropCopy.path (tradesLookback : Int) (stale : Bool) (state : DropCopy.State) :
    List DropCopy.State :=
  (DropCopy.stages tradesLookback stale).filter fun stage => stage.rank ≤ state.rank

/-- Where the download moves on, its path grows by the stage that it enters. -/
theorem DropCopy.path_next (tradesLookback : Int) (counter : Nat) (stale : Bool)
    {state : DropCopy.State} (unfinished : state ≠ .done)
    (visited : state = .getStaleOrders → stale = true)
    (passed : stale = true → DropCopy.State.getStaleOrders.rank ≤ state.rank) :
    DropCopy.path tradesLookback
        (DropCopy.nextStage tradesLookback counter state = .getStaleOrders || stale)
        (DropCopy.nextStage tradesLookback counter state) =
      DropCopy.path tradesLookback stale state ++
        [DropCopy.nextStage tradesLookback counter state] := by
  by_cases none : counter = 0 <;> by_cases skipped : tradesLookback = 0 <;> cases stale <;>
    cases state <;>
    simp_all [DropCopy.nextStage, DropCopy.path, DropCopy.stages, DropCopy.State.rank]

theorem DropCopy.path_undefined (tradesLookback : Int) :
    DropCopy.path tradesLookback false .undefined = [] := by
  by_cases skipped : tradesLookback = 0 <;>
    simp [DropCopy.path, DropCopy.stages, DropCopy.State.rank, skipped]

theorem DropCopy.path_begin (tradesLookback : Int) :
    DropCopy.path tradesLookback false .subscribeBalances = [.subscribeBalances] := by
  by_cases skipped : tradesLookback = 0 <;>
    simp [DropCopy.path, DropCopy.stages, DropCopy.State.rank, skipped]

/-! ### Published paths -/

/-- The progress that was published since the download began last, or the connection was lost. -/
def progress : AccountHistory Driver Mark → List Output
  | [] => []
  | entry :: before =>
    if entry.input.event.isDisconnected then []
    else if EntersStage .subscribeBalances entry.output then announcements entry.output
    else progress before ++ announcements entry.output

section Runs

variable [LimitRequest Mark] [LawfulLimitRequest Mark] [Download2 DropCopy.State Driver]
  [LawfulDownload2 DropCopy.State Driver] {config : Config}
  {history : AccountHistory Driver Mark} {session next : Session Driver Mark} {input : Input}
  {outputs : List Output}

/-- Whether the download was in the stage of the stale orders since it began last, or the connection
was lost, up to the stage it is in. -/
def waited : AccountHistory Driver Mark → DropCopy.State → Bool
  | [], state => state = .getStaleOrders
  | entry :: before, state =>
    state = .getStaleOrders ||
      if entry.input.event.isDisconnected then false
      else if EntersStage .subscribeBalances entry.output then false
      else waited before entry.before.state

omit [LimitRequest Mark] [LawfulLimitRequest Mark] [LawfulDownload2 DropCopy.State Driver] in
theorem waited_here (history : AccountHistory Driver Mark) :
    waited history .getStaleOrders = true := by
  cases history <;> rfl

/-- What was published is the path up to the stage the download is in. The stage of the stale orders
is passed where the download waited for them. -/
structure PublishesPath (config : Config) (history : AccountHistory Driver Mark)
    (session : Session Driver Mark) : Prop where
  published : progress history =
    (DropCopy.path config.settings.tradesLookback (waited history session.state)
      session.state).map DropCopy.State.announcement
  passed : waited history session.state = true →
    DropCopy.State.getStaleOrders.rank ≤ session.state.rank

omit [LimitRequest Mark] [LawfulLimitRequest Mark] [LawfulDownload2 DropCopy.State Driver] in
theorem PublishesPath.of_path {stage : DropCopy.State} (state : session.state = stage)
    (fresh : waited history stage = false)
    (published : progress history =
      (DropCopy.path config.settings.tradesLookback false stage).map
        DropCopy.State.announcement) : PublishesPath config history session := by
  subst state
  refine ⟨by rw [fresh, published], fun stale => ?_⟩
  rw [fresh] at stale
  cases stale

omit [LimitRequest Mark] [LawfulLimitRequest Mark] [LawfulDownload2 DropCopy.State Driver] in
/-- Where nothing is published, the path stays. -/
theorem PublishesPath.silent (publishes : PublishesPath config history session)
    (connected : input.event.isDisconnected = false) (silent : Silent outputs)
    (state : next.state = session.state) :
    PublishesPath config (⟨session, input, outputs⟩ :: history) next := by
  have same : waited (⟨session, input, outputs⟩ :: history) next.state =
      waited history session.state := by
    rw [waited, if_neg (by simp [connected]), if_neg (silent.not_enters .subscribeBalances), state]
    cases here : decide (session.state = .getStaleOrders) with
    | false => rfl
    | true =>
      rw [of_decide_eq_true here, waited_here]
      rfl
  refine ⟨?_, ?_⟩
  · rw [progress, if_neg (by simp [connected]), if_neg (silent.not_enters .subscribeBalances),
      silent.announcements, List.append_nil, publishes.published, same, state]
  · rw [same, state]
    exact publishes.passed

theorem PublishesPath.step (publishes : PublishesPath config history session)
    (taken : session.step config input = .ok (next, outputs)) :
    PublishesPath config (⟨session, input, outputs⟩ :: history) next := by
  cases Session.step_stage taken with
  | stays connected _ state _ silent => exact publishes.silent connected silent state
  | commits _ connected _ state _ silent => exact publishes.silent connected silent state
  | resets disconnected _ state =>
    refine .of_path state ?_ ?_
    · rw [waited, if_pos disconnected]
      rfl
    · rw [progress, if_pos disconnected, DropCopy.path_undefined]
      rfl
  | enters stage connected _ cause state _ announced =>
    have single := Session.step_announcements taken announced
    subst state
    by_cases begins : next.state = .subscribeBalances
    · have entered : EntersStage .subscribeBalances outputs :=
        (announced.enters_stage (by decide)).mpr begins.symm
      refine .of_path begins ?_ ?_
      · rw [waited, if_neg (by simp [connected]), if_pos entered]
        rfl
      · rw [progress, if_neg (by simp [connected]), if_pos entered, single, begins,
          DropCopy.path_begin, List.map_singleton]
    · obtain ⟨published, passed⟩ := publishes
      have moved := (cause.resolve_left begins).stage
      have unfinished := Event.advances_unfinished (cause.resolve_left begins).event
      have grows := DropCopy.path_next config.settings.tradesLookback next.counter
        (waited history session.state) unfinished
        (fun stale => by rw [stale, waited_here]) passed
      rw [← moved] at grows
      have elsewhere : ¬ EntersStage .subscribeBalances outputs := fun entered =>
        begins ((announced.enters_stage (by decide)).mp entered).symm
      have waits : waited (⟨session, input, outputs⟩ :: history) next.state =
          (next.state = .getStaleOrders || waited history session.state) := by
        rw [waited, if_neg (by simp [connected]), if_neg elsewhere]
      refine ⟨?_, fun stale => ?_⟩
      · rw [progress, if_neg (by simp [connected]), if_neg elsewhere, single, published, waits,
          grows, List.map_append]
        rfl
      · rw [waits, Bool.or_eq_true, decide_eq_true_eq] at stale
        rcases stale with here | before
        · rw [here]
        · refine (passed before).trans (Nat.le_of_lt ?_)
          rw [moved]
          exact nextStage_rank _ _ unfinished

/-- In every run, the progress published since the download began is its path up to the stage it
is in. The stage of the stale orders is on it exactly if the download was in that stage. -/
theorem progress_in_order (config : Config)
    (allowed : Environment (Session Driver Mark) Input (List Output))
    (history : AccountHistory Driver Mark) (session : Session Driver Mark)
    (run : (account config).Run allowed history session) :
    progress history =
      (DropCopy.path config.settings.tradesLookback (waited history session.state)
        session.state).map DropCopy.State.announcement := by
  have publishes : PublishesPath config history session := by
    refine run.invariant (PublishesPath config) ?_
      fun history session input next outputs publishes _ taken => publishes.step taken
    have state : ((account config).initial : Session Driver Mark).state = .undefined :=
      LawfulDownload2.state_initial
    refine .of_path state rfl ?_
    rw [DropCopy.path_undefined]
    rfl
  exact publishes.published

end Runs

/-- A whole download is published, with a stale order and without trades. -/
theorem progress_in_order_plain : ∃ history session,
    plainAccount.Run anyInput history session ∧ session.state = .done ∧
      (progress history).length = 9 ∧ waited history .done = true ∧
      progress history = (DropCopy.path 0 true .done).map DropCopy.State.announcement := by
  have run : plainAccount.Run anyInput _ _ :=
    .of_replay (plainDownload .networkError .networkError [plainStaleOrder] ++
      plainInputs [plainStatusReply 404 "", .tradeSubscribe ⟨.usertrades, .success⟩]) rfl
      (History.always_of_forall (fun _ _ => trivial) _)
  exact ⟨_, _, run, rfl, rfl, by decide, progress_in_order plainConfig _ _ _ run⟩

/-! ### REST requests -/

/-- How often a REST request of a kind is sent by outputs. -/
def sentCount (kind : RestKind) (outputs : List Output) : Nat :=
  outputs.countP fun output => output.restKind? = some kind

/-- How often the stage of a REST request is announced by outputs. -/
def enteredCount (kind : RestKind) (outputs : List Output) : Nat :=
  outputs.count kind.stage.announcement

section Requests

variable [LimitRequest Mark] {kind : RestKind}

/-- One if a REST request is asked for and not yet sent. -/
def Streams.owed (kind : RestKind) (streams : Streams Mark) : Nat :=
  if streams.pending kind then 1 else 0

theorem Streams.owed_le_one (streams : Streams Mark) : streams.owed kind ≤ 1 := by
  rw [Streams.owed]
  split <;> decide

theorem Streams.owed_of_request {first second : Streams Mark}
    (same : second.request = first.request) : second.owed kind = first.owed kind := by
  rw [Streams.owed, Streams.owed, Streams.pending, Streams.pending, same]

/-- A request was sent or came to be asked for only where its stage was entered. -/
def Streams.Earns (kind : RestKind) (before after : Streams Mark) : Prop :=
  sentCount kind after.outbox + after.owed kind + enteredCount kind before.outbox ≤
    sentCount kind before.outbox + before.owed kind + enteredCount kind after.outbox

namespace Streams.Earns

variable {first second third : Streams Mark}

theorem trans (earlier : first.Earns kind second) (later : second.Earns kind third) :
    first.Earns kind third := by
  rw [Streams.Earns] at *
  omega

theorem of_adds {kinds : List OutputKind} (adds : first.Adds kinds second)
    (unsent : OutputKind.restRequest ∉ kinds) (owed : second.owed kind ≤ first.owed kind) :
    first.Earns kind second := by
  obtain ⟨emitted, outbox, added⟩ := adds
  have none : sentCount kind emitted = 0 := by
    rw [sentCount, List.countP_eq_zero]
    intro output member sends
    refine unsent ?_
    have requests : output.kind = .restRequest := by
      cases output <;> simp_all [Output.restKind?, Output.kind]
    exact requests ▸ added output member
  rw [sentCount] at none
  rw [Streams.Earns, sentCount, sentCount, enteredCount, enteredCount, outbox, List.countP_append,
    List.count_append, none]
  omega

theorem of_emits {kinds : List OutputKind} (emits : first.Emits kinds second)
    (unsent : OutputKind.restRequest ∉ kinds) : first.Earns kind second :=
  of_adds emits.adds unsent (Streams.owed_of_request emits.request).le

theorem of_queries {clientOrderIds : List String} (queries : first.Queries clientOrderIds second) :
    first.Earns kind second :=
  of_adds queries.adds (by simp) (Streams.owed_of_request queries.request).le

/-- Entering the stage of a request earns it. -/
theorem of_enters {stage : DropCopy.State} (enters : first.Enters stage second) :
    first.Earns kind second := by
  by_cases own : stage = kind.stage
  · obtain ⟨frames, outbox, session⟩ := enters.outbox
    have none : sentCount kind (stage.announcement :: frames) = 0 := by
      rw [sentCount, List.countP_eq_zero]
      intro output member
      rcases List.mem_cons.mp member with rfl | member
      · cases stage <;> simp [DropCopy.State.announcement, Output.restKind?]
      · have framed := session output member
        cases output <;> simp_all [Output.restKind?, Output.kind]
    have entered : 1 ≤ enteredCount kind (stage.announcement :: frames) := by
      rw [enteredCount, own, List.count_cons_self]
      exact Nat.le_add_left ..
    have bounded : second.owed kind ≤ 1 := second.owed_le_one
    rw [sentCount] at none
    rw [enteredCount] at entered
    rw [Streams.Earns, sentCount, sentCount, enteredCount, enteredCount, outbox,
      List.countP_append, List.count_append, none]
    omega
  · refine of_adds enters.adds (by simp) (Nat.le_of_eq ?_)
    have same : second.request.mark kind = first.request.mark kind := by
      rw [enters.request]
      cases stage <;> cases kind <;> first | rfl | exact absurd rfl own
    rw [Streams.owed, Streams.owed, Streams.pending, Streams.pending, same]

/-- Checking a mark sends the request that is asked for. -/
theorem of_checkPending [LawfulLimitRequest Mark] {streams after : Streams Mark} (allowed : Bool)
    (callback : Streams Mark → Streams Mark) (checked : RestKind) {path query : String}
    (sends : callback streams = streams.emit (.restRequest checked path query))
    (outbox : after.outbox = (LimitRequest.checkPending allowed callback
      (streams.request.mark checked) streams).2.outbox)
    (marked : after.request.mark checked =
      (LimitRequest.checkPending allowed callback (streams.request.mark checked) streams).1)
    (others : ∀ other ≠ checked, after.request.mark other = (LimitRequest.checkPending allowed
      callback (streams.request.mark checked) streams).2.request.mark other) :
    streams.Earns kind after := by
  rcases LawfulLimitRequest.checkPending_cases allowed callback (streams.request.mark checked)
    streams with ⟨pending, cleared, ran⟩ | ⟨same, skips⟩
  · rw [ran, sends] at outbox others
    have grown : after.outbox = streams.outbox ++ [.restRequest checked path query] := outbox
    rw [Streams.Earns, sentCount, sentCount, enteredCount, enteredCount, grown,
      List.countP_append, List.count_append]
    by_cases own : kind = checked
    · subst own
      have before : streams.owed kind = 1 := if_pos pending
      have later : after.owed kind = 0 := by
        rw [Streams.owed, Streams.pending, marked, cleared]
        rfl
      have single : [Output.restRequest kind path query].countP
          (fun output => output.restKind? = some kind) = 1 := by simp [Output.restKind?]
      omega
    · have kept : after.owed kind = streams.owed kind := by
        rw [Streams.owed, Streams.owed, Streams.pending, Streams.pending, others kind own]
        rfl
      have none : [Output.restRequest checked path query].countP
          (fun output => output.restKind? = some kind) = 0 := by
        simp [Output.restKind?, Ne.symm own]
      omega
  · rw [skips] at outbox others
    have idle : streams.Adds [] after := .of_outbox outbox
    refine of_adds idle List.not_mem_nil (Nat.le_of_eq ?_)
    by_cases own : kind = checked
    · subst own
      rw [Streams.owed, Streams.owed, Streams.pending, Streams.pending, marked, same]
    · rw [Streams.owed, Streams.owed, Streams.pending, Streams.pending, others kind own]

end Streams.Earns

/-- A commit asks for nothing. -/
theorem commit_owed [LawfulCommit Mark] (mark : Mark) :
    (if LimitRequest.pending (LimitRequest.commit mark) then 1 else 0) ≤
      if LimitRequest.pending mark then 1 else 0 := by
  cases idle : LimitRequest.pending mark with
  | false => rw [LawfulCommit.pending_commit mark idle]
  | true =>
    cases LimitRequest.pending (LimitRequest.commit mark) with
    | false => exact Nat.zero_le _
    | true => exact Nat.le_refl _

variable [LawfulLimitRequest Mark]

theorem OrderEntry.checkBalances_earns (config : Config) (allowed : Bool)
    (streams : Streams Mark) :
    streams.Earns kind (OrderEntry.checkBalances config allowed streams) :=
  .of_checkPending allowed (OrderEntry.getAccounts config) .accounts rfl rfl rfl
    (by rintro (_ | _ | _) other <;> first | rfl | exact absurd rfl other)

theorem OrderEntry.checkPositions_earns (config : Config) (allowed : Bool)
    (streams : Streams Mark) :
    streams.Earns kind (OrderEntry.checkPositions config allowed streams) :=
  .of_checkPending allowed (OrderEntry.getPositions config) .positions rfl rfl rfl
    (by rintro (_ | _ | _) other <;> first | rfl | exact absurd rfl other)

theorem OrderEntry.checkTrades_earns (config : Config) (traceInfo : TraceInfo) (allowed : Bool)
    (streams : Streams Mark) :
    streams.Earns kind (OrderEntry.checkTrades config traceInfo allowed streams) :=
  .of_checkPending allowed (OrderEntry.getTrades config traceInfo) .trades rfl rfl rfl
    (by rintro (_ | _ | _) other <;> first | rfl | exact absurd rfl other)

variable [LawfulCommit Mark] [Download2 DropCopy.State Driver]
  [LawfulDownload2 DropCopy.State Driver]

/-- Every handler earns the requests that it sends. -/
theorem Session.handle_earns {config : Config} {context : Context}
    {session next : Session Driver Mark} {event : Event}
    (handled : session.handle config context event = .ok next) :
    session.streams.Earns kind next.streams := by
  have adds := Session.handle_adds handled
  cases Session.handles handled with
  | quiet quiet download emits =>
    exact .of_emits emits (by cases event <;> simp_all [Event.isQuiet, Event.kinds])
  | replies reply delivers download commits =>
    refine .of_adds adds (by cases event <;> simp_all [Event.restReply, Event.kinds]) ?_
    have mark := handle_reply_mark delivers handled kind
    rw [Streams.owed, Streams.owed, Streams.pending, Streams.pending, mark]
    split
    · exact commit_owed _
    · exact Nat.le_refl _
  | timer refresh =>
    obtain ⟨middle, moved, -, clientOrderIds, queries, -⟩ :=
      session.timer_cases config context refresh
    refine .trans ?_ (.of_queries queries)
    rcases moved with stays | ⟨-, -, -, enters⟩
    · rw [stays.streams]
      exact .of_adds (.refl session.streams) List.not_mem_nil (Nat.le_refl _)
    · exact .of_enters enters.streams
  | disconnected => exact .of_adds adds (by simp [Event.kinds]) (Nat.le_refl _)
  | ready => exact .of_adds adds (by simp [Event.kinds]) (Nat.le_refl _)
  | tradeLogin handled =>
    rcases Session.tradeLogin_cases handled with ⟨-, emits⟩ | enters
    · exact .of_emits emits (by simp)
    · exact .of_enters enters.streams
  | tradeSubscribe handled =>
    rcases Session.tradeSubscribe_cases handled with ⟨-, stays⟩ | ⟨-, -, enters⟩
    · rw [stays.streams]
      exact .of_adds (.refl session.streams) List.not_mem_nil (Nat.le_refl _)
    · exact .of_enters enters.streams
  | tradeOrderList handled =>
    obtain ⟨listed, queried, emits, queries, moved⟩ := Session.tradeOrderList_cases handled
    refine (Streams.Earns.of_emits emits (by simp)).trans (.trans (.of_queries queries) ?_)
    rcases moved with ⟨-, stays⟩ | ⟨-, enters⟩
    · rw [stays.streams]
      exact .of_adds (.refl queried) List.not_mem_nil (Nat.le_refl _)
    · exact .of_enters enters.streams
  | tradeOrderStatus query handled =>
    obtain ⟨update, -, -, moved⟩ := Session.tradeOrderStatus_cases handled
    have resolved : session.streams.Earns kind (session.streams.resolve update) := by
      refine .of_adds (session.streams.resolve_adds update) (by simp) ?_
      cases update <;> exact Nat.le_refl _
    refine resolved.trans ?_
    rcases moved with ⟨stays, -⟩ | ⟨-, enters⟩
    · rw [stays.streams]
      exact .of_adds (.refl _) List.not_mem_nil (Nat.le_refl _)
    · exact .of_enters enters.streams
  | orderEntryTimer refresh allowed =>
    show session.streams.Earns kind
      (OrderEntry.timer config context.traceInfo refresh allowed session.streams)
    rw [OrderEntry.timer]
    split
    · exact ((OrderEntry.checkBalances_earns config (allowed .accounts) session.streams).trans
        (OrderEntry.checkPositions_earns config (allowed .positions) _)).trans
          (OrderEntry.checkTrades_earns config context.traceInfo (allowed .trades) _)
    · exact .of_adds (.refl session.streams) List.not_mem_nil (Nat.le_refl _)

/-- In every run, a REST request was sent at most once for every time its stage was entered, and not
yet where it still is asked for. -/
theorem requests_never_duplicated [LawfulInitial Mark] (config : Config)
    (allowed : Environment (Session Driver Mark) Input (List Output))
    (history : AccountHistory Driver Mark) (session : Session Driver Mark)
    (run : (account config).Run allowed history session) (kind : RestKind) :
    sentCount kind (history.flatMap Entry.output) + session.streams.owed kind ≤
      enteredCount kind (history.flatMap Entry.output) := by
  induction run with
  | start =>
    have none : LimitRequest.pending (((account config).initial :
        Session Driver Mark).streams.request.mark kind) = false := by
      cases kind <;> exact LawfulInitial.pending_initial
    rw [Streams.owed, Streams.pending, none]
    exact Nat.le_refl _
  | @step history session next input outputs before admitted taken inductionHypothesis =>
    obtain ⟨handled, rfl⟩ := Session.step_ok taken
    have earns : session.clearOutbox.streams.Earns kind next.streams :=
      Session.handle_earns handled
    have none : sentCount kind session.clearOutbox.streams.outbox = 0 := rfl
    have none' : enteredCount kind session.clearOutbox.streams.outbox = 0 := rfl
    have kept : session.clearOutbox.streams.owed kind = session.streams.owed kind := rfl
    rw [Streams.Earns, none, none', kept] at earns
    rw [sentCount] at inductionHypothesis earns ⊢
    rw [enteredCount] at inductionHypothesis earns ⊢
    rw [List.flatMap_cons, List.countP_append, List.count_append]
    dsimp only
    omega

end Requests

/-- The download is begun again before the accounts are requested: they are requested once. -/
theorem requests_never_duplicated_plain : ∃ history session,
    plainAccount.Run anyInput history session ∧
      sentCount .accounts (history.flatMap Entry.output) = 1 ∧
      enteredCount .accounts (history.flatMap Entry.output) = 2 ∧
      sentCount .accounts (history.flatMap Entry.output) + session.streams.owed .accounts ≤
        enteredCount .accounts (history.flatMap Entry.output) := by
  have run : plainAccount.Run anyInput _ _ :=
    .of_replay (plainInputs (plainLogin ++ [.disconnected] ++ plainLogin ++
      [.orderEntryTimer true fun _ => true, .orderEntryTimer true fun _ => true])) rfl
      (History.always_of_forall (fun _ _ => trivial) _)
  exact ⟨_, _, run, by decide, by decide, requests_never_duplicated plainConfig _ _ _ run .accounts⟩

end GateFutures.Gateway
