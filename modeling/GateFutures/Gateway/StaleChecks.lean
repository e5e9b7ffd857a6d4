/-
This file proves how often the timer asks for the status of stale orders.

The timer asks only while the trading connection is ready, and remembers when it may ask again.
Nothing else touches that moment: neither messages, nor a reconnect, nor another login.
-/

import GateFutures.Gateway.Logins

namespace GateFutures.Gateway

open Framework Library Protocol Roq

variable {Driver Mark : Type} [LimitRequest Mark]

/-! ### What keeps the moment of the next check -/

omit [LimitRequest Mark] in
/-- A check that was due sets the next one off by the period. -/
theorem DropCopy.checkStaleOrders2_next (config : Config) (context : Context)
    (streams : Streams Mark) :
    (DropCopy.checkStaleOrders2 config context streams).dropCopy.nextCheckStaleOrders =
      if streams.dropCopy.nextCheckStaleOrders < context.traceInfo.originCreateTime then
        context.traceInfo.originCreateTime + config.settings.checkStaleOrderFreq
      else streams.dropCopy.nextCheckStaleOrders := by
  rw [DropCopy.checkStaleOrders2]
  split
  · exact congrArg Prod.snd (DropCopy.checkStaleOrders_settled context _)
  · rfl

section Handlers

variable [LawfulLimitRequest Mark] [Download2 DropCopy.State Driver]
  [LawfulDownload2 DropCopy.State Driver] {config : Config} {context : Context}
  {session next : Session Driver Mark} {event : Event}

/-- Only the timer changes when the next check is due. -/
theorem Session.handle_nextCheck (untimed : ∀ refresh, event ≠ .timer refresh)
    (handled : session.handle config context event = .ok next) :
    next.streams.dropCopy.nextCheckStaleOrders =
      session.streams.dropCopy.nextCheckStaleOrders := by
  by_cases login : ∃ message, event = .tradeLogin message
  · obtain ⟨message, rfl⟩ := login
    simp only [Session.handle, Session.tradeLogin] at handled
    split at handled
    · split at handled
      · cases handled
      · cases handled
        exact LawfulDownload2.begin_keeps
          (fun streams : Streams Mark => streams.dropCopy.nextCheckStaleOrders =
            session.streams.dropCopy.nextCheckStaleOrders)
          (fun stage sequence streams same => (congrArg Prod.snd
            (DropCopy.download_settled config context stage sequence streams)).trans same)
          session.download _ rfl
    · split at handled
      · cases handled
        rfl
      · cases handled
  · exact congrArg Prod.snd
      (Session.handle_settled (fun message same => login ⟨message, same⟩) untimed handled)

omit [LawfulLimitRequest Mark] in
/-- Looking for responses keeps when the next check is due. -/
theorem Session.checkRequestQueue_nextCheck (config : Config) (context : Context)
    (session : Session Driver Mark) :
    (session.checkRequestQueue config context).streams.dropCopy.nextCheckStaleOrders =
      session.streams.dropCopy.nextCheckStaleOrders :=
  session.checkRequestQueue_keeps
    (fun streams => streams.dropCopy.nextCheckStaleOrders =
      session.streams.dropCopy.nextCheckStaleOrders)
    (fun stage sequence streams same => (congrArg Prod.snd
      (DropCopy.download_settled config context stage sequence streams)).trans same) rfl

/-! ### What the timer does -/

/-- The output asks for the status of an order. -/
def Output.asks (output : Output) : Bool := output.kind = .statusQuery

omit [LimitRequest Mark] [LawfulLimitRequest Mark] in
/-- Outputs of other kinds ask for no order. -/
theorem Streams.Adds.unasked {kinds : List OutputKind} {before after : Streams Mark}
    (adds : before.Adds kinds after) (absent : OutputKind.statusQuery ∉ kinds)
    (fresh : before.outbox = []) : after.outbox.any Output.asks = false := by
  obtain ⟨emitted, outbox, kind⟩ := adds
  rw [outbox, fresh, List.nil_append, List.any_eq_false]
  intro output member asks
  exact absent (of_decide_eq_true asks ▸ kind output member)

/-- The last stage is the only one that is announced as ready. -/
theorem DropCopy.State.announcement_ready {state : DropCopy.State}
    (ready : state.status = .ready) : state.announcement = .streamStatus .dropCopy .ready "" := by
  cases state <;> first | rfl | cases ready

/-- The timer asked for nothing, and did not defer the next check. -/
structure Session.Idles (session next : Session Driver Mark) : Prop where
  silent : next.streams.outbox.any Output.asks = false
  kept : next.streams.dropCopy.nextCheckStaleOrders =
    session.streams.dropCopy.nextCheckStaleOrders

/-- A check was due and the connection ready, and the next check was set off by the period. -/
structure Session.Checks (config : Config) (context : Context)
    (session next : Session Driver Mark) : Prop where
  due : session.streams.dropCopy.nextCheckStaleOrders < context.traceInfo.originCreateTime
  deferred : next.streams.dropCopy.nextCheckStaleOrders =
    context.traceInfo.originCreateTime + config.settings.checkStaleOrderFreq
  ready : session.ready = true ∨ PublishesReady next.streams.outbox

omit [LawfulLimitRequest Mark] in
/-- A check, or none: the connection may get ready in the same step. -/
theorem Session.timer_checks (fresh : session.streams.outbox = []) (refresh : Bool) :
    session.Idles (session.timer config context refresh) ∨
      session.Checks config context (session.timer config context refresh) := by
  have kept := session.checkRequestQueue_nextCheck config context
  cases refresh with
  | false => exact Or.inl ⟨by rw [Session.timer, if_neg Bool.false_ne_true, fresh]; rfl, rfl⟩
  | true =>
    have moved : (session.checkRequestQueue config context).streams.outbox.any Output.asks =
        false ∧ ((session.checkRequestQueue config context).ready = true →
          session.ready = true ∨
            PublishesReady (session.checkRequestQueue config context).streams.outbox) := by
      rcases session.checkRequestQueue_cases config context with stays | ⟨-, -, -, enters⟩
      · rw [Session.ready, Session.ready, stays.streams, fresh]
        exact ⟨rfl, Or.inl⟩
      · refine ⟨enters.streams.adds.unasked (by simp) fresh, fun ready => Or.inr ?_⟩
        have status : (session.nextStage config).status = .ready :=
          enters.streams.connectionStatus.symm.trans (of_decide_eq_true ready)
        obtain ⟨frames, outbox, -⟩ := enters.streams.outbox
        rw [PublishesReady, outbox, DropCopy.State.announcement_ready status]
        exact List.mem_append_right _ List.mem_cons_self
    simp only [Session.timer, if_pos]
    split
    next ready =>
      simp only [Session.mapStreams]
      by_cases due : session.streams.dropCopy.nextCheckStaleOrders <
          context.traceInfo.originCreateTime
      · obtain ⟨clientOrderIds, queries⟩ := DropCopy.checkStaleOrders2_queries config context
          (session.checkRequestQueue config context).streams
        obtain ⟨sent, outbox, -⟩ := queries.outbox
        refine Or.inr ⟨due, ?_, (moved.2 ready).imp_right fun published => ?_⟩
        · rw [DropCopy.checkStaleOrders2_next, kept, if_pos due]
        · rw [PublishesReady, outbox]
          exact List.mem_append_left _ published
      · rw [DropCopy.checkStaleOrders2, kept, if_neg due]
        exact Or.inl ⟨moved.1, kept⟩
    next => exact Or.inl ⟨moved.1, kept⟩

/-! ### Runs -/

/-- When the timer asked for the status of orders. -/
def checkedAt? (entry : AccountEntry Driver Mark) : Option Int :=
  match entry.input.event with
  | .timer _ =>
    if entry.output.any Output.asks then some entry.input.context.traceInfo.originCreateTime
    else none
  | _ => none

/-- Checks lie more than the period apart, and the next one is not yet due for as long. -/
structure ChecksSpaced (config : Config) (history : AccountHistory Driver Mark)
    (session : Session Driver Mark) : Prop where
  apart : (history.filterMap checkedAt?).Pairwise fun later earlier =>
    earlier + config.settings.checkStaleOrderFreq < later
  deferred : ∀ time ∈ history.filterMap checkedAt?,
    time + config.settings.checkStaleOrderFreq ≤ session.streams.dropCopy.nextCheckStaleOrders

omit [LimitRequest Mark] [LawfulLimitRequest Mark] [Download2 DropCopy.State Driver]
  [LawfulDownload2 DropCopy.State Driver] in
/-- A check is made when its event is handled. -/
theorem checkedAt?_eq {entry : AccountEntry Driver Mark} {time : Int}
    (checked : checkedAt? entry = some time) :
    entry.input.context.traceInfo.originCreateTime = time := by
  rw [checkedAt?] at checked
  split at checked
  · split at checked
    · exact Option.some.inj checked
    · cases checked
  · cases checked

/-- A step asks for nothing and leaves the next check as it was, or is a check. -/
theorem Session.step_checks {input : Input} {outputs : List Output}
    (taken : session.step config input = .ok (next, outputs)) :
    checkedAt? ⟨session, input, outputs⟩ = none ∧
        next.streams.dropCopy.nextCheckStaleOrders =
          session.streams.dropCopy.nextCheckStaleOrders ∨
      session.clearOutbox.Checks config input.context next := by
  obtain ⟨handled, rfl⟩ := Session.step_ok taken
  obtain ⟨context, event⟩ := input
  by_cases timer : ∃ refresh, event = .timer refresh
  · obtain ⟨refresh, rfl⟩ := timer
    cases handled
    rcases session.clearOutbox.timer_checks rfl refresh with idles | checks
    · refine Or.inl ⟨?_, idles.kept⟩
      rw [checkedAt?, idles.silent, if_neg Bool.false_ne_true]
    · exact Or.inr checks
  · have kept := Session.handle_nextCheck (fun refresh same => timer ⟨refresh, same⟩) handled
    refine Or.inl ⟨?_, kept⟩
    rw [checkedAt?]
    split
    next refresh same => exact absurd ⟨refresh, same⟩ timer
    next => rfl

namespace ChecksSpaced

variable {history : AccountHistory Driver Mark} {input : Input} {outputs : List Output}

theorem step (period : 0 ≤ config.settings.checkStaleOrderFreq)
    (spaced : ChecksSpaced config history session)
    (taken : session.step config input = .ok (next, outputs)) :
    ChecksSpaced config (⟨session, input, outputs⟩ :: history) next := by
  rcases Session.step_checks taken with ⟨silent, kept⟩ | checks
  · constructor
    · rw [List.filterMap_cons_none silent]
      exact spaced.apart
    · rw [List.filterMap_cons_none silent, kept]
      exact spaced.deferred
  · have due : session.streams.dropCopy.nextCheckStaleOrders <
        input.context.traceInfo.originCreateTime := checks.due
    have deferred (time : Int) (earlier : time ∈ history.filterMap checkedAt?) :
        time + config.settings.checkStaleOrderFreq <
          input.context.traceInfo.originCreateTime :=
      (spaced.deferred time earlier).trans_lt due
    have later (time : Int) (earlier : time ∈ history.filterMap checkedAt?) :
        time + config.settings.checkStaleOrderFreq ≤
          next.streams.dropCopy.nextCheckStaleOrders := by
      rw [checks.deferred]
      have before := deferred time earlier
      omega
    cases checked : checkedAt? ⟨session, input, outputs⟩ with
    | none => exact ⟨by rw [List.filterMap_cons_none checked]; exact spaced.apart,
        by rw [List.filterMap_cons_none checked]; exact later⟩
    | some time =>
      have now : input.context.traceInfo.originCreateTime = time := checkedAt?_eq checked
      constructor
      · rw [List.filterMap_cons_some checked, List.pairwise_cons]
        exact ⟨fun earlier member => now ▸ deferred earlier member, spaced.apart⟩
      · rw [List.filterMap_cons_some checked, List.forall_mem_cons]
        exact ⟨by rw [checks.deferred, now], later⟩

theorem of_run {allowed : Environment (Session Driver Mark) Input (List Output)}
    (period : 0 ≤ config.settings.checkStaleOrderFreq)
    (run : (account config).Run allowed history session) : ChecksSpaced config history session :=
  run.invariant (ChecksSpaced config) ⟨.nil, List.forall_mem_nil _⟩
    fun _ _ _ _ _ spaced _ taken => spaced.step period taken

end ChecksSpaced

/-- In every run, through reconnects and logins, any two checks of the timer lie more than the
period apart, and the timer checks only while the trading connection is ready. -/
theorem stale_checks_spaced (config : Config) (period : 0 ≤ config.settings.checkStaleOrderFreq)
    (allowed : Environment (Session Driver Mark) Input (List Output))
    (history : AccountHistory Driver Mark) (session : Session Driver Mark)
    (run : (account config).Run allowed history session) :
    ((history.filterMap checkedAt?).Pairwise fun later earlier =>
        earlier + config.settings.checkStaleOrderFreq < later) ∧
      ∀ entry ∈ history, checkedAt? entry ≠ none →
        entry.before.ready = true ∨ PublishesReady entry.output := by
  refine ⟨(ChecksSpaced.of_run period run).apart, History.always_iff_forall_mem.mp ?_⟩
  refine run.always fun history session input next outputs before _ taken checks => ?_
  have stepped := Session.step_ok taken
  rcases Session.step_checks taken with ⟨silent, -⟩ | checks
  · exact absurd silent checks
  · rw [stepped.2]
    exact checks.ready

end Handlers

/-- An order stays stale while the timer goes off after two, after two and a half, and after three
and a half seconds. -/
def plainChecks : List Input :=
  plainDownload (.result .success 200 (some ())) (.result .success 200 (some ⟨[]⟩)) [] ++
    plainInputs [.tradeSubscribe ⟨.usertrades, .success⟩] ++
    [2000000000, 2500000000, 3500000000].map fun time =>
      ⟨{ plainContext [plainStaleOrder] with traceInfo := ⟨time, time⟩ }, .timer true⟩

/-- The second time it is too early for a check. -/
theorem stale_checks_spaced_plain : ∃ history session,
    plainAccount.Run (fun _ _ _ => True) history session ∧
      history.filterMap checkedAt? = [3500000000, 2000000000] ∧
      (history.filterMap checkedAt?).Pairwise fun later earlier =>
        earlier + 1000000000 < later := by
  have run : plainAccount.Run (fun _ _ _ => True) _ _ :=
    .of_replay plainChecks rfl (History.always_of_forall (fun _ _ => trivial) _)
  exact ⟨_, _, run, rfl, (stale_checks_spaced plainConfig (by decide) _ _ _ run).1⟩

end GateFutures.Gateway
