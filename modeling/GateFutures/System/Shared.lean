/-
This file models what all connections of the gateway share: the rate limiter and the interceptor.

A timer reaches the connections one after the other, and each asks the one rate limiter for the
requests it has pending: first the queues of the market data, then the marks of every account. What
one connection is let through, another may be refused. The interceptor says until when requests are
suspended, and a connection refreshes or not depending on it: how is up to the connections, which
are not part of this repository.

The gateway with its shared state does what the gateway does that is given the answers with its
inputs. So the order of visits matters only where a request is refused, and accounts interfere only
through what they share.
-/

import GateFutures.System.Runs

namespace GateFutures.System

open Framework Library Protocol Roq

variable {Limiter Driver Mark MarketDriver Store Queue Digest : Type}

/-! ### The shared state -/

/-- What a timer finds at the connections: whether each refreshes, given until when the interceptor
suspends requests, and how many elements of each queue are due. -/
structure Reach where
  rest : Int → Bool
  due : Market.SnapshotKind → Nat
  orderEntry : String → Int → Bool
  dropCopy : String → Int → Bool

/-- Whether an event is a timer. -/
def isTimer : Event → Bool
  | .timer _ => true
  | _ => false

/-- An event of the gateway. A timer does not have the answers of what is shared. -/
inductive SharedEvent
  | timer (reach : Reach)
  | other (event : { event : Event // isTimer event = false })

/-- An event, and what the host answers meanwhile. -/
structure SharedInput where
  host : Host
  event : SharedEvent

/-- The rate limiter of `Shared`, and the states of the parts. The interceptor is one of these. -/
structure SharedStates (Limiter Driver Mark MarketDriver Store Queue : Type) where
  rateLimiter : Limiter
  states : States Driver Mark MarketDriver Store Queue

/-- `Throttle::operator std::chrono::nanoseconds`, of the one interceptor: until when requests are
suspended. -/
def suspendUntil (states : States Driver Mark MarketDriver Store Queue) : Int :=
  let throttle : Tools.Throttle := states .throttle
  throttle.suspendUntil

section Machine

variable [RateLimiter Limiter] [Download2 Gateway.DropCopy.State Driver] [LimitRequest Mark]
  [Download2 Market.Rest.State MarketDriver] [Symbols String Store] [LimitQueue String Queue]

/-- The requests that an order entry connection asks the rate limiter for when a timer reaches it:
those that are pending, if it is ready. A mark that is not pending does not ask. -/
def asks (refresh : Bool) (session : Gateway.Session Driver Mark) : List Gateway.RestKind :=
  if refresh ∧ session.streams.orderEntry.connectionStatus = .ready then
    [.accounts, .positions, .trades].filter fun kind =>
      LimitRequest.pending (session.streams.request.mark kind)
  else []

/-- The elements of the two queues that the rate limiter lets through when a timer reaches the REST
connection, first those of the depth queue. A queue asks for its elements until one is refused. -/
def askRest (traceInfo : TraceInfo) (refresh : Bool) (due : Market.SnapshotKind → Nat)
    (controller : Market.Controller MarketDriver Store Queue) (limiter : Limiter) :
    (Market.SnapshotKind → Nat) × Limiter :=
  if refresh ∧ controller.feeds.rest.ready then
    let pending (kind : Market.SnapshotKind) : Nat :=
      min (due kind) (LimitQueue.elements (controller.feeds.shared.queue kind)).length
    let (books, limiter) := RateLimiter.grant traceInfo (pending .orderBook) limiter
    let (series, limiter) := RateLimiter.grant traceInfo (pending .candlesticks) limiter
    (fun kind => if kind = .orderBook then books else series, limiter)
  else (fun _ => 0, limiter)

/-- The order entry connections are reached one after the other. -/
def reachOrderEntry (setup : Setup Digest) (layout : Layout) (host : Host)
    (refresh : String → Bool) :
    List (String × UInt16) → Limiter → Turns Driver Mark MarketDriver Store Queue →
      States Driver Mark MarketDriver Store Queue →
      Except (Σ part : Part, part.Failure) (Limiter × States Driver Mark MarketDriver Store Queue ×
        Turns Driver Mark MarketDriver Store Queue)
  | [], limiter, turns, states => .ok (limiter, states, turns)
  | entry :: later, limiter, turns, states => do
    let (granted, limiter) := RateLimiter.ask host.traceInfo
      (asks (refresh entry.1) (states (.account entry.1))) limiter
    let (states, turns) ← (parts setup layout).perform
      [toAccount host entry.1 (.orderEntryTimer (refresh entry.1) granted.contains)] turns states
    reachOrderEntry setup layout host refresh later limiter turns states

/-- `Controller::dispatch_helper` for a timer: the REST connection is reached first, then the order
entry and the drop copy connections. -/
def reachAll (setup : Setup Digest) (layout : Layout) (visits : Visits) (host : Host)
    (reach : Reach) (shared : SharedStates Limiter Driver Mark MarketDriver Store Queue) :
    Except (Σ part : Part, part.Failure)
      (SharedStates Limiter Driver Mark MarketDriver Store Queue ×
        Turns Driver Mark MarketDriver Store Queue) := do
  let suspended := suspendUntil shared.states
  let refresh := reach.rest suspended
  let (allowance, limiter) := askRest host.traceInfo refresh reach.due (shared.states .market)
    shared.rateLimiter
  let (states, turns) ← (parts setup layout).perform
    [toMarket host (.timer refresh allowance)] [] shared.states
  let (limiter, states, turns) ← reachOrderEntry setup layout host
    (fun name => reach.orderEntry name suspended)
    (visits.orderEntry.visit layout.orderEntry.entries) limiter turns states
  let (states, turns) ← (parts setup layout).perform
    ((visits.dropCopy.visit layout.dropCopy.entries).map fun entry =>
      toAccount host entry.1 (.timer (reach.dropCopy entry.1 suspended))) turns states
  return ({ rateLimiter := limiter, states }, turns)

/-- The gateway with what its connections share, given the rate limiter it is created with. -/
def sharedGateway (setup : Setup Digest) (layout : Layout) (visits : Visits) (limiter : Limiter) :
    Machine (SharedStates Limiter Driver Mark MarketDriver Store Queue) SharedInput
      (Turns Driver Mark MarketDriver Store Queue) (Σ part : Part, part.Failure) where
  initial := { rateLimiter := limiter, states := (gateway setup layout visits).initial }
  step shared input :=
    match input.event with
    | .timer reach => reachAll setup layout visits input.host reach shared
    | .other event => do
      let (states, turns) ←
        (gateway setup layout visits).step shared.states ⟨input.host, event.val⟩
      return ({ shared with states }, turns)

/-! ### The answers as inputs -/

/-- All requests that the order entry connections ask for, connection by connection. -/
def allAsks (refresh : String → Bool) (states : States Driver Mark MarketDriver Store Queue)
    (entries : List (String × UInt16)) : List (String × Gateway.RestKind) :=
  entries.flatMap fun entry =>
    (asks (refresh entry.1) (states (.account entry.1))).map (Prod.mk entry.1)

/-- What the order entry connections ask for where a timer reaches them. -/
def orderEntryAsks (layout : Layout) (visits : Visits) (reach : Reach)
    (states : States Driver Mark MarketDriver Store Queue) : List (String × Gateway.RestKind) :=
  allAsks (fun name => reach.orderEntry name (suspendUntil states)) states
    (visits.orderEntry.visit layout.orderEntry.entries)

/-- What the REST connection is answered where a timer reaches it, and the rate limiter then. -/
def restAnswers (host : Host) (reach : Reach)
    (shared : SharedStates Limiter Driver Mark MarketDriver Store Queue) :
    (Market.SnapshotKind → Nat) × Limiter :=
  askRest host.traceInfo (reach.rest (suspendUntil shared.states)) reach.due
    (shared.states .market) shared.rateLimiter

/-- What the rate limiter and the interceptor answer where a timer reaches the connections, and the
rate limiter afterwards. -/
def answers (layout : Layout) (visits : Visits) (host : Host) (reach : Reach)
    (shared : SharedStates Limiter Driver Mark MarketDriver Store Queue) : Timer × Limiter :=
  let suspended := suspendUntil shared.states
  let (allowance, limiter) := restAnswers host reach shared
  let (granted, limiter) := RateLimiter.ask host.traceInfo
    (orderEntryAsks layout visits reach shared.states) limiter
  ({ rest := reach.rest suspended
     allowance
     orderEntry := fun name => reach.orderEntry name suspended
     allowed := fun name kind => granted.contains (name, kind)
     dropCopy := fun name => reach.dropCopy name suspended }, limiter)

/-- An input, with the answers of what is shared. -/
def answered (layout : Layout) (visits : Visits)
    (shared : SharedStates Limiter Driver Mark MarketDriver Store Queue) (input : SharedInput) :
    Input where
  host := input.host
  event :=
    match input.event with
    | .timer reach => .timer (answers layout visits input.host reach shared).1
    | .other event => event.val

/-- The rate limiter, after an input. -/
def limiterAfter (layout : Layout) (visits : Visits)
    (shared : SharedStates Limiter Driver Mark MarketDriver Store Queue) (input : SharedInput) :
    Limiter :=
  match input.event with
  | .timer reach => (answers layout visits input.host reach shared).2
  | .other _ => shared.rateLimiter

omit [RateLimiter Limiter] [Download2 Gateway.DropCopy.State Driver]
  [Download2 Market.Rest.State MarketDriver] [Symbols String Store] [LimitQueue String Queue] in
/-- What the connections ask for depends on the states of their accounts only. -/
theorem allAsks_update {refresh : String → Bool} {entries : List (String × UInt16)} {part : Part}
    (other : ∀ entry ∈ entries, Part.account entry.1 ≠ part)
    (states : States Driver Mark MarketDriver Store Queue)
    (next : Part.State Driver Mark MarketDriver Store Queue part) :
    allAsks refresh (Function.update states part next) entries =
      allAsks refresh states entries := by
  refine List.flatMap_congr fun entry member => ?_
  rw [Function.update_of_ne (other entry member)]

omit [Download2 Gateway.DropCopy.State Driver] [Download2 Market.Rest.State MarketDriver]
  [Symbols String Store] [LimitQueue String Queue] in
/-- Only names that are visited are let through. -/
theorem granted_visited {traceInfo : TraceInfo} {refresh : String → Bool}
    {states : States Driver Mark MarketDriver Store Queue} {entries : List (String × UInt16)}
    {limiter : Limiter} {name : String} {kind : Gateway.RestKind}
    (granted : (name, kind) ∈ (RateLimiter.ask traceInfo (allAsks refresh states entries)
      limiter).1) : name ∈ entries.map Prod.fst := by
  have asked := (RateLimiter.ask_sublist traceInfo _ limiter).subset granted
  obtain ⟨entry, member, own⟩ := List.mem_flatMap.mp asked
  obtain ⟨_, -, same⟩ := List.mem_map.mp own
  rw [← (Prod.mk.inj same).1]
  exact List.mem_map_of_mem member

/-- Among the answers to several accounts, those to the first are its own if no other has its
name. -/
theorem contains_own {name : String} {granted : List Gateway.RestKind}
    {others : List (String × Gateway.RestKind)} (apart : ∀ kind, (name, kind) ∉ others)
    (kind : Gateway.RestKind) :
    (granted.map (Prod.mk name) ++ others).contains (name, kind) = granted.contains kind := by
  rw [Bool.eq_iff_iff, List.contains_iff_mem, List.contains_iff_mem, List.mem_append,
    List.mem_map_of_injective (Prod.mk_right_injective name)]
  exact or_iff_left (apart kind)

/-- Those to another account are among the rest. -/
theorem contains_other {name other : String} {granted : List Gateway.RestKind}
    {others : List (String × Gateway.RestKind)} (apart : other ≠ name) (kind : Gateway.RestKind) :
    (granted.map (Prod.mk name) ++ others).contains (other, kind) =
      others.contains (other, kind) := by
  rw [Bool.eq_iff_iff, List.contains_iff_mem, List.contains_iff_mem, List.mem_append]
  refine or_iff_right fun own => apart ?_
  obtain ⟨_, -, same⟩ := List.mem_map.mp own
  exact (Prod.mk.inj same).1.symm

/-- The order entry connections do what they do when they are given the answers. -/
theorem reachOrderEntry_eq (setup : Setup Digest) (layout : Layout) (host : Host)
    (refresh : String → Bool) {entries : List (String × UInt16)}
    (distinct : (entries.map Prod.fst).Nodup) (limiter : Limiter)
    (turns : Turns Driver Mark MarketDriver Store Queue)
    (states : States Driver Mark MarketDriver Store Queue) :
    reachOrderEntry setup layout host refresh entries limiter turns states =
      ((parts setup layout).perform (entries.map fun entry =>
        toAccount host entry.1 (.orderEntryTimer (refresh entry.1) fun kind =>
          (RateLimiter.ask host.traceInfo (allAsks refresh states entries) limiter).1.contains
            (entry.1, kind))) turns states).map fun result =>
        ((RateLimiter.ask host.traceInfo (allAsks refresh states entries) limiter).2,
          result) := by
  induction entries generalizing limiter turns states with
  | nil => rfl
  | cons entry later inductionHypothesis =>
    obtain ⟨fresh, distinct⟩ := List.nodup_cons.mp distinct
    have asked : allAsks refresh states (entry :: later) =
        (asks (refresh entry.1) (states (.account entry.1))).map (Prod.mk entry.1) ++
          allAsks refresh states later := List.flatMap_cons
    generalize own : RateLimiter.ask host.traceInfo
      (asks (refresh entry.1) (states (.account entry.1))) limiter = answered
    obtain ⟨granted, limiter'⟩ := answered
    have both : RateLimiter.ask host.traceInfo (allAsks refresh states (entry :: later)) limiter =
        (granted.map (Prod.mk entry.1) ++ (RateLimiter.ask host.traceInfo
            (allAsks refresh states later) limiter').1,
          (RateLimiter.ask host.traceInfo (allAsks refresh states later) limiter').2) := by
      rw [asked, RateLimiter.ask_append, RateLimiter.ask_map, own]
    rw [both]
    generalize rest : RateLimiter.ask host.traceInfo (allAsks refresh states later) limiter' =
      remaining
    have mine : (fun kind => (granted.map (Prod.mk entry.1) ++ remaining.1).contains
        (entry.1, kind)) = granted.contains :=
      funext <| contains_own fun kind member => fresh (granted_visited (rest ▸ member))
    have theirs : (later.map fun other => (toAccount host other.1
          (.orderEntryTimer (refresh other.1) fun kind =>
            (granted.map (Prod.mk entry.1) ++ remaining.1).contains (other.1, kind)) :
          Call (Part.State Driver Mark MarketDriver Store Queue) Part.Input)) =
        later.map fun other => toAccount host other.1
          (.orderEntryTimer (refresh other.1) fun kind =>
            remaining.1.contains (other.1, kind)) := by
      refine List.map_congr_left fun other member => ?_
      have apart : other.1 ≠ entry.1 := fun same =>
        fresh (same ▸ List.mem_map_of_mem member)
      simp only [contains_other apart]
    rw [List.map_cons, mine, theirs, reachOrderEntry, own]
    dsimp only
    rw [Family.perform, Family.perform]
    split
    next next output taken =>
      have unchanged : allAsks refresh (Function.update states (.account entry.1) next) later =
          allAsks refresh states later := by
        refine allAsks_update (fun other member same => fresh ?_) states next
        rw [← Part.account.inj same]
        exact List.mem_map_of_mem member
      have moved := fun turns => inductionHypothesis distinct limiter' turns
        (Function.update states (.account entry.1) next)
      simp only [unchanged, rest] at moved
      exact moved _
    next failure failed => rfl

/-- A timer makes the connections do what it makes them do when they are given the answers. -/
theorem reachAll_eq (setup : Setup Digest) (layout : Layout) (visits : Visits) (host : Host)
    (reach : Reach) (shared : SharedStates Limiter Driver Mark MarketDriver Store Queue) :
    reachAll setup layout visits host reach shared =
      ((parts setup layout).perform
        (dispatchTimer layout visits host (answers layout visits host reach shared).1) []
        shared.states).map fun result =>
          (⟨(answers layout visits host reach shared).2, result.1⟩, result.2) := by
  have distinct : ((visits.orderEntry.visit layout.orderEntry.entries).map Prod.fst).Nodup :=
    ((visits.orderEntry.permutes _).map Prod.fst).nodup_iff.mpr layout.orderEntry.distinct
  rw [dispatchTimer, Family.perform_calls_append, reachAll]
  dsimp only
  rw [Family.perform, Family.perform, answers]
  dsimp only [restAnswers, orderEntryAsks]
  -- The market data is reached first, and no account changes meanwhile.
  generalize called : (toMarket host _ :
    Call (Part.State Driver Mark MarketDriver Store Queue) Part.Input) = call
  have here : call.part = .market := called ▸ rfl
  cases (parts setup layout call.part).step (shared.states call.part)
    (call.input shared.states) with
  | error failure => rfl
  | ok result =>
    have unchanged : allAsks (fun name => reach.orderEntry name (suspendUntil shared.states))
          (Function.update shared.states call.part result.1)
          (visits.orderEntry.visit layout.orderEntry.entries) =
        allAsks (fun name => reach.orderEntry name (suspendUntil shared.states)) shared.states
          (visits.orderEntry.visit layout.orderEntry.entries) :=
      allAsks_update (fun entry _ same => by cases same.trans here) _ _
    simp only [Family.perform, bind, Except.bind, reachOrderEntry_eq setup layout host _ distinct,
      unchanged]
    generalize ((parts setup layout).perform _ [_] _ : Except (Σ part : Part, part.Failure)
      (States Driver Mark MarketDriver Store Queue ×
        Turns Driver Mark MarketDriver Store Queue)) = orderEntries
    cases orderEntries with
    | error failure => rfl
    | ok result =>
      dsimp only [Except.map]
      cases (parts setup layout).perform _ result.2 result.1 <;> rfl

/-- A step of the gateway with its shared state is a step of the gateway that is given the
answers. -/
theorem sharedGateway_step (setup : Setup Digest) (layout : Layout) (visits : Visits)
    (limiter : Limiter) (shared : SharedStates Limiter Driver Mark MarketDriver Store Queue)
    (input : SharedInput) :
    (sharedGateway setup layout visits limiter).step shared input =
      ((gateway setup layout visits).step shared.states (answered layout visits shared input)).map
        fun result => (⟨limiterAfter layout visits shared input, result.1⟩, result.2) := by
  obtain ⟨host, event⟩ := input
  cases event with
  | timer reach => exact reachAll_eq setup layout visits host reach shared
  | other event =>
    show ((gateway setup layout visits).step shared.states ⟨host, event.val⟩ >>= _) =
      ((gateway setup layout visits).step shared.states ⟨host, event.val⟩).map _
    cases (gateway setup layout visits).step shared.states ⟨host, event.val⟩ <;> rfl

/-- The history of the gateway with its shared state. -/
abbrev SharedHistory (Limiter Driver Mark MarketDriver Store Queue : Type) :=
  History (SharedStates Limiter Driver Mark MarketDriver Store Queue) SharedInput
    (Turns Driver Mark MarketDriver Store Queue)

/-- An entry, with the answers of what is shared as inputs. -/
def answeredEntry (layout : Layout) (visits : Visits)
    (entry : Entry (SharedStates Limiter Driver Mark MarketDriver Store Queue) SharedInput
      (Turns Driver Mark MarketDriver Store Queue)) :
    Entry (States Driver Mark MarketDriver Store Queue) Input
      (Turns Driver Mark MarketDriver Store Queue) where
  before := entry.before.states
  input := answered layout visits entry.before entry.input
  output := entry.output

omit [Download2 Gateway.DropCopy.State Driver] [Download2 Market.Rest.State MarketDriver]
  [Symbols String Store] in
theorem turns_answered (layout : Layout) (visits : Visits)
    (history : SharedHistory Limiter Driver Mark MarketDriver Store Queue) :
    turns (history.map (answeredEntry layout visits)) = turns history :=
  List.flatMap_map ..

/-- A run of the gateway with its shared state is a run of the gateway that is given the answers. -/
theorem answered_run {setup : Setup Digest} {layout : Layout} {visits : Visits} {limiter : Limiter}
    {allowed : Environment (SharedStates Limiter Driver Mark MarketDriver Store Queue) SharedInput
      (Turns Driver Mark MarketDriver Store Queue)}
    {history : SharedHistory Limiter Driver Mark MarketDriver Store Queue}
    {shared : SharedStates Limiter Driver Mark MarketDriver Store Queue}
    (run : (sharedGateway setup layout visits limiter).Run allowed history shared) :
    (gateway setup layout visits).Run (fun _ _ _ => True)
      (history.map (answeredEntry layout visits)) shared.states := by
  induction run with
  | start => exact .start
  | step before admitted taken inductionHypothesis =>
    rw [sharedGateway_step] at taken
    obtain ⟨result, stepped, same⟩ := map_ok.mp taken
    cases same
    exact .step inductionHypothesis trivial stepped

/-! ### A plain gateway -/

/-- What a timer finds at plain connections: they refresh unless requests are suspended. -/
def plainReach : Reach where
  rest suspended := suspended = 0
  due _ := 10
  orderEntry _ suspended := suspended = 0
  dropCopy _ suspended := suspended = 0

/-- Events of the plain host, where timers find plain connections. -/
def plainSharedInputs (events : List Event) : List SharedInput :=
  events.map fun event =>
    { host := plainHost
      event :=
        if other : isTimer event = false then .other ⟨event, other⟩ else .timer plainReach }

/-- The gateway over plain drivers, with a number of requests that are let through. -/
abbrev plainSharedGateway (visits : Visits) (requests : Nat) :
    Machine (SharedStates PlainLimiter (PlainDownload Gateway.DropCopy.State) PlainRequest
        (PlainDownload Market.Rest.State) (PlainSymbols String) (PlainQueue String)) SharedInput
      (Turns (PlainDownload Gateway.DropCopy.State) PlainRequest
        (PlainDownload Market.Rest.State) (PlainSymbols String) (PlainQueue String))
      (Σ part : Part, part.Failure) :=
  sharedGateway plainSetup plainLayout visits ⟨requests⟩

/-- Two accounts connect, and a timer comes. -/
def plainEvents : List SharedInput :=
  plainSharedInputs (plainConnect "A1" ++ plainConnect "A2" ++ [plainTimer])

/-- The request marks of two accounts that are pending after both connected and a timer came, given
how many requests are let through. -/
def plainPending (visits : Visits) (requests : Nat) :
    Option (List Gateway.RestKind × List Gateway.RestKind) :=
  ((plainSharedGateway visits requests).replay plainEvents).toOption.map fun result =>
    (asks true (result.2.states (.account "A1")), asks true (result.2.states (.account "A2")))

/-! ### Orders of visits -/

/-- The rate limiter refuses no account: where a timer reaches the order entry connections, every
request that they ask for is let through. -/
def Unrefused (layout : Layout) (visits : Visits) :
    Environment (SharedStates Limiter Driver Mark MarketDriver Store Queue) SharedInput
      (Turns Driver Mark MarketDriver Store Queue) :=
  fun _ shared input =>
    match input.event with
    | .timer reach =>
      let asked := orderEntryAsks layout visits reach shared.states
      let (_, limiter) := restAnswers input.host reach shared
      (RateLimiter.ask input.host.traceInfo asked limiter).1 = asked
    | .other _ => True

instance (layout : Layout) (visits : Visits)
    (history : SharedHistory Limiter Driver Mark MarketDriver Store Queue)
    (shared : SharedStates Limiter Driver Mark MarketDriver Store Queue) (input : SharedInput) :
    Decidable (Unrefused layout visits history shared input) :=
  match input with
  | ⟨host, .timer reach⟩ =>
    inferInstanceAs (Decidable ((RateLimiter.ask host.traceInfo
      (orderEntryAsks layout visits reach shared.states) (restAnswers host reach shared).2).1 =
        orderEntryAsks layout visits reach shared.states))
  | ⟨_, .other _⟩ => inferInstanceAs (Decidable True)

omit [Download2 Gateway.DropCopy.State Driver] [Download2 Market.Rest.State MarketDriver]
  [Symbols String Store] in
/-- Where no account is refused, all are answered the same in any order of visits. -/
theorem answers_unrefused {layout : Layout} {visits : Visits} (visits' : Visits)
    {history : SharedHistory Limiter Driver Mark MarketDriver Store Queue}
    {shared : SharedStates Limiter Driver Mark MarketDriver Store Queue} {input : SharedInput}
    (unrefused : Unrefused layout visits history shared input) :
    answered layout visits' shared input = answered layout visits shared input ∧
      limiterAfter layout visits' shared input = limiterAfter layout visits shared input := by
  obtain ⟨host, event⟩ := input
  cases event with
  | other event => exact ⟨rfl, rfl⟩
  | timer reach =>
    have asked : (orderEntryAsks layout visits' reach shared.states).Perm
        (orderEntryAsks layout visits reach shared.states) :=
      ((visits'.orderEntry.permutes layout.orderEntry.entries).trans
        (visits.orderEntry.permutes layout.orderEntry.entries).symm).flatMap_right _
    have granted : (RateLimiter.ask host.traceInfo (orderEntryAsks layout visits reach
        shared.states) (restAnswers host reach shared).2).1 =
          orderEntryAsks layout visits reach shared.states := unrefused
    have same : answers layout visits' host reach shared =
        answers layout visits host reach shared := by
      rw [answers, answers]
      dsimp only
      rw [RateLimiter.ask_unrefused granted asked.length_eq, granted]
      simp only [asked.contains_eq]
    exact ⟨congrArg (fun answers : Timer × Limiter => Input.mk host (.timer answers.1)) same,
      congrArg Prod.snd same⟩

/-- A step in which no account is refused can be taken in any order of visits. -/
theorem step_unrefused {setup : Setup Digest} {layout : Layout} {visits : Visits} (visits' : Visits)
    {limiter : Limiter} {history : SharedHistory Limiter Driver Mark MarketDriver Store Queue}
    {shared next : SharedStates Limiter Driver Mark MarketDriver Store Queue} {input : SharedInput}
    {output : Turns Driver Mark MarketDriver Store Queue}
    (unrefused : Unrefused layout visits history shared input)
    (taken : (sharedGateway setup layout visits limiter).step shared input = .ok (next, output)) :
    ∃ output', (sharedGateway setup layout visits' limiter).step shared input =
        .ok (next, output') ∧
      ∀ part, ownTurns part output' = ownTurns part output := by
  obtain ⟨answers, limiters⟩ := answers_unrefused visits' unrefused
  rw [sharedGateway_step] at taken ⊢
  obtain ⟨⟨states, performed⟩, stepped, same⟩ := map_ok.mp taken
  obtain ⟨rfl, rfl⟩ := Prod.mk.inj same
  have agrees := calls_agree setup layout visits visits' (answered layout visits shared input) []
    shared.states
  rw [show (parts setup layout).perform (calls layout visits (answered layout visits shared input))
    [] shared.states = .ok (states, performed) from stepped] at agrees
  rw [answers, limiters]
  generalize stepped' : (parts setup layout).perform (calls layout visits' (answered layout visits
    shared input)) [] shared.states = result at agrees
  cases agrees with
  | ok own => exact ⟨_, map_ok.mpr ⟨_, stepped', rfl⟩, fun part => (own part).symm⟩

/-- Whatever a run does when the maps of connections are visited in some orders, a run on the same
inputs does when they are visited in any others, as long as no account is refused a request: it
ends in the same states, with the same rate limiter, and every part takes the same turns. -/
theorem visits_irrelevant (setup : Setup Digest) (layout : Layout) (visits visits' : Visits)
    (limiter : Limiter) (history : SharedHistory Limiter Driver Mark MarketDriver Store Queue)
    (shared : SharedStates Limiter Driver Mark MarketDriver Store Queue)
    (run : (sharedGateway setup layout visits limiter).Run (Unrefused layout visits) history
      shared) :
    ∃ history', (sharedGateway setup layout visits' limiter).Run (fun _ _ _ => True) history'
        shared ∧
      history'.map Entry.input = history.map Entry.input ∧
      ∀ part, ownTurns part (turns history') = ownTurns part (turns history) := by
  obtain ⟨history', run', inputs, same⟩ := run.rerun (by rfl)
    fun _ _ _ _ _ unrefused taken => step_unrefused visits' unrefused taken
  exact ⟨history', run', inputs, ownTurns_turns same⟩

/-- The timer reaches both connections of the second account, from either end. -/
theorem visits_irrelevant_plain : ∃ history shared history',
    (plainSharedGateway plainVisits 10).Run (Unrefused plainLayout plainVisits) history shared ∧
      (plainSharedGateway backwardVisits 10).Run (fun _ _ _ => True) history' shared ∧
      (ownTurns (.account "A2") (turns history')).length = 6 ∧ shared.rateLimiter = ⟨8⟩ := by
  have run : (plainSharedGateway plainVisits 10).Run (Unrefused plainLayout plainVisits) _ _ :=
    .of_replay plainEvents rfl (by decide)
  obtain ⟨history', run', -, own⟩ := visits_irrelevant plainSetup plainLayout plainVisits
    backwardVisits _ _ _ run
  refine ⟨_, _, history', run, run', ?_, rfl⟩
  rw [own]
  rfl

/-- With one request let through, the account that is visited first sends it. -/
example : plainPending plainVisits 1 = some ([], [.accounts]) ∧
    plainPending backwardVisits 1 = some ([.accounts], []) := ⟨rfl, rfl⟩

/-! ### Isolation -/

/-- What the market data and the streams of an account see of a step: the event, if it concerns
them, what the host answers about the account, and what the rate limiter and the interceptor answer
to their connections. -/
def sees (layout : Layout) (visits : Visits) (name : String)
    (entry : Entry (SharedStates Limiter Driver Mark MarketDriver Store Queue) SharedInput
      (Turns Driver Mark MarketDriver Store Queue)) : Option Input :=
  seen name (answered layout visits entry.before entry.input)

/-- The streams of an account, and the market data, do and end the same in any two runs that look
the same to them: whatever else happens, to any other account. Other accounts matter only by what
the rate limiter and the interceptor answer. -/
theorem accounts_isolated (setup : Setup Digest) (layout : Layout) (visits : Visits)
    (name : String) (limiter limiter' : Limiter)
    (history history' : SharedHistory Limiter Driver Mark MarketDriver Store Queue)
    (shared shared' : SharedStates Limiter Driver Mark MarketDriver Store Queue)
    (run : (sharedGateway setup layout visits limiter).Run (fun _ _ _ => True) history shared)
    (run' : (sharedGateway setup layout visits limiter').Run (fun _ _ _ => True) history' shared')
    (same : history.filterMap (sees layout visits name) =
      history'.filterMap (sees layout visits name)) :
    (shared.states .market = shared'.states .market ∧
        shared.states (.account name) = shared'.states (.account name)) ∧
      ownTurns .market (turns history) = ownTurns .market (turns history') ∧
      ownTurns (.account name) (turns history) = ownTurns (.account name) (turns history') := by
  have named : near name (.account name) = true := decide_eq_true rfl
  have inputs (history : SharedHistory Limiter Driver Mark MarketDriver Store Queue) :
      ((history.map (answeredEntry layout visits)).map Entry.input).filterMap (seen name) =
        history.filterMap (sees layout visits name) := by
    rw [List.map_map, List.filterMap_map]
    rfl
  obtain ⟨agree, own⟩ := (answered_run run).isolated (calls_within layout visits name)
    (calls_seen layout visits name) (answered_run run')
    ((inputs history).trans (same.trans (inputs history').symm))
  rw [turns_answered, turns_answered] at own
  exact ⟨⟨agree .market rfl, agree _ named⟩, own .market rfl, own _ named⟩

/-- The first account does the same whether the second connects, and sends a request of its own, or
not. -/
theorem accounts_isolated_plain : ∃ history shared history' shared',
    (plainSharedGateway plainVisits 2).Run (fun _ _ _ => True) history shared ∧
      (plainSharedGateway plainVisits 1).Run (fun _ _ _ => True) history' shared' ∧
      (ownTurns (.account "A2") (turns history)).length = 6 ∧
      (ownTurns (.account "A2") (turns history')).length = 2 ∧
      ownTurns (.account "A1") (turns history) = ownTurns (.account "A1") (turns history') := by
  have run : (plainSharedGateway plainVisits 2).Run (fun _ _ _ => True) _ _ :=
    .of_replay (plainSharedInputs (plainConnect "A2" ++ plainConnect "A1" ++ [plainTimer])) rfl
      (History.always_of_forall (fun _ _ => trivial) _)
  have run' : (plainSharedGateway plainVisits 1).Run (fun _ _ _ => True) _ _ :=
    .of_replay (plainSharedInputs (plainConnect "A1" ++ [plainTimer])) rfl
      (History.always_of_forall (fun _ _ => trivial) _)
  have isolated := accounts_isolated plainSetup plainLayout plainVisits "A1" _ _ _ _ _ _ run run' <|
    -- The rate limiter answers the first account the same, though it has fewer requests left.
    congrArg (fun timer => Input.mk (plainHost.only "A1") (.timer timer) :: _) <|
      Timer.only_congr (by rfl) (by rfl) (by rfl) (fun kind => by cases kind <;> rfl) (by rfl)
  exact ⟨_, _, _, _, run, run', rfl, rfl, isolated.2.2⟩

end Machine

end GateFutures.System
