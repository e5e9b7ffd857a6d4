/-
This file prepares what holds of the runs of the whole gateway because of how it is composed.

What one part does is a run of its machine, so whatever was proved of the streams of one account
and of the market data holds in the gateway. The order in which the maps of connections are
visited changes nothing that can be seen of any part, and an account's streams see nothing of the
events of other accounts, as long as they are answered the same: here an input has the answers of
the rate limiter that all connections share, and says which connections refresh although the
interceptor suspends requests. Where these come from is the subject of the gateway with its shared
state.
-/

import GateFutures.System.Layout

namespace GateFutures.System

open Framework Library Protocol Roq

variable {Driver Mark MarketDriver Store Queue Digest : Type}

/-- The turns of the parts. -/
abbrev Turns (Driver Mark MarketDriver Store Queue : Type) :=
  List (Turn (Part.State Driver Mark MarketDriver Store Queue) Part.Input Part.Output)

/-- The history of the gateway. -/
abbrev GatewayHistory (Driver Mark MarketDriver Store Queue : Type) :=
  History (States Driver Mark MarketDriver Store Queue) Input
    (Turns Driver Mark MarketDriver Store Queue)

/-! ### Independent calls -/

/-- A call of an account's streams depends on the market data only. -/
theorem toAccount_ignores (host : Host) (name : String) (event : Gateway.Event) {part : Part}
    (other : part ≠ .market) :
    (toAccount host name event :
      Call (Part.State Driver Mark MarketDriver Store Queue) Part.Input).Ignores part := by
  intro states next
  have same : Function.update states part next .market = states .market :=
    Function.update_of_ne (Ne.symm other) _ _
  simp only [toAccount, same]

/-- Calls of the streams of different accounts are independent. -/
theorem toAccount_independent (host : Host) {name name' : String} (other : name ≠ name')
    (event event' : Gateway.Event) :
    (toAccount host name event :
      Call (Part.State Driver Mark MarketDriver Store Queue) Part.Input).Independent
        (toAccount host name' event') := by
  refine ⟨fun same => other (Part.account.inj same), ?_, ?_⟩
  · exact toAccount_ignores host name event Part.noConfusion
  · exact toAccount_ignores host name' event' Part.noConfusion

/-! ### Calls that concern an account -/

/-- The market data and the streams of an account. -/
def near (name : String) : Part → Bool
  | .market => true
  | .throttle => false
  | .account other => other = name

/-- Whether an event can matter to the streams of an account. The events of other accounts and the
responses the interceptor sees do not, but for what timers are answered later. -/
def concerns (name : String) (input : Input) : Bool :=
  match input.event with
  | .timer _ | .subscribe _ | .market _ => true
  | .connected | .disconnected | .control _ | .massQuote | .cancelQuotes | .throttle _ => false
  | .createOrder account .. | .modifyOrder account .. | .cancelOrder account ..
  | .cancelAllOrders account .. | .account account _ => account = name

/-- A call of an account's streams depends on no other account. -/
theorem toAccount_within (host : Host) (name name' : String) (event : Gateway.Event) :
    (toAccount host name' event :
      Call (Part.State Driver Mark MarketDriver Store Queue) Part.Input).Within (near name) := by
  intro states states' agree
  simp only [toAccount, agree .market rfl]

theorem toMarket_within (host : Host) (name : String) (event : Market.Event) :
    (toMarket host event :
      Call (Part.State Driver Mark MarketDriver Store Queue) Part.Input).Within (near name) :=
  fun _ _ _ => rfl

/-- Calls of market data and of accounts depend on the market data only. -/
theorem calls_within (layout : Layout) (visits : Visits) (name : String) (input : Input) :
    ∀ call ∈ (calls layout visits input :
        List (Call (Part.State Driver Mark MarketDriver Store Queue) Part.Input)),
      near name call.part = true → call.Within (near name) := by
  have dropCopy (host : Host) (account : String) (event : Gateway.Event) :
      ∀ call ∈ (toDropCopy layout host account event :
          List (Call (Part.State Driver Mark MarketDriver Store Queue) Part.Input)),
        call.Within (near name) := by
    unfold toDropCopy
    intro call member
    split at member
    · rw [List.mem_singleton.mp member]
      exact toAccount_within host name account event
    · cases member
  obtain ⟨host, event⟩ := input
  intro call member here
  cases event with
  | timer timer =>
    rcases List.mem_append.mp member with member | member
    · rcases List.mem_cons.mp member with rfl | member
      · exact toMarket_within host name _
      · obtain ⟨entry, -, rfl⟩ := List.mem_map.mp member
        exact toAccount_within host name _ _
    · obtain ⟨entry, -, rfl⟩ := List.mem_map.mp member
      exact toAccount_within host name _ _
  | subscribe | market =>
    rw [List.mem_singleton.mp member]
    exact toMarket_within host name _
  | connected | disconnected | control | massQuote | cancelQuotes => cases member
  | createOrder | modifyOrder | cancelOrder | cancelAllOrders =>
    exact dropCopy host _ _ call member
  | throttle input =>
    rw [List.mem_singleton.mp member] at here
    cases here
  | account other event =>
    simp only [calls] at member
    split at member
    · rw [List.mem_singleton.mp member]
      exact toAccount_within host name _ _
    · cases member

/-- What a host answers about an account, and about all. -/
def Host.only (name : String) (host : Host) : Host :=
  { host with
    allStaleOrders := fun other => if other = name then host.allStaleOrders other else []
    allOrderSymbols := fun other => if other = name then host.allOrderSymbols other else [] }

/-- What a timer finds at the connections of an account, and at those of the market data. -/
def Timer.only (name : String) (timer : Timer) : Timer :=
  { timer with
    orderEntry := fun other => other = name && timer.orderEntry other
    allowed := fun other kind => other = name && timer.allowed other kind
    dropCopy := fun other => other = name && timer.dropCopy other }

/-- Two timers look the same to an account if they find the same at its connections. -/
theorem Timer.only_congr {name : String} {timer timer' : Timer} (rest : timer.rest = timer'.rest)
    (allowance : timer.allowance = timer'.allowance)
    (orderEntry : timer.orderEntry name = timer'.orderEntry name)
    (allowed : ∀ kind, timer.allowed name kind = timer'.allowed name kind)
    (dropCopy : timer.dropCopy name = timer'.dropCopy name) :
    timer.only name = timer'.only name := by
  have own {other : String} {found found' : Bool} (same : other = name → found = found') :
      (decide (other = name) && found) = (decide (other = name) && found') := by
    by_cases here : other = name
    · rw [same here]
    · simp only [here, decide_false, Bool.false_and]
  simp only [Timer.only, rest, allowance, Timer.mk.injEq, true_and]
  refine ⟨funext fun other => own ?_, funext fun other => funext fun kind => own ?_,
    funext fun other => own ?_⟩
  · exact fun here => here ▸ orderEntry
  · exact fun here => here ▸ allowed kind
  · exact fun here => here ▸ dropCopy

/-- An event, as far as it can matter to an account. -/
def Event.only (name : String) : Event → Event
  | .timer found => .timer (found.only name)
  | event => event

/-- An event and what the host answers, as the streams of an account and the market data see
them. -/
def seen (name : String) (input : Input) : Option Input :=
  if concerns name input then some ⟨input.host.only name, input.event.only name⟩ else none

theorem toAccount_only (host : Host) (name : String) (event : Gateway.Event) :
    (toAccount (host.only name) name event :
      Call (Part.State Driver Mark MarketDriver Store Queue) Part.Input) =
        toAccount host name event := by
  simp only [toAccount, Host.only, if_true]

/-- Calls of the accounts make an account's streams do the same if its own calls are the same. -/
theorem filter_near_map {Value : Type} (name : String) (entries : List (String × Value))
    (host host' : Host) (event event' : String × Value → Gateway.Event)
    (same : ∀ entry : String × Value, entry.1 = name →
      (toAccount host entry.1 (event entry) :
        Call (Part.State Driver Mark MarketDriver Store Queue) Part.Input) =
          toAccount host' entry.1 (event' entry)) :
    (entries.map fun entry => (toAccount host entry.1 (event entry) :
        Call (Part.State Driver Mark MarketDriver Store Queue) Part.Input)).filter
          (fun call => near name call.part) =
      (entries.map fun entry => toAccount host' entry.1 (event' entry)).filter
        fun call => near name call.part := by
  induction entries with
  | nil => rfl
  | cons entry later inductionHypothesis =>
    rw [List.map_cons, List.map_cons]
    by_cases own : entry.1 = name
    · have together : toAccount host entry.1 (event entry) :: (later.map fun entry =>
            (toAccount host entry.1 (event entry) : Call (Part.State Driver Mark MarketDriver Store
              Queue) Part.Input)).filter (fun call => near name call.part) =
          toAccount host' entry.1 (event' entry) :: (later.map fun entry =>
            toAccount host' entry.1 (event' entry)).filter fun call => near name call.part := by
        rw [same entry own, inductionHypothesis]
      refine (List.filter_cons_of_pos ?_).trans (together.trans (List.filter_cons_of_pos ?_).symm)
      · exact decide_eq_true own
      · exact decide_eq_true own
    · refine (List.filter_cons_of_neg ?_).trans
        (inductionHypothesis.trans (List.filter_cons_of_neg ?_).symm)
      · simpa [toAccount, near] using own
      · simpa [toAccount, near] using own

/-- An event makes the market data and the account's streams do what it makes them do as they see
it. -/
theorem calls_seen (layout : Layout) (visits : Visits) (name : String) (input : Input) :
    (calls layout visits input : List (Call (Part.State Driver Mark MarketDriver Store Queue)
        Part.Input)).filter (fun call => near name call.part) =
      ((seen name input).elim [] (calls layout visits)).filter
        fun call => near name call.part := by
  have dropCopy (host : Host) (account : String) (event : Gateway.Event) :
      (toDropCopy layout host account event : List (Call (Part.State Driver Mark MarketDriver
          Store Queue) Part.Input)).filter (fun call => near name call.part) =
        ((if account = name then some (toDropCopy layout (host.only name) account event)
          else none).elim [] id).filter fun call => near name call.part := by
    unfold toDropCopy
    by_cases own : account = name
    · subst own
      rw [if_pos rfl, toAccount_only]
      rfl
    · rw [if_neg own]
      split
      · exact List.filter_cons_of_neg (by simpa [toAccount, near] using own)
      · rfl
  obtain ⟨host, event⟩ := input
  cases event with
  | timer timer =>
    show (dispatchTimer layout visits host timer).filter _ =
      (dispatchTimer layout visits (host.only name) (timer.only name)).filter _
    unfold dispatchTimer
    rw [List.filter_append, List.filter_append]
    refine congrArg₂ (· ++ ·) (congrArg (toMarket host _ :: ·) ?_) ?_
    · refine filter_near_map name _ host (host.only name) _ _ fun entry own => ?_
      subst own
      rw [toAccount_only]
      simp only [Timer.only, decide_true, Bool.true_and]
    · refine filter_near_map name _ host (host.only name) _ _ fun entry own => ?_
      subst own
      rw [toAccount_only]
      simp only [Timer.only, decide_true, Bool.true_and]
  | subscribe | market => rfl
  | connected | disconnected | control | massQuote | cancelQuotes => rfl
  | createOrder account | modifyOrder account | cancelOrder account | cancelAllOrders account =>
    refine (dropCopy host account _).trans ?_
    rw [seen, concerns]
    by_cases own : account = name
    · rw [if_pos own, if_pos (decide_eq_true own)]
      rfl
    · rw [if_neg own, if_neg (by simpa using own)]
      rfl
  | throttle event =>
    exact List.filter_cons_of_neg Bool.false_ne_true
  | account other event =>
    rw [seen, concerns]
    by_cases own : other = name
    · subst own
      rw [if_pos (decide_eq_true rfl)]
      simp only [Option.elim_some, calls, Event.only, toAccount_only]
    · rw [if_neg (by simpa using own)]
      simp only [calls]
      split
      · exact List.filter_cons_of_neg (by simpa [toAccount, near] using own)
      · rfl

/-- Whether an event of an account's streams is an order action. -/
def isAction : Gateway.Event → Bool
  | .createOrder .. | .modifyOrder .. | .cancelOrder .. | .cancelAllOrders .. => true
  | _ => false

theorem not_isAction {event : Gateway.Event} (connected : fromConnection event = true) :
    isAction event = false := by
  cases event <;> first | rfl | cases connected

/-- The account that an order action names. -/
def orderAccount : Event → Option String
  | .createOrder account .. | .modifyOrder account .. | .cancelOrder account ..
  | .cancelAllOrders account .. => some account
  | _ => none

/-- A call is one of the market data, one of the interceptor, or one of an account's streams, which
are given the cached coins, and order actions only of order actions. -/
theorem calls_account (layout : Layout) (visits : Visits) (input : Input) :
    ∀ call ∈ (calls layout visits input :
        List (Call (Part.State Driver Mark MarketDriver Store Queue) Part.Input)),
      call.part = .market ∨ call.part = .throttle ∨
        ∃ name event, call = toAccount input.host name event ∧
          (orderAccount input.event = none → isAction event = false) := by
  have dropCopy (host : Host) (account : String) (action : Gateway.Event) :
      ∀ call ∈ (toDropCopy layout host account action :
          List (Call (Part.State Driver Mark MarketDriver Store Queue) Part.Input)),
        call.part = .market ∨ call.part = .throttle ∨
          ∃ name event, call = toAccount host name event ∧
            (some account = none → isAction event = false) := by
    unfold toDropCopy
    intro call member
    split at member
    · exact Or.inr (Or.inr ⟨account, action, List.mem_singleton.mp member, nofun⟩)
    · cases member
  obtain ⟨host, event⟩ := input
  intro call member
  cases event with
  | timer timer =>
    rcases List.mem_append.mp member with member | member
    · rcases List.mem_cons.mp member with rfl | member
      · exact Or.inl rfl
      · obtain ⟨entry, -, rfl⟩ := List.mem_map.mp member
        exact Or.inr (Or.inr ⟨_, _, rfl, fun _ => rfl⟩)
    · obtain ⟨entry, -, rfl⟩ := List.mem_map.mp member
      exact Or.inr (Or.inr ⟨_, _, rfl, fun _ => rfl⟩)
  | subscribe | market =>
    rw [List.mem_singleton.mp member]
    exact Or.inl rfl
  | connected | disconnected | control | massQuote | cancelQuotes => cases member
  | createOrder | modifyOrder | cancelOrder | cancelAllOrders => exact dropCopy host _ _ call member
  | throttle input =>
    rw [List.mem_singleton.mp member]
    exact Or.inr (Or.inl rfl)
  | account name event =>
    simp only [calls] at member
    split at member
    · exact Or.inr (Or.inr ⟨_, _, List.mem_singleton.mp member, fun _ => not_isAction event.2⟩)
    · cases member

variable [Download2 Gateway.DropCopy.State Driver] [LimitRequest Mark]
  [Download2 Market.Rest.State MarketDriver] [Symbols String Store] [LimitQueue String Queue]

/-! ### A plain gateway -/

/-- A host that reports nothing stale and discards nothing. -/
def plainHost : Host where
  traceInfo := ⟨1000000000, 1000000000⟩
  now := 0
  allStaleOrders _ := []
  allOrderSymbols _ := []
  discardSymbol _ := false
  multiplier _ _ := .number 1

/-- A timer that lets everything through. -/
def plainTimer : Event :=
  .timer ⟨true, fun _ => 10, fun _ => true, fun _ _ => true, fun _ => true⟩

/-- An account gets connected, logs in, and has its balances subscribed to. -/
def plainConnect (name : String) : List Event :=
  [.account name ⟨.orderEntryConnected, rfl⟩, .account name ⟨.ready, rfl⟩,
    .account name ⟨.tradeLogin ⟨⟨0, 200⟩, 1⟩, rfl⟩,
    .account name ⟨.tradeSubscribe ⟨.balances, .success⟩, rfl⟩]

/-- Events of the plain host. -/
def plainInputs (events : List Event) : List Input := events.map fun event => ⟨plainHost, event⟩

/-- The gateway over plain drivers. -/
abbrev plainGateway (visits : Visits) :
    Machine (States (PlainDownload Gateway.DropCopy.State) PlainRequest
        (PlainDownload Market.Rest.State) (PlainSymbols String) (PlainQueue String)) Input
      (Turns (PlainDownload Gateway.DropCopy.State) PlainRequest
        (PlainDownload Market.Rest.State) (PlainSymbols String) (PlainQueue String))
      (Σ part : Part, part.Failure) :=
  gateway plainSetup plainLayout visits

/-- Maps of connections are visited from the end. -/
def backwardVisits : Visits :=
  let backwards : Iteration String := ⟨List.reverse, List.reverse_perm⟩
  { plainVisits with orderEntry := backwards, dropCopy := backwards }

/-! ### Orders of visits -/

/-- Timers may reach the connections of a map in any order. -/
theorem visit_agrees {Value : Type} (setup : Setup Digest) (layout : Layout)
    (registry : Registry String Value) (first second : Iteration String) (host : Host)
    (event : String × Value → Gateway.Event)
    (turns : Turns Driver Mark MarketDriver Store Queue)
    (states : States Driver Mark MarketDriver Store Queue) :
    Agrees
      ((parts setup layout).perform ((first.visit registry.entries).map fun entry =>
        toAccount host entry.1 (event entry)) turns states)
      ((parts setup layout).perform ((second.visit registry.entries).map fun entry =>
        toAccount host entry.1 (event entry)) turns states) := by
  have permutation :=
    (first.permutes registry.entries).trans (second.permutes registry.entries).symm
  refine Agrees.of_perm _ (permutation.map _) (List.pairwise_map.mpr ?_) turns states
  have distinct : ((first.visit registry.entries).map Prod.fst).Nodup :=
    ((first.permutes registry.entries).map Prod.fst).nodup_iff.mpr registry.distinct
  exact (List.pairwise_map.mp distinct).imp fun other =>
    toAccount_independent host other _ _

/-- An event makes the parts do the same, in whatever orders the maps of connections are
visited. -/
theorem calls_agree (setup : Setup Digest) (layout : Layout) (visits visits' : Visits)
    (input : Input) (turns : Turns Driver Mark MarketDriver Store Queue)
    (states : States Driver Mark MarketDriver Store Queue) :
    Agrees ((parts setup layout).perform (calls layout visits input) turns states)
      ((parts setup layout).perform (calls layout visits' input) turns states) := by
  obtain ⟨host, event⟩ := input
  cases event with
  | timer timer =>
    refine Agrees.append (.append (fun turns states => .refl _ [_] turns states) ?_) ?_ turns states
    · exact visit_agrees setup layout layout.orderEntry visits.orderEntry visits'.orderEntry host
        fun entry => .orderEntryTimer (timer.orderEntry entry.1) (timer.allowed entry.1)
    · exact visit_agrees setup layout layout.dropCopy visits.dropCopy visits'.dropCopy host
        fun entry => .timer (timer.dropCopy entry.1)
  | _ => exact .refl _ _ turns states

end GateFutures.System
