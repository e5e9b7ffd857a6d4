/-
This file proves in which runs no request for a snapshot is lost.

A request is put on a queue, sent when the timer dispatches the queue, and answered by a reply. A
reply that succeeds and decodes is given to its handler. The error handlers of both kinds of
replies only log, so a reply that fails ends its request with nothing to show for it.
-/

import GateFutures.Market.Steps

namespace GateFutures.Market

open Framework Library Protocol Roq
open Gateway (RestResponse)

variable {Driver Store Queue : Type}

/-! ### Requests and replies -/

/-- The snapshot request an event answers. -/
def Event.reply : Event → List (SnapshotKind × String)
  | .orderBookReply symbol _ _ => [(.orderBook, symbol)]
  | .candlesticksReply symbol _ _ => [(.candlesticks, symbol)]
  | _ => []

/-- The snapshot request an event answers with a failure: the reply is no success, or its body
does not decode. -/
def Event.failedReply : Event → List (SnapshotKind × String)
  | .orderBookReply symbol response _ =>
    if response.decoded.isSome then [] else [(.orderBook, symbol)]
  | .candlesticksReply symbol response _ =>
    if response.decoded.isSome then [] else [(.candlesticks, symbol)]
  | _ => []

/-- A reply fails or is given to its handler. -/
theorem Event.reply_eq (event : Event) : event.reply = event.delivered ++ event.failedReply := by
  cases event with
  | orderBookReply symbol response reaction =>
    rw [reply, delivered, failedReply]
    split <;> rfl
  | candlesticksReply symbol response raises =>
    rw [reply, delivered, failedReply]
    split <;> rfl
  | _ => rfl

/-- The symbols put on a queue so far, in order. -/
def queued (kind : SnapshotKind) : MarketHistory Driver Store Queue → List String
  | [] => []
  | entry :: before => queued kind before ++ entry.output.filterMap (Output.queued? kind)

/-- The symbols a snapshot was requested of so far, in order. -/
def requested (kind : SnapshotKind) : MarketHistory Driver Store Queue → List String
  | [] => []
  | entry :: before => requested kind before ++ entry.output.filterMap (Output.requested? kind)

/-- The requests answered so far, in order. -/
def replied : MarketHistory Driver Store Queue → List (SnapshotKind × String)
  | [] => []
  | entry :: before => replied before ++ entry.input.event.reply

/-- The replies given to their handlers so far, in order. -/
def delivered : MarketHistory Driver Store Queue → List (SnapshotKind × String)
  | [] => []
  | entry :: before => delivered before ++ entry.output.filterMap Output.delivered?

/-- The requests answered with a failure so far, in order. -/
def failed : MarketHistory Driver Store Queue → List (SnapshotKind × String)
  | [] => []
  | entry :: before => failed before ++ entry.input.event.failedReply

/-- How many requests for a symbol are in flight. -/
def inFlight (kind : SnapshotKind) (symbol : String)
    (history : MarketHistory Driver Store Queue) : Nat :=
  (requested kind history).count symbol - (replied history).count (kind, symbol)

/-- The network answers only requests in flight, each once. -/
def Answers : Environment (Controller Driver Store Queue) Input (List Output) :=
  fun history _ input => ∀ request ∈ input.event.reply, 0 < inFlight request.1 request.2 history

instance (history : MarketHistory Driver Store Queue) (controller : Controller Driver Store Queue)
    (input : Input) : Decidable (Answers history controller input) :=
  inferInstanceAs (Decidable (∀ _ ∈ _, _))

/-- Every symbol put on a queue is still queued, has its request in flight, or has had a reply
given to its handler. -/
def NothingLost [LimitQueue String Queue] (history : MarketHistory Driver Store Queue)
    (controller : Controller Driver Store Queue) : Prop :=
  ∀ kind symbol, (queued kind history).count symbol =
    (LimitQueue.elements (controller.feeds.shared.queue kind)).count symbol +
      inFlight kind symbol history + (delivered history).count (kind, symbol)

/-- No reply fails. -/
def Succeeds : StepProperty (Controller Driver Store Queue) Input (List Output) :=
  fun _ entry => entry.input.event.failedReply = []

instance (history : MarketHistory Driver Store Queue) (entry : MarketEntry Driver Store Queue) :
    Decidable (Succeeds history entry) :=
  inferInstanceAs (Decidable (_ = _))

theorem failed_eq_nil {history : MarketHistory Driver Store Queue} :
    failed history = [] ↔ History.Always Succeeds history := by
  induction history with
  | nil => exact ⟨fun _ => trivial, fun _ => rfl⟩
  | cons entry before inductionHypothesis =>
    rw [failed, List.append_eq_nil_iff, inductionHypothesis, History.always_cons]
    exact And.comm

/-! ### Every request is accounted for -/

section Account

variable [Download2 Rest.State Driver] [LawfulCallbacks Rest.State Driver]
  [Symbols String Store] [LimitQueue String Queue] [LawfulLimitQueue String Queue]
  {config : Config} {history : MarketHistory Driver Store Queue}
  {controller : Controller Driver Store Queue}

/-- What was queued is what was requested followed by what is still queued. -/
theorem queued_eq {allowed : Environment (Controller Driver Store Queue) Input (List Output)}
    (run : (market config).Run allowed history controller) (kind : SnapshotKind) :
    queued kind history =
      requested kind history ++ LimitQueue.elements (controller.feeds.shared.queue kind) := by
  induction run with
  | start =>
    have empty : LimitQueue.elements (LimitQueue.empty : Queue) = [] :=
      LawfulLimitQueue.elements_empty
    cases kind <;> exact empty.symm
  | step before admitted taken inductionHypothesis =>
    rw [queued, requested, inductionHypothesis, List.append_assoc,
      (Controller.step_accounts taken).2 kind, List.append_assoc]

/-- The requests answered are those whose reply was given to its handler, and those whose reply
failed. -/
theorem count_replied {allowed : Environment (Controller Driver Store Queue) Input (List Output)}
    (run : (market config).Run allowed history controller) (request : SnapshotKind × String) :
    (replied history).count request =
      (delivered history).count request + (failed history).count request := by
  induction run with
  | start => rfl
  | step before admitted taken inductionHypothesis =>
    rw [replied, delivered, failed, (Controller.step_accounts taken).1, Event.reply_eq]
    simp only [List.count_append, inductionHypothesis]
    omega

omit [LawfulCallbacks Rest.State Driver] [LawfulLimitQueue String Queue] in
/-- No request is answered twice. -/
theorem replied_le (run : (market config).Run Answers history controller) (kind : SnapshotKind)
    (symbol : String) :
    (replied history).count (kind, symbol) ≤ (requested kind history).count symbol := by
  induction run with
  | start => exact Nat.le_refl 0
  | step before admitted taken inductionHypothesis =>
    next history controller next input output =>
    rw [replied, requested, List.count_append, List.count_append]
    dsimp only
    by_cases answered : (kind, symbol) ∈ input.event.reply
    · have flying : 0 < inFlight kind symbol history := admitted _ answered
      have single : input.event.reply.length ≤ 1 := by
        cases input.event <;> simp [Event.reply]
      have once := List.count_le_length (a := (kind, symbol)) (l := input.event.reply)
      unfold inFlight at flying
      omega
    · rw [List.count_eq_zero.mpr answered]
      omega

/-- No request for a snapshot is lost so far, in a run where the network answers requests in
flight, exactly when no reply failed so far. -/
theorem nothing_lost_iff (config : Config) (history : MarketHistory Driver Store Queue)
    (controller : Controller Driver Store Queue)
    (run : (market config).Run Answers history controller) :
    NothingLost history controller ↔ History.Always Succeeds history := by
  rw [← failed_eq_nil]
  have counted (kind : SnapshotKind) (symbol : String) :
      (queued kind history).count symbol = (requested kind history).count symbol +
        (LimitQueue.elements (controller.feeds.shared.queue kind)).count symbol := by
    rw [queued_eq run, List.count_append]
  constructor
  · intro nothingLost
    refine List.eq_nil_iff_forall_not_mem.mpr ?_
    rintro ⟨kind, symbol⟩ member
    have lost := List.count_pos_iff.mpr member
    have answered := count_replied run (kind, symbol)
    have once := replied_le run kind symbol
    have accounted := nothingLost kind symbol
    rw [counted, inFlight] at accounted
    omega
  · intro none kind symbol
    have answered := count_replied run (kind, symbol)
    have once := replied_le run kind symbol
    rw [none, List.count_nil] at answered
    rw [counted, inFlight]
    omega

end Account

/-! ### A plain run -/

/-- A client subscribes to one symbol, the gateway gets ready, an update of its order book makes
the sequencer ask for a snapshot, and the snapshot is requested and answered. -/
def plainSnapshot (response : RestResponse OrderBookAck) : List Input :=
  plainInputs [.subscribe ["BTC_USDT"], .stream 0 .ready, .restConnected,
    .contractsReply 1 (.result .success 200 (some ⟨[]⟩)) none,
    .stream 0 (.orderBookUpdate ⟨0, ⟨0, "BTC_USDT", 2, 3, [], []⟩⟩
      ⟨[.snapshot (.requestSnapshot 1)], .returned⟩),
    .timer true fun _ => 1, .orderBookReply "BTC_USDT" response ⟨[], .returned⟩]

/-- The snapshot is delivered. -/
theorem nothing_lost_plain :
    ∃ history controller, plainMarket.Run Answers history controller ∧
      (queued .orderBook history).count "BTC_USDT" = 1 ∧ NothingLost history controller := by
  have run : plainMarket.Run Answers _ _ :=
    .of_replay (plainSnapshot (.result .success 200 (some ⟨0, [], [], 3, 0⟩))) rfl (by decide)
  exact ⟨_, _, run, rfl, (nothing_lost_iff plainConfig _ _ run).mpr (by decide)⟩

/-- The server fails, and the request for the snapshot is lost: it was queued, and is neither
queued nor in flight nor delivered. -/
theorem failed_snapshot_lost :
    ∃ history controller, plainMarket.Run Answers history controller ∧
      ¬ NothingLost history controller := by
  have run : plainMarket.Run Answers _ _ :=
    .of_replay (plainSnapshot (.result .serverError 502 none)) rfl (by decide)
  refine ⟨_, _, run, fun nothingLost => ?_⟩
  exact absurd (nothingLost .orderBook "BTC_USDT") (by decide)

end GateFutures.Market
