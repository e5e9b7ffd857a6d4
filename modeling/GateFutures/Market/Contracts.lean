/-
This file proves in which runs a failed download of the contracts loses no symbol.

The loop over the contracts records every new symbol as known when it comes to it, and hands the
new symbols to the controller after the last contract. An exception on the way is caught by
`process_response`, which retries the download. The retry does not hand over what the failed
attempt recorded: those symbols are known by then.
-/

import GateFutures.Market.Frames
import GateFutures.Market.Steps

namespace GateFutures.Market

open Framework Library Protocol Roq
open Gateway (RestResponse)

variable {Driver Store Queue : Type}

/-! ### Early failures -/

/-- The failure is early: it is not the construction of a new symbol, and the contracts before it
are discarded or known. -/
def Rest.ContractsFailure.Early (failure : Rest.ContractsFailure) (discard : String → Bool)
    (known : List String) (items : List ContractsAckItem) : Prop :=
  failure.call ≠ .constructSymbol ∧
    ∀ item ∈ items.take failure.position, discard item.name = false → item.name ∈ known

/-- An early failure is one before anything is recorded. -/
theorem Rest.ContractsFailure.early_iff {failure : Rest.ContractsFailure}
    {discard : String → Bool} {known : List String} {items : List ContractsAckItem}
    (reached : failure.Reached discard known items) :
    failure.Early discard known items ↔
      newContracts discard known (items.take failure.done) = [] := by
  have before : newContracts discard known (items.take failure.position) = [] ↔
      ∀ item ∈ items.take failure.position, discard item.name = false → item.name ∈ known := by
    rw [newContracts, newSymbols_eq_nil]
    constructor
    · intro recorded item member kept
      exact recorded item.name (mem_wanted.mpr ⟨item, member, rfl, kept⟩)
    · intro recorded name member
      obtain ⟨item, listed, rfl, kept⟩ := mem_wanted.mp member
      exact recorded item listed kept
  rw [Early, done]
  by_cases constructs : failure.call = .constructSymbol
  · obtain ⟨item, there, reached⟩ := reached
    rw [constructs] at reached
    obtain ⟨kept, unknown⟩ := reached
    have last : items.take (failure.position + 1) = items.take failure.position ++ [item] := by
      rw [List.take_add_one, there]
      rfl
    have recorded : newContracts discard known (items.take (failure.position + 1)) ≠ [] := by
      rw [last, newContracts, wanted_append, newSymbols_append]
      intro none
      have single := (List.append_eq_nil_iff.mp none).2
      rw [← newContracts, newContracts_kept kept, if_neg unknown] at single
      cases single
    rw [if_pos constructs]
    exact ⟨fun early => absurd constructs early.1, fun none => absurd none recorded⟩
  · rw [if_neg constructs, before]
    exact ⟨fun early => early.2, fun known => ⟨constructs, known⟩⟩

section Handed

variable [Download2 Rest.State Driver]

/-- A contracts reply that fails while it is processed fails early. -/
def Controller.FailsEarly (controller : Controller Driver Store Queue) (context : Context) :
    Event → Prop
  | .contractsReply sequence response (some failure) =>
    ∀ message, controller.Processes sequence response message →
      controller.Fails context message failure →
      failure.Early context.discardSymbol controller.feeds.shared.allSymbols message.data
  | _ => True

/-- No contracts reply fails late. -/
def FailsEarly : StepProperty (Controller Driver Store Queue) Input (List Output) :=
  fun _ entry => entry.before.FailsEarly entry.input.context entry.input.event

/-- The symbols handed to the controller so far. -/
def handed : MarketHistory Driver Store Queue → List String
  | [] => []
  | entry :: before => handed before ++ entry.output.flatMap Output.handed

/-- A contracts reply processed without failure leaves every symbol of its list that is not
discarded handed to the controller. -/
def Completes : StepProperty (Controller Driver Store Queue) Input (List Output) :=
  fun before entry => match entry.input.event with
  | .contractsReply sequence response failure =>
    ∀ message, entry.before.Processes sequence response message →
      (∀ raising, failure = some raising →
        ¬ entry.before.Fails entry.input.context message raising) →
      ∀ item ∈ message.data, entry.input.context.discardSymbol item.name = false →
        item.name ∈ handed (entry :: before)
  | _ => True

/-- Only symbols that were handed to the controller are known. -/
def AllHanded (history : MarketHistory Driver Store Queue)
    (controller : Controller Driver Store Queue) : Prop :=
  ∀ symbol ∈ controller.feeds.shared.allSymbols, symbol ∈ handed history

instance (history : MarketHistory Driver Store Queue) (controller : Controller Driver Store Queue) :
    Decidable (AllHanded history controller) :=
  inferInstanceAs (Decidable (∀ _ ∈ _, _))

end Handed

/-! ### What a step hands over -/

/-- New symbols were recorded, and the given ones were handed to the controller. -/
structure Feeds.Hands (recorded handed : List String) (before after : Feeds Store Queue) :
    Prop where
  tells : ∃ sent, before.Tells handed sent after
  allSymbols : after.shared.allSymbols = before.shared.allSymbols ++ recorded
  unknown : ∀ symbol ∈ recorded, symbol ∉ before.shared.allSymbols

namespace Feeds.Hands

variable {first second third : Feeds Store Queue} {recorded handed : List String}

theorem of_tells {sent : Nat → String → List String} (tells : first.Tells [] sent second)
    (allSymbols : second.shared.allSymbols = first.shared.allSymbols) :
    first.Hands [] [] second :=
  ⟨⟨sent, tells⟩, allSymbols.trans (List.append_nil _).symm, List.forall_mem_nil _⟩

theorem of_records (records : first.Records recorded second)
    (unknown : ∀ symbol ∈ recorded, symbol ∉ first.shared.allSymbols) :
    first.Hands recorded [] second :=
  ⟨⟨nothing, .of_records records⟩, records.allSymbols, unknown⟩

/-- Handing over what was recorded before. -/
theorem update [Symbols String Store] {config : Config} {given : List String}
    (hands : first.Hands recorded [] second) (updates : second.Updates config given third) :
    first.Hands recorded given third := by
  obtain ⟨sent, tells⟩ := hands.tells
  exact ⟨⟨_, tells.trans updates.tells⟩, updates.allSymbols.trans hands.allSymbols, hands.unknown⟩

theorem publish (hands : first.Hands recorded handed second)
    (publishes : second.Publishes third) : first.Hands recorded handed third := by
  obtain ⟨sent, tells⟩ := hands.tells
  have later : second.Tells [] nothing third := .of_records (.of_publishes publishes)
  refine ⟨⟨_, List.append_nil handed ▸ tells.trans later⟩, ?_, hands.unknown⟩
  exact publishes.allSymbols.trans hands.allSymbols

end Feeds.Hands

section Steps

theorem Controller.newContracts_unknown {controller : Controller Driver Store Queue}
    {context : Context} (items : List ContractsAckItem) :
    ∀ symbol ∈ controller.newContracts context items,
      symbol ∉ controller.feeds.shared.allSymbols :=
  fun _ member => (mem_newSymbols.mp member).2

variable [Download2 Rest.State Driver] [LawfulCallbacks Rest.State Driver]
  [Symbols String Store] [LimitQueue String Queue] [LawfulLimitQueue String Queue]
  {config : Config} {context : Context} {controller next : Controller Driver Store Queue}

theorem subscribe_hands (symbols : List String) (feeds : Feeds Store Queue) :
    feeds.Hands (newSymbols feeds.shared.allSymbols symbols)
      (newSymbols feeds.shared.allSymbols symbols) (subscribe config context symbols feeds) := by
  have recorded : feeds.Records (newSymbols feeds.shared.allSymbols symbols)
      { feeds with shared.allSymbols :=
          feeds.shared.allSymbols ++ newSymbols feeds.shared.allSymbols symbols } :=
    ⟨⟨[], (List.append_nil _).symm, List.forall_mem_nil _⟩, rfl, rfl, rfl⟩
  rw [subscribe_eq]
  exact (Feeds.Hands.of_records recorded fun _ member => (mem_newSymbols.mp member).2).update
    (symbolsUpdate_updates config context _ _)

theorem Controller.getContractsAck_hands {sequence : UInt32}
    {response : RestResponse ContractsAck} {failure : Option Rest.ContractsFailure}
    (handled : controller.getContractsAck config context sequence response failure = .ok next) :
    (controller.FailsEarly context (.contractsReply sequence response failure) ∧
        ∃ recorded, controller.feeds.Hands recorded recorded next.feeds) ∨
      (¬ controller.FailsEarly context (.contractsReply sequence response failure) ∧
        ∃ recorded, recorded ≠ [] ∧ controller.feeds.Hands recorded [] next.feeds) := by
  have notLate (none : ∀ raising message, failure = some raising →
      controller.Processes sequence response message →
      ¬ controller.Fails context message raising) :
      controller.FailsEarly context (.contractsReply sequence response failure) := by
    cases failure with
    | none => trivial
    | some raising =>
      intro message processes fails
      exact absurd fails (none raising message rfl processes)
  have only {first second : ContractsAck}
      (processes : controller.Processes sequence response first)
      (processes' : controller.Processes sequence response second) : first = second :=
    Option.some.inj (processes.1.symm.trans processes'.1)
  rcases getContractsAck_cases handled with ⟨idle, published⟩ |
    ⟨message, middle, processes, finished, -, records, published⟩ |
    ⟨message, raising, processes, rfl, fails, -, records⟩
  · exact Or.inl ⟨notLate fun _ message _ processes => absurd processes (idle message), [],
      (Feeds.Hands.of_records (.refl _) (List.forall_mem_nil _)).publish published⟩
  · refine Or.inl ⟨notLate fun raising message' raises processes' => ?_,
      controller.newContracts context message.data, ?_⟩
    · exact only processes processes' ▸ finished raising raises
    · have recorded := Feeds.Hands.of_records records (newContracts_unknown message.data)
      split at published
      next =>
        exact (recorded.update (symbolsUpdate_updates config context _ middle)).publish published
      next none =>
        rw [not_not] at none
        rw [none] at recorded ⊢
        exact recorded.publish published
  · have early : controller.FailsEarly context
        (.contractsReply sequence response (some raising)) ↔
        controller.newContracts context (message.data.take raising.done) = [] := by
      refine Iff.trans ?_ (Rest.ContractsFailure.early_iff fails)
      constructor
      · exact fun each => each message processes fails
      · intro early message' processes' fails'
        exact only processes processes' ▸ early
    have recorded := Feeds.Hands.of_records records (newContracts_unknown _)
    by_cases none : controller.newContracts context (message.data.take raising.done) = []
    · rw [none] at recorded
      exact Or.inl ⟨early.mpr none, [], recorded⟩
    · exact Or.inr ⟨fun each => none (early.mp each), _, none, recorded⟩

/-- A step hands over what it records, unless a contracts reply fails late: then it records
something, and hands over nothing. -/
theorem Controller.handle_hands {event : Event}
    (handled : controller.handle config context event = .ok next) :
    (controller.FailsEarly context event ∧
        ∃ recorded, controller.feeds.Hands recorded recorded next.feeds) ∨
      (¬ controller.FailsEarly context event ∧
        ∃ recorded, recorded ≠ [] ∧ controller.feeds.Hands recorded [] next.feeds) := by
  cases handles handled with
  | serves service serves =>
    refine Or.inl ⟨?_, [], .of_records serves.records (List.forall_mem_nil _)⟩
    cases event with
    | contractsReply => cases service
    | _ => trivial
  | subscribes symbols => exact Or.inl ⟨trivial, _, subscribe_hands symbols controller.feeds⟩
  | replies handled => exact getContractsAck_hands handled
  | @disconnects position stream there =>
    exact Or.inl ⟨trivial, [], .of_tells
      (MarketData.setConnectionStatus_tells position .disconnected stream _) rfl⟩
  | @connects position stream there =>
    have sends := MarketData.socketReady_sends config context position stream controller.feeds
    exact Or.inl ⟨trivial, [], .of_tells
      ((MarketData.setConnectionStatus_tells position .ready stream _).trans sends.tells)
      sends.allSymbols⟩
  | ignores event absent =>
    exact Or.inl ⟨trivial, [], .of_records (.refl _) (List.forall_mem_nil _)⟩

/-- What a step hands over, in terms of its output. -/
theorem Controller.step_hands {input : Input} {output : List Output}
    (taken : controller.step config input = .ok (next, output)) :
    ∃ recorded, next.feeds.shared.allSymbols = controller.feeds.shared.allSymbols ++ recorded ∧
      (∀ symbol ∈ recorded, symbol ∉ controller.feeds.shared.allSymbols) ∧
      (controller.FailsEarly input.context input.event ∧ output.flatMap Output.handed = recorded ∨
        ¬ controller.FailsEarly input.context input.event ∧ recorded ≠ [] ∧
          output.flatMap Output.handed = []) := by
  obtain ⟨handled, rfl⟩ := step_ok taken
  rcases handle_hands handled with ⟨early, recorded, hands⟩ | ⟨late, recorded, some, hands⟩
  · obtain ⟨sent, outputs, grown, handed, -⟩ := hands.tells
    have all : next.feeds.outbox = outputs := grown
    exact ⟨recorded, hands.allSymbols, hands.unknown, Or.inl ⟨early, all ▸ handed⟩⟩
  · obtain ⟨sent, outputs, grown, handed, -⟩ := hands.tells
    have all : next.feeds.outbox = outputs := grown
    exact ⟨recorded, hands.allSymbols, hands.unknown, Or.inr ⟨late, some, all ▸ handed⟩⟩

end Steps

/-! ### Runs -/

section Runs

variable [Download2 Rest.State Driver] [LawfulCallbacks Rest.State Driver]
  [Symbols String Store] [LimitQueue String Queue] [LawfulLimitQueue String Queue]
  {config : Config} {history : MarketHistory Driver Store Queue}
  {controller : Controller Driver Store Queue}
  {allowed : Environment (Controller Driver Store Queue) Input (List Output)}

/-- A symbol handed to the controller is known. -/
theorem handed_known (run : (market config).Run allowed history controller) :
    ∀ symbol ∈ handed history, symbol ∈ controller.feeds.shared.allSymbols := by
  induction run with
  | start => exact List.forall_mem_nil _
  | step before admitted taken inductionHypothesis =>
    obtain ⟨recorded, grown, -, given⟩ := Controller.step_hands taken
    intro symbol member
    rw [grown, List.mem_append]
    rcases List.mem_append.mp member with earlier | now
    · exact Or.inl (inductionHypothesis symbol earlier)
    · rcases given with ⟨-, given⟩ | ⟨-, -, given⟩
      · exact Or.inr (given ▸ now)
      · rw [given] at now
        cases now

/-- Every known symbol was handed to the controller exactly when no contracts reply failed
late. -/
theorem allHanded_iff (run : (market config).Run allowed history controller) :
    AllHanded history controller ↔ History.Always FailsEarly history := by
  induction run with
  | start => exact ⟨fun _ => trivial, fun _ => List.forall_mem_nil _⟩
  | step before admitted taken inductionHypothesis =>
    next history controller next input output =>
    have known := handed_known before
    obtain ⟨recorded, grown, unknown, given⟩ := Controller.step_hands taken
    rw [History.always_cons, ← inductionHypothesis]
    constructor
    · intro allHanded
      rcases given with ⟨early, given⟩ | ⟨-, some, given⟩
      · refine ⟨early, fun symbol member => ?_⟩
        have later := allHanded symbol (grown ▸ List.mem_append_left recorded member)
        rcases List.mem_append.mp later with earlier | now
        · exact earlier
        · rw [given] at now
          exact absurd member (unknown symbol now)
      · obtain ⟨symbol, member⟩ := List.exists_mem_of_ne_nil recorded some
        have later := allHanded symbol (grown ▸ List.mem_append_right _ member)
        rw [handed, given, List.append_nil] at later
        exact absurd (known symbol later) (unknown symbol member)
    · rintro ⟨early, allHanded⟩ symbol member
      rw [grown, List.mem_append] at member
      rcases given with ⟨-, given⟩ | ⟨late, -⟩
      · rw [handed, given, List.mem_append]
        exact member.imp (allHanded symbol) id
      · exact absurd early late

/-- Processing a reply without failure makes every symbol of its list that is not discarded
known. -/
theorem Controller.contracts_known {next : Controller Driver Store Queue} {context : Context}
    {sequence : UInt32} {response : RestResponse ContractsAck}
    {failure : Option Rest.ContractsFailure} {message : ContractsAck}
    (handled : controller.getContractsAck config context sequence response failure = .ok next)
    (processes : controller.Processes sequence response message)
    (finishes : ∀ raising, failure = some raising → ¬ controller.Fails context message raising)
    {item : ContractsAckItem} (member : item ∈ message.data)
    (kept : context.discardSymbol item.name = false) :
    item.name ∈ next.feeds.shared.allSymbols := by
  rcases getContractsAck_cases handled with ⟨idle, -⟩ |
    ⟨message', middle, processes', -, -, records, published⟩ |
    ⟨message', raising, processes', rfl, fails, -⟩
  · exact absurd processes (idle message)
  · obtain rfl : message = message' := Option.some.inj (processes.1.symm.trans processes'.1)
    have updated : (if controller.newContracts context message.data ≠ [] then
        symbolsUpdate config context (controller.newContracts context message.data) middle
        else middle).shared.allSymbols = middle.shared.allSymbols := by
      split
      · exact (symbolsUpdate_updates config context _ middle).allSymbols
      · rfl
    rw [published.allSymbols, updated, records.allSymbols, List.mem_append]
    by_cases known : item.name ∈ controller.feeds.shared.allSymbols
    · exact Or.inl known
    · exact Or.inr (mem_newSymbols.mpr ⟨mem_wanted.mpr ⟨item, member, rfl, kept⟩, known⟩)
  · obtain rfl : message = message' := Option.some.inj (processes.1.symm.trans processes'.1)
    exact absurd fails (finishes raising rfl)

/-- Every known symbol was handed to the controller exactly when no contracts reply failed late.
Then every contracts reply processed without failure left all symbols of its list that are not
discarded handed to the controller. -/
theorem contracts_handed_iff (config : Config)
    (allowed : Environment (Controller Driver Store Queue) Input (List Output))
    (history : MarketHistory Driver Store Queue) (controller : Controller Driver Store Queue)
    (run : (market config).Run allowed history controller) :
    (AllHanded history controller ↔ History.Always FailsEarly history) ∧
      (History.Always FailsEarly history → History.Always Completes history) := by
  refine ⟨allHanded_iff run, fun early => ?_⟩
  induction run with
  | start => trivial
  | step before admitted taken inductionHypothesis =>
    next history controller next input output =>
    have allHanded := (allHanded_iff (.step before admitted taken)).mpr early
    refine ⟨?_, inductionHypothesis early.2⟩
    obtain ⟨context, event⟩ := input
    cases event with
    | contractsReply sequence response failure =>
      intro message processes finishes item member kept
      exact allHanded item.name (Controller.contracts_known (Controller.step_ok taken).1 processes
        finishes member kept)
    | _ => trivial

end Runs

/-! ### A plain run -/

/-- The gateway connects, and its first two downloads of the contracts are answered: the first
attempt with the given failure, the retry without. -/
def plainDownloads (failure : Rest.ContractsFailure) : List Input :=
  let message := .result .success 200
    (some ⟨[plainContract "BTC_USDT", plainContract "ETH_USDT"]⟩)
  plainInputs [.restConnected, .contractsReply 1 message (some failure),
    .contractsReply 2 message none]

/-- The first contract fails, and the retry hands over both. -/
theorem contracts_handed_plain :
    ∃ history controller, plainMarket.Run (fun _ _ _ => True) history controller ∧
      handed history = ["BTC_USDT", "ETH_USDT"] ∧ AllHanded history controller ∧
      History.Always Completes history := by
  have run : plainMarket.Run (fun _ _ _ => True) _ _ :=
    .of_replay (plainDownloads ⟨0, .dispatch⟩) rfl (by decide)
  have early := (contracts_handed_iff plainConfig _ _ _ run).1.mp (by decide)
  exact ⟨_, _, run, rfl, by decide, (contracts_handed_iff plainConfig _ _ _ run).2 early⟩

/-- The second contract fails: the first symbol is known, and not handed to the controller, and the
retry hands over only the second. -/
theorem failed_contracts_lose_symbol :
    ∃ history controller, plainMarket.Run (fun _ _ _ => True) history controller ∧
      handed history = ["ETH_USDT"] ∧ ¬ AllHanded history controller ∧
      ¬ History.Always Completes history := by
  have run : plainMarket.Run (fun _ _ _ => True) _ _ :=
    .of_replay (plainDownloads ⟨1, .dispatch⟩) rfl (by decide)
  refine ⟨_, _, run, rfl, by decide, fun always => ?_⟩
  have lost := always.1 _ ⟨rfl, rfl⟩ (by rintro _ ⟨⟩) (plainContract "BTC_USDT") (by simp) rfl
  exact absurd lost (by decide)

end GateFutures.Market
