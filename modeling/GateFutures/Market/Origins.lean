/-
This file proves that the gateway subscribes only to what was asked for.

A symbol gets into the list of symbols only where a client subscribes to it, or where a contract of
its name is downloaded that the host does not discard. A connection subscribes only to symbols of
the list. So every symbol in a frame goes back to such an event, also in runs in which contracts
fail half-way.
-/

import GateFutures.Market.Subscriptions

namespace GateFutures.Market

open Framework Library Protocol Roq

variable {Driver Store Queue : Type}

/-! ### What is asked for -/

/-- An event asks for a symbol: a client subscribes to it, or a contract is downloaded that the host
does not discard. -/
def Input.AsksFor (input : Input) (symbol : String) : Prop :=
  match input.event with
  | .subscribe symbols => symbol ∈ symbols
  | .contractsReply _ response _ => ∃ message ∈ response.decoded,
      symbol ∈ wanted input.context.discardSymbol message.data
  | _ => False

instance (input : Input) (symbol : String) : Decidable (input.AsksFor symbol) := by
  unfold Input.AsksFor
  split <;> infer_instance

/-- A symbol was asked for. -/
def Asked (history : MarketHistory Driver Store Queue) (symbol : String) : Prop :=
  ∃ entry ∈ history, entry.input.AsksFor symbol

/-- A symbol that a connection is subscribed to was asked for before. -/
def SubscribesToAsked : StepProperty (Controller Driver Store Queue) Input (List Output) :=
  fun history entry => ∀ index channel,
    ∀ symbol ∈ entry.output.flatMap (Output.subscribed index channel),
      Asked (entry :: history) symbol

/-! ### What a step brings -/

section Steps

variable [Symbols String Store]

/-- The list of symbols grew by no more than the given ones, and connections were subscribed to
symbols of the list only. -/
structure Feeds.Brings (given : List String) (before after : Feeds Store Queue) : Prop where
  tells : ∃ handed sent, before.Tells handed sent after ∧
    ∀ index channel, sent index channel ⊆ Symbols.contents after.shared.symbols
  contents : Symbols.contents after.shared.symbols ⊆
    Symbols.contents before.shared.symbols ++ given

namespace Feeds.Brings

variable {first second third : Feeds Store Queue} {given : List String}

/-- Nothing is subscribed to, and the list stays. -/
theorem of_tells {handed : List String} (tells : first.Tells handed nothing second)
    (symbols : second.shared.symbols = first.shared.symbols) : first.Brings [] second := by
  refine ⟨⟨handed, nothing, tells, fun _ _ => List.nil_subset _⟩, ?_⟩
  rw [symbols, List.append_nil]
  exact List.Subset.refl _

theorem of_records {recorded : List String} (records : first.Records recorded second) :
    first.Brings [] second :=
  of_tells (.of_records records) records.symbols

variable [LawfulSymbols String Store]

/-- A slice is of the list. -/
theorem slice_subset (store : Store) (index startFrom : Nat) :
    Symbols.getSlice store index startFrom ⊆ Symbols.contents store := by
  rw [LawfulSymbols.getSlice_eq]
  exact ((List.drop_sublist _ _).trans (List.take_sublist _ _)).subset

/-- The given symbols are appended, and connections subscribe to new parts of their slices. -/
theorem update {config : Config} {recorded : List String} (records : first.Records recorded second)
    (updates : second.Updates config given third) : first.Brings given third := by
  refine ⟨⟨_, _, (Feeds.Tells.of_records records).trans updates.tells, ?_⟩, ?_⟩
  · intro index channel symbol member
    obtain ⟨stream, -, subscribes⟩ := List.mem_flatMap.mp member
    rw [subscribedOn] at subscribes
    split at subscribes
    · rw [MarketData.slice] at subscribes
      split at subscribes
      · exact slice_subset _ _ _ subscribes
      · cases subscribes
    · cases subscribes
  · rw [updates.symbols, LawfulSymbols.contents_append, records.symbols]
    exact List.Subset.refl _

omit [LawfulSymbols String Store] in
theorem publish (brings : first.Brings given second) (publishes : second.Publishes third) :
    first.Brings given third := by
  obtain ⟨⟨handed, sent, tells, listed⟩, contents⟩ := brings
  have later : second.Records [] third := .of_publishes publishes
  have all := tells.trans (.of_records later)
  simp only [List.append_nil] at all
  exact ⟨⟨handed, sent, all, later.symbols ▸ listed⟩, later.symbols ▸ contents⟩

end Feeds.Brings

variable [LawfulSymbols String Store] [LimitQueue String Queue] [LawfulLimitQueue String Queue]

theorem subscribe_brings (config : Config) (context : Context) (symbols : List String)
    (feeds : Feeds Store Queue) :
    feeds.Brings (newSymbols feeds.shared.allSymbols symbols)
      (subscribe config context symbols feeds) := by
  have recorded : feeds.Records (newSymbols feeds.shared.allSymbols symbols)
      { feeds with shared.allSymbols :=
          feeds.shared.allSymbols ++ newSymbols feeds.shared.allSymbols symbols } :=
    ⟨⟨[], (List.append_nil _).symm, List.forall_mem_nil _⟩, rfl, rfl, rfl⟩
  rw [subscribe_eq]
  exact .update recorded (symbolsUpdate_updates config context _ _)

variable [Download2 Rest.State Driver] [LawfulCallbacks Rest.State Driver]
  {config : Config} {controller next : Controller Driver Store Queue}

/-- A handler brings what its event asks for. -/
theorem Controller.handle_brings {input : Input}
    (handled : controller.handle config input.context input.event = .ok next) :
    ∃ given, controller.feeds.Brings given next.feeds ∧
      ∀ symbol ∈ given, input.AsksFor symbol := by
  obtain ⟨context, event⟩ := input
  cases handles handled with
  | serves service serves => exact ⟨[], .of_records serves.records, List.forall_mem_nil _⟩
  | subscribes symbols =>
    exact ⟨_, subscribe_brings config context symbols controller.feeds, fun symbol member =>
      (mem_newSymbols.mp member).1⟩
  | replies handled =>
    rcases getContractsAck_cases handled with ⟨-, published⟩ |
      ⟨message, middle, processes, -, -, records, published⟩ |
      ⟨message, raising, -, -, -, -, records⟩
    · exact ⟨[], .of_records (.of_publishes published), List.forall_mem_nil _⟩
    · split at published
      next =>
        refine ⟨controller.newContracts context message.data,
          (Feeds.Brings.update records (symbolsUpdate_updates config context _ middle)).publish
            published, fun symbol member => ?_⟩
        exact ⟨message, processes.1, (mem_newSymbols.mp member).1⟩
      next =>
        exact ⟨[], (Feeds.Brings.of_records records).publish published, List.forall_mem_nil _⟩
    · exact ⟨[], .of_records records, List.forall_mem_nil _⟩
  | @disconnects position stream there =>
    exact ⟨[], .of_tells (MarketData.setConnectionStatus_tells position .disconnected stream _) rfl,
      List.forall_mem_nil _⟩
  | @connects position stream there =>
    have sends := MarketData.socketReady_sends config context position stream controller.feeds
    have tells := (MarketData.setConnectionStatus_tells position .ready stream
      controller.feeds).trans sends.tells
    have symbols : (MarketData.socketReady config context position stream
        controller.feeds).shared.symbols = controller.feeds.shared.symbols := sends.symbols
    refine ⟨[], ⟨⟨_, _, tells, fun index channel symbol member => ?_⟩, ?_⟩,
      List.forall_mem_nil _⟩
    · rw [List.nil_append, subscribedOn] at member
      show symbol ∈ Symbols.contents (MarketData.socketReady config context position stream
        controller.feeds).shared.symbols
      rw [symbols]
      split at member
      · exact Feeds.Brings.slice_subset _ _ _ member
      · cases member
    · rw [List.append_nil]
      show Symbols.contents (MarketData.socketReady config context position stream
        controller.feeds).shared.symbols ⊆ _
      rw [symbols]
      exact List.Subset.refl _
  | ignores event absent => exact ⟨[], .of_records (.refl _), List.forall_mem_nil _⟩

end Steps

/-! ### Runs -/

theorem Asked.later {history : MarketHistory Driver Store Queue} {symbol : String}
    (asked : Asked history symbol) (entry : MarketEntry Driver Store Queue) :
    Asked (entry :: history) symbol :=
  asked.imp fun _ there => ⟨List.mem_cons_of_mem _ there.1, there.2⟩

section Runs

variable [Symbols String Store] [LawfulSymbols String Store] [LimitQueue String Queue]
  [LawfulLimitQueue String Queue] [Download2 Rest.State Driver] [LawfulCallbacks Rest.State Driver]

theorem Controller.step_asked {config : Config} {history : MarketHistory Driver Store Queue}
    {controller next : Controller Driver Store Queue} {input : Input} {output : List Output}
    (asked : ∀ symbol ∈ Symbols.contents controller.feeds.shared.symbols, Asked history symbol)
    (taken : controller.step config input = .ok (next, output)) :
    (∀ symbol ∈ Symbols.contents next.feeds.shared.symbols,
        Asked (⟨controller, input, output⟩ :: history) symbol) ∧
      SubscribesToAsked history ⟨controller, input, output⟩ := by
  obtain ⟨handled, rfl⟩ := Controller.step_ok taken
  obtain ⟨given, ⟨⟨handed, sent, ⟨outputs, grown, -, frames⟩, listed⟩, contents⟩, asks⟩ :=
    Controller.handle_brings handled
  have listedAsked : ∀ symbol ∈ Symbols.contents next.feeds.shared.symbols,
      Asked (⟨controller, input, next.feeds.outbox⟩ :: history) symbol := by
    intro symbol member
    rcases List.mem_append.mp (contents member) with earlier | now
    · exact (asked symbol earlier).later _
    · exact ⟨_, List.mem_cons_self, asks symbol now⟩
  have all : next.feeds.outbox = outputs := grown
  refine ⟨listedAsked, fun index channel symbol member => listedAsked symbol ?_⟩
  have subscribed : symbol ∈ next.feeds.outbox.flatMap (Output.subscribed index channel) := member
  rw [all, frames] at subscribed
  exact listed index channel subscribed

/-- In every run, a connection is subscribed only to symbols that were asked for. -/
theorem subscriptions_asked (config : Config)
    (allowed : Environment (Controller Driver Store Queue) Input (List Output))
    (history : MarketHistory Driver Store Queue) (controller : Controller Driver Store Queue)
    (run : (market config).Run allowed history controller) :
    History.Always SubscribesToAsked history := by
  have asked {history : MarketHistory Driver Store Queue}
      {controller : Controller Driver Store Queue}
      (run : (market config).Run allowed history controller) :
      ∀ symbol ∈ Symbols.contents controller.feeds.shared.symbols, Asked history symbol := by
    refine run.invariant (fun history controller =>
      ∀ symbol ∈ Symbols.contents controller.feeds.shared.symbols, Asked history symbol) ?_
      fun history controller input next output asked _ taken =>
        (Controller.step_asked asked taken).1
    intro symbol member
    have created : symbol ∈ Symbols.contents
        (Symbols.create config.settings.maxSubscriptionsPerStream : Store) := member
    rw [LawfulSymbols.contents_create] at created
    cases created
  exact run.always fun history controller input next output before _ taken =>
    (Controller.step_asked (asked before) taken).2

end Runs

/-- Of two contracts, the one that the host discards is not subscribed to. -/
theorem subscriptions_asked_plain : ∃ history controller,
    plainMarket.Run (fun _ _ _ => True) history controller ∧
      subscribed 0 "futures.trades" history = ["BTC_USDT", "SOL_USDT"] ∧
      History.Always SubscribesToAsked history := by
  have run : plainMarket.Run (fun _ _ _ => True) _ _ :=
    .of_replay (plainInputs [.subscribe ["BTC_USDT"], .stream 0 .ready, .restConnected] ++
      [⟨⟨0, fun symbol => symbol = "ETH_USDT"⟩, .contractsReply 1 (.result .success 200
        (some ⟨[plainContract "ETH_USDT", plainContract "SOL_USDT"]⟩)) none⟩]) rfl
      (History.always_of_forall (fun _ _ => trivial) _)
  exact ⟨_, _, run, by decide, subscriptions_asked plainConfig _ _ _ run⟩

end GateFutures.Market
