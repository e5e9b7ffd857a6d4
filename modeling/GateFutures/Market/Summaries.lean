/-
This file proves what the handlers of `Trades`, `Candlesticks` and `CandlesticksAck` publish.

Trades and bars collect in a scratch buffer until the name of the items changes. The trades
are cut into groups as the loop cuts them, and the summaries published are those of the groups.
-/

import GateFutures.Market.Controller
import Mathlib.Data.List.SplitBy

namespace GateFutures.Market

open Framework Protocol Roq

variable {Store Queue : Type}

/-! ### Groups -/

section Groups

variable {Item : Type}

/-- A list is cut alike by relations that agree on its neighbours. -/
theorem splitBy_congr {first second : Item → Item → Bool} {items : List Item}
    (same : items.IsChain fun earlier later => first earlier later = second earlier later) :
    items.splitBy first = items.splitBy second := by
  cases items with
  | nil => rfl
  | cons item later =>
    show List.splitBy.loop first later item [] [] = List.splitBy.loop second later item [] []
    generalize ([] : List Item) = group
    generalize ([] : List (List Item)) = groups
    induction later generalizing item group groups with
    | nil => rfl
    | cons next later inductionHypothesis =>
      obtain ⟨agree, same⟩ := List.isChain_cons_cons.mp same
      rw [List.splitBy.loop, List.splitBy.loop, agree]
      split <;> exact inductionHypothesis _ same _ _

end Groups

/-! ### Trades -/

/-- The summary an output publishes. -/
def Output.tradeSummary? : Output → Option TradeSummary
  | .tradeSummary summary => some summary
  | _ => none

/-- A summary says what the items of its group say. -/
structure Summarizes (config : Config) (group : List TradesItem) (summary : TradeSummary) :
    Prop where
  written : group ≠ []
  trades : summary.trades = group.map (MarketData.createTrade config)
  symbol : ∀ item ∈ group, item.contract = summary.symbol
  reached : ∃ item ∈ group, item.createTimeMs = summary.exchangeTimeUtc
  latest : ∀ item ∈ group, item.createTimeMs ≤ summary.exchangeTimeUtc

/-- The summaries cut the items into groups, and neither lose nor move any. -/
def Groups (config : Config) (items : List TradesItem) (summaries : List TradeSummary) : Prop :=
  ∃ groups : List (List TradesItem), groups.flatten = items ∧
    List.Forall₂ (Summarizes config) groups summaries ∧
    summaries.IsChain fun earlier later => earlier.symbol ≠ later.symbol

/-- Two trades are of one contract. -/
def sameContract (earlier later : TradesItem) : Bool := earlier.contract = later.contract

/-- An item with a contract never follows one without. -/
def EmptyContractsLast (items : List TradesItem) : Prop :=
  items.IsChain fun earlier later => earlier.contract = "" → later.contract = ""

/-! ### Bars -/

/-- The candlesticks an output publishes. -/
def Output.timeSeriesUpdate? : Output → Option TimeSeriesUpdate
  | .timeSeriesUpdate update => some update
  | _ => none

/-- The bars an output publishes, with their symbol. -/
def Output.namedBars : Output → List (String × Bar)
  | .timeSeriesUpdate update => update.bars.map fun bar => (update.symbol, bar)
  | _ => []

/-- A bar has the prices and the volume of its item. -/
structure SamePrices (item : CandlesticksItem) (bar : Bar) : Prop where
  openPrice : bar.openPrice = item.open
  highPrice : bar.highPrice = item.high
  lowPrice : bar.lowPrice = item.low
  closePrice : bar.closePrice = item.close
  quantity : bar.quantity = item.volume

/-- The prices and the volume of a bar. -/
def prices (bar : Bar) : Double × Double × Double × Double × Double :=
  (bar.openPrice, bar.highPrice, bar.lowPrice, bar.closePrice, bar.quantity)

/-- A bar published under a name is that of its item. -/
structure SameBar (item : CandlesticksItem) (named : String × Bar) : Prop where
  name : named.1 = item.name
  beginTime : named.2.beginTimeUtc = item.time
  confirmed : named.2.confirmed = item.confirmed
  prices : SamePrices item named.2

/-- A candlestick with one price. -/
structure Flat (item : CandlesticksItem) : Prop where
  high : item.high = item.open
  low : item.low = item.open
  close : item.close = item.open

/-- A bar that has the first price throughout is faithful exactly if its item is flat. -/
theorem samePrices_iff {item : CandlesticksItem} {bar : Bar}
    (first : prices bar = (item.open, item.open, item.open, item.open, item.volume)) :
    SamePrices item bar ↔ Flat item := by
  simp only [prices, Prod.mk.injEq] at first
  obtain ⟨openPrice, highPrice, lowPrice, closePrice, quantity⟩ := first
  constructor
  · intro same
    exact ⟨same.highPrice.symm.trans highPrice, same.lowPrice.symm.trans lowPrice,
      same.closePrice.symm.trans closePrice⟩
  · intro flat
    exact ⟨openPrice, highPrice.trans flat.high.symm, lowPrice.trans flat.low.symm,
      closePrice.trans flat.close.symm, quantity⟩

namespace MarketData

section Trades

variable (config : Config) (stream : MarketData)

/-- How the loop cuts the trades: it continues a group with an item of the same contract, and
one without contract with any. -/
def continues (earlier later : TradesItem) : Bool :=
  earlier.contract = later.contract || earlier.contract = ""

/-- The contract and the time the loop keeps, after an item. -/
def advance (kept : String × Int) (item : TradesItem) : String × Int :=
  (item.contract, max (if item.contract ≠ kept.1 then 0 else kept.2) item.createTimeMs)

/-- The contract and the time the loop has for a group. -/
def keptOf (group : List TradesItem) : String × Int := group.foldl advance ("", 0)

/-- The summary of a group. -/
def summaryOf (message : Trades) (group : List TradesItem) : TradeSummary :=
  tradeSummary config stream message (keptOf group).1 (keptOf group).2
    (group.map (createTrade config))

/-- What `trades` does with the trades left after the loop. -/
def flushTrades (message : Trades) (contract : String) (timestamp : Int)
    (feeds : Feeds Store Queue) : Feeds Store Queue :=
  if feeds.shared.trades ≠ [] then
    feeds.emit (.tradeSummary (tradeSummary config stream message contract timestamp
      feeds.shared.trades))
  else feeds

/-- The loop, and what follows it. -/
def finishTrades (message : Trades) (items : List TradesItem) (kept : String × Int)
    (feeds : Feeds Store Queue) : Feeds Store Queue :=
  let (contract, timestamp, feeds) := collectTrades config stream message items kept.1 kept.2 feeds
  flushTrades config stream message contract timestamp feeds

theorem trades_eq (message : Trades) (feeds : Feeds Store Queue) :
    trades config stream message feeds =
      finishTrades config stream message message.result ("", 0)
        { feeds with shared.trades := [] } := rfl

theorem keptOf_concat (group : List TradesItem) (item : TradesItem) :
    keptOf (group ++ [item]) = advance (keptOf group) item := List.foldl_concat ..

@[simp]
theorem keptOf_contract (group : List TradesItem) (last : TradesItem) :
    (keptOf (group ++ [last])).1 = last.contract := by
  rw [keptOf_concat]
  rfl

/-- The loop keeps a group that an item continues. -/
theorem finishTrades_continues (message : Trades) {last item : TradesItem}
    (joined : continues last item = true) (later : List TradesItem) (kept : String × Int)
    (same : kept.1 = last.contract) (feeds : Feeds Store Queue) :
    finishTrades config stream message (item :: later) kept feeds =
      finishTrades config stream message later (advance kept item)
        { feeds with shared.trades := feeds.shared.trades ++ [createTrade config item] } := by
  obtain ⟨contract, timestamp⟩ := kept
  cases same
  rw [continues, Bool.or_eq_true, decide_eq_true_eq, decide_eq_true_eq] at joined
  unfold finishTrades
  rw [collectTrades]
  by_cases changed : item.contract ≠ last.contract
  · have none : ¬ (last.contract ≠ "" ∧ feeds.shared.trades ≠ []) := fun publish =>
      publish.1 (joined.resolve_left fun alike => changed alike.symm)
    rw [if_pos changed, if_neg none, advance, if_pos changed]
  · rw [if_neg changed, advance, if_neg changed, not_not.mp changed]

/-- The loop publishes a group that an item does not continue. -/
theorem finishTrades_publishes (message : Trades) {last item : TradesItem}
    (parted : continues last item = false) (later : List TradesItem) (kept : String × Int)
    (same : kept.1 = last.contract) {feeds : Feeds Store Queue}
    (collected : feeds.shared.trades ≠ []) :
    finishTrades config stream message (item :: later) kept feeds =
      finishTrades config stream message later (advance ("", 0) item)
        { feeds.emit (.tradeSummary (tradeSummary config stream message kept.1 kept.2
            feeds.shared.trades)) with shared.trades := [createTrade config item] } := by
  obtain ⟨contract, timestamp⟩ := kept
  cases same
  rw [continues, Bool.or_eq_false_iff, decide_eq_false_iff_not, decide_eq_false_iff_not] at parted
  have changed : item.contract ≠ last.contract := fun alike => parted.1 alike.symm
  unfold finishTrades
  rw [collectTrades, if_pos changed, if_pos ⟨parted.2, collected⟩]
  unfold advance
  rw [ite_self]
  rfl

/-- From a group on, the loop publishes the summaries of the groups that it and the later items
are cut into. -/
theorem finishTrades_outbox (message : Trades) (items group : List TradesItem) (last : TradesItem)
    (chain : (group ++ [last]).IsChain fun earlier later => continues earlier later)
    (feeds : Feeds Store Queue)
    (collected : feeds.shared.trades = (group ++ [last]).map (createTrade config)) :
    (finishTrades config stream message items (keptOf (group ++ [last])) feeds).outbox =
      feeds.outbox ++ ((group ++ [last] ++ items).splitBy continues).map
        (fun group => .tradeSummary (summaryOf config stream message group)) := by
  have written (group : List TradesItem) (last : TradesItem) : group ++ [last] ≠ [] :=
    List.append_ne_nil_of_right_ne_nil _ (List.cons_ne_nil _ _)
  induction items generalizing group last feeds with
  | nil =>
    have kept : feeds.shared.trades ≠ [] := fun empty =>
      written group last (List.map_eq_nil_iff.mp (collected.symm.trans empty))
    rw [List.append_nil, List.splitBy_of_isChain (written group last) chain]
    show (if feeds.shared.trades ≠ [] then _ else feeds : Feeds Store Queue).outbox = _
    rw [if_pos kept, collected]
    rfl
  | cons item later inductionHypothesis =>
    have kept : feeds.shared.trades ≠ [] := fun empty =>
      written group last (List.map_eq_nil_iff.mp (collected.symm.trans empty))
    cases joined : continues last item with
    | true =>
      rw [finishTrades_continues config stream message joined _ _ (keptOf_contract _ _),
        ← keptOf_concat, List.append_cons (group ++ [last]) item later]
      refine inductionHypothesis (group ++ [last]) item
        (chain.append_overlap (List.isChain_pair.mpr joined) (List.cons_ne_nil _ _)) _ ?_
      show feeds.shared.trades ++ [item].map (createTrade config) = _
      rw [collected]
      exact List.map_append.symm
    | false =>
      have parted : ∀ before ∈ (group ++ [last]).getLast?, continues before item = false := by
        intro before isLast
        rw [List.getLast?_append, List.getLast?_singleton] at isLast
        cases isLast
        exact joined
      rw [finishTrades_publishes config stream message joined _ _ (keptOf_contract _ _) kept,
        List.splitBy_append_cons _ parted, List.splitBy_of_isChain (written group last) chain,
        List.singleton_append, List.map_cons, List.append_cons feeds.outbox, summaryOf,
        ← collected]
      exact inductionHypothesis [] item (.singleton item) _ rfl

/-- `Trades` publishes the summaries of the groups that its items are cut into. -/
theorem trades_outbox (message : Trades) (feeds : Feeds Store Queue) :
    (trades config stream message feeds).outbox =
      feeds.outbox ++ (message.result.splitBy continues).map
        (fun group => .tradeSummary (summaryOf config stream message group)) := by
  rw [trades_eq]
  cases message.result with
  | nil => exact (List.append_nil _).symm
  | cons item later =>
    -- The loop starts as if it followed an item without contract.
    have joined : continues { item with contract := "" } item = true := Bool.or_true _
    rw [finishTrades_continues config stream message joined later ("", 0) rfl]
    exact finishTrades_outbox config stream message later [] item (.singleton item) _ rfl

/-! ### Groups of trades -/

/-- The loop's time is never negative. -/
theorem keptOf_nonneg (group : List TradesItem) : 0 ≤ (keptOf group).2 := by
  induction group using List.reverseRecOn with
  | nil => exact le_rfl
  | append_singleton group item inductionHypothesis =>
    rw [keptOf_concat, advance]
    split
    · exact le_max_left _ _
    · exact inductionHypothesis.trans (le_max_left _ _)

/-- The time of a group of one contract is the latest one of its items, if one is not negative. -/
theorem keptOf_latest {symbol : String} {group : List TradesItem}
    (uniform : ∀ item ∈ group, item.contract = symbol) :
    (∀ item ∈ group, item.createTimeMs ≤ (keptOf group).2) ∧
      ((keptOf group).2 = 0 ∨ ∃ item ∈ group, item.createTimeMs = (keptOf group).2) := by
  induction group using List.reverseRecOn with
  | nil => exact ⟨List.forall_mem_nil _, Or.inl rfl⟩
  | append_singleton group item inductionHypothesis =>
    obtain ⟨latest, reached⟩ := inductionHypothesis fun item member =>
      uniform item (List.mem_append_left _ member)
    have time : (keptOf (group ++ [item])).2 = max (keptOf group).2 item.createTimeMs := by
      rw [keptOf_concat, advance]
      rcases List.eq_nil_or_concat group with rfl | ⟨earlier, last, rfl⟩
      · exact congrArg (max · _) (ite_self _)
      · have same : item.contract = last.contract :=
          (uniform item (by simp)).trans (uniform last (by simp)).symm
        rw [List.concat_eq_append, keptOf_contract, if_neg (not_not_intro same)]
    rw [time]
    refine ⟨?_, ?_⟩
    · intro other member
      rcases List.mem_append.mp member with member | member
      · exact (latest other member).trans (le_max_left _ _)
      · rw [List.mem_singleton.mp member]
        exact le_max_right _ _
    · rcases le_total item.createTimeMs (keptOf group).2 with before | after
      · rw [max_eq_left before]
        refine reached.imp_right ?_
        rintro ⟨other, member, same⟩
        exact ⟨other, List.mem_append_left _ member, same⟩
      · rw [max_eq_right after]
        exact Or.inr ⟨item, List.mem_append_right _ List.mem_cons_self, rfl⟩

/-- The symbol of a group is the contract of its last item. -/
theorem summaryOf_symbol (message : Trades) {group : List TradesItem} (written : group ≠ []) :
    (summaryOf config stream message group).symbol = (group.getLast written).contract := by
  obtain ⟨earlier, last, rfl⟩ := (List.eq_nil_or_concat group).resolve_left written
  simp only [List.concat_eq_append, List.getLast_append_singleton]
  exact keptOf_contract earlier last

/-- All items of a run are of one contract. -/
theorem uniform_of_isChain {group : List TradesItem}
    (chain : group.IsChain fun earlier later => sameContract earlier later)
    (written : group ≠ []) :
    ∀ item ∈ group, item.contract = (group.getLast written).contract := by
  let alike (earlier later : TradesItem) : Prop := earlier.contract = later.contract
  have : IsTrans TradesItem alike := ⟨fun _ _ _ => Eq.trans⟩
  have pairwise : group.Pairwise alike := List.isChain_iff_pairwise.mp
    (chain.imp fun earlier later same => of_decide_eq_true same)
  obtain ⟨before, last, rfl⟩ := (List.eq_nil_or_concat group).resolve_left written
  simp only [List.concat_eq_append, List.getLast_append_singleton] at pairwise ⊢
  intro item member
  rcases List.mem_append.mp member with member | member
  · exact (List.pairwise_append.mp pairwise).2.2 item member last List.mem_cons_self
  · rw [List.mem_singleton.mp member]

/-- A group of one contract has a faithful summary exactly if one of its times is not negative. -/
theorem summarizes_iff (message : Trades) {group : List TradesItem} (written : group ≠ [])
    (uniform : ∀ item ∈ group, item.contract = (group.getLast written).contract) :
    Summarizes config group (summaryOf config stream message group) ↔
      ∃ item ∈ group, 0 ≤ item.createTimeMs := by
  obtain ⟨latest, reached⟩ := keptOf_latest uniform
  constructor
  · rintro ⟨-, -, -, ⟨item, member, same⟩, -⟩
    refine ⟨item, member, ?_⟩
    rw [same]
    exact keptOf_nonneg group
  · rintro ⟨item, member, positive⟩
    refine ⟨written, rfl, ?_, ?_, latest⟩
    · intro item member
      rw [summaryOf_symbol config stream message written]
      exact uniform item member
    · rcases reached with zero | reached
      · refine ⟨item, member, le_antisymm (latest item member) ?_⟩
        show (keptOf group).2 ≤ _
        rwa [zero]
      · exact reached

/-- Groups that have faithful summaries are the groups the loop cuts. -/
theorem groups_eq (message : Trades) {items : List TradesItem} {groups : List (List TradesItem)}
    (all : groups.flatten = items)
    (summarized : List.Forall₂ (Summarizes config) groups
      ((items.splitBy continues).map (summaryOf config stream message))) :
    groups = items.splitBy continues := by
  refine List.eq_iff_flatten_eq.mpr ⟨all.trans (List.flatten_splitBy _ _).symm, ?_⟩
  have lengths : List.Forall₂ (fun first second : List TradesItem => first.length = second.length)
      groups (items.splitBy continues) := by
    refine (List.forall₂_map_right_iff.mp summarized).imp fun first second summary => ?_
    have same := congrArg List.length summary.trades
    rw [List.length_map] at same
    exact same.symm.trans (List.length_map _)
  have mapped := List.forall₂_map_left_iff.mpr (List.forall₂_map_right_iff.mpr lengths)
  exact (congrFun (congrFun List.forall₂_eq_eq_eq _) _).mp mapped

/-- Where every group is of one contract, an item with a contract never follows one without. -/
theorem emptyContractsLast_of_uniform {items : List TradesItem}
    (uniform : ∀ group ∈ items.splitBy continues,
      ∃ symbol, ∀ item ∈ group, item.contract = symbol) :
    EmptyContractsLast items := by
  unfold EmptyContractsLast
  rw [← List.flatten_splitBy continues items,
    List.isChain_flatten (List.nil_notMem_splitBy continues items)]
  refine ⟨fun group member => ?_, ?_⟩
  · obtain ⟨symbol, same⟩ := uniform group member
    refine (List.pairwise_of_forall_mem_list fun earlier before later after empty => ?_).isChain
    exact ((same later after).trans (same earlier before).symm).trans empty
  · refine (List.isChain_getLast_head_splitBy continues items).imp ?_
    rintro earlier later ⟨before, after, parted⟩ last isLast first isFirst empty
    rw [List.getLast_of_mem_getLast? isLast, List.head_of_mem_head? isFirst, continues, empty]
      at parted
    exact absurd parted (by simp)

/-- The loop cuts trades by contract, if no item with a contract follows one without. -/
theorem splitBy_continues {items : List TradesItem} (last : EmptyContractsLast items) :
    items.splitBy continues = items.splitBy sameContract := by
  refine splitBy_congr (last.imp fun earlier later empty => ?_)
  unfold continues sameContract
  by_cases none : earlier.contract = ""
  · simp [none, empty none]
  · simp [none]

/-- The summaries of the groups the loop cuts are faithful exactly if no item with a contract
follows one without, and every run of a contract has a time that is not negative. -/
theorem groups_iff (message : Trades) (items : List TradesItem) :
    Groups config items ((items.splitBy continues).map (summaryOf config stream message)) ↔
      EmptyContractsLast items ∧
        ∀ run ∈ items.splitBy sameContract, ∃ item ∈ run, 0 ≤ item.createTimeMs := by
  constructor
  · rintro ⟨groups, all, summarized, -⟩
    cases groups_eq config stream message all summarized
    have each := List.forall₂_same.mp (List.forall₂_map_right_iff.mp summarized)
    have last : EmptyContractsLast items := emptyContractsLast_of_uniform fun group member =>
      ⟨_, (each group member).symbol⟩
    refine ⟨last, ?_⟩
    rw [← splitBy_continues last]
    intro run member
    have written := List.ne_nil_of_mem_splitBy member
    refine (summarizes_iff config stream message written fun item inside => ?_).mp
      (each run member)
    rw [← summaryOf_symbol config stream message written]
    exact (each run member).symbol item inside
  · rintro ⟨last, positive⟩
    have each : ∀ group ∈ items.splitBy continues,
        Summarizes config group (summaryOf config stream message group) := by
      rw [splitBy_continues last]
      intro group member
      have written := List.ne_nil_of_mem_splitBy member
      exact (summarizes_iff config stream message written
        (uniform_of_isChain (List.isChain_of_mem_splitBy member) written)).mpr
        (positive group member)
    refine ⟨_, List.flatten_splitBy _ _,
      List.forall₂_map_right_iff.mpr (List.forall₂_same.mpr each), ?_⟩
    rw [List.isChain_map]
    refine (List.isChain_getLast_head_splitBy continues items).imp_of_mem_imp ?_
    rintro earlier later - member ⟨before, after, parted⟩ same
    rw [summaryOf_symbol config stream message before,
      ← (each later member).symbol _ (List.head_mem after)] at same
    rw [continues, same] at parted
    exact absurd parted (by simp)

/-- The summaries that `Trades` publishes. -/
theorem trades_published (message : Trades) (feeds : Feeds Store Queue) :
    (trades config stream message feeds).outbox.filterMap Output.tradeSummary? =
      feeds.outbox.filterMap Output.tradeSummary? ++
        (message.result.splitBy continues).map (summaryOf config stream message) := by
  rw [trades_outbox, List.filterMap_append, List.filterMap_map]
  exact congrArg (_ ++ ·) (congrFun List.filterMap_eq_map _)

/-- `Trades` publishes summaries that neither lose, move nor mislabel a trade exactly if no item
with a contract follows one without, and every run of items of one contract has a time that is
not negative. -/
theorem trades_grouped_iff (message : Trades) (feeds : Feeds Store Queue) :
    (∃ summaries, (trades config stream message feeds).outbox.filterMap Output.tradeSummary? =
        feeds.outbox.filterMap Output.tradeSummary? ++ summaries ∧
          Groups config message.result summaries) ↔
      EmptyContractsLast message.result ∧
        ∀ run ∈ message.result.splitBy sameContract, ∃ item ∈ run, 0 ≤ item.createTimeMs := by
  rw [← groups_iff config stream message, trades_published]
  constructor
  · rintro ⟨summaries, same, grouped⟩
    rwa [List.append_cancel_left same]
  · exact fun grouped => ⟨_, rfl, grouped⟩

/-- A trade without contract, and one of a contract. -/
def unlabelledTrades : Trades where
  timeMs := 1
  result := [⟨.number 1, 7, 1, .number 100, ""⟩, ⟨.number 2, 8, 1, .number 10, "ETH_USDT"⟩]

/-- The trade without contract is published as one of the other contract. -/
theorem unlabelled_trade_mislabelled :
    ¬ ∀ (config : Config) (stream : MarketData) (message : Trades)
        (feeds : Feeds (PlainSymbols String) (PlainQueue String)),
      ∃ summaries, (trades config stream message feeds).outbox.filterMap Output.tradeSummary? =
        feeds.outbox.filterMap Output.tradeSummary? ++ summaries ∧
          Groups config message.result summaries := by
  intro grouped
  obtain ⟨summaries, same, faithful⟩ :=
    grouped plainConfig ⟨4, 0, .ready⟩ unlabelledTrades (.initial plainConfig)
  rw [trades_published] at same
  rw [← List.append_cancel_left same, groups_iff] at faithful
  exact absurd ((List.isChain_cons_cons.mp faithful.1).1 rfl) (by decide)

end Trades

/-! ### Candlesticks -/

section Candlesticks

variable (config : Config) (stream : MarketData)

/-- The bars published, and those in the scratch buffer under the name they are kept for. -/
def namedBars (symbol : String) (feeds : Feeds Store Queue) : List (String × Bar) :=
  feeds.outbox.flatMap Output.namedBars ++ feeds.shared.bars.map fun bar => (symbol, bar)

/-- The item is retained. -/
def retained (item : CandlesticksItem) : Bool :=
  config.settings.timeSeriesRealtime || item.confirmed

theorem publishBars_named (message : Candlesticks) (symbol : String)
    (feeds : Feeds Store Queue) :
    (publishBars config stream message symbol feeds).outbox.flatMap Output.namedBars =
        namedBars symbol feeds ∧
      (publishBars config stream message symbol feeds).shared.bars = [] := by
  unfold publishBars namedBars
  by_cases empty : feeds.shared.bars = []
  · rw [if_pos empty, empty]
    exact ⟨(List.append_nil _).symm, rfl⟩
  · rw [if_neg empty]
    refine ⟨?_, rfl⟩
    show (feeds.outbox ++ [_]).flatMap Output.namedBars = _
    rw [List.flatMap_append, List.flatMap_singleton]
    rfl

/-- The loop publishes or keeps the bars of the retained items, in order and under their names. -/
theorem collectBars_named (message : Candlesticks) (items : List CandlesticksItem)
    (symbol : String) (feeds : Feeds Store Queue) :
    namedBars (collectBars config stream message items symbol feeds).1
        (collectBars config stream message items symbol feeds).2 =
      namedBars symbol feeds ++
        (items.filter (retained config)).map fun item => (item.name, createBar item) := by
  induction items generalizing symbol feeds with
  | nil => exact (List.append_nil _).symm
  | cons item later inductionHypothesis =>
    obtain ⟨named, flushed⟩ := publishBars_named config stream message symbol feeds
    -- Where the name changes, the loop continues with an empty buffer under the new name.
    obtain ⟨current, start, same⟩ : ∃ current : Feeds Store Queue,
        (if item.name ≠ symbol then (item.name, publishBars config stream message symbol feeds)
          else (symbol, feeds)) = (item.name, current) ∧
        namedBars item.name current = namedBars symbol feeds := by
      by_cases changed : item.name ≠ symbol
      · refine ⟨_, if_pos changed, ?_⟩
        rw [namedBars, named, flushed, List.map_nil, List.append_nil]
      · refine ⟨feeds, ?_, ?_⟩
        · rw [if_neg changed, not_not.mp changed]
        · rw [not_not.mp changed]
    unfold collectBars
    rw [start]
    dsimp only
    by_cases skipped : ¬ item.confirmed ∧ ¬ config.settings.timeSeriesRealtime
    · have dropped : ¬ retained config item = true := by simp [retained, skipped]
      rw [if_pos skipped, inductionHypothesis, same, List.filter_cons_of_neg dropped]
    · have kept : retained config item = true := by
        simp only [retained, Bool.or_eq_true]
        tauto
      have extended : namedBars item.name
          { current with shared.bars := current.shared.bars ++ [createBar item] } =
          namedBars item.name current ++ [(item.name, createBar item)] := by
        unfold namedBars
        rw [List.map_append, ← List.append_assoc]
        rfl
      rw [if_neg skipped, inductionHypothesis, extended, same, List.filter_cons_of_pos kept,
        List.map_cons, List.append_assoc, List.singleton_append]

/-- `Candlesticks` publishes the bars of the retained items, in order and under their names. -/
theorem candlesticks_named (message : Candlesticks) (feeds : Feeds Store Queue) :
    (candlesticks config stream message feeds).outbox.flatMap Output.namedBars =
      feeds.outbox.flatMap Output.namedBars ++
        (message.result.filter (retained config)).map fun item => (item.name, createBar item) := by
  have collected := collectBars_named config stream message message.result ""
    { feeds with shared.bars := [] }
  have cleared : namedBars "" { feeds with shared.bars := [] } =
      feeds.outbox.flatMap Output.namedBars := List.append_nil _
  rw [cleared] at collected
  rw [← collected]
  exact (publishBars_named config stream message _ _).1

/-- `Candlesticks` publishes faithful bars exactly if every retained item is flat. -/
theorem candlesticks_iff (message : Candlesticks) (feeds : Feeds Store Queue) :
    (∃ bars, (candlesticks config stream message feeds).outbox.flatMap Output.namedBars =
        feeds.outbox.flatMap Output.namedBars ++ bars ∧
          List.Forall₂ SameBar (message.result.filter (retained config)) bars) ↔
      ∀ item ∈ message.result, retained config item → Flat item := by
  have each : List.Forall₂ SameBar (message.result.filter (retained config))
      ((message.result.filter (retained config)).map fun item => (item.name, createBar item)) ↔
      ∀ item ∈ message.result, retained config item → Flat item := by
    rw [List.forall₂_map_right_iff, List.forall₂_same, List.forall_mem_filter]
    refine forall₃_congr fun item _ _ => ?_
    rw [← @samePrices_iff item (createBar item) rfl]
    exact ⟨SameBar.prices, fun same => ⟨rfl, rfl, rfl, same⟩⟩
  rw [← each, candlesticks_named]
  constructor
  · rintro ⟨bars, same, faithful⟩
    rwa [List.append_cancel_left same]
  · exact fun faithful => ⟨_, rfl, faithful⟩

end Candlesticks

end MarketData

/-- `CandlesticksAck` publishes faithful bars exactly if every item is flat. -/
theorem Rest.candlesticksAck_iff (config : Config) (symbol : String) (message : CandlesticksAck)
    (feeds : Feeds Store Queue) :
    (∃ update,
        (Rest.candlesticksAck config symbol false message feeds).1.outbox.filterMap
            Output.timeSeriesUpdate? =
          feeds.outbox.filterMap Output.timeSeriesUpdate? ++ [update] ∧
            update.symbol = symbol ∧ List.Forall₂ SamePrices message.data update.bars) ↔
      ∀ item ∈ message.data, Flat item := by
  have each : List.Forall₂ SamePrices message.data (message.data.map Rest.createBar) ↔
      ∀ item ∈ message.data, Flat item := by
    rw [List.forall₂_map_right_iff, List.forall₂_same]
    exact forall₂_congr fun item _ => samePrices_iff rfl
  have published : ∃ update : TimeSeriesUpdate,
      (Rest.candlesticksAck config symbol false message feeds).1.outbox =
        feeds.outbox ++ [.delivered .candlesticks symbol] ++ [.timeSeriesUpdate update] ∧
          update.symbol = symbol ∧ update.bars = message.data.map Rest.createBar :=
    ⟨{ streamId := config.restStreamId, exchange := config.settings.exchange, symbol
       interval := config.settings.timeSeriesInterval, bars := message.data.map Rest.createBar
       updateType := .snapshot, exchangeTimeUtc := 0 }, rfl, rfl, rfl⟩
  obtain ⟨update, same, named, bars⟩ := published
  have selected : (feeds.outbox ++ [Output.delivered .candlesticks symbol] ++
      [Output.timeSeriesUpdate update]).filterMap Output.timeSeriesUpdate? =
        feeds.outbox.filterMap Output.timeSeriesUpdate? ++ [update] := by
    rw [List.filterMap_append, List.filterMap_append]
    exact congrArg (· ++ _) (List.append_nil _)
  rw [← each, same, selected, ← bars]
  constructor
  · rintro ⟨other, cancelled, -, faithful⟩
    cases List.append_cancel_left cancelled
    exact faithful
  · exact fun faithful => ⟨update, rfl, named, faithful⟩

/-- The two paths publish faithful bars exactly of the candlesticks that are flat, and give every
candlestick the same prices. -/
theorem candlesticks_published_iff (config : Config) :
    (∀ (stream : MarketData) (message : Candlesticks) (feeds : Feeds Store Queue),
      (∃ bars,
          (MarketData.candlesticks config stream message feeds).outbox.flatMap Output.namedBars =
            feeds.outbox.flatMap Output.namedBars ++ bars ∧
              List.Forall₂ SameBar (message.result.filter (MarketData.retained config)) bars) ↔
        ∀ item ∈ message.result, MarketData.retained config item → Flat item) ∧
    (∀ (symbol : String) (message : CandlesticksAck) (feeds : Feeds Store Queue),
      (∃ update,
          (Rest.candlesticksAck config symbol false message feeds).1.outbox.filterMap
              Output.timeSeriesUpdate? =
            feeds.outbox.filterMap Output.timeSeriesUpdate? ++ [update] ∧
              update.symbol = symbol ∧ List.Forall₂ SamePrices message.data update.bars) ↔
        ∀ item ∈ message.data, Flat item) ∧
    ∀ item, prices (MarketData.createBar item) = prices (Rest.createBar item) :=
  ⟨fun stream message feeds => MarketData.candlesticks_iff config stream message feeds,
    fun symbol message feeds => Rest.candlesticksAck_iff config symbol message feeds,
    fun _ => rfl⟩

/-- A candlestick that moved from one price to another. -/
def risingCandlestick : CandlesticksItem where
  time := 1727232720
  «open» := .number 100
  close := .number 102
  high := .number 103
  low := .number 99
  volume := .number 5
  name := "1m_BTC_USDT"
  amount := .number 505
  confirmed := true
  sum := .number 505

/-- The candlestick is published as if its price had not moved, on either path. -/
theorem rising_candlestick_flattened :
    (¬ ∃ bars,
        (MarketData.candlesticks plainConfig ⟨4, 0, .ready⟩ ⟨1, [risingCandlestick]⟩
            (.initial plainConfig : Feeds (PlainSymbols String) (PlainQueue String))
          ).outbox.flatMap Output.namedBars = bars ∧
          List.Forall₂ SameBar [risingCandlestick] bars) ∧
      ¬ ∃ update,
        (Rest.candlesticksAck plainConfig "BTC_USDT" false ⟨[risingCandlestick]⟩
            (.initial plainConfig : Feeds (PlainSymbols String) (PlainQueue String))
          ).1.outbox.filterMap Output.timeSeriesUpdate? = [update] ∧
          update.symbol = "BTC_USDT" ∧ List.Forall₂ SamePrices [risingCandlestick] update.bars := by
  have moved : ¬ Flat risingCandlestick := fun flat => by cases flat.high
  constructor
  · rintro faithful
    exact moved ((MarketData.candlesticks_iff plainConfig _ _ _).mp faithful _
      List.mem_cons_self rfl)
  · rintro faithful
    exact moved ((Rest.candlesticksAck_iff plainConfig _ _ _).mp faithful _ List.mem_cons_self)

end GateFutures.Market
