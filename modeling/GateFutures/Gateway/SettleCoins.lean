/-
This file proves for which contracts the status query of a stale order names the coin of the
gateway's API.

`Rest` infers a contract's coin from its type and the halves of its name when the contracts are
downloaded, and caches it. `DropCopy` sends the cached coin with the status query of a stale order.
The path the contracts were downloaded over says in which coin they settle.
-/

import GateFutures.Gateway.Account
import GateFutures.Market.Controller
import Mathlib.Data.List.Forall2
import Mathlib.Data.List.Induction
import Mathlib.Logic.Function.Basic

namespace GateFutures.Gateway

open Framework Protocol Roq
open Market (Feeds)
open Market.Rest (ContractsFailure splitSymbol settlementCurrency)

/-! ### Paths -/

/-- `API::Key`. -/
inductive Api.Key
  | btc | usdt
  deriving DecidableEq, Repr

/-- `API::create`: `API_BTC` or `API_USDT`, as far as the streams behind the market data read
them. -/
def Api.Key.create : Api.Key → Market.Api
  | .btc =>
    { spotCurrencies := "/spot/currencies"
      futuresContracts := "/futures/btc/contracts"
      futuresOrderBook := "/futures/btc/order_book"
      futuresCandlesticks := "/futures/btc/candlesticks" }
  | .usdt =>
    { spotCurrencies := "/spot/currencies"
      futuresContracts := "/futures/usdt/contracts"
      futuresOrderBook := "/futures/usdt/order_book"
      futuresCandlesticks := "/futures/usdt/candlesticks" }

/-- The coin of a path: its second part. -/
def pathCoin (path : String) : String := String.ofList ((path.toList.splitOn '/').getD 2 [])

theorem pathCoin_ne (key : Api.Key) : pathCoin key.create.futuresContracts ≠ "" := by
  cases key <;> decide

/-! ### The cache -/

/-- The coin that is inferred for a contract. -/
def inferredCoin (item : ContractsAckItem) : Option String :=
  (splitSymbol item.name).map fun currencies =>
    settlementCurrency item.type currencies.1 currencies.2

/-- The cache after the coins of contracts were inferred. -/
def cachedCoins (items : List ContractsAckItem) (cache : String → Option String) :
    String → Option String :=
  items.foldl (fun cache item => Function.update cache item.name (inferredCoin item)) cache

/-- The last contract of a name. -/
def lastNamed (items : List ContractsAckItem) (name : String) : Option ContractsAckItem :=
  items.reverse.find? fun item => item.name = name

/-- The cache has the coin of the last contract of a name. -/
theorem cachedCoins_eq (items : List ContractsAckItem) (cache : String → Option String)
    (name : String) :
    cachedCoins items cache name =
      match lastNamed items name with
      | some item => inferredCoin item
      | none => cache name := by
  induction items using List.reverseRecOn with
  | nil => rfl
  | append_singleton items item inductionHypothesis =>
    unfold cachedCoins lastNamed
    rw [List.foldl_concat, List.reverse_concat]
    by_cases same : item.name = name
    · rw [List.find?_cons_of_pos (by exact decide_eq_true same), ← same]
      exact Function.update_self ..
    · rw [List.find?_cons_of_neg (by simpa using same), Function.update_of_ne (Ne.symm same)]
      exact inductionHypothesis

/-- Every contract has a last one of its name. -/
theorem lastNamed_of_mem {items : List ContractsAckItem} {item : ContractsAckItem}
    (member : item ∈ items) :
    ∃ last ∈ items, lastNamed items item.name = some last ∧ last.name = item.name := by
  cases found : lastNamed items item.name with
  | none =>
    exact absurd (decide_eq_true rfl)
      (List.find?_eq_none.mp found item (List.mem_reverse.mpr member))
  | some last =>
    have named := List.find?_some found
    exact ⟨last, List.mem_reverse.mp (List.mem_of_find?_eq_some found), rfl,
      of_decide_eq_true named⟩

/-! ### The download -/

section Download

variable {Store Queue : Type}

theorem foldl_coins {Item : Type} {body : Feeds Store Queue → Item → Feeds Store Queue}
    (each : ∀ feeds item,
      (body feeds item).shared.symbol2SettleCoin = feeds.shared.symbol2SettleCoin)
    (items : List Item) (feeds : Feeds Store Queue) :
    (items.foldl body feeds).shared.symbol2SettleCoin = feeds.shared.symbol2SettleCoin := by
  induction items generalizing feeds with
  | nil => rfl
  | cons item later inductionHypothesis =>
    rw [List.foldl_cons, inductionHypothesis, each]

theorem recordSymbol_coins (symbol : String) (feeds : Feeds Store Queue) :
    (feeds.recordSymbol symbol).shared.symbol2SettleCoin = feeds.shared.symbol2SettleCoin := by
  unfold Feeds.recordSymbol
  split <;> rfl

theorem emplaceSymbol_coins (failure : Option ContractsFailure) (position : Nat)
    (symbol : String) (discard : Bool) (feeds : Feeds Store Queue) :
    (Market.Rest.emplaceSymbol failure position symbol discard feeds).1.shared.symbol2SettleCoin =
      feeds.shared.symbol2SettleCoin := by
  unfold Market.Rest.emplaceSymbol
  split
  · rfl
  split
  · rfl
  split
  · rfl
  split <;> exact recordSymbol_coins symbol feeds

/-- A contract that the loop gets past has a coin, and the cache has it. -/
theorem contractsItem_coins {config : Market.Config} {context : Market.Context}
    {failure : Option ContractsFailure} {position : Nat} {item : ContractsAckItem}
    {feeds next : Feeds Store Queue} {outcome : Market.Rest.ItemOutcome}
    (past : outcome ≠ .raised)
    (handled : Market.Rest.contractsItem config context failure position item feeds =
      .ok (next, outcome)) :
    (inferredCoin item).isSome ∧ next.shared.symbol2SettleCoin =
      Function.update feeds.shared.symbol2SettleCoin item.name (inferredCoin item) := by
  unfold Market.Rest.contractsItem at handled
  unfold inferredCoin
  split at handled
  · cases handled
    exact absurd rfl past
  cases halves : splitSymbol item.name with
  | none =>
    rw [halves] at handled
    cases handled
  | some currencies =>
    rw [halves] at handled
    dsimp only at handled
    split at handled
    · cases handled
      exact absurd rfl past
    split at handled
    · cases handled
      exact absurd rfl past
    have same : _ = next := congrArg Prod.fst (Except.ok.inj handled)
    refine ⟨rfl, ?_⟩
    rw [← same, emplaceSymbol_coins]
    funext other
    by_cases named : other = item.name
    · rw [named, Function.update_self]
      exact if_pos rfl
    · rw [Function.update_of_ne named]
      exact if_neg named

/-- After the loop every contract has a coin, and the cache has those of the contracts. -/
theorem collectContracts_coins {config : Market.Config} {context : Market.Context}
    {failure : Option ContractsFailure} {items : List ContractsAckItem} {position : Nat}
    {symbols symbols' : List String} {feeds next : Feeds Store Queue}
    (collected : Market.Rest.collectContracts config context failure items position symbols feeds =
      .ok (next, symbols', .returned)) :
    (∀ item ∈ items, (inferredCoin item).isSome) ∧
      next.shared.symbol2SettleCoin = cachedCoins items feeds.shared.symbol2SettleCoin := by
  induction items generalizing position symbols feeds with
  | nil =>
    cases collected
    exact ⟨List.forall_mem_nil _, rfl⟩
  | cons item later inductionHypothesis =>
    obtain ⟨⟨current, outcome⟩, handled, continued⟩ := Library.bind_ok.mp collected
    have further : outcome ≠ .raised ∧ ∃ symbols'', Market.Rest.collectContracts config context
        failure later (position + 1) symbols'' current = .ok (next, symbols', .returned) := by
      cases outcome with
      | skipped => exact ⟨nofun, symbols, continued⟩
      | included => exact ⟨nofun, symbols ++ [item.name], continued⟩
      | raised => cases continued
    obtain ⟨past, symbols'', further⟩ := further
    obtain ⟨coin, cached⟩ := contractsItem_coins past handled
    obtain ⟨coins, rest⟩ := inductionHypothesis further
    refine ⟨List.forall_mem_cons.mpr ⟨coin, coins⟩, ?_⟩
    rw [rest, cached]
    rfl

variable [LimitQueue String Queue]

theorem emplaceBack_coins (feeds : Feeds Store Queue) (kind : Market.SnapshotKind)
    (symbol : String) :
    (feeds.emplaceBack kind symbol).shared.symbol2SettleCoin = feeds.shared.symbol2SettleCoin := by
  cases kind <;> rfl

/-- A subscription leaves the cache alone. -/
theorem subscribeAll_coins (config : Market.Config) (context : Market.Context)
    (stream : Market.MarketData) (symbols : List String) (feeds : Feeds Store Queue) :
    (stream.subscribeAll config context symbols feeds).shared.symbol2SettleCoin =
      feeds.shared.symbol2SettleCoin := by
  have books (channel : String) (frequency : Int) (depth : Nat) (feeds : Feeds Store Queue) :
      (Market.MarketData.subscribeOrderBook context stream channel symbols frequency depth
        feeds).shared.symbol2SettleCoin = feeds.shared.symbol2SettleCoin := by
    refine foldl_coins ?_ symbols feeds
    exact fun _ _ => rfl
  have candles (channel interval : String) (feeds : Feeds Store Queue) :
      (Market.MarketData.subscribeCandlesticks context stream channel symbols interval
        feeds).shared.symbol2SettleCoin = feeds.shared.symbol2SettleCoin := by
    refine foldl_coins ?_ symbols feeds
    exact fun _ _ => emplaceBack_coins _ _ _
  unfold Market.MarketData.subscribeAll
  split
  · rfl
  dsimp only
  split
  · rw [candles, books]
    rfl
  · rw [books]
    rfl

variable [Symbols String Store]

/-- Giving symbols to the connections leaves the cache alone. -/
theorem symbolsUpdate_coins (config : Market.Config) (context : Market.Context)
    (symbols : List String) (feeds : Feeds Store Queue) :
    (Market.symbolsUpdate config context symbols feeds).shared.symbol2SettleCoin =
      feeds.shared.symbol2SettleCoin := by
  have slices (size : Nat) (feeds : Feeds Store Queue) :
      (Market.ensureSymbolSlices size feeds).shared.symbol2SettleCoin =
        feeds.shared.symbol2SettleCoin := by
    refine foldl_coins ?_ _ feeds
    exact fun _ _ => rfl
  have subscribes (startFrom : Nat) (feeds : Feeds Store Queue) (stream : Market.MarketData) :
      (stream.subscribe config context startFrom feeds).shared.symbol2SettleCoin =
        feeds.shared.symbol2SettleCoin := by
    unfold Market.MarketData.subscribe
    split
    · exact subscribeAll_coins config context stream _ feeds
    · rfl
  unfold Market.symbolsUpdate
  dsimp only
  rw [foldl_coins (subscribes _), slices]
  rfl

/-- The cache after a download. -/
theorem contractsAck_coins {config : Market.Config} {context : Market.Context}
    {message : ContractsAck} {failure : Option ContractsFailure} {feeds next : Feeds Store Queue}
    (downloaded : Market.Rest.contractsAck config context (Market.symbolsUpdate config context)
      message failure feeds = .ok (next, .returned)) :
    (∀ item ∈ message.data, (inferredCoin item).isSome) ∧
      next.shared.symbol2SettleCoin =
        cachedCoins message.data feeds.shared.symbol2SettleCoin := by
  obtain ⟨⟨collected, symbols, outcome⟩, loop, returned⟩ := Library.bind_ok.mp downloaded
  cases outcome with
  | raised => cases returned
  | returned =>
    obtain ⟨coins, cached⟩ := collectContracts_coins loop
    have same : _ = next := congrArg Prod.fst (Except.ok.inj returned)
    refine ⟨coins, ?_⟩
    rw [← same, ← cached]
    split
    · exact symbolsUpdate_coins config context symbols collected
    · rfl

end Download

/-! ### The queries -/

/-- The coin that an output asks with for the status of an order. -/
def Output.settle? : Output → Option String
  | .sendText { payload := .orderStatus _ settle _, .. } => some settle
  | _ => none

/-- The stale orders are queried with their cached coins. -/
theorem checkStaleOrders_coins {Mark : Type} (context : Context) (streams : Streams Mark) :
    (DropCopy.checkStaleOrders context streams).outbox.filterMap Output.settle? =
      streams.outbox.filterMap Output.settle? ++
        context.dispatcher.allStaleOrders.map fun order => context.getSettleCoin order.symbol := by
  unfold DropCopy.checkStaleOrders
  induction context.dispatcher.allStaleOrders generalizing streams with
  | nil => exact (List.append_nil _).symm
  | cons order later inductionHypothesis =>
    rw [List.foldl_cons, inductionHypothesis, List.map_cons, List.append_cons]
    refine congrArg (· ++ _) ?_
    show (streams.outbox ++ [_]).filterMap Output.settle? = _
    rw [List.filterMap_append]
    rfl

/-! ### Coins of the API -/

/-- The name and the type of a contract say that it settles in a coin. -/
def SettlesIn (coin : String) (item : ContractsAckItem) : Prop :=
  ∃ currencies, splitSymbol item.name = some currencies ∧
    (item.type = .direct ∧ currencies.2.toLower = coin ∨
      item.type = .inverse ∧ currencies.1.toLower = coin)

/-- The inferred coin is the coin, up to letter case. -/
theorem settlesIn_iff {coin : String} (written : coin ≠ "") (item : ContractsAckItem) :
    SettlesIn coin item ↔ ∃ inferred, inferredCoin item = some inferred ∧
      inferred.toLower = coin := by
  unfold SettlesIn inferredCoin
  cases splitSymbol item.name with
  | none => simp
  | some currencies =>
    have empty : "".toLower ≠ coin := by
      have lower : "".toLower = "" := by decide +kernel
      rw [lower]
      exact written.symm
    cases item.type <;> simp [settlementCurrency, empty]

/-- The cached coins of contracts are the given coin, up to letter case, and so are those that
status queries of stale orders on them ask with. -/
structure CoinsAre (coin : String) (items : List ContractsAckItem)
    (symbol2SettleCoin : String → Option String) : Prop where
  cached : ∀ item ∈ items, ∃ cached, symbol2SettleCoin item.name = some cached ∧
    cached.toLower = coin ∧ cached ≠ ""
  queried : ∀ (Mark : Type) (context : Context) (streams : Streams Mark),
    context.symbol2SettleCoin = symbol2SettleCoin →
      ∃ coins, (DropCopy.checkStaleOrders context streams).outbox.filterMap Output.settle? =
          streams.outbox.filterMap Output.settle? ++ coins ∧
        List.Forall₂ (fun order sent => order.symbol ∈ items.map ContractsAckItem.name →
          sent.toLower = coin ∧ sent ≠ "") context.dispatcher.allStaleOrders coins

/-- The queries ask with what is cached. -/
theorem coinsAre_of_cached {coin : String} {items : List ContractsAckItem}
    {symbol2SettleCoin : String → Option String}
    (cached : ∀ item ∈ items, ∃ cached, symbol2SettleCoin item.name = some cached ∧
      cached.toLower = coin ∧ cached ≠ "") : CoinsAre coin items symbol2SettleCoin := by
  refine ⟨cached, fun Mark context streams same => ?_⟩
  refine ⟨_, checkStaleOrders_coins context streams, ?_⟩
  refine List.forall₂_map_right_iff.mpr (List.forall₂_same.mpr fun order _ listed => ?_)
  obtain ⟨item, member, named⟩ := List.mem_map.mp listed
  obtain ⟨coin, known, right⟩ := cached item member
  rw [Context.getSettleCoin, same, ← named, known]
  exact right

/-- After a download over the path of an API the coins of the contracts, cached and queried, are
the coin of that path, exactly if the last contract of every name settles in it by name and
type. -/
theorem settle_coins_iff {Store Queue : Type} [LimitQueue String Queue] [Symbols String Store]
    (key : Api.Key) (config : Market.Config) (api : config.api = key.create)
    (context : Market.Context) (message : ContractsAck) (failure : Option ContractsFailure)
    (feeds next : Feeds Store Queue)
    (downloaded : Market.Rest.contractsAck config context (Market.symbolsUpdate config context)
      message failure feeds = .ok (next, .returned)) :
    CoinsAre (pathCoin config.api.futuresContracts) message.data
        next.shared.symbol2SettleCoin ↔
      ∀ item ∈ message.data, lastNamed message.data item.name = some item →
        SettlesIn (pathCoin config.api.futuresContracts) item := by
  obtain ⟨-, cached⟩ := contractsAck_coins downloaded
  have written : pathCoin config.api.futuresContracts ≠ "" := by
    rw [api]
    exact pathCoin_ne key
  have empty : "".toLower = "" := by decide +kernel
  rw [cached]
  constructor
  · intro coins item member last
    rw [settlesIn_iff written]
    obtain ⟨coin, known, right, -⟩ := coins.cached item member
    rw [cachedCoins_eq, last] at known
    exact ⟨coin, known, right⟩
  · intro settles
    refine coinsAre_of_cached fun item member => ?_
    obtain ⟨last, listed, found, named⟩ := lastNamed_of_mem member
    obtain ⟨coin, inferred, right⟩ := (settlesIn_iff written last).mp
      (settles last listed (named ▸ found))
    refine ⟨coin, ?_, right, ?_⟩
    · rw [cachedCoins_eq, found]
      exact inferred
    · rintro rfl
      exact written (right.symm.trans empty)

/-! ### Plain contracts -/

/-- A contract of a type. -/
def plainContract (name : String) (type : ContractType) : ContractsAckItem where
  name
  type
  orderPriceRound := .number 1
  orderSizeMin := .number 1
  orderSizeMax := .number 1000000
  configChangeTime := 0
  createTime := 0

/-- The plain gateway, with the coin of its API. -/
def plainApi (key : Api.Key) : Market.Config := { Market.plainConfig with api := key.create }

/-- What a download of contracts caches. -/
def plainCache (key : Api.Key) (items : List ContractsAckItem) :
    Except Market.Fatal (Feeds (PlainSymbols String) (PlainQueue String) × Market.Outcome) :=
  Market.Rest.contractsAck (plainApi key) ⟨0, fun _ => false⟩
    (Market.symbolsUpdate (plainApi key) ⟨0, fun _ => false⟩) ⟨items⟩ none
    (.initial (plainApi key))

/-- A direct contract quoted in the coin of the API settles in it. -/
theorem settle_coins_plain : ∃ next,
    plainCache .usdt [plainContract "BTC_USDT" .direct] = .ok (next, .returned) ∧
      CoinsAre "usdt" [plainContract "BTC_USDT" .direct] next.shared.symbol2SettleCoin := by
  refine ⟨_, rfl, ?_⟩
  refine (settle_coins_iff .usdt (plainApi .usdt) rfl ⟨0, fun _ => false⟩
    ⟨[plainContract "BTC_USDT" .direct]⟩ none (.initial (plainApi .usdt)) _ rfl).mpr ?_
  intro item member _
  rw [List.mem_singleton.mp member]
  exact ⟨("BTC", "USDT"), by decide +kernel, Or.inl ⟨rfl, by decide +kernel⟩⟩

/-- A direct contract quoted in dollars is queried in dollars, though it settles in bitcoin. -/
theorem quoted_contract_miscached : ∃ next,
    plainCache .btc [plainContract "ETH_USD" .direct] = .ok (next, .returned) ∧
      ¬ CoinsAre "btc" [plainContract "ETH_USD" .direct] next.shared.symbol2SettleCoin := by
  refine ⟨_, rfl, fun coins => ?_⟩
  obtain ⟨cached, known, right, -⟩ := coins.cached _ List.mem_cons_self
  have dollars : some "USD" = some cached := known
  cases dollars
  exact absurd right (by decide +kernel)

end GateFutures.Gateway
