/-
This file proves that an update tells which connection it came from.

All connections of the gateway are numbered in the order they were created, and every update
carries the number of the connection whose event was handled. The numbers are distinct as long as
there are no more connections than numbers: one for REST, two for every account, and one for every
slice of the symbols.
-/

import GateFutures.Gateway.Identities
import GateFutures.System.Runs

namespace GateFutures.System

open Framework Library Protocol Roq

variable {Driver Mark MarketDriver Store Queue Digest Settings SymbolLists User Limit : Type}

/-! ### Connections -/

/-- A connection of the gateway. -/
inductive Connection
  | rest
  | orderEntry (account : String)
  | dropCopy (account : String)
  | marketData (position : Nat)
  deriving DecidableEq

/-- The connections of the market data, with their numbers. -/
def marketConnections (streams : List Market.MarketData) : List (Connection × UInt16) :=
  streams.mapIdx fun position stream => (.marketData position, stream.streamId)

/-- The connections that the controller was created with, with their numbers. -/
def Layout.created (layout : Layout) : List (Connection × UInt16) :=
  [(.rest, layout.restStreamId)] ++
    layout.orderEntry.entries.map (fun entry => (.orderEntry entry.1, entry.2)) ++
    layout.dropCopy.entries.map fun entry => (.dropCopy entry.1, entry.2)

/-- All connections with their numbers, in the order they were created. -/
def Layout.connections (layout : Layout)
    (controller : Market.Controller MarketDriver Store Queue) : List (Connection × UInt16) :=
  layout.created ++ marketConnections controller.feeds.marketData

theorem mem_marketConnections {streams : List Market.MarketData} {position : Nat}
    {streamId : UInt16} :
    (.marketData position, streamId) ∈ marketConnections streams ↔
      streams[position]?.map Market.MarketData.streamId = some streamId := by
  rw [marketConnections, List.mem_mapIdx, Option.map_eq_some_iff]
  constructor
  · rintro ⟨index, inside, same⟩
    obtain ⟨here, rfl⟩ := Prod.mk.inj same
    cases here
    exact ⟨_, List.getElem?_eq_getElem inside, rfl⟩
  · rintro ⟨stream, there, rfl⟩
    obtain ⟨inside, rfl⟩ := List.getElem?_eq_some_iff.mp there
    exact ⟨position, inside, rfl⟩

/-- The connections that the controller is created with are numbered from 1. -/
theorem Layout.Created.ids {setup : Setup Digest} {visits : Visits}
    {items : List (Item SymbolLists User Limit)} {layout : Layout}
    (created : layout.Created setup visits items) :
    layout.created.map Prod.snd =
      Market.following 0 (1 + 2 * layout.accounts.entries.length) := by
  have count : (layout.names visits).length = layout.accounts.entries.length := by
    rw [Layout.names, List.length_map, (visits.accounts.permutes _).length_eq]
  have orderEntry : layout.orderEntry.entries.map Prod.snd =
      Market.following 1 layout.accounts.entries.length := by
    rw [created.orderEntry, numbered_ids, count]
  have dropCopy : layout.dropCopy.entries.map Prod.snd =
      Market.following (1 + UInt16.ofNat layout.accounts.entries.length)
        layout.accounts.entries.length := by
    rw [created.dropCopy, numbered_ids, count]
  rw [two_mul, ← Nat.add_assoc, Market.following_add 0 (1 + _), Market.following_add 0 1,
    Layout.created, List.map_append, List.map_append, List.map_map, List.map_map]
  refine congrArg₂ (· ++ ·) (congrArg₂ (· ++ ·) ?_ orderEntry) ?_
  · rw [created.restStreamId]
    rfl
  · rw [UInt16.ofNat_add, UInt16.zero_add]
    exact dropCopy

/-- All connections are numbered from 1. -/
theorem Layout.Created.connections_ids {setup : Setup Digest} {visits : Visits}
    {items : List (Item SymbolLists User Limit)} {layout : Layout}
    (created : layout.Created setup visits items)
    {controller : Market.Controller MarketDriver Store Queue}
    (identified : controller.feeds.Identified (layout.market setup)) :
    (layout.connections controller).map Prod.snd =
      Market.following 0
        (1 + 2 * layout.accounts.entries.length + controller.feeds.marketData.length) := by
  have market : (marketConnections controller.feeds.marketData).map Prod.snd =
      Market.following layout.streamId controller.feeds.marketData.length := by
    rw [marketConnections, List.mapIdx_eq_zipIdx_map, List.map_map]
    show controller.feeds.marketData.zipIdx.map (Market.MarketData.streamId ∘ Prod.fst) = _
    rw [← List.map_map, List.zipIdx_map_fst]
    exact identified.marketData
  rw [Layout.connections, List.map_append, created.ids, market,
    Market.following_add 0 (1 + 2 * layout.accounts.entries.length), created.streamId,
    UInt16.ofNat_add, UInt16.zero_add]
  rfl

/-- No connection is listed twice. -/
theorem Layout.connections_distinct (layout : Layout)
    (controller : Market.Controller MarketDriver Store Queue) :
    ((layout.connections controller).map Prod.fst).Nodup := by
  have orderEntry : (layout.orderEntry.entries.map fun entry =>
      Connection.orderEntry entry.1).Nodup := by
    refine List.pairwise_map.mpr ((List.pairwise_map.mp layout.orderEntry.distinct).imp ?_)
    exact fun other same => other (Connection.orderEntry.inj same)
  have dropCopy : (layout.dropCopy.entries.map fun entry =>
      Connection.dropCopy entry.1).Nodup := by
    refine List.pairwise_map.mpr ((List.pairwise_map.mp layout.dropCopy.distinct).imp ?_)
    exact fun other same => other (Connection.dropCopy.inj same)
  have market : ((marketConnections controller.feeds.marketData).map Prod.fst).Nodup := by
    rw [marketConnections, List.mapIdx_eq_zipIdx_map, List.map_map]
    show (controller.feeds.marketData.zipIdx.map (Connection.marketData ∘ Prod.snd)).Nodup
    rw [← List.map_map, List.zipIdx_map_snd]
    exact (List.nodup_range').map fun first second same => Connection.marketData.inj same
  have positions {connection : Connection}
      (member : connection ∈ (marketConnections controller.feeds.marketData).map Prod.fst) :
      ∃ position, connection = .marketData position := by
    obtain ⟨entry, there, rfl⟩ := List.mem_map.mp member
    obtain ⟨position, -, rfl⟩ := List.mem_mapIdx.mp there
    exact ⟨position, rfl⟩
  rw [Layout.connections, Layout.created]
  simp only [List.map_append, List.map_map, List.map_cons, List.map_nil, Function.comp_def,
    List.nodup_append, List.nodup_singleton, orderEntry, dropCopy, market, true_and,
    List.mem_append, List.mem_singleton, List.mem_map]
  refine ⟨⟨?_, ?_⟩, ?_⟩
  · rintro _ rfl _ ⟨entry, -, rfl⟩ ⟨⟩
  · rintro _ (rfl | ⟨entry, -, rfl⟩) _ ⟨entry', -, rfl⟩ ⟨⟩
  · intro connection earlier other later same
    obtain ⟨position, rfl⟩ := positions (List.mem_map.mpr later)
    subst same
    rcases earlier with (impossible | ⟨entry, -, impossible⟩) | ⟨entry, -, impossible⟩ <;>
      cases impossible

/-! ### Numbers -/

section Numbers

variable [Download2 Gateway.DropCopy.State Driver] [LimitRequest Mark]
  [Download2 Market.Rest.State MarketDriver] [LawfulCallbacks Market.Rest.State MarketDriver]
  [Symbols String Store] [LimitQueue String Queue] [LawfulLimitQueue String Queue]

/-- In every run the connections are numbered from 1, in the order they were created. -/
theorem run_ids {setup : Setup Digest} {visits : Visits}
    {items : List (Item SymbolLists User Limit)} {layout : Layout}
    (created : layout.Created setup visits items)
    {history : GatewayHistory Driver Mark MarketDriver Store Queue}
    {states : States Driver Mark MarketDriver Store Queue}
    (run : (gateway setup layout visits).Run (fun _ _ _ => True) history states) :
    (layout.connections (states .market)).map Prod.snd = Market.following 0
      (1 + 2 * layout.accounts.entries.length +
        (Market.Controller.feeds (states .market)).marketData.length) :=
  created.connections_ids (Market.run_identified (run.project .market))

/-- No connection is ever listed twice, and all connections have different numbers exactly as long
as there are no more than 65536: one, two for every account that is configured, and those of the
market data. -/
theorem connections_numbered (exchange : String) (gatewaySettings : Settings)
    (symbols : SymbolLists)
    (readHistory : History (Config Settings SymbolLists User Limit)
      (Item SymbolLists User Limit) Unit)
    (config : Config Settings SymbolLists User Limit)
    (read : (Config.reader (.initial exchange gatewaySettings symbols)).Run (fun _ _ _ => True)
      readHistory config) (setup : Setup Digest) (visits : Visits) (layout : Layout)
    (laid : createLayout setup visits config = .ok layout)
    (history : GatewayHistory Driver Mark MarketDriver Store Queue)
    (states : States Driver Mark MarketDriver Store Queue)
    (run : (gateway setup layout visits).Run (fun _ _ _ => True) history states) :
    ((layout.connections (states .market)).map Prod.fst).Nodup ∧
      (((layout.connections (states .market)).map Prod.snd).Nodup ↔
        1 + 2 * layout.accounts.entries.length +
          (Market.Controller.feeds (states .market)).marketData.length ≤ 2 ^ 16) := by
  refine ⟨layout.connections_distinct _, ?_⟩
  rw [run_ids (.of_ok (Keeps.of_run read) laid) run]
  exact Market.following_nodup

/-! ### Where updates come from -/

/-- The connection whose event a turn handled. A request of a client comes from none. -/
def turnConnection : Turn (Part.State Driver Mark MarketDriver Store Queue) Part.Input Part.Output →
    Option Connection
  | ⟨.market, entry⟩ =>
    match entry.input.event with
    | .subscribe _ => none
    | .stream position _ => some (.marketData position)
    | .timer .. | .restConnected | .restDisconnected | .currenciesReply .. | .contractsReply ..
    | .orderBookReply .. | .candlesticksReply .. => some .rest
  | ⟨.throttle, _⟩ => none
  | ⟨.account name, entry⟩ =>
    match entry.input.event.stream with
    | .dropCopy => some (.dropCopy name)
    | .orderEntry => some (.orderEntry name)

/-- The numbers that the updates of a turn carry. -/
def turnIds (setup : Setup Digest) (layout : Layout) :
    Turn (Part.State Driver Mark MarketDriver Store Queue) Part.Input Part.Output → List UInt16
  | ⟨.market, entry⟩ => entry.output.filterMap Market.Output.streamId?
  | ⟨.throttle, _⟩ => []
  | ⟨.account name, entry⟩ =>
    match layout.accounts.find? name with
    | some account =>
      entry.output.filterMap (Gateway.Output.streamId? (layout.account setup account))
    | none => []

/-- The accounts that the updates of a turn name. -/
def turnAccounts :
    Turn (Part.State Driver Mark MarketDriver Store Queue) Part.Input Part.Output → List String
  | ⟨.market, _⟩ | ⟨.throttle, _⟩ => []
  | ⟨.account _, entry⟩ => entry.output.filterMap Gateway.Output.account?

/-- An account is created under its name. -/
theorem Layout.Created.named {setup : Setup Digest} {visits : Visits}
    {items : List (Item SymbolLists User Limit)} {layout : Layout}
    (created : layout.Created setup visits items) {name : String} {account : Gateway.Account}
    (found : layout.accounts.find? name = some account) : account.name = name := by
  rw [created.accounts, Option.map_eq_some_iff] at found
  obtain ⟨first, listed, rfl⟩ := found
  obtain ⟨before, behind, parts, -⟩ := List.lookup_eq_some_iff.mp listed
  have member : (name, first) ∈ accountItems items := by
    rw [parts]
    exact List.mem_append_right _ List.mem_cons_self
  obtain ⟨item, -, same⟩ := List.mem_filterMap.mp member
  cases item with
  | account account =>
    obtain ⟨rfl, rfl⟩ := Prod.mk.inj (Option.some.inj same)
    rfl
  | _ => cases same

/-- Both connections of an account are there, under its name and with its numbers. -/
theorem Layout.Created.account_connections {setup : Setup Digest} {visits : Visits}
    {items : List (Item SymbolLists User Limit)} {layout : Layout}
    (created : layout.Created setup visits items) {name : String} {account : Gateway.Account}
    (found : layout.accounts.find? name = some account) :
    (.dropCopy name, (layout.account setup account).dropCopyStreamId) ∈ layout.created ∧
      (.orderEntry name, (layout.account setup account).orderEntryStreamId) ∈ layout.created := by
  have known : name ∈ layout.names visits := by
    refine ((visits.accounts.permutes layout.accounts.entries).map Prod.fst).mem_iff.mpr ?_
    exact Registry.find?_isSome.mp (Option.isSome_iff_exists.mpr ⟨account, found⟩)
  have listed {registry : Registry String UInt16} {streamId : UInt16}
      (entries : registry.entries = numbered streamId (layout.names visits)) :
      (name, (registry.find? account.name).getD 0) ∈ registry.entries := by
    have there : name ∈ registry.keys := by
      rw [Registry.keys, entries, numbered_names]
      exact known
    obtain ⟨value, value_found⟩ := Option.isSome_iff_exists.mp (Registry.find?_isSome.mpr there)
    rw [created.named found, value_found]
    exact Registry.find?_eq_some.mp value_found
  have dropCopy := listed created.dropCopy
  have orderEntry := listed created.orderEntry
  refine ⟨List.mem_append_right _ (List.mem_map.mpr ⟨_, dropCopy, rfl⟩), ?_⟩
  exact List.mem_append_left _ (List.mem_append_right _ (List.mem_map.mpr ⟨_, orderEntry, rfl⟩))

section Owners

variable [LawfulLimitRequest Mark] [LawfulDownload2 Gateway.DropCopy.State Driver]
  {setup : Setup Digest} {visits : Visits} {items : List (Item SymbolLists User Limit)}
  {layout : Layout} {history : GatewayHistory Driver Mark MarketDriver Store Queue}
  {states : States Driver Mark MarketDriver Store Queue}

omit [LawfulCallbacks Market.Rest.State MarketDriver] [LawfulLimitQueue String Queue]
  [LawfulLimitRequest Mark] [LawfulDownload2 Gateway.DropCopy.State Driver] in
/-- The turns of an account's streams are a run of the account. -/
theorem project_account
    (run : (gateway setup layout visits).Run (fun _ _ _ => True) history states)
    {name : String} {account : Gateway.Account}
    (found : layout.accounts.find? name = some account) :
    ∃ session, (Gateway.account (layout.account setup account)).Run (fun _ _ _ => True)
      (ownTurns (Part.account name) (turns history)) session := by
  have machine : (parts setup layout : Family (Part.State Driver Mark MarketDriver Store Queue)
      Part.Input Part.Output Part.Failure) (.account name) =
        Gateway.account (layout.account setup account) := by
    simp only [parts, found]
  have own := run.project (.account name)
  rw [machine] at own
  exact ⟨_, own⟩

omit [LawfulCallbacks Market.Rest.State MarketDriver] [LawfulLimitQueue String Queue] in
/-- What the streams of an account publish is signed. -/
theorem turn_signed (run : (gateway setup layout visits).Run (fun _ _ _ => True) history states)
    {name : String} {account : Gateway.Account}
    (found : layout.accounts.find? name = some account)
    {entry : Gateway.AccountEntry Driver Mark}
    (member : (⟨.account name, entry⟩ : Turn (Part.State Driver Mark MarketDriver Store Queue)
      Part.Input Part.Output) ∈ turns history) :
    ∀ output ∈ entry.output, output.Signed (layout.account setup account)
      entry.input.event.stream := by
  obtain ⟨session, own⟩ := project_account run found
  exact Gateway.run_signed own entry (mem_ownTurns.mpr member)

omit [LawfulCallbacks Market.Rest.State MarketDriver] [LawfulLimitQueue String Queue]
  [LawfulLimitRequest Mark] [LawfulDownload2 Gateway.DropCopy.State Driver] in
/-- Streams without an account publish nothing. -/
theorem turn_silent (run : (gateway setup layout visits).Run (fun _ _ _ => True) history states)
    {name : String} (missing : layout.accounts.find? name = none)
    {entry : Gateway.AccountEntry Driver Mark}
    (member : (⟨.account name, entry⟩ : Turn (Part.State Driver Mark MarketDriver Store Queue)
      Part.Input Part.Output) ∈ turns history) : entry.output = [] := by
  have silent : History.Always (fun _ entry => entry.output = [])
      (ownTurns (.account name) (turns history)) := by
    refine (run.project (.account name)).always fun _ _ _ _ _ _ _ taken => ?_
    simp only [parts, missing] at taken
    cases taken
    rfl
  exact History.always_iff_forall_mem.mp silent entry (mem_ownTurns.mpr member)

/-- A number that an update carries is that of a connection, the one whose event was handled. -/
theorem turn_owner (created : layout.Created setup visits items)
    (run : (gateway setup layout visits).Run (fun _ _ _ => True) history states)
    {turn : Turn (Part.State Driver Mark MarketDriver Store Queue) Part.Input Part.Output}
    (member : turn ∈ turns history) {streamId : UInt16}
    (carries : streamId ∈ turnIds setup layout turn) :
    ∃ connection, turnConnection turn = some connection ∧
      (connection, streamId) ∈ layout.connections (states .market) := by
  obtain ⟨part, entry⟩ := turn
  cases part with
  | throttle => cases carries
  | market =>
    obtain ⟨update, published, carried⟩ := List.mem_filterMap.mp carries
    have handles := Market.run_attributes (run.project .market) entry (mem_ownTurns.mpr member)
      update published streamId carried
    have rest : (.rest, layout.restStreamId) ∈ layout.connections (states .market) :=
      List.mem_append_left _ (List.mem_append_left _ (List.mem_append_left _ List.mem_cons_self))
    simp only [turnConnection]
    cases event : entry.input.event with
    | subscribe symbols =>
      rw [event] at handles
      cases handles
    | stream position event' =>
      rw [event] at handles
      exact ⟨_, rfl, List.mem_append_right _ (mem_marketConnections.mpr handles)⟩
    | _ =>
      rw [event] at handles
      cases handles
      exact ⟨_, rfl, rest⟩
  | account name =>
    simp only [turnIds] at carries
    cases found : layout.accounts.find? name with
    | none =>
      rw [found] at carries
      cases carries
    | some account =>
      rw [found] at carries
      obtain ⟨output, published, carried⟩ := List.mem_filterMap.mp carries
      have signed := (turn_signed run found member output published).streamId
      obtain ⟨dropCopy, orderEntry⟩ := created.account_connections found
      rw [carried] at signed
      rcases signed with impossible | same
      · cases impossible
      · rw [Option.some.inj same]
        simp only [turnConnection]
        cases entry.input.event.stream with
        | dropCopy => exact ⟨_, rfl, List.mem_append_left _ dropCopy⟩
        | orderEntry => exact ⟨_, rfl, List.mem_append_left _ orderEntry⟩

/-- In every run with no more than 65536 connections, every number that an update carries is that
of the connection whose event was handled, and of no other; and an update of an account's streams
that names an account names theirs. -/
theorem updates_attributed (exchange : String) (gatewaySettings : Settings)
    (symbols : SymbolLists)
    (readHistory : History (Config Settings SymbolLists User Limit)
      (Item SymbolLists User Limit) Unit)
    (config : Config Settings SymbolLists User Limit)
    (read : (Config.reader (.initial exchange gatewaySettings symbols)).Run (fun _ _ _ => True)
      readHistory config) (setup : Setup Digest) (visits : Visits) (layout : Layout)
    (laid : createLayout setup visits config = .ok layout)
    (history : GatewayHistory Driver Mark MarketDriver Store Queue)
    (states : States Driver Mark MarketDriver Store Queue)
    (run : (gateway setup layout visits).Run (fun _ _ _ => True) history states)
    (few : 1 + 2 * layout.accounts.entries.length +
      (Market.Controller.feeds (states .market)).marketData.length ≤ 2 ^ 16) :
    ∀ turn ∈ turns history,
      (∀ streamId ∈ turnIds setup layout turn, ∀ connection,
        turnConnection turn = some connection ↔
          (connection, streamId) ∈ layout.connections (states .market)) ∧
      ∀ account ∈ turnAccounts turn, turn.part = .account account := by
  have created := Layout.Created.of_ok (Keeps.of_run read) laid
  intro turn member
  refine ⟨fun streamId carries connection => ?_, fun account names => ?_⟩
  · obtain ⟨owner, handled, listed⟩ := turn_owner created run member carries
    refine ⟨fun same => ?_, fun other => ?_⟩
    · rw [← Option.some.inj (handled.symm.trans same)]
      exact listed
    · have distinct : ((layout.connections (states .market)).map Prod.snd).Nodup := by
        rw [run_ids created run]
        exact Market.following_nodup.mpr few
      rw [handled, (Prod.mk.inj (List.inj_on_of_nodup_map distinct listed other rfl)).1]
  · obtain ⟨part, entry⟩ := turn
    cases part with
    | market | throttle => cases names
    | account name =>
      obtain ⟨output, published, named⟩ := List.mem_filterMap.mp names
      cases found : layout.accounts.find? name with
      | none =>
        rw [turn_silent run found member] at published
        cases published
      | some account =>
        have signed := (turn_signed run found member output published).account
        rw [named] at signed
        rcases signed with impossible | same
        · cases impossible
        · have known : (layout.account setup account).account.name = name := created.named found
          rw [Option.some.inj same, known]

end Owners

end Numbers

/-! ### A plain run -/

/-- Clients subscribe to three symbols, in slices of two, and the second account connects. -/
def plainSubscriptions : List Input :=
  plainInputs (.subscribe ["BTC_USDT", "ETH_USDT", "SOL_USDT"] :: plainConnect "A2")

/-- Five connections of the accounts and of REST, and two of the market data. -/
theorem connections_numbered_plain : ∃ history states,
    (plainGateway plainVisits).Run (fun _ _ _ => True) history states ∧
      (Market.Controller.feeds (states .market)).marketData.length = 2 ∧
      ((plainLayout.connections (states .market)).map Prod.snd).Nodup := by
  have read : (Config.reader (Config.initial "gate.io" () ())).Run (fun _ _ _ => True) _ _ :=
    .of_replay plainItems rfl (History.always_of_forall (fun _ _ => trivial) _)
  have run : (plainGateway plainVisits).Run (fun _ _ _ => True) _ _ :=
    .of_replay plainSubscriptions rfl (History.always_of_forall (fun _ _ => trivial) _)
  have numbered := connections_numbered "gate.io" () () _ _ read plainSetup plainVisits plainLayout
    rfl _ _ run
  exact ⟨_, _, run, rfl, numbered.2.mpr (by decide)⟩

/-- What the trading connection of the second account published on its login carries its number,
which is no other connection's. -/
theorem updates_attributed_plain : ∃ history states turn,
    (plainGateway plainVisits).Run (fun _ _ _ => True) history states ∧ turn ∈ turns history ∧
      turnIds plainSetup plainLayout turn = [5] ∧ ∀ connection,
        turnConnection turn = some connection ↔
          (connection, 5) ∈ plainLayout.connections (states .market) := by
  have read : (Config.reader (Config.initial "gate.io" () ())).Run (fun _ _ _ => True) _ _ :=
    .of_replay plainItems rfl (History.always_of_forall (fun _ _ => trivial) _)
  have run : (plainGateway plainVisits).Run (fun _ _ _ => True) _ _ :=
    .of_replay plainSubscriptions rfl (History.always_of_forall (fun _ _ => trivial) _)
  have attributed := updates_attributed "gate.io" () () _ _ read plainSetup plainVisits plainLayout
    rfl _ _ run (by decide) _ List.mem_cons_self
  exact ⟨_, _, _, run, List.mem_cons_self, rfl, attributed.1 5 List.mem_cons_self⟩

end GateFutures.System
