/-
This file proves what the controller is created as.

Creation never fails: every name that is configured gets an account and two connections, which
share the request of that name. The connections are numbered from 1 in the order they are created.
-/

import GateFutures.Market.Identities
import GateFutures.System.Controller

namespace GateFutures.System

open Framework Library Protocol Roq

variable {Digest Settings Symbols User Limit : Type}

/-! ### Creation -/

/-- `Account::Account`, of an account that is configured. -/
def accountOf (setup : Setup Digest) (account : AccountConfig) : Gateway.Account :=
  let crypto : Tools.Crypto := { key := account.login, secret := account.secret }
  { name := account.name
    key := account.login
    createSignatureLogin := crypto.createSignatureLogin setup.cryptography
    createSignature := crypto.createSignature setup.cryptography }

/-- The numbers of connections that are created one after the other for names. -/
def numbered (streamId : UInt16) : List String → List (String × UInt16)
  | [] => []
  | name :: later => (name, streamId + 1) :: numbered (streamId + 1) later

@[simp] theorem numbered_names (streamId : UInt16) (names : List String) :
    (numbered streamId names).map Prod.fst = names := by
  induction names generalizing streamId with
  | nil => rfl
  | cons name later inductionHypothesis =>
    rw [numbered, List.map_cons, inductionHypothesis]

theorem numbered_ids (streamId : UInt16) (names : List String) :
    (numbered streamId names).map Prod.snd = Market.following streamId names.length := by
  induction names generalizing streamId with
  | nil => rfl
  | cons name later inductionHypothesis =>
    rw [numbered, List.map_cons, inductionHypothesis, List.length_cons, Nat.add_comm,
      Market.following_add]
    rfl

/-- Streams are created for accounts whose requests exist, numbered in order. -/
theorem createStreams_ok {requests : Registry String Unit}
    {items : List (String × Gateway.Account)}
    (named : ∀ item ∈ items, item.2.name = item.1)
    (requested : ∀ item ∈ items, item.1 ∈ requests.keys) (streamId : UInt16)
    (streams : Registry String UInt16) :
    createStreams requests items streamId streams =
      .ok (streamId + UInt16.ofNat items.length,
        streams.emplaceAll (numbered streamId (items.map Prod.fst))) := by
  induction items generalizing streamId streams with
  | nil =>
    rw [createStreams, List.length_nil, show UInt16.ofNat 0 = 0 from rfl, UInt16.add_zero]
    rfl
  | cons item later inductionHypothesis =>
    have found : getRequest requests item.2.name = .ok () := by
      obtain ⟨request, there⟩ := Option.isSome_iff_exists.mp
        (Registry.find?_isSome.mpr (requested item List.mem_cons_self))
      rw [getRequest, named item List.mem_cons_self, there]
    rw [createStreams, found]
    refine (inductionHypothesis (fun other member => named other (List.mem_cons_of_mem item member))
      (fun other member => requested other (List.mem_cons_of_mem item member)) _ _).trans ?_
    rw [List.map_cons, numbered, named item List.mem_cons_self, List.length_cons,
      UInt16.ofNat_add, UInt16.add_assoc, UInt16.add_comm 1]
    rfl

section Created

variable {items : List (Item Symbols User Limit)} {config : Config Settings Symbols User Limit}
  (setup : Setup Digest) (visits : Visits)

/-- The entry of a configured account is the first of its name. -/
theorem createAccount_ok (keeps : Keeps items config) {entry : String × AccountConfig}
    (member : entry ∈ config.accounts.entries) :
    createAccount setup config entry.2.name = .ok (accountOf setup entry.2) := by
  have found : config.accounts.find? entry.2.name = some entry.2 := by
    rw [← keeps.named entry member]
    exact Registry.find?_of_mem member
  rw [createAccount, Config.getApiKey, Config.getSecret, Config.ofAccount, Config.ofAccount, found]
  rfl

theorem createAccounts_ok (keeps : Keeps items config) :
    ∃ accounts, createAccounts setup visits config = .ok accounts ∧
      accounts.entries = (visits.configured.visit config.accounts.entries).map fun entry =>
        (entry.1, accountOf setup entry.2) := by
  have permutation := visits.configured.permutes config.accounts.entries
  have created : (visits.configured.visit config.accounts.entries).mapM (fun entry => do
        let account ← createAccount setup config entry.2.name
        return (entry.2.name, account)) =
      .ok ((visits.configured.visit config.accounts.entries).map fun entry =>
        (entry.1, accountOf setup entry.2)) := by
    refine mapM_ok fun entry member => ?_
    have kept := permutation.mem_iff.mp member
    rw [createAccount_ok setup keeps kept, keeps.named entry kept]
    rfl
  refine ⟨_, ?_, Registry.entries_emplaceAll .empty ?_⟩
  · rw [createAccounts, created]
    rfl
  · rw [Registry.empty, List.nil_append, List.map_map]
    exact ((permutation.map Prod.fst).nodup_iff).mpr config.accounts.distinct

/-- Every account has a request. -/
theorem createRequests_keys (keeps : Keeps items config) {entry : String × AccountConfig}
    (member : entry ∈ config.accounts.entries) :
    entry.1 ∈ (createRequests visits config).keys := by
  rw [← Registry.find?_isSome, createRequests, Registry.find?_emplaceAll, Registry.find?,
    Registry.empty, List.lookup_nil, Option.none_or, List.lookup_isSome_iff]
  refine ⟨(entry.2.name, ()), List.mem_map.mpr ⟨entry, ?_, rfl⟩, ?_⟩
  · exact (visits.configured.permutes config.accounts.entries).mem_iff.mpr member
  · exact beq_iff_eq.mpr (keeps.named entry member)

end Created

/-- The names of the accounts, in the order in which their connections are created. -/
def Layout.names (visits : Visits) (layout : Layout) : List String :=
  (visits.accounts.visit layout.accounts.entries).map Prod.fst

/-- What the controller is created as: the accounts have the keys that were configured first, and
the connections are numbered. -/
structure Layout.Created (setup : Setup Digest) (visits : Visits)
    (items : List (Item Symbols User Limit)) (layout : Layout) : Prop where
  accounts : ∀ name, layout.accounts.find? name =
    ((accountItems items).lookup name).map (accountOf setup)
  restStreamId : layout.restStreamId = 1
  orderEntry : layout.orderEntry.entries = numbered 1 (layout.names visits)
  dropCopy : layout.dropCopy.entries =
    numbered (1 + UInt16.ofNat layout.accounts.entries.length) (layout.names visits)
  streamId : layout.streamId = 1 + UInt16.ofNat (2 * layout.accounts.entries.length)

/-- Accounts that were created are found under their names, with what was configured. -/
theorem find?_created {items : List (Item Symbols User Limit)}
    {config : Config Settings Symbols User Limit} (keeps : Keeps items config)
    {setup : Setup Digest} {visits : Visits} {accounts : Registry String Gateway.Account}
    (entries : accounts.entries = (visits.configured.visit config.accounts.entries).map
      fun entry => (entry.1, accountOf setup entry.2)) (name : String) :
    accounts.find? name = ((accountItems items).lookup name).map (accountOf setup) := by
  refine Option.ext fun account => ?_
  rw [Registry.find?_eq_some, entries, List.mem_map, ← Config.find?_eq keeps,
    Option.map_eq_some_iff]
  constructor
  · rintro ⟨entry, member, same⟩
    have kept := (visits.configured.permutes config.accounts.entries).mem_iff.mp member
    obtain ⟨rfl, rfl⟩ := Prod.mk.inj same
    exact ⟨entry.2, Registry.find?_of_mem kept, rfl⟩
  · rintro ⟨first, found, rfl⟩
    have kept := Registry.find?_eq_some.mp found
    exact ⟨(name, first), (visits.configured.permutes _).mem_iff.mpr kept, rfl⟩

/-- The accounts that are created are named after their entries, and have requests. -/
theorem created_requested {items : List (Item Symbols User Limit)}
    {config : Config Settings Symbols User Limit} (keeps : Keeps items config)
    {setup : Setup Digest} {visits : Visits} {accounts : Registry String Gateway.Account}
    (entries : accounts.entries = (visits.configured.visit config.accounts.entries).map
      fun entry => (entry.1, accountOf setup entry.2)) {item : String × Gateway.Account}
    (member : item ∈ visits.accounts.visit accounts.entries) :
    item.2.name = item.1 ∧ item.1 ∈ (createRequests visits config).keys := by
  have there := (visits.accounts.permutes accounts.entries).mem_iff.mp member
  rw [entries, List.mem_map] at there
  obtain ⟨entry, listed, rfl⟩ := there
  have kept := (visits.configured.permutes config.accounts.entries).mem_iff.mp listed
  exact ⟨(keeps.named entry kept).symm, createRequests_keys visits keeps kept⟩

/-- The controller is created from any configuration that keeps what it read. -/
theorem createLayout_ok {items : List (Item Symbols User Limit)}
    {config : Config Settings Symbols User Limit} (keeps : Keeps items config)
    (setup : Setup Digest) (visits : Visits) :
    ∃ layout, createLayout setup visits config = .ok layout ∧
      layout.Created setup visits items := by
  obtain ⟨accounts, created, entries⟩ := createAccounts_ok setup visits keeps
  have permutation := visits.accounts.permutes accounts.entries
  let names := (visits.accounts.visit accounts.entries).map Prod.fst
  have streams (streamId : UInt16) : createStreams (createRequests visits config)
      (visits.accounts.visit accounts.entries) streamId .empty =
        .ok (streamId + UInt16.ofNat accounts.entries.length,
          Registry.empty.emplaceAll (numbered streamId names)) := by
    rw [← permutation.length_eq]
    exact createStreams_ok (fun item member => (created_requested keeps entries member).1)
      (fun item member => (created_requested keeps entries member).2) streamId .empty
  have distinct (streamId : UInt16) :
      (Registry.empty.emplaceAll (numbered streamId names)).entries = numbered streamId names := by
    refine Registry.entries_emplaceAll .empty ?_
    rw [Registry.empty, List.nil_append, numbered_names]
    exact (permutation.map Prod.fst).nodup_iff.mpr accounts.distinct
  let first : UInt16 := 1 + UInt16.ofNat accounts.entries.length
  have laid : createLayout setup visits config = .ok
      { accounts, restStreamId := 1, orderEntry := Registry.empty.emplaceAll (numbered 1 names)
        dropCopy := Registry.empty.emplaceAll (numbered first names)
        streamId := first + UInt16.ofNat accounts.entries.length } := by
    rw [createLayout, created]
    dsimp only [bind, Except.bind]
    rw [createOrderEntry, show (0 + 1 : UInt16) = 1 from rfl, streams]
    dsimp only
    rw [createDropCopy, streams]
    rfl
  refine ⟨_, laid, find?_created keeps entries, rfl, distinct 1, distinct first, ?_⟩
  rw [two_mul, UInt16.ofNat_add, ← UInt16.add_assoc]

/-- Creation never fails, whatever was configured and in whatever order maps are visited. -/
theorem layout_created (exchange : String) (gatewaySettings : Settings) (symbols : Symbols)
    (history : History (Config Settings Symbols User Limit) (Item Symbols User Limit) Unit)
    (config : Config Settings Symbols User Limit)
    (run : (Config.reader (.initial exchange gatewaySettings symbols)).Run (fun _ _ _ => True)
      history config) (setup : Setup Digest) (visits : Visits) :
    ∃ layout, createLayout setup visits config = .ok layout ∧
      layout.Created setup visits (readItems history) :=
  createLayout_ok (Keeps.of_run run) setup visits

/-- A controller that was created is created as above. -/
theorem Layout.Created.of_ok {items : List (Item Symbols User Limit)}
    {config : Config Settings Symbols User Limit} (keeps : Keeps items config)
    {setup : Setup Digest} {visits : Visits} {layout : Layout}
    (laid : createLayout setup visits config = .ok layout) :
    layout.Created setup visits items := by
  obtain ⟨created, laid', holds⟩ := createLayout_ok keeps setup visits
  cases laid.symm.trans laid'
  exact holds

/-! ### A plain gateway -/

/-- A host whose cryptography hides nothing. -/
def plainSetup : Setup String where
  api := .usdt
  account := Gateway.plainConfig.settings
  market := Market.plainConfig.settings
  throttle := Tools.plainConfig
  cryptography :=
    { sha512 := fun text => text
      hmac := fun secret text => secret ++ text
      hex := fun text => text }
  sign := Gateway.plainConfig.sign
  computeProfitLossAmount := Gateway.plainConfig.computeProfitLossAmount
  isZero := Market.plainConfig.isZero
  compare := Market.plainConfig.compare

/-- Maps are visited in the order in which their entries came. -/
def plainVisits : Visits := ⟨plainIteration, plainIteration, plainIteration, plainIteration⟩

/-- The first account of a name that comes twice has its key. -/
theorem layout_created_plain : ∃ history config layout,
    (Config.reader (Config.initial "gate.io" () ())).replay plainItems = .ok (history, config) ∧
      createLayout plainSetup plainVisits config = .ok layout ∧
      layout.Created plainSetup plainVisits (readItems history) := by
  obtain ⟨layout, laid, created⟩ := layout_created "gate.io" () () _ _
    (.of_replay plainItems rfl (History.always_of_forall (fun _ _ => trivial) _)) plainSetup
    plainVisits
  exact ⟨_, _, layout, rfl, laid, created⟩

/-- Two accounts. -/
def plainLayout : Layout where
  accounts := Registry.empty.emplaceAll
    [("A1", accountOf plainSetup (plainAccountConfig "A1" "1" false)),
      ("A2", accountOf plainSetup (plainAccountConfig "A2" "2" true))]
  restStreamId := 1
  orderEntry := Registry.empty.emplaceAll [("A1", 2), ("A2", 3)]
  dropCopy := Registry.empty.emplaceAll [("A1", 4), ("A2", 5)]
  streamId := 5

end GateFutures.System
