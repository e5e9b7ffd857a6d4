/-
This file models `Config`: what is kept of the configuration file, and what the host is told of
it.

The file is read item by item. Accounts and rate limits are kept by name, the first of a name
wins. The master account is the last one that was flagged, whether its item was kept or not.
-/

import GateFutures.Library.Registry
import GateFutures.Library.Run

namespace GateFutures.System

open Library

/-! ### Items -/

/-- `server::config::Account`. -/
structure AccountConfig where
  name : String
  login : String
  password : String
  secret : String
  master : Bool
  deriving DecidableEq

/-- An item of the configuration file. What the host alone reads of it is left open. -/
inductive Item (Symbols User Limit : Type)
  | symbols (symbols : Symbols)
  | account (account : AccountConfig)
  | user (user : User)
  | rateLimit (name : String) (limit : Limit)
  | requestTemplate (label : String)
  | other (key : String)

/-- `log::fatal` before the gateway starts. The process ends there. -/
inductive StartFatal
  | requestTemplates
  | unknownAccount (account : String)
  | unexpected
  deriving DecidableEq, Repr

/-- `Config`. -/
structure Config (Settings Symbols User Limit : Type) where
  exchange : String
  gatewaySettings : Settings
  symbols : Symbols
  accounts : Registry String AccountConfig
  masterAccount : String
  users : List User
  rateLimits : Registry String Limit

variable {Settings Symbols User Limit : Type}

/-! ### Reading -/

namespace Config

/-- The configuration as constructed, before the file is read. -/
def initial (exchange : String) (gatewaySettings : Settings) (symbols : Symbols) :
    Config Settings Symbols User Limit where
  exchange
  gatewaySettings
  symbols
  accounts := .empty
  masterAccount := ""
  users := []
  rateLimits := .empty

/-- `Config::operator()(server::config::Account)`. -/
def readAccount (account : AccountConfig) (config : Config Settings Symbols User Limit) :
    Config Settings Symbols User Limit :=
  { config with
    masterAccount := if account.master then account.name else config.masterAccount
    accounts := config.accounts.emplace account.name account }

/-- `Config::operator()`, of every item. An unknown key is only logged. -/
def read (config : Config Settings Symbols User Limit) :
    Item Symbols User Limit → Except StartFatal (Config Settings Symbols User Limit)
  | .symbols symbols => .ok { config with symbols }
  | .account account => .ok (config.readAccount account)
  | .user user => .ok { config with users := config.users ++ [user] }
  | .rateLimit name limit => .ok { config with rateLimits := config.rateLimits.emplace name limit }
  | .requestTemplate _ => .error .requestTemplates
  | .other _ => .ok config

/-- `server::config::Reader::parse_file`: the items of the file, one after the other. -/
def reader (initial : Config Settings Symbols User Limit) :
    Machine (Config Settings Symbols User Limit) (Item Symbols User Limit) Unit StartFatal where
  initial
  step config item := do
    let next ← config.read item
    return (next, ())

/-- `Config::get_api_key`, `Config::get_passphrase` and `Config::get_secret`, by what they
select. -/
def ofAccount {Value : Type} (select : AccountConfig → Value)
    (config : Config Settings Symbols User Limit) (account : String) :
    Except StartFatal Value :=
  match config.accounts.find? account with
  | some found => .ok (select found)
  | none => .error (.unknownAccount account)

/-- `Config::get_api_key`. -/
def getApiKey (config : Config Settings Symbols User Limit) (account : String) :
    Except StartFatal String := config.ofAccount AccountConfig.login account

/-- `Config::get_passphrase`. -/
def getPassphrase (config : Config Settings Symbols User Limit) (account : String) :
    Except StartFatal String := config.ofAccount AccountConfig.password account

/-- `Config::get_secret`. -/
def getSecret (config : Config Settings Symbols User Limit) (account : String) :
    Except StartFatal String := config.ofAccount AccountConfig.secret account

end Config

/-- What the host is told of the configuration. -/
inductive Announcement (Settings Symbols User Limit : Type)
  | exchange (exchange : String)
  | symbols (symbols : Symbols)
  | account (account : AccountConfig)
  | user (user : User)
  | gatewaySettings (settings : Settings)
  | rateLimit (limit : Limit)

/-- `Config::dispatch`. -/
def Config.dispatch (iteration : Iteration String) (config : Config Settings Symbols User Limit) :
    List (Announcement Settings Symbols User Limit) :=
  [.exchange config.exchange, .symbols config.symbols] ++
    (iteration.visit config.accounts.entries).map (fun entry => .account entry.2) ++
    config.users.map .user ++ [.gatewaySettings config.gatewaySettings] ++
    (iteration.visit config.rateLimits.entries).map fun entry => .rateLimit entry.2

/-! ### What is kept -/

/-- The accounts among items, by name. -/
def accountItems (items : List (Item Symbols User Limit)) : List (String × AccountConfig) :=
  items.filterMap fun
    | .account account => some (account.name, account)
    | _ => none

/-- The account that was flagged last. -/
def lastMaster (items : List (Item Symbols User Limit)) : Option AccountConfig :=
  items.reverse.findSome? fun
    | .account account => if account.master then some account else none
    | _ => none

/-- The users among items. -/
def userItems (items : List (Item Symbols User Limit)) : List User :=
  items.filterMap fun
    | .user user => some user
    | _ => none

/-- The rate limits among items, by name. -/
def limitItems (items : List (Item Symbols User Limit)) : List (String × Limit) :=
  items.filterMap fun
    | .rateLimit name limit => some (name, limit)
    | _ => none

/-- What a configuration keeps of the items that were read. -/
structure Keeps (items : List (Item Symbols User Limit))
    (config : Config Settings Symbols User Limit) : Prop where
  accounts : config.accounts = Registry.empty.emplaceAll (accountItems items)
  masterAccount : config.masterAccount = ((lastMaster items).map AccountConfig.name).getD ""
  users : config.users = userItems items
  rateLimits : config.rateLimits = Registry.empty.emplaceAll (limitItems items)

namespace Keeps

variable {items : List (Item Symbols User Limit)} {config : Config Settings Symbols User Limit}

theorem initial (exchange : String) (gatewaySettings : Settings) (symbols : Symbols) :
    Keeps [] (Config.initial exchange gatewaySettings symbols :
      Config Settings Symbols User Limit) :=
  ⟨rfl, rfl, rfl, rfl⟩

/-- Reading one more item keeps what it says. -/
theorem step (keeps : Keeps items config) {item : Item Symbols User Limit}
    {next : Config Settings Symbols User Limit} (handled : config.read item = .ok next) :
    Keeps (items ++ [item]) next := by
  obtain ⟨accounts, masterAccount, users, rateLimits⟩ := keeps
  cases item with
  | requestTemplate label => cases handled
  | account account =>
    cases handled
    refine ⟨?_, ?_, ?_, ?_⟩
    · rw [accountItems, List.filterMap_append, Registry.emplaceAll_append, ← accountItems,
        ← accounts]
      rfl
    · rw [lastMaster, List.reverse_concat, List.findSome?_cons, ← lastMaster]
      by_cases flagged : account.master = true
      · simp [Config.readAccount, flagged]
      · simpa [Config.readAccount, flagged] using masterAccount
    · simpa [userItems, Config.readAccount] using users
    · simpa [limitItems, Config.readAccount] using rateLimits
  | user user =>
    cases handled
    refine ⟨?_, ?_, ?_, ?_⟩
    · simpa [accountItems] using accounts
    · simpa [lastMaster] using masterAccount
    · simp [userItems, users]
    · simpa [limitItems] using rateLimits
  | rateLimit name limit =>
    cases handled
    refine ⟨?_, ?_, ?_, ?_⟩
    · simpa [accountItems] using accounts
    · simpa [lastMaster] using masterAccount
    · simpa [userItems] using users
    · rw [limitItems, List.filterMap_append, Registry.emplaceAll_append, ← limitItems,
        ← rateLimits]
      rfl
  | symbols symbols =>
    cases handled
    refine ⟨?_, ?_, ?_, ?_⟩
    · simpa [accountItems] using accounts
    · simpa [lastMaster] using masterAccount
    · simpa [userItems] using users
    · simpa [limitItems] using rateLimits
  | other key =>
    cases handled
    refine ⟨?_, ?_, ?_, ?_⟩
    · simpa [accountItems] using accounts
    · simpa [lastMaster] using masterAccount
    · simpa [userItems] using users
    · simpa [limitItems] using rateLimits

end Keeps

/-- The items of a history, in the order they were read. -/
def readItems (history : History (Config Settings Symbols User Limit)
    (Item Symbols User Limit) Unit) : List (Item Symbols User Limit) :=
  (history.map Entry.input).reverse

/-- A configuration keeps what it read. -/
theorem Keeps.of_run {exchange : String} {gatewaySettings : Settings} {symbols : Symbols}
    {allowed : Environment (Config Settings Symbols User Limit) (Item Symbols User Limit) Unit}
    {history : History (Config Settings Symbols User Limit) (Item Symbols User Limit) Unit}
    {config : Config Settings Symbols User Limit}
    (run : (Config.reader (.initial exchange gatewaySettings symbols)).Run allowed history
      config) : Keeps (readItems history) config := by
  refine run.invariant (fun history config => Keeps (readItems history) config) ?_ ?_
  · exact Keeps.initial exchange gatewaySettings symbols
  intro history config item next _ keeps _ taken
  obtain ⟨_, handled, returned⟩ := bind_ok.mp taken
  cases returned
  rw [readItems, List.map_cons, List.reverse_cons]
  exact keeps.step handled

/-! ### What the gateway and the host are told -/

/-- The accounts among announcements. -/
def announcedAccounts (announcements : List (Announcement Settings Symbols User Limit)) :
    List AccountConfig :=
  announcements.filterMap fun
    | .account account => some account
    | _ => none

/-- The users among announcements. -/
def announcedUsers (announcements : List (Announcement Settings Symbols User Limit)) :
    List User :=
  announcements.filterMap fun
    | .user user => some user
    | _ => none

/-- Every name stands for its first account, for the gateway and for the host alike, and the
master account is one of them. -/
structure Config.Serves (items : List (Item Symbols User Limit)) (iteration : Iteration String)
    (config : Config Settings Symbols User Limit) : Prop where
  accounts : ∀ {Value : Type} (select : AccountConfig → Value) (account : String),
    config.ofAccount select account =
      match (accountItems items).lookup account with
      | some first => .ok (select first)
      | none => .error (.unknownAccount account)
  announced : ∀ account, account ∈ announcedAccounts (config.dispatch iteration) ↔
    (accountItems items).lookup account.name = some account
  distinct : ((announcedAccounts (config.dispatch iteration)).map AccountConfig.name).Nodup
  masterAccount : config.masterAccount = ((lastMaster items).map AccountConfig.name).getD ""
  masterKnown : config.masterAccount = "" ∨
    config.masterAccount ∈ (announcedAccounts (config.dispatch iteration)).map AccountConfig.name
  users : announcedUsers (config.dispatch iteration) = userItems items

/-- The host is told of the accounts that are kept. -/
theorem announcedAccounts_dispatch (iteration : Iteration String)
    (config : Config Settings Symbols User Limit) :
    announcedAccounts (config.dispatch iteration) =
      (iteration.visit config.accounts.entries).map Prod.snd := by
  simp [announcedAccounts, Config.dispatch, List.filterMap_append, List.filterMap_map,
    List.filterMap_eq_nil_iff.mpr]

theorem announcedUsers_dispatch (iteration : Iteration String)
    (config : Config Settings Symbols User Limit) :
    announcedUsers (config.dispatch iteration) = config.users := by
  simp [announcedUsers, Config.dispatch, List.filterMap_append, List.filterMap_map,
    List.filterMap_eq_nil_iff.mpr]

/-- Accounts are kept under their names. -/
theorem Keeps.named {items : List (Item Symbols User Limit)}
    {config : Config Settings Symbols User Limit} (keeps : Keeps items config) :
    ∀ entry ∈ config.accounts.entries, entry.1 = entry.2.name := by
  intro entry member
  have found := Registry.find?_of_mem member
  rw [keeps.accounts, Registry.find?_emplaceAll] at found
  obtain ⟨before, behind, parts, -⟩ := List.lookup_eq_some_iff.mp found
  have listed : (entry.1, entry.2) ∈ accountItems items := by
    rw [parts]
    exact List.mem_append_right _ List.mem_cons_self
  obtain ⟨item, -, same⟩ := List.mem_filterMap.mp listed
  cases item with
  | account account =>
    obtain ⟨name, value⟩ := Prod.mk.inj (Option.some.inj same)
    rw [← name, ← value]
  | _ => cases same

theorem Config.find?_eq {items : List (Item Symbols User Limit)}
    {config : Config Settings Symbols User Limit} (keeps : Keeps items config)
    (account : String) :
    config.accounts.find? account = (accountItems items).lookup account := by
  rw [keeps.accounts, Registry.find?_emplaceAll]
  exact Option.none_or

/-- The host is told of an account exactly if it is the first of its name. -/
theorem Keeps.announced {items : List (Item Symbols User Limit)}
    {config : Config Settings Symbols User Limit} (keeps : Keeps items config)
    (iteration : Iteration String) (account : AccountConfig) :
    account ∈ announcedAccounts (config.dispatch iteration) ↔
      (accountItems items).lookup account.name = some account := by
  rw [announcedAccounts_dispatch, List.mem_map]
  constructor
  · rintro ⟨entry, member, rfl⟩
    have kept := (iteration.permutes config.accounts.entries).mem_iff.mp member
    rw [← Config.find?_eq keeps, ← keeps.named entry kept]
    exact Registry.find?_of_mem kept
  · intro first
    rw [← Config.find?_eq keeps] at first
    obtain ⟨before, behind, parts, -⟩ := List.lookup_eq_some_iff.mp first
    refine ⟨(account.name, account), ?_, rfl⟩
    rw [(iteration.permutes config.accounts.entries).mem_iff, parts]
    exact List.mem_append_right _ List.mem_cons_self

/-- The names of the accounts the host is told of are those that are kept. -/
theorem Keeps.announced_names {items : List (Item Symbols User Limit)}
    {config : Config Settings Symbols User Limit} (keeps : Keeps items config)
    (iteration : Iteration String) :
    ((announcedAccounts (config.dispatch iteration)).map AccountConfig.name).Perm
      config.accounts.keys := by
  have names : (announcedAccounts (config.dispatch iteration)).map AccountConfig.name =
      (iteration.visit config.accounts.entries).map Prod.fst := by
    rw [announcedAccounts_dispatch, List.map_map]
    refine List.map_congr_left fun entry member => ?_
    exact (keeps.named entry
      ((iteration.permutes config.accounts.entries).mem_iff.mp member)).symm
  rw [names]
  exact (iteration.permutes config.accounts.entries).map Prod.fst

/-- The account that was flagged last is among the accounts. -/
theorem mem_of_lastMaster {items : List (Item Symbols User Limit)} {account : AccountConfig}
    (last : lastMaster items = some account) :
    (account.name, account) ∈ accountItems items := by
  obtain ⟨item, member, flagged⟩ := List.exists_of_findSome?_eq_some last
  refine List.mem_filterMap.mpr ⟨item, List.mem_reverse.mp member, ?_⟩
  cases item with
  | account other =>
    simp only at flagged
    split at flagged
    · cases flagged
      rfl
    · cases flagged
  | _ => cases flagged

/-- Whatever the file says, in whatever order: every name stands for its first account. -/
theorem configuration_serves (exchange : String) (gatewaySettings : Settings) (symbols : Symbols)
    (history : History (Config Settings Symbols User Limit) (Item Symbols User Limit) Unit)
    (config : Config Settings Symbols User Limit)
    (run : (Config.reader (.initial exchange gatewaySettings symbols)).Run (fun _ _ _ => True)
      history config) (iteration : Iteration String) :
    config.Serves (readItems history) iteration := by
  have keeps := Keeps.of_run run
  refine ⟨fun select account => ?_, keeps.announced iteration, ?_, keeps.masterAccount, ?_, ?_⟩
  · rw [Config.ofAccount, Config.find?_eq keeps]
  · exact (keeps.announced_names iteration).nodup_iff.mpr config.accounts.distinct
  · cases last : lastMaster (readItems history) with
    | none =>
      refine Or.inl ?_
      rw [keeps.masterAccount, last]
      rfl
    | some account =>
      refine Or.inr ?_
      rw [(keeps.announced_names iteration).mem_iff, keeps.masterAccount, last,
        ← Registry.find?_isSome, Config.find?_eq keeps]
      exact List.lookup_isSome_iff.mpr ⟨_, mem_of_lastMaster last, beq_self_eq_true _⟩
  · rw [announcedUsers_dispatch, keeps.users]

/-! ### A plain configuration -/

/-- The order in which the entries came. -/
def plainIteration : Iteration String where
  visit entries := entries
  permutes entries := .refl entries

/-- An account whose login, password and secret have the given ending. -/
def plainAccountConfig (name ending : String) (master : Bool) : AccountConfig where
  name
  login := "login-" ++ ending
  password := "password-" ++ ending
  secret := "secret-" ++ ending
  master

/-- Two accounts of one name, and one of another. -/
def plainItems : List (Item Unit String Nat) :=
  [.account (plainAccountConfig "A1" "1" false), .account (plainAccountConfig "A2" "2" true),
    .user "trader", .account (plainAccountConfig "A1" "3" true), .rateLimit "orders" 100]

/-- A second account of a name is dropped, but is the master account by that name. -/
theorem configuration_serves_plain : ∃ history config,
    (Config.reader (Config.initial "gate.io" () ())).replay plainItems = .ok (history, config) ∧
      config.getApiKey "A1" = .ok "login-1" ∧ config.masterAccount = "A1" ∧
      config.Serves (readItems history) plainIteration :=
  ⟨_, _, rfl, rfl, rfl, configuration_serves "gate.io" () () _ _
    (.of_replay plainItems rfl (History.always_of_forall (fun _ _ => trivial) _)) plainIteration⟩

end GateFutures.System
