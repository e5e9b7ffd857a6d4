/-
This file proves that a connection only uses the credentials of its own account.

Every session frame that logs in or subscribes is signed by the account that the controller
created the connection for, and that account has the key and the secret of the first account item
of its name that the configuration was read from.
-/

import GateFutures.Gateway.Logins
import GateFutures.System.Connections

namespace GateFutures.System

open Framework Library Protocol Roq

variable {Driver Mark MarketDriver Store Queue Digest Settings SymbolLists User Limit : Type}

variable [LimitRequest Mark] [Download2 Gateway.DropCopy.State Driver]
  [Download2 Market.Rest.State MarketDriver] [Symbols String Store] [LimitQueue String Queue]

section Credentials

variable [LawfulLimitRequest Mark] [LawfulDownload2 Gateway.DropCopy.State Driver]

/-- Every frame that a turn of an account's streams sends is signed by the account as it was
configured. -/
theorem turn_authentic {setup : Setup Digest} {visits : Visits}
    {items : List (Item SymbolLists User Limit)} {layout : Layout}
    {history : GatewayHistory Driver Mark MarketDriver Store Queue}
    {states : States Driver Mark MarketDriver Store Queue}
    (created : layout.Created setup visits items)
    (run : (gateway setup layout visits).Run (fun _ _ _ => True) history states) {name : String}
    {entry : Gateway.AccountEntry Driver Mark}
    (member : (⟨.account name, entry⟩ : Turn (Part.State Driver Mark MarketDriver Store Queue)
      Part.Input Part.Output) ∈ turns history) {frame : Frame}
    (sent : .sendText frame ∈ entry.output) :
    ∃ configured, (accountItems items).lookup name = some configured ∧
      (accountOf setup configured).Authenticates frame := by
  cases found : layout.accounts.find? name with
  | none =>
    rw [turn_silent run found member] at sent
    cases sent
  | some account =>
    obtain ⟨session, own⟩ := project_account run found
    have authentic := Gateway.run_authentic own entry (mem_ownTurns.mpr member) frame sent
    have known := created.accounts name
    rw [found] at known
    obtain ⟨configured, first, rfl⟩ := Option.map_eq_some_iff.mp known.symm
    exact ⟨configured, first, authentic⟩

/-- In every run, every login and every subscription that is sent for an account carries the key
of the first account item of its name, and is signed with its secret: whatever else is configured
under that name or another, and whatever the other connections do. -/
theorem credentials_own (exchange : String) (gatewaySettings : Settings) (symbols : SymbolLists)
    (readHistory : History (Config Settings SymbolLists User Limit)
      (Item SymbolLists User Limit) Unit)
    (config : Config Settings SymbolLists User Limit)
    (read : (Config.reader (.initial exchange gatewaySettings symbols)).Run (fun _ _ _ => True)
      readHistory config) (setup : Setup Digest) (visits : Visits) (layout : Layout)
    (laid : createLayout setup visits config = .ok layout)
    (history : GatewayHistory Driver Mark MarketDriver Store Queue)
    (states : States Driver Mark MarketDriver Store Queue)
    (run : (gateway setup layout visits).Run (fun _ _ _ => True) history states) :
    ∀ name entry, (⟨.account name, entry⟩ : Turn (Part.State Driver Mark MarketDriver Store Queue)
      Part.Input Part.Output) ∈ turns history → ∀ frame, .sendText frame ∈ entry.output →
        ∃ configured, (accountItems (readItems readHistory)).lookup name = some configured ∧
          (accountOf setup configured).Authenticates frame :=
  fun _ _ member _ sent =>
    turn_authentic (Layout.Created.of_ok (Keeps.of_run read) laid) run member sent

end Credentials

/-! ### A plain run -/

/-- The second account logs in with what was configured for it, although the first is there. -/
theorem credentials_own_plain : ∃ history states entry frame,
    (plainGateway plainVisits).Run (fun _ _ _ => True) history states ∧
      (⟨.account "A2", entry⟩ : Turn _ _ _) ∈ turns history ∧ .sendText frame ∈ entry.output ∧
      frame.channel = "futures.login" ∧
      (accountOf plainSetup (plainAccountConfig "A2" "2" true)).Authenticates frame := by
  have read : (Config.reader (Config.initial "gate.io" () ())).Run (fun _ _ _ => True) _ _ :=
    .of_replay plainItems rfl (History.always_of_forall (fun _ _ => trivial) _)
  have run : (plainGateway plainVisits).Run (fun _ _ _ => True) _ _ :=
    .of_replay (plainInputs (plainConnect "A1" ++ plainConnect "A2")) rfl
      (History.always_of_forall (fun _ _ => trivial) _)
  obtain ⟨configured, first, authentic⟩ := credentials_own "gate.io" () () _ _ read plainSetup
    plainVisits plainLayout rfl _ _ run "A2" _ (List.mem_cons_of_mem _ (List.mem_cons_of_mem _
      List.mem_cons_self)) _ (List.mem_cons_of_mem _ List.mem_cons_self)
  cases first
  exact ⟨_, _, _, _, run, List.mem_cons_of_mem _ (List.mem_cons_of_mem _ List.mem_cons_self),
    List.mem_cons_of_mem _ List.mem_cons_self, rfl, authentic⟩

end GateFutures.System
