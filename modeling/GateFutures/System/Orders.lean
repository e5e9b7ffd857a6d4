/-
This file proves where order actions go.

An order action names an account, and is answered with the number of a connection. Its frames go
out over that connection, in the step of the action, and no other step sends any.
-/

import GateFutures.Gateway.Steps
import GateFutures.System.Connections

/-! ### The order frames of a step -/

namespace GateFutures.Gateway

open Framework Library Protocol Roq

variable {Driver Mark : Type}

/-- The kinds of the frames that order actions send. -/
def OutputKind.isOrder : OutputKind → Bool
  | .orderRequest | .cancelAll => true
  | _ => false

/-- The frame of an order action that an output sends. -/
def Output.orderFrame? (output : Output) : Option Frame :=
  match output with
  | .sendText frame => if output.kind.isOrder then some frame else none
  | _ => none

/-- How many frames an event sends that is an order action. Creating an order sends none where its
time in force is not supported. -/
def Event.orders (context : Context) : Event → Nat
  | .createOrder _ request .. =>
    match Encoder.orderPlaceTif request with
    | .ok _ => 1
    | .error _ => 0
  | .modifyOrder .. | .cancelOrder .. => 1
  | .cancelAllOrders .. => context.dispatcher.allOrderSymbols.length
  | _ => 0

/-- Outputs of other kinds send no order frames. -/
theorem orderFrames_eq_nil {outputs : List Output}
    (others : ∀ output ∈ outputs, output.kind.isOrder = false) :
    outputs.filterMap Output.orderFrame? = [] := by
  refine List.filterMap_eq_nil_iff.mpr fun output member => ?_
  unfold Output.orderFrame?
  split
  · rw [others _ member]
    rfl
  · rfl

theorem Session.createOrder_frames (config : Config) (messageInfo : MessageInfo)
    (request : CreateOrder) (order : Order) (refData : RefData) (requestId : String)
    (context : Context) (session : Session Driver Mark) :
    ((session.clearOutbox.createOrder config messageInfo request order refData
      requestId).streams.outbox.filterMap Output.orderFrame?).length =
        (Event.createOrder messageInfo request order refData requestId).orders context := by
  simp only [Session.createOrder, Session.mapStreams, Event.orders, Encoder.orderPlace]
  cases Encoder.orderPlaceTif request with
  | ok tif => rfl
  | error => rfl

theorem Session.cancelAllOrders_frames (context : Context) (messageInfo : MessageInfo)
    (requestId : String) (session : Session Driver Mark) :
    ((session.clearOutbox.cancelAllOrders context messageInfo requestId).streams.outbox.filterMap
      Output.orderFrame?).length = context.dispatcher.allOrderSymbols.length := by
  have counted (symbols : List String) (streams : Streams Mark) :
      ((symbols.foldl (fun current symbol => current.sendText fun requestId2 =>
        Encoder.orderCancelCp messageInfo requestId requestId2 symbol) streams).outbox.filterMap
          Output.orderFrame?).length =
        (streams.outbox.filterMap Output.orderFrame?).length + symbols.length := by
    induction symbols generalizing streams with
    | nil => rfl
    | cons symbol later inductionHypothesis =>
      have one : ((streams.sendText fun requestId2 => Encoder.orderCancelCp messageInfo requestId
          requestId2 symbol).outbox.filterMap Output.orderFrame?).length =
            (streams.outbox.filterMap Output.orderFrame?).length + 1 := by
        show ((streams.outbox ++ [_]).filterMap Output.orderFrame?).length = _
        rw [List.filterMap_append, List.length_append]
        rfl
      rw [List.foldl_cons, inductionHypothesis, one, List.length_cons, Nat.add_assoc,
        Nat.add_comm 1]
  exact (counted _ _).trans (Nat.zero_add _)

variable [Download2 DropCopy.State Driver] [LawfulDownload2 DropCopy.State Driver]
  [LimitRequest Mark] [LawfulLimitRequest Mark]

/-- A step sends the order frames of its event. -/
theorem Session.step_orders {config : Config} {session next : Session Driver Mark} {input : Input}
    {outputs : List Output} (taken : session.step config input = .ok (next, outputs)) :
    (outputs.filterMap Output.orderFrame?).length = input.event.orders input.context := by
  have silent (others : ∀ kind ∈ input.event.kinds, kind.isOrder = false) :
      (outputs.filterMap Output.orderFrame?).length = 0 := by
    rw [orderFrames_eq_nil fun output member => others _ (Session.step_kinds taken output member)]
    rfl
  obtain ⟨handled, rfl⟩ := Session.step_ok taken
  obtain ⟨context, event⟩ := input
  cases event with
  | createOrder messageInfo request order refData requestId =>
    cases handled
    exact Session.createOrder_frames config messageInfo request order refData requestId context
      session
  | modifyOrder | cancelOrder =>
    cases handled
    rfl
  | cancelAllOrders messageInfo requestId =>
    cases handled
    exact Session.cancelAllOrders_frames context messageInfo requestId session
  | _ => exact silent (by simp [Event.kinds, OutputKind.isOrder])

end GateFutures.Gateway

namespace GateFutures.System

open Framework Library Protocol Roq

variable {Driver Mark MarketDriver Store Queue Digest Settings SymbolLists User Limit : Type}

/-! ### Routing -/

/-- How many frames an order action takes that is supported. -/
def orderCount (input : Input) : Nat :=
  match input.event with
  | .createOrder .. | .modifyOrder .. | .cancelOrder .. => 1
  | .cancelAllOrders account .. => (input.host.allOrderSymbols account).length
  | _ => 0

/-- The accounts over whose connections a turn sends order frames, one for each frame. -/
def turnOrders : Turn (Part.State Driver Mark MarketDriver Store Queue) Part.Input Part.Output →
    List String
  | ⟨.account name, entry⟩ => (entry.output.filterMap Gateway.Output.orderFrame?).map fun _ => name
  | ⟨.market, _⟩ | ⟨.throttle, _⟩ => []

/-- An order action that is answered with a number sends its frames over that connection, which is
the trading connection of its account. Any other event sends none. -/
def Routed (layout : Layout)
    (entry : Entry (States Driver Mark MarketDriver Store Queue) Input
      (Turns Driver Mark MarketDriver Store Queue)) : Prop :=
  match answer layout entry.input.event, orderAccount entry.input.event with
  | .streamId streamId, some account =>
    (.dropCopy account, streamId) ∈ layout.created ∧
      entry.output.flatMap turnOrders = List.replicate (orderCount entry.input) account
  | _, _ => entry.output.flatMap turnOrders = []

/-- An action that is answered with the number of the connection it goes to. -/
theorem Routed.of_action {layout : Layout}
    {entry : Entry (States Driver Mark MarketDriver Store Queue) Input
      (Turns Driver Mark MarketDriver Store Queue)} {account : String}
    (answered : answer layout entry.input.event = ofDropCopy layout account .streamId)
    (named : orderAccount entry.input.event = some account)
    (sends : match layout.dropCopy.find? account with
      | some streamId => (.dropCopy account, streamId) ∈ layout.created ∧
          entry.output.flatMap turnOrders = List.replicate (orderCount entry.input) account
      | none => entry.output.flatMap turnOrders = []) : Routed layout entry := by
  unfold Routed
  rw [answered, named, ofDropCopy]
  cases found : layout.dropCopy.find? account with
  | some streamId =>
    rw [found] at sends
    exact sends
  | none =>
    rw [found] at sends
    exact sends

section Routing

variable [Download2 Gateway.DropCopy.State Driver] [LawfulDownload2 Gateway.DropCopy.State Driver]
  [LimitRequest Mark] [LawfulLimitRequest Mark] [Download2 Market.Rest.State MarketDriver]
  [Symbols String Store] [LimitQueue String Queue] {setup : Setup Digest} {visits : Visits}
  {items : List (Item SymbolLists User Limit)} {layout : Layout}

omit [Download2 Gateway.DropCopy.State Driver] in
/-- Only order actions send order frames. -/
theorem orders_eq_zero {event : Gateway.Event} (plain : isAction event = false)
    (context : Gateway.Context) : event.orders context = 0 := by
  cases event <;> first | rfl | cases plain

/-- A trading connection is that of an account, and one that was created. -/
theorem Layout.Created.dropCopy_found (created : layout.Created setup visits items) {name : String}
    {streamId : UInt16} (found : layout.dropCopy.find? name = some streamId) :
    (∃ account, layout.accounts.find? name = some account) ∧
      (.dropCopy name, streamId) ∈ layout.created := by
  have listed : (name, streamId) ∈ layout.dropCopy.entries := Registry.find?_eq_some.mp found
  refine ⟨?_, List.mem_append_right _ (List.mem_map.mpr ⟨_, listed, rfl⟩)⟩
  have named : name ∈ layout.names visits := by
    rw [← numbered_names (1 + UInt16.ofNat layout.accounts.entries.length) (layout.names visits),
      ← created.dropCopy]
    exact List.mem_map.mpr ⟨_, listed, rfl⟩
  refine Option.isSome_iff_exists.mp (Registry.find?_isSome.mpr ?_)
  exact ((visits.accounts.permutes layout.accounts.entries).map Prod.fst).mem_iff.mp named

/-- A turn of an account sends the order frames of its event. -/
theorem turnOrders_eq {name : String} {account : Gateway.Account}
    (found : layout.accounts.find? name = some account)
    {before next : Gateway.Session Driver Mark} {input : Gateway.Input}
    {output : List Gateway.Output}
    (taken : ((parts setup layout : Family (Part.State Driver Mark MarketDriver Store Queue)
      Part.Input Part.Output Part.Failure) (.account name)).step before input =
        .ok (next, output)) :
    turnOrders (⟨.account name, ⟨before, input, output⟩⟩ :
      Turn (Part.State Driver Mark MarketDriver Store Queue) Part.Input Part.Output) =
        List.replicate (input.event.orders input.context) name := by
  simp only [parts, found] at taken
  rw [turnOrders, ← Gateway.Session.step_orders taken, List.map_const']

/-- An order action of a known account sends its frames there, and one of an unknown account sends
none. -/
theorem action_routed (created : layout.Created setup visits items) (host : Host)
    (account : String) (action : Gateway.Event) (count : Nat)
    (counts : ∀ context : Gateway.Context,
      context.dispatcher.allOrderSymbols = host.allOrderSymbols account →
        action.orders context = count)
    {states after : States Driver Mark MarketDriver Store Queue}
    {output : Turns Driver Mark MarketDriver Store Queue}
    (performed : (parts setup layout).perform (toDropCopy layout host account action) [] states =
      .ok (after, output)) :
    match layout.dropCopy.find? account with
    | some streamId => (.dropCopy account, streamId) ∈ layout.created ∧
        output.flatMap turnOrders = List.replicate count account
    | none => output.flatMap turnOrders = [] := by
  unfold toDropCopy at performed
  cases found : layout.dropCopy.find? account with
  | none =>
    rw [found] at performed
    cases performed
    rfl
  | some streamId =>
    obtain ⟨⟨known, there⟩, listed⟩ := created.dropCopy_found found
    rw [found] at performed
    simp only [Family.perform] at performed
    split at performed
    next next output taken =>
      cases performed
      refine ⟨listed, ?_⟩
      rw [List.flatMap_singleton]
      refine (turnOrders_eq there taken).trans (congrArg (List.replicate · account) ?_)
      exact counts _ rfl
    next => cases performed

/-- In every run of the gateway, an order action that is answered with a number sends its frames in
that step, over the connection of the number, which is the trading connection of the account that
the action names: one frame, or one for each symbol the account has orders in. Any other event
sends no order frame, and so does an action that is answered with an exception. -/
theorem orders_routed (exchange : String) (gatewaySettings : Settings)
    (symbols : SymbolLists)
    (readHistory : History (Config Settings SymbolLists User Limit)
      (Item SymbolLists User Limit) Unit)
    (config : Config Settings SymbolLists User Limit)
    (read : (Config.reader (.initial exchange gatewaySettings symbols)).Run (fun _ _ _ => True)
      readHistory config) (setup : Setup Digest) (visits : Visits) (layout : Layout)
    (laid : createLayout setup visits config = .ok layout)
    (history : GatewayHistory Driver Mark MarketDriver Store Queue)
    (states : States Driver Mark MarketDriver Store Queue)
    (run : (gateway setup layout visits).Run (fun _ _ _ => True) history states) :
    ∀ entry ∈ history, Routed layout entry := by
  have created := Layout.Created.of_ok (Keeps.of_run read) laid
  refine History.always_iff_forall_mem.mp (run.always ?_)
  intro history states input after output before _ performed
  obtain ⟨host, event⟩ := input
  have others (unordered : orderAccount event = none) : output.flatMap turnOrders = [] := by
    refine List.flatMap_eq_nil_iff.mpr fun turn member => ?_
    rcases Family.mem_perform performed member with impossible | ⟨call, called, _, _, _, taken, rfl⟩
    · cases impossible
    rcases calls_account layout visits ⟨host, event⟩ call called with
      here | here | ⟨name, action, rfl, acts⟩
    · obtain ⟨part, input⟩ := call
      cases here
      rfl
    · obtain ⟨part, input⟩ := call
      cases here
      rfl
    · cases found : layout.accounts.find? name with
      | none =>
        have silent := taken
        simp only [toAccount, parts, found] at silent
        cases silent
        rfl
      | some account =>
        refine (turnOrders_eq found taken).trans ?_
        exact congrArg (List.replicate · name) (orders_eq_zero (acts unordered) _)
  cases event with
  | createOrder account messageInfo request order refData requestId =>
    cases supported : Encoder.orderPlaceTif request with
    | ok tif =>
      refine .of_action (by simp only [answer, supported]) rfl (action_routed created host account
        (.createOrder messageInfo request order refData requestId) 1 (fun _ _ => ?_) performed)
      rw [Gateway.Event.orders, supported]
    | error =>
      have sends := action_routed created host account
        (.createOrder messageInfo request order refData requestId) 0
        (fun _ _ => by rw [Gateway.Event.orders, supported]) performed
      simp only [Routed, answer, supported, ofDropCopy]
      cases found : layout.dropCopy.find? account with
      | some streamId =>
        simp only [found] at sends ⊢
        exact sends.2
      | none =>
        simp only [found] at sends ⊢
        exact sends
  | modifyOrder account messageInfo request order refData requestId =>
    exact .of_action rfl rfl (action_routed created host account
      (.modifyOrder messageInfo request order refData requestId) 1 (fun _ _ => rfl) performed)
  | cancelOrder account messageInfo order requestId =>
    exact .of_action rfl rfl (action_routed created host account
      (.cancelOrder messageInfo order requestId) 1 (fun _ _ => rfl) performed)
  | cancelAllOrders account messageInfo requestId =>
    exact .of_action rfl rfl (action_routed created host account
      (.cancelAllOrders messageInfo requestId) (host.allOrderSymbols account).length
      (fun _ same => congrArg List.length same) performed)
  | control action => cases action <;> exact others rfl
  | _ => exact others rfl

end Routing

/-- A client cancels all orders of the second account, which has some in two symbols, and then those
of an account that is not configured. -/
def plainCancels : List Input :=
  let host := { plainHost with allOrderSymbols := fun _ => ["BTC_USDT", "ETH_USDT"] }
  [⟨host, .cancelAllOrders "A2" ⟨0⟩ "r1"⟩, ⟨host, .cancelAllOrders "A3" ⟨0⟩ "r2"⟩]

/-- Two frames go out over the trading connection of the second account, and none for the other. -/
theorem orders_routed_plain : ∃ history states cancels unknown,
    (plainGateway plainVisits).Run (fun _ _ _ => True) history states ∧
      history = [unknown, cancels] ∧ Routed plainLayout cancels ∧ Routed plainLayout unknown ∧
      answer plainLayout cancels.input.event = .streamId 5 ∧
      cancels.output.flatMap turnOrders = ["A2", "A2"] ∧
      answer plainLayout unknown.input.event = .runtimeError "Unknown account=\"A3\"" := by
  have read : (Config.reader (Config.initial "gate.io" () ())).Run (fun _ _ _ => True) _ _ :=
    .of_replay plainItems rfl (History.always_of_forall (fun _ _ => trivial) _)
  have run : (plainGateway plainVisits).Run (fun _ _ _ => True) _ _ :=
    .of_replay plainCancels rfl (History.always_of_forall (fun _ _ => trivial) _)
  have routed := orders_routed "gate.io" () () _ _ read plainSetup plainVisits plainLayout rfl _ _
    run
  exact ⟨_, _, _, _, run, rfl, routed _ (List.mem_cons_of_mem _ List.mem_cons_self),
    routed _ List.mem_cons_self, rfl, rfl, rfl⟩

end GateFutures.System
