/-
This file proves in what order an account publishes the positions it receives.

Positions arrive on two connections, updates on the web socket and a snapshot in a REST
reply. Neither handler keeps a position, so each item is published when its message is
handled. Updates alone never go back in time; a snapshot that was overtaken by an update
does.
-/

import GateFutures.Gateway.Steps

namespace GateFutures.Gateway

open Framework Library Protocol Roq

variable {Driver Mark : Type}

/-! ### Items and their updates -/

/-- Where an item was received. -/
inductive Source
  | webSocket | rest
  deriving DecidableEq

/-- An item that is not discarded, where it was received, and the update published for it. -/
structure Handled where
  item : PositionsItem
  source : Source
  update : PositionUpdate
  deriving DecidableEq

/-- The items of a message that are not discarded, with their updates. -/
def handledItems (config : Config) (input : Input) : List Handled :=
  let kept (items : List PositionsItem) :=
    items.filter fun item => !input.context.dispatcher.discardSymbol item.contract
  match input.event with
  | .tradePositions message => (kept message.result).map fun item =>
      ⟨item, .webSocket, createPositionUpdate config config.dropCopyStreamId item .incremental
        item.timeMs message.timeMs⟩
  | .positionsReply _ response => match response.decoded with
    | some message => (kept message.data).map fun item =>
      ⟨item, .rest, createPositionUpdate config config.orderEntryStreamId item .snapshot
        item.updateTime 0⟩
    | none => []
  | _ => []

/-- The items handled so far, in the order in which they were. -/
def handled (config : Config) : AccountHistory Driver Mark → List Handled
  | [] => []
  | entry :: before => handled config before ++ handledItems config entry.input

/-- The position updates published so far, in order. -/
def published : AccountHistory Driver Mark → List PositionUpdate
  | [] => []
  | entry :: before => published before ++ entry.output.filterMap Output.positionUpdate?

/-- No item comes after a newer item of its contract. -/
def InOrder (items : List Handled) : Prop :=
  items.Pairwise fun earlier later => earlier.item.contract = later.item.contract →
    earlier.item.updateId.toInt ≤ later.item.updateId.toInt

instance (items : List Handled) : Decidable (InOrder items) :=
  inferInstanceAs (Decidable (items.Pairwise _))

/-- The items received on the web socket. -/
def webSocketItems (items : List Handled) : List Handled :=
  items.filter fun handled => handled.source = .webSocket

/-- The web socket delivers the updates of a contract in order. -/
def WebSocketInOrder (config : Config) : Environment (Session Driver Mark) Input (List Output) :=
  fun history _ input =>
    InOrder (webSocketItems (handled config history ++ handledItems config input))

instance (config : Config) (history : AccountHistory Driver Mark)
    (session : Session Driver Mark) (input : Input) :
    Decidable (WebSocketInOrder config history session input) :=
  inferInstanceAs (Decidable (InOrder _))

/-- No snapshot item was overtaken by an update, or overtook one. -/
def RestInTurn (items : List Handled) : Prop :=
  items.Pairwise fun earlier later => earlier.source = .rest ∨ later.source = .rest →
    earlier.item.contract = later.item.contract →
      earlier.item.updateId.toInt ≤ later.item.updateId.toInt

instance (items : List Handled) : Decidable (RestInTurn items) :=
  inferInstanceAs (Decidable (items.Pairwise _))

/-- Updates in order and snapshots in their turn are in order. -/
theorem InOrder.of_webSocket {items : List Handled} (webSocket : InOrder (webSocketItems items))
    (rest : RestInTurn items) : InOrder items := by
  induction items with
  | nil => exact .nil
  | cons head tail inductionHypothesis =>
    obtain ⟨restHead, restTail⟩ := List.pairwise_cons.mp rest
    cases source : head.source with
    | rest =>
      rw [webSocketItems, List.filter_cons_of_neg (by simp [source])] at webSocket
      exact List.pairwise_cons.mpr ⟨fun later member => restHead later member (Or.inl source),
        inductionHypothesis webSocket restTail⟩
    | webSocket =>
      rw [webSocketItems, List.filter_cons_of_pos (by simp [source])] at webSocket
      obtain ⟨socketHead, socketTail⟩ := List.pairwise_cons.mp webSocket
      refine List.pairwise_cons.mpr ⟨fun later member => ?_,
        inductionHypothesis socketTail restTail⟩
      cases laterSource : later.source with
      | rest => exact restHead later member (Or.inr laterSource)
      | webSocket => exact socketHead later (List.mem_filter.mpr ⟨member, by simp [laterSource]⟩)

/-- An update describes its item: the contract, and the position as long and short quantities. -/
def Handled.Describes (handled : Handled) : Prop :=
  handled.update.symbol = handled.item.contract ∧
    handled.update.longQuantity = .number (max 0 handled.item.size.toInt) ∧
    handled.update.shortQuantity = .number (max 0 (-handled.item.size.toInt))

theorem describes_of_handledItems {config : Config} {input : Input} {handled : Handled}
    (member : handled ∈ handledItems config input) : handled.Describes := by
  rw [handledItems] at member
  split at member
  · obtain ⟨item, -, rfl⟩ := List.mem_map.mp member
    exact ⟨rfl, rfl, rfl⟩
  · split at member
    · obtain ⟨item, -, rfl⟩ := List.mem_map.mp member
      exact ⟨rfl, rfl, rfl⟩
    · cases member
  · cases member

theorem describes_of_handled {config : Config} {history : AccountHistory Driver Mark}
    {item : Handled} (member : item ∈ handled config history) : item.Describes := by
  induction history with
  | nil => cases member
  | cons entry before inductionHypothesis =>
    rcases List.mem_append.mp member with member | member
    · exact inductionHypothesis member
    · exact describes_of_handledItems member

/-! ### One step -/

/-- A loop that emits the elements it does not discard adds their outputs, in order. -/
theorem foldl_emit_outbox {Element : Type} (discard : Element → Bool)
    (output : Element → Output) (elements : List Element) (streams : Streams Mark) :
    (elements.foldl (fun current element =>
        if discard element then current else current.emit (output element)) streams).outbox =
      streams.outbox ++ (elements.filter fun element => !discard element).map output := by
  induction elements generalizing streams with
  | nil => exact (List.append_nil _).symm
  | cons element rest inductionHypothesis =>
    rw [List.foldl_cons, inductionHypothesis]
    cases discarded : discard element with
    | true => simp [discarded]
    | false => simp [discarded, Streams.emit]

variable [LimitRequest Mark] [Download2 DropCopy.State Driver]
  [LawfulLimitRequest Mark] [LawfulDownload2 DropCopy.State Driver]

/-- A step publishes the updates of the items it handles. -/
theorem Session.step_positionUpdates {config : Config} {session next : Session Driver Mark}
    {input : Input} {outputs : List Output}
    (taken : session.step config input = .ok (next, outputs)) :
    outputs.filterMap Output.positionUpdate? =
      (handledItems config input).map Handled.update := by
  have others := Session.step_selects taken Output.positionUpdate_kind
  obtain ⟨handled, rfl⟩ := Session.step_ok taken
  obtain ⟨context, event⟩ := input
  cases event with
  | tradePositions message =>
    cases handled
    simp only [Session.tradePositions, Session.mapStreams, foldl_emit_outbox, handledItems]
    simp [Session.clearOutbox, Session.mapStreams, Function.comp_def, Output.positionUpdate?]
  | positionsReply request response =>
    obtain ⟨streams, committed, handled⟩ := bind_ok.mp handled
    cases handled
    obtain ⟨body, processed, committed⟩ := bind_ok.mp committed
    cases committed
    rw [OrderEntry.processResponse_eq processed]
    cases decoded : response.decoded with
    | none =>
      simp only [handledItems, decoded]
      rfl
    | some message =>
      simp only [Option.elim, OrderEntry.positions, foldl_emit_outbox, handledItems, decoded]
      simp [Session.clearOutbox, Session.mapStreams, Function.comp_def, Output.positionUpdate?]
  | _ => exact others (by simp [Event.kinds])

/-! ### Runs -/

/-- What was published is the updates of what was handled, in order. -/
theorem published_eq {config : Config} {allowed : Environment (Session Driver Mark) Input
    (List Output)} {history : AccountHistory Driver Mark} {session : Session Driver Mark}
    (run : (account config).Run allowed history session) :
    published history = (handled config history).map Handled.update := by
  refine run.invariant
    (fun history _ => published history = (handled config history).map Handled.update) rfl ?_
  intro history session input next outputs same _ taken
  rw [published, handled, List.map_append, same, Session.step_positionUpdates taken]

/-- The last update published for a contract is the update of the last item handled for it. -/
theorem last_published {items : List Handled} (describes : ∀ item ∈ items, item.Describes)
    {contract : String} {last : PositionUpdate}
    (isLast : ((items.map Handled.update).filter fun update =>
      update.symbol = contract).getLast? = some last) :
    ∃ newest ∈ items, newest.update = last ∧ newest.item.contract = contract ∧
      (items.filter fun handled => handled.item.contract = contract).getLast? = some newest := by
  have selected : (items.map Handled.update).filter (fun update => update.symbol = contract) =
      (items.filter fun handled => handled.item.contract = contract).map Handled.update := by
    rw [List.filter_map]
    refine congrArg (List.map Handled.update) (List.filter_congr fun item member => ?_)
    rw [Function.comp_apply, (describes item member).1]
  rw [selected, List.getLast?_map, Option.map_eq_some_iff] at isLast
  obtain ⟨newest, isLast, same⟩ := isLast
  obtain ⟨member, ofContract⟩ := List.mem_filter.mp (List.mem_of_getLast? isLast)
  exact ⟨newest, member, same, of_decide_eq_true ofContract, isLast⟩

/-- In order, the last item of a contract is the newest. -/
theorem InOrder.newest {items : List Handled} (inOrder : InOrder items) {contract : String}
    {newest other : Handled}
    (isLast : (items.filter fun handled => handled.item.contract = contract).getLast? =
      some newest) (ofContract : newest.item.contract = contract) (member : other ∈ items)
    (same : other.item.contract = contract) :
    other.item.updateId.toInt ≤ newest.item.updateId.toInt := by
  obtain ⟨earlier, split⟩ := List.getLast?_eq_some_iff.mp isLast
  have sorted : InOrder (earlier ++ [newest]) := split ▸ inOrder.filter _
  have filtered : other ∈ earlier ++ [newest] := by
    rw [← split]
    exact List.mem_filter.mpr ⟨member, decide_eq_true same⟩
  rcases List.mem_append.mp filtered with before | only
  · exact (List.pairwise_append.mp sorted).2.2 other before newest (List.mem_singleton.mpr rfl)
      (same.trans ofContract.symm)
  · have same : other = newest := List.mem_singleton.mp only
    exact Int.le_of_eq (congrArg (fun handled => handled.item.updateId.toInt) same)

/-- A position of the plain account: its size, the id of its update, and its time. -/
def plainPosition (size updateId : BitVec 64) (time : Int) : PositionsItem where
  contract := "BTC_USDT"
  size
  updateId
  updateTime := time
  timeMs := time

/-- The plain account receives an update of a position while the snapshot is requested, and then
the snapshot. -/
def plainPositions (update snapshot : PositionsItem) : List Input :=
  plainInputs (plainLogin ++
    [.orderEntryTimer true fun _ => true,
      .accountsReply ⟨.accounts, 4⟩ (.result .success 200 (some ())), .timer true,
      .tradeSubscribe ⟨.positions, .success⟩, .orderEntryTimer true fun _ => true,
      .tradePositions ⟨2000000000, [update]⟩,
      .positionsReply ⟨.positions, 8⟩ (.result .success 200 (some ⟨[snapshot]⟩))])

end GateFutures.Gateway
