/-
This file proves which status replies resolve the stale order they were asked about.

A 404 names the order by the echoed request id, an order by its text, and any other reply
names nothing, although it lowers the counter like the others. So a session is ready with
its stale orders resolved in the runs whose status replies are a 404 or name their order.
-/

import GateFutures.Gateway.StaleOrders

namespace GateFutures.Gateway

open Framework Library Protocol Roq

variable {Driver Mark : Type}

/-! ### What a reply names -/

/-- The order updates among outputs. -/
def orderUpdates (outputs : List Output) : List OrderUpdate :=
  outputs.filterMap Output.orderUpdate?

/-- A status reply resolves the order that was queried: it does not exist, or the reply's text
names it and its status is known. -/
def Resolves (query : StatusQuery) (message : TradeOrderStatus) : Prop :=
  message.header.status = 404 ∨
    query.clientOrderId ≠ "" ∧
      DropCopy.getClientOrderId message.result.text = query.clientOrderId ∧
      (message.result.finishAs.map ≠ .undefined ∨ message.result.status = .open)

instance (query : StatusQuery) (message : TradeOrderStatus) :
    Decidable (Resolves query message) :=
  inferInstanceAs (Decidable (_ ∨ _ ∧ _))

/-- An order's status is known exactly when it maps to one, or the order is open. -/
theorem getOrderStatus_ok (finishAs : FinishAs) (status : Protocol.OrderStatus) :
    (∃ orderStatus, DropCopy.getOrderStatus finishAs status = .ok orderStatus) ↔
      finishAs.map ≠ .undefined ∨ status = .open := by
  rw [DropCopy.getOrderStatus]
  split
  next known => exact ⟨fun _ => Or.inl known, fun _ => ⟨_, rfl⟩⟩
  next unknown =>
    split
    next isOpen => exact ⟨fun _ => Or.inr isOpen, fun _ => ⟨_, rfl⟩⟩
    next isClosed =>
      constructor
      · rintro ⟨orderStatus, impossible⟩
        cases impossible
      · intro either
        exact (either.elim unknown isClosed).elim

/-- An order's update names the order its text names. -/
theorem createOrderUpdate_names {width : Nat} (config : Config) (value : OrderItem width)
    (updateType : UpdateType) (clientOrderId : String) :
    (∃ update, DropCopy.createOrderUpdate config value updateType = .ok (some update) ∧
        update.clientOrderId = clientOrderId) ↔
      clientOrderId ≠ "" ∧ DropCopy.getClientOrderId value.text = clientOrderId ∧
        (value.finishAs.map ≠ .undefined ∨ value.status = .open) := by
  rw [← getOrderStatus_ok, DropCopy.createOrderUpdate]
  split
  next external =>
    constructor
    · rintro ⟨update, impossible, -⟩
      cases impossible
    · rintro ⟨named, same, -⟩
      exact absurd (same.symm.trans external) named
  next ours =>
    constructor
    · rintro ⟨update, created, rfl⟩
      obtain ⟨orderStatus, known, created⟩ := bind_ok.mp created
      cases created
      exact ⟨ours, rfl, orderStatus, known⟩
    · rintro ⟨-, rfl, orderStatus, known⟩
      exact ⟨_, bind_ok.mpr ⟨orderStatus, known, rfl⟩, rfl⟩

/-- A reply's update names the order that was queried exactly when the reply resolves it. -/
theorem orderStatusUpdate_names (config : Config) (query : StatusQuery)
    (message : TradeOrderStatus) (echoed : message.requestId = query.clientOrderId) :
    (∃ update, Session.orderStatusUpdate config message = .ok (some update) ∧
        update.clientOrderId = query.clientOrderId) ↔ Resolves query message := by
  rw [Session.orderStatusUpdate, Resolves]
  split
  next missing => exact ⟨fun _ => Or.inl missing, fun _ => ⟨_, rfl, echoed⟩⟩
  next found =>
    rw [createOrderUpdate_names]
    exact ⟨Or.inr, fun either => either.resolve_left found⟩

variable [Download2 DropCopy.State Driver]

/-! ### Unresolved orders -/

/-- The orders the host reported stale when the session's order list was handled. -/
def listedStale (entry : AccountEntry Driver Mark) : List String :=
  match stage entry, entry.input.event with
  | .getOpenOrders, .tradeOrderList _ =>
    entry.input.context.dispatcher.allStaleOrders.map Order.clientOrderId
  | _, _ => []

/-- The orders that were stale at an order list of the session, and have had no order update
since. -/
def unresolved : AccountHistory Driver Mark → List String
  | [] => []
  | entry :: before =>
    if entry.input.event.isDisconnected then []
    else ((unresolved before).filter fun clientOrderId =>
        clientOrderId ∉ (orderUpdates entry.output).map OrderUpdate.clientOrderId) ++
      listedStale entry

/-- Every query is answered at most once, on its connection, by a reply that echoes its id; a
reply with status 200 carries the order's text. -/
def StatusRepliesEcho : Environment (Session Driver Mark) Input (List Output) :=
  fun history _ input => ∀ reply ∈ input.event.statusReply,
    reply.1 ∈ unanswered history ∧ reply.2.requestId = reply.1.clientOrderId ∧
      (reply.2.header.status = 200 → reply.2.result.text = "t-" ++ reply.1.clientOrderId)

/-- Status replies resolve the order that was queried. -/
def StatusRepliesResolve : Environment (Session Driver Mark) Input (List Output) :=
  fun _ _ input => ∀ reply ∈ input.event.statusReply, Resolves reply.1 reply.2

instance (history : AccountHistory Driver Mark) (session : Session Driver Mark)
    (input : Input) : Decidable (StatusRepliesEcho history session input) :=
  inferInstanceAs (Decidable (∀ reply ∈ input.event.statusReply, _ ∧ _ ∧ (_ → _)))

instance (history : AccountHistory Driver Mark) (session : Session Driver Mark)
    (input : Input) : Decidable (StatusRepliesResolve history session input) :=
  inferInstanceAs (Decidable (∀ reply ∈ input.event.statusReply, _))

/-- `READY` is published only once every order that was stale at the order list has had an
update. -/
def ReadyMeansResolved : StepProperty (Session Driver Mark) Input (List Output) :=
  fun history entry => PublishesReady entry.output → unresolved history = []

/-- Every unresolved order has an unanswered query, raised by the session's order list. -/
def ResolutionInvariant (history : AccountHistory Driver Mark) : Prop :=
  ∀ clientOrderId ∈ unresolved history, ∃ query ∈ unanswered history,
    query.clientOrderId = clientOrderId ∧ query.stage = .getOpenOrders

theorem mem_unresolved_cons {entry : AccountEntry Driver Mark}
    {before : AccountHistory Driver Mark} {clientOrderId : String}
    (member : clientOrderId ∈ unresolved (entry :: before)) :
    clientOrderId ∈ unresolved before ∧
        clientOrderId ∉ (orderUpdates entry.output).map OrderUpdate.clientOrderId ∨
      clientOrderId ∈ listedStale entry := by
  rw [unresolved] at member
  split at member
  · cases member
  · rcases List.mem_append.mp member with member | member
    · obtain ⟨member, missing⟩ := List.mem_filter.mp member
      exact Or.inl ⟨member, of_decide_eq_true missing⟩
    · exact Or.inr member

/-! ### One status reply -/

variable [LimitRequest Mark]

/-- A status reply is handled if its update can be made and the counter is not zero. -/
theorem Session.tradeOrderStatus_ok {config : Config} {message : TradeOrderStatus}
    {session : Session Driver Mark} {update : Option OrderUpdate} (context : Context)
    (updated : Session.orderStatusUpdate config message = .ok update)
    (positive : session.counter ≠ 0) :
    ∃ next, session.tradeOrderStatus config context message = .ok next := by
  cases result : session.tradeOrderStatus config context message with
  | ok next => exact ⟨next, rfl⟩
  | error failure =>
    rcases bind_error.mp result with failed | ⟨made, same, failed⟩
    · cases updated.symm.trans failed
    · simp only at failed
      split at failed
      next zero => exact absurd (by cases made <;> exact zero) positive
      next => split at failed <;> cases failed

/-- The reply is handled, and dispatches exactly one order update, which names the order that
was queried. -/
def DispatchesOne (config : Config) (session : Session Driver Mark) (context : Context)
    (query : StatusQuery) (message : TradeOrderStatus) : Prop :=
  ∃ next outputs update,
    session.step config ⟨context, .tradeOrderStatus query message⟩ = .ok (next, outputs) ∧
      orderUpdates outputs = [update] ∧ update.clientOrderId = query.clientOrderId

variable [LawfulDownload2 DropCopy.State Driver]

/-- The order updates of a status reply are the one it makes, if it makes one. -/
theorem Session.tradeOrderStatus_updates {config : Config} {context : Context}
    {message : TradeOrderStatus} {session next : Session Driver Mark}
    (handled : session.clearOutbox.tradeOrderStatus config context message = .ok next) :
    ∃ update, Session.orderStatusUpdate config message = .ok update ∧
      orderUpdates next.streams.outbox = update.toList := by
  obtain ⟨update, updated, -, moved⟩ := Session.tradeOrderStatus_cases handled
  have resolved : orderUpdates (session.clearOutbox.streams.resolve update).outbox =
      update.toList := by
    cases update <;> rfl
  refine ⟨update, updated, ?_⟩
  rcases moved with ⟨stays, -⟩ | ⟨-, enters⟩
  · rw [stays.streams]
    exact resolved
  · exact (enters.streams.adds.filterMap Output.orderUpdate_kind (by simp)).trans resolved

/-- A reply to an unanswered query dispatches the one update exactly when it resolves it. -/
theorem dispatchesOne_iff (config : Config) (session : Session Driver Mark)
    (context : Context) (query : StatusQuery) (message : TradeOrderStatus)
    (positive : session.counter ≠ 0) (echoed : message.requestId = query.clientOrderId) :
    DispatchesOne config session context query message ↔ Resolves query message := by
  rw [← orderStatusUpdate_names config query message echoed]
  constructor
  · rintro ⟨next, outputs, update, taken, dispatched, named⟩
    obtain ⟨handled, rfl⟩ := Session.step_ok taken
    obtain ⟨made, updated, updates⟩ := Session.tradeOrderStatus_updates handled
    rw [updates] at dispatched
    cases made with
    | none => cases dispatched
    | some made =>
      cases dispatched
      exact ⟨update, updated, named⟩
  · rintro ⟨update, updated, named⟩
    obtain ⟨next, handled⟩ := session.clearOutbox.tradeOrderStatus_ok context updated positive
    obtain ⟨made, updated', updates⟩ := Session.tradeOrderStatus_updates handled
    cases updated.symm.trans updated'
    exact ⟨next, next.streams.outbox, update, bind_ok.mpr ⟨next, handled, rfl⟩, updates, named⟩

/-! ### One step -/

/-- An order that was stale at an order list is queried by it. -/
theorem listedStale_queried {config : Config} {session next : Session Driver Mark}
    {input : Input} {outputs : List Output} {clientOrderId : String}
    (taken : session.step config input = .ok (next, outputs))
    (member : clientOrderId ∈ listedStale ⟨session, input, outputs⟩) :
    ∃ query ∈ statusQueries session.state outputs,
      query.clientOrderId = clientOrderId ∧ query.stage = .getOpenOrders := by
  obtain ⟨handled, rfl⟩ := Session.step_ok taken
  rw [listedStale] at member
  split at member
  next message current listed =>
    have current : session.state = .getOpenOrders := current
    have listed : input.event = .tradeOrderList message := listed
    rw [listed] at handled
    have queried := (Session.tradeOrderList_accounts handled).queries session.state
    have member : clientOrderId ∈ (statusQueries session.state next.streams.outbox).map
        StatusQuery.clientOrderId := by
      rw [queried]
      exact List.mem_append_right _ member
    obtain ⟨query, queries, named⟩ := List.mem_map.mp member
    exact ⟨query, queries, named, (stage_of_statusQueries queries).trans current⟩
  next => cases member

variable [LawfulLimitRequest Mark]

theorem ResolutionInvariant.step {config : Config} {history : AccountHistory Driver Mark}
    {session next : Session Driver Mark} {input : Input} {outputs : List Output}
    (invariant : ResolutionInvariant history)
    (echoes : StatusRepliesEcho history session input)
    (resolve : StatusRepliesResolve history session input)
    (taken : session.step config input = .ok (next, outputs)) :
    ResolutionInvariant (⟨session, input, outputs⟩ :: history) := by
  intro clientOrderId member
  rcases mem_unresolved_cons member with ⟨before, unnamed⟩ | listed
  · obtain ⟨query, asked, named, raised⟩ := invariant clientOrderId before
    refine ⟨query, ?_, named, raised⟩
    cases Session.step_queries taken with
    | counts connected silent => simp [unanswered, connected, silent, asked]
    | resets disconnected => simp [unresolved, disconnected] at member
    | answers answeredQuery message connected answered =>
      have different : query ≠ answeredQuery := by
        rintro rfl
        obtain ⟨context, event⟩ := input
        cases event <;> cases answered
        obtain ⟨-, echoed, -⟩ := echoes _ rfl
        obtain ⟨update, updated, names⟩ :=
          (orderStatusUpdate_names config query message echoed).mpr (resolve _ rfl)
        obtain ⟨handled, rfl⟩ := Session.step_ok taken
        obtain ⟨made, updated', updates⟩ := Session.tradeOrderStatus_updates handled
        cases updated.symm.trans updated'
        refine unnamed ?_
        rw [updates]
        simp [names, named]
      have kept : query ∈ (unanswered history).erase answeredQuery :=
        (List.mem_erase_of_ne different).mpr asked
      simp [unanswered, connected, answered, kept]
  · obtain ⟨query, asked, named, raised⟩ := listedStale_queried taken listed
    refine ⟨query, ?_, named, raised⟩
    cases Session.step_queries taken with
    | counts connected silent =>
      simp only [unanswered, connected, silent, stage]
      exact List.mem_append_right _ asked
    | resets disconnected => simp [unresolved, disconnected] at member
    | answers _ _ _ _ _ _ unqueried =>
      rw [unqueried] at asked
      cases asked

/-! ### Runs -/

/-- A status reply dispatches exactly one update, of the order that was queried, exactly when it
resolves it. In the runs whose status replies all do, `READY` means that the orders are resolved
that were stale at the order list that was handled while the open orders were downloaded. -/
theorem stale_orders_resolved (config : Config) (history : AccountHistory Driver Mark)
    (session : Session Driver Mark)
    (run : (account config).Run StatusRepliesEcho history session) :
    (∀ context query message,
      StatusRepliesEcho history session ⟨context, .tradeOrderStatus query message⟩ →
        (DispatchesOne config session context query message ↔ Resolves query message)) ∧
      (History.Always
          (fun before entry => StatusRepliesResolve before entry.before entry.input) history →
        History.Always ReadyMeansResolved history) := by
  have answers : ∀ (history : AccountHistory Driver Mark) session input,
      StatusRepliesEcho history session input →
        StatusRepliesAnswerQueries history session input :=
    fun _ _ _ echoes reply answered => (echoes reply answered).1
  constructor
  · intro context query message echoes
    obtain ⟨asked, echoed, -⟩ := echoes _ rfl
    refine dispatchesOne_iff config session context query message ?_ echoed
    rw [(StaleInvariant.of_run (run.weaken answers)).counted]
    exact Nat.ne_of_gt (List.length_pos_of_mem asked)
  · intro resolve
    refine (run.restrict resolve).always ?_
    intro history session input next outputs run _ taken ready
    have invariant : ResolutionInvariant history :=
      run.invariant (fun history _ => ResolutionInvariant history)
        (fun _ member => nomatch member)
        fun history session input next outputs invariant admitted taken =>
          invariant.step admitted.1 admitted.2 taken
    have waits := (StaleInvariant.of_run (run.weaken fun history session input admitted =>
      answers history session input admitted.1)).ready taken ready
    refine List.eq_nil_iff_forall_not_mem.mpr fun clientOrderId member => ?_
    obtain ⟨query, asked, -, raised⟩ := invariant clientOrderId member
    rcases waits query asked with late | late <;> cases raised.symm.trans late

/-- A stale order that does not exist is resolved before `READY`. -/
theorem stale_orders_resolved_plain : ∃ history session,
    plainAccount.Run StatusRepliesEcho history session ∧ session.ready = true ∧
      History.Always ReadyMeansResolved history := by
  have run : plainAccount.Run StatusRepliesEcho _ _ := .of_replay
    (plainDownload .networkError .networkError [plainStaleOrder] ++
      plainInputs [plainStatusReply 404 "", .tradeSubscribe ⟨.usertrades, .success⟩]) rfl
    (by decide)
  exact ⟨_, _, run, rfl, (stale_orders_resolved plainConfig _ _ run).2 (by decide)⟩

/-- A stale order whose query fails with status 500 is not resolved, and `READY` follows. -/
theorem ready_with_unresolved_order : ∃ history session,
    plainAccount.Run StatusRepliesEcho history session ∧
      ¬ History.Always ReadyMeansResolved history := by
  refine ⟨_, _, .of_replay (plainDownload .networkError .networkError [plainStaleOrder] ++
    plainInputs [plainStatusReply 500 "", .tradeSubscribe ⟨.usertrades, .success⟩]) rfl
    (by decide), ?_⟩
  intro always
  exact absurd (always.1 (by decide)) (by decide)

end GateFutures.Gateway
