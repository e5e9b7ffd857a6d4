/-
This file says which symbols the two producers of symbols record: the requests of clients and the
contracts.

Both record the symbols that are new, each once, in the order they come. The loop over the
contracts may stop at a call that raises an exception, and keeps what it has recorded by then.
-/

import GateFutures.Market.Queues
import Mathlib.Data.List.Nodup

namespace GateFutures.Market

open Framework Library Protocol Roq

variable {Store Queue : Type}

/-! ### New symbols -/

/-- The symbols of a list that are not known, each once, in order. -/
def newSymbols (known : List String) : List String → List String
  | [] => []
  | symbol :: later =>
    if symbol ∈ known then newSymbols known later
    else symbol :: newSymbols (known ++ [symbol]) later

theorem mem_newSymbols {known symbols : List String} {symbol : String} :
    symbol ∈ newSymbols known symbols ↔ symbol ∈ symbols ∧ symbol ∉ known := by
  induction symbols generalizing known with
  | nil => simp [newSymbols]
  | cons first later inductionHypothesis =>
    rw [newSymbols]
    split
    next isKnown =>
      rw [inductionHypothesis, List.mem_cons]
      constructor
      · rintro ⟨member, unknown⟩
        exact ⟨Or.inr member, unknown⟩
      · rintro ⟨rfl | member, unknown⟩
        · exact absurd isKnown unknown
        · exact ⟨member, unknown⟩
    next isNew =>
      rw [List.mem_cons, inductionHypothesis, List.mem_cons, List.mem_append,
        List.mem_singleton]
      constructor
      · rintro (rfl | ⟨member, unknown⟩)
        · exact ⟨Or.inl rfl, isNew⟩
        · exact ⟨Or.inr member, fun isKnown => unknown (Or.inl isKnown)⟩
      · rintro ⟨member, unknown⟩
        by_cases same : symbol = first
        · exact Or.inl same
        · exact Or.inr ⟨member.resolve_left same, fun either => either.elim unknown same⟩

theorem newSymbols_eq_nil {known symbols : List String} :
    newSymbols known symbols = [] ↔ ∀ symbol ∈ symbols, symbol ∈ known := by
  rw [List.eq_nil_iff_forall_not_mem]
  simp only [mem_newSymbols, not_and, not_not]

theorem newSymbols_append (known first second : List String) :
    newSymbols known (first ++ second) =
      newSymbols known first ++ newSymbols (known ++ newSymbols known first) second := by
  induction first generalizing known with
  | nil => rw [newSymbols, List.append_nil, List.nil_append, List.nil_append]
  | cons symbol later inductionHypothesis =>
    rw [List.cons_append, newSymbols, newSymbols]
    split
    · exact inductionHypothesis known
    · rw [inductionHypothesis, List.cons_append, List.append_assoc, List.singleton_append]

/-- Recording the new symbols of a list leaves no symbol recorded twice. -/
theorem newSymbols_nodup {known : List String} (nodup : known.Nodup) (symbols : List String) :
    (known ++ newSymbols known symbols).Nodup := by
  induction symbols generalizing known with
  | nil =>
    rw [newSymbols, List.append_nil]
    exact nodup
  | cons symbol later inductionHypothesis =>
    rw [newSymbols]
    split
    next => exact inductionHypothesis nodup
    next isNew =>
      rw [List.append_cons]
      refine inductionHypothesis (List.nodup_append.mpr ⟨nodup, List.nodup_singleton symbol, ?_⟩)
      rintro known isKnown other only rfl
      exact isNew (List.mem_singleton.mp only ▸ isKnown)

/-! ### Requests of clients -/

/-- The loop over a client's symbols records the new ones, and collects them. -/
theorem collectSymbols_eq (items symbols : List String) (feeds : Feeds Store Queue) :
    collectSymbols items symbols feeds =
      ({ feeds with shared.allSymbols :=
          feeds.shared.allSymbols ++ newSymbols feeds.shared.allSymbols items },
        symbols ++ newSymbols feeds.shared.allSymbols items) := by
  induction items generalizing symbols feeds with
  | nil => rw [collectSymbols, newSymbols, List.append_nil, List.append_nil]
  | cons item later inductionHypothesis =>
    rw [collectSymbols, newSymbols]
    split
    next => exact inductionHypothesis symbols feeds
    next isNew =>
      have recorded : feeds.recordSymbol item =
          { feeds with shared.allSymbols := feeds.shared.allSymbols ++ [item] } := if_neg isNew
      rw [inductionHypothesis, recorded]
      simp only [List.append_assoc, List.singleton_append]

/-- A client's request records the new symbols, and updates with them. -/
theorem subscribe_eq [Symbols String Store] [LimitQueue String Queue] (config : Config)
    (context : Context) (symbols : List String) (feeds : Feeds Store Queue) :
    subscribe config context symbols feeds =
      symbolsUpdate config context (newSymbols feeds.shared.allSymbols symbols)
        { feeds with shared.allSymbols :=
            feeds.shared.allSymbols ++ newSymbols feeds.shared.allSymbols symbols } := by
  rw [subscribe, collectSymbols_eq, List.nil_append]

/-! ### Contracts -/

/-- The names of the contracts that are not discarded. -/
def wanted (discard : String → Bool) (items : List ContractsAckItem) : List String :=
  (items.map ContractsAckItem.name).filter fun name => !discard name

theorem wanted_append (discard : String → Bool) (first second : List ContractsAckItem) :
    wanted discard (first ++ second) = wanted discard first ++ wanted discard second := by
  rw [wanted, List.map_append, List.filter_append]
  rfl

theorem mem_wanted {discard : String → Bool} {items : List ContractsAckItem} {name : String} :
    name ∈ wanted discard items ↔
      ∃ item ∈ items, item.name = name ∧ discard item.name = false := by
  rw [wanted, List.mem_filter, List.mem_map, Bool.not_eq_true']
  constructor
  · rintro ⟨⟨item, member, rfl⟩, kept⟩
    exact ⟨item, member, rfl, kept⟩
  · rintro ⟨item, member, rfl, kept⟩
    exact ⟨⟨item, member, rfl⟩, kept⟩

/-- What the loop over the contracts records of a list of them. -/
abbrev newContracts (discard : String → Bool) (known : List String)
    (items : List ContractsAckItem) : List String :=
  newSymbols known (wanted discard items)

theorem newContracts_cons (discard : String → Bool) (known : List String) (item : ContractsAckItem)
    (later : List ContractsAckItem) :
    newContracts discard known (item :: later) = newContracts discard known [item] ++
      newContracts discard (known ++ newContracts discard known [item]) later := by
  rw [← List.singleton_append, newContracts, wanted_append, newSymbols_append]

namespace Rest

/-- The loop reaches the call for a contract, given the symbols known by then. -/
def ContractsCall.Reached (call : ContractsCall) (discard : String → Bool) (known : List String)
    (item : ContractsAckItem) : Prop :=
  match call with
  | .discardSymbol | .dispatch | .cacheSettleCoin => True
  | .emplaceSymbol => discard item.name = false
  | .constructSymbol => discard item.name = false ∧ item.name ∉ known

/-- The loop reaches the call that raises an exception, given the symbols known before it. -/
def ContractsFailure.Reached (failure : ContractsFailure) (discard : String → Bool)
    (known : List String) (items : List ContractsAckItem) : Prop :=
  ∃ item, items[failure.position]? = some item ∧
    failure.call.Reached discard
      (known ++ newContracts discard known (items.take failure.position)) item

@[simp] theorem ContractsFailure.reached_zero (call : ContractsCall) (discard : String → Bool)
    (known : List String) (item : ContractsAckItem) (later : List ContractsAckItem) :
    ContractsFailure.Reached ⟨0, call⟩ discard known (item :: later) ↔
      call.Reached discard known item := by
  have none : known ++ newContracts discard known ((item :: later).take 0) = known :=
    List.append_nil known
  constructor
  · rintro ⟨other, first, reached⟩
    cases first
    exact none ▸ reached
  · intro reached
    exact ⟨item, rfl, none.symm ▸ reached⟩

@[simp] theorem ContractsFailure.reached_succ (position : Nat) (call : ContractsCall)
    (discard : String → Bool) (known : List String) (item : ContractsAckItem)
    (later : List ContractsAckItem) :
    ContractsFailure.Reached ⟨position + 1, call⟩ discard known (item :: later) ↔
      ContractsFailure.Reached ⟨position, call⟩ discard
        (known ++ newContracts discard known [item]) later := by
  unfold ContractsFailure.Reached
  rw [List.getElem?_cons_succ, List.take_succ_cons, newContracts_cons, ← List.append_assoc]

/-- How many contracts are done when the call raises an exception: the last symbol is recorded
before it is constructed. -/
def ContractsFailure.done (failure : ContractsFailure) : Nat :=
  if failure.call = .constructSymbol then failure.position + 1 else failure.position

/-- How the body of the loop leaves a contract: it is done, and recorded if it is included, or
the call that raises an exception was reached, and it is recorded if that is its
construction. -/
def ItemOutcome.Leaves (outcome : ItemOutcome) (discard : String → Bool)
    (failure : Option ContractsFailure) (position : Nat) (item : ContractsAckItem)
    (before after : Feeds Store Queue) : Prop :=
  if outcome = .raised then
    ∃ call, failure = some ⟨position, call⟩ ∧
      call.Reached discard before.shared.allSymbols item ∧
      before.Records (if call = .constructSymbol then
        newContracts discard before.shared.allSymbols [item] else []) after
  else
    newContracts discard before.shared.allSymbols [item] =
        (if outcome = .included then [item.name] else []) ∧
      before.Records (newContracts discard before.shared.allSymbols [item]) after ∧
      ∀ call, failure = some ⟨position, call⟩ →
        ¬ call.Reached discard before.shared.allSymbols item

theorem newContracts_discarded {discard : String → Bool} {known : List String}
    {item : ContractsAckItem} (discarded : discard item.name = true) :
    newContracts discard known [item] = [] := by
  refine newSymbols_eq_nil.mpr fun name member => ?_
  obtain ⟨other, only, rfl, kept⟩ := mem_wanted.mp member
  rw [List.mem_singleton.mp only, discarded] at kept
  cases kept

theorem newContracts_kept {discard : String → Bool} {known : List String} {item : ContractsAckItem}
    (kept : discard item.name = false) :
    newContracts discard known [item] = if item.name ∈ known then [] else [item.name] := by
  have only : wanted discard [item] = [item.name] := by simp [wanted, kept]
  rw [newContracts, only]
  rfl

/-- No call that the loop reaches for a contract raises an exception. -/
theorem not_reached {failure : Option ContractsFailure} {position : Nat}
    {discard : String → Bool} {known : List String} {item : ContractsAckItem}
    (filtered : failure ≠ some ⟨position, .discardSymbol⟩)
    (dispatched : failure ≠ some ⟨position, .dispatch⟩)
    (cached : failure ≠ some ⟨position, .cacheSettleCoin⟩)
    (emplaced : discard item.name = false → failure ≠ some ⟨position, .emplaceSymbol⟩)
    (constructed : discard item.name = false → item.name ∉ known →
      failure ≠ some ⟨position, .constructSymbol⟩)
    (call : ContractsCall) (fails : failure = some ⟨position, call⟩) :
    ¬ call.Reached discard known item := by
  intro reached
  cases call with
  | discardSymbol => exact filtered fails
  | dispatch => exact dispatched fails
  | cacheSettleCoin => exact cached fails
  | emplaceSymbol => exact emplaced reached fails
  | constructSymbol => exact constructed reached.1 reached.2 fails

theorem emplaceSymbol_leaves {failure : Option ContractsFailure} {position : Nat}
    {discard : String → Bool} {item : ContractsAckItem} {feeds : Feeds Store Queue}
    (filtered : failure ≠ some ⟨position, .discardSymbol⟩)
    (dispatched : failure ≠ some ⟨position, .dispatch⟩)
    (cached : failure ≠ some ⟨position, .cacheSettleCoin⟩) :
    (emplaceSymbol failure position item.name (discard item.name) feeds).2.Leaves discard failure
      position item feeds
      (emplaceSymbol failure position item.name (discard item.name) feeds).1 := by
  unfold emplaceSymbol
  by_cases discarded : discard item.name = true
  · rw [if_pos discarded]
    have dropped : discard item.name ≠ false := fun kept => by
      rw [discarded] at kept
      cases kept
    refine ⟨newContracts_discarded discarded, ?_, not_reached filtered dispatched cached
      (fun kept => absurd kept dropped) fun kept => absurd kept dropped⟩
    rw [newContracts_discarded discarded]
    exact .refl feeds
  have kept : discard item.name = false := Bool.not_eq_true _ ▸ discarded
  rw [if_neg discarded]
  by_cases emplaceFails : failure = some ⟨position, .emplaceSymbol⟩
  · rw [if_pos emplaceFails]
    exact ⟨.emplaceSymbol, emplaceFails, kept, .refl feeds⟩
  rw [if_neg emplaceFails]
  by_cases known : item.name ∈ feeds.shared.allSymbols
  · rw [if_pos known]
    have old : newContracts discard feeds.shared.allSymbols [item] = [] := by
      rw [newContracts_kept kept, if_pos known]
    refine ⟨old, ?_, not_reached filtered dispatched cached (fun _ => emplaceFails)
      fun _ unknown => absurd known unknown⟩
    rw [old]
    exact .refl feeds
  have new : newContracts discard feeds.shared.allSymbols [item] = [item.name] := by
    rw [newContracts_kept kept, if_neg known]
  have recorded : feeds.Records (newContracts discard feeds.shared.allSymbols [item])
      (feeds.recordSymbol item.name) := by
    rw [new, Feeds.recordSymbol, if_neg known]
    exact ⟨⟨[], (List.append_nil _).symm, List.forall_mem_nil _⟩, rfl, rfl, rfl⟩
  rw [if_neg known]
  by_cases constructFails : failure = some ⟨position, .constructSymbol⟩
  · rw [if_pos constructFails]
    exact ⟨.constructSymbol, constructFails, ⟨kept, known⟩, recorded⟩
  rw [if_neg constructFails]
  exact ⟨new, recorded, not_reached filtered dispatched cached (fun _ => emplaceFails)
    fun _ _ => constructFails⟩

/-- Publishing before the end of the loop's body changes nothing of this. -/
theorem ItemOutcome.Leaves.of_publishes {outcome : ItemOutcome} {discard : String → Bool}
    {failure : Option ContractsFailure} {position : Nat} {item : ContractsAckItem}
    {before middle after : Feeds Store Queue} (publishes : before.Publishes middle)
    (leaves : outcome.Leaves discard failure position item middle after) :
    outcome.Leaves discard failure position item before after := by
  unfold ItemOutcome.Leaves at leaves ⊢
  rw [publishes.allSymbols] at leaves
  have first : before.Records [] middle := .of_publishes publishes
  split at leaves
  next raised =>
    obtain ⟨call, fails, reached, records⟩ := leaves
    rw [if_pos raised]
    exact ⟨call, fails, reached, first.trans records⟩
  next finished =>
    obtain ⟨recorded, records, unreached⟩ := leaves
    rw [if_neg finished]
    exact ⟨recorded, first.trans records, unreached⟩

section Loop

variable [LimitQueue String Queue]

theorem emplaceSymbol_accounts (failure : Option ContractsFailure) (position : Nat)
    (symbol : String) (discard : Bool) (feeds : Feeds Store Queue) :
    feeds.Accounts [] (emplaceSymbol failure position symbol discard feeds).1 := by
  have recorded : feeds.Accounts [] (feeds.recordSymbol symbol) := by
    rw [Feeds.recordSymbol]
    split
    · exact .refl feeds
    · exact .of_unqueued [] (List.append_nil _).symm (List.forall_mem_nil _)
        fun kind => by cases kind <;> rfl
  unfold emplaceSymbol
  split
  · exact .refl feeds
  · split
    · exact .refl feeds
    · split
      · exact .refl feeds
      · split <;> exact recorded

theorem contractsItem_leaves {config : Config} {context : Context}
    {failure : Option ContractsFailure} {position : Nat} {item : ContractsAckItem}
    {feeds next : Feeds Store Queue} {outcome : ItemOutcome}
    (handled : contractsItem config context failure position item feeds = .ok (next, outcome)) :
    feeds.Accounts [] next ∧
      outcome.Leaves context.discardSymbol failure position item feeds next := by
  rw [contractsItem] at handled
  by_cases filterFails : failure = some ⟨position, .discardSymbol⟩
  · rw [if_pos filterFails] at handled
    cases handled
    exact ⟨.refl _, .discardSymbol, filterFails, trivial, .refl _⟩
  rw [if_neg filterFails] at handled
  cases split : splitSymbol item.name with
  | none =>
    rw [split] at handled
    cases handled
  | some currencies =>
    rw [split] at handled
    by_cases dispatchFails : failure = some ⟨position, .dispatch⟩
    · replace handled := (if_pos dispatchFails).symm.trans handled
      cases handled
      exact ⟨.refl _, .dispatch, dispatchFails, trivial, .refl _⟩
    replace handled := (if_neg dispatchFails).symm.trans handled
    have published := Feeds.Publishes.emit feeds (.referenceData (createReferenceData config item
      currencies.1 currencies.2 (context.discardSymbol item.name))) rfl
    by_cases cacheFails : failure = some ⟨position, .cacheSettleCoin⟩
    · replace handled := (if_pos cacheFails).symm.trans handled
      cases handled
      exact ⟨.of_publishes published, .cacheSettleCoin, cacheFails, trivial,
        .of_publishes published⟩
    replace handled := (if_neg cacheFails).symm.trans handled
    have cached := published.trans (cacheSettleCoin_publishes item.name
      (settlementCurrency item.type currencies.1 currencies.2) _)
    obtain ⟨rfl, rfl⟩ := Prod.mk.inj (Except.ok.inj handled)
    exact ⟨(Feeds.Accounts.of_publishes cached).trans (emplaceSymbol_accounts ..),
      .of_publishes cached (emplaceSymbol_leaves filterFails dispatchFails cacheFails)⟩

/-- The loop either does all contracts, and records and collects their new symbols, or reaches a
call that raises an exception, and records the new symbols of those done by then. -/
theorem collectContracts_cases {config : Config} {context : Context}
    {failure : Option ContractsFailure} {items : List ContractsAckItem} {position : Nat}
    {symbols collected : List String} {feeds next : Feeds Store Queue} {outcome : Outcome}
    (handled : collectContracts config context failure items position symbols feeds =
      .ok (next, collected, outcome)) :
    feeds.Accounts [] next ∧
      ((outcome = .returned ∧
          feeds.Records (newContracts context.discardSymbol feeds.shared.allSymbols items) next ∧
          collected =
            symbols ++ newContracts context.discardSymbol feeds.shared.allSymbols items ∧
          ∀ done call, failure = some ⟨position + done, call⟩ →
            ¬ ContractsFailure.Reached ⟨done, call⟩ context.discardSymbol
              feeds.shared.allSymbols items) ∨
        (outcome = .raised ∧ ∃ done call, failure = some ⟨position + done, call⟩ ∧
          ContractsFailure.Reached ⟨done, call⟩ context.discardSymbol feeds.shared.allSymbols
            items ∧
          feeds.Records (newContracts context.discardSymbol feeds.shared.allSymbols
            (items.take (ContractsFailure.done ⟨done, call⟩))) next)) := by
  induction items generalizing position symbols feeds with
  | nil =>
    cases handled
    refine ⟨.refl _, Or.inl ⟨rfl, .refl _, (List.append_nil _).symm, ?_⟩⟩
    rintro done call - ⟨item, beyond, -⟩
    cases beyond
  | cons item later inductionHypothesis =>
    obtain ⟨⟨middle, left⟩, itemHandled, handled⟩ := bind_ok.mp handled
    obtain ⟨accounts, leaves⟩ := contractsItem_leaves itemHandled
    by_cases raised : left = .raised
    · subst raised
      cases handled
      obtain ⟨call, fails, reached, records⟩ := leaves
      refine ⟨accounts, Or.inr ⟨rfl, 0, call, fails, ?_, ?_⟩⟩
      · exact (ContractsFailure.reached_zero ..).mpr reached
      · unfold ContractsFailure.done
        by_cases constructs : call = .constructSymbol
        · rw [if_pos constructs] at records ⊢
          exact records
        · rw [if_neg constructs] at records ⊢
          exact records
    · unfold ItemOutcome.Leaves at leaves
      rw [if_neg raised] at leaves
      obtain ⟨recorded, records, unreached⟩ := leaves
      have rest : collectContracts config context failure later (position + 1)
          (symbols ++ newContracts context.discardSymbol feeds.shared.allSymbols [item]) middle =
          .ok (next, collected, outcome) := by
        rw [recorded]
        cases left with
        | skipped =>
          rw [if_neg nofun, List.append_nil]
          exact handled
        | included => exact handled
        | raised => exact absurd rfl raised
      obtain ⟨accounts', finished⟩ := inductionHypothesis rest
      rw [records.allSymbols] at finished
      refine ⟨accounts.trans accounts', ?_⟩
      have both := newContracts_cons context.discardSymbol feeds.shared.allSymbols item
      rcases finished with ⟨rfl, records', rfl, unreached'⟩ |
        ⟨rfl, done, call, fails, reached, records'⟩
      · refine Or.inl ⟨rfl, ?_, ?_, ?_⟩
        · rw [both later]
          exact records.trans records'
        · rw [both later, List.append_assoc]
        · intro done call fails
          cases done with
          | zero =>
            rw [ContractsFailure.reached_zero]
            exact unreached call fails
          | succ done =>
            rw [ContractsFailure.reached_succ]
            refine unreached' done call ?_
            rw [fails, Nat.add_right_comm, Nat.add_assoc]
      · refine Or.inr ⟨rfl, done + 1, call, ?_, ?_, ?_⟩
        · rw [fails, Nat.add_right_comm, Nat.add_assoc]
        · exact (ContractsFailure.reached_succ ..).mpr reached
        · have later_done : ContractsFailure.done ⟨done + 1, call⟩ =
              ContractsFailure.done ⟨done, call⟩ + 1 := by
            unfold ContractsFailure.done
            split <;> rfl
          rw [later_done, List.take_succ_cons, both (later.take _)]
          exact records.trans records'

end Loop

end Rest

end GateFutures.Market
