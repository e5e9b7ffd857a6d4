/-
This file composes reactive machines.

A family has a machine for every part. A step of the composite makes a list of calls, one after
the other: a call names a part, and its input may depend on the states the parts are in when its
turn comes. What parts did is kept as turns, newest first. From the turns each part's own history
can be read off again, and it is a run of the part's machine.
-/

import GateFutures.Library.Run
import Mathlib.Data.List.Perm.Basic
import Mathlib.Logic.Function.Basic

namespace GateFutures.Library

variable {Part : Type} {State Input Output Failure : Part → Type}

/-! ### Families, calls and turns -/

/-- A machine for every part. -/
abbrev Family (State Input Output Failure : Part → Type) :=
  (part : Part) → Machine (State part) (Input part) (Output part) (Failure part)

/-- A call of a part. Its input may depend on the states of all parts. -/
structure Call (State Input : Part → Type) where
  part : Part
  input : (∀ part, State part) → Input part

/-- A step that a part took. -/
structure Turn (State Input Output : Part → Type) where
  part : Part
  entry : Entry (State part) (Input part) (Output part)

variable [DecidableEq Part]

/-- What one part did, among turns. -/
def ownTurns (part : Part) :
    List (Turn State Input Output) → History (State part) (Input part) (Output part)
  | [] => []
  | turn :: before =>
    if same : turn.part = part then (same ▸ turn.entry) :: ownTurns part before
    else ownTurns part before

@[simp] theorem ownTurns_self (part : Part)
    (entry : Entry (State part) (Input part) (Output part))
    (before : List (Turn State Input Output)) :
    ownTurns part (⟨part, entry⟩ :: before) = entry :: ownTurns part before :=
  dif_pos rfl

theorem ownTurns_other {part : Part} {turn : Turn State Input Output} (other : turn.part ≠ part)
    (before : List (Turn State Input Output)) :
    ownTurns part (turn :: before) = ownTurns part before :=
  dif_neg other

theorem ownTurns_append (part : Part) (later before : List (Turn State Input Output)) :
    ownTurns part (later ++ before) = ownTurns part later ++ ownTurns part before := by
  induction later with
  | nil => rfl
  | cons turn later inductionHypothesis =>
    obtain ⟨other, entry⟩ := turn
    by_cases same : other = part
    · subst same
      rw [List.cons_append, ownTurns_self, ownTurns_self, inductionHypothesis, List.cons_append]
    · rw [List.cons_append, ownTurns_other same, ownTurns_other same, inductionHypothesis]

/-- What one part did are its turns. -/
theorem mem_ownTurns {part : Part} {entry : Entry (State part) (Input part) (Output part)}
    {turns : List (Turn State Input Output)} :
    entry ∈ ownTurns part turns ↔ ⟨part, entry⟩ ∈ turns := by
  induction turns with
  | nil =>
    rw [ownTurns]
    exact iff_of_false List.not_mem_nil List.not_mem_nil
  | cons turn before inductionHypothesis =>
    obtain ⟨other, taken⟩ := turn
    by_cases own : other = part
    · subst own
      rw [ownTurns_self, List.mem_cons, List.mem_cons, inductionHypothesis, Turn.mk.injEq]
      simp only [heq_eq_eq, true_and]
    · rw [ownTurns_other own, inductionHypothesis, List.mem_cons, Turn.mk.injEq]
      simp only [Ne.symm own, false_and, false_or]

/-- Every turn has the property, given the turns before it. -/
def TurnsAlways (property : List (Turn State Input Output) → Turn State Input Output → Prop) :
    List (Turn State Input Output) → Prop
  | [] => True
  | turn :: before => property before turn ∧ TurnsAlways property before

/-- Make calls one after the other. The turns taken are added to those before. -/
def Family.perform (family : Family State Input Output Failure) :
    List (Call State Input) → List (Turn State Input Output) → (∀ part, State part) →
      Except (Σ part, Failure part) ((∀ part, State part) × List (Turn State Input Output))
  | [], turns, states => .ok (states, turns)
  | call :: later, turns, states =>
    match (family call.part).step (states call.part) (call.input states) with
    | .ok (next, output) =>
      family.perform later
        (⟨call.part, ⟨states call.part, call.input states, output⟩⟩ :: turns)
        (Function.update states call.part next)
    | .error failure => .error ⟨call.part, failure⟩

/-- The composite of a family, given the calls that a request makes. -/
def Family.compose {Request : Type} (family : Family State Input Output Failure)
    (calls : Request → List (Call State Input)) :
    Machine (∀ part, State part) Request (List (Turn State Input Output))
      (Σ part, Failure part) where
  initial part := (family part).initial
  step states request := family.perform (calls request) [] states

/-- All turns of a history of the composite. -/
def turns {States Request : Type}
    (history : History States Request (List (Turn State Input Output))) :
    List (Turn State Input Output) :=
  history.flatMap Entry.output

/-- Where every part took the same turns step by step, it took the same turns. -/
theorem ownTurns_turns {States Request : Type}
    {history history' : History States Request (List (Turn State Input Output))}
    (same : List.Forall₂ (fun entry entry' => ∀ part,
      ownTurns part entry'.output = ownTurns part entry.output) history history') (part : Part) :
    ownTurns part (turns history') = ownTurns part (turns history) := by
  induction same with
  | nil => rfl
  | cons first _ inductionHypothesis =>
    rw [turns, turns, List.flatMap_cons, List.flatMap_cons, ownTurns_append, ownTurns_append,
      first part]
    exact congrArg (_ ++ ·) inductionHypothesis

/-! ### Runs, turn by turn -/

/-- The turns that may have been taken, newest first, and the states the parts are in then. Only
certain calls are made. -/
inductive Family.Takes (family : Family State Input Output Failure)
    (made : Call State Input → Prop) :
    List (Turn State Input Output) → (∀ part, State part) → Prop
  | start : Takes family made [] fun part => (family part).initial
  | take {turns : List (Turn State Input Output)} {states : ∀ part, State part}
      {call : Call State Input} {next : State call.part} {output : Output call.part}
      (before : Takes family made turns states) (calls : made call)
      (taken : (family call.part).step (states call.part) (call.input states) =
        .ok (next, output)) :
      Takes family made (⟨call.part, ⟨states call.part, call.input states, output⟩⟩ :: turns)
        (Function.update states call.part next)

namespace Family.Takes

variable {family : Family State Input Output Failure} {made : Call State Input → Prop}

/-- Calls that succeed take their turns on top of those before. -/
theorem perform {calls : List (Call State Input)} {turns last : List (Turn State Input Output)}
    {states after : ∀ part, State part} (before : family.Takes made turns states)
    (admitted : ∀ call ∈ calls, made call)
    (performed : family.perform calls turns states = .ok (after, last)) :
    family.Takes made last after := by
  induction calls generalizing turns states with
  | nil =>
    cases performed
    exact before
  | cons call later inductionHypothesis =>
    rw [Family.perform] at performed
    split at performed
    next next output taken =>
      exact inductionHypothesis (.take before (admitted call List.mem_cons_self) taken)
        (fun other member => admitted other (List.mem_cons_of_mem call member)) performed
    next => cases performed

/-- What one part did is a run of its machine. -/
theorem project {turns : List (Turn State Input Output)} {states : ∀ part, State part}
    (takes : family.Takes made turns states) (part : Part) :
    (family part).Run (fun _ _ _ => True) (ownTurns part turns) (states part) := by
  induction takes with
  | start => exact .start
  | @take turns states call next output before calls taken inductionHypothesis =>
    obtain ⟨other, input⟩ := call
    by_cases same : other = part
    · subst same
      rw [ownTurns_self, Function.update_self]
      exact .step inductionHypothesis trivial taken
    · rw [ownTurns_other same, Function.update_of_ne (Ne.symm same)]
      exact inductionHypothesis

/-- A property that every turn has when it is taken is a property of all turns. -/
theorem always {property : List (Turn State Input Output) → Turn State Input Output → Prop}
    (each : ∀ turns states call next output, family.Takes made turns states → made call →
      (family call.part).step (states call.part) (call.input states) = .ok (next, output) →
      property turns ⟨call.part, ⟨states call.part, call.input states, output⟩⟩)
    {turns : List (Turn State Input Output)} {states : ∀ part, State part}
    (takes : family.Takes made turns states) : TurnsAlways property turns := by
  induction takes with
  | start => trivial
  | take before calls taken inductionHypothesis =>
    exact ⟨each _ _ _ _ _ before calls taken, inductionHypothesis⟩

end Family.Takes

/-- Turns that were taken before only move along. -/
theorem Family.perform_append (family : Family State Input Output Failure)
    (calls : List (Call State Input)) (turns before : List (Turn State Input Output))
    (states : ∀ part, State part) :
    family.perform calls (turns ++ before) states =
      (family.perform calls turns states).map fun result => (result.1, result.2 ++ before) := by
  induction calls generalizing turns states with
  | nil => rfl
  | cons call later inductionHypothesis =>
    rw [Family.perform, Family.perform]
    cases (family call.part).step (states call.part) (call.input states) with
    | error failure => rfl
    | ok result => exact inductionHypothesis (_ :: turns) _

/-- Every turn was there before, or one of the calls took it. -/
theorem Family.mem_perform {family : Family State Input Output Failure}
    {calls : List (Call State Input)} {turns last : List (Turn State Input Output)}
    {states after : ∀ part, State part}
    (performed : family.perform calls turns states = .ok (after, last))
    {turn : Turn State Input Output} (member : turn ∈ last) :
    turn ∈ turns ∨ ∃ call ∈ calls, ∃ states next output,
      (family call.part).step (states call.part) (call.input states) = .ok (next, output) ∧
        turn = ⟨call.part, ⟨states call.part, call.input states, output⟩⟩ := by
  induction calls generalizing turns states with
  | nil =>
    cases performed
    exact Or.inl member
  | cons call later inductionHypothesis =>
    rw [Family.perform] at performed
    split at performed
    next next output taken =>
      rcases inductionHypothesis performed with before | ⟨other, called, took⟩
      · rcases List.mem_cons.mp before with rfl | before
        · exact Or.inr ⟨call, List.mem_cons_self, states, next, output, taken, rfl⟩
        · exact Or.inl before
      · exact Or.inr ⟨other, List.mem_cons_of_mem call called, took⟩
    next => cases performed

section Compose

variable {Request : Type} {family : Family State Input Output Failure}
  {calls : Request → List (Call State Input)}
  {allowed : Environment (∀ part, State part) Request (List (Turn State Input Output))}

/-- A run of the composite, turn by turn. -/
theorem Machine.Run.takes {history : History _ Request (List (Turn State Input Output))}
    {states : ∀ part, State part} (run : (family.compose calls).Run allowed history states) :
    family.Takes (fun call => ∃ request, call ∈ calls request) (turns history) states := by
  induction run with
  | start => exact .start
  | @step history states next request taken before admitted performed inductionHypothesis =>
    have together := family.perform_append (calls request) [] (turns history) states
    have alone : family.perform (calls request) [] states = .ok (next, taken) := performed
    rw [alone, List.nil_append] at together
    exact inductionHypothesis.perform (fun call member => ⟨request, member⟩) together

/-- In a run of the composite, every part's own history is a run of its machine. -/
theorem Machine.Run.project {history : History _ Request (List (Turn State Input Output))}
    {states : ∀ part, State part} (run : (family.compose calls).Run allowed history states)
    (part : Part) :
    (family part).Run (fun _ _ _ => True) (ownTurns part (turns history)) (states part) :=
  run.takes.project part

end Compose

/-! ### Calls in another order -/

/-- The input of a call does not depend on the state of a part. -/
def Call.Ignores (call : Call State Input) (part : Part) : Prop :=
  ∀ (states : ∀ part, State part) (next : State part),
    call.input (Function.update states part next) = call.input states

/-- Two calls of different parts, neither of which depends on the other's part. -/
structure Call.Independent (first second : Call State Input) : Prop where
  apart : first.part ≠ second.part
  ignores : first.Ignores second.part
  ignored : second.Ignores first.part

theorem Call.Independent.symm {first second : Call State Input}
    (independent : first.Independent second) : second.Independent first :=
  ⟨independent.apart.symm, independent.ignored, independent.ignores⟩

/-- Two results agree: both failed, or the states are the same and every part took the same
turns. -/
inductive Agrees : Except (Σ part, Failure part)
      ((∀ part, State part) × List (Turn State Input Output)) →
    Except (Σ part, Failure part) ((∀ part, State part) × List (Turn State Input Output)) → Prop
  | ok {states : ∀ part, State part} {turns turns' : List (Turn State Input Output)}
      (own : ∀ part, ownTurns part turns = ownTurns part turns') :
      Agrees (.ok (states, turns)) (.ok (states, turns'))
  | error {failure failure' : Σ part, Failure part} : Agrees (.error failure) (.error failure')

namespace Agrees

variable {first second third : Except (Σ part, Failure part)
  ((∀ part, State part) × List (Turn State Input Output))}

theorem trans (earlier : Agrees first second) (later : Agrees second third) :
    Agrees first third := by
  cases earlier with
  | ok own =>
    cases later with
    | ok own' => exact .ok fun part => (own part).trans (own' part)
  | error =>
    cases later with
    | error => exact .error

/-- The same calls agree whenever every part took the same turns before. -/
theorem perform (family : Family State Input Output Failure) (calls : List (Call State Input))
    {turns turns' : List (Turn State Input Output)}
    (own : ∀ part, ownTurns part turns = ownTurns part turns') (states : ∀ part, State part) :
    Agrees (family.perform calls turns states) (family.perform calls turns' states) := by
  induction calls generalizing turns turns' states with
  | nil => exact .ok own
  | cons call later inductionHypothesis =>
    rw [Family.perform, Family.perform]
    cases (family call.part).step (states call.part) (call.input states) with
    | error failure => exact .error
    | ok result =>
      refine inductionHypothesis (fun part => ?_) _
      by_cases same : call.part = part
      · subst same
        rw [ownTurns_self, ownTurns_self, own]
      · rw [ownTurns_other same, ownTurns_other same, own]

theorem refl (family : Family State Input Output Failure) (calls : List (Call State Input))
    (turns : List (Turn State Input Output)) (states : ∀ part, State part) :
    Agrees (family.perform calls turns states) (family.perform calls turns states) :=
  perform family calls (fun _ => rfl) states

end Agrees

/-- Two independent calls may be made in either order. -/
theorem Call.Independent.swap {first second : Call State Input}
    (independent : first.Independent second) (family : Family State Input Output Failure)
    (later : List (Call State Input)) (turns : List (Turn State Input Output))
    (states : ∀ part, State part) :
    Agrees (family.perform (first :: second :: later) turns states)
      (family.perform (second :: first :: later) turns states) := by
  -- What the second call does is the same before and after the first, and the other way around.
  have second_after (next : State first.part) :
      (family second.part).step (Function.update states first.part next second.part)
        (second.input (Function.update states first.part next)) =
      (family second.part).step (states second.part) (second.input states) := by
    rw [Function.update_of_ne independent.apart.symm, independent.ignored]
  have first_after (next : State second.part) :
      (family first.part).step (Function.update states second.part next first.part)
        (first.input (Function.update states second.part next)) =
      (family first.part).step (states first.part) (first.input states) := by
    rw [Function.update_of_ne independent.apart, independent.ignores]
  simp only [Family.perform]
  cases stepped : (family first.part).step (states first.part) (first.input states) with
  | error failure =>
    cases (family second.part).step (states second.part) (second.input states) with
    | error failure' => exact .error
    | ok result =>
      simp only [first_after, stepped]
      exact .error
  | ok result =>
    simp only [second_after]
    cases (family second.part).step (states second.part) (second.input states) with
    | error failure' => exact .error
    | ok result' =>
      simp only [first_after, stepped]
      rw [Function.update_comm independent.apart.symm, Function.update_of_ne independent.apart,
        Function.update_of_ne independent.apart.symm, independent.ignores, independent.ignored]
      refine .perform family later (fun part => ?_) _
      by_cases here : first.part = part
      · subst here
        rw [ownTurns_other independent.apart.symm, ownTurns_self, ownTurns_self,
          ownTurns_other independent.apart.symm]
      · by_cases there : second.part = part
        · subst there
          rw [ownTurns_self, ownTurns_other here, ownTurns_other here, ownTurns_self]
        · rw [ownTurns_other there, ownTurns_other here, ownTurns_other here,
            ownTurns_other there]

/-- Pairwise independent calls may be made in any order. -/
theorem Agrees.of_perm (family : Family State Input Output Failure)
    {calls calls' : List (Call State Input)} (permutation : calls.Perm calls')
    (independent : calls.Pairwise Call.Independent) (turns : List (Turn State Input Output))
    (states : ∀ part, State part) :
    Agrees (family.perform calls turns states) (family.perform calls' turns states) := by
  induction permutation generalizing turns states with
  | nil => exact .refl family [] turns states
  | cons call _ inductionHypothesis =>
    rw [Family.perform, Family.perform]
    cases (family call.part).step (states call.part) (call.input states) with
    | error failure => exact .error
    | ok result => exact inductionHypothesis (List.pairwise_cons.mp independent).2 _ _
  | swap first second later =>
    have apart := (List.pairwise_cons.mp independent).1 first List.mem_cons_self
    exact apart.swap family later turns states
  | trans earlier _ inductionHypothesis inductionHypothesis' =>
    have independent' := earlier.pairwise independent Call.Independent.symm
    exact (inductionHypothesis independent turns states).trans
      (inductionHypothesis' independent' turns states)

/-- Calls may be made in two goes. -/
theorem Family.perform_calls_append (family : Family State Input Output Failure)
    (calls later : List (Call State Input)) (turns : List (Turn State Input Output))
    (states : ∀ part, State part) :
    family.perform (calls ++ later) turns states =
      family.perform calls turns states >>= fun result =>
        family.perform later result.2 result.1 := by
  induction calls generalizing turns states with
  | nil => rfl
  | cons call rest inductionHypothesis =>
    rw [List.cons_append, Family.perform, Family.perform]
    cases (family call.part).step (states call.part) (call.input states) with
    | error failure => rfl
    | ok result => exact inductionHypothesis _ _

/-- Calls that agree, followed by calls that agree, agree. -/
theorem Agrees.append {family : Family State Input Output Failure}
    {calls calls' later later' : List (Call State Input)}
    (agrees : ∀ turns states,
      Agrees (family.perform calls turns states) (family.perform calls' turns states))
    (agrees' : ∀ turns states,
      Agrees (family.perform later turns states) (family.perform later' turns states))
    (turns : List (Turn State Input Output)) (states : ∀ part, State part) :
    Agrees (family.perform (calls ++ later) turns states)
      (family.perform (calls' ++ later') turns states) := by
  rw [Family.perform_calls_append, Family.perform_calls_append]
  have together := agrees turns states
  generalize family.perform calls turns states = first at together ⊢
  generalize family.perform calls' turns states = second at together ⊢
  cases together with
  | ok own => exact (Agrees.perform family later own _).trans (agrees' _ _)
  | error => exact .error

/-! ### Parts that are near -/

/-- The states of near parts are the same. -/
def AgreeOn (near : Part → Bool) (states states' : ∀ part, State part) : Prop :=
  ∀ part, near part = true → states part = states' part

/-- The input of a call depends on the states of near parts only. -/
def Call.Within (call : Call State Input) (near : Part → Bool) : Prop :=
  ∀ states states' : ∀ part, State part, AgreeOn near states states' →
    call.input states = call.input states'

/-- Near parts took the same turns. -/
def SameTurns (near : Part → Bool) (turns turns' : List (Turn State Input Output)) : Prop :=
  ∀ part, near part = true → ownTurns part turns = ownTurns part turns'

theorem SameTurns.cons {near : Part → Bool} {turns turns' : List (Turn State Input Output)}
    (same : SameTurns near turns turns') (turn : Turn State Input Output) :
    SameTurns near (turn :: turns) (turn :: turns') := by
  obtain ⟨other, entry⟩ := turn
  intro part here
  by_cases own : other = part
  · subst own
    rw [ownTurns_self, ownTurns_self, same other here]
  · rw [ownTurns_other own, ownTurns_other own, same part here]

theorem AgreeOn.update {near : Part → Bool} {states states' : ∀ part, State part}
    (agree : AgreeOn near states states') (part : Part) (next : State part) :
    AgreeOn near (Function.update states part next) (Function.update states' part next) := by
  intro other here
  by_cases own : other = part
  · subst own
    rw [Function.update_self, Function.update_self]
  · rw [Function.update_of_ne own, Function.update_of_ne own, agree other here]

/-- Calls of near parts do what they would do on their own. -/
theorem Family.perform_near (family : Family State Input Output Failure) {near : Part → Bool}
    {calls : List (Call State Input)}
    (within : ∀ call ∈ calls, near call.part = true → call.Within near)
    {turns turns' last : List (Turn State Input Output)} {states states' after : ∀ part, State part}
    (agree : AgreeOn near states states') (same : SameTurns near turns turns')
    (performed : family.perform calls turns states = .ok (after, last)) :
    ∃ after' last', family.perform (calls.filter fun call => near call.part) turns' states' =
        .ok (after', last') ∧ AgreeOn near after after' ∧ SameTurns near last last' := by
  induction calls generalizing turns turns' states states' with
  | nil =>
    cases performed
    exact ⟨states', turns', rfl, agree, same⟩
  | cons call later inductionHypothesis =>
    have inside := fun other member => within other (List.mem_cons_of_mem call member)
    rw [Family.perform] at performed
    split at performed
    next next output taken =>
      by_cases here : near call.part = true
      · have kept : (call :: later).filter (fun call => near call.part) =
            call :: later.filter fun call => near call.part := List.filter_cons_of_pos here
        rw [kept, Family.perform, ← within call List.mem_cons_self here states states' agree,
          ← agree call.part here, taken]
        exact inductionHypothesis inside (agree.update call.part next) (same.cons _) performed
      · have dropped : (call :: later).filter (fun call => near call.part) =
            later.filter fun call => near call.part := List.filter_cons_of_neg here
        rw [dropped]
        refine inductionHypothesis inside (fun part nearby => ?_) (fun part nearby => ?_) performed
        · have other : part ≠ call.part := fun own => here (own ▸ nearby)
          rw [Function.update_of_ne other]
          exact agree part nearby
        · have other : call.part ≠ part := fun own => here (own ▸ nearby)
          rw [ownTurns_other other]
          exact same part nearby
    next => cases performed

section Near

variable {Request : Type} {family : Family State Input Output Failure}
  {calls : Request → List (Call State Input)} {near : Part → Bool}
  {view : Request → Option Request}

/-- A run of the composite, less the calls of other parts, and with requests as near parts see them.
Requests they do not see are left out. -/
theorem Machine.Run.purge
    (within : ∀ request, ∀ call ∈ calls request, near call.part = true → call.Within near)
    (seen : ∀ request, (calls request).filter (fun call => near call.part) =
      ((view request).elim [] calls).filter fun call => near call.part)
    {allowed : Environment (∀ part, State part) Request (List (Turn State Input Output))}
    {history : History _ Request (List (Turn State Input Output))} {states : ∀ part, State part}
    (run : (family.compose calls).Run allowed history states) :
    ∃ history' states', (family.compose fun request =>
        (calls request).filter fun call => near call.part).Run (fun _ _ _ => True) history'
          states' ∧
      history'.map Entry.input = (history.map Entry.input).filterMap view ∧
      AgreeOn near states states' ∧ SameTurns near (turns history) (turns history') := by
  induction run with
  | start => exact ⟨[], _, .start, rfl, fun _ _ => rfl, fun _ _ => rfl⟩
  | @step history states next request taken before admitted performed inductionHypothesis =>
    obtain ⟨history', states', run', same, agree, own⟩ := inductionHypothesis
    obtain ⟨next', taken', performed', agree', own'⟩ :=
      family.perform_near (within request) agree (fun _ _ => rfl) performed
    rw [seen] at performed'
    cases viewed : view request with
    | some other =>
      rw [viewed] at performed'
      refine ⟨_, next', .step run' trivial performed', ?_, agree', fun part here => ?_⟩
      · rw [List.map_cons, List.map_cons, List.filterMap_cons_some viewed, same]
      · show ownTurns part (taken ++ turns history) = ownTurns part (taken' ++ turns history')
        rw [ownTurns_append, ownTurns_append, own part here, own' part here]
    | none =>
      rw [viewed] at performed'
      cases performed'
      refine ⟨history', states', run', ?_, agree', fun part here => ?_⟩
      · rw [List.map_cons, List.filterMap_cons_none viewed, same]
      · show ownTurns part (taken ++ turns history) = ownTurns part (turns history')
        rw [ownTurns_append, own' part here, own part here]
        rfl

/-- Near parts end in the same states, after the same turns, in all runs whose requests look the
same to them. -/
theorem Machine.Run.isolated
    (within : ∀ request, ∀ call ∈ calls request, near call.part = true → call.Within near)
    (seen : ∀ request, (calls request).filter (fun call => near call.part) =
      ((view request).elim [] calls).filter fun call => near call.part)
    {allowed allowed' : Environment (∀ part, State part) Request (List (Turn State Input Output))}
    {history history' : History _ Request (List (Turn State Input Output))}
    {states states' : ∀ part, State part}
    (run : (family.compose calls).Run allowed history states)
    (run' : (family.compose calls).Run allowed' history' states')
    (same : (history.map Entry.input).filterMap view =
      (history'.map Entry.input).filterMap view) :
    AgreeOn near states states' ∧ SameTurns near (turns history) (turns history') := by
  obtain ⟨purged, last, purgedRun, inputs, agree, own⟩ := run.purge within seen
  obtain ⟨purged', last', purgedRun', inputs', agree', own'⟩ := run'.purge within seen
  obtain ⟨rfl, rfl⟩ := purgedRun.determined purgedRun'
    (inputs.trans (same.trans inputs'.symm))
  exact ⟨fun part here => (agree part here).trans (agree' part here).symm,
    fun part here => (own part here).trans (own' part here).symm⟩

end Near

end GateFutures.Library
