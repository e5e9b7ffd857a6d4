/-
This file develops the runs of a reactive machine.

A machine reads an input and either fails, which ends the run, or moves to a next
state and emits an output. What has happened so far is a history, newest entry
first: each entry keeps the state an input was read in, the input, and the output.
Assumptions about the environment are conditions on the next input, given the
history and the state; a property of a run is a condition on every entry of its
history. The rules below reduce both to one step.
-/

import Mathlib.Data.List.Forall2
import Mathlib.Logic.Basic

namespace GateFutures.Library

/-! ### Steps that may fail -/

/-- A sequence succeeds exactly when both its parts do. -/
theorem bind_ok {Failure First Second : Type} {first : Except Failure First}
    {later : First → Except Failure Second} {result : Second} :
    (first >>= later) = .ok result ↔
      ∃ middle, first = .ok middle ∧ later middle = .ok result := by
  cases first with
  | error failure => exact ⟨nofun, fun ⟨_, impossible, _⟩ => nomatch impossible⟩
  | ok middle => exact ⟨fun taken => ⟨middle, rfl, taken⟩, fun ⟨_, same, taken⟩ => by
      cases same
      exact taken⟩

/-- A sequence fails exactly when one of its parts does. -/
theorem bind_error {Failure First Second : Type} {first : Except Failure First}
    {later : First → Except Failure Second} {failure : Failure} :
    (first >>= later) = .error failure ↔
      first = .error failure ∨ ∃ middle, first = .ok middle ∧ later middle = .error failure := by
  cases first with
  | error other => exact ⟨fun failed => Or.inl (by cases failed; rfl), fun failed => by
      rcases failed with failed | ⟨_, impossible, _⟩
      · cases failed
        rfl
      · cases impossible⟩
  | ok middle => exact ⟨fun failed => Or.inr ⟨middle, rfl, failed⟩, fun failed => by
      rcases failed with impossible | ⟨_, same, failed⟩
      · cases impossible
      · cases same
        exact failed⟩

/-- A changed result is the change of a result. -/
theorem map_ok {Failure First Second : Type} {first : Except Failure First}
    {change : First → Second} {result : Second} :
    first.map change = .ok result ↔ ∃ middle, first = .ok middle ∧ change middle = result := by
  cases first with
  | error failure => exact ⟨nofun, fun ⟨_, impossible, _⟩ => nomatch impossible⟩
  | ok middle => exact ⟨fun changed => ⟨middle, rfl, Except.ok.inj changed⟩,
      fun ⟨_, same, changed⟩ => by
        cases same
        exact congrArg Except.ok changed⟩

/-- A sequence over a list succeeds where every one of its steps does. -/
theorem mapM_ok {Failure Item Value : Type} {act : Item → Except Failure Value}
    {value : Item → Value} {items : List Item}
    (each : ∀ item ∈ items, act item = .ok (value item)) :
    items.mapM act = .ok (items.map value) := by
  induction items with
  | nil => rfl
  | cons item later inductionHypothesis =>
    rw [List.mapM_cons, each item List.mem_cons_self,
      inductionHypothesis fun other member => each other (List.mem_cons_of_mem item member)]
    rfl

/-! ### Machines and their runs -/

/-- A reactive machine. A failing step ends the run. -/
structure Machine (State Input Output Failure : Type) where
  initial : State
  step : State → Input → Except Failure (State × Output)

/-- One step of a run, as it was taken. -/
structure Entry (State Input Output : Type) where
  before : State
  input : Input
  output : Output

/-- What has happened so far, newest entry first. -/
abbrev History (State Input Output : Type) := List (Entry State Input Output)

variable {State Input Output Failure : Type}

/-- An assumption about the environment: which inputs may come next. -/
abbrev Environment (State Input Output : Type) :=
  History State Input Output → State → Input → Prop

/-- A condition on one step, given the history before it. -/
abbrev StepProperty (State Input Output : Type) :=
  History State Input Output → Entry State Input Output → Prop

/-- The runs of a machine in an environment. -/
inductive Machine.Run (machine : Machine State Input Output Failure)
    (allowed : Environment State Input Output) : History State Input Output → State → Prop
  | start : Run machine allowed [] machine.initial
  | step {history : History State Input Output} {state next : State} {input : Input}
      {output : Output} (before : Run machine allowed history state)
      (admitted : allowed history state input)
      (taken : machine.step state input = .ok (next, output)) :
      Run machine allowed (⟨state, input, output⟩ :: history) next

/-- Every step of the history has the property. -/
def History.Always (property : StepProperty State Input Output) :
    History State Input Output → Prop
  | [] => True
  | entry :: before => property before entry ∧ History.Always property before

@[simp] theorem History.always_cons (property : StepProperty State Input Output)
    (entry : Entry State Input Output) (before : History State Input Output) :
    History.Always property (entry :: before) ↔
      property before entry ∧ History.Always property before := Iff.rfl

instance History.decidableAlways (property : StepProperty State Input Output)
    [decide : ∀ history entry, Decidable (property history entry)] :
    (history : History State Input Output) → Decidable (History.Always property history)
  | [] => isTrue trivial
  | entry :: before =>
    have := decide before entry
    have := History.decidableAlways property before
    inferInstanceAs (Decidable (property before entry ∧ History.Always property before))

/-- What every step has in every history, every step of a history has. -/
theorem History.always_of_forall {property : StepProperty State Input Output}
    (each : ∀ history entry, property history entry) (history : History State Input Output) :
    History.Always property history := by
  induction history with
  | nil => trivial
  | cons entry before inductionHypothesis => exact ⟨each before entry, inductionHypothesis⟩

/-- A condition on single entries holds always exactly if every entry meets it. -/
theorem History.always_iff_forall_mem {condition : Entry State Input Output → Prop}
    {history : History State Input Output} :
    History.Always (fun _ entry => condition entry) history ↔
      ∀ entry ∈ history, condition entry := by
  induction history with
  | nil => exact ⟨fun _ => List.forall_mem_nil _, fun _ => trivial⟩
  | cons entry before inductionHypothesis =>
    rw [History.always_cons, inductionHypothesis, List.forall_mem_cons]

namespace Machine.Run

variable {machine : Machine State Input Output Failure}
  {allowed : Environment State Input Output}

/-- An invariant that holds at the start and is kept by every step holds after every run. -/
theorem invariant (holds : History State Input Output → State → Prop)
    (initially : holds [] machine.initial)
    (kept : ∀ history state input next output, holds history state →
      allowed history state input → machine.step state input = .ok (next, output) →
      holds (⟨state, input, output⟩ :: history) next)
    {history : History State Input Output} {state : State}
    (run : machine.Run allowed history state) : holds history state := by
  induction run with
  | start => exact initially
  | step _ admitted taken inductionHypothesis =>
    exact kept _ _ _ _ _ inductionHypothesis admitted taken

/-- A property that every step has, in a state some run reached, is a property of the
whole history. -/
theorem always {property : StepProperty State Input Output}
    (each : ∀ history state input next output, machine.Run allowed history state →
      allowed history state input → machine.step state input = .ok (next, output) →
      property history ⟨state, input, output⟩)
    {history : History State Input Output} {state : State}
    (run : machine.Run allowed history state) : History.Always property history := by
  induction run with
  | start => trivial
  | step before admitted taken inductionHypothesis =>
    exact ⟨each _ _ _ _ _ before admitted taken, inductionHypothesis⟩

/-- Two properties that agree on every step agree on the whole history. -/
theorem always_iff {first second : StepProperty State Input Output}
    (each : ∀ history state input next output, machine.Run allowed history state →
      allowed history state input → machine.step state input = .ok (next, output) →
      (first history ⟨state, input, output⟩ ↔ second history ⟨state, input, output⟩))
    {history : History State Input Output} {state : State}
    (run : machine.Run allowed history state) :
    History.Always first history ↔ History.Always second history := by
  induction run with
  | start => exact Iff.rfl
  | step before admitted taken inductionHypothesis =>
    exact and_congr (each _ _ _ _ _ before admitted taken) inductionHypothesis

/-- A run every step of which meets a condition on its input is a run of the environment
that assumes the condition. -/
theorem restrict {condition : Environment State Input Output}
    {history : History State Input Output} {state : State}
    (run : machine.Run allowed history state)
    (meets : History.Always (fun before entry => condition before entry.before entry.input)
      history) :
    machine.Run (fun before state input => allowed before state input ∧
      condition before state input) history state := by
  induction run with
  | start => exact .start
  | step _ admitted taken inductionHypothesis =>
    exact .step (inductionHypothesis meets.2) ⟨admitted, meets.1⟩ taken

/-- A run of an environment is a run of every environment that allows more. -/
theorem weaken {wider : Environment State Input Output}
    (allows : ∀ history state input, allowed history state input → wider history state input)
    {history : History State Input Output} {state : State}
    (run : machine.Run allowed history state) : machine.Run wider history state := by
  induction run with
  | start => exact .start
  | step _ admitted taken inductionHypothesis =>
    exact .step inductionHypothesis (allows _ _ _ admitted) taken

/-- A run is determined by its inputs. -/
theorem determined {wider : Environment State Input Output}
    {first second : History State Input Output} {state state' : State}
    (run : machine.Run allowed first state) (run' : machine.Run wider second state')
    (same : first.map Entry.input = second.map Entry.input) : first = second ∧ state = state' := by
  induction run generalizing second state' with
  | start =>
    cases run' with
    | start => exact ⟨rfl, rfl⟩
    | step => cases same
  | step _ _ taken inductionHypothesis =>
    cases run' with
    | start => cases same
    | step before _ taken' =>
      obtain ⟨rfl, inputs⟩ := List.cons.inj same
      obtain ⟨rfl, rfl⟩ := inductionHypothesis before inputs
      cases taken.symm.trans taken'
      exact ⟨rfl, rfl⟩

end Machine.Run

/-! ### Simulations -/

/-- An entry of one machine, as one of another. -/
def Entry.map {State' Input' Output' : Type} (state : State → State') (input : Input → Input')
    (output : Output → Output') (entry : Entry State Input Output) :
    Entry State' Input' Output' where
  before := state entry.before
  input := input entry.input
  output := output entry.output

/-- A machine whose steps are steps of another, seen through a map, has runs that are runs of the
other. -/
theorem Machine.Run.map {State' Input' Output' Failure' : Type}
    {machine : Machine State Input Output Failure}
    {other : Machine State' Input' Output' Failure'}
    {allowed : Environment State Input Output} {admits : Environment State' Input' Output'}
    {onState : State → State'} {onInput : Input → Input'} {onOutput : Output → Output'}
    (initially : onState machine.initial = other.initial)
    (steps : ∀ state input next output, machine.step state input = .ok (next, output) →
      other.step (onState state) (onInput input) = .ok (onState next, onOutput output))
    (admitted : ∀ history state input, allowed history state input →
      admits (history.map (Entry.map onState onInput onOutput)) (onState state) (onInput input))
    {history : History State Input Output} {state : State}
    (run : machine.Run allowed history state) :
    other.Run admits (history.map (Entry.map onState onInput onOutput)) (onState state) := by
  induction run with
  | start =>
    rw [initially]
    exact .start
  | step before allows taken inductionHypothesis =>
    exact .step inductionHypothesis (admitted _ _ _ allows) (steps _ _ _ _ taken)

/-- A machine each of whose steps another can take as well, but for a change of the output, has runs
that the other has on the same inputs, through the same states. -/
theorem Machine.Run.rerun {machine other : Machine State Input Output Failure}
    {allowed : Environment State Input Output} {related : Output → Output → Prop}
    (initially : machine.initial = other.initial)
    (steps : ∀ history state input next output, allowed history state input →
      machine.step state input = .ok (next, output) →
        ∃ output', other.step state input = .ok (next, output') ∧ related output output')
    {history : History State Input Output} {state : State}
    (run : machine.Run allowed history state) :
    ∃ history', other.Run (fun _ _ _ => True) history' state ∧
      history'.map Entry.input = history.map Entry.input ∧
      List.Forall₂ (fun entry entry' => related entry.output entry'.output) history history' := by
  induction run with
  | start =>
    rw [initially]
    exact ⟨[], .start, rfl, .nil⟩
  | @step history state next input output before admitted taken inductionHypothesis =>
    obtain ⟨history', run', inputs, same⟩ := inductionHypothesis
    obtain ⟨output', taken', changed⟩ := steps _ _ _ _ _ admitted taken
    exact ⟨_, .step run' trivial taken', congrArg (input :: ·) inputs, .cons changed same⟩

/-! ### Replaying inputs -/

/-- Feed inputs to a machine, oldest first, on top of a history. -/
def Machine.replayFrom (machine : Machine State Input Output Failure) :
    History State Input Output → State → List Input →
      Except Failure (History State Input Output × State)
  | history, state, [] => .ok (history, state)
  | history, state, input :: later =>
    match machine.step state input with
    | .ok (next, output) => machine.replayFrom (⟨state, input, output⟩ :: history) next later
    | .error failure => .error failure

/-- Feed inputs to a machine from its start, oldest first. -/
def Machine.replay (machine : Machine State Input Output Failure) (inputs : List Input) :
    Except Failure (History State Input Output × State) :=
  machine.replayFrom [] machine.initial inputs

/-- Replaying only adds to the history. -/
theorem Machine.always_of_replayFrom {machine : Machine State Input Output Failure}
    {property : StepProperty State Input Output} {inputs : List Input}
    {history later : History State Input Output} {state last : State}
    (replayed : machine.replayFrom history state inputs = .ok (later, last))
    (always : History.Always property later) : History.Always property history := by
  induction inputs generalizing history state with
  | nil =>
    cases replayed
    exact always
  | cons input rest inductionHypothesis =>
    rw [Machine.replayFrom] at replayed
    split at replayed
    · exact (inductionHypothesis replayed).2
    · cases replayed

theorem Machine.Run.of_replayFrom {machine : Machine State Input Output Failure}
    {allowed : Environment State Input Output} {inputs : List Input}
    {history later : History State Input Output} {state last : State}
    (run : machine.Run allowed history state)
    (replayed : machine.replayFrom history state inputs = .ok (later, last))
    (admitted : History.Always (fun before entry => allowed before entry.before entry.input)
      later) : machine.Run allowed later last := by
  induction inputs generalizing history state with
  | nil =>
    cases replayed
    exact run
  | cons input rest inductionHypothesis =>
    rw [Machine.replayFrom] at replayed
    split at replayed
    next taken =>
      have head := (Machine.always_of_replayFrom replayed admitted).1
      exact inductionHypothesis (.step run head taken) replayed
    next => cases replayed

/-- A replay of admitted inputs is a run. -/
theorem Machine.Run.of_replay {machine : Machine State Input Output Failure}
    {allowed : Environment State Input Output} (inputs : List Input)
    {history : History State Input Output} {last : State}
    (replayed : machine.replay inputs = .ok (history, last))
    (admitted : History.Always (fun before entry => allowed before entry.before entry.input)
      history) : machine.Run allowed history last :=
  Machine.Run.of_replayFrom .start replayed admitted

end GateFutures.Library
