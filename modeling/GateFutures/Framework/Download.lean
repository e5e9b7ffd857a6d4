/-
This file states what the gateway relies on of `core::Download2`, the driver of a
staged download. The driver is not part of this repository, so it is a parameter: a
class of the operations the gateway calls, and a class of the laws it relies on.

A download runs the states of an enumeration in order. Entering a state calls the
owner's callback; a callback that returns non-zero waits there, a callback that
returns zero moves on at once. A waiting state is left only by a check for it.
-/

import Mathlib.Data.List.Basic

namespace GateFutures.Framework

/-- A download's states: the one before it begins, and the enumerators it runs through. -/
class Enumerated (State : Type) where
  undefined : State
  enumerators : List State

/-- The owner's callback. It is told the state and the attempt's sequence number, acts on the
owner, and returns what the driver should wait for. -/
abbrev Callback (State Owner : Type) := State → UInt32 → Owner → Owner × Int

/-- The operations of `core::Download2<State>` the gateway calls. -/
class Download2 (State : outParam Type) (Driver : Type) where
  initial : Driver
  state : Driver → State
  sequence : Driver → UInt32
  downloading : Driver → Bool
  skip : Driver → UInt32 → State → Bool
  reset : Driver → Driver
  begin : {Owner : Type} → Callback State Owner → Driver → Owner → Driver × Owner
  bump : {Owner : Type} → Callback State Owner → Driver → Owner → Driver × Owner
  retry : {Owner : Type} → Callback State Owner → State → Driver → Owner → Driver × Owner
  check : {Owner : Type} → Callback State Owner → State → Driver → Owner → Driver × Owner
  checkRelaxed : {Owner : Type} → Callback State Owner → State → Driver → Owner → Driver × Owner

variable {State Owner : Type}

/-- Enter the given states in order, until a callback waits. -/
def Callback.enter (callback : Callback State Owner) (sequence : State → UInt32) :
    List State → State → Owner → State × Owner
  | [], current, owner => (current, owner)
  | next :: later, _, owner =>
    if (callback next (sequence next) owner).2 = 0 then
      callback.enter sequence later next (callback next (sequence next) owner).1
    else (next, (callback next (sequence next) owner).1)

/-- The enumerators after a state. -/
def after [Enumerated State] [DecidableEq State] (state : State) : List State :=
  ((Enumerated.enumerators : List State).dropWhile fun other => other ≠ state).tail

/-- What the gateway relies on of the driver. -/
class LawfulDownload2 (State : outParam Type) (Driver : Type) [Enumerated State]
    [DecidableEq State] [Download2 State Driver] : Prop where
  state_initial : Download2.state (Download2.initial : Driver) = Enumerated.undefined
  state_reset (driver : Driver) : Download2.state (Download2.reset driver) = Enumerated.undefined
  begin_enters {Owner : Type} (callback : Callback State Owner) (driver : Driver)
    (owner : Owner) : ∃ sequence,
      (Download2.state (Download2.begin callback driver owner).1,
        (Download2.begin callback driver owner).2) =
      callback.enter sequence Enumerated.enumerators Enumerated.undefined owner
  check_enters {Owner : Type} (callback : Callback State Owner) (state : State)
    (driver : Driver) (owner : Owner) (current : Download2.state driver = state) : ∃ sequence,
      (Download2.state (Download2.check callback state driver owner).1,
        (Download2.check callback state driver owner).2) =
      callback.enter sequence (after state) state owner
  check_other {Owner : Type} (callback : Callback State Owner) (state : State)
    (driver : Driver) (owner : Owner) (other : Download2.state driver ≠ state) :
      Download2.state (Download2.check callback state driver owner).1 = Download2.state driver ∧
      (Download2.check callback state driver owner).2 = owner
  checkRelaxed_enters {Owner : Type} (callback : Callback State Owner) (state : State)
    (driver : Driver) (owner : Owner) (current : Download2.state driver = state) : ∃ sequence,
      (Download2.state (Download2.checkRelaxed callback state driver owner).1,
        (Download2.checkRelaxed callback state driver owner).2) =
      callback.enter sequence (after state) state owner
  checkRelaxed_other {Owner : Type} (callback : Callback State Owner) (state : State)
    (driver : Driver) (owner : Owner) (other : Download2.state driver ≠ state) :
      Download2.state (Download2.checkRelaxed callback state driver owner).1 =
        Download2.state driver ∧
      (Download2.checkRelaxed callback state driver owner).2 = owner

/-- The driver touches its owner only by calling the callback: what every call keeps, every
operation keeps. -/
class LawfulCallbacks (State : outParam Type) (Driver : Type) [Download2 State Driver] :
    Prop where
  begin_keeps {Owner : Type} (callback : Callback State Owner) (keeps : Owner → Prop)
    (called : ∀ state sequence owner, keeps owner → keeps (callback state sequence owner).1)
    (driver : Driver) (owner : Owner) (before : keeps owner) :
      keeps (Download2.begin callback driver owner).2
  bump_keeps {Owner : Type} (callback : Callback State Owner) (keeps : Owner → Prop)
    (called : ∀ state sequence owner, keeps owner → keeps (callback state sequence owner).1)
    (driver : Driver) (owner : Owner) (before : keeps owner) :
      keeps (Download2.bump callback driver owner).2
  retry_keeps {Owner : Type} (callback : Callback State Owner) (keeps : Owner → Prop)
    (called : ∀ state sequence owner, keeps owner → keeps (callback state sequence owner).1)
    (state : State) (driver : Driver) (owner : Owner) (before : keeps owner) :
      keeps (Download2.retry callback state driver owner).2
  check_keeps {Owner : Type} (callback : Callback State Owner) (keeps : Owner → Prop)
    (called : ∀ state sequence owner, keeps owner → keeps (callback state sequence owner).1)
    (state : State) (driver : Driver) (owner : Owner) (before : keeps owner) :
      keeps (Download2.check callback state driver owner).2

/-- A retry starts a new attempt: the attempt's number changes. -/
class LawfulAttempts (State : outParam Type) (Driver : Type) [Download2 State Driver] :
    Prop where
  retry_renews {Owner : Type} (callback : Callback State Owner) (state : State)
    (driver : Driver) (owner : Owner) :
      Download2.sequence (Download2.retry callback state driver owner).1 ≠
        Download2.sequence driver

theorem Callback.enter_keeps {callback : Callback State Owner} {keeps : Owner → Prop}
    (called : ∀ state sequence owner, keeps owner → keeps (callback state sequence owner).1)
    (sequence : State → UInt32) (states : List State) (current : State) (owner : Owner)
    (before : keeps owner) : keeps (callback.enter sequence states current owner).2 := by
  induction states generalizing current owner with
  | nil => exact before
  | cons next later inductionHypothesis =>
    rw [Callback.enter]
    split
    · exact inductionHypothesis _ _ (called _ _ _ before)
    · exact called _ _ _ before

section Keeps

variable {Driver : Type} [Enumerated State] [DecidableEq State] [Download2 State Driver]
  [LawfulDownload2 State Driver] {callback : Callback State Owner} (keeps : Owner → Prop)
  (called : ∀ state sequence owner, keeps owner → keeps (callback state sequence owner).1)

include called

/-- What every call of the callback keeps, beginning a download keeps. -/
theorem LawfulDownload2.begin_keeps (driver : Driver) (owner : Owner) (before : keeps owner) :
    keeps (Download2.begin callback driver owner).2 := by
  obtain ⟨sequence, entered⟩ := LawfulDownload2.begin_enters callback driver owner
  have moved := congrArg Prod.snd entered
  rw [show (Download2.begin callback driver owner).2 = _ from moved]
  exact Callback.enter_keeps called sequence _ _ owner before

theorem LawfulDownload2.check_keeps (state : State) (driver : Driver) (owner : Owner)
    (before : keeps owner) : keeps (Download2.check callback state driver owner).2 := by
  by_cases current : Download2.state driver = state
  · obtain ⟨sequence, entered⟩ := LawfulDownload2.check_enters callback state driver owner current
    have moved := congrArg Prod.snd entered
    rw [show (Download2.check callback state driver owner).2 = _ from moved]
    exact Callback.enter_keeps called sequence _ _ owner before
  · rw [(LawfulDownload2.check_other callback state driver owner current).2]
    exact before

theorem LawfulDownload2.checkRelaxed_keeps (state : State) (driver : Driver) (owner : Owner)
    (before : keeps owner) : keeps (Download2.checkRelaxed callback state driver owner).2 := by
  by_cases current : Download2.state driver = state
  · obtain ⟨sequence, entered⟩ :=
      LawfulDownload2.checkRelaxed_enters callback state driver owner current
    have moved := congrArg Prod.snd entered
    rw [show (Download2.checkRelaxed callback state driver owner).2 = _ from moved]
    exact Callback.enter_keeps called sequence _ _ owner before
  · rw [(LawfulDownload2.checkRelaxed_other callback state driver owner current).2]
    exact before

end Keeps

/-! ### A driver that has the laws -/

/-- A driver that keeps its state and the number of its attempts, and nothing else. -/
structure PlainDownload (State : Type) where
  state : State
  sequence : UInt32
  deriving DecidableEq

variable [Enumerated State] [DecidableEq State]

/-- Enter states under the driver's current sequence number. -/
def PlainDownload.enter (callback : Callback State Owner) (states : List State)
    (driver : PlainDownload State) (owner : Owner) : PlainDownload State × Owner :=
  let entered := callback.enter (fun _ => driver.sequence) states driver.state owner
  ({ driver with state := entered.1 }, entered.2)

/-- Leave a state if the driver is in it. -/
def PlainDownload.leave (callback : Callback State Owner) (state : State)
    (driver : PlainDownload State) (owner : Owner) : PlainDownload State × Owner :=
  if driver.state = state then driver.enter callback (after state) owner else (driver, owner)

instance : Download2 State (PlainDownload State) where
  initial := ⟨Enumerated.undefined, 0⟩
  state := PlainDownload.state
  sequence := PlainDownload.sequence
  downloading driver := driver.state ≠ Enumerated.undefined ∧ after driver.state ≠ []
  skip driver sequence state := driver.sequence ≠ sequence ∨ driver.state ≠ state
  reset driver := { driver with state := Enumerated.undefined }
  begin callback driver owner :=
    PlainDownload.enter callback Enumerated.enumerators
      ⟨Enumerated.undefined, driver.sequence + 1⟩ owner
  bump callback driver owner :=
    ({ driver with sequence := driver.sequence + 1 },
      (callback driver.state (driver.sequence + 1) owner).1)
  retry callback state driver owner :=
    ({ driver with sequence := driver.sequence + 1 },
      (callback state (driver.sequence + 1) owner).1)
  check := PlainDownload.leave
  checkRelaxed := PlainDownload.leave

instance : LawfulDownload2 State (PlainDownload State) where
  state_initial := rfl
  state_reset _ := rfl
  begin_enters _ driver _ := ⟨fun _ => driver.sequence + 1, rfl⟩
  check_enters callback state driver owner current :=
    ⟨fun _ => driver.sequence, by
      obtain rfl : driver.state = state := current
      simp only [Download2.check, PlainDownload.leave, if_pos]
      rfl⟩
  check_other callback state driver owner other := by
    have elsewhere : ¬ driver.state = state := other
    simp only [Download2.check, PlainDownload.leave, if_neg elsewhere, and_self]
  checkRelaxed_enters callback state driver owner current :=
    ⟨fun _ => driver.sequence, by
      obtain rfl : driver.state = state := current
      simp only [Download2.checkRelaxed, PlainDownload.leave, if_pos]
      rfl⟩
  checkRelaxed_other callback state driver owner other := by
    have elsewhere : ¬ driver.state = state := other
    simp only [Download2.checkRelaxed, PlainDownload.leave, if_neg elsewhere, and_self]

instance : LawfulCallbacks State (PlainDownload State) where
  begin_keeps _ _ called _ _ before := Callback.enter_keeps called _ _ _ _ before
  bump_keeps _ _ called _ _ before := called _ _ _ before
  retry_keeps _ _ called _ _ _ before := called _ _ _ before
  check_keeps callback keeps called state driver owner before := by
    show keeps (PlainDownload.leave callback state driver owner).2
    unfold PlainDownload.leave
    split
    · exact Callback.enter_keeps called _ _ _ _ before
    · exact before

instance : LawfulAttempts State (PlainDownload State) where
  retry_renews _ _ driver _ := by
    show driver.sequence + 1 ≠ driver.sequence
    simp

end GateFutures.Framework
