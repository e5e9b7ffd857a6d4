/-
This file states what the gateway relies on of `core::limit::Request`, the mark by
which one stream asks another for a REST request, of `core::limit::Queue`, the
rate-limited queue of pending REST requests, and of `core::limit::RateLimiter`, which
both ask. None is part of this repository, so all are parameters: a class of the
operations the gateway calls, and a class of the laws it relies on. The rate limiter
is relied on for nothing.
-/

import GateFutures.Roq.Types
import Mathlib.Data.List.Basic

namespace GateFutures.Framework

open Roq

variable {Owner : Type}

/-! ### Request marks -/

/-- The operations of `core::limit::Request`. The gateway never reads `pending`; the laws do.
The flag of `checkPending` is what the rate limiter answers at that moment. -/
class LimitRequest (Mark : Type) where
  initial : Mark
  request : Mark → Mark
  checkPending : {Owner : Type} → Bool → (Owner → Owner) → Mark → Owner → Mark × Owner
  commit : Mark → Mark
  hasResponse : Mark → Bool
  pending : Mark → Bool

/-- What the gateway relies on of a request mark: a request makes it pending and forgets any
response, a check runs the callback of a pending request and clears the mark, and only a
commit records a response. -/
class LawfulLimitRequest (Mark : Type) [LimitRequest Mark] : Prop where
  hasResponse_request (mark : Mark) :
    LimitRequest.hasResponse (LimitRequest.request mark) = false
  pending_request (mark : Mark) : LimitRequest.pending (LimitRequest.request mark) = true
  hasResponse_commit (mark : Mark) : LimitRequest.hasResponse (LimitRequest.commit mark) = true
  hasResponse_checkPending {Owner : Type} (allowed : Bool) (callback : Owner → Owner)
    (mark : Mark) (owner : Owner) :
    LimitRequest.hasResponse (LimitRequest.checkPending allowed callback mark owner).1 =
      LimitRequest.hasResponse mark
  checkPending_runs {Owner : Type} (callback : Owner → Owner) (mark : Mark) (owner : Owner)
    (pending : LimitRequest.pending mark = true) :
    LimitRequest.pending (LimitRequest.checkPending true callback mark owner).1 = false ∧
      (LimitRequest.checkPending true callback mark owner).2 = callback owner
  checkPending_skips {Owner : Type} (allowed : Bool) (callback : Owner → Owner) (mark : Mark)
    (owner : Owner) (idle : ¬ (allowed = true ∧ LimitRequest.pending mark = true)) :
    LimitRequest.pending (LimitRequest.checkPending allowed callback mark owner).1 =
        LimitRequest.pending mark ∧
      (LimitRequest.checkPending allowed callback mark owner).2 = owner

/-- A commit makes no request: a mark that is not pending is not pending after it. -/
class LawfulCommit (Mark : Type) [LimitRequest Mark] : Prop where
  pending_commit (mark : Mark) (idle : LimitRequest.pending mark = false) :
    LimitRequest.pending (LimitRequest.commit mark) = false

/-- A mark as constructed asks for nothing. -/
class LawfulInitial (Mark : Type) [LimitRequest Mark] : Prop where
  pending_initial : LimitRequest.pending (LimitRequest.initial : Mark) = false

/-- A check either runs the callback of a pending request or leaves the owner alone. -/
theorem LawfulLimitRequest.checkPending_cases {Mark : Type} [LimitRequest Mark]
    [LawfulLimitRequest Mark] (allowed : Bool) (callback : Owner → Owner) (mark : Mark)
    (owner : Owner) :
    (LimitRequest.pending mark = true ∧
      LimitRequest.pending (LimitRequest.checkPending allowed callback mark owner).1 = false ∧
      (LimitRequest.checkPending allowed callback mark owner).2 = callback owner) ∨
    (LimitRequest.pending (LimitRequest.checkPending allowed callback mark owner).1 =
        LimitRequest.pending mark ∧
      (LimitRequest.checkPending allowed callback mark owner).2 = owner) := by
  by_cases runs : allowed = true ∧ LimitRequest.pending mark = true
  · obtain ⟨rfl, pending⟩ := runs
    exact Or.inl ⟨pending, LawfulLimitRequest.checkPending_runs callback mark owner pending⟩
  · exact Or.inr (LawfulLimitRequest.checkPending_skips allowed callback mark owner runs)

/-- A request mark that keeps its two flags, and nothing else. -/
structure PlainRequest where
  pending : Bool
  response : Bool
  deriving DecidableEq

instance : LimitRequest PlainRequest where
  initial := ⟨false, false⟩
  request _ := ⟨true, false⟩
  checkPending allowed callback mark owner :=
    if allowed && mark.pending then ({ mark with pending := false }, callback owner)
    else (mark, owner)
  commit mark := { mark with response := true }
  hasResponse := PlainRequest.response
  pending := PlainRequest.pending

instance : LawfulLimitRequest PlainRequest where
  hasResponse_request _ := rfl
  pending_request _ := rfl
  hasResponse_commit _ := rfl
  hasResponse_checkPending allowed callback mark owner := by
    simp only [LimitRequest.hasResponse, LimitRequest.checkPending]
    split <;> rfl
  checkPending_runs callback mark owner pending := by
    have marked : mark.pending = true := pending
    simp [LimitRequest.pending, LimitRequest.checkPending, marked]
  checkPending_skips allowed callback mark owner idle := by
    have skipped : ¬ (allowed && mark.pending) = true := by
      rw [Bool.and_eq_true]
      exact idle
    simp only [LimitRequest.pending, LimitRequest.checkPending, if_neg skipped, and_self]

instance : LawfulCommit PlainRequest where
  pending_commit _ idle := idle

instance : LawfulInitial PlainRequest where
  pending_initial := rfl

/-! ### Request queues -/

/-- The operations of `core::limit::Queue<Element>`. The gateway never reads `elements`; the
laws do. The number `dispatch` is given is how many requests the rate limiter lets through at
that moment. -/
class LimitQueue (Element : outParam Type) (Queue : Type) where
  empty : Queue
  elements : Queue → List Element
  emplaceBack : Queue → Element → Queue
  dispatch : {Owner : Type} → Nat → (Element → Owner → Owner) → Queue → Owner → Queue × Owner

/-- What the gateway relies on of a request queue: it is first in, first out, and an element
leaves only by being handed to the callback. -/
class LawfulLimitQueue (Element : outParam Type) (Queue : Type) [LimitQueue Element Queue] :
    Prop where
  elements_empty : LimitQueue.elements (LimitQueue.empty : Queue) = []
  elements_emplaceBack (queue : Queue) (element : Element) :
    LimitQueue.elements (LimitQueue.emplaceBack queue element) =
      LimitQueue.elements queue ++ [element]
  dispatch_hands {Owner : Type} (allowance : Nat) (callback : Element → Owner → Owner)
    (queue : Queue) (owner : Owner) : ∃ handed,
      LimitQueue.elements queue =
        handed ++ LimitQueue.elements (LimitQueue.dispatch allowance callback queue owner).1 ∧
      (LimitQueue.dispatch allowance callback queue owner).2 =
        handed.foldl (fun current element => callback element current) owner

/-- A queue that is the list of its elements, and hands out as many as it is allowed. -/
structure PlainQueue (Element : Type) where
  elements : List Element
  deriving DecidableEq

instance {Element : Type} : LimitQueue Element (PlainQueue Element) where
  empty := ⟨[]⟩
  elements := PlainQueue.elements
  emplaceBack queue element := ⟨queue.elements ++ [element]⟩
  dispatch allowance callback queue owner :=
    (⟨queue.elements.drop allowance⟩,
      (queue.elements.take allowance).foldl (fun current element => callback element current)
        owner)

instance {Element : Type} : LawfulLimitQueue Element (PlainQueue Element) where
  elements_empty := rfl
  elements_emplaceBack _ _ := rfl
  dispatch_hands allowance _ queue _ :=
    ⟨queue.elements.take allowance, (List.take_append_drop allowance queue.elements).symm, rfl⟩

/-! ### Rate limiters -/

/-- The operation of `core::limit::RateLimiter`: whether one more request may be sent at a moment,
and the limiter once it was asked. It is not told whose request it is. -/
class RateLimiter (Limiter : Type) where
  canRequest : TraceInfo → Limiter → Bool × Limiter

namespace RateLimiter

variable {Limiter Ask Ask' : Type} [RateLimiter Limiter]

/-- What a queue does: ask for elements, one after the other, until one is refused. How many are let
through. -/
def grant (traceInfo : TraceInfo) : Nat → Limiter → Nat × Limiter
  | 0, limiter => (0, limiter)
  | due + 1, limiter =>
    let (allowed, limiter) := canRequest traceInfo limiter
    if allowed then
      let (granted, limiter) := grant traceInfo due limiter
      (granted + 1, limiter)
    else (0, limiter)

/-- What request marks do: ask for requests, one after the other. Which ones are let through. -/
def ask (traceInfo : TraceInfo) : List Ask → Limiter → List Ask × Limiter
  | [], limiter => ([], limiter)
  | first :: later, limiter =>
    let (allowed, limiter) := canRequest traceInfo limiter
    let (granted, limiter) := ask traceInfo later limiter
    (if allowed then first :: granted else granted, limiter)

theorem ask_sublist (traceInfo : TraceInfo) (asks : List Ask) (limiter : Limiter) :
    (ask traceInfo asks limiter).1.Sublist asks := by
  induction asks generalizing limiter with
  | nil => exact .slnil
  | cons first later inductionHypothesis =>
    rw [ask]
    dsimp only
    split
    · exact (inductionHypothesis _).cons_cons first
    · exact (inductionHypothesis _).cons first

theorem ask_append (traceInfo : TraceInfo) (asks more : List Ask) (limiter : Limiter) :
    ask traceInfo (asks ++ more) limiter =
      ((ask traceInfo asks limiter).1 ++ (ask traceInfo more (ask traceInfo asks limiter).2).1,
        (ask traceInfo more (ask traceInfo asks limiter).2).2) := by
  induction asks generalizing limiter with
  | nil => rfl
  | cons first later inductionHypothesis =>
    rw [List.cons_append, ask, ask]
    dsimp only
    rw [inductionHypothesis]
    split <;> rfl

/-- It does not matter whose requests they are. -/
theorem ask_map (traceInfo : TraceInfo) (name : Ask → Ask') (asks : List Ask) (limiter : Limiter) :
    ask traceInfo (asks.map name) limiter =
      ((ask traceInfo asks limiter).1.map name, (ask traceInfo asks limiter).2) := by
  induction asks generalizing limiter with
  | nil => rfl
  | cons first later inductionHypothesis =>
    rw [List.map_cons, ask, ask]
    dsimp only
    rw [inductionHypothesis]
    split <;> rfl

/-- Where no request is refused, as many requests of others are not refused either. -/
theorem ask_unrefused {traceInfo : TraceInfo} {asks : List Ask} {asks' : List Ask'}
    {limiter : Limiter} (unrefused : (ask traceInfo asks limiter).1 = asks)
    (same : asks'.length = asks.length) :
    ask traceInfo asks' limiter = (asks', (ask traceInfo asks limiter).2) := by
  induction asks generalizing asks' limiter with
  | nil =>
    rw [List.length_eq_zero_iff.mp same]
    rfl
  | cons first later inductionHypothesis =>
    obtain ⟨first', later', rfl⟩ := List.exists_cons_of_length_eq_add_one same
    rw [ask] at unrefused
    dsimp only at unrefused
    split at unrefused
    next allowed =>
      have rest := inductionHypothesis (List.cons.inj unrefused).2 (Nat.succ.inj same)
      rw [ask, ask]
      dsimp only
      rw [rest, if_pos allowed]
    next refused =>
      have fewer := (ask_sublist traceInfo later (canRequest traceInfo limiter).2).length_le
      rw [unrefused, List.length_cons] at fewer
      exact absurd fewer (Nat.not_succ_le_self _)

end RateLimiter

/-- A rate limiter that lets through a number of requests, whenever they are asked for. -/
structure PlainLimiter where
  remaining : Nat
  deriving DecidableEq

instance : RateLimiter PlainLimiter where
  canRequest _ limiter :=
    if limiter.remaining = 0 then (false, limiter) else (true, ⟨limiter.remaining - 1⟩)

end GateFutures.Framework
