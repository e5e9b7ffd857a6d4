/-
This file defines maps that keep the first value that is put under a key, as `emplace` does.

The entries are kept in the order they came, each key once. In which order a map is visited is
left open: an iteration visits every entry once.
-/

import Mathlib.Data.List.Perm.Basic
import Mathlib.Data.List.Lookmap
import Mathlib.Data.List.Nodup

namespace GateFutures.Library

/-- A map that keeps the first value under a key. -/
structure Registry (Key Value : Type) where
  entries : List (Key × Value)
  distinct : (entries.map Prod.fst).Nodup

/-- An order in which the entries of maps are visited. -/
structure Iteration (Key : Type) where
  visit : {Value : Type} → List (Key × Value) → List (Key × Value)
  permutes : ∀ {Value : Type} (entries : List (Key × Value)), (visit entries).Perm entries

namespace Registry

variable {Key Value Other : Type}

/-- The keys, in the order they came. -/
def keys (registry : Registry Key Value) : List Key := registry.entries.map Prod.fst

/-- The map without entries. -/
def empty : Registry Key Value := ⟨[], List.nodup_nil⟩

/-- Change the values. -/
def map (change : Key → Value → Other) (registry : Registry Key Value) : Registry Key Other where
  entries := registry.entries.map fun entry => (entry.1, change entry.1 entry.2)
  distinct := by
    rw [List.map_map]
    exact registry.distinct

/-- The entries, as an iteration visits them. -/
def visited (registry : Registry Key Value) (iteration : Iteration Key) : Registry Key Value where
  entries := iteration.visit registry.entries
  distinct :=
    (((iteration.permutes registry.entries).map Prod.fst).nodup_iff).mpr registry.distinct

variable [DecidableEq Key]

/-- The value under a key. -/
def find? (registry : Registry Key Value) (key : Key) : Option Value :=
  registry.entries.lookup key

/-- Put a value under a key that has none. -/
def emplace (registry : Registry Key Value) (key : Key) (value : Value) : Registry Key Value :=
  if known : key ∈ registry.keys then registry
  else
    { entries := registry.entries ++ [(key, value)]
      distinct := by
        rw [List.map_append]
        refine List.nodup_append.mpr ⟨registry.distinct, List.nodup_singleton key, ?_⟩
        rintro other member _ ⟨⟩ rfl
        · exact known member
        · contradiction }

/-- Put values under keys, one after the other. -/
def emplaceAll (registry : Registry Key Value) (entries : List (Key × Value)) :
    Registry Key Value :=
  entries.foldl (fun current entry => current.emplace entry.1 entry.2) registry

theorem find?_eq_none {registry : Registry Key Value} {key : Key} :
    registry.find? key = none ↔ key ∉ registry.keys := by
  rw [find?, List.lookup_eq_none_iff, keys, List.mem_map]
  constructor
  · rintro other ⟨entry, member, rfl⟩
    exact absurd (other entry member) (by simp)
  · intro missing entry member
    exact bne_iff_ne.mpr fun same => missing ⟨entry, member, same.symm⟩

theorem find?_isSome {registry : Registry Key Value} {key : Key} :
    (registry.find? key).isSome ↔ key ∈ registry.keys := by
  rw [Option.isSome_iff_ne_none, ne_eq, find?_eq_none, not_not]

/-- An entry is found under its key. -/
theorem find?_of_mem {registry : Registry Key Value} {key : Key} {value : Value}
    (member : (key, value) ∈ registry.entries) : registry.find? key = some value := by
  obtain ⟨before, behind, parts⟩ := List.append_of_mem member
  have distinct := registry.distinct
  rw [parts, List.map_append, List.map_cons] at distinct
  refine List.lookup_eq_some_iff.mpr ⟨before, behind, parts, fun entry earlier => ?_⟩
  have apart := (List.nodup_append.mp distinct).2.2 entry.1 (List.mem_map_of_mem earlier) key
    List.mem_cons_self
  exact bne_iff_ne.mpr apart.symm

theorem find?_eq_some {registry : Registry Key Value} {key : Key} {value : Value} :
    registry.find? key = some value ↔ (key, value) ∈ registry.entries := by
  refine ⟨fun found => ?_, find?_of_mem⟩
  obtain ⟨before, behind, parts, -⟩ := List.lookup_eq_some_iff.mp found
  rw [parts]
  exact List.mem_append_right _ List.mem_cons_self

/-- What is under a key after a value was put under one. -/
theorem find?_emplace (registry : Registry Key Value) (key other : Key) (value : Value) :
    (registry.emplace key value).find? other =
      (registry.find? other).or (if other = key then some value else none) := by
  unfold emplace
  split
  next known =>
    by_cases same : other = key
    · subst same
      obtain ⟨found, there⟩ := Option.isSome_iff_exists.mp (find?_isSome.mpr known)
      rw [there, Option.some_or]
    · rw [if_neg same, Option.or_none]
  next =>
    rw [find?, List.lookup_append, List.lookup_cons, List.lookup_nil, ← find?]
    refine congrArg ((registry.find? other).or ·) ?_
    by_cases same : other = key
    · rw [if_pos same, beq_iff_eq.mpr same]
    · rw [if_neg same, beq_eq_false_iff_ne.mpr same]

theorem emplaceAll_append (registry : Registry Key Value) (first second : List (Key × Value)) :
    registry.emplaceAll (first ++ second) = (registry.emplaceAll first).emplaceAll second :=
  List.foldl_append

/-- Under a key is what was there before, or else the first value put there. -/
theorem find?_emplaceAll (registry : Registry Key Value) (entries : List (Key × Value))
    (key : Key) :
    (registry.emplaceAll entries).find? key = (registry.find? key).or (entries.lookup key) := by
  induction entries generalizing registry with
  | nil => rw [emplaceAll, List.foldl_nil, List.lookup_nil, Option.or_none]
  | cons entry later inductionHypothesis =>
    rw [emplaceAll, List.foldl_cons, ← emplaceAll, inductionHypothesis, find?_emplace,
      Option.or_assoc, List.lookup_cons]
    by_cases same : key = entry.1
    · rw [if_pos same, beq_iff_eq.mpr same, Option.some_or]
    · rw [if_neg same, beq_eq_false_iff_ne.mpr same, Option.none_or]

/-- Entries under distinct keys that are new are all kept, in their order. -/
theorem entries_emplaceAll (registry : Registry Key Value) {entries : List (Key × Value)}
    (distinct : ((registry.entries ++ entries).map Prod.fst).Nodup) :
    (registry.emplaceAll entries).entries = registry.entries ++ entries := by
  induction entries generalizing registry with
  | nil => exact (List.append_nil _).symm
  | cons entry later inductionHypothesis =>
    have fresh : entry.1 ∉ registry.keys := by
      intro known
      rw [List.map_append, List.map_cons] at distinct
      exact (List.nodup_append.mp distinct).2.2 entry.1 known entry.1 List.mem_cons_self rfl
    have kept : (registry.emplace entry.1 entry.2).entries = registry.entries ++ [entry] := by
      rw [emplace, dif_neg fresh]
    rw [emplaceAll, List.foldl_cons, ← emplaceAll, inductionHypothesis, kept,
      List.append_assoc, List.singleton_append]
    rw [kept, List.append_assoc, List.singleton_append]
    exact distinct

end Registry

end GateFutures.Library
