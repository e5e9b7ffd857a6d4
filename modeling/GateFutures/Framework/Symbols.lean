/-
This file states what the gateway relies on of `core::Symbols`, the list of subscribed
symbols cut into consecutive blocks, one block for each market data connection. It is
not part of this repository, so it is a parameter: a class of the operations the
gateway calls, and a class of the laws it relies on.
-/

import Mathlib.Data.List.Basic

namespace GateFutures.Framework

/-- The operations of `core::Symbols`. The gateway never reads `contents` or `blockSize`; the
laws do. Appending a list returns the number of slices and the position of the first new
symbol. -/
class Symbols (Symbol : outParam Type) (Store : Type) where
  create : Nat → Store
  contents : Store → List Symbol
  blockSize : Store → Nat
  append : Store → List Symbol → Store × Nat × Nat
  getSlice : Store → Nat → Nat → List Symbol

/-- The number of consecutive blocks of the given size that hold so many symbols. -/
def blocks (size count : Nat) : Nat := (count + size - 1) / size

/-- No symbols fill no block. -/
theorem blocks_zero (size : Nat) : blocks size 0 = 0 := by
  cases size with
  | zero => rfl
  | succ size => exact Nat.div_eq_of_lt (by omega)

/-- More symbols fill no fewer blocks. -/
theorem blocks_le (size count more : Nat) : blocks size count ≤ blocks size (count + more) :=
  Nat.div_le_div_right (by omega)

/-- The part of block `index` at positions from `startFrom` on. -/
def block {Symbol : Type} (size : Nat) (contents : List Symbol) (index startFrom : Nat) :
    List Symbol :=
  (contents.take ((index + 1) * size)).drop (max (index * size) startFrom)

/-- Appending symbols to the list appends to every block its part at the positions of the new
symbols. -/
theorem block_append {Symbol : Type} (size : Nat) (contents symbols : List Symbol)
    (index : Nat) :
    block size (contents ++ symbols) index 0 =
      block size contents index 0 ++ block size (contents ++ symbols) index contents.length := by
  unfold block
  generalize index * size = first
  generalize (index + 1) * size = last
  rw [Nat.max_zero]
  rcases Nat.le_total contents.length first with beyond | within
  · have none : (contents.take last).drop first = [] :=
      List.drop_eq_nil_of_le (Nat.le_trans (List.length_take_le' last contents) beyond)
    rw [Nat.max_eq_left beyond, none, List.nil_append]
  · rw [Nat.max_eq_right within, List.take_append]
    rcases Nat.le_total last contents.length with full | partly
    · have none : last - contents.length = 0 := Nat.sub_eq_zero_of_le full
      rw [none, List.take_zero, List.append_nil, List.drop_eq_nil_of_le (i := contents.length)
        (List.length_take_le' _ _), List.append_nil]
    · rw [List.take_of_length_le partly, List.drop_append_of_le_length within, List.drop_left]

/-- A block names no symbol twice when the list does not. -/
theorem block_nodup {Symbol : Type} (size : Nat) {contents : List Symbol}
    (nodup : contents.Nodup) (index startFrom : Nat) :
    (block size contents index startFrom).Nodup :=
  nodup.sublist ((List.drop_sublist _ _).trans (List.take_sublist _ _))

/-- What the gateway relies on of the symbol list. -/
class LawfulSymbols (Symbol : outParam Type) (Store : Type) [Symbols Symbol Store] : Prop where
  contents_create (size : Nat) : Symbols.contents (Symbols.create size : Store) = []
  blockSize_create (size : Nat) : Symbols.blockSize (Symbols.create size : Store) = size
  contents_append (store : Store) (symbols : List Symbol) :
    Symbols.contents (Symbols.append store symbols).1 = Symbols.contents store ++ symbols
  blockSize_append (store : Store) (symbols : List Symbol) :
    Symbols.blockSize (Symbols.append store symbols).1 = Symbols.blockSize store
  append_slices (store : Store) (symbols : List Symbol) :
    (Symbols.append store symbols).2.1 =
      blocks (Symbols.blockSize store) (Symbols.contents store ++ symbols).length
  append_startFrom (store : Store) (symbols : List Symbol) :
    (Symbols.append store symbols).2.2 = (Symbols.contents store).length
  getSlice_eq (store : Store) (index startFrom : Nat) :
    Symbols.getSlice store index startFrom =
      block (Symbols.blockSize store) (Symbols.contents store) index startFrom

/-- A symbol list that keeps its contents and block size, and nothing else. -/
structure PlainSymbols (Symbol : Type) where
  blockSize : Nat
  contents : List Symbol
  deriving DecidableEq

instance {Symbol : Type} : Symbols Symbol (PlainSymbols Symbol) where
  create size := ⟨size, []⟩
  contents := PlainSymbols.contents
  blockSize := PlainSymbols.blockSize
  append store symbols :=
    ({ store with contents := store.contents ++ symbols },
      blocks store.blockSize (store.contents ++ symbols).length, store.contents.length)
  getSlice store := block store.blockSize store.contents

instance {Symbol : Type} : LawfulSymbols Symbol (PlainSymbols Symbol) where
  contents_create _ := rfl
  blockSize_create _ := rfl
  contents_append _ _ := rfl
  blockSize_append _ _ := rfl
  append_slices _ _ := rfl
  append_startFrom _ _ := rfl
  getSlice_eq _ _ _ := rfl

end GateFutures.Framework
