/- Go's errors, pointers and heap, as the service's package state uses them. -/

import Mathlib.Data.List.Basic

namespace PenaltyPayment.Go

/-- A Go `error` that is not `nil`; a `nil` error is the absence of one. -/
structure GoError where
  message : String
  deriving DecidableEq, Repr

/-- A non-nil Go pointer: the address of one heap cell. -/
structure Ptr where
  addr : Nat
  deriving DecidableEq, Repr

/-- A Go call's values, a result or a non-nil error, are compared as values. -/
instance decEqExcept {ε α : Type} [DecidableEq ε] [DecidableEq α] : DecidableEq (Except ε α)
  | .error a, .error b => decidable_of_iff (a = b) (by simp)
  | .ok a, .ok b => decidable_of_iff (a = b) (by simp)
  | .error _, .ok _ => isFalse nofun
  | .ok _, .error _ => isFalse nofun

/-- The heap lists its cells in allocation order; `&T{}` appends a cell and points at it. -/
def alloc {Cell : Type} (heap : List Cell) (cell : Cell) : Ptr × List Cell :=
  (⟨heap.length⟩, heap ++ [cell])

/-- A write through a pointer replaces the cell it points at. -/
def store {Cell : Type} (heap : List Cell) (pointer : Ptr) (cell : Cell) : List Cell :=
  heap.set pointer.addr cell

/-- A read through a pointer; `none` for an address the heap has not allocated. -/
def load {Cell : Type} (heap : List Cell) (pointer : Ptr) : Option Cell :=
  heap[pointer.addr]?

variable {Cell : Type}

@[simp] theorem alloc_fst (heap : List Cell) (cell : Cell) :
    (alloc heap cell).1 = ⟨heap.length⟩ := rfl

@[simp] theorem alloc_snd (heap : List Cell) (cell : Cell) :
    (alloc heap cell).2 = heap ++ [cell] := rfl

/-- A write through the pointer just allocated replaces the zero value it was allocated with. -/
@[simp] theorem store_append_length (heap : List Cell) (zero cell : Cell) :
    store (heap ++ [zero]) ⟨heap.length⟩ cell = heap ++ [cell] := by
  simp [store]

/-- The cell just appended is the one a read through its pointer returns. -/
@[simp] theorem load_append_length (heap : List Cell) (cell : Cell) :
    load (heap ++ [cell]) ⟨heap.length⟩ = some cell := by
  simp [load]

/-- An allocation leaves every cell allocated before it as it was. -/
theorem load_append_of_lt (heap : List Cell) (cell : Cell) {pointer : Ptr}
    (old : pointer.addr < heap.length) : load (heap ++ [cell]) pointer = load heap pointer := by
  simp [load, List.getElem?_append_left old]

end PenaltyPayment.Go
