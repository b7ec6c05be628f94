/-
Tables of slots, in which the lowest free slot is used first.

An index names a slot.  Taking the value out of a slot frees the slot, and a
freed slot is used again before the table grows.
-/

namespace RadioBench
namespace Native

structure Slots (α : Type) where
  slots : Array (Option α)

namespace Slots

variable {α : Type}

def empty : Slots α := ⟨#[]⟩

def get? (t : Slots α) (i : Nat) : Option α := (t.slots[i]?).join

/-- The number of slots, free ones included. -/
def size (t : Slots α) : Nat := t.slots.size

/-- The lowest free slot, or the one that the table would grow by. -/
def firstFree (t : Slots α) : Nat :=
  (t.slots.toList.findIdx? Option.isNone).getD t.slots.size

/-- Store a value in the lowest free slot.  Answers the index of the slot. -/
def insert (t : Slots α) (a : α) : Nat × Slots α :=
  let i := t.firstFree
  (i, ⟨if i < t.slots.size then t.slots.setIfInBounds i (some a) else t.slots.push (some a)⟩)

/-- Free a slot. -/
def erase (t : Slots α) (i : Nat) : Slots α := ⟨t.slots.setIfInBounds i none⟩

/-- Change the value in a slot that is not free. -/
def modify (t : Slots α) (i : Nat) (f : α → α) : Slots α :=
  match t.get? i with
  | none => t
  | some a => ⟨t.slots.setIfInBounds i (some (f a))⟩

/-- The values with the indices of their slots, in order of the indices. -/
def toList (t : Slots α) : List (Nat × α) :=
  (List.range t.slots.size).filterMap fun i => (t.get? i).map fun a => (i, a)

end Slots
end Native
end RadioBench
