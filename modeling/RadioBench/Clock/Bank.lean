/-
A bank of clocks that move only when they are told to.

Each clock shows one cell of the bank, and a clock made by sharing shows the
cell of the clock it was made from.  Advancing a clock moves its cell, so every
clock that shares it moves along and no other does.  A stopwatch remembers the
reading it was started at; what it shows is the difference to a later reading.
-/
import RadioBench.Duration

namespace RadioBench

/-- A measurement that began when its clock showed `started`. -/
structure Stopwatch where
  started : Duration
  deriving DecidableEq, Repr

/-- The time since the start, when the clock now shows `now`. -/
def Stopwatch.elapsed (w : Stopwatch) (now : Duration) : Duration := now - w.started

namespace Clock

/-- Clocks by number, each with the number of the cell it shows. -/
structure Bank where
  cells : Array Duration
  shown : Array Nat
  deriving DecidableEq, Repr

namespace Bank

def empty : Bank := { cells := #[], shown := #[] }

/-- Add a clock with a cell of its own, at zero.  Answers the clock's number. -/
def new (b : Bank) : Nat × Bank :=
  (b.shown.size,
    { cells := b.cells.push .zero, shown := b.shown.push b.cells.size })

/-- Add a clock that shares the cell of clock `c`. -/
def share? (b : Bank) (c : Nat) : Option (Nat × Bank) :=
  b.shown[c]?.map fun cell => (b.shown.size, { b with shown := b.shown.push cell })

/-- The reading of clock `c`. -/
def now? (b : Bank) (c : Nat) : Option Duration :=
  b.shown[c]?.bind fun cell => b.cells[cell]?

/-- What came of an attempt to move a clock. -/
inductive Moved
  | to (b : Bank)
  /-- The sum is beyond `Duration.limit`.  The bank is what the attempt left behind. -/
  | tooFar (b : Bank)
  | unknownClock

/-- Move clock `c`, and every clock that shares its cell, forward. -/
def advance (b : Bank) (c : Nat) (span : Duration) : Moved :=
  match b.shown[c]? with
  | none => .unknownClock
  | some cell =>
    match b.cells[cell]? with
    | none => .unknownClock
    | some reading =>
      match reading.add? span with
      | none => .tooFar b
      | some later => .to { b with cells := b.cells.setIfInBounds cell later }

/-- A bank with one clock, at zero. -/
def single : Bank := empty.new.2

end Bank
end Clock
end RadioBench
