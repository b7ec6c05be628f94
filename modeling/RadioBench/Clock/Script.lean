/-
Lists of steps on a bank of clocks, with an answer for each step.
-/
import RadioBench.Clock.Bank

namespace RadioBench
namespace Clock

inductive Step
  | new
  | share (clock : Nat)
  | advance (clock : Nat) (span : Duration)
  | now (clock : Nat)
  /-- Remember the clock and its reading. -/
  | mark (clock : Nat)
  /-- The time since a remembered reading, by that clock. -/
  | since (mark : Nat)
  /-- Start a stopwatch, then advance by each span and read the stopwatch. -/
  | timed (clock : Nat) (spans : List Duration)

inductive Answer
  | unit
  | number (n : Nat)
  | time (d : Duration)
  | times (ds : List Duration)
  /-- A clock was told to pass the longest duration. -/
  | tooFar
  /-- No clock or mark has the number that was given. -/
  | unknown

/-- A bank and the marks taken on it, oldest first. -/
structure Desk where
  bank : Bank
  marks : Array (Nat × Stopwatch)

namespace Desk

/-- One clock at zero and no marks. -/
def fresh : Desk := { bank := .single, marks := #[] }

/-- Advance by each span in turn and collect what the stopwatch shows.  The
advances made before a failing one stay. -/
def advanceAll (w : Stopwatch) (clock : Nat) :
    List Duration → Bank → Except Answer (List Duration) × Bank
  | [], b => (.ok [], b)
  | d :: rest, b =>
    match b.advance clock d with
    | .tooFar b' => (.error .tooFar, b')
    | .unknownClock => (.error .unknown, b)
    | .to b' =>
      let shown := w.elapsed ((b'.now? clock).getD .zero)
      let (r, b'') := advanceAll w clock rest b'
      (r.map (shown :: ·), b'')

def step (s : Desk) : Step → Answer × Desk
  | .new =>
    let (n, b) := s.bank.new
    (.number n, { s with bank := b })
  | .share c =>
    match s.bank.share? c with
    | none => (.unknown, s)
    | some (n, b) => (.number n, { s with bank := b })
  | .advance c d =>
    match s.bank.advance c d with
    | .to b => (.unit, { s with bank := b })
    | .tooFar b => (.tooFar, { s with bank := b })
    | .unknownClock => (.unknown, s)
  | .now c =>
    match s.bank.now? c with
    | none => (.unknown, s)
    | some d => (.time d, s)
  | .mark c =>
    match s.bank.now? c with
    | none => (.unknown, s)
    | some d => (.number s.marks.size, { s with marks := s.marks.push (c, ⟨d⟩) })
  | .since m =>
    match s.marks[m]? with
    | none => (.unknown, s)
    | some (c, w) =>
      match s.bank.now? c with
      | none => (.unknown, s)
      | some d => (.time (w.elapsed d), s)
  | .timed c spans =>
    match s.bank.now? c with
    | none => (.unknown, s)
    | some d =>
      match advanceAll ⟨d⟩ c spans s.bank with
      | (.ok shown, b) => (.times shown, { s with bank := b })
      | (.error e, b) => (e, { s with bank := b })

/-- The answers to a list of steps, in order. -/
def run : List Step → Desk → List Answer
  | [], _ => []
  | t :: rest, s =>
    let (a, s') := s.step t
    a :: run rest s'

end Desk
end Clock
end RadioBench
