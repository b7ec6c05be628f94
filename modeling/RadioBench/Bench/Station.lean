/-
Stations: a radio's driver with a clock and a journal, carried as a state.

Programs on a host run on any station.  What they write goes to a sink.  One
station has a simulated radio under an overlay, the other the driver on top of a
scripted native library.
-/
import RadioBench.Bench.Sink
import RadioBench.Native.Binding
import RadioBench.Native.Scripted
import RadioBench.Simulator.Overlay
import RadioBench.Simulator.Perform

namespace RadioBench
namespace Bench

/-- What can be done with states of type `σ`. -/
structure Station (σ : Type) where
  /-- Carry out a program with a fresh sink.  There is no result when the program
  used up its budget. -/
  carryOut : {α : Type} → (limit : Option Nat) → Prog Host α → σ → Option α × σ × Sink
  /-- The calls recorded so far, oldest first. -/
  calls : σ → Array String
  journal : σ → Journal
  now : σ → Duration

/-- A simulated radio under an overlay. -/
structure Simulated where
  state : Simulator.State
  overlay : Overlay
  /-- The successful reads so far. -/
  reads : Nat

namespace Simulated

def start (listed : List String) (overlay : Overlay) : Simulated where
  state := .start listed
  overlay := overlay
  reads := 0

def perform (r : Request) (x : Simulated) : r.Answer × Simulated :=
  let (a, s) := Simulator.perform r x.state
  let (a, n) := x.overlay.apply x.reads r a
  (a, { x with state := s, reads := n })

/-- Carry out one operation of a host. -/
def handle : (o : Host.Op) → Simulated × Sink → Host.Reply o × (Simulated × Sink)
  | .inl r, (x, k) =>
    let (a, x) := x.perform r
    (a, (x, k))
  | .inr .now, (x, k) => (x.state.clock, (x, k))
  | .inr (.note e), (x, k) => ((), ({ x with state := x.state.note e }, k))
  | .inr (.write text), (x, k) =>
    let (r, k) := k.write text
    (r, (x, k))

def carryOut {α : Type} (limit : Option Nat) (p : Prog Host α) (x : Simulated) :
    Option α × Simulated × Sink :=
  p.run handle (x, .empty limit)

def station : Station Simulated where
  carryOut := carryOut
  calls x := x.state.calls
  journal x := x.state.journal
  now x := x.state.clock

end Simulated

/-- The surroundings of a driver on a scripted library. -/
structure Floor where
  library : Native.Scripted
  journal : Journal
  sink : Sink

/-- Carry out one operation of a machine.  The reading of the clock is taken from
the library by `clock`. -/
def Floor.handle (clock : Native.Scripted → Duration) :
    (o : Native.Machine.Op) → Floor → Native.Machine.Reply o × Floor
  | .inl c, f =>
    let (r, library) := f.library.answer c
    (r, { f with library := library })
  | .inr .now, f => (clock f.library, f)
  | .inr (.note e), f => ((), { f with journal := f.journal.push e })
  | .inr (.write text), f =>
    let (r, sink) := f.sink.write text
    (r, { f with sink := sink })

/-- The driver on top of a scripted library. -/
structure Lab where
  binding : Native.Binding
  library : Native.Scripted
  journal : Journal

namespace Lab

def start : Lab where
  binding := .fresh
  library := .start
  journal := #[]

def floor (x : Lab) (limit : Option Nat) : Floor where
  library := x.library
  journal := x.journal
  sink := .empty limit

def carryOut {α : Type} (limit : Option Nat) (p : Prog Host α) (x : Lab) :
    Option α × Lab × Sink :=
  match (x.binding.host p).run (Floor.handle (·.clock)) (x.floor limit) with
  | (some (a, b), f) =>
    (some a, { binding := b, library := f.library, journal := f.journal }, f.sink)
  | (none, f) => (none, { x with library := f.library, journal := f.journal }, f.sink)

def station : Station Lab where
  carryOut := carryOut
  calls x := x.library.calls
  journal := journal
  now x := x.library.clock

/-- Let the library send a message to its callback. -/
def send (m : Native.Message) (x : Lab) : Lab :=
  let p := (x.library.sent [m]).forM x.binding.deliver
  let (_, f) := p.run (Floor.handle (·.clock)) (x.floor none)
  { x with journal := f.journal }

/-- Give everything back that the driver still holds. -/
def release (x : Lab) : Lab :=
  let (_, f) := x.binding.release.run (Floor.handle (·.clock)) (x.floor none)
  { binding := { x.binding with devices := .empty, streams := .empty }
    library := f.library
    journal := f.journal }

end Lab
end Bench
end RadioBench
