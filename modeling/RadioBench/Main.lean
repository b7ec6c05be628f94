/-
The program: a smoke test from the command line.

The first argument, if there is one, names the level of the log.  No radio is
attached to this build.  The native library is the scripted one, which lists no
device as long as it has no script.
-/
import RadioBench.Clock.Monotonic
import RadioBench.CommandLine

namespace RadioBench
namespace CommandLine

/-- Reads allowed in one test: more than a test can make in its ten seconds. -/
def readBudget : Nat := 1 <<< 40

/-- Write a text to the standard output. -/
def put (text : String) : IO (Except String Unit) := do
  try
    let out ← IO.getStdout
    out.putStr text
    out.flush
    pure (.ok ())
  catch e => pure (.error (toString e))

/-- Carry out one operation of a machine. -/
def handle (library : IO.Ref Native.Scripted) (level : Nat) :
    (o : Native.Machine.Op) → IO (Native.Machine.Reply o)
  | .inl c => library.modifyGet fun s => s.answer c
  | .inr .now => Clock.Monotonic.now
  | .inr (.note e) =>
    match shown? level e with
    | some line => IO.eprintln line
    | none => pure ()
  | .inr (.write text) => put text

def start (args : List String) : IO UInt32 := do
  let library ← IO.mkRef Native.Scripted.start
  match ← (onLibrary readBudget).runM (handle library (level args.head?)) with
  | some code => pure code.toUInt32
  | none => pure 1

end CommandLine
end RadioBench

def main (args : List String) : IO UInt32 := RadioBench.CommandLine.start args
