/-
The command line: one smoke test with standard settings.

The test's report goes to the standard output, the log to the standard error.
Only lines up to a level are shown.  The exit code is zero when the test is
completed, and one when it failed or found no device.
-/
import RadioBench.Bench.Station
import RadioBench.SmokeTest.Session

namespace RadioBench
namespace CommandLine

def settings : SmokeTest.Settings := .standard (.ofString "/tmp/LimeMini.ini")

/-- The test, with its exit code. -/
def program (budget : Nat) : Prog Host Nat := do
  match ← (SmokeTest.run budget settings).run with
  | .ok (.completed ..) => pure 0
  | .ok .noDevices =>
    Host.note (.error "no LimeSuite devices found")
    pure 1
  | .error e =>
    Host.note (.error e.message)
    pure 1

/-- The same on the native library, which is left with nothing open. -/
def onLibrary (budget : Nat) : Prog Native.Machine Nat :=
  Native.Binding.lifetime (program budget)

/-- The level up to which lines are shown, by its name in any case.  Lines up to
information are shown when no level is named. -/
def level (name : Option String) : Nat :=
  match name.map String.toLower with
  | some "off" => 0
  | some "error" => Severity.error.rank
  | some "warn" => Severity.warn.rank
  | some "debug" => Severity.debug.rank
  | some "trace" => Severity.debug.rank
  | _ => Severity.info.rank

/-- The line of an entry, if it is shown. -/
def shown? (level : Nat) : Entry → Option String
  | .line l => if l.severity.rank ≤ level then some l.render else none
  | .captured .. => none

/-- What a run shows. -/
structure Shown where
  exit : Nat
  out : String
  log : List String

/-- A run on a scripted library, while the clock stands still. -/
def run (budget level : Nat) (library : Native.Scripted) : Option Shown :=
  let floor : Bench.Floor := { library := library, journal := #[], sink := .empty none }
  match (onLibrary budget).run (Bench.Floor.handle fun _ => .zero) floor with
  | (some code, f) =>
    some { exit := code
           out := f.sink.text
           log := f.journal.toList.filterMap (shown? level) }
  | (none, _) => none

end CommandLine
end RadioBench
