/-
A workbench: a station together with the guards that are kept on it.

Commands and single requests are carried out one after the other.  What a step
did shows in its effects: the calls recorded, the lines logged, the messages
captured, and the clock if it moved.
-/
import RadioBench.Bench.Guards
import RadioBench.Bench.Station

namespace RadioBench
namespace Bench

/-- Write equal neighbours as one name with their number. -/
def collapse : List String → List String
  | [] => []
  | name :: rest => go name 1 rest
where
  counted (name : String) (count : Nat) : String :=
    if count = 1 then name else name ++ "*" ++ toString count
  /-- The run that is being counted is `count` times `name`. -/
  go (name : String) (count : Nat) : List String → List String
    | [] => [counted name count]
    | next :: rest =>
      if next = name then go name (count + 1) rest else counted name count :: go next 1 rest

structure Effects where
  calls : List String
  log : List String
  captured : List String
  /-- The reading of the clock, if it moved. -/
  now : Option Duration

/-- What happened between two states of a station. -/
def Effects.between {σ : Type} (st : Station σ) (before after : σ) : Effects :=
  let calls := (st.calls after).toList.drop (st.calls before).size
  let entries := (st.journal after).toList.drop (st.journal before).size
  { calls := collapse calls
    log := entries.filterMap Entry.logged?
    captured := entries.filterMap Entry.captured?
    now := if st.now after = st.now before then none else some (st.now after) }

structure Workbench (σ : Type) where
  radio : σ
  guards : Guards

/-- What a step came to, and the text it wrote. -/
structure Step (α : Type) where
  /-- The result, unless the budget was used up. -/
  result : Option α
  written : String

namespace Workbench

variable {σ : Type}

def start (radio : σ) : Workbench σ := { radio := radio, guards := .none }

/-- Ask the driver directly. -/
def ask (st : Station σ) (w : Workbench σ) (r : Request) : Step r.Answer × Workbench σ :=
  let (a, radio, sink) := st.carryOut none (Host.request r) w.radio
  ({ result := a, written := sink.text }, { w with radio := radio })

/-- Carry out a command on guards. -/
def command (st : Station σ) (budget : Nat) (limit : Option Nat) (w : Workbench σ) (c : Command) :
    Step (Except Refusal c.Result) × Workbench σ :=
  match st.carryOut limit (w.guards.execute budget c) w.radio with
  | (some (r, guards), radio, sink) =>
    ({ result := some r, written := sink.text }, { radio := radio, guards := guards })
  | (none, radio, sink) => ({ result := none, written := sink.text }, { w with radio := radio })

/-- Carry out a smoke test. -/
def smokeTest (st : Station σ) (budget : Nat) (limit : Option Nat) (w : Workbench σ)
    (s : SmokeTest.Settings) : Step (Except Error SmokeTest.Outcome) × Workbench σ :=
  let (a, radio, sink) := st.carryOut limit (SmokeTest.run budget s).run w.radio
  ({ result := a, written := sink.text }, { w with radio := radio })

/-- Drop all guards. -/
def finish (st : Station σ) (w : Workbench σ) : Workbench σ :=
  let (_, radio, _) := st.carryOut none w.guards.finish w.radio
  { radio := radio, guards := .none }

end Workbench
end Bench
end RadioBench
