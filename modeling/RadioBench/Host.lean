/-
The surroundings of a program that works with a radio.

Such a program may ask the radio's driver, read a clock, add to the journal and
write text.  Only the answers of the driver and the writing of text can fail.
The clock, the journal and the text are kept apart from the driver, because a
driver that is itself a program has the same three at its disposal.
-/
import RadioBench.Prog
import RadioBench.Request

namespace RadioBench

/-- What surrounds a program besides a radio. -/
inductive Ambient
  | now
  | note (entry : Entry)
  | write (text : String)

/-- A text that is not written whole leaves a message. -/
def Ambient.Reply : Ambient → Type
  | now => Duration
  | note _ => Unit
  | write _ => Except String Unit

def Surroundings : Signature where
  Op := Ambient
  Reply := Ambient.Reply

def Requests : Signature where
  Op := Request
  Reply := Request.Answer

/-- A radio's driver, a clock, a journal and a place to write. -/
def Host : Signature := Requests.sum Surroundings

namespace Host

/-- Ask the driver. -/
def request (r : Request) : Prog Host r.Answer := Prog.op (S := Host) (.inl r)

/-- Read the clock. -/
def now : Prog Host Duration := Prog.op (S := Host) (.inr .now)

/-- Add to the journal. -/
def note (e : Entry) : Prog Host Unit := Prog.op (S := Host) (.inr (.note e))

/-- Write a text.  A failure to write is an error of its own kind. -/
def write (text : String) : Prog Host (Except Error Unit) := do
  let r ← Prog.op (S := Host) (.inr (.write text))
  match (r : Except String Unit) with
  | .ok () => pure (.ok ())
  | .error message => pure (.error (.output message))

end Host

/-- A program on a host that may fail. -/
abbrev Attempt : Type → Type := ExceptT Error (Prog Host)

namespace Attempt

/-- Use the outcome of a program, failing with its error. -/
def of {α : Type} (p : Prog Host (Except Error α)) : Attempt α := ExceptT.mk p

/-- Do something that cannot fail. -/
def always {α : Type} (p : Prog Host α) : Attempt α := ExceptT.lift p

/-- Write a line. -/
def line (text : String) : Attempt Unit := of (Host.write (text ++ "\n"))

def debug (text : String) : Attempt Unit := always (Host.note (.debug text))

def warn (text : String) : Attempt Unit := always (Host.note (.warn text))

def info (text : String) : Attempt Unit := always (Host.note (.info text))

end Attempt
end RadioBench
