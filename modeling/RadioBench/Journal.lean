/-
The journal of a run: lines logged, and messages that a handler captured.

The radio library reports through a handler, a function of a level and a text.
One such function forwards what it gets to the log, where the line names the
radio library as its source.  Any other is the client's own.  What it does with
a message is up to the client, so it is known by a number, and the journal tells
which of them was given the message.
-/

namespace RadioBench

/-- The levels of the radio library's messages, gravest first. -/
inductive LogLevel
  | critical
  | error
  | warning
  | info
  | debug
  deriving DecidableEq, Repr

namespace LogLevel

/-- Any code outside the first four, a negative one included, is a debug message. -/
def ofCode (n : Int) : LogLevel :=
  if n = 0 then critical
  else if n = 1 then error
  else if n = 2 then warning
  else if n = 3 then info
  else debug

/-- The place in the order of levels; a graver level comes first. -/
def rank : LogLevel → Nat
  | critical => 0
  | error => 1
  | warning => 2
  | info => 3
  | debug => 4

def order (a b : LogLevel) : Ordering := compare a.rank b.rank

def text : LogLevel → String
  | critical => "Critical"
  | error => "Error"
  | warning => "Warning"
  | info => "Info"
  | debug => "Debug"

end LogLevel

/-- The levels of the log, gravest first. -/
inductive Severity
  | error
  | warn
  | info
  | debug
  deriving DecidableEq, Repr

namespace Severity

def rank : Severity → Nat
  | error => 1
  | warn => 2
  | info => 3
  | debug => 4

def text : Severity → String
  | error => "ERROR"
  | warn => "WARN"
  | info => "INFO"
  | debug => "DEBUG"

end Severity

/-- The log has no level above an error. -/
def LogLevel.severity : LogLevel → Severity
  | critical => .error
  | error => .error
  | warning => .warn
  | info => .info
  | debug => .debug

/-- A line of the log.  Lines of this library's own name no source. -/
structure LogLine where
  severity : Severity
  source : Option String
  text : String
  deriving DecidableEq, Repr

def LogLine.render (l : LogLine) : String :=
  match l.source with
  | none => l.severity.text ++ " " ++ l.text
  | some s => l.severity.text ++ "[" ++ s ++ "] " ++ l.text

/-- What the journal holds. -/
inductive Entry
  | line (l : LogLine)
  /-- A message that was given to a function of the client. -/
  | captured (handler : Nat) (level : LogLevel) (text : String)
  deriving DecidableEq, Repr

namespace Entry

def debug (text : String) : Entry := line ⟨.debug, none, text⟩

def info (text : String) : Entry := line ⟨.info, none, text⟩

def warn (text : String) : Entry := line ⟨.warn, none, text⟩

def error (text : String) : Entry := line ⟨.error, none, text⟩

/-- The text of a line of the log. -/
def logged? : Entry → Option String
  | line l => some l.render
  | captured .. => none

/-- The text of a captured message, after the name of its level. -/
def captured? : Entry → Option String
  | line _ => none
  | captured _ level text => some (level.text ++ ": " ++ text)

end Entry

/-- What is done with a message of the radio library. -/
inductive LogHandler
  /-- The client's function with this number is called. -/
  | client (number : Nat)
  /-- The message becomes a line of the log. -/
  | forward
  deriving DecidableEq, Repr

namespace LogHandler

/-- The function of a client that has only one. -/
def capture : LogHandler := client 0

/-- The entry that a message leaves in the journal. -/
def deliver : LogHandler → LogLevel → String → Entry
  | client number, level, text => .captured number level text
  | forward, level, text => .line ⟨level.severity, some "limesuite", text⟩

end LogHandler

/-- Entries, oldest first. -/
abbrev Journal : Type := Array Entry

end RadioBench
