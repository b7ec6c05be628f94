/-
A native library that answers from a script.

Each function has a queue of replies, and a function whose queue is empty
replies with success and stores nothing.  The library remembers the last error
message that a reply set, whether a callback is registered, and how many devices
and streams it handed out.  Every call but the query for the error message is
recorded.  Reads move its clock.
-/
import RadioBench.Duration
import RadioBench.Native.Recording
import RadioBench.Table
import RadioBench.Text.CString

namespace RadioBench
namespace Native

/-- What a function does when it is called.  A field that a function has no use
for is ignored. -/
structure ScriptedReply where
  code : Int
  /-- The new last error message, if there is one. -/
  error : Option (List UInt8)
  /-- Messages for the callback. -/
  messages : List Message
  /-- Single outputs, in the order of the declaration. -/
  out : List Float
  /-- The start of a table of numbers. -/
  values : List Float
  /-- The start of a list of names. -/
  names : List (List UInt8)
  status : Option StreamStatus
  /-- What a read stores in the buffer. -/
  data : Array UInt8
  /-- What a read stores as time stamp. -/
  timestamp : Option UInt64
  /-- How long a read takes; its whole timeout, unless it is told. -/
  advance : Option Duration

/-- Success, and nothing is stored. -/
def ScriptedReply.silent : ScriptedReply where
  code := 0
  error := none
  messages := []
  out := []
  values := []
  names := []
  status := none
  data := #[]
  timestamp := none
  advance := none

structure Scripted where
  /-- Replies by the function's name, each with the number of calls it still serves. -/
  queues : Table String (List (Nat × ScriptedReply))
  lastError : Option (List UInt8)
  version : Option (List UInt8)
  /-- Whether a callback for messages is registered. -/
  callback : Bool
  devices : Nat
  streams : Nat
  /-- How many names the next list may take. -/
  room : Nat
  clock : Duration
  /-- The calls made so far, oldest first. -/
  calls : Array String

namespace Scripted

/-- A library with no replies, which lists no device. -/
def start : Scripted where
  queues := .empty
  lastError := none
  version := none
  callback := false
  devices := 0
  streams := 0
  room := 0
  clock := .zero
  calls := #[]

/-! ## Controls -/

/-- Append a reply that serves a number of calls of a function. -/
def reply (s : Scripted) (function : String) (times : Nat) (r : ScriptedReply) : Scripted :=
  let queue := (s.queues.find? function).getD []
  { s with queues := s.queues.set function (queue ++ [(times, r)]) }

def setError (s : Scripted) (text : Option (List UInt8)) : Scripted := { s with lastError := text }

def setVersion (s : Scripted) (text : Option (List UInt8)) : Scripted := { s with version := text }

/-- Messages reach no one as long as no callback is registered. -/
def sent (s : Scripted) (messages : List Message) : List Message :=
  if s.callback then messages else []

/-! ## Calls -/

/-- The first reply of a queue and what is left of the queue.  Replies that serve
no more calls are passed over. -/
def pop : List (Nat × ScriptedReply) → ScriptedReply × List (Nat × ScriptedReply)
  | [] => (.silent, [])
  | (0, _) :: rest => pop rest
  | (1, r) :: rest => (r, rest)
  | (n + 2, r) :: rest => (r, (n + 1, r) :: rest)

/-- The reply for a call of a function. -/
def take (s : Scripted) (function : String) : ScriptedReply × Scripted :=
  match s.queues.find? function with
  | none => (.silent, s)
  | some queue =>
    let (r, rest) := pop queue
    (r, { s with queues := s.queues.set function rest })

def advanceBy (s : Scripted) (span : Duration) : Scripted :=
  { s with clock := (s.clock.add? span).getD s.clock }

/-- Room for names after a count, with so much to spare. -/
def makeRoom (s : Scripted) (code : Int) (spare : Nat) : Scripted :=
  { s with room := code.toNat + spare }

/-- A word from a number in a script. -/
def word (x : Float) : UInt32 := x.toUInt32

def half (x : Float) : UInt16 := x.toUInt16

/-- A list takes names as far as there is room, each in an entry of fixed width. -/
def entries (s : Scripted) (width : Nat) (r : ScriptedReply) : List (List UInt8) :=
  (r.names.take s.room).map (Text.CString.entry width)

def deviceOut (r : ScriptedReply) : (f : DeviceFunction) → f.Out
  | .getLpfBwRange _ => (r.out[0]?, r.out[1]?, r.out[2]?)
  | .vctcxoRead => r.out[0]?.map half
  | .init => ()
  | .reset => ()
  | .getNumChannels _ => ()
  | .loadConfig _ => ()
  | .saveConfig _ => ()
  | .setSampleRate .. => ()
  | .setSampleRateDir .. => ()
  | .vctcxoWrite _ => ()

def channelOut (s : Scripted) (r : ScriptedReply) : (f : ChannelFunction) → f.Out × Scripted
  | .getSampleRate => ((r.out[0]?, r.out[1]?), s)
  | .getLoFrequency => (r.out[0]?, s)
  | .getAntennaList none => ([], s.makeRoom r.code 0)
  | .getAntennaList (some _) => (s.entries 16 r, s)
  | .getLpfBw => (r.out[0]?, s)
  | .getNormalizedGain => (r.out[0]?, s)
  | .getGainDb => (r.out[0]?.map word, s)
  | .getTestSignal => (r.out[0]?.map word, s)
  | .getNcoFrequency => ((r.values, r.out[0]?), s)
  | .getNcoPhase => ((r.values, r.out[0]?), s)
  | .getGfirCoeff _ => (r.values, s)
  | .enable _ => ((), s)
  | .setLoFrequency _ => ((), s)
  | .setAntenna _ => ((), s)
  | .getAntenna => ((), s)
  | .setLpfBw _ => ((), s)
  | .setLpf _ => ((), s)
  | .setGfirLpf .. => ((), s)
  | .setNormalizedGain _ => ((), s)
  | .setGainDb _ => ((), s)
  | .calibrate .. => ((), s)
  | .setTestSignal .. => ((), s)
  | .setNcoFrequency .. => ((), s)
  | .setNcoPhase .. => ((), s)
  | .setNcoIndex .. => ((), s)
  | .getNcoIndex => ((), s)
  | .setGfirCoeff .. => ((), s)
  | .setGfir .. => ((), s)

/-- Metadata after a read: the time stamp is stored if there is one, and both
flags are then turned over. -/
def stampedInfo (r : ScriptedReply) (info : Option StreamMeta) : Option StreamMeta :=
  match r.timestamp, info with
  | some t, some m => some ⟨t, !m.waitForTimestamp, !m.flushPartialPacket⟩
  | _, _ => none

def streamOut (s : Scripted) (r : ScriptedReply) : (f : StreamFunction) → f.Out × Scripted
  | .recv _ info timeout =>
    ({ data := r.data, info := stampedInfo r info },
      s.advanceBy (r.advance.getD (.ofMillis timeout)))
  | .getStatus => (r.status, s)
  | .start => ((), s)
  | .stop => ((), s)
  | .send .. => ((), s)

/-- What a call stores, and the library afterwards. -/
def outputs (s : Scripted) (r : ScriptedReply) : (c : Call) → c.Out × Scripted
  | .getLibraryVersion => (s.version, s)
  | .getLastErrorMessage => (s.lastError, s)
  | .registerLogHandler _ => ((), s)
  | .getDeviceList none => ([], s.makeRoom r.code 16)
  | .getDeviceList (some _) => (s.entries 256 r, s)
  | .openDevice _ =>
    if r.code = 0 then (some ⟨s.devices + 1⟩, { s with devices := s.devices + 1 }) else (none, s)
  | .closeDevice _ => ((), s)
  | .device _ f => (deviceOut r f, s)
  | .channel _ _ _ f => s.channelOut r f
  | .setupStream .. =>
    if r.code = 0 then (some (s.streams + 1), { s with streams := s.streams + 1 }) else (none, s)
  | .destroyStream .. => ((), s)
  | .stream _ f => s.streamOut r f

/-- A callback is in place, or gone, before anything else happens. -/
def registered (s : Scripted) : Call → Scripted
  | .registerLogHandler on => { s with callback := on }
  | _ => s

/-- Answer a call. -/
def answer (c : Call) (s : Scripted) : Reply c.Out × Scripted :=
  match c with
  | .getLastErrorMessage => ({ code := 0, out := s.lastError, messages := [] }, s)
  | c =>
    let s := s.registered c
    let s := { s with calls := s.calls.push (Recording.line c) }
    let (r, s) := s.take (Recording.name c)
    let s := { s with lastError := r.error.orElse fun _ => s.lastError }
    let messages := s.sent r.messages
    let (out, s) := s.outputs r c
    ({ code := r.code, out := out, messages := messages }, s)

end Scripted
end Native
end RadioBench
