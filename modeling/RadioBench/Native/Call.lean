/-
The calls of the native radio library.

A call names a function of the library with its arguments.  The reply carries
the function's return code, what it stored through its output arguments and the
messages it sent to the registered callback meanwhile.  The library need not
store anything: an output it leaves alone is absent from the reply, and a caller
then sees the value it put there beforehand.  Nothing else is assumed, so any
reply may follow any call.
-/
import RadioBench.Radio.Streaming
import RadioBench.Radio.Tuning
import RadioBench.Prog

namespace RadioBench
namespace Native

/-- The library's own name for an open device. -/
structure DeviceRef where
  id : Nat
  deriving DecidableEq, Repr

/-- What an output argument holds when the library stored no device there. -/
def DeviceRef.null : DeviceRef := ⟨0⟩

/-- The description of a stream that is shared with the library while the stream
lives.  The library knows the stream by this block of memory, and blocks are told
apart by their serial numbers. -/
structure StreamBlock where
  serial : Nat
  /-- The library's own number for the stream, zero until it is set up. -/
  number : Nat
  deriving DecidableEq, Repr

/-- What the library is told about a stream when it is set up. -/
structure StreamSetup where
  isTx : Bool
  channel : UInt32
  fifoSize : UInt32
  throughputVsLatency : Float32
  dataFormat : UInt32
  linkFormat : UInt32

/-- Functions on a device as a whole. -/
inductive DeviceFunction
  | init
  | reset
  | getNumChannels (isTx : Bool)
  | loadConfig (path : String)
  | saveConfig (path : String)
  | setSampleRate (rate : Float) (oversample : Nat)
  | setSampleRateDir (isTx : Bool) (rate : Float) (oversample : Nat)
  | getLpfBwRange (isTx : Bool)
  | vctcxoWrite (value : UInt16)
  | vctcxoRead

def DeviceFunction.Out : DeviceFunction → Type
  | getLpfBwRange _ => Option Float × Option Float × Option Float
  | vctcxoRead => Option UInt16
  | init => Unit
  | reset => Unit
  | getNumChannels _ => Unit
  | loadConfig _ => Unit
  | saveConfig _ => Unit
  | setSampleRate .. => Unit
  | setSampleRateDir .. => Unit
  | vctcxoWrite _ => Unit

/-- Functions on one channel of a device. -/
inductive ChannelFunction
  | enable (on : Bool)
  | getSampleRate
  | setLoFrequency (frequency : Float)
  | getLoFrequency
  /-- Count the antennas, or store their names in a list with so much room. -/
  | getAntennaList (room : Option Nat)
  | setAntenna (index : Nat)
  | getAntenna
  | setLpfBw (bandwidth : Float)
  | getLpfBw
  | setLpf (on : Bool)
  | setGfirLpf (on : Bool) (bandwidth : Float)
  | setNormalizedGain (gain : Float)
  | getNormalizedGain
  | setGainDb (gain : UInt32)
  | getGainDb
  | calibrate (bandwidth : Float) (flags : UInt32)
  | setTestSignal (signal : UInt32) (dcI dcQ : Int16)
  | getTestSignal
  | setNcoFrequency (frequencies : NcoTable) (phaseOffset : Float)
  | getNcoFrequency
  | setNcoPhase (phases : NcoTable) (frequency : Float)
  | getNcoPhase
  | setNcoIndex (index : Nat) (downconvert : Bool)
  | getNcoIndex
  | setGfirCoeff (filter : UInt32) (coefficients : List Float)
  | getGfirCoeff (filter : UInt32)
  | setGfir (filter : UInt32) (on : Bool)

def ChannelFunction.Out : ChannelFunction → Type
  | getSampleRate => Option Float × Option Float
  | getLoFrequency => Option Float
  | getAntennaList _ => List (List UInt8)
  | getLpfBw => Option Float
  | getNormalizedGain => Option Float
  | getGainDb => Option UInt32
  | getTestSignal => Option UInt32
  | getNcoFrequency => List Float × Option Float
  | getNcoPhase => List Float × Option Float
  | getGfirCoeff _ => List Float
  | enable _ => Unit
  | setLoFrequency _ => Unit
  | setAntenna _ => Unit
  | getAntenna => Unit
  | setLpfBw _ => Unit
  | setLpf _ => Unit
  | setGfirLpf .. => Unit
  | setNormalizedGain _ => Unit
  | setGainDb _ => Unit
  | calibrate .. => Unit
  | setTestSignal .. => Unit
  | setNcoFrequency .. => Unit
  | setNcoPhase .. => Unit
  | setNcoIndex .. => Unit
  | getNcoIndex => Unit
  | setGfirCoeff .. => Unit
  | setGfir .. => Unit

/-- Functions on a stream that was set up. -/
inductive StreamFunction
  | start
  | stop
  /-- Read up to `count` samples, with or without metadata. -/
  | recv (count : Nat) (info : Option StreamMeta) (timeoutMillis : Nat)
  /-- Write samples, which are passed as their bytes. -/
  | send (bytes : Array UInt8) (count : Nat) (info : Option StreamMeta) (timeoutMillis : Nat)
  | getStatus

/-- What a read stored: bytes at the start of the buffer, and metadata. -/
structure RecvOut where
  data : Array UInt8
  info : Option StreamMeta

def StreamFunction.Out : StreamFunction → Type
  | recv .. => RecvOut
  | getStatus => Option StreamStatus
  | start => Unit
  | stop => Unit
  | send .. => Unit

inductive Call
  | getLibraryVersion
  | getLastErrorMessage
  /-- Register the callback for messages, or remove it. -/
  | registerLogHandler (on : Bool)
  /-- Count the devices, or store their names in a list with so much room. -/
  | getDeviceList (room : Option Nat)
  | openDevice (info : String)
  | closeDevice (device : DeviceRef)
  | device (device : DeviceRef) (function : DeviceFunction)
  /-- A channel is given by the flag of its direction and its index. -/
  | channel (device : DeviceRef) (isTx : Bool) (index : UInt32) (function : ChannelFunction)
  | setupStream (device : DeviceRef) (block : StreamBlock) (setup : StreamSetup)
  | destroyStream (device : DeviceRef) (block : StreamBlock)
  | stream (block : StreamBlock) (function : StreamFunction)

/-- A text is the bytes behind a pointer that may be null. -/
def Call.Out : Call → Type
  | getLibraryVersion => Option (List UInt8)
  | getLastErrorMessage => Option (List UInt8)
  | registerLogHandler _ => Unit
  | getDeviceList _ => List (List UInt8)
  | openDevice _ => Option DeviceRef
  | closeDevice _ => Unit
  | device _ f => f.Out
  | channel _ _ _ f => f.Out
  | setupStream .. => Option Nat
  | destroyStream .. => Unit
  | stream _ f => f.Out

/-- A message for the callback.  Its text is the bytes behind a pointer that may
be null. -/
structure Message where
  level : Int
  text : Option (List UInt8)
  deriving DecidableEq, Repr

structure Reply (α : Type) where
  /-- The return code; zero for a function that returns none. -/
  code : Int
  out : α
  messages : List Message

/-- The native library as a signature of operations. -/
def Library : Signature where
  Op := Call
  Reply c := Reply c.Out

end Native
end RadioBench
