/-
The state of a simulated radio driver.

The simulator lists a fixed set of devices and keeps what is set on them.  Every
call is recorded by name.  A name can be armed, and then the next call of that
name fails.  Reads move a clock by hand, so that timed loops take no time.
-/
import RadioBench.Request
import RadioBench.Table

namespace RadioBench
namespace Simulator

/-- What is set on one channel. -/
structure ChannelState where
  enabled : Bool
  loFrequency : Float
  /-- The antenna that was chosen last, zero as long as none was. -/
  antenna : Nat
  lpfBw : Float
  /-- The gain, between zero and one. -/
  gain : Float
  testSignal : TestSignal
  ncoFrequencies : NcoFrequencies
  ncoPhases : NcoPhases
  ncoIndex : Nat
  ncoDownconvert : Bool
  /-- The coefficients that were loaded last into each filter. -/
  coefficients : Gfir → List Float
  filterOn : Gfir → Bool

/-- A channel on which nothing was set yet. -/
def ChannelState.fresh : ChannelState where
  enabled := false
  loFrequency := 0
  antenna := 0
  lpfBw := 0
  gain := 0
  testSignal := .none
  ncoFrequencies := .zeros
  ncoPhases := .zeros
  ncoIndex := 0
  ncoDownconvert := false
  coefficients := fun _ => []
  filterOn := fun _ => false

structure StreamState where
  config : StreamConfig
  running : Bool
  /-- Samples read so far. -/
  received : UInt64

structure State where
  /-- The devices that the driver lists. -/
  listed : List String
  clock : Duration
  journal : Journal
  /-- The names of the calls made so far, oldest first. -/
  calls : Array String
  /-- The names whose next call fails. -/
  armed : List String
  handler : Option LogHandler
  /-- Device and stream handles are numbered together and never reused. -/
  nextHandle : Nat
  devices : List DeviceHandle
  streams : Table StreamHandle StreamState
  channels : Table (DeviceHandle × ChannelId) ChannelState
  sampleRate : Float
  oversample : Nat
  /-- The files to which a configuration was saved, oldest first. -/
  saved : Array PathName
  /-- The trim of each device's reference oscillator, where one was written. -/
  trims : Table DeviceHandle UInt16
  /-- The time that a successful read takes. -/
  readLatency : Duration
  /-- A starved radio lets every read wait until its timeout. -/
  starved : Bool

namespace State

/-- A simulator that lists the given devices, with its clock at zero. -/
def start (listed : List String) : State where
  listed := listed
  clock := .zero
  journal := #[]
  calls := #[]
  armed := []
  handler := none
  nextHandle := 0
  devices := []
  streams := .empty
  channels := .empty
  sampleRate := 30.72e6
  oversample := 1
  saved := #[]
  trims := .empty
  readLatency := .ofMillis 1
  starved := false

/-! ## Controls -/

/-- Let the next call with the given name fail. -/
def arm (s : State) (name : String) : State :=
  if name ∈ s.armed then s else { s with armed := name :: s.armed }

def setReadLatency (s : State) (latency : Duration) : State := { s with readLatency := latency }

def setStarved (s : State) (on : Bool) : State := { s with starved := on }

def note (s : State) (e : Entry) : State := { s with journal := s.journal.push e }

/-- Move the clock, unless it cannot go that far. -/
def advance (s : State) (span : Duration) : Except Error Unit × State :=
  match s.clock.add? span with
  | none => (.error .clockOverflow, s)
  | some later => (.ok (), { s with clock := later })

/-! ## Inspections -/

/-- How often a call with the given name was made. -/
def count (s : State) (name : String) : Nat := s.calls.count name

def liveStreams (s : State) : List StreamHandle := s.streams.keys

def handlerRegistered (s : State) : Bool := s.handler.isSome

/-- What is set on a channel.  Nothing is, as long as no call has named it. -/
def channelState (s : State) (h : DeviceHandle) (ch : ChannelId) : ChannelState :=
  (s.channels.find? (h, ch)).getD .fresh

def channelEnabled (s : State) (h : DeviceHandle) (ch : ChannelId) : Bool :=
  (s.channelState h ch).enabled

def filterEnabled (s : State) (h : DeviceHandle) (ch : ChannelId) (filter : Gfir) : Bool :=
  (s.channelState h ch).filterOn filter

def downconverts (s : State) (h : DeviceHandle) (ch : ChannelId) : Bool :=
  (s.channelState h ch).ncoDownconvert

end State
end Simulator
end RadioBench
