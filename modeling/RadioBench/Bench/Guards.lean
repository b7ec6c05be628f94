/-
Commands on guards that are kept under names.

A bench keeps log scopes, devices and streams that have not been given back yet,
newest first, each under a name.  A name that is given twice stands for the newest
guard that has it.  A command may name one that is not there, and then nothing
happens.  A device cannot be given back as long as a stream set up on it is there.
At the end everything left is dropped: streams, then devices, then log scopes, each
kind newest first.
-/
import RadioBench.SmokeTest.Session

namespace RadioBench
namespace Bench

/-- Where the buffer of a read or a write comes from. -/
inductive BufferSource
  | given (buffer : SampleBuffer)
  /-- A zeroed buffer in the stream's format. -/
  | zeros (samples : Nat)

def BufferSource.get (source : BufferSource) (s : Stream) : SampleBuffer :=
  match source with
  | given b => b
  | zeros samples => s.buffer samples

inductive Command
  | enterLog (handler : LogHandler) (name : String)
  | leaveLog (name : String)
  | openDevice (info name : String)
  | closeDevice (name : String)
  | dropDevice (name : String)
  | deviceInfo (name : String)
  | deviceHandle (name : String)
  | device (name : String) (call : DeviceCall)
  | channelId (name : String) (channel : ChannelId)
  | channel (name : String) (channel : ChannelId) (call : ChannelCall)
  | configure (name : String) (settings : SmokeTest.Settings)
  /-- Set a stream up on a device. -/
  | setupStream (device : String) (config : StreamConfig) (name : String)
  | streamConfig (name : String)
  | streamHandle (name : String)
  | isRunning (name : String)
  | start (name : String)
  | stop (name : String)
  | recv (name : String) (buffer : BufferSource) (info : Option StreamMeta) (timeout : Duration)
  | send (name : String) (buffer : BufferSource) (count : Nat) (info : Option StreamMeta)
      (timeout : Duration)
  | status (name : String)
  | receiveFor (name : String) (buffer : BufferSource) (timing : Timing)
  | destroyStream (name : String)
  | dropStream (name : String)

def Command.Result : Command → Type
  | enterLog .. => Unit
  | leaveLog _ => Unit
  | openDevice .. => Except Error DeviceHandle
  | closeDevice _ => Except Error Unit
  | dropDevice _ => Unit
  | deviceInfo _ => String
  | deviceHandle _ => DeviceHandle
  | device _ call => Except Error call.Result
  | channelId .. => ChannelId
  | channel _ _ call => Except Error call.Result
  | configure .. => Except Error SmokeTest.Applied
  | setupStream .. => Except Error StreamHandle
  | streamConfig _ => StreamConfig
  | streamHandle _ => StreamHandle
  | isRunning _ => Bool
  | start _ => Except Error Unit
  | stop _ => Except Error Unit
  | recv .. => Received
  | send .. => Except Error Nat
  | status _ => Except Error StreamStatus
  | receiveFor .. => Except Error Report
  | destroyStream _ => Except Error Unit
  | dropStream _ => Unit

/-- Why a command was not carried out. -/
inductive Refusal
  /-- Nothing is kept under the name. -/
  | noSuchName
  /-- A stream set up on the device is still there. -/
  | borrowed
  deriving DecidableEq, Repr

/-- A stream and the name of the device it was set up on. -/
structure NamedStream where
  device : String
  stream : Stream

/-- The guards that have not been given back, newest first. -/
structure Guards where
  scopes : List String
  devices : List (String × Device)
  streams : List (String × NamedStream)

namespace Guards

def none : Guards := { scopes := [], devices := [], streams := [] }

def device? (g : Guards) (name : String) : Option Device := g.devices.lookup name

def stream? (g : Guards) (name : String) : Option NamedStream := g.streams.lookup name

/-- Whether a stream set up on the device is there. -/
def borrowed (g : Guards) (device : String) : Bool :=
  g.streams.any fun entry => entry.2.device == device

def addDevice (g : Guards) (name : String) (d : Device) : Guards :=
  { g with devices := (name, d) :: g.devices }

def removeDevice (g : Guards) (name : String) : Guards :=
  { g with devices := g.devices.eraseP (·.1 == name) }

def addStream (g : Guards) (name device : String) (s : Stream) : Guards :=
  { g with streams := (name, ⟨device, s⟩) :: g.streams }

def setStream (g : Guards) (name : String) (s : Stream) : Guards :=
  { g with streams := replaced g.streams }
where
  replaced : List (String × NamedStream) → List (String × NamedStream)
    | [] => []
    | entry :: rest =>
      if entry.1 == name then (name, { entry.2 with stream := s }) :: rest
      else entry :: replaced rest

def removeStream (g : Guards) (name : String) : Guards :=
  { g with streams := g.streams.eraseP (·.1 == name) }

/-- What came of a command, and the guards that are there afterwards. -/
abbrev Outcome (α : Type) : Type := Except Refusal α × Guards

def refuse {α : Type} (g : Guards) (r : Refusal) : Prog Host (Outcome α) := pure (.error r, g)

/-- Do something with a device that is there. -/
def withDevice {α : Type} (g : Guards) (name : String) (f : Device → Prog Host (Outcome α)) :
    Prog Host (Outcome α) :=
  match g.device? name with
  | .none => g.refuse .noSuchName
  | some d => f d

/-- Do something with a device that can be given back, and forget it. -/
def giveBack {α : Type} (g : Guards) (name : String) (f : Device → Prog Host α) :
    Prog Host (Outcome α) :=
  g.withDevice name fun d =>
    if g.borrowed name then g.refuse .borrowed
    else do
      let a ← f d
      pure (.ok a, g.removeDevice name)

/-- Do something with a stream that is there. -/
def withStream {α : Type} (g : Guards) (name : String) (f : Stream → Prog Host (Outcome α)) :
    Prog Host (Outcome α) :=
  match g.stream? name with
  | .none => g.refuse .noSuchName
  | some n => f n.stream

/-- Look at something without changing the guards. -/
def look {α : Type} (g : Guards) (p : Prog Host α) : Prog Host (Outcome α) := do
  let a ← p
  pure (.ok a, g)

/-- Change the stream kept under a name, unless that fails. -/
def change (g : Guards) (name : String) (f : Stream → Attempt Stream) :
    Prog Host (Outcome (Except Error Unit)) :=
  g.withStream name fun s => do
    match ← (f s).run with
    | .ok s => pure (.ok (.ok ()), g.setStream name s)
    | .error e => pure (.ok (.error e), g)

/-- Carry out a command.  A timed loop may make as many reads as the budget. -/
def execute (budget : Nat) (g : Guards) : (c : Command) → Prog Host (Outcome c.Result)
  | .enterLog handler name => do
    LogScope.enter handler
    pure (.ok (), { g with scopes := name :: g.scopes })
  | .leaveLog name =>
    if name ∈ g.scopes then do
      LogScope.leave
      pure (.ok (), { g with scopes := g.scopes.erase name })
    else g.refuse .noSuchName
  | .openDevice info name => do
    match ← (Device.opened info).run with
    | .ok d => pure (.ok (.ok d.handle), g.addDevice name d)
    | .error e => pure (.ok (.error e), g)
  | .closeDevice name => g.giveBack name fun d => d.close.run
  | .dropDevice name => g.giveBack name fun d => d.drop
  | .deviceInfo name => g.withDevice name fun d => pure (.ok d.info, g)
  | .deviceHandle name => g.withDevice name fun d => pure (.ok d.handle, g)
  | .device name call => g.withDevice name fun d => g.look (d.call call).run
  | .channelId name ch => g.withDevice name fun _ => pure (.ok ch, g)
  | .channel name ch call => g.withDevice name fun d => g.look (d.channel ch call).run
  | .configure name settings => g.withDevice name fun d =>
      g.look (SmokeTest.configure d settings).run
  | .setupStream device config name => g.withDevice device fun d => do
      match ← (Stream.setup d config).run with
      | .ok s => pure (.ok (.ok s.handle), g.addStream name device s)
      | .error e => pure (.ok (.error e), g)
  | .streamConfig name => g.withStream name fun s => pure (.ok s.config, g)
  | .streamHandle name => g.withStream name fun s => pure (.ok s.handle, g)
  | .isRunning name => g.withStream name fun s => pure (.ok s.running, g)
  | .start name => g.change name Stream.start
  | .stop name => g.change name Stream.stop
  | .recv name buffer info timeout => g.withStream name fun s =>
      g.look (s.recv (buffer.get s) info timeout)
  | .send name buffer count info timeout => g.withStream name fun s =>
      g.look (s.send (buffer.get s) count info timeout).run
  | .status name => g.withStream name fun s => g.look s.status.run
  | .receiveFor name buffer timing => g.withStream name fun s =>
      g.look (s.receiveFor budget (buffer.get s) timing).run
  | .destroyStream name => g.withStream name fun s => do
      let r ← s.destroy.run
      pure (.ok r, g.removeStream name)
  | .dropStream name => g.withStream name fun s => do
      s.drop
      pure (.ok (), g.removeStream name)

/-- Drop everything that is left. -/
def finish (g : Guards) : Prog Host Unit := do
  g.streams.forM fun entry => entry.2.stream.drop
  g.devices.forM fun entry => entry.2.drop
  g.scopes.forM fun _ => LogScope.leave

end Guards
end Bench
end RadioBench
