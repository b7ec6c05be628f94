/-
A driver on top of the native library.

Handles are indices into two tables, one for devices and one for streams, and a
released handle is used again.  A request is checked in a fixed order: its text
arguments, its other arguments, its handle.  Only then the library is called.  A
function that reports success by the code zero has failed with any other code; a
function that returns a count or an index has failed with a negative one.  The
text of a failure is the library's last error message.

Messages of the library go to the handler that was registered last, whichever
driver it was registered through, because the library knows only one callback.
-/
import RadioBench.Host
import RadioBench.Native.Call
import RadioBench.Native.Slots
import RadioBench.Text.CString

namespace RadioBench
namespace Native

/-- The native library, a clock, a journal and a place to write. -/
def Machine : Signature := Library.sum Surroundings

/-- A stream that is set up. -/
structure StreamSlot where
  /-- The device it was set up on. -/
  device : DeviceHandle
  format : DataFormat
  running : Bool
  block : StreamBlock

structure Binding where
  devices : Slots DeviceRef
  streams : Slots StreamSlot
  /-- The handler for the library's messages. -/
  handler : Option LogHandler
  /-- The number of stream blocks made so far. -/
  blocks : Nat

/-- A program on the library that may fail. -/
abbrev Action : Type → Type := ExceptT Error (Prog Machine)

/-- The entries of a device list are this wide. -/
def deviceNameWidth : Nat := 256

/-- The entries of an antenna list are this wide. -/
def antennaNameWidth : Nat := 16

/-- Room for devices that appear after they were counted.  The library stores
every device it finds, however small the list. -/
def deviceListHeadroom : Nat := 16

/-- The whole milliseconds of a timeout, as many as the library can count. -/
def timeoutMillis (d : Duration) : Nat := min d.toMillis (UInt32.size - 1)

/-- The text that the library takes for a path: UTF-8 without a zero byte. -/
def pathText? (p : PathName) : Option String :=
  if 0 ∈ p.bytes then none else Text.Utf8.strict? p.bytes

/-- The values stored from the start of a table, and the old ones behind them. -/
def stored (old : NcoTable) (new : List Float) : NcoTable :=
  Vector.ofFn fun i => new.getD i.val (old.get i)

/-- The first `count` values of a table of zeros after the library stored some. -/
def coefficientsOf (count : Nat) (new : List Float) : List Float :=
  (List.range count).map fun i => new.getD i 0

/-- The first `count` names of a list with zeroed entries after the library
stored some. -/
def namesOf (width count : Nat) (entries : List (List UInt8)) : List String :=
  (List.range count).map fun i => Text.CString.read ((entries.getD i []).take width)

namespace Binding

/-- A driver that holds nothing. -/
def fresh : Binding where
  devices := .empty
  streams := .empty
  handler := none
  blocks := 0

/-- Pass a message on.  One without a text, or without a handler, is lost. -/
def deliver (b : Binding) (m : Message) : Prog Machine Unit :=
  match b.handler, m.text with
  | some h, some bytes =>
    Prog.op (S := Machine)
      (.inr (.note (h.deliver (.ofCode m.level) (Text.CString.read bytes))))
  | _, _ => pure ()

/-- Call the library and pass its messages on. -/
def call (b : Binding) (c : Call) : Prog Machine (Reply c.Out) := do
  let r : Reply c.Out ← Prog.op (S := Machine) (.inl c)
  r.messages.forM b.deliver
  pure r

/-- The library's last error message, as the failure of an operation. -/
def failure (b : Binding) (operation : String) : Prog Machine Error := do
  let r ← b.call .getLastErrorMessage
  pure (.failed operation (Text.CString.read? r.out))

/-- Call a function that reports success by the code zero. -/
def succeed (b : Binding) (operation : String) (c : Call) : Action c.Out :=
  ExceptT.mk do
    let r ← b.call c
    if r.code = 0 then pure (.ok r.out)
    else
      let e ← b.failure operation
      pure (.error e)

/-- Call a function that returns a count or an index. -/
def counting (b : Binding) (operation : String) (c : Call) : Action (Nat × c.Out) :=
  ExceptT.mk do
    let r ← b.call c
    if r.code < 0 then
      let e ← b.failure operation
      pure (.error e)
    else pure (.ok (r.code.toNat, r.out))

def device (b : Binding) (h : DeviceHandle) : Action DeviceRef :=
  match b.devices.get? h.index with
  | some d => pure d
  | none => throw .invalidHandle

def stream (b : Binding) (h : StreamHandle) : Action StreamSlot :=
  match b.streams.get? h.index with
  | some s => pure s
  | none => throw .invalidHandle

def path (p : PathName) : Action String :=
  match pathText? p with
  | some text => pure text
  | none => throw .invalidString

/-- The names that a filled list holds, or a failure when the list was too small
for the count the library gave. -/
def checkedNames (operation : String) (width room count : Nat) (entries : List (List UInt8)) :
    Action (List String) :=
  if room < count then throw (.failed operation "list grew while it was being read")
  else pure (namesOf width count entries)

/-- The devices are counted first.  When there are some, they are listed with
room to spare. -/
def deviceList (b : Binding) : Action (List String) := do
  let (n, _) ← b.counting "device_list" (.getDeviceList none)
  if n = 0 then pure []
  else
    let room := n + deviceListHeadroom
    let (m, entries) ← b.counting "device_list" (.getDeviceList (some room))
    checkedNames "device_list" deviceNameWidth room m entries

/-- The antennas are counted first, and then listed with room for so many. -/
def antennaList (b : Binding) (d : DeviceRef) (ch : ChannelId) : Action (List String) := do
  let (n, _) ← b.counting "antenna_list"
    (.channel d ch.direction.isTx ch.index (.getAntennaList none))
  if n = 0 then pure []
  else
    let (m, entries) ← b.counting "antenna_list"
      (.channel d ch.direction.isTx ch.index (.getAntennaList (some n)))
    checkedNames "antenna_list" antennaNameWidth n m entries

def deviceCall (b : Binding) (h : DeviceHandle) : (c : DeviceCall) → Action c.Result
  | .init => do
    b.succeed "init" (.device (← b.device h) .init)
  | .reset => do
    b.succeed "reset" (.device (← b.device h) .reset)
  | .numChannels dir => do
    let (n, _) ← b.counting "num_channels" (.device (← b.device h) (.getNumChannels dir.isTx))
    pure (n : Nat)
  | .loadConfig p => do
    let text ← path p
    b.succeed "load_config" (.device (← b.device h) (.loadConfig text))
  | .saveConfig p => do
    let text ← path p
    b.succeed "save_config" (.device (← b.device h) (.saveConfig text))
  | .setSampleRate rate oversample => do
    b.succeed "set_sample_rate" (.device (← b.device h) (.setSampleRate rate oversample))
  | .setSampleRateDir dir rate oversample => do
    b.succeed "set_sample_rate_dir"
      (.device (← b.device h) (.setSampleRateDir dir.isTx rate oversample))
  | .lpfBwRange dir => do
    let (min, max, step) ←
      b.succeed "lpf_bw_range" (.device (← b.device h) (.getLpfBwRange dir.isTx))
    pure (⟨min.getD 0, max.getD 0, step.getD 0⟩ : Range)
  | .vctcxoWrite value => do
    b.succeed "vctcxo_write" (.device (← b.device h) (.vctcxoWrite value))
  | .vctcxoRead => do
    let value : Option UInt16 ← b.succeed "vctcxo_read" (.device (← b.device h) .vctcxoRead)
    pure (value.getD 0 : UInt16)

/-- Call a function on a channel that reports success by the code zero. -/
def onChannel (b : Binding) (operation : String) (h : DeviceHandle) (ch : ChannelId)
    (f : ChannelFunction) : Action f.Out := do
  b.succeed operation (.channel (← b.device h) ch.direction.isTx ch.index f)

/-- Call a function on a channel that returns an index. -/
def indexOnChannel (b : Binding) (operation : String) (h : DeviceHandle) (ch : ChannelId)
    (f : ChannelFunction) : Action Nat := do
  let (n, _) ← b.counting operation (.channel (← b.device h) ch.direction.isTx ch.index f)
  pure n

def channelCall (b : Binding) (h : DeviceHandle) (ch : ChannelId) :
    (c : ChannelCall) → Action c.Result
  | .enable on => b.onChannel "enable_channel" h ch (.enable on)
  | .sampleRate => do
    let (host, rf) ← b.onChannel "sample_rate" h ch .getSampleRate
    pure (⟨host.getD 0, rf.getD 0⟩ : SampleRate)
  | .setLoFrequency f => b.onChannel "set_lo_frequency" h ch (.setLoFrequency f)
  | .loFrequency => do
    let f : Option Float ← b.onChannel "lo_frequency" h ch .getLoFrequency
    pure (f.getD 0 : Float)
  | .antennaList => do
    b.antennaList (← b.device h) ch
  | .setAntenna index => b.onChannel "set_antenna" h ch (.setAntenna index)
  | .antenna => b.indexOnChannel "antenna" h ch .getAntenna
  | .setLpfBw bandwidth => b.onChannel "set_lpf_bw" h ch (.setLpfBw bandwidth)
  | .lpfBw => do
    let f : Option Float ← b.onChannel "lpf_bw" h ch .getLpfBw
    pure (f.getD 0 : Float)
  | .setLpf on => b.onChannel "set_lpf" h ch (.setLpf on)
  | .setGfirLpf on bandwidth => b.onChannel "set_gfir_lpf" h ch (.setGfirLpf on bandwidth)
  | .setNormalizedGain gain => b.onChannel "set_normalized_gain" h ch (.setNormalizedGain gain)
  | .normalizedGain => do
    let g : Option Float ← b.onChannel "normalized_gain" h ch .getNormalizedGain
    pure (g.getD 0 : Float)
  | .setGainDb gain => b.onChannel "set_gain_db" h ch (.setGainDb gain)
  | .gainDb => do
    let g : Option UInt32 ← b.onChannel "gain_db" h ch .getGainDb
    pure (g.getD 0 : UInt32)
  | .calibrate bandwidth flags => b.onChannel "calibrate" h ch (.calibrate bandwidth flags)
  | .setTestSignal signal dcI dcQ =>
    b.onChannel "set_test_signal" h ch (.setTestSignal signal.code dcI dcQ)
  | .testSignal => do
    let code : Option UInt32 ← b.onChannel "test_signal" h ch .getTestSignal
    pure (TestSignal.ofCode (code.getD TestSignal.none.code))
  | .setNcoFrequency table =>
    b.onChannel "set_nco_frequency" h ch (.setNcoFrequency table.frequencies table.phaseOffset)
  | .ncoFrequency => do
    let (new, offset) ← b.onChannel "nco_frequency" h ch .getNcoFrequency
    pure (⟨stored .zeros new, offset.getD 0⟩ : NcoFrequencies)
  | .setNcoPhase table =>
    b.onChannel "set_nco_phase" h ch (.setNcoPhase table.phases table.frequency)
  | .ncoPhase => do
    let (new, frequency) ← b.onChannel "nco_phase" h ch .getNcoPhase
    pure (⟨stored .zeros new, frequency.getD 0⟩ : NcoPhases)
  | .setNcoIndex index downconvert =>
    if ncoTableSize ≤ index then throw (.invalidArgument "NCO index out of range")
    else b.onChannel "set_nco_index" h ch (.setNcoIndex index downconvert)
  | .ncoIndex => b.indexOnChannel "nco_index" h ch .getNcoIndex
  | .setGfirCoeff filter values =>
    b.onChannel "set_gfir_coeff" h ch (.setGfirCoeff filter.code values)
  | .gfirCoeff filter => do
    let new ← b.onChannel "gfir_coeff" h ch (.getGfirCoeff filter.code)
    pure (coefficientsOf filter.coeffCount new)
  | .setGfir filter on => b.onChannel "set_gfir" h ch (.setGfir filter.code on)

/-- What came of an action, and the driver afterwards. -/
abbrev Outcome (α : Type) : Type := Except Error α × Binding

/-- An action that leaves the driver as it is. -/
def keep {α : Type} (b : Binding) (p : Action α) : Prog Machine (Outcome α) := do
  let r ← p.run
  pure (r, b)

/-- An action that changes the driver when it succeeds. -/
def commit {α β : Type} (b : Binding) (p : Action α) (f : α → β × Binding) :
    Prog Machine (Outcome β) := do
  match ← p.run with
  | .ok a =>
    let (r, b) := f a
    pure (.ok r, b)
  | .error e => pure (.error e, b)

def openDevice (b : Binding) (info : String) : Prog Machine (Outcome DeviceHandle) :=
  if 0 ∈ Text.Utf8.encode info then pure (.error .invalidString, b)
  else
    b.commit (b.succeed "open" (.openDevice info)) fun d =>
      let (i, devices) := b.devices.insert (Option.getD d .null)
      (⟨i⟩, { b with devices := devices })

/-- The slot is free before the library is asked, whatever it then answers. -/
def closeDevice (b : Binding) (h : DeviceHandle) : Prog Machine (Outcome Unit) :=
  match b.devices.get? h.index with
  | none => pure (.error .invalidHandle, b)
  | some d =>
    let b := { b with devices := b.devices.erase h.index }
    b.keep (b.succeed "close" (.closeDevice d))

def setupOf (config : StreamConfig) : StreamSetup where
  isTx := config.channel.direction.isTx
  channel := config.channel.index
  fifoSize := config.fifoSize
  throughputVsLatency := config.throughputVsLatency
  dataFormat := config.dataFormat.code
  linkFormat := config.linkFormat.code

def setupStream (b : Binding) (h : DeviceHandle) (config : StreamConfig) :
    Prog Machine (Outcome StreamHandle) :=
  match b.devices.get? h.index with
  | none => pure (.error .invalidHandle, b)
  | some d =>
    let block : StreamBlock := { serial := b.blocks, number := 0 }
    let b := { b with blocks := b.blocks + 1 }
    b.commit (b.succeed "setup_stream" (.setupStream d block (setupOf config))) fun number =>
      let slot : StreamSlot :=
        { device := h
          format := config.dataFormat
          running := false
          block := { block with number := Option.getD number 0 } }
      let (i, streams) := b.streams.insert slot
      (⟨i⟩, { b with streams := streams })

/-- The slot is free before the library is asked, whatever it then answers. -/
def destroyStream (b : Binding) (h : DeviceHandle) (n : StreamHandle) :
    Prog Machine (Outcome Unit) :=
  match b.devices.get? h.index with
  | none => pure (.error .invalidHandle, b)
  | some d =>
    match b.streams.get? n.index with
    | none => pure (.error .invalidHandle, b)
    | some slot =>
      let b := { b with streams := b.streams.erase n.index }
      b.keep (b.succeed "destroy_stream" (.destroyStream d slot.block))

def setRunning (b : Binding) (n : StreamHandle) (running : Bool) : Binding :=
  { b with streams := b.streams.modify n.index fun s => { s with running := running } }

def startStream (b : Binding) (n : StreamHandle) : Prog Machine (Outcome Unit) :=
  b.commit (do b.succeed "start_stream" (.stream (← b.stream n).block .start)) fun () =>
    ((), b.setRunning n true)

def stopStream (b : Binding) (n : StreamHandle) : Prog Machine (Outcome Unit) :=
  b.commit (do b.succeed "stop_stream" (.stream (← b.stream n).block .stop)) fun () =>
    ((), b.setRunning n false)

/-- The library stores into the buffer whatever it then returns.  The time stamp
is passed on only when the read succeeded, and the flags never are. -/
def recvStream (b : Binding) (n : StreamHandle) (buffer : SampleBuffer) (info : Option StreamMeta)
    (timeout : Duration) : Prog Machine Received :=
  let refused (e : Error) : Received := { result := .error e, buffer := buffer, info := info }
  match b.streams.get? n.index with
  | none => pure (refused .invalidHandle)
  | some slot =>
    if buffer.format ≠ slot.format then
      pure (refused (.failed "recv_stream" "buffer format does not match stream"))
    else do
      let count := buffer.capacity
      let r ← b.call (.stream slot.block (.recv count info (timeoutMillis timeout)))
      let out : RecvOut := r.out
      let filled := buffer.store count out.data
      if r.code < 0 then
        let e ← b.failure "recv_stream"
        pure { result := .error e, buffer := filled, info := info }
      else
        let stamped := info.map fun m =>
          { m with timestamp := (out.info.map (·.timestamp)).getD m.timestamp }
        pure { result := .ok r.code.toNat, buffer := filled, info := stamped }

/-- No more samples are written than the buffer holds. -/
def sendStream (b : Binding) (n : StreamHandle) (buffer : SampleBuffer) (count : Nat)
    (info : Option StreamMeta) (timeout : Duration) : Action Nat := do
  let slot ← b.stream n
  if buffer.format ≠ slot.format then
    throw (.failed "send_stream" "buffer format does not match stream")
  let count := min count buffer.capacity
  let (n, _) ← b.counting "send_stream"
    (.stream slot.block (.send (buffer.leading count) count info (timeoutMillis timeout)))
  pure n

def streamStatus (b : Binding) (n : StreamHandle) : Action StreamStatus := do
  let slot ← b.stream n
  let status : Option StreamStatus ← b.succeed "stream_status" (.stream slot.block .getStatus)
  pure (status.getD .zeros)

/-- The handler is there before the library can send messages to it, and goes only
when the library no longer can. -/
def registerLog (b : Binding) : Option LogHandler → Prog Machine Binding
  | some h => do
    let b := { b with handler := some h }
    let _ ← b.call (.registerLogHandler true)
    pure b
  | none => do
    let _ ← b.call (.registerLogHandler false)
    pure { b with handler := none }

/-- Carry out a request. -/
def perform (b : Binding) : (r : Request) → Prog Machine (r.Answer × Binding)
  | .libraryVersion => do
    let r ← b.call .getLibraryVersion
    pure (Text.CString.read? r.out, b)
  | .registerLog handler => do
    let b ← b.registerLog handler
    pure ((), b)
  | .deviceList => b.keep b.deviceList
  | .openDevice info => b.openDevice info
  | .closeDevice h => b.closeDevice h
  | .device h call => b.keep (b.deviceCall h call)
  | .channel h ch call => b.keep (b.channelCall h ch call)
  | .setupStream h config => b.setupStream h config
  | .destroyStream h n => b.destroyStream h n
  | .startStream n => b.startStream n
  | .stopStream n => b.stopStream n
  | .recvStream n buffer info timeout => do
    let r ← b.recvStream n buffer info timeout
    pure (r, b)
  | .sendStream n buffer count info timeout => b.keep (b.sendStream n buffer count info timeout)
  | .streamStatus n => b.keep (b.streamStatus n)

/-- Carry out an operation of a host.  What is not for the driver is passed on. -/
def operation : (o : Host.Op) → Binding → Prog Machine (Host.Reply o × Binding)
  | .inl r, b => b.perform r
  | .inr o, b => do
    let r ← Prog.op (S := Machine) (.inr o)
    pure (r, b)

/-- A program on a host, carried out on the library. -/
def host {α : Type} (b : Binding) (p : Prog Host α) : Prog Machine (α × Binding) :=
  p.interpretWith (S := Host) (T := Machine) operation b

/-! ## Giving everything back -/

/-- Log a failure and go on. -/
def warnOf (source : String) (p : Action Unit) : Prog Machine Unit := do
  match ← p.run with
  | .ok () => pure ()
  | .error e => Prog.op (S := Machine) (.inr (.note (.warn (source ++ e.message))))

/-- Stop a stream that is left over if it runs, then destroy it.  A stream whose
device is gone cannot be destroyed and is only forgotten. -/
def releaseStream (b : Binding) (i : Nat) (slot : StreamSlot) : Prog Machine Unit :=
  match b.devices.get? slot.device.index with
  | none => pure ()
  | some d => do
    let source := "stream " ++ toString i ++ ": "
    if slot.running then
      warnOf source (b.succeed "stop_stream" (.stream slot.block .stop))
    warnOf source (b.succeed "destroy_stream" (.destroyStream d slot.block))

/-- Give everything back: all streams, then all devices, in the order of their
handles. -/
def release (b : Binding) : Prog Machine Unit := do
  b.streams.toList.forM fun entry => b.releaseStream entry.1 entry.2
  b.devices.toList.forM fun entry => warnOf "" (b.succeed "close" (.closeDevice entry.2))

/-- A driver that starts with nothing serves a program, and then is released. -/
def lifetime {α : Type} (p : Prog Host α) : Prog Machine α := do
  let (a, b) ← fresh.host p
  b.release
  pure a

end Binding
end Native
end RadioBench
