/-
How the simulator carries out requests.

Every request but the query for the version is recorded first.  An armed name
then fails the request before anything else is looked at, and the handler, if
there is one, is told.  After that a device request needs an open device and a
stream request needs a live stream.  A request that fails leaves devices,
streams, settings and the clock as they were.
-/
import RadioBench.Simulator.State

namespace RadioBench
namespace Simulator

/-- A step of the simulator that may fail. -/
abbrev Step (α : Type) : Type := State → Except Error α × State

namespace Step

def done {α : Type} (a : α) : Step α := fun s => (.ok a, s)

def fail {α : Type} (e : Error) : Step α := fun s => (.error e, s)

/-- Record a call and fail it if its name is armed, which disarms it. -/
def attempt {α : Type} (name : String) (body : Step α) : Step α := fun s =>
  let s := { s with calls := s.calls.push name }
  if name ∈ s.armed then
    let message := name ++ " rejected by device"
    let s := { s with armed := s.armed.filter (· ≠ name) }
    let s := match s.handler with
      | none => s
      | some h => s.note (h.deliver .error message)
    (.error (.failed name message), s)
  else body s

/-- A call on an open device. -/
def onDevice {α : Type} (name : String) (h : DeviceHandle) (body : Step α) : Step α :=
  attempt name fun s => if h ∈ s.devices then body s else (.error .invalidHandle, s)

/-- A call that looks at or changes what is set on a channel. -/
def onChannel {α : Type} (name : String) (h : DeviceHandle) (ch : ChannelId)
    (body : ChannelState → Except Error α × ChannelState) : Step α :=
  onDevice name h fun s =>
    let (r, c) := body (s.channelState h ch)
    (r, { s with channels := s.channels.set (h, ch) c })

/-- A call on a live stream. -/
def onStream {α : Type} (name : String) (h : StreamHandle) (body : StreamState → Step α) :
    Step α :=
  attempt name fun s =>
    match s.streams.find? h with
    | none => (.error .invalidHandle, s)
    | some st => body st s

end Step

/-- The antennas of every channel. -/
def antennas : List String := ["NONE", "LNAH", "LNAL", "LNAW"]

/-- The highest gain, in decibels. -/
def maxGainDb : Float := 73

/-- The trim of a reference oscillator that was never written: mid-scale. -/
def defaultTrim : UInt16 := 0x8000

namespace ChannelState

def put (c : ChannelState) : Except Error Unit × ChannelState := (.ok (), c)

def get {α : Type} (f : ChannelState → α) (c : ChannelState) : Except Error α × ChannelState :=
  (.ok (f c), c)

/-- The first antenna is chosen by the driver until it is told otherwise. -/
def shownAntenna (c : ChannelState) : Nat := if c.antenna = 0 then 1 else c.antenna

/-- The gain in decibels, rounded to the nearest whole number. -/
def gainDb (c : ChannelState) : UInt32 := (c.gain * maxGainDb).round.toUInt32

/-- The loaded coefficients of a filter, filled up with zeros. -/
def shownCoefficients (c : ChannelState) (filter : Gfir) : List Float :=
  let loaded := c.coefficients filter
  loaded ++ List.replicate (filter.coeffCount - loaded.length) 0

def load (c : ChannelState) (filter : Gfir) (values : List Float) : ChannelState :=
  { c with coefficients := fun g => if g = filter then values else c.coefficients g }

def switch (c : ChannelState) (filter : Gfir) (on : Bool) : ChannelState :=
  { c with filterOn := fun g => if g = filter then on else c.filterOn g }

end ChannelState

namespace State

/-- Forget what is set on the channels of a device. -/
def forgetChannels (s : State) (h : DeviceHandle) : State :=
  { s with channels := s.channels.keep fun k => decide (k.1 ≠ h) }

def putStream (s : State) (h : StreamHandle) (st : StreamState) : State :=
  { s with streams := s.streams.set h st }

/-- Set the one sample rate that all devices share. -/
def setRate (s : State) (rate : Float) (oversample : Nat) : State :=
  { s with sampleRate := rate, oversample := max oversample 1 }

end State

open Step

def deviceCall (h : DeviceHandle) : (c : DeviceCall) → Step c.Result
  | .init => onDevice "init" h (done ())
  | .reset => onDevice "reset" h fun s => (.ok (), s.forgetChannels h)
  | .numChannels _ => onDevice "num_channels" h (done (2 : Nat))
  | .loadConfig _ => onDevice "load_config" h (done ())
  | .saveConfig path => onDevice "save_config" h fun s =>
      (.ok (), { s with saved := s.saved.push path })
  | .setSampleRate rate oversample => onDevice "set_sample_rate" h fun s =>
      (.ok (), s.setRate rate oversample)
  | .setSampleRateDir _ rate oversample => onDevice "set_sample_rate_dir" h fun s =>
      (.ok (), s.setRate rate oversample)
  | .lpfBwRange _ => onDevice "lpf_bw_range" h (done (⟨1.4001e6, 130e6, 1⟩ : Range))
  | .vctcxoWrite value => onDevice "vctcxo_write" h fun s =>
      (.ok (), { s with trims := s.trims.set h value })
  | .vctcxoRead => onDevice "vctcxo_read" h fun s =>
      (.ok ((s.trims.find? h).getD defaultTrim), s)

def channelCall (h : DeviceHandle) (ch : ChannelId) : (c : ChannelCall) → Step c.Result
  | .enable on => onChannel "enable_channel" h ch fun c => { c with enabled := on }.put
  | .sampleRate => onDevice "sample_rate" h fun s =>
      (.ok (⟨s.sampleRate, s.sampleRate * s.oversample.toUInt64.toFloat⟩ : SampleRate), s)
  | .setLoFrequency f => onChannel "set_lo_frequency" h ch fun c => { c with loFrequency := f }.put
  | .loFrequency => onChannel "lo_frequency" h ch (ChannelState.get (·.loFrequency))
  | .antennaList => onDevice "antenna_list" h (done antennas)
  | .setAntenna index =>
    if antennas.length ≤ index then
      attempt "set_antenna" (fail (.failed "set_antenna" ("no antenna " ++ toString index)))
    else
      onChannel "set_antenna" h ch fun c => { c with antenna := index }.put
  | .antenna => onChannel "antenna" h ch (ChannelState.get (·.shownAntenna))
  | .setLpfBw bandwidth => onChannel "set_lpf_bw" h ch fun c => { c with lpfBw := bandwidth }.put
  | .lpfBw => onChannel "lpf_bw" h ch (ChannelState.get (·.lpfBw))
  | .setLpf _ => onChannel "set_lpf" h ch ChannelState.put
  | .setGfirLpf .. => onChannel "set_gfir_lpf" h ch ChannelState.put
  | .setNormalizedGain gain => onChannel "set_normalized_gain" h ch fun c =>
      { c with gain := clampGain gain }.put
  | .normalizedGain => onChannel "normalized_gain" h ch (ChannelState.get (·.gain))
  | .setGainDb gain => onChannel "set_gain_db" h ch fun c =>
      { c with gain := clampGain (gain.toFloat / maxGainDb) }.put
  | .gainDb => onChannel "gain_db" h ch (ChannelState.get (·.gainDb))
  | .calibrate .. => onChannel "calibrate" h ch ChannelState.put
  | .setTestSignal signal _ _ => onChannel "set_test_signal" h ch fun c =>
      { c with testSignal := signal }.put
  | .testSignal => onChannel "test_signal" h ch (ChannelState.get (·.testSignal))
  | .setNcoFrequency table => onChannel "set_nco_frequency" h ch fun c =>
      { c with ncoFrequencies := table }.put
  | .ncoFrequency => onChannel "nco_frequency" h ch (ChannelState.get (·.ncoFrequencies))
  | .setNcoPhase table => onChannel "set_nco_phase" h ch fun c =>
      { c with ncoPhases := table }.put
  | .ncoPhase => onChannel "nco_phase" h ch (ChannelState.get (·.ncoPhases))
  | .setNcoIndex index downconvert => onChannel "set_nco_index" h ch fun c =>
      if ncoTableSize ≤ index then (.error (.failed "set_nco_index" "index out of range"), c)
      else { c with ncoIndex := index, ncoDownconvert := downconvert }.put
  | .ncoIndex => onChannel "nco_index" h ch (ChannelState.get (·.ncoIndex))
  | .setGfirCoeff filter values => onChannel "set_gfir_coeff" h ch fun c =>
      if filter.coeffCount < values.length then
        (.error (.failed "set_gfir_coeff" "too many coefficients"), c)
      else (c.load filter values).put
  | .gfirCoeff filter => onChannel "gfir_coeff" h ch (ChannelState.get (·.shownCoefficients filter))
  | .setGfir filter on => onChannel "set_gfir" h ch fun c => (c.switch filter on).put

def openDevice (info : String) : Step DeviceHandle :=
  attempt "open" fun s =>
    if info ∈ s.listed then
      let h : DeviceHandle := ⟨s.nextHandle⟩
      (.ok h, { s with nextHandle := s.nextHandle + 1, devices := s.devices ++ [h] })
    else (.error (.failed "open" ("no device matches " ++ info)), s)

/-- Closing forgets the channels.  Streams and the trim stay. -/
def closeDevice (h : DeviceHandle) : Step Unit :=
  onDevice "close" h fun s =>
    (.ok (), { s with devices := s.devices.filter (· ≠ h) }.forgetChannels h)

def setupStream (h : DeviceHandle) (config : StreamConfig) : Step StreamHandle :=
  onDevice "setup_stream" h fun s =>
    let n : StreamHandle := ⟨s.nextHandle⟩
    let s := s.putStream n { config := config, running := false, received := 0 }
    (.ok n, { s with nextHandle := s.nextHandle + 1 })

/-- A stream that runs cannot be destroyed.  Any open device may be named. -/
def destroyStream (h : DeviceHandle) (n : StreamHandle) : Step Unit :=
  onDevice "destroy_stream" h fun s =>
    match s.streams.find? n with
    | none => (.error .invalidHandle, s)
    | some st =>
      if st.running then (.error (.failed "destroy_stream" "stream still running"), s)
      else (.ok (), { s with streams := s.streams.erase n })

def startStream (n : StreamHandle) : Step Unit :=
  onStream "start_stream" n fun st s => (.ok (), s.putStream n { st with running := true })

def stopStream (n : StreamHandle) : Step Unit :=
  onStream "stop_stream" n fun st s => (.ok (), s.putStream n { st with running := false })

/-- A read answers the number of samples and, when there are any, the time stamp
of the first.  It fills the whole buffer within the latency, or waits until its
timeout when the radio is starved or slower than that. -/
def recvStream (n : StreamHandle) (buffer : SampleBuffer) (timeout : Duration) :
    Step (Nat × Option UInt64) :=
  onStream "recv_stream" n fun st s =>
    if st.config.dataFormat ≠ buffer.format then
      (.error (.failed "recv_stream" "buffer format does not match stream"), s)
    else if !st.running then (.error .notRunning, s)
    else if s.starved ∨ timeout < s.readLatency then
      match s.advance timeout with
      | (.error e, s) => (.error e, s)
      | (.ok (), s) => (.ok (0, none), s)
    else
      match s.advance s.readLatency with
      | (.error e, s) => (.error e, s)
      | (.ok (), s) =>
        (.ok (buffer.capacity, some st.received),
          s.putStream n { st with received := st.received + buffer.capacity.toUInt64 })

/-- A running transmitter takes all it is given, any other stream nothing. -/
def sendStream (n : StreamHandle) (buffer : SampleBuffer) (count : Nat) : Step Nat :=
  onStream "send_stream" n fun st =>
    if st.config.dataFormat ≠ buffer.format then
      fail (.failed "send_stream" "buffer format does not match stream")
    else if st.config.channel.direction.isTx && st.running then done count
    else done (0 : Nat)

def streamStatus (n : StreamHandle) : Step StreamStatus :=
  onStream "stream_status" n fun st s =>
    (.ok
      { StreamStatus.zeros with
        active := st.running
        fifoFilledCount := st.config.fifoSize / 4
        fifoSize := st.config.fifoSize
        sampleRate := s.sampleRate
        linkRate := s.sampleRate * 3
        timestamp := st.received }, s)

/-- Carry out a request. -/
def perform : (r : Request) → State → r.Answer × State
  | .libraryVersion, s => ("mock", s)
  | .registerLog handler, s =>
    ((), { s with calls := s.calls.push "register_log_handler", handler := handler })
  | .deviceList, s => attempt "device_list" (fun s => (.ok s.listed, s)) s
  | .openDevice info, s => openDevice info s
  | .closeDevice h, s => closeDevice h s
  | .device h call, s => deviceCall h call s
  | .channel h ch call, s => channelCall h ch call s
  | .setupStream h config, s => setupStream h config s
  | .destroyStream h n, s => destroyStream h n s
  | .startStream n, s => startStream n s
  | .stopStream n, s => stopStream n s
  | .recvStream n buffer info timeout, s =>
    match recvStream n buffer timeout s with
    | (.error e, s) => ({ result := .error e, buffer := buffer, info := info }, s)
    | (.ok (count, stamp), s) =>
      ({ result := .ok count
         buffer := buffer
         info := info.map fun m => { m with timestamp := stamp.getD m.timestamp } }, s)
  | .sendStream n buffer count _ _, s => sendStream n buffer count s
  | .streamStatus n, s => streamStatus n s

end Simulator
end RadioBench
