/-
What a radio driver can be asked to do, and what it may answer.

A request names an operation together with its arguments, and `Request.Answer`
gives the type of its answer.  Nothing is assumed of a driver beyond these
types: any request may fail with any error, save the three whose answers leave
no room for one.  Devices and streams are named by handles that the driver
issues.
-/
import RadioBench.Error
import RadioBench.Journal
import RadioBench.Duration
import RadioBench.Radio.Streaming
import RadioBench.Radio.Tuning
import RadioBench.Text.Utf8

namespace RadioBench

/-- Names an open device. -/
structure DeviceHandle where
  index : Nat
  deriving DecidableEq, Repr, Inhabited

/-- Names a live stream. -/
structure StreamHandle where
  index : Nat
  deriving DecidableEq, Repr, Inhabited

def DeviceHandle.text (h : DeviceHandle) : String := "DeviceHandle(" ++ toString h.index ++ ")"

def StreamHandle.text (h : StreamHandle) : String := "StreamHandle(" ++ toString h.index ++ ")"

/-- The name of a file: any bytes, since a file system does not insist on UTF-8. -/
structure PathName where
  bytes : List UInt8
  deriving DecidableEq, Repr, Inhabited

namespace PathName

def ofString (s : String) : PathName := ⟨Text.Utf8.encode s⟩

/-- The name as it is shown to a reader. -/
def text (p : PathName) : String := Text.Utf8.lossy p.bytes

end PathName

/-- Operations on a device as a whole. -/
inductive DeviceCall
  | init
  | reset
  | numChannels (direction : Direction)
  | loadConfig (path : PathName)
  | saveConfig (path : PathName)
  | setSampleRate (rate : Float) (oversample : Nat)
  | setSampleRateDir (direction : Direction) (rate : Float) (oversample : Nat)
  | lpfBwRange (direction : Direction)
  | vctcxoWrite (value : UInt16)
  | vctcxoRead

namespace DeviceCall

def Result : DeviceCall → Type
  | numChannels _ => Nat
  | lpfBwRange _ => Range
  | vctcxoRead => UInt16
  | init => Unit
  | reset => Unit
  | loadConfig _ => Unit
  | saveConfig _ => Unit
  | setSampleRate .. => Unit
  | setSampleRateDir .. => Unit
  | vctcxoWrite _ => Unit

def name : DeviceCall → String
  | init => "init"
  | reset => "reset"
  | numChannels _ => "num_channels"
  | loadConfig _ => "load_config"
  | saveConfig _ => "save_config"
  | setSampleRate .. => "set_sample_rate"
  | setSampleRateDir .. => "set_sample_rate_dir"
  | lpfBwRange _ => "lpf_bw_range"
  | vctcxoWrite _ => "vctcxo_write"
  | vctcxoRead => "vctcxo_read"

end DeviceCall

/-- Operations on one channel of a device. -/
inductive ChannelCall
  | enable (on : Bool)
  | sampleRate
  | setLoFrequency (frequency : Float)
  | loFrequency
  | antennaList
  | setAntenna (index : Nat)
  | antenna
  | setLpfBw (bandwidth : Float)
  | lpfBw
  | setLpf (on : Bool)
  | setGfirLpf (on : Bool) (bandwidth : Float)
  | setNormalizedGain (gain : Float)
  | normalizedGain
  | setGainDb (gain : UInt32)
  | gainDb
  | calibrate (bandwidth : Float) (flags : UInt32)
  | setTestSignal (signal : TestSignal) (dcI dcQ : Int16)
  | testSignal
  | setNcoFrequency (table : NcoFrequencies)
  | ncoFrequency
  | setNcoPhase (table : NcoPhases)
  | ncoPhase
  | setNcoIndex (index : Nat) (downconvert : Bool)
  | ncoIndex
  | setGfirCoeff (filter : Gfir) (coefficients : List Float)
  | gfirCoeff (filter : Gfir)
  | setGfir (filter : Gfir) (on : Bool)

namespace ChannelCall

def Result : ChannelCall → Type
  | sampleRate => SampleRate
  | loFrequency => Float
  | antennaList => List String
  | antenna => Nat
  | lpfBw => Float
  | normalizedGain => Float
  | gainDb => UInt32
  | testSignal => TestSignal
  | ncoFrequency => NcoFrequencies
  | ncoPhase => NcoPhases
  | ncoIndex => Nat
  | gfirCoeff _ => List Float
  | enable _ => Unit
  | setLoFrequency _ => Unit
  | setAntenna _ => Unit
  | setLpfBw _ => Unit
  | setLpf _ => Unit
  | setGfirLpf .. => Unit
  | setNormalizedGain _ => Unit
  | setGainDb _ => Unit
  | calibrate .. => Unit
  | setTestSignal .. => Unit
  | setNcoFrequency _ => Unit
  | setNcoPhase _ => Unit
  | setNcoIndex .. => Unit
  | setGfirCoeff .. => Unit
  | setGfir .. => Unit

def name : ChannelCall → String
  | enable _ => "enable_channel"
  | sampleRate => "sample_rate"
  | setLoFrequency _ => "set_lo_frequency"
  | loFrequency => "lo_frequency"
  | antennaList => "antenna_list"
  | setAntenna _ => "set_antenna"
  | antenna => "antenna"
  | setLpfBw _ => "set_lpf_bw"
  | lpfBw => "lpf_bw"
  | setLpf _ => "set_lpf"
  | setGfirLpf .. => "set_gfir_lpf"
  | setNormalizedGain _ => "set_normalized_gain"
  | normalizedGain => "normalized_gain"
  | setGainDb _ => "set_gain_db"
  | gainDb => "gain_db"
  | calibrate .. => "calibrate"
  | setTestSignal .. => "set_test_signal"
  | testSignal => "test_signal"
  | setNcoFrequency _ => "set_nco_frequency"
  | ncoFrequency => "nco_frequency"
  | setNcoPhase _ => "set_nco_phase"
  | ncoPhase => "nco_phase"
  | setNcoIndex .. => "set_nco_index"
  | ncoIndex => "nco_index"
  | setGfirCoeff .. => "set_gfir_coeff"
  | gfirCoeff _ => "gfir_coeff"
  | setGfir .. => "set_gfir"

end ChannelCall

/-- Everything a driver can be asked. -/
inductive Request
  | libraryVersion
  /-- Set the handler for the radio library's messages, or remove it. -/
  | registerLog (handler : Option LogHandler)
  | deviceList
  | openDevice (info : String)
  | closeDevice (device : DeviceHandle)
  | device (device : DeviceHandle) (call : DeviceCall)
  | channel (device : DeviceHandle) (channel : ChannelId) (call : ChannelCall)
  | setupStream (device : DeviceHandle) (config : StreamConfig)
  | destroyStream (device : DeviceHandle) (stream : StreamHandle)
  | startStream (stream : StreamHandle)
  | stopStream (stream : StreamHandle)
  /-- Read up to the buffer's capacity of samples.  None read means that the wait
  was over before any came. -/
  | recvStream (stream : StreamHandle) (buffer : SampleBuffer) (info : Option StreamMeta)
      (timeout : Duration)
  | sendStream (stream : StreamHandle) (buffer : SampleBuffer) (count : Nat)
      (info : Option StreamMeta) (timeout : Duration)
  | streamStatus (stream : StreamHandle)

/-- The answer to a read: its result, and the caller's buffer and metadata as
they are afterwards, whatever the result. -/
structure Received where
  result : Except Error Nat
  buffer : SampleBuffer
  info : Option StreamMeta

namespace Request

def Answer : Request → Type
  | libraryVersion => String
  | registerLog _ => Unit
  | deviceList => Except Error (List String)
  | openDevice _ => Except Error DeviceHandle
  | closeDevice _ => Except Error Unit
  | device _ call => Except Error call.Result
  | channel _ _ call => Except Error call.Result
  | setupStream .. => Except Error StreamHandle
  | destroyStream .. => Except Error Unit
  | startStream _ => Except Error Unit
  | stopStream _ => Except Error Unit
  | recvStream .. => Received
  | sendStream .. => Except Error Nat
  | streamStatus _ => Except Error StreamStatus

/-- The name that call records and error messages use. -/
def name : Request → String
  | libraryVersion => "library_version"
  | registerLog _ => "register_log_handler"
  | deviceList => "device_list"
  | openDevice _ => "open"
  | closeDevice _ => "close"
  | device _ call => call.name
  | channel _ _ call => call.name
  | setupStream .. => "setup_stream"
  | destroyStream .. => "destroy_stream"
  | startStream _ => "start_stream"
  | stopStream _ => "stop_stream"
  | recvStream .. => "recv_stream"
  | sendStream .. => "send_stream"
  | streamStatus _ => "stream_status"

end Request
end RadioBench
