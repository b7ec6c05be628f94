/-
The text of a library call, as it is recorded.

A call is written as the function's name in the library's header and its inputs
in the order of the declaration.  Output arguments are left out.  Doubles are
written as their bits, texts in double quotes without escapes, and tables in
square brackets.
-/
import RadioBench.Native.Call
import RadioBench.Text.Hex

namespace RadioBench
namespace Native
namespace Recording

def bool (b : Bool) : String := if b then "true" else "false"

def text (s : String) : String := "\"" ++ s ++ "\""

def float (x : Float) : String := Text.Hex.ofFloat x

def table (xs : List Float) : String := "[" ++ " ".intercalate (xs.map float) ++ "]"

/-- A list argument: absent in a call that only counts. -/
def list (room : Option Nat) : String := if room.isSome then "list" else "null"

def info : Option StreamMeta → String
  | none => "null"
  | some m => "[" ++ toString m.timestamp.toNat ++ " " ++ bool m.waitForTimestamp ++ " " ++
      bool m.flushPartialPacket ++ "]"

/-- The samples of a write are shown by this many of their bytes. -/
def shownBytes : Nat := 24

/-- The name and the arguments after the device. -/
def deviceFunction : DeviceFunction → String × List String
  | .init => ("Init", [])
  | .reset => ("Reset", [])
  | .getNumChannels isTx => ("GetNumChannels", [bool isTx])
  | .loadConfig path => ("LoadConfig", [text path])
  | .saveConfig path => ("SaveConfig", [text path])
  | .setSampleRate rate oversample => ("SetSampleRate", [float rate, toString oversample])
  | .setSampleRateDir isTx rate oversample =>
    ("SetSampleRateDir", [bool isTx, float rate, toString oversample])
  | .getLpfBwRange isTx => ("GetLPFBWRange", [bool isTx])
  | .vctcxoWrite value => ("VCTCXOWrite", [toString value.toNat])
  | .vctcxoRead => ("VCTCXORead", [])

/-- The name and the arguments after the channel. -/
def channelFunction : ChannelFunction → String × List String
  | .enable on => ("EnableChannel", [bool on])
  | .getSampleRate => ("GetSampleRate", [])
  | .setLoFrequency f => ("SetLOFrequency", [float f])
  | .getLoFrequency => ("GetLOFrequency", [])
  | .getAntennaList room => ("GetAntennaList", [list room])
  | .setAntenna index => ("SetAntenna", [toString index])
  | .getAntenna => ("GetAntenna", [])
  | .setLpfBw bandwidth => ("SetLPFBW", [float bandwidth])
  | .getLpfBw => ("GetLPFBW", [])
  | .setLpf on => ("SetLPF", [bool on])
  | .setGfirLpf on bandwidth => ("SetGFIRLPF", [bool on, float bandwidth])
  | .setNormalizedGain gain => ("SetNormalizedGain", [float gain])
  | .getNormalizedGain => ("GetNormalizedGain", [])
  | .setGainDb gain => ("SetGaindB", [toString gain.toNat])
  | .getGainDb => ("GetGaindB", [])
  | .calibrate bandwidth flags => ("Calibrate", [float bandwidth, toString flags.toNat])
  | .setTestSignal signal dcI dcQ =>
    ("SetTestSignal", [toString signal.toNat, toString dcI.toInt, toString dcQ.toInt])
  | .getTestSignal => ("GetTestSignal", [])
  | .setNcoFrequency frequencies offset =>
    ("SetNCOFrequency", [table frequencies.toList, float offset])
  | .getNcoFrequency => ("GetNCOFrequency", [])
  | .setNcoPhase phases frequency => ("SetNCOPhase", [table phases.toList, float frequency])
  | .getNcoPhase => ("GetNCOPhase", [])
  | .setNcoIndex index downconvert => ("SetNCOIndex", [toString index, bool downconvert])
  | .getNcoIndex => ("GetNCOIndex", [])
  | .setGfirCoeff filter values =>
    ("SetGFIRCoeff", [toString filter.toNat, table values, toString values.length])
  | .getGfirCoeff filter => ("GetGFIRCoeff", [toString filter.toNat])
  | .setGfir filter on => ("SetGFIR", [toString filter.toNat, bool on])

/-- The name and the arguments after the stream. -/
def streamFunction : StreamFunction → String × List String
  | .start => ("StartStream", [])
  | .stop => ("StopStream", [])
  | .recv count m timeout => ("RecvStream", [toString count, info m, toString timeout])
  | .send bytes count m timeout =>
    ("SendStream",
      [Text.Hex.ofBytes (bytes.take shownBytes).toList, toString count, info m,
        toString timeout])
  | .getStatus => ("GetStreamStatus", [])

/-- The name without the library's tag, and all arguments. -/
def parts : Call → String × List String
  | .getLibraryVersion => ("GetLibraryVersion", [])
  | .getLastErrorMessage => ("GetLastErrorMessage", [])
  | .registerLogHandler on => ("RegisterLogHandler", [if on then "handler" else "null"])
  | .getDeviceList room => ("GetDeviceList", [list room])
  | .openDevice name => ("Open", [text name])
  | .closeDevice d => ("Close", [toString d.id])
  | .device d f =>
    let (name, rest) := deviceFunction f
    (name, toString d.id :: rest)
  | .channel d isTx index f =>
    let (name, rest) := channelFunction f
    (name, toString d.id :: bool isTx :: toString index.toNat :: rest)
  | .setupStream d _ s =>
    ("SetupStream",
      [toString d.id, bool s.isTx, toString s.channel.toNat, toString s.fifoSize.toNat,
        float s.throughputVsLatency.toFloat, toString s.dataFormat.toNat,
        toString s.linkFormat.toNat])
  | .destroyStream d block => ("DestroyStream", [toString d.id, toString block.number])
  | .stream block f =>
    let (name, rest) := streamFunction f
    (name, toString block.number :: rest)

/-- The function's name in the library's header. -/
def name (c : Call) : String := "LMS_" ++ (parts c).1

def line (c : Call) : String := name c ++ "(" ++ ",".intercalate (parts c).2 ++ ")"

end Recording
end Native
end RadioBench
