/-
Configuration, metadata and status of a stream.
-/
import RadioBench.Radio.Channel
import RadioBench.Radio.Sample

namespace RadioBench

structure StreamConfig where
  channel : ChannelId
  /-- The size of the queue between host and radio, in samples. -/
  fifoSize : UInt32
  /-- Zero asks for low latency, one for high throughput. -/
  throughputVsLatency : Float32
  dataFormat : DataFormat
  linkFormat : LinkFormat

/-- A stream of floating samples on `channel`, tuned for throughput. -/
def StreamConfig.standard (channel : ChannelId) : StreamConfig where
  channel := channel
  fifoSize := 1024 * 1024
  throughputVsLatency := 1
  dataFormat := .f32
  linkFormat := .default

/-- What goes along with the samples of one read or write. -/
structure StreamMeta where
  timestamp : UInt64
  waitForTimestamp : Bool
  flushPartialPacket : Bool
  deriving DecidableEq, Repr

structure StreamStatus where
  active : Bool
  fifoFilledCount : UInt32
  fifoSize : UInt32
  underrun : UInt32
  overrun : UInt32
  droppedPackets : UInt32
  sampleRate : Float
  /-- Bytes per second between host and radio. -/
  linkRate : Float
  timestamp : UInt64

namespace StreamStatus

def zeros : StreamStatus where
  active := false
  fifoFilledCount := 0
  fifoSize := 0
  underrun := 0
  overrun := 0
  droppedPackets := 0
  sampleRate := 0
  linkRate := 0
  timestamp := 0

/-- How full the queue is, in percent.  A queue of no size is empty. -/
def fifoFillPercent (s : StreamStatus) : Float :=
  if s.fifoSize = 0 then 0
  else 100 * s.fifoFilledCount.toFloat / s.fifoSize.toFloat

end StreamStatus
end RadioBench
