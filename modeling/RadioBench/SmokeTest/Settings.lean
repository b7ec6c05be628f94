/-
Everything a smoke test does, fixed up front.
-/
import RadioBench.Guard.Stream

namespace RadioBench
namespace SmokeTest

structure Settings where
  channel : ChannelId
  loFrequency : Float
  antenna : AntennaPath
  /-- The rate of the host interface, for all channels. -/
  sampleRate : Float
  oversample : Nat
  lpfBandwidth : Float
  normalizedGain : Float
  calibrationBandwidth : Float
  testSignal : TestSignal
  /-- The size of the queue between host and radio, in samples. -/
  fifoSize : UInt32
  throughputVsLatency : Float32
  dataFormat : DataFormat
  /-- The samples of one read. -/
  bufferSize : Nat
  readTimeout : Duration
  duration : Duration
  reportInterval : Duration
  /-- Where the device's configuration is saved once it is initialised. -/
  configSnapshot : PathName

namespace Settings

/-- The test signal at 800 MHz, received for ten seconds on the first channel. -/
def standard (configSnapshot : PathName) : Settings where
  channel := ⟨.rx, 0⟩
  loFrequency := 800e6
  antenna := .lnaw
  sampleRate := 21e6
  oversample := 2
  lpfBandwidth := 8e6
  normalizedGain := 0.7
  calibrationBandwidth := 8e6
  testSignal := .ncoDiv8
  fifoSize := 1024 * 1024
  throughputVsLatency := 1
  dataFormat := .f32
  bufferSize := 10000
  readTimeout := .ofMillis 1000
  duration := .ofSeconds 10
  reportInterval := .ofSeconds 1
  configSnapshot := configSnapshot

def streamConfig (s : Settings) : StreamConfig where
  channel := s.channel
  fifoSize := s.fifoSize
  throughputVsLatency := s.throughputVsLatency
  dataFormat := s.dataFormat
  linkFormat := .default

def timing (s : Settings) : Timing where
  timeout := s.readTimeout
  duration := s.duration
  interval := s.reportInterval

end Settings
end SmokeTest
end RadioBench
