/-
The fixed sequence of settings that a channel gets before it streams.

The settings are made one after the other, and values are read back and written
out along the way.  The first failure ends the sequence and is its result.  What
was set before stays set.
-/
import RadioBench.SmokeTest.Settings

namespace RadioBench
namespace SmokeTest

/-- Values read back from the device along the way. -/
structure Applied where
  loFrequency : Float
  antennas : List String
  /-- The antenna before one was chosen. -/
  autoAntenna : Nat
  /-- The antenna after one was chosen. -/
  antenna : Nat
  sampleRate : SampleRate
  lpfRange : Range
  normalizedGain : Float
  gainDb : UInt32

/-- The name of an antenna, or a question mark when the list has none for it. -/
def antennaName (names : List String) (index : Nat) : String := names.getD index "?"

/-- A frequency in millions. -/
def mega (x : Float) : String := Decimal.plain (x / 1e6)

/-- A numbered line for each antenna. -/
def listAntennas : (number : Nat) → List String → Attempt Unit
  | _, [] => pure ()
  | number, name :: rest => do
    .line (toString number ++ ": " ++ name)
    listAntennas (number + 1) rest

def configure (device : Device) (s : Settings) : Attempt Applied := do
  let ch := s.channel
  let dir := ch.direction
  .debug ("enabling " ++ ch.text)
  let () ← device.channel ch (.enable true)

  .debug ("setting LO to " ++ Decimal.plain s.loFrequency ++ " Hz")
  let () ← device.channel ch (.setLoFrequency s.loFrequency)
  let loFrequency : Float ← device.channel ch .loFrequency
  .line ("\nCenter frequency: " ++ mega loFrequency ++ " MHz")

  let antennas : List String ← device.channel ch .antennaList
  .line "Available antennae:"
  listAntennas 0 antennas
  let autoAntenna : Nat ← device.channel ch .antenna
  .line ("Automatically selected antenna: " ++ toString autoAntenna ++ ": " ++
    antennaName antennas autoAntenna)
  let () ← device.channel ch (.setAntenna s.antenna.index)
  let antenna : Nat ← device.channel ch .antenna
  .line ("Manually selected antenna: " ++ toString antenna ++ ": " ++
    antennaName antennas antenna)

  .debug ("setting sample rate to " ++ Decimal.plain s.sampleRate ++ " Hz, oversample " ++
    toString s.oversample)
  let () ← device.call (.setSampleRate s.sampleRate s.oversample)
  let sampleRate : SampleRate ← device.channel ch .sampleRate
  .line ("Host interface sample rate: " ++ mega sampleRate.host ++
    " MHz\nRF ADC sample rate: " ++ mega sampleRate.rf ++ " MHz\n")

  let lpfRange : Range ← device.call (.lpfBwRange dir)
  .line (dir.text ++ " LPF bandwidth range: " ++ mega lpfRange.min ++ " - " ++
    mega lpfRange.max ++ " MHz\n")
  if !lpfRange.contains s.lpfBandwidth then
    .warn ("LPF bandwidth " ++ Decimal.plain s.lpfBandwidth ++
      " Hz is outside the device range")
  let () ← device.channel ch (.setLpfBw s.lpfBandwidth)

  let () ← device.channel ch (.setNormalizedGain s.normalizedGain)
  let normalizedGain : Float ← device.channel ch .normalizedGain
  .line ("Normalized " ++ dir.text ++ " Gain: " ++ Decimal.plain normalizedGain)
  let gainDb : UInt32 ← device.channel ch .gainDb
  .line (dir.text ++ " Gain: " ++ toString gainDb.toNat ++ " dB")

  .debug ("calibrating for " ++ Decimal.plain s.calibrationBandwidth ++ " Hz")
  let () ← device.channel ch (.calibrate s.calibrationBandwidth 0)

  let () ← device.channel ch (.setTestSignal s.testSignal 0 0)
  pure {
    loFrequency := loFrequency
    antennas := antennas
    autoAntenna := autoAntenna
    antenna := antenna
    sampleRate := sampleRate
    lpfRange := lpfRange
    normalizedGain := normalizedGain
    gainDb := gainDb }

end SmokeTest
end RadioBench
