/-
What a channel can be set to: antenna paths, test signals, oscillator tables,
filters, ranges and rates.

Antenna paths, test signals and filters have numbers that the hardware
understands.  An antenna path keeps every number, so reading a number and
writing it back loses nothing.  A test signal with an unknown code is none.
-/

namespace RadioBench

/-- An antenna connector.  Both directions number their connectors alike, so a
transmitter's first two connectors are the paths with the same numbers. -/
inductive AntennaPath
  | none
  | lnah
  | lnal
  | lnaw
  | auto
  | other (index : Nat)
  deriving DecidableEq, Repr

namespace AntennaPath

def ofIndex (n : Nat) : AntennaPath :=
  if n = 0 then none
  else if n = 1 then lnah
  else if n = 2 then lnal
  else if n = 3 then lnaw
  else if n = 255 then auto
  else other n

def index : AntennaPath → Nat
  | none => 0
  | lnah => 1
  | lnal => 2
  | lnaw => 3
  | auto => 255
  | other n => n

/-- The first connector of a transmitter. -/
def tx1 : AntennaPath := lnah

/-- The second connector of a transmitter. -/
def tx2 : AntennaPath := lnal

def text : AntennaPath → String
  | none => "None"
  | lnah => "Lnah"
  | lnal => "Lnal"
  | lnaw => "Lnaw"
  | auto => "Auto"
  | other n => "Other(" ++ toString n ++ ")"

end AntennaPath

/-- A signal the hardware makes itself, in place of its input. -/
inductive TestSignal
  | none
  | ncoDiv8
  | ncoDiv4
  | ncoDiv8F
  | ncoDiv4F
  | dc
  deriving DecidableEq, Repr, Inhabited

namespace TestSignal

def ofCode (n : UInt32) : TestSignal :=
  if n = 1 then ncoDiv8
  else if n = 2 then ncoDiv4
  else if n = 3 then ncoDiv8F
  else if n = 4 then ncoDiv4F
  else if n = 5 then dc
  else none

def code : TestSignal → UInt32
  | none => 0
  | ncoDiv8 => 1
  | ncoDiv4 => 2
  | ncoDiv8F => 3
  | ncoDiv4F => 4
  | dc => 5

def text : TestSignal → String
  | none => "None"
  | ncoDiv8 => "NcoDiv8"
  | ncoDiv4 => "NcoDiv4"
  | ncoDiv8F => "NcoDiv8F"
  | ncoDiv4F => "NcoDiv4F"
  | dc => "Dc"

theorem ofCode_code (s : TestSignal) : ofCode s.code = s := by cases s <;> rfl

end TestSignal

/-- The entries of an oscillator table. -/
def ncoTableSize : Nat := 16

abbrev NcoTable : Type := Vector Float ncoTableSize

/-- An oscillator table in frequency mode: a frequency for each entry and one
phase offset, in degrees, for all of them. -/
structure NcoFrequencies where
  frequencies : NcoTable
  phaseOffset : Float

/-- An oscillator table in phase mode: a phase for each entry and one frequency
for all of them. -/
structure NcoPhases where
  phases : NcoTable
  frequency : Float

def NcoTable.zeros : NcoTable := Vector.replicate ncoTableSize 0

def NcoFrequencies.zeros : NcoFrequencies := { frequencies := NcoTable.zeros, phaseOffset := 0 }

def NcoPhases.zeros : NcoPhases := { phases := NcoTable.zeros, frequency := 0 }

/-- One of the three programmable filters of a channel. -/
inductive Gfir
  | gfir1
  | gfir2
  | gfir3
  deriving DecidableEq, Repr

namespace Gfir

/-- The number of coefficients the filter takes. -/
def coeffCount : Gfir → Nat
  | gfir1 => 40
  | gfir2 => 40
  | gfir3 => 120

/-- Enough coefficients for any of the filters. -/
def maxCoeffCount : Nat := 120

def code : Gfir → UInt32
  | gfir1 => 0
  | gfir2 => 1
  | gfir3 => 2

def ofCode? (n : Nat) : Option Gfir :=
  match n with
  | 0 => some gfir1
  | 1 => some gfir2
  | 2 => some gfir3
  | _ => none

def text : Gfir → String
  | gfir1 => "Gfir1"
  | gfir2 => "Gfir2"
  | gfir3 => "Gfir3"

theorem coeffCount_le (g : Gfir) : g.coeffCount ≤ maxCoeffCount := by
  cases g <;> decide

end Gfir

/-- The values a setting may take, in steps from `min` up to `max`. -/
structure Range where
  min : Float
  max : Float
  step : Float

/-- Both ends belong to the range.  A value that is not a number lies in none. -/
def Range.contains (r : Range) (value : Float) : Bool := r.min ≤ value && value ≤ r.max

structure SampleRate where
  /-- The rate of the host interface. -/
  host : Float
  /-- The rate of the converters. -/
  rf : Float

/-- Force a gain into the range from zero to one.  A value that is not below the
one end and not above the other stays as it is, whatever its sign bit. -/
def clampGain (x : Float) : Float :=
  if x < 0 then 0 else if 1 < x then 1 else x

end RadioBench
