/-
What is set on a channel, one setting at a time.

A channel has twelve settings.  A call that succeeds gives a new value to one of them, or to two
at once, or to none; `sets?` tells which.  That a channel keeps what it is told comes down to
this: the settings that a call names have their new values afterwards, and all others are as they
were.
-/
import RadioBench.Proofs.Simulator.Success

namespace RadioBench
namespace Simulator

inductive Setting
  | enabled
  | loFrequency
  | antenna
  | lpfBw
  | gain
  | testSignal
  | ncoFrequencies
  | ncoPhases
  | ncoIndex
  | ncoDownconvert
  | coefficients (filter : Gfir)
  | filterOn (filter : Gfir)

namespace Setting

def Value : Setting → Type
  | enabled => Bool
  | loFrequency => Float
  | antenna => Nat
  | lpfBw => Float
  | gain => Float
  | testSignal => TestSignal
  | ncoFrequencies => NcoFrequencies
  | ncoPhases => NcoPhases
  | ncoIndex => Nat
  | ncoDownconvert => Bool
  | coefficients _ => List Float
  | filterOn _ => Bool

/-- The value that a setting has on a channel. -/
def read : (k : Setting) → ChannelState → k.Value
  | enabled, c => c.enabled
  | loFrequency, c => c.loFrequency
  | antenna, c => c.antenna
  | lpfBw, c => c.lpfBw
  | gain, c => c.gain
  | testSignal, c => c.testSignal
  | ncoFrequencies, c => c.ncoFrequencies
  | ncoPhases, c => c.ncoPhases
  | ncoIndex, c => c.ncoIndex
  | ncoDownconvert, c => c.ncoDownconvert
  | coefficients filter, c => c.coefficients filter
  | filterOn filter, c => c.filterOn filter

/-- The value of a setting that nobody has set. -/
def initial : (k : Setting) → k.Value
  | enabled => false
  | loFrequency => (0 : Float)
  | antenna => (0 : Nat)
  | lpfBw => (0 : Float)
  | gain => (0 : Float)
  | testSignal => TestSignal.none
  | ncoFrequencies => NcoFrequencies.zeros
  | ncoPhases => NcoPhases.zeros
  | ncoIndex => (0 : Nat)
  | ncoDownconvert => false
  | coefficients _ => []
  | filterOn _ => false

@[simp]
theorem read_fresh (k : Setting) : k.read .fresh = k.initial := by cases k <;> rfl

end Setting

/-- The value that a call gives to a setting when it succeeds, if it is about that setting. -/
def sets? : ChannelCall → (k : Setting) → Option k.Value
  | .enable on, .enabled => some on
  | .setLoFrequency frequency, .loFrequency => some frequency
  | .setAntenna index, .antenna => some index
  | .setLpfBw bandwidth, .lpfBw => some bandwidth
  | .setNormalizedGain gain, .gain => some (clampGain gain)
  | .setGainDb gain, .gain => some (clampGain (gain.toFloat / maxGainDb))
  | .setTestSignal signal _ _, .testSignal => some signal
  | .setNcoFrequency table, .ncoFrequencies => some table
  | .setNcoPhase table, .ncoPhases => some table
  | .setNcoIndex index _, .ncoIndex => some index
  | .setNcoIndex _ downconvert, .ncoDownconvert => some downconvert
  | .setGfirCoeff filter values, .coefficients g => if g = filter then some values else none
  | .setGfir filter on, .filterOn g => if g = filter then some on else none
  | _, _ => none

/-- After the call the settings that it is about have their new values, and the others are as
they were. -/
def Sets (c : ChannelCall) (x y : ChannelState) : Prop :=
  ∀ k : Setting, k.read y = (sets? c k).getD (k.read x)

theorem sets_load (filter : Gfir) (values : List Float) (x : ChannelState) :
    Sets (.setGfirCoeff filter values) x (x.load filter values) := by
  intro k
  cases k with
  | coefficients g =>
    show (if g = filter then values else x.coefficients g) =
      Option.getD (if g = filter then some values else none) (x.coefficients g)
    split <;> rfl
  | _ => rfl

theorem sets_switch (filter : Gfir) (on : Bool) (x : ChannelState) :
    Sets (.setGfir filter on) x (x.switch filter on) := by
  intro k
  cases k with
  | filterOn g =>
    show (if g = filter then on else x.filterOn g) =
      Option.getD (if g = filter then some on else none) (x.filterOn g)
    split <;> rfl
  | _ => rfl

/-! ## Values in range -/

/-- Every setting has a value that a call could have given it. -/
structure ChannelState.InRange (x : ChannelState) : Prop where
  antenna : x.antenna < antennas.length
  ncoIndex : x.ncoIndex < ncoTableSize
  coefficients : ∀ filter, (x.coefficients filter).length ≤ filter.coeffCount

theorem inRange_fresh : ChannelState.fresh.InRange where
  antenna := by decide
  ncoIndex := by decide
  coefficients filter := Nat.zero_le _

theorem ChannelState.InRange.of_sets {c : ChannelCall} {x y : ChannelState} (h : x.InRange)
    (hrange : inRange c) (hy : Sets c x y) : y.InRange where
  antenna := by
    rw [show y.antenna = _ from hy .antenna]
    cases c with
    | setAntenna index => exact hrange
    | _ => exact h.antenna
  ncoIndex := by
    rw [show y.ncoIndex = _ from hy .ncoIndex]
    cases c with
    | setNcoIndex index down => exact hrange
    | _ => exact h.ncoIndex
  coefficients g := by
    rw [show y.coefficients g = _ from hy (.coefficients g)]
    cases c with
    | setGfirCoeff filter values =>
      by_cases hg : g = filter
      · rw [show sets? (.setGfirCoeff filter values) (.coefficients g) = some values from
          if_pos hg, hg]
        exact hrange
      · rw [show sets? (.setGfirCoeff filter values) (.coefficients g) = none from if_neg hg]
        exact h.coefficients g
    | _ => exact h.coefficients g

end Simulator
end RadioBench
