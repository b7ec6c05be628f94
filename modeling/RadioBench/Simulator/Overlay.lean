/-
Answers that stand in for a driver's own.

An overlay lies over a driver and replaces parts of its answers, so that a bench
can show a program values that the driver below would never give.  Failures pass
through unchanged, and the driver below does not notice.
-/
import RadioBench.Request

namespace RadioBench

/-- The parts of a status to replace. -/
structure StatusOverlay where
  fifoFilledCount : Option UInt32
  fifoSize : Option UInt32
  underrun : Option UInt32
  overrun : Option UInt32
  droppedPackets : Option UInt32
  linkRate : Option Float

def StatusOverlay.apply (o : StatusOverlay) (s : StreamStatus) : StreamStatus :=
  { s with
    fifoFilledCount := o.fifoFilledCount.getD s.fifoFilledCount
    fifoSize := o.fifoSize.getD s.fifoSize
    underrun := o.underrun.getD s.underrun
    overrun := o.overrun.getD s.overrun
    droppedPackets := o.droppedPackets.getD s.droppedPackets
    linkRate := o.linkRate.getD s.linkRate }

structure Overlay where
  libraryVersion : Option String
  antennaList : Option (List String)
  antenna : Option Nat
  gainDb : Option UInt32
  lpfBwRange : Option Range
  /-- The counts of successful reads, taken in turn and then from the start. -/
  recv : Option (Array Nat)
  status : Option StatusOverlay

namespace Overlay

def none : Overlay where
  libraryVersion := .none
  antennaList := .none
  antenna := .none
  gainDb := .none
  lpfBwRange := .none
  recv := .none
  status := .none

/-- Put a value in place of a success. -/
def replace {α : Type} (value : Option α) (r : Except Error α) : Except Error α :=
  r.map fun a => value.getD a

def onDevice (o : Overlay) : (c : DeviceCall) → Except Error c.Result → Except Error c.Result
  | .lpfBwRange _, r => replace o.lpfBwRange r
  | _, r => r

def onChannel (o : Overlay) : (c : ChannelCall) → Except Error c.Result → Except Error c.Result
  | .antennaList, r => replace o.antennaList r
  | .antenna, r => replace o.antenna r
  | .gainDb, r => replace o.gainDb r
  | _, r => r

/-- The count of the read with the given number, out of the counts to take. -/
def turn (counts : Array Nat) (number : Nat) : Option Nat := counts[number % counts.size]?

/-- The answer to show in place of the driver's, and the number of the next
successful read. -/
def apply (o : Overlay) (reads : Nat) : (r : Request) → r.Answer → r.Answer × Nat
  | .libraryVersion, a => (o.libraryVersion.getD a, reads)
  | .device _ c, a => (o.onDevice c a, reads)
  | .channel _ _ c, a => (o.onChannel c a, reads)
  | .recvStream .., a =>
    match a.result with
    | .error _ => (a, reads)
    | .ok _ =>
      ({ a with result := replace (o.recv.bind (turn · reads)) a.result }, reads + 1)
  | .streamStatus _, a => (Except.map (fun s => (o.status.map (·.apply s)).getD s) a, reads)
  | _, a => (a, reads)

end Overlay
end RadioBench
