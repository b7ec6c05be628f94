/-
Open devices and their channels.

A device is opened by name.  It is given back either by closing it, which says
whether that went well, or by dropping it, which only leaves a warning in the
journal when it did not.  A value of type `Device` stands for a device that has
not been given back yet.
-/
import RadioBench.Host

namespace RadioBench

structure Device where
  handle : DeviceHandle
  /-- The name it was opened by. -/
  info : String
  deriving DecidableEq, Repr

namespace Device

/-- Open the device with the given name. -/
def opened (info : String) : Attempt Device := do
  let handle : DeviceHandle ← .of (Host.request (.openDevice info))
  .debug ("opened " ++ info ++ " as " ++ handle.text)
  pure { handle := handle, info := info }

/-- An operation on the device as a whole. -/
def call (d : Device) (c : DeviceCall) : Attempt c.Result :=
  .of (Host.request (.device d.handle c))

/-- Give the device back and say whether that went well. -/
def close (d : Device) : Attempt Unit := do
  .debug ("closing " ++ d.info)
  .of (Host.request (.closeDevice d.handle))

/-- Give the device back; a failure only leaves a warning. -/
def drop (d : Device) : Prog Host Unit := do
  let r ← Host.request (.closeDevice d.handle)
  match (r : Except Error Unit) with
  | .ok () => pure ()
  | .error e => Host.note (.warn ("error closing " ++ d.info ++ ": " ++ e.message))

end Device

/-- Why a channel refuses an operation before the driver hears of it. -/
def ChannelCall.refusal? : ChannelCall → Option Error
  | setNcoIndex index _ =>
    if ncoTableSize ≤ index then some (.invalidArgument "NCO index out of range") else none
  | setGfirCoeff filter coefficients =>
    if filter.coeffCount < coefficients.length then
      some (.invalidArgument "too many GFIR coefficients")
    else none
  | _ => none

/-- An operation on one channel of the device. -/
def Device.channel (d : Device) (ch : ChannelId) (c : ChannelCall) : Attempt c.Result :=
  match c.refusal? with
  | some e => throw e
  | none => .of (Host.request (.channel d.handle ch c))

end RadioBench
