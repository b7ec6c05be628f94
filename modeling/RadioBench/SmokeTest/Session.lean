/-
One complete smoke test: open, configure, stream, give everything back.

The first device that the driver lists is used.  Whatever fails on the way, the
stream is destroyed, the device closed and the log handler removed before the
test ends with that failure.  Failures while giving things back are logged and
change nothing else.
-/
import RadioBench.Guard.LogScope
import RadioBench.SmokeTest.Configure

namespace RadioBench
namespace SmokeTest

inductive Outcome
  /-- The driver lists no device. -/
  | noDevices
  | completed (applied : Applied) (report : Report)

/-- The part of the test that has a device. -/
def session (budget : Nat) (device : Device) (s : Settings) : Attempt (Applied × Report) := do
  let () ← device.call .init
  match ← Attempt.always (device.call (.saveConfig s.configSnapshot)).run with
  | .ok () => pure ()
  | .error e =>
    .warn ("could not save config to " ++ s.configSnapshot.text ++ ": " ++ e.message)

  let applied ← configure device s

  let stream ← Stream.setup device s.streamConfig
  let stream ← stream.guarding stream.start
  let report ← stream.guarding (stream.receiveFor budget (stream.buffer s.bufferSize) s.timing)
  let stream ← stream.guarding stream.stop
  stream.destroy

  .info (toString report.samples.toNat ++ " samples in " ++ toString report.reads ++
    " reads, " ++ toString report.timeouts ++ " timeouts")
  .line "All Done"
  pure (applied, report)

/-- Carry the session out, then give the device back.  A clock that cannot go on
ends the session at once, and the device is then dropped rather than closed. -/
def withDevice (budget : Nat) (device : Device) (s : Settings) : Attempt (Applied × Report) := do
  match ← Attempt.always (session budget device s).run with
  | .error .clockOverflow =>
    .always device.drop
    throw .clockOverflow
  | result =>
    match ← Attempt.always device.close.run with
    | .ok () => pure ()
    | .error e => .warn ("error closing device: " ++ e.message)
    liftExcept result

/-- A line for each device. -/
def listDevices : List String → Attempt Unit
  | [] => pure ()
  | name :: rest => do
    .line ("Device: " ++ name)
    listDevices rest

/-- The part of the test that has a log handler. -/
def survey (budget : Nat) (s : Settings) : Attempt Outcome := do
  let devices : List String ← .of (Host.request .deviceList)
  .line (toString devices.length ++ " devices")
  match devices with
  | [] => pure .noDevices
  | first :: _ =>
    listDevices devices
    let device ← Device.opened first
    let (applied, report) ← withDevice budget device s
    pure (.completed applied report)

/-- The whole test.  It gives up when a read beyond the budget would be due. -/
def run (budget : Nat) (s : Settings) : Attempt Outcome := do
  let version : String ← .always (Host.request .libraryVersion)
  .line ("Lime API Version: " ++ version)
  LogScope.within .forward (survey budget s)

end SmokeTest
end RadioBench
