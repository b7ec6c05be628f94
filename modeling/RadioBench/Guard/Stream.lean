/-
Streams of samples.

A stream is set up on a device.  Giving it back stops it first when it is
running; a failure to stop only leaves a warning, and the stream is destroyed
all the same.  A value of type `Stream` stands for a stream that has not been
given back yet.

`receiveFor` reads until a span of time has passed.  Its reports follow the
clock and not the number of reads: one is written after a read whenever more
than the interval has passed since the last one.
-/
import RadioBench.Clock.Bank
import RadioBench.Decimal.Plain
import RadioBench.Guard.Device

namespace RadioBench

structure Stream where
  /-- The device it was set up on. -/
  device : DeviceHandle
  handle : StreamHandle
  config : StreamConfig
  running : Bool

/-- What a timed loop of reads saw. -/
structure Report where
  reads : Nat
  /-- Reads that brought no samples. -/
  timeouts : Nat
  samples : UInt64
  /-- Statuses, each with its time since the start of the loop. -/
  statuses : Array (Duration × StreamStatus)
  elapsed : Duration

/-- The times that govern a loop of reads. -/
structure Timing where
  /-- How long one read may wait. -/
  timeout : Duration
  /-- How long to go on reading. -/
  duration : Duration
  /-- How long to wait between reports. -/
  interval : Duration

namespace Stream

/-- Set a stream up on a device. -/
def setup (d : Device) (config : StreamConfig) : Attempt Stream := do
  let handle : StreamHandle ← .of (Host.request (.setupStream d.handle config))
  .debug ("stream " ++ handle.text ++ " set up on " ++ config.channel.text)
  pure { device := d.handle, handle := handle, config := config, running := false }

/-- A buffer for the stream's samples. -/
def buffer (s : Stream) (samples : Nat) : SampleBuffer := .zeros s.config.dataFormat samples

def start (s : Stream) : Attempt Stream := do
  let () ← .of (Host.request (.startStream s.handle))
  pure { s with running := true }

/-- Only a running stream can be stopped. -/
def stop (s : Stream) : Attempt Stream :=
  if s.running then do
    let () ← .of (Host.request (.stopStream s.handle))
    pure { s with running := false }
  else throw .notRunning

def recv (s : Stream) (buffer : SampleBuffer) (info : Option StreamMeta) (timeout : Duration) :
    Prog Host Received :=
  Host.request (.recvStream s.handle buffer info timeout)

/-- Write at most as many samples as the buffer holds. -/
def send (s : Stream) (buffer : SampleBuffer) (count : Nat) (info : Option StreamMeta)
    (timeout : Duration) : Attempt Nat :=
  .of (Host.request (.sendStream s.handle buffer (min count buffer.capacity) info timeout))

def status (s : Stream) : Attempt StreamStatus := .of (Host.request (.streamStatus s.handle))

/-- Stop the stream if it is running, then destroy it. -/
def destroy (s : Stream) : Attempt Unit := do
  if s.running then
    match ← Attempt.always (Host.request (.stopStream s.handle)) with
    | .ok () => pure ()
    | .error e => .warn ("error stopping stream " ++ s.handle.text ++ ": " ++ e.message)
  .of (Host.request (.destroyStream s.device s.handle))

/-- Give the stream back; a failure only leaves a warning. -/
def drop (s : Stream) : Prog Host Unit := do
  match ← s.destroy.run with
  | .ok () => pure ()
  | .error e => Host.note (.warn ("error destroying stream: " ++ e.message))

/-- Carry a program out and drop the stream should the program fail. -/
def guarding {α : Type} (s : Stream) (p : Attempt α) : Attempt α :=
  .of do
    match ← p.run with
    | .ok a => pure (.ok a)
    | .error e =>
      s.drop
      pure (.error e)

/-- How far a timed loop has come. -/
structure Progress where
  report : Report
  /-- When the last report was written, since the start of the loop. -/
  last : Duration
  buffer : SampleBuffer

namespace Progress

def begin (buffer : SampleBuffer) : Progress where
  report := { reads := 0, timeouts := 0, samples := 0, statuses := #[], elapsed := .zero }
  last := .zero
  buffer := buffer

/-- Count a read of `n` samples. -/
def counted (p : Progress) (n : Nat) (buffer : SampleBuffer) : Progress :=
  { p with
    buffer := buffer
    report := { p.report with
      reads := p.report.reads + 1
      samples := p.report.samples + n.toUInt64
      timeouts := if n = 0 then p.report.timeouts + 1 else p.report.timeouts } }

/-- Keep a status that was reported at `time`. -/
def reported (p : Progress) (time : Duration) (status : StreamStatus) : Progress :=
  { p with
    last := time
    report := { p.report with statuses := p.report.statuses.push (time, status) } }

end Progress

/-- The first line of a report. -/
def rateLine (direction : Direction) (status : StreamStatus) : String :=
  direction.text ++ " data rate: " ++ Decimal.plain (status.linkRate / 1e6) ++ " MB/s"

/-- The second line of a report. -/
def fifoLine (direction : Direction) (status : StreamStatus) : String :=
  direction.text ++ " fifo: " ++ Decimal.plain status.fifoFillPercent ++ "%"

/-- The loop of reads.  It ends when the duration has passed, and gives up when a
read beyond the budget would be due. -/
def pump (s : Stream) (timing : Timing) (watch : Stopwatch) :
    (budget : Nat) → Progress → Attempt Progress
  | budget, p => do
    let head ← Attempt.always Host.now
    if watch.elapsed head < timing.duration then
      match budget with
      | 0 => .always .exhausted
      | budget + 1 =>
        let got ← Attempt.always (s.recv p.buffer none timing.timeout)
        let n ← (liftExcept got.result : Attempt Nat)
        let p := p.counted n got.buffer
        let time := watch.elapsed (← Attempt.always Host.now)
        if timing.interval < time - p.last then
          let status ← s.status
          .line (rateLine s.config.channel.direction status)
          .line (fifoLine s.config.channel.direction status)
          s.pump timing watch budget (p.reported time status)
        else
          s.pump timing watch budget p
    else
      pure p

/-- Read into a buffer until the duration has passed, with reports. -/
def receiveFor (s : Stream) (budget : Nat) (buffer : SampleBuffer) (timing : Timing) :
    Attempt Report := do
  let watch : Stopwatch := ⟨← Attempt.always Host.now⟩
  let p ← s.pump timing watch budget (.begin buffer)
  let time := watch.elapsed (← Attempt.always Host.now)
  pure { p.report with elapsed := time }

end Stream
end RadioBench
