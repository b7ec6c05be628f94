/-
The timed loop of reads on a simulated radio.

On a simulator whose settings nobody changes, every read takes the same time and brings
the same number of samples, and the clock moves by nothing else.  The state after any
number of reads is then known beforehand, and so is the report: reads until the duration is
covered, and a report after every so many of them.
-/
import RadioBench.Bench.Station
import RadioBench.Proofs.Guard.Turns
import RadioBench.Proofs.Simulator.Steady

namespace RadioBench
namespace Bench

open Simulator

/-- A stream on a simulator, and how it is going to be read. -/
structure Reception where
  state : State
  handle : StreamHandle
  stream : StreamState
  buffer : SampleBuffer
  timing : Timing

namespace Reception

/-- Every read waits until its timeout. -/
def TimesOut (z : Reception) : Prop :=
  z.state.starved ∨ z.timing.timeout < z.state.readLatency

instance (z : Reception) : Decidable z.TimesOut :=
  inferInstanceAs (Decidable (_ ∨ _))

/-- The time that one read takes. -/
def step (z : Reception) : Duration :=
  if z.TimesOut then z.timing.timeout else z.state.readLatency

/-- The samples that one read brings. -/
def count (z : Reception) : Nat := if z.TimesOut then 0 else z.buffer.capacity

/-- The time that reads take. -/
def offset (z : Reception) (reads : Nat) : Duration := ⟨reads * z.step.nanos⟩

/-- The reads that it takes to cover the duration. -/
def reads (z : Reception) : Nat :=
  (z.timing.duration.nanos + z.step.nanos - 1) / z.step.nanos

/-- The reads from one report to the next. -/
def period (z : Reception) : Nat := z.timing.interval.nanos / z.step.nanos + 1

/-- The reading of the clock after reads. -/
def clock (z : Reception) (reads : Nat) : Duration :=
  ⟨z.state.clock.nanos + reads * z.step.nanos⟩

/-- The stream after reads. -/
def streamAfter (z : Reception) (reads : Nat) : StreamState :=
  { z.stream with received := z.stream.received + (reads * z.count).toUInt64 }

/-- The status of the stream after reads. -/
def statusAfter (z : Reception) (reads : Nat) : StreamStatus :=
  { StreamStatus.zeros with
    active := z.stream.running
    fifoFilledCount := z.stream.config.fifoSize / 4
    fifoSize := z.stream.config.fifoSize
    sampleRate := z.state.sampleRate
    linkRate := z.state.sampleRate * 3
    timestamp := (z.streamAfter reads).received }

/-- The reports among the first reads. -/
def statuses (z : Reception) (reads : Nat) : List (Duration × StreamStatus) :=
  (List.range (reads / z.period)).map fun k =>
    (z.offset ((k + 1) * z.period), z.statusAfter ((k + 1) * z.period))

/-- The loop can be carried out: the stream is there and runs, neither a read nor a query
for the status is going to be rejected, and the clock can show every time of the loop. -/
structure Ready (z : Reception) : Prop where
  live : z.state.streams.find? z.handle = some z.stream
  running : z.stream.running = true
  format : z.stream.config.dataFormat = z.buffer.format
  recv : "recv_stream" ∉ z.state.armed
  status : "stream_status" ∉ z.state.armed
  moves : 0 < z.step.nanos
  inTime : z.state.clock.nanos + z.reads * z.step.nanos ≤ Duration.limit.nanos

/-! ## Reads and reports, counted -/

variable {z : Reception} {j : Nat}

theorem lt_reads_iff (h : 0 < z.step.nanos) :
    j < z.reads ↔ z.offset j < z.timing.duration := by
  have hle : j + 1 ≤ z.reads ↔
      (j + 1) * z.step.nanos ≤ z.timing.duration.nanos + z.step.nanos - 1 :=
    Nat.le_div_iff_mul_le h
  rw [Nat.succ_mul] at hle
  rw [Duration.lt_def]
  show j + 1 ≤ z.reads ↔ j * z.step.nanos < z.timing.duration.nanos
  omega

theorem period_pos : 0 < z.period := Nat.succ_pos _

/-- A report is due after the reads that complete a period. -/
theorem due_iff (h : 0 < z.step.nanos) :
    z.timing.interval < z.offset (j + 1) - z.offset (j / z.period * z.period) ↔
      z.period ∣ j + 1 := by
  have hsplit : z.period * (j / z.period) + j % z.period = j := Nat.div_add_mod j z.period
  have hlt : j % z.period < z.period := Nat.mod_lt j period_pos
  have hspan : (z.offset (j + 1) - z.offset (j / z.period * z.period)).nanos =
      (j % z.period + 1) * z.step.nanos := by
    show (j + 1) * z.step.nanos - j / z.period * z.period * z.step.nanos = _
    rw [← Nat.sub_mul, Nat.mul_comm (j / z.period)]
    congr 1
    omega
  have hlate : z.timing.interval.nanos < (j % z.period + 1) * z.step.nanos ↔
      z.timing.interval.nanos / z.step.nanos < j % z.period + 1 :=
    (Nat.div_lt_iff_lt_mul h).symm
  have hdvd : z.period ∣ j + 1 ↔ z.period ∣ j % z.period + 1 := by
    conv_lhs => rw [← hsplit, Nat.add_assoc]
    exact Nat.dvd_add_right (Nat.dvd_mul_right _ _)
  have hperiod : z.period = z.timing.interval.nanos / z.step.nanos + 1 := rfl
  rw [Duration.lt_def, hspan, hlate, hdvd]
  constructor
  · intro hpassed
    have hfull : z.period = j % z.period + 1 := by omega
    exact ⟨1, by omega⟩
  · intro hcomplete
    have hle : z.period ≤ j % z.period + 1 := Nat.le_of_dvd (Nat.succ_pos _) hcomplete
    omega

theorem statuses_succ_of_dvd (h : z.period ∣ j + 1) :
    z.statuses (j + 1) = z.statuses j ++ [(z.offset (j + 1), z.statusAfter (j + 1))] := by
  have hdiv : (j + 1) / z.period = j / z.period + 1 := Nat.succ_div_of_dvd h
  have hmul : (j / z.period + 1) * z.period = j + 1 := by
    rw [← hdiv]
    exact Nat.div_mul_cancel h
  rw [statuses, statuses, hdiv, List.range_succ, List.map_append, List.map_singleton, hmul]

theorem statuses_succ_of_not_dvd (h : ¬ z.period ∣ j + 1) : z.statuses (j + 1) = z.statuses j := by
  rw [statuses, statuses, Nat.succ_div_of_not_dvd h]

/-! ## One request -/

/-- The station after reads, as far as the loop can tell. -/
structure After (z : Reception) (reads : Nat) (x : Simulated) : Prop where
  overlay : x.overlay = .none
  stream : x.state.streams.find? z.handle = some (z.streamAfter reads)
  listed : x.state.listed = z.state.listed
  devices : x.state.devices = z.state.devices
  armed : x.state.armed = z.state.armed
  latency : x.state.readLatency = z.state.readLatency
  starved : x.state.starved = z.state.starved
  rate : x.state.sampleRate = z.state.sampleRate
  clock : x.state.clock = z.clock reads

variable {x : Simulated}

theorem after_zero (h : z.Ready) (hstate : x.state = z.state) (hoverlay : x.overlay = .none) :
    After z 0 x where
  overlay := hoverlay
  stream := by
    rw [hstate, h.live, streamAfter, Nat.zero_mul]
    show some z.stream = some { z.stream with received := z.stream.received + 0 }
    rw [UInt64.add_zero]
  listed := by rw [hstate]
  devices := by rw [hstate]
  armed := by rw [hstate]
  latency := by rw [hstate]
  starved := by rw [hstate]
  rate := by rw [hstate]
  clock := by rw [hstate, clock, Nat.zero_mul, Nat.add_zero]

theorem clock_add? (h : z.Ready) (hj : j < z.reads) :
    (z.clock j).add? z.step = some (z.clock (j + 1)) := by
  have hsucc : (j + 1) * z.step.nanos = j * z.step.nanos + z.step.nanos := Nat.succ_mul ..
  have hmono : (j + 1) * z.step.nanos ≤ z.reads * z.step.nanos := Nat.mul_le_mul_right _ hj
  have hlimit := h.inTime
  have hsum : (z.clock j).nanos + z.step.nanos = (z.clock (j + 1)).nanos := by
    show z.state.clock.nanos + j * z.step.nanos + z.step.nanos =
      z.state.clock.nanos + (j + 1) * z.step.nanos
    omega
  have hle : (z.clock (j + 1)).nanos ≤ Duration.limit.nanos := by
    show z.state.clock.nanos + (j + 1) * z.step.nanos ≤ Duration.limit.nanos
    omega
  rw [Duration.add?, hsum, if_pos hle]

theorem received_succ (reads : Nat) :
    (z.streamAfter reads).received + z.count.toUInt64 = (z.streamAfter (reads + 1)).received := by
  show z.stream.received + (reads * z.count).toUInt64 + z.count.toUInt64 =
    z.stream.received + ((reads + 1) * z.count).toUInt64
  rw [Nat.succ_mul, UInt64.add_assoc]
  exact congrArg _ (UInt64.ofNat_add _ _).symm

theorem advance_after (h : z.Ready) (hj : j < z.reads) (hx : After z j x) (name : String) :
    (x.state.recorded name).advance z.step =
      (.ok (), { x.state.recorded name with clock := z.clock (j + 1) }) := by
  have hadd : (x.state.recorded name).clock.add? z.step = some (z.clock (j + 1)) := by
    show x.state.clock.add? z.step = _
    rw [hx.clock, clock_add? h hj]
  rw [State.advance, hadd]

theorem recvStream_after (h : z.Ready) (hj : j < z.reads) (hx : After z j x) :
    ∃ stamp t, recvStream z.handle z.buffer z.timing.timeout x.state = (.ok (z.count, stamp), t) ∧
      ∀ reads, After z (j + 1) { x with state := t, reads := reads } := by
  have harmed : "recv_stream" ∉ x.state.armed := hx.armed ▸ h.recv
  have hformat : ¬ (z.streamAfter j).config.dataFormat ≠ z.buffer.format := not_not.mpr h.format
  have hrunning : ¬ (!(z.streamAfter j).running) = true := by simp [streamAfter, h.running]
  have hwait : ((x.state.recorded "recv_stream").starved = true ∨
      z.timing.timeout < (x.state.recorded "recv_stream").readLatency) ↔ z.TimesOut := by
    show x.state.starved = true ∨ z.timing.timeout < x.state.readLatency ↔ _
    rw [hx.starved, hx.latency]
    rfl
  have hadvance := advance_after h hj hx "recv_stream"
  have hreceived := z.received_succ j
  rw [recvStream, onStream_of_live harmed hx.stream, if_neg hformat, if_neg hrunning]
  by_cases hout : z.TimesOut
  · have hstep : z.step = z.timing.timeout := if_pos hout
    have hcount : z.count = 0 := if_pos hout
    rw [if_pos (hwait.mpr hout), ← hstep, hadvance, hcount]
    refine ⟨none, _, rfl, fun reads => { hx with stream := ?_, clock := rfl }⟩
    have hsame : z.streamAfter j = z.streamAfter (j + 1) := by simp [streamAfter, hcount]
    exact hsame ▸ hx.stream
  · have hstep : z.step = z.state.readLatency := if_neg hout
    have hcount : z.count = z.buffer.capacity := if_neg hout
    have hlatency : (x.state.recorded "recv_stream").readLatency = z.step :=
      hx.latency.trans hstep.symm
    rw [if_neg (hout ∘ hwait.mp), hlatency, hadvance, ← hcount]
    refine ⟨_, _, rfl, fun reads => { hx with stream := ?_, clock := rfl }⟩
    show (x.state.streams.set z.handle
      { z.streamAfter j with received := _ }).find? z.handle = _
    rw [Table.find?_set_self, hreceived]
    rfl

theorem handle_recv (h : z.Ready) (hj : j < z.reads) (hx : After z j x) (k : Sink) :
    ∃ x', Simulated.handle (.inl (.recvStream z.handle z.buffer none z.timing.timeout)) (x, k) =
        (⟨.ok z.count, z.buffer, none⟩, (x', k)) ∧ After z (j + 1) x' := by
  obtain ⟨stamp, t, hrecv, hafter⟩ := recvStream_after h hj hx
  refine ⟨{ x with state := t, reads := x.reads + 1 }, ?_, hafter _⟩
  simp only [Simulated.handle, Simulated.perform, perform, hrecv, hx.overlay]
  rfl

theorem handle_status (h : z.Ready) (hx : After z j x) (k : Sink) :
    ∃ x', Simulated.handle (.inl (.streamStatus z.handle)) (x, k) =
        (.ok (z.statusAfter j), (x', k)) ∧ After z j x' := by
  have harmed : "stream_status" ∉ x.state.armed := hx.armed ▸ h.status
  have hperform : streamStatus z.handle x.state =
      (.ok (z.statusAfter j), x.state.recorded "stream_status") := by
    rw [streamStatus, onStream_of_live harmed hx.stream]
    simp only [State.recorded, hx.rate]
    rfl
  refine ⟨{ x with state := x.state.recorded "stream_status" }, ?_, { hx with }⟩
  simp only [Simulated.handle, Simulated.perform, perform, hperform, hx.overlay]
  rfl

/-! ## Programs -/

variable {s : Stream}

/-- A text is written to a place without a limit. -/
def put (k : Sink) (text : String) : Sink :=
  { k with stored := k.stored ++ (Text.Utf8.encode text).toArray }

/-- What is written by the reports among the first reads. -/
def written (z : Reception) (s : Stream) (reads : Nat) : Sink :=
  (Stream.reportTexts s.config.channel.direction (z.statuses reads)).foldl put (.empty none)

/-- How far the loop has come after reads. -/
def progress (z : Reception) (reads : Nat) : Stream.Progress where
  report := {
    reads := reads
    timeouts := if z.count = 0 then reads else 0
    samples := (reads * z.count).toUInt64
    statuses := (z.statuses reads).toArray
    elapsed := .zero }
  last := z.offset (reads / z.period * z.period)
  buffer := z.buffer

theorem run_line (text : String) {k : Sink} (hk : k.limit = none) :
    (Attempt.line text).run.run Simulated.handle (x, k) =
      (some (.ok ()), (x, put k (text ++ "\n"))) := by
  obtain ⟨stored, limit⟩ := k
  obtain rfl : limit = none := hk
  rfl

theorem run_now (k : Sink) :
    (Attempt.always Host.now).run.run Simulated.handle (x, k) =
      (some (.ok x.state.clock), (x, k)) := rfl

theorem run_take (h : z.Ready) (hs : s.handle = z.handle) (hj : j < z.reads) (hx : After z j x)
    (k : Sink) :
    ∃ x', (s.take z.timing.timeout (z.progress j)).run.run Simulated.handle (x, k) =
        (some (.ok ((z.progress j).counted z.count z.buffer)), (x', k)) ∧
      After z (j + 1) x' := by
  obtain ⟨x', hrecv, hafter⟩ := handle_recv h hj hx k
  refine ⟨x', ?_, hafter⟩
  rw [← hs] at hrecv
  have hop : (Attempt.always (s.recv z.buffer none z.timing.timeout)).run.run
      Simulated.handle (x, k) = (some (.ok ⟨.ok z.count, z.buffer, none⟩), (x', k)) := by
    exact Prog.run_lift_of_eq (Prog.run_op_of_eq hrecv)
  exact Prog.run_bind_ok hop

theorem run_announce (h : z.Ready) (hs : s.handle = z.handle) (hx : After z j x) {k : Sink}
    (hk : k.limit = none) :
    ∃ x', s.announce.run.run Simulated.handle (x, k) =
        (some (.ok (z.statusAfter j)), (x',
          (Stream.reportTexts s.config.channel.direction
            [(z.offset j, z.statusAfter j)]).foldl put k)) ∧
      After z j x' := by
  obtain ⟨x', hstatus, hafter⟩ := handle_status h hx k
  refine ⟨x', ?_, hafter⟩
  rw [← hs] at hstatus
  have hop : s.status.run.run Simulated.handle (x, k) =
      (some (.ok (z.statusAfter j)), (x', k)) := by
    exact Prog.run_op_of_eq hstatus
  rw [Stream.announce, Prog.run_bind_ok hop, Prog.run_bind_ok (run_line _ hk),
    Prog.run_bind_ok (run_line _ (by exact hk))]
  rfl

/-! ## The loop -/

theorem foldl_put_limit (k : Sink) (texts : List String) : (texts.foldl put k).limit = k.limit := by
  induction texts generalizing k with
  | nil => rfl
  | cons text texts ih => exact ih (put k text)

theorem foldl_put_stored (k : Sink) (texts : List String) :
    (texts.foldl put k).stored.toList = k.stored.toList ++ texts.flatMap Text.Utf8.encode := by
  induction texts generalizing k with
  | nil => simp
  | cons text texts ih => rw [List.foldl_cons, ih]; simp [put]

theorem written_limit (s : Stream) : (z.written s j).limit = none := foldl_put_limit _ _

theorem written_succ_of_dvd (h : z.period ∣ j + 1) :
    z.written s (j + 1) = (Stream.reportTexts s.config.channel.direction
      [(z.offset (j + 1), z.statusAfter (j + 1))]).foldl put (z.written s j) := by
  rw [written, written, statuses_succ_of_dvd h, Stream.reportTexts, List.flatMap_append,
    List.foldl_append]
  rfl

theorem written_succ_of_not_dvd (h : ¬ z.period ∣ j + 1) :
    z.written s (j + 1) = z.written s j := by
  rw [written, written, statuses_succ_of_not_dvd h]

/-- Counting a read changes neither the reports nor the time of the last one. -/
theorem counted_progress :
    (z.progress j).counted z.count z.buffer =
      { z.progress (j + 1) with
        last := z.offset (j / z.period * z.period)
        report := { (z.progress (j + 1)).report with
          statuses := (z.statuses j).toArray } } := by
  have htimeouts : (if z.count = 0 then (if z.count = 0 then j else 0) + 1
      else if z.count = 0 then j else 0) = if z.count = 0 then j + 1 else 0 := by
    by_cases hcount : z.count = 0
    · rw [if_pos hcount, if_pos hcount, if_pos hcount]
    · rw [if_neg hcount, if_neg hcount, if_neg hcount]
  have hsamples : (j * z.count).toUInt64 + z.count.toUInt64 = ((j + 1) * z.count).toUInt64 := by
    rw [Nat.succ_mul]
    exact (UInt64.ofNat_add _ _).symm
  simp only [Stream.Progress.counted, progress, htimeouts, hsamples]

theorem progress_succ_of_dvd (h : z.period ∣ j + 1) :
    ((z.progress j).counted z.count z.buffer).reported (z.offset (j + 1))
      (z.statusAfter (j + 1)) = z.progress (j + 1) := by
  have hlast : (j + 1) / z.period * z.period = j + 1 := Nat.div_mul_cancel h
  rw [counted_progress]
  simp only [Stream.Progress.reported, progress, statuses_succ_of_dvd h, hlast,
    List.push_toArray]

theorem progress_succ_of_not_dvd (h : ¬ z.period ∣ j + 1) :
    (z.progress j).counted z.count z.buffer = z.progress (j + 1) := by
  rw [counted_progress]
  simp only [progress, statuses_succ_of_not_dvd h, Nat.succ_div_of_not_dvd h]

theorem elapsed_clock : (⟨z.state.clock⟩ : Stopwatch).elapsed (z.clock j) = z.offset j := by
  show (⟨z.state.clock.nanos + j * z.step.nanos - z.state.clock.nanos⟩ : Duration) = _
  rw [Nat.add_sub_cancel_left]
  rfl

theorem run_turn (h : z.Ready) (hs : s.handle = z.handle) (hj : j < z.reads)
    (hx : After z j x) :
    ∃ x', (s.turn z.timing ⟨z.state.clock⟩ (z.progress j)).run.run Simulated.handle
        (x, z.written s j) =
        (some (.ok (z.progress (j + 1))), (x', z.written s (j + 1))) ∧
      After z (j + 1) x' := by
  obtain ⟨x₁, htake, hafter⟩ := run_take h hs hj hx (z.written s j)
  have hdue : z.timing.interval <
      z.offset (j + 1) - ((z.progress j).counted z.count z.buffer).last ↔ z.period ∣ j + 1 :=
    due_iff h.moves
  rw [Stream.turn, Prog.run_bind_ok htake, Stream.settle, Prog.run_bind_ok (run_now _),
    hafter.clock, elapsed_clock]
  -- the time of the last report is a whole number of periods, so this one is due when the
  -- read completes a period
  by_cases hdvd : z.period ∣ j + 1
  · obtain ⟨x₂, hannounce, hafter'⟩ :=
      run_announce h hs hafter (written_limit s : (z.written s j).limit = none)
    refine ⟨x₂, ?_, hafter'⟩
    rw [if_pos (hdue.mpr hdvd), Prog.run_bind_ok hannounce, progress_succ_of_dvd hdvd,
      written_succ_of_dvd hdvd]
    rfl
  · refine ⟨x₁, ?_, hafter⟩
    rw [if_neg (hdvd ∘ hdue.mp), progress_succ_of_not_dvd hdvd, written_succ_of_not_dvd hdvd]
    rfl

theorem run_pump_end (h : z.Ready) (hx : After z z.reads x) (budget : Nat) (k : Sink) :
    (s.pump z.timing ⟨z.state.clock⟩ budget (z.progress z.reads)).run.run Simulated.handle
      (x, k) = (some (.ok (z.progress z.reads)), (x, k)) := by
  have hend : ¬ z.offset z.reads < z.timing.duration := fun hlt =>
    Nat.lt_irrefl _ ((lt_reads_iff h.moves).mpr hlt)
  cases budget with
  | zero =>
    rw [Stream.pump_zero, Prog.run_bind_ok (run_now k), hx.clock, elapsed_clock, if_neg hend]
    rfl
  | succ budget =>
    rw [Stream.pump_succ, Prog.run_bind_ok (run_now k), hx.clock, elapsed_clock, if_neg hend]
    rfl

/-- The induction is on the reads that are left, and the state is known after each. -/
theorem run_pump (h : z.Ready) (hs : s.handle = z.handle) {left budget : Nat}
    (hbudget : left ≤ budget) (hleft : j + left = z.reads) (hx : After z j x) :
    ∃ x', (s.pump z.timing ⟨z.state.clock⟩ budget (z.progress j)).run.run Simulated.handle
        (x, z.written s j) =
        (some (.ok (z.progress z.reads)), (x', z.written s z.reads)) ∧
      After z z.reads x' := by
  induction left generalizing budget j x with
  | zero =>
    obtain rfl : j = z.reads := hleft
    exact ⟨x, run_pump_end h hx budget _, hx⟩
  | succ left ih =>
    obtain ⟨budget, rfl⟩ : ∃ b, budget = b + 1 := ⟨budget - 1, by omega⟩
    have hj : j < z.reads := by omega
    have hhead : z.offset j < z.timing.duration := (lt_reads_iff h.moves).mp hj
    obtain ⟨x₁, hturn, hafter⟩ := run_turn h hs hj hx
    obtain ⟨x₂, hrest, hafter'⟩ := ih (by omega : left ≤ budget) (by omega) hafter
    refine ⟨x₂, ?_, hafter'⟩
    rw [Stream.pump_succ, Prog.run_bind_ok (run_now _), hx.clock, elapsed_clock, if_pos hhead,
      Prog.run_bind_ok hturn]
    exact hrest

/-- The station before the loop. -/
def station (z : Reception) (served : Nat) : Simulated := ⟨z.state, .none, served⟩

theorem run_receiveFor (h : z.Ready) (hs : s.handle = z.handle) {budget : Nat}
    (hbudget : z.reads ≤ budget) (served : Nat) :
    ∃ x', Simulated.carryOut none (s.receiveFor budget z.buffer z.timing).run (z.station served) =
        (some (.ok { (z.progress z.reads).report with elapsed := z.offset z.reads }),
          x', z.written s z.reads) ∧ After z z.reads x' := by
  have hx : After z 0 (z.station served) := after_zero h rfl rfl
  obtain ⟨x', hpump, hafter⟩ := run_pump h hs hbudget (Nat.zero_add _) hx
  refine ⟨x', ?_, hafter⟩
  have hnone : z.statuses 0 = [] := by rw [statuses, Nat.zero_div]; rfl
  have hbegin : z.progress 0 = .begin z.buffer := by
    simp [progress, Stream.Progress.begin, hnone, offset, Duration.zero]
  have hempty : z.written s 0 = .empty none := by rw [written, hnone]; rfl
  rw [hbegin, hempty] at hpump
  rw [Simulated.carryOut, Stream.receiveFor, Prog.run_bind_ok (run_now _)]
  show Prog.run _ (ExceptT.run (s.pump z.timing ⟨z.state.clock⟩ budget _ >>= _)) _ = _
  have helapsed : (⟨z.state.clock⟩ : Stopwatch).elapsed x'.state.clock = z.offset z.reads := by
    rw [hafter.clock, elapsed_clock]
  rw [Prog.run_bind_ok hpump, Prog.run_bind_ok (run_now _), ← helapsed]
  rfl

/-- The report of a loop, foretold from the times of its reads. -/
structure Foretold (z : Reception) (report : Report) : Prop where
  reads : report.reads = z.reads
  elapsed : report.elapsed = ⟨z.reads * z.step.nanos⟩
  /-- The samples are counted in a word of 64 bits. -/
  samples : report.samples =
    (if z.TimesOut then 0 else z.reads * z.buffer.capacity).toUInt64
  timeouts : report.timeouts =
    if z.TimesOut ∨ z.buffer.capacity = 0 then z.reads else 0
  statuses : report.statuses.toList = (List.range (z.reads / z.period)).map fun k =>
    (⟨(k + 1) * z.period * z.step.nanos⟩, z.statusAfter ((k + 1) * z.period))

theorem foretold_progress :
    z.Foretold { (z.progress z.reads).report with elapsed := z.offset z.reads } where
  reads := rfl
  elapsed := rfl
  samples := by
    show (z.reads * z.count).toUInt64 = _
    by_cases hout : z.TimesOut <;> simp [count, hout]
  timeouts := by
    show (if z.count = 0 then z.reads else 0) = _
    by_cases hout : z.TimesOut <;> simp [count, hout]
  statuses := rfl

/-- A loop of reads on a stream that is there and runs, timed by the simulator's own clock,
ends after as many reads as cover the duration, and its report is the one foretold.  The
clock ends where these reads take it, and two lines are written for every status. -/
theorem receiveFor_isForetold (h : z.Ready) (hs : s.handle = z.handle) {budget : Nat}
    (hbudget : z.reads ≤ budget) (served : Nat) :
    ∃ report x' out,
      Simulated.carryOut none (s.receiveFor budget z.buffer z.timing).run (z.station served) =
        (some (.ok report), x', out) ∧
      z.Foretold report ∧
      x'.state.clock.nanos = z.state.clock.nanos + z.reads * z.step.nanos ∧
      out.stored.toList = (Stream.reportTexts s.config.channel.direction
        report.statuses.toList).flatMap Text.Utf8.encode := by
  obtain ⟨x', hrun, hafter⟩ := run_receiveFor h hs hbudget served
  refine ⟨_, x', _, hrun, foretold_progress, ?_, ?_⟩
  · rw [hafter.clock]
    rfl
  · rw [written, foldl_put_stored]
    exact List.nil_append _

/-- Reads that take a quarter of the duration each, on a clock that has already moved.  The
interval is one read long, and more than that has passed only after every second read. -/
def quarters : Reception :=
  let stream : StreamState := ⟨.standard ⟨.rx, 0⟩, true, 7⟩
  { state := { State.start ["mini"] with
      clock := ⟨40⟩
      nextHandle := 2
      devices := [⟨0⟩]
      streams := Table.empty.set ⟨1⟩ stream
      readLatency := ⟨250⟩ }
    handle := ⟨1⟩
    stream := stream
    buffer := .zeros .f32 3
    timing := ⟨⟨250⟩, ⟨1000⟩, ⟨250⟩⟩ }

theorem quarters_receiveFor_isForetold :
    quarters.Ready ∧ ∃ report x' out,
      Simulated.carryOut none
          ((⟨⟨0⟩, ⟨1⟩, .standard ⟨.rx, 0⟩, true⟩ : Stream).receiveFor 4 quarters.buffer
            quarters.timing).run
          (quarters.station 0) = (some (.ok report), x', out) ∧
        report.reads = 4 ∧ report.timeouts = 0 ∧ report.samples = 12 ∧
        report.elapsed = ⟨1000⟩ ∧ report.statuses.toList.map Prod.fst = [⟨500⟩, ⟨1000⟩] ∧
        x'.state.clock.nanos = 1040 := by
  have hready : quarters.Ready := {
    live := rfl
    running := rfl
    format := rfl
    recv := List.not_mem_nil
    status := List.not_mem_nil
    moves := by decide
    inTime := by decide }
  obtain ⟨report, x', out, hrun, hforetold, hclock, -⟩ :=
    receiveFor_isForetold (s := ⟨⟨0⟩, ⟨1⟩, .standard ⟨.rx, 0⟩, true⟩) hready rfl
      (by decide : quarters.reads ≤ 4) 0
  refine ⟨hready, report, x', out, hrun, hforetold.reads, hforetold.timeouts, hforetold.samples,
    hforetold.elapsed, ?_, hclock⟩
  rw [hforetold.statuses]
  rfl

end Reception
end Bench
end RadioBench
