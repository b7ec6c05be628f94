/-
The account of a timed loop of reads.

A loop reads the clock at two points of each turn, at its head and after its read.  The
clock may stand still or run backwards between any two readings.  A turn is what the
outside world showed: both readings, what the read brought, and the status if one was
asked for.  The report of a loop that ends well is a function of its turns, and which
turns ask for a status follows from the readings.
-/
import Mathlib.Algebra.GroupWithZero.Nat
import Mathlib.Data.List.Chain
import RadioBench.Proofs.Guard.ReceiveLoop
import RadioBench.Proofs.Host.Heeds

namespace RadioBench

open Attempt

/-- What an event writes, if it does. -/
def Event.text? : Event Host → Option String
  | ⟨.inr (.write text), _⟩ => some text
  | _ => none

/-- The texts that events write, in order. -/
def texts (es : List (Event Host)) : List String := es.filterMap Event.text?

namespace Stream

/-- What the outside world showed in one turn of a loop. -/
structure Turn where
  /-- The clock at the head of the turn. -/
  head : Duration
  /-- The samples that the read brought. -/
  count : Nat
  buffer : SampleBuffer
  info : Option StreamMeta
  /-- The clock after the read. -/
  tail : Duration
  /-- The status, in a turn with a report. -/
  status : Option StreamStatus

variable {E : List (Event Host) → Prop} {s : Stream} {timing : Timing} {watch : Stopwatch}

/-! ## Events of turns -/

/-- The events of one report. -/
def announced (s : Stream) (status : StreamStatus) : List (Event Host) :=
  [⟨.inl (.streamStatus s.handle), .ok status⟩,
   .wrote (rateLine s.config.channel.direction status),
   .wrote (fifoLine s.config.channel.direction status)]

/-- The events of a turn after its head. -/
def Turn.body (s : Stream) (timeout : Duration) (buffer : SampleBuffer) (t : Turn) :
    List (Event Host) :=
  ⟨.inl (.recvStream s.handle buffer none timeout), ⟨.ok t.count, t.buffer, t.info⟩⟩ ::
    ⟨.inr .now, t.tail⟩ :: t.status.elim [] s.announced

/-- The events of turns.  Each read is made into the buffer that the one before left. -/
def turnEvents (s : Stream) (timeout : Duration) : SampleBuffer → List Turn → List (Event Host)
  | _, [] => []
  | buffer, t :: turns =>
    ⟨.inr .now, t.head⟩ :: (t.body s timeout buffer ++ s.turnEvents timeout t.buffer turns)

/-- The times and statuses that turns report. -/
def reports (watch : Stopwatch) (turns : List Turn) : List (Duration × StreamStatus) :=
  turns.filterMap fun t => t.status.map fun status => (watch.elapsed t.tail, status)

/-- The texts of reports: two lines for each status. -/
def reportTexts (direction : Direction) (statuses : List (Duration × StreamStatus)) :
    List String :=
  statuses.flatMap fun p => [rateLine direction p.2 ++ "\n", fifoLine direction p.2 ++ "\n"]

/-- Progress after a turn. -/
def Progress.after (watch : Stopwatch) (p : Progress) (t : Turn) : Progress :=
  let p := p.counted t.count t.buffer
  t.status.elim p (p.reported (watch.elapsed t.tail))

/-- When the last report was made, after a turn. -/
def Turn.latest (watch : Stopwatch) (last : Duration) (t : Turn) : Duration :=
  t.status.elim last fun _ => watch.elapsed t.tail

/-- What a report comes to over turns. -/
structure Tallies (watch : Stopwatch) (turns : List Turn) (before after : Report) : Prop where
  reads : after.reads = before.reads + turns.length
  timeouts : after.timeouts = before.timeouts + turns.countP (·.count = 0)
  samples : after.samples = before.samples + (turns.map Turn.count).sum.toUInt64
  statuses : after.statuses.toList = before.statuses.toList ++ reports watch turns

theorem Tallies.append {turns turns' : List Turn} {a b c : Report} (h : Tallies watch turns a b)
    (h' : Tallies watch turns' b c) : Tallies watch (turns ++ turns') a c where
  reads := by rw [h'.reads, h.reads, List.length_append, Nat.add_assoc]
  timeouts := by rw [h'.timeouts, h.timeouts, List.countP_append, Nat.add_assoc]
  samples := by
    have hsum := UInt64.ofNat_add (turns.map Turn.count).sum (turns'.map Turn.count).sum
    rw [h'.samples, h.samples, List.map_append, List.sum_append, UInt64.add_assoc]
    exact congrArg _ hsum.symm
  statuses := by
    rw [h'.statuses, h.statuses, List.append_assoc, reports, reports, reports,
      List.filterMap_append]

/-- Every turn begins before the duration has passed, and reports exactly when more than
the interval has passed since the last report. -/
def Paced (timing : Timing) (watch : Stopwatch) : Duration → List Turn → Prop
  | _, [] => True
  | last, t :: turns =>
    watch.elapsed t.head < timing.duration ∧
      (t.status.isSome ↔ timing.interval < watch.elapsed t.tail - last) ∧
        Paced timing watch (t.latest watch last) turns

/-- The time of the last report among turns, or `last` when there is none. -/
def lastReport (watch : Stopwatch) (last : Duration) (turns : List Turn) : Duration :=
  ((reports watch turns).map Prod.fst).getLastD last

theorem lastReport_cons (last : Duration) (t : Turn) (turns : List Turn) :
    lastReport watch last (t :: turns) = lastReport watch (t.latest watch last) turns := by
  obtain ⟨head, count, buffer, info, tail, status⟩ := t
  cases status with
  | none => rfl
  | some status => exact List.getLastD_cons ..

namespace Paced

variable {last : Duration} {turns : List Turn}

theorem goesOn (h : Paced timing watch last turns) :
    ∀ t ∈ turns, watch.elapsed t.head < timing.duration := by
  induction turns generalizing last with
  | nil => exact fun t ht => absurd ht List.not_mem_nil
  | cons t turns ih =>
    obtain ⟨hhead, -, hrest⟩ := h
    exact List.forall_mem_cons.mpr ⟨hhead, ih hrest⟩

theorem due (h : Paced timing watch last turns) {front back : List Turn} {t : Turn}
    (hturns : turns = front ++ t :: back) :
    t.status.isSome ↔
      timing.interval < watch.elapsed t.tail - lastReport watch last front := by
  induction front generalizing last turns with
  | nil =>
    subst hturns
    exact h.2.1
  | cons u front ih =>
    subst hturns
    rw [lastReport_cons]
    exact ih h.2.2 rfl

/-- From one report to the next more than the interval passes, and the first one comes
more than the interval after `last`. -/
theorem spaced (h : Paced timing watch last turns) :
    List.IsChain (fun a b => a.nanos + timing.interval.nanos < b.nanos)
      (last :: (reports watch turns).map Prod.fst) := by
  induction turns generalizing last with
  | nil => exact List.isChain_singleton last
  | cons t turns ih =>
    obtain ⟨-, hdue, hrest⟩ := h
    have hchain := ih hrest
    obtain ⟨head, count, buffer, info, tail, status⟩ := t
    cases status with
    | none => exact hchain
    | some status =>
      have hlate : timing.interval < watch.elapsed tail - last := hdue.mp rfl
      rw [Duration.lt_def, Duration.nanos_sub] at hlate
      have hnext : last.nanos + timing.interval.nanos < (watch.elapsed tail).nanos := by omega
      exact List.isChain_cons_cons.mpr ⟨hnext, hchain⟩

end Paced

/-! ## The loop -/

/-- A loop that ended well, as the outside world showed it. -/
structure Loop where
  /-- The clock when the loop began. -/
  start : Duration
  turns : List Turn
  /-- The clock at the head of the turn that was not made any more. -/
  finish : Duration
  /-- The clock when the report was made. -/
  close : Duration

namespace Loop

def stopwatch (l : Loop) : Stopwatch := ⟨l.start⟩

def events (l : Loop) (s : Stream) (timeout : Duration) (buffer : SampleBuffer) :
    List (Event Host) :=
  ⟨.inr .now, l.start⟩ ::
    (s.turnEvents timeout buffer l.turns ++ [⟨.inr .now, l.finish⟩, ⟨.inr .now, l.close⟩])

/-- The account of a loop: what its report says of its turns, when its turns report, and
when it ends. -/
structure Accounts (l : Loop) (timing : Timing) (report : Report) : Prop where
  goesOn : ∀ t ∈ l.turns, l.stopwatch.elapsed t.head < timing.duration
  ends : ¬ l.stopwatch.elapsed l.finish < timing.duration
  /-- A turn reports exactly when more than the interval has passed since the last report
  before it, or since the start. -/
  due : ∀ front t back, l.turns = front ++ t :: back →
    (t.status.isSome ↔
      timing.interval < l.stopwatch.elapsed t.tail - lastReport l.stopwatch .zero front)
  reads : report.reads = l.turns.length
  timeouts : report.timeouts = l.turns.countP (·.count = 0)
  samples : (l.turns.map Turn.count).sum < UInt64.size →
    report.samples.toNat = (l.turns.map Turn.count).sum
  statuses : report.statuses.toList = reports l.stopwatch l.turns
  spaced : List.IsChain (fun a b => a.nanos + timing.interval.nanos < b.nanos)
    (.zero :: report.statuses.toList.map Prod.fst)
  elapsed : report.elapsed = l.stopwatch.elapsed l.close

end Loop

end Stream
end RadioBench
