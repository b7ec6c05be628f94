/-
The requests of a timed loop of reads.

Each turn of the loop makes one read, and asks for the stream's status when a report
is due.  The first failure ends the loop and is its outcome.
-/
import RadioBench.Proofs.Guard.Trace

namespace RadioBench
namespace Stream

open Prog

/-- The requests of one turn: a read into a buffer, and a query for the status if the
turn ends with a report. -/
def turnRequests (n : StreamHandle) (timeout : Duration) : SampleBuffer × Bool → List Request
  | (buffer, true) => [.recvStream n buffer none timeout, .streamStatus n]
  | (buffer, false) => [.recvStream n buffer none timeout]

/-- The requests of a loop with these turns. -/
def loopRequests (n : StreamHandle) (timeout : Duration) (turns : List (SampleBuffer × Bool)) :
    List Request := turns.flatMap (turnRequests n timeout)

theorem forall_loopRequests {P : Request → Prop} {n : StreamHandle} {timeout : Duration}
    (hrecv : ∀ buffer, P (.recvStream n buffer none timeout)) (hstatus : P (.streamStatus n))
    (turns : List (SampleBuffer × Bool)) : ∀ q ∈ loopRequests n timeout turns, P q := by
  intro q hq
  obtain ⟨⟨buffer, reports⟩, -, hq⟩ := List.mem_flatMap.mp hq
  cases reports with
  | false => exact List.mem_singleton.mp hq ▸ hrecv buffer
  | true =>
    have hq' : q = .recvStream n buffer none timeout ∨ q = .streamStatus n := by
      simpa [turnRequests] using hq
    rcases hq' with rfl | rfl
    · exact hrecv buffer
    · exact hstatus

variable {s : Stream} {es : List (Event Host)}

theorem performs_status : Attempt.Performs s.status [.streamStatus s.handle] :=
  .request rfl fun _ x h => ⟨x, Host.yields_request_iff.mp h, rfl⟩

/-- Ask for the status and write the two lines of its report. -/
def announce (s : Stream) : Attempt StreamStatus := do
  let status ← s.status
  .line (rateLine s.config.channel.direction status)
  .line (fifoLine s.config.channel.direction status)
  pure status

/-- Read once and count what came. -/
def take (s : Stream) (timeout : Duration) (p : Progress) : Attempt Progress := do
  let got ← Attempt.always (s.recv p.buffer none timeout)
  let n ← (liftExcept got.result : Attempt Nat)
  pure (p.counted n got.buffer)

/-- Look at the clock after a read, and report if that is due. -/
def settle (s : Stream) (interval : Duration) (watch : Stopwatch) (p : Progress) :
    Attempt Progress := do
  let now ← Attempt.always Host.now
  if interval < watch.elapsed now - p.last then
    let status ← s.announce
    pure (p.reported (watch.elapsed now) status)
  else
    pure p

/-- One turn of the loop. -/
def turn (s : Stream) (timing : Timing) (watch : Stopwatch) (p : Progress) : Attempt Progress := do
  let p ← s.take timing.timeout p
  s.settle timing.interval watch p

theorem pump_zero (timing : Timing) (watch : Stopwatch) (p : Progress) :
    s.pump timing watch 0 p = (do
      let head ← Attempt.always Host.now
      if watch.elapsed head < timing.duration then .always .exhausted else pure p) := by
  rw [pump]

theorem pump_succ (timing : Timing) (watch : Stopwatch) (budget : Nat) (p : Progress) :
    s.pump timing watch (budget + 1) p = (do
      let head ← Attempt.always Host.now
      if watch.elapsed head < timing.duration then do
        let p ← s.turn timing watch p
        s.pump timing watch budget p
      else
        pure p) := by
  rw [pump]
  refine bind_congr fun head => ?_
  split
  · simp only [turn, take, settle, announce, LawfulMonad.bind_assoc, LawfulMonad.pure_bind]
    refine bind_congr fun got => bind_congr fun n => bind_congr fun now => ?_
    split
    · simp only [LawfulMonad.bind_assoc, LawfulMonad.pure_bind]
    · rw [LawfulMonad.pure_bind]
  · rfl

theorem performs_announce : Attempt.Performs s.announce [.streamStatus s.handle] :=
  performs_status.step fun _ => .skip (.line _) fun _ => .skip (.line _) fun _ => .pure _

theorem performs_take (timeout : Duration) (p : Progress) :
    Attempt.Performs (s.take timeout p) [.recvStream s.handle p.buffer none timeout] := by
  intro es r h
  obtain ⟨got, es₁, es₂, rfl, h₁, h₂⟩ := Attempt.yields_always_bind_iff.mp h
  obtain rfl := of_yields_recv h₁
  have hfatal : Event.fatal? ⟨.inl (.recvStream s.handle p.buffer none timeout), got⟩ =
      failureOf got.result := rfl
  rcases Attempt.yields_bind_iff.mp h₂ with ⟨n, es₃, es₄, rfl, h₃, h₄⟩ | ⟨e, rfl, h₃⟩
  · obtain ⟨rfl, hn⟩ := Attempt.yields_liftExcept_iff.mp h₃
    obtain ⟨rfl, rfl⟩ := Attempt.yields_pure_iff.mp h₄
    rw [← hn] at hfatal
    exact ⟨clean_cons.mpr ⟨hfatal, clean_nil⟩, rfl⟩
  · obtain ⟨rfl, hn⟩ := Attempt.yields_liftExcept_iff.mp h₃
    rw [← hn] at hfatal
    exact ⟨stopsAt_single hfatal, List.prefix_rfl⟩

theorem cut_now (t : Duration) {α : Type} (a : α) : Cut [] [⟨.inr .now, t⟩] (.ok a) :=
  ⟨clean_cons.mpr ⟨rfl, clean_nil⟩, rfl⟩

theorem cut_settle {interval : Duration} {watch : Stopwatch} {p : Progress}
    {r : Except Error Progress} (h : (s.settle interval watch p).run.Yields es r) :
    Cut [] es r ∨ Cut [.streamStatus s.handle] es r := by
  obtain ⟨t, es₁, es₂, rfl, h₁, h₂⟩ := Attempt.yields_always_bind_iff.mp h
  obtain rfl := Host.yields_now_iff.mp h₁
  split at h₂
  · have hcut := performs_announce.bind (fun _ => Attempt.Performs.pure _) es₂ r h₂
    exact .inr ((cut_now t ()).append hcut)
  · exact .inl ((cut_now t ()).append (Attempt.Performs.pure _ es₂ r h₂))

theorem cut_turn {timing : Timing} {watch : Stopwatch} {p : Progress}
    {r : Except Error Progress} (h : (s.turn timing watch p).run.Yields es r) :
    ∃ reports, Cut (turnRequests s.handle timing.timeout (p.buffer, reports)) es r := by
  rcases Attempt.yields_bind_iff.mp h with ⟨p', es₁, es₂, rfl, h₁, h₂⟩ | ⟨e, rfl, h₁⟩
  · have htake := performs_take _ _ _ _ h₁
    rcases cut_settle h₂ with hcut | hcut
    · exact ⟨false, htake.append hcut⟩
    · exact ⟨true, htake.append hcut⟩
  · exact ⟨false, (performs_take _ _ _ _ h₁).extend []⟩

theorem cut_pump {timing : Timing} {watch : Stopwatch} {budget : Nat} {p : Progress}
    {r : Except Error Progress} (h : (s.pump timing watch budget p).run.Yields es r) :
    ∃ turns, Cut (loopRequests s.handle timing.timeout turns) es r := by
  induction budget generalizing p es r with
  | zero =>
    rw [pump_zero] at h
    obtain ⟨t, es₁, es₂, rfl, h₁, h₂⟩ := Attempt.yields_always_bind_iff.mp h
    obtain rfl := Host.yields_now_iff.mp h₁
    split at h₂
    · obtain ⟨a, -, ha⟩ := Attempt.yields_always_iff.mp h₂
      exact absurd ha not_yields_exhausted
    · obtain ⟨rfl, rfl⟩ := Attempt.yields_pure_iff.mp h₂
      exact ⟨[], cut_now t p⟩
  | succ budget ih =>
    rw [pump_succ] at h
    obtain ⟨t, es₁, es₂, rfl, h₁, h₂⟩ := Attempt.yields_always_bind_iff.mp h
    obtain rfl := Host.yields_now_iff.mp h₁
    split at h₂
    · rcases Attempt.yields_bind_iff.mp h₂ with ⟨p', es₃, es₄, rfl, h₃, h₄⟩ | ⟨e, rfl, h₃⟩
      · obtain ⟨reports, hturn⟩ := cut_turn h₃
        obtain ⟨turns, hcut⟩ := ih h₄
        refine ⟨(p.buffer, reports) :: turns, ?_⟩
        exact (cut_now t ()).append (hturn.append hcut)
      · obtain ⟨reports, hturn⟩ := cut_turn h₃
        refine ⟨[(p.buffer, reports)], ?_⟩
        exact (cut_now t ()).append (hturn.extend [])
    · obtain ⟨rfl, rfl⟩ := Attempt.yields_pure_iff.mp h₂
      exact ⟨[], cut_now t p⟩

theorem cut_receiveFor {budget : Nat} {buffer : SampleBuffer} {timing : Timing}
    {r : Except Error Report} (h : (s.receiveFor budget buffer timing).run.Yields es r) :
    ∃ turns, Cut (loopRequests s.handle timing.timeout turns) es r := by
  obtain ⟨t, es₁, es₂, rfl, h₁, h₂⟩ := Attempt.yields_always_bind_iff.mp h
  obtain rfl := Host.yields_now_iff.mp h₁
  rcases Attempt.yields_bind_iff.mp h₂ with ⟨p, es₃, es₄, rfl, h₃, h₄⟩ | ⟨e, rfl, he⟩
  · obtain ⟨turns, hcut⟩ := cut_pump h₃
    obtain ⟨t', es₅, es₆, rfl, h₅, h₆⟩ := Attempt.yields_always_bind_iff.mp h₄
    obtain rfl := Host.yields_now_iff.mp h₅
    obtain ⟨rfl, rfl⟩ := Attempt.yields_pure_iff.mp h₆
    exact ⟨turns, by simpa using ((cut_now t ()).append hcut).append (cut_now t' _)⟩
  · obtain ⟨turns, hcut⟩ := cut_pump he
    exact ⟨turns, by simpa using ((cut_now t ()).append hcut).extend []⟩

end Stream
end RadioBench
