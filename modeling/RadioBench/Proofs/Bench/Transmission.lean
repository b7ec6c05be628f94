/-
Writes that ask for more samples than the buffer holds.

A program says how many samples of its buffer are to be written, and may say more than there are.
The driver on the library cuts such a number down to the buffer, and a guard does the same before
it asks its driver.  On the library a guard and its driver are therefore one program.

The simulator does not look at the size of the buffer.  A transmitter that runs answers the number
that it was asked for, so that without a guard it seems to have written samples that were not there.
It is the only such case, and the only one in which a guard makes a difference.
-/
import RadioBench.Proofs.Bench.Agreement
import RadioBench.Proofs.Native.Extent
import RadioBench.Proofs.Native.Metadata
import RadioBench.Proofs.Simulator.Effect

namespace RadioBench

open Prog

variable {buffer : SampleBuffer} {count : Nat} {info : Option StreamMeta} {timeout : Duration}

/-! ## On the library -/

namespace Native
namespace Binding

variable {b : Binding} {ms : List (Event Machine)} {n : StreamHandle} {operation : String}
  {function : StreamFunction} {error : Option Error}

/-- The samples that a served request moves are those of its one call. -/
theorem Moving.moved (h : b.Moving operation n buffer function ms error) {number : Nat}
    (hmoved : ∀ block a, moved? ⟨.inl (.stream block function), a⟩ = some (block, number)) :
    (∀ slot, b.streams.get? n.index = some slot → slot.format = buffer.format →
        ms.filterMap moved? = [(slot.block, number)]) ∧
      ∀ block k, (block, k) ∈ ms.filterMap moved? → k = number := by
  cases h with
  | dead hn =>
    constructor
    · intro slot hslot
      rw [hn] at hslot
      cases hslot
    · intro block k hk
      cases hk
  | mismatch hn hformat =>
    constructor
    · intro slot hslot hsame
      rw [hn] at hslot
      exact absurd (Option.some.inj hslot ▸ hsame) hformat
    · intro block k hk
      cases hk
  | @called slot hn hformat a rest hrest =>
    have hquiet : rest.filterMap moved? = [] :=
      List.filterMap_eq_nil_iff.mpr fun ev hev => (hrest ev hev).moved?
    rw [List.filterMap_cons_some (hmoved slot.block a), hquiet]
    constructor
    · intro slot' hslot _
      rw [hn] at hslot
      rw [Option.some.inj hslot]
    · intro block k hk
      exact congrArg Prod.snd (List.mem_singleton.mp hk)

/-- A number that was cut down to the buffer is not cut down again. -/
theorem sendStream_min (n : StreamHandle) :
    b.sendStream n buffer (min count buffer.capacity) info timeout =
      b.sendStream n buffer count info timeout := by
  rw [sendStream, sendStream, Nat.min_assoc, Nat.min_self]

/-- A program that only asks its driver is what the driver makes of the request. -/
theorem host_request (b : Binding) (r : Request) : b.host (Host.request r) = b.perform r :=
  bind_done (b.perform r)

/-- What becomes of a write on the library, with a guard and without one. -/
structure KeepsWithin (b : Binding) (stream : Stream) (buffer : SampleBuffer) (count : Nat)
    (info : Option StreamMeta) (timeout : Duration) : Prop where
  /-- It always comes to an end, and leaves the driver as it was. -/
  ends : ∀ ms, ¬ (b.perform (.sendStream stream.handle buffer count info timeout)).Exhausts ms
  kept : ∀ r ms c, (⟨.sendStream stream.handle buffer count info timeout, r, ms⟩ :
    Service).Serves b c → c = b
  /-- A stream that is live and of the buffer's format is given samples once. -/
  once : ∀ r ms c, (⟨.sendStream stream.handle buffer count info timeout, r, ms⟩ :
    Service).Serves b c → ∀ slot, b.streams.get? stream.handle.index = some slot →
      slot.format = buffer.format →
        ms.filterMap moved? = [(slot.block, min count buffer.capacity)]
  /-- No stream is given more than the buffer holds or than was asked for. -/
  within : ∀ r ms c, (⟨.sendStream stream.handle buffer count info timeout, r, ms⟩ :
    Service).Serves b c → ∀ block k, (block, k) ∈ ms.filterMap moved? →
      k ≤ min count buffer.capacity
  /-- The guard is the same program as its driver. -/
  guarded : b.host (stream.send buffer count info timeout).run =
    b.host (Host.request (.sendStream stream.handle buffer count info timeout))

theorem keepsWithin (b : Binding) (stream : Stream) (buffer : SampleBuffer) (count : Nat)
    (info : Option StreamMeta) (timeout : Duration) :
    b.KeepsWithin stream buffer count info timeout where
  ends := ends_operation b (.inl (.sendStream stream.handle buffer count info timeout))
  kept r ms c hs := (of_yields_keep hs).2
  once r ms c hs := by
    obtain ⟨hsend, -⟩ := of_yields_keep hs
    exact ((moving_sendStream hsend).moved fun _ _ => rfl).1
  within r ms c hs block k hk := by
    obtain ⟨hsend, -⟩ := of_yields_keep hs
    exact Nat.le_of_eq (((moving_sendStream hsend).moved fun _ _ => rfl).2 block k hk)
  guarded := by
    show b.host (Host.request (.sendStream stream.handle buffer (min count buffer.capacity) info
      timeout)) = _
    rw [host_request, host_request, perform, perform, sendStream_min]

end Binding
end Native

/-! ## On the simulator -/

namespace Simulator

open Step

variable {s t : State} {n : StreamHandle} {st : StreamState}

/-- Whether a stream takes samples. -/
def StreamState.transmits (st : StreamState) : Bool :=
  st.config.channel.direction.isTx && st.running

/-- The stream takes what is written from the buffer, and the next write is not going to fail. -/
structure State.Accepts (s : State) (n : StreamHandle) (buffer : SampleBuffer) (st : StreamState) :
    Prop where
  live : s.streams.find? n = some st
  format : st.config.dataFormat = buffer.format
  unarmed : "send_stream" ∉ s.armed

/-- The number of samples that are asked for plays no part in whether a write is refused. -/
theorem sendStream_cases (s : State) (n : StreamHandle) (buffer : SampleBuffer) :
    (∃ e t, ∀ count, sendStream n buffer count s = (.error e, t)) ∨
      ∃ st, s.Accepts n buffer st ∧ ∀ count, sendStream n buffer count s =
        (.ok (if st.transmits then count else 0), s.recorded "send_stream") := by
  by_cases harmed : "send_stream" ∈ s.armed
  · refine .inl ⟨.failed "send_stream" ("send_stream" ++ " rejected by device"),
      s.rejected "send_stream", fun count => ?_⟩
    rw [sendStream, onStream, attempt_of_armed harmed]
  cases hst : s.streams.find? n with
  | none =>
    refine .inl ⟨.invalidHandle, s.recorded "send_stream", fun count => ?_⟩
    rw [sendStream, onStream, attempt_of_not_armed harmed]
    simp only [show (s.recorded "send_stream").streams.find? n = none from hst]
  | some st =>
    by_cases hformat : st.config.dataFormat = buffer.format
    · refine .inr ⟨st, ⟨hst, hformat, harmed⟩, fun count => ?_⟩
      rw [sendStream, onStream_of_live harmed hst, if_neg (not_not_intro hformat)]
      show (if st.transmits then _ else _ : Step Nat) _ = _
      cases st.transmits <;> rfl
    · refine .inl ⟨.failed "send_stream" "buffer format does not match stream",
        s.recorded "send_stream", fun count => ?_⟩
      rw [sendStream, onStream_of_live harmed hst, if_pos hformat]
      rfl

theorem sendStream_of_accepts (h : s.Accepts n buffer st) (count : Nat) :
    sendStream n buffer count s =
      (.ok (if st.transmits then count else 0), s.recorded "send_stream") := by
  rcases sendStream_cases s n buffer with ⟨e, t, hrefused⟩ | ⟨st', h', htaken⟩
  · -- a write that asks for nothing would be refused, too
    have hnone := hrefused 0
    rw [sendStream, onStream_of_live h.unarmed h.live, if_neg (not_not_intro h.format)] at hnone
    split at hnone <;> cases hnone
  · obtain rfl := Option.some.inj (h.live.symm.trans h'.live)
    exact htaken count

/-- Asking for what the buffer holds is answered by what it holds of the other answer. -/
theorem sendStream_min (s : State) (n : StreamHandle) (buffer : SampleBuffer) (count : Nat) :
    sendStream n buffer (min count buffer.capacity) s =
      ((sendStream n buffer count s).1.map (min · buffer.capacity),
        (sendStream n buffer count s).2) := by
  rcases sendStream_cases s n buffer with ⟨e, t, hrefused⟩ | ⟨st, -, htaken⟩
  · rw [hrefused, hrefused]
    rfl
  · rw [htaken, htaken]
    cases st.transmits with
    | true => rfl
    | false => simp [Except.map]

/-- No more is answered than was asked for. -/
theorem sendStream_of_ok {k : Nat} (h : sendStream n buffer count s = (.ok k, t)) :
    k ≤ count ∧ ∃ st, s.Accepts n buffer st ∧ k = if st.transmits then count else 0 := by
  rcases sendStream_cases s n buffer with ⟨e, t', hrefused⟩ | ⟨st, hst, htaken⟩
  · rw [hrefused] at h
    cases h
  · rw [htaken] at h
    obtain rfl := Except.ok.inj (congrArg Prod.fst h)
    refine ⟨?_, st, hst, rfl⟩
    split
    · exact Nat.le_refl _
    · exact Nat.zero_le _

/-- A guard asks its driver for what the buffer holds. -/
theorem reaches_send_iff {stream : Stream} {r : Except Error Nat} :
    Reaches s (stream.send buffer count info timeout).run r t ↔
      sendStream stream.handle buffer (min count buffer.capacity) s = (r, t) := by
  constructor
  · rintro ⟨es, hes, hpath⟩
    exact perform_of_request
      (r := .sendStream stream.handle buffer (min count buffer.capacity) info timeout) hes hpath
  · intro h
    exact Reaches.request
      (r := .sendStream stream.handle buffer (min count buffer.capacity) info timeout) h

/-- A guard changes nothing but the answer. -/
theorem reaches_send_iff_of_answer {stream : Stream} {r r' : Except Error Nat} {t' : State}
    (h : sendStream stream.handle buffer count s = (r, t)) :
    Reaches s (stream.send buffer count info timeout).run r' t' ↔
      r' = r.map (min · buffer.capacity) ∧ t' = t := by
  rw [reaches_send_iff, sendStream_min, h, Prod.mk.injEq]
  exact and_congr eq_comm eq_comm

/-- What becomes of a write on the simulator, with a guard and without one. -/
structure Overruns (s : State) (stream : Stream) (buffer : SampleBuffer) (count : Nat)
    (info : Option StreamMeta) (timeout : Duration) : Prop where
  /-- A transmitter that runs answers the number that it was asked for. -/
  takesAll : ∀ st, s.Accepts stream.handle buffer st →
    Does (.served (.sendStream stream.handle buffer count info timeout)
      (.ok (if st.transmits then count else 0) : Except Error Nat)) s (s.recorded "send_stream")
  /-- That is more than the buffer holds just when the number was. -/
  within : ∀ k t, Does (.served (.sendStream stream.handle buffer count info timeout)
      (.ok k : Except Error Nat)) s t → ∃ st, s.Accepts stream.handle buffer st ∧
        (k ≤ min count buffer.capacity ↔ st.transmits = false ∨ count ≤ buffer.capacity)
  /-- A guard changes nothing but the answer, and makes it fit the buffer. -/
  guarded : ∀ (r r' : Except Error Nat) t t',
    Does (.served (.sendStream stream.handle buffer count info timeout) r) s t →
      (Reaches s (stream.send buffer count info timeout).run r' t' ↔
        r' = r.map (min · buffer.capacity) ∧ t' = t)
  /-- It makes no difference just when the driver itself keeps to the buffer. -/
  agrees : ∀ (r : Except Error Nat) t,
    Does (.served (.sendStream stream.handle buffer count info timeout) r) s t →
      (Reaches s (stream.send buffer count info timeout).run r t ↔
        ∀ k, r = .ok k → k ≤ min count buffer.capacity)
  guardedWithin : ∀ k t, Reaches s (stream.send buffer count info timeout).run (.ok k) t →
    k ≤ min count buffer.capacity

theorem overruns (s : State) (stream : Stream) (buffer : SampleBuffer) (count : Nat)
    (info : Option StreamMeta) (timeout : Duration) :
    Overruns s stream buffer count info timeout := by
  constructor
  · exact fun st hst => sendStream_of_accepts hst count
  · intro k t hk
    obtain ⟨-, st, hst, rfl⟩ := sendStream_of_ok hk
    refine ⟨st, hst, ?_⟩
    cases st.transmits with
    | true =>
      rw [if_pos rfl, Nat.le_min]
      simp
    | false => simp
  · exact fun r r' t t' hr => reaches_send_iff_of_answer hr
  · intro r t hr
    rw [reaches_send_iff_of_answer hr]
    cases r with
    | error e => simp [Except.map]
    | ok k =>
      obtain ⟨hle, -⟩ := sendStream_of_ok hr
      simp only [Except.map, Except.ok.injEq, and_true, forall_eq']
      omega
  · intro k t hk
    exact (sendStream_of_ok (reaches_send_iff.mp hk)).1

end Simulator

namespace Bench

/-- Of the two drivers it is only the simulator that answers a write with more samples than the
buffer holds, and a guard keeps it from that. -/
theorem onlySimulator_overruns (stream : Stream) (buffer : SampleBuffer) (count : Nat)
    (info : Option StreamMeta) (timeout : Duration) :
    (∀ b : Native.Binding, b.KeepsWithin stream buffer count info timeout) ∧
      ∀ s, Simulator.Overruns s stream buffer count info timeout :=
  ⟨fun b => b.keepsWithin stream buffer count info timeout,
    fun s => Simulator.overruns s stream buffer count info timeout⟩

/-- A device is opened, and a stream for writing is set up on it and started. -/
def transmitting : List Simulator.Deed :=
  [.served (.openDevice "sim") (.ok ⟨0⟩ : Except Error DeviceHandle),
    .served (.setupStream ⟨0⟩ (.standard ⟨.tx, 0⟩)) (.ok ⟨1⟩ : Except Error StreamHandle),
    .served (.startStream ⟨1⟩) (.ok () : Except Error Unit)]

/-- A guard on a running stream for writing. -/
def writersGuard (n : Nat) : Stream where
  device := ⟨0⟩
  handle := ⟨n⟩
  config := .standard ⟨.tx, 0⟩
  running := true

open Native Native.Binding in
/-- A thousand samples are asked for out of a buffer with 64.  The simulator says that it took them
all, where its guard answers 64.  The library is given 64. -/
theorem transmitting_overruns :
    (∃ s, Simulator.Session ["sim"] transmitting s ∧
      Simulator.Does (.served (.sendStream ⟨1⟩ (.zeros .f32 64) 1000 none .zero)
        (.ok 1000 : Except Error Nat)) s (s.recorded "send_stream") ∧
      Simulator.Reaches s ((writersGuard 1).send (.zeros .f32 64) 1000 none .zero).run (.ok 64)
        (s.recorded "send_stream") ∧
      ¬ Simulator.Reaches s ((writersGuard 1).send (.zeros .f32 64) 1000 none .zero).run
        (.ok 1000) (s.recorded "send_stream")) ∧
      ∃ b, Path Service.Serves fresh oneStream b ∧ ∃ r ms,
        (⟨.sendStream ⟨0⟩ (.zeros .f32 64) 1000 none .zero, r, ms⟩ : Service).Serves b b ∧
          ms.filterMap moved? = [(⟨0, 3⟩, 64)] := by
  have hroom : (SampleBuffer.zeros .f32 64).capacity = 64 := SampleBuffer.capacity_zeros .f32 64
  constructor
  · obtain ⟨s, hpath, hrunning⟩ : ∃ s, Simulator.Session ["sim"] transmitting s ∧
        s.Accepts ⟨1⟩ (.zeros .f32 64) ⟨.standard ⟨.tx, 0⟩, true, 0⟩ :=
      ⟨_, .cons rfl <| .cons rfl <| .cons rfl <| .nil _, rfl, rfl, List.not_mem_nil⟩
    obtain ⟨-, hsimulated⟩ :=
      onlySimulator_overruns (writersGuard 1) (.zeros .f32 64) 1000 none .zero
    have hoverruns := hsimulated s
    have hall := hoverruns.takesAll _ hrunning
    refine ⟨s, hpath, hall, ?_, fun hsame => ?_⟩
    · refine (hoverruns.guarded _ _ _ _ hall).mpr ⟨?_, rfl⟩
      show Except.ok 64 = Except.ok (min 1000 _)
      rw [hroom]
      rfl
    · have hfits := (hoverruns.agrees _ _ hall).mp hsame 1000 rfl
      rw [hroom] at hfits
      omega
  · obtain ⟨b, hpath, hn⟩ : ∃ b, Path Service.Serves fresh oneStream b ∧
        b.streams.get? 0 = some ⟨⟨0⟩, .f32, false, ⟨0, 3⟩⟩ :=
      ⟨_, .cons (serves_openedAs rfl) (.cons (.ask _ (.done _)) (.nil _)), rfl⟩
    have hformat : DataFormat.f32 = (SampleBuffer.zeros .f32 64).format := rfl
    generalize SampleBuffer.zeros .f32 64 = buffer at hroom hformat
    obtain ⟨hnative, -⟩ := onlySimulator_overruns (writersGuard 0) buffer 1000 none .zero
    obtain ⟨r, rest, c, hs⟩ := exists_serves
      (@begins_sendStream _ buffer none .zero b ⟨0⟩ 1000 hn hformat) (⟨64, (), []⟩ : Reply Unit)
    obtain rfl := (hnative b).kept _ _ _ hs
    refine ⟨c, hpath, r, _, hs, ?_⟩
    rw [(hnative c).once _ _ _ hs _ hn hformat, hroom]
    rfl

end Bench
end RadioBench
