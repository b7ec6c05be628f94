/-
Samples that are read and written.

A read or a write is refused without a call, or it is one call on the stream's block.  When the
stream is held and has the buffer's format, `recvStream_of_held` and `sendStream_of_held` say which
call it is.  What the request comes to is then a matter of the reply.
-/
import RadioBench.Proofs.Host.FirstError
import RadioBench.Proofs.Native.Calls

namespace RadioBench
namespace Native

open Prog

/-- The library's copy of the metadata after a read.  What it did not store is the caller's. -/
def copyAfter (a : Reply RecvOut) (given : StreamMeta) : StreamMeta := a.out.info.getD given

/-- The metadata with the time stamp of the library's copy. -/
def stamped (a : Reply RecvOut) (m : StreamMeta) : StreamMeta :=
  { m with timestamp := (copyAfter a m).timestamp }

theorem stamped_eq (a : Reply RecvOut) : stamped a = fun m =>
    { m with timestamp := (a.out.info.map (·.timestamp)).getD m.timestamp } := by
  funext m
  simp only [stamped, copyAfter, Option.getD_map]

namespace Binding

variable {b : Binding} {ms : List (Event Machine)} {n : StreamHandle} {slot : StreamSlot}
  {buffer : SampleBuffer} {count : Nat} {info : Option StreamMeta} {timeout : Duration}

/-- How a request is served that moves samples between a buffer and the stream with the handle:
what passes between the driver and the library, and the error if there is one. -/
inductive Moving (b : Binding) (operation : String) (n : StreamHandle) (buffer : SampleBuffer)
    (function : StreamFunction) : List (Event Machine) → Option Error → Prop
  | dead (hn : b.streams.get? n.index = none) :
      Moving b operation n buffer function [] (some .invalidHandle)
  | mismatch {slot : StreamSlot} (hn : b.streams.get? n.index = some slot)
      (hformat : slot.format ≠ buffer.format) :
      Moving b operation n buffer function []
        (some (.failed operation "buffer format does not match stream"))
  | called {slot : StreamSlot} (hn : b.streams.get? n.index = some slot)
      (hformat : slot.format = buffer.format) (a : Reply (Call.stream slot.block function).Out)
      {rest : List (Event Machine)} (hrest : ∀ ev ∈ rest, Aside ev) (error : Option Error) :
      Moving b operation n buffer function (⟨.inl (.stream slot.block function), a⟩ :: rest) error

/-- What is made of a result adds no events. -/
theorem of_yields_map {α β : Type} {p : Action α} {f : α → β} {r : Except Error β}
    (h : (p >>= fun a => (pure (f a) : Action β)).run.Yields ms r) :
    ∃ x, p.run.Yields ms x ∧ r = x.map f := by
  rcases yields_run_bind_iff.mp h with ⟨a, ms₁, ms₂, rfl, h₁, h₂⟩ | ⟨e, rfl, he⟩
  · obtain ⟨rfl, rfl⟩ := yields_run_pure_iff.mp h₂
    rw [List.append_nil]
    exact ⟨_, h₁, rfl⟩
  · exact ⟨_, he, rfl⟩

/-! ## Reads -/

/-- A read from a stream that is held is one call, and then a matter of its reply. -/
theorem recvStream_of_held (hn : b.streams.get? n.index = some slot)
    (hformat : slot.format = buffer.format) :
    b.recvStream n buffer info timeout =
      b.call (.stream slot.block (.recv buffer.capacity info (timeoutMillis timeout))) >>=
        fun (a : Reply RecvOut) =>
          if a.code < 0 then b.failure "recv_stream" >>= fun e =>
            pure ⟨.error e, buffer.store buffer.capacity a.out.data, info⟩
          else
            pure ⟨.ok a.code.toNat, buffer.store buffer.capacity a.out.data,
              info.map (stamped a)⟩ := by
  rw [recvStream]
  simp only [hn]
  rw [if_neg (not_not_intro hformat.symm)]
  refine congrArg (b.call _ >>= ·) (funext fun (a : Reply RecvOut) => ?_)
  rw [stamped_eq a]

/-- A read from a stream that is held.  The buffer is filled whatever the library returns, and
the time stamp is taken over only when it returns a count. -/
theorem of_yields_recvStream {x : Received} (hn : b.streams.get? n.index = some slot)
    (hformat : slot.format = buffer.format)
    (h : (b.recvStream n buffer info timeout).Yields ms x) :
    ∃ a : Reply RecvOut, ∃ rest,
      ms = ⟨.inl (.stream slot.block (.recv buffer.capacity info (timeoutMillis timeout))), a⟩ ::
        rest ∧ (∀ ev ∈ rest, Aside ev) ∧
      ((0 ≤ a.code ∧
          x = ⟨.ok a.code.toNat, buffer.store buffer.capacity a.out.data, info.map (stamped a)⟩) ∨
        (a.code < 0 ∧ ∃ message, x = ⟨.error (.failed "recv_stream" message),
          buffer.store buffer.capacity a.out.data, info⟩)) := by
  rw [recvStream_of_held hn hformat] at h
  obtain ⟨a, ms₁, ms₂, rfl, h₁, h₂⟩ := yields_bind_iff.mp h
  obtain ⟨notes, rfl, hnotes⟩ := of_yields_call h₁
  by_cases hcode : a.code < 0
  · rw [if_pos hcode] at h₂
    obtain ⟨e, ms₃, ms₄, rfl, h₃, h₄⟩ := yields_bind_iff.mp h₂
    obtain ⟨rfl, rfl⟩ := yields_done_iff.mp h₄
    obtain ⟨haside, message, rfl⟩ := of_yields_failure h₃
    rw [List.append_nil]
    have hrest := List.forall_mem_append.mpr ⟨hnotes.aside, haside⟩
    exact ⟨a, _, rfl, hrest, .inr ⟨hcode, message, rfl⟩⟩
  · rw [if_neg hcode] at h₂
    obtain ⟨rfl, rfl⟩ := yields_done_iff.mp h₂
    rw [List.append_nil]
    exact ⟨a, notes, rfl, hnotes.aside, .inl ⟨Int.not_lt.mp hcode, rfl⟩⟩

/-- A read that makes no call leaves the caller's buffer and metadata as they were. -/
theorem moving_recvStream {x : Received}
    (h : (b.recvStream n buffer info timeout).Yields ms x) :
    b.Moving "recv_stream" n buffer (.recv buffer.capacity info (timeoutMillis timeout)) ms
        (failureOf x.result) ∧
      (ms = [] → x.buffer = buffer ∧ x.info = info) := by
  cases hn : b.streams.get? n.index with
  | none =>
    rw [recvStream, hn] at h
    obtain ⟨rfl, rfl⟩ := yields_done_iff.mp h
    exact ⟨.dead hn, fun _ => ⟨rfl, rfl⟩⟩
  | some slot =>
    by_cases hformat : slot.format = buffer.format
    · obtain ⟨a, rest, rfl, hrest, -⟩ := of_yields_recvStream hn hformat h
      refine ⟨?_, fun hnone => by cases hnone⟩
      exact @Moving.called _ _ _ _ (.recv ..) slot hn hformat a _ hrest _
    · rw [recvStream] at h
      simp only [hn] at h
      rw [if_pos (Ne.symm hformat)] at h
      obtain ⟨rfl, rfl⟩ := yields_done_iff.mp h
      exact ⟨.mismatch hn hformat, fun _ => ⟨rfl, rfl⟩⟩

/-! ## Writes -/

/-- A write to a stream that is held is one call of a function that returns a count. -/
theorem sendStream_of_held (hn : b.streams.get? n.index = some slot)
    (hformat : slot.format = buffer.format) :
    b.sendStream n buffer count info timeout =
      b.counting "send_stream" (.stream slot.block
        (.send (buffer.leading (min count buffer.capacity)) (min count buffer.capacity) info
          (timeoutMillis timeout))) >>= fun x => pure x.1 := by
  rw [sendStream, stream, hn]
  simp only [pure_bind]
  rw [if_neg (not_not_intro hformat.symm)]

/-- A write to a stream that is held. -/
theorem of_yields_sendStream {r : Except Error Nat} (hn : b.streams.get? n.index = some slot)
    (hformat : slot.format = buffer.format)
    (h : (b.sendStream n buffer count info timeout).run.Yields ms r) :
    ∃ a : Reply Unit, ∃ rest,
      ms = ⟨.inl (.stream slot.block (.send (buffer.leading (min count buffer.capacity))
        (min count buffer.capacity) info (timeoutMillis timeout))), a⟩ :: rest ∧
      (∀ ev ∈ rest, Aside ev) ∧
      ((0 ≤ a.code ∧ r = .ok a.code.toNat) ∨
        (¬ 0 ≤ a.code ∧ ∃ message, r = .error (.failed "send_stream" message))) := by
  rw [sendStream_of_held hn hformat] at h
  obtain ⟨x, hcounting, rfl⟩ := of_yields_map h
  obtain ⟨a, rest, rfl, hrest, ⟨hcode, rfl⟩ | ⟨hcode, message, rfl⟩⟩ :=
    (asked_counting hcounting).aside
  · exact ⟨a, rest, rfl, hrest, .inl ⟨hcode, rfl⟩⟩
  · exact ⟨a, rest, rfl, hrest, .inr ⟨hcode, message, rfl⟩⟩

theorem moving_sendStream {r : Except Error Nat}
    (h : (b.sendStream n buffer count info timeout).run.Yields ms r) :
    b.Moving "send_stream" n buffer (.send (buffer.leading (min count buffer.capacity))
      (min count buffer.capacity) info (timeoutMillis timeout)) ms (failureOf r) := by
  cases hn : b.streams.get? n.index with
  | none =>
    rw [sendStream, stream, hn] at h
    obtain ⟨rfl, rfl⟩ := yields_done_iff.mp h
    exact .dead hn
  | some slot =>
    by_cases hformat : slot.format = buffer.format
    · obtain ⟨a, rest, rfl, hrest, -⟩ := of_yields_sendStream hn hformat h
      exact @Moving.called _ _ _ _ (.send ..) slot hn hformat a _ hrest _
    · rw [sendStream, stream, hn] at h
      simp only [pure_bind] at h
      rw [if_pos (Ne.symm hformat)] at h
      obtain ⟨rfl, rfl⟩ := yields_done_iff.mp h
      exact .mismatch hn hformat

end Binding
end Native
end RadioBench
