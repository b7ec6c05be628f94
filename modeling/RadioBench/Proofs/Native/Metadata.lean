/-
What goes along with samples that are read or written.

The library gets a copy of the caller's metadata, or none if the caller gave none.  It may rewrite
all of its copy.  Only a read hands something back, and only the time stamp, and only when the read
succeeds.

The caller says in nanoseconds how long it waits, and the library counts milliseconds in 32 bits.

Nothing is assumed of a reply.  A read or a write begins with its call, as `begins_recvStream` and
`begins_sendStream` say, and it never fails to end.  So there is a run of it for every reply to the
call, and what its run comes to is seen from that reply alone.
-/
import RadioBench.Native.Scripted
import RadioBench.Proofs.Native.Session

namespace RadioBench

/-- Whether to wait for the time stamp, and whether to send what fills no packet. -/
def StreamMeta.flags (m : StreamMeta) : Bool × Bool := (m.waitForTimestamp, m.flushPartialPacket)

namespace Native

open Prog

/-! ## Milliseconds -/

/-- The library waits as long as it can without waiting longer than the caller asked. -/
theorem isGreatest_timeoutMillis (d : Duration) :
    IsGreatest {k | k < UInt32.size ∧ Duration.ofMillis k ≤ d} (timeoutMillis d) := by
  have hpos : 0 < UInt32.size := by decide
  constructor
  · constructor
    · exact Nat.lt_of_le_sub_one hpos (Nat.min_le_right _ _)
    · calc timeoutMillis d * 1000000
          ≤ d.nanos / 1000000 * 1000000 := Nat.mul_le_mul_right _ (Nat.min_le_left _ _)
        _ ≤ d.nanos := Nat.div_mul_le_self _ _
  · rintro k ⟨hcount, hwithin⟩
    have hmillis : k ≤ d.toMillis := (Nat.le_div_iff_mul_le (by decide)).mpr hwithin
    exact Nat.le_min.mpr ⟨hmillis, Nat.le_sub_one_of_lt hcount⟩

theorem timeoutMillis_le {d d' : Duration} (h : d ≤ d') : timeoutMillis d ≤ timeoutMillis d' := by
  have hmillis : d.toMillis ≤ d'.toMillis := Nat.div_le_div_right h
  exact Nat.le_min.mpr
    ⟨Nat.le_trans (Nat.min_le_left _ _) hmillis, Nat.min_le_right _ _⟩

/-! ## Replies -/

/-- Everything may be replied to, as the scripted library and a clock that stands still show. -/
theorem nonempty_reply (o : Machine.Op) : Nonempty (Machine.Reply o) := by
  cases o with
  | inl c => exact ⟨(Scripted.answer c .start).1⟩
  | inr o =>
    cases o with
    | now => exact ⟨Duration.zero⟩
    | note e => exact ⟨()⟩
    | write text => exact ⟨(.ok () : Except String Unit)⟩

/-- How a read comes out when the library replies so to its call. -/
structure ReadBy (block : StreamBlock) (buffer : SampleBuffer) (info : Option StreamMeta)
    (timeout : Duration) (a : Reply RecvOut) (ms : List (Event Machine)) (x : Received) :
    Prop where
  /-- The library is called once.  It gets all of the metadata that the caller gave, if any. -/
  called : ∃ rest,
    ms = ⟨.inl (.stream block (.recv buffer.capacity info (timeoutMillis timeout))), a⟩ ::
      rest ∧ ∀ ev ∈ rest, Aside ev
  returned : 0 ≤ a.code → x.result = .ok a.code.toNat ∧ x.info = info.map (stamped a)
  failed : a.code < 0 → (∃ e, x.result = .error e) ∧ x.info = info
  /-- Whatever the library made of its copy. -/
  flags : x.info.map StreamMeta.flags = info.map StreamMeta.flags
  /-- A new time stamp gets to the caller if and only if the read succeeded. -/
  stamp : ∀ m, info = some m → (copyAfter a m).timestamp ≠ m.timestamp →
    (x.info.map (·.timestamp) = some (copyAfter a m).timestamp ↔ ∃ k, x.result = .ok k)

/-- How a write comes out when the library replies so to its call.  The metadata is only read:
neither the reply nor what the caller is answered has room for any. -/
structure WrittenBy (block : StreamBlock) (buffer : SampleBuffer) (count : Nat)
    (info : Option StreamMeta) (timeout : Duration) (a : Reply Unit) (ms : List (Event Machine))
    (r : Except Error Nat) : Prop where
  called : ∃ rest,
    ms = ⟨.inl (.stream block (.send (buffer.leading (min count buffer.capacity))
      (min count buffer.capacity) info (timeoutMillis timeout))), a⟩ :: rest ∧
      ∀ ev ∈ rest, Aside ev
  returned : 0 ≤ a.code → r = .ok a.code.toNat
  failed : a.code < 0 → ∃ e, r = .error e

variable {slot : StreamSlot} {buffer : SampleBuffer} {info : Option StreamMeta}
  {timeout : Duration}

namespace Binding

variable {b : Binding} {ms : List (Event Machine)} {n : StreamHandle} {count : Nat}

theorem readBy_of_yields {x : Received} (hn : b.streams.get? n.index = some slot)
    (hformat : slot.format = buffer.format)
    (h : (b.recvStream n buffer info timeout).Yields ms x) :
    ∃ a, ReadBy slot.block buffer info timeout a ms x := by
  obtain ⟨a, rest, rfl, hrest, ⟨hcode, rfl⟩ | ⟨hcode, message, rfl⟩⟩ :=
    of_yields_recvStream hn hformat h
  · exact ⟨a, {
      called := ⟨rest, rfl, hrest⟩
      returned := fun _ => ⟨rfl, rfl⟩
      failed := fun hneg => absurd hcode (Int.not_le.mpr hneg)
      flags := Option.map_map _ _ _
      stamp := by
        rintro m rfl -
        exact ⟨fun _ => ⟨_, rfl⟩, fun _ => rfl⟩ }⟩
  · exact ⟨a, {
      called := ⟨rest, rfl, hrest⟩
      returned := fun hnonneg => absurd hcode (Int.not_lt.mpr hnonneg)
      failed := fun _ => ⟨⟨_, rfl⟩, rfl⟩
      flags := rfl
      stamp := by
        rintro m rfl hnew
        constructor
        · intro hsame
          exact absurd (Option.some.inj hsame).symm hnew
        · rintro ⟨k, hk⟩
          cases hk }⟩

theorem writtenBy_of_yields {r : Except Error Nat} (hn : b.streams.get? n.index = some slot)
    (hformat : slot.format = buffer.format)
    (h : (b.sendStream n buffer count info timeout).run.Yields ms r) :
    ∃ a, WrittenBy slot.block buffer count info timeout a ms r := by
  obtain ⟨a, rest, rfl, hrest, ⟨hcode, rfl⟩ | ⟨hcode, message, rfl⟩⟩ :=
    of_yields_sendStream hn hformat h
  · exact ⟨a, ⟨rest, rfl, hrest⟩, fun _ => rfl, fun hneg => absurd hcode (Int.not_le.mpr hneg)⟩
  · exact ⟨a, ⟨rest, rfl, hrest⟩, fun hnonneg => absurd hnonneg hcode, fun _ => ⟨_, rfl⟩⟩

theorem begins_recvStream (hn : b.streams.get? n.index = some slot)
    (hformat : slot.format = buffer.format) :
    ∃ k, b.perform (.recvStream n buffer info timeout) = .ask
      (.inl (.stream slot.block (.recv buffer.capacity info (timeoutMillis timeout)))) k := by
  rw [perform, recvStream_of_held hn hformat]
  exact ⟨_, rfl⟩

theorem begins_sendStream (hn : b.streams.get? n.index = some slot)
    (hformat : slot.format = buffer.format) :
    ∃ k, b.perform (.sendStream n buffer count info timeout) = .ask
      (.inl (.stream slot.block (.send (buffer.leading (min count buffer.capacity))
        (min count buffer.capacity) info (timeoutMillis timeout)))) k := by
  rw [perform, sendStream_of_held hn hformat]
  exact ⟨_, rfl⟩

/-- A request that begins with a call is served whatever the reply to the call is. -/
theorem exists_serves {request : Request} {o : Machine.Op}
    (hbegins : ∃ k, b.perform request = .ask o k) (a : Machine.Reply o) :
    ∃ answer rest c, (⟨request, answer, ⟨o, a⟩ :: rest⟩ : Service).Serves b c := by
  obtain ⟨k, hk⟩ := hbegins
  have hends : ∀ ms, ¬ (Prog.ask o k).Exhausts ms := by
    rw [← hk]
    exact ends_operation b (.inl request)
  obtain ⟨rest, ⟨answer, c⟩, hyields⟩ := exists_yields_cons nonempty_reply hends a
  exact ⟨answer, rest, c, by rw [Service.Serves, hk]; exact hyields⟩

/-- What is passed on along with the samples of a stream. -/
structure PassesOn (b : Binding) (n : StreamHandle) (block : StreamBlock) (buffer : SampleBuffer)
    (info : Option StreamMeta) (timeout : Duration) : Prop where
  read : ∀ x ms c, (⟨.recvStream n buffer info timeout, x, ms⟩ : Service).Serves b c →
    c = b ∧ ∃ a, ReadBy block buffer info timeout a ms x
  /-- Any reply may come. -/
  readable : ∀ a, ∃ x ms, (⟨.recvStream n buffer info timeout, x, ms⟩ : Service).Serves b b ∧
    ReadBy block buffer info timeout a ms x
  readEnds : ∀ ms, ¬ (b.perform (.recvStream n buffer info timeout)).Exhausts ms
  written : ∀ count r ms c,
    (⟨.sendStream n buffer count info timeout, r, ms⟩ : Service).Serves b c →
      c = b ∧ ∃ a, WrittenBy block buffer count info timeout a ms r
  writable : ∀ count a, ∃ r ms,
    (⟨.sendStream n buffer count info timeout, r, ms⟩ : Service).Serves b b ∧
      WrittenBy block buffer count info timeout a ms r
  writeEnds : ∀ count ms, ¬ (b.perform (.sendStream n buffer count info timeout)).Exhausts ms
  waits : IsGreatest {k | k < UInt32.size ∧ Duration.ofMillis k ≤ timeout} (timeoutMillis timeout)
  monotone : ∀ longer, timeout ≤ longer → timeoutMillis timeout ≤ timeoutMillis longer

/-- Whatever was asked before, and whatever the library replies. -/
theorem session_passesOn {session : List Service} (h : Path Service.Serves fresh session b)
    (hheld : (n.index, slot) ∈ streamsHeld session) (hformat : slot.format = buffer.format)
    (info : Option StreamMeta) (timeout : Duration) : b.PassesOn n slot.block buffer info timeout := by
  obtain ⟨now, hn, rfl⟩ := (mem_streamsHeld_iff h).mp hheld
  have hread : ∀ x ms c, (⟨.recvStream n buffer info timeout, x, ms⟩ : Service).Serves b c →
      c = b ∧ ∃ a, ReadBy now.block buffer info timeout a ms x := by
    intro x ms c hs
    obtain ⟨⟨x', hrecv, rfl⟩, rfl⟩ := yields_keeping_iff.mp hs
    exact ⟨rfl, readBy_of_yields hn hformat hrecv⟩
  have hwritten : ∀ count r ms c,
      (⟨.sendStream n buffer count info timeout, r, ms⟩ : Service).Serves b c →
        c = b ∧ ∃ a, WrittenBy now.block buffer count info timeout a ms r := by
    intro count r ms c hs
    obtain ⟨hsend, rfl⟩ := of_yields_keep hs
    exact ⟨rfl, writtenBy_of_yields hn hformat hsend⟩
  exact {
    read := hread
    readable := by
      intro a
      obtain ⟨x, rest, c, hs⟩ := exists_serves (begins_recvStream hn hformat) a
      obtain ⟨rfl, a', hx⟩ := hread x _ c hs
      obtain ⟨rest', hrest, -⟩ := hx.called
      cases hrest
      exact ⟨x, _, hs, hx⟩
    readEnds := ends_operation b (.inl (.recvStream n buffer info timeout))
    written := hwritten
    writable := by
      intro count a
      obtain ⟨r, rest, c, hs⟩ := exists_serves (begins_sendStream hn hformat) a
      obtain ⟨rfl, a', hr⟩ := hwritten count r _ c hs
      obtain ⟨rest', hrest, -⟩ := hr.called
      cases hrest
      exact ⟨r, _, hs, hr⟩
    writeEnds := fun count => ends_operation b (.inl (.sendStream n buffer count info timeout))
    waits := isGreatest_timeoutMillis timeout
    monotone := fun _ hle => timeoutMillis_le hle }

/-- A device is opened, and a stream set up on it. -/
def oneStream : List Service := [openedAs 0 ⟨7⟩, setUpAs 0 0 ⟨7⟩ ⟨0, 3⟩]

/-- The library turns both flags over and sets the time to 9.  The caller, who would wait for ever,
sees the time when no samples were there to read, and nothing when the read failed. -/
theorem oneStream_passesOn :
    ∃ b, Path Service.Serves fresh oneStream b ∧
      streamsHeld oneStream = [(0, ⟨⟨0⟩, .f32, false, ⟨0, 3⟩⟩)] ∧
      b.PassesOn ⟨0⟩ ⟨0, 3⟩ (.zeros .f32 2) (some ⟨5, true, false⟩) .limit ∧
      timeoutMillis .limit = 4294967295 ∧
      (∃ x ms, (⟨.recvStream ⟨0⟩ (.zeros .f32 2) (some ⟨5, true, false⟩) .limit, x, ms⟩ :
          Service).Serves b b ∧
        x.result = .ok 0 ∧ x.info = some ⟨9, true, false⟩) ∧
      ∃ x ms, (⟨.recvStream ⟨0⟩ (.zeros .f32 2) (some ⟨5, true, false⟩) .limit, x, ms⟩ :
          Service).Serves b b ∧
        (∃ e, x.result = .error e) ∧ x.info = some ⟨5, true, false⟩ := by
  have hpath : Path Service.Serves fresh oneStream
      ⟨⟨#[some ⟨7⟩]⟩, ⟨#[some ⟨⟨0⟩, .f32, false, ⟨0, 3⟩⟩]⟩, none, 1⟩ :=
    .cons (serves_openedAs rfl) (.cons (.ask _ (.done _)) (.nil _))
  have hheld : (0, ⟨⟨0⟩, .f32, false, ⟨0, 3⟩⟩) ∈ streamsHeld oneStream := List.mem_singleton.mpr rfl
  have hpasses : PassesOn _ ⟨0⟩ ⟨0, 3⟩ (.zeros .f32 2) (some ⟨5, true, false⟩) .limit :=
    session_passesOn hpath hheld rfl _ _
  obtain ⟨x, ms, hserves, hread⟩ := hpasses.readable ⟨0, ⟨#[], some ⟨9, false, true⟩⟩, []⟩
  obtain ⟨x', ms', hserves', hread'⟩ := hpasses.readable ⟨-1, ⟨#[], some ⟨9, false, true⟩⟩, []⟩
  exact ⟨_, hpath, rfl, hpasses, by decide, ⟨x, ms, hserves, hread.returned (by decide)⟩,
    x', ms', hserves', hread'.failed (by decide)⟩

end Binding
end Native
end RadioBench
