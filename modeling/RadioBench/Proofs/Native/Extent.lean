/-
The bytes that the library may touch.

To read or write samples the library is handed the address of a buffer and a number of samples.
It does not know where the buffer ends.  How many bytes it touches is the number of samples
times the size that a sample has in the data format that it was told when the stream was set up.

The driver keeps that format with the stream and compares it with the buffer's.  A slot that was
freed may have had a stream of another format before, so the comparison is of use only because
the slot's format is the one of the stream that has the slot now.
-/
import RadioBench.Proofs.Native.Numbers
import RadioBench.Proofs.Native.Ties

namespace RadioBench
namespace Native

open Prog

variable {ms ts rest : List (Event Machine)} {ev : Event Machine} {k : Nat}

/-! ## The format of a stream -/

/-- The data format that the library is told for the stream of the block. -/
def format? (serial : Nat) : Event Machine → Option UInt32
  | ⟨.inl (.setupStream _ block setup), _⟩ =>
    if block.serial = serial then some setup.dataFormat else none
  | _ => none

/-- The data formats in all calls that set up the stream of the block. -/
def formats (serial : Nat) (ms : List (Event Machine)) : List UInt32 :=
  ms.filterMap (format? serial)

@[simp]
theorem formats_append : formats k (ms ++ ts) = formats k ms ++ formats k ts :=
  List.filterMap_append

theorem block?_of_format? {code : UInt32} (h : format? k ev = some code) :
    ∃ block, block? ev = some block ∧ block.serial = k := by
  unfold format? at h
  split at h
  · exact ⟨_, rfl, (Option.ite_none_right_eq_some.mp h).1⟩
  · cases h

theorem formats_eq_nil (h : uses k ms = []) : formats k ms = [] :=
  filterMap_eq_nil_of_uses (fun _ _ => block?_of_format?) h

theorem formats_call (hrest : ∀ ev ∈ rest, Aside ev) :
    formats k (ev :: rest) = (format? k ev).toList := by
  have hquiet : formats k rest = [] := formats_eq_nil (uses_aside hrest)
  rw [← List.singleton_append, formats_append, hquiet, List.append_nil]
  cases h : format? k ev <;> simp [formats, h]

/-! ## Calls that move samples -/

/-- The block and the number of samples in a call that moves samples. -/
def moved? : Event Machine → Option (StreamBlock × Nat)
  | ⟨.inl (.stream block (.recv count _ _)), _⟩ => some (block, count)
  | ⟨.inl (.stream block (.send _ count _ _)), _⟩ => some (block, count)
  | _ => none

theorem Aside.moved? (h : Aside ev) : moved? ev = none := by
  cases h <;> rfl

/-- A request moves up to `requested` samples between the buffer and the stream with the handle,
and keeps to the bytes of the buffer. -/
structure StaysInside (session : List Service) (operation : String) (n : StreamHandle)
    (buffer : SampleBuffer) (requested : Nat) (ms : List (Event Machine))
    (error : Option Error) : Prop where
  /-- Without a stream there is no call. -/
  dead : n.index ∉ (streamsHeld session).map Prod.fst → error = some .invalidHandle ∧ ms = []
  /-- Nor is there one for a stream of another format. -/
  mismatch : ∀ slot, (n.index, slot) ∈ streamsHeld session → slot.format ≠ buffer.format →
    error = some (.failed operation "buffer format does not match stream") ∧ ms = []
  /-- Otherwise samples are moved once, and they are those of the stream with the handle. -/
  once : ∀ slot, (n.index, slot) ∈ streamsHeld session → slot.format = buffer.format →
    ms.filterMap moved? = [(slot.block, min requested buffer.capacity)]
  /-- The stream was set up with the buffer's format, and the samples lie in the buffer. -/
  inside : ∀ ev ∈ ms, ∀ block count, moved? ev = some (block, count) →
    (∃ number, buffer.format.Numbered number ∧
        formats block.serial (history session) = [number]) ∧
      (∃ size, buffer.format.Sized size ∧ count * size ≤ buffer.bytes.size) ∧ count ≤ requested

namespace Binding

variable {b b' : Binding} {session : List Service}

/-- No stream is set up that has an older block. -/
theorem Effect.formats_eq_nil {dm : Option (Slots.Move DeviceRef)}
    {sm : Option (Slots.Move StreamSlot)} (h : Effect b dm sm ms b') (hk : k < b.blocks) :
    formats k ms = [] := by
  have hnew : ∀ d setup a, format? k ⟨.inl (.setupStream d ⟨b.blocks, 0⟩ setup), a⟩ = none :=
    fun _ _ _ => if_neg (Nat.ne_of_gt hk)
  cases h with
  | plain hms => exact Native.formats_eq_nil (uses_eq_nil fun ev hev => (hms ev hev).1)
  | opened info a hcode hrest => exact formats_call hrest
  | closed handle d a hd hrest => exact formats_call hrest
  | setUp handle d config a hd hcode hrest hslot =>
    exact (formats_call hrest).trans (congrArg Option.toList (hnew d (setupOf config) a))
  | notSetUp d setup a hcode hrest =>
    exact (formats_call hrest).trans (congrArg Option.toList (hnew d setup a))
  | destroyed n d slot a hd hn hrest => exact formats_call hrest
  | switched n slot on a hn hcode hrest => exact formats_call hrest
  | used n slot f a hn hoff hrest => exact formats_call hrest

/-- A new stream is set up with the format that its slot has. -/
theorem Effect.formats_of_issued {dm : Option (Slots.Move DeviceRef)} {slot : StreamSlot} {i : Nat}
    (h : Effect b dm (some (.issued i slot)) ms b') :
    slot.block.serial = b.blocks ∧ formats slot.block.serial ms = [slot.format.code] := by
  cases h with
  | setUp handle d config a hd hcode hrest hslot =>
    subst hslot
    exact ⟨rfl, (formats_call hrest).trans (congrArg Option.toList (if_pos rfl))⟩

/-- A stream that is held was set up once, with the format that its slot has. -/
theorem formats_session (h : Path Service.Serves fresh session b) :
    ∀ i slot, (i, slot) ∈ streamsHeld session →
      formats slot.block.serial (history session) = [slot.format.code] := by
  refine h.recorded (P := fun past _ => ∀ i slot, (i, slot) ∈ streamsHeld past →
    formats slot.block.serial (history past) = [slot.format.code]) ?_ ?_
  · intro i slot hslot
    cases hslot
  intro past s c c' hpast hs hformats i slot hslot
  have htends := tends_session hpast
  have heffect := effect_of_serves hs
  rw [history_concat, formats_append]
  rcases Slots.mem_held_of_concat hslot with hold | hnew
  · obtain ⟨now, hn, rfl⟩ := (mem_streamsHeld_iff hpast).mp hold
    have hserial : now.block.serial < c.blocks := htends.serial_lt ⟨i, hn⟩
    have hnone : formats now.atRest.block.serial s.events = [] := heffect.formats_eq_nil hserial
    rw [hformats i now.atRest hold, hnone, List.append_nil]
  · rw [hnew] at heffect
    obtain ⟨hserial, hone⟩ := heffect.formats_of_issued
    have hbefore : formats slot.block.serial (history past) = [] :=
      Native.formats_eq_nil (htends.unused _ (Nat.le_of_eq hserial.symm))
    rw [hbefore, hone, List.nil_append]

/-! ## Reads and writes -/

variable {operation : String} {n : StreamHandle} {buffer : SampleBuffer} {requested : Nat}
  {function : StreamFunction} {error : Option Error}

theorem eq_atRest_of_held (hpath : Path Service.Serves fresh session b) {i : Nat}
    {now slot : StreamSlot} (hn : b.streams.get? i = some now)
    (hslot : (i, slot) ∈ streamsHeld session) : slot = now.atRest := by
  obtain ⟨now', hn', rfl⟩ := (mem_streamsHeld_iff hpath).mp hslot
  rw [hn] at hn'
  rw [Option.some.inj hn']

theorem not_dead_of_get? (hpath : Path Service.Serves fresh session b) {i : Nat}
    {now : StreamSlot} (hn : b.streams.get? i = some now) :
    ¬ i ∉ (streamsHeld session).map Prod.fst := by
  rw [not_mem_streamsHeld_iff hpath, hn]
  exact Option.some_ne_none now

/-- What fits the buffer in samples of its format fits it in bytes. -/
theorem fits_of_le_capacity {count : Nat} (h : count ≤ buffer.capacity) :
    ∃ size, buffer.format.Sized size ∧ count * size ≤ buffer.bytes.size := by
  refine ⟨_, buffer.format.sized_sampleSize, ?_⟩
  have hcapacity : buffer.capacity * buffer.format.sampleSize ≤ buffer.bytes.size :=
    buffer.capacity_mul_le
  have hcount : count * buffer.format.sampleSize ≤ buffer.capacity * buffer.format.sampleSize :=
    Nat.mul_le_mul_right _ h
  omega

theorem Moving.staysInside (hpath : Path Service.Serves fresh session b)
    (h : b.Moving operation n buffer function ms error)
    (hmoved : ∀ block a, moved? ⟨.inl (.stream block function), a⟩ =
      some (block, min requested buffer.capacity)) :
    StaysInside session operation n buffer requested ms error := by
  cases h with
  | dead hn =>
    have hnone : ∀ slot, (n.index, slot) ∉ streamsHeld session := by
      intro slot hslot
      have hdead := (not_mem_streamsHeld_iff hpath).mpr hn
      exact hdead (List.mem_map_of_mem hslot)
    constructor
    · intro _
      exact ⟨rfl, rfl⟩
    · intro slot hslot
      exact absurd hslot (hnone slot)
    · intro slot hslot
      exact absurd hslot (hnone slot)
    · intro ev hev
      cases hev
  | @mismatch slot hn hformat =>
    constructor
    · intro hdead
      exact absurd hdead (not_dead_of_get? hpath hn)
    · intro _ _ _
      exact ⟨rfl, rfl⟩
    · intro slot' hslot hsame
      obtain rfl := eq_atRest_of_held hpath hn hslot
      exact absurd hsame hformat
    · intro ev hev
      cases hev
  | @called slot hn hformat a rest hrest =>
    have hcall := hmoved slot.block a
    constructor
    · intro hdead
      exact absurd hdead (not_dead_of_get? hpath hn)
    · intro slot' hslot hother
      obtain rfl := eq_atRest_of_held hpath hn hslot
      exact absurd hformat hother
    · intro slot' hslot _
      obtain rfl := eq_atRest_of_held hpath hn hslot
      have hquiet : rest.filterMap moved? = [] :=
        List.filterMap_eq_nil_iff.mpr fun ev hev => (hrest ev hev).moved?
      rw [List.filterMap_cons_some hcall, hquiet]
      rfl
    · intro ev hev block count hcount
      rcases List.mem_cons.mp hev with rfl | hlater
      · rw [hcall] at hcount
        obtain ⟨rfl, rfl⟩ := Prod.mk.inj (Option.some.inj hcount)
        have hheld : (n.index, slot.atRest) ∈ streamsHeld session :=
          (mem_streamsHeld_iff hpath).mpr ⟨slot, hn, rfl⟩
        have hset := formats_session hpath n.index slot.atRest hheld
        rw [show slot.atRest.format = buffer.format from hformat] at hset
        exact ⟨⟨_, buffer.format.numbered_code, hset⟩, fits_of_le_capacity (Nat.min_le_right _ _),
          Nat.min_le_left _ _⟩
      · rw [(hrest ev hlater).moved?] at hcount
        cases hcount

/-- Whatever was asked before and whatever the library replies, it reads and writes samples in the
format that it was told for the stream, and none beyond the caller's buffer. -/
theorem session_staysInside (h : Path Service.Serves fresh session b) (n : StreamHandle)
    (buffer : SampleBuffer) (info : Option StreamMeta) (timeout : Duration) :
    ((∀ ms, ¬ (b.perform (.recvStream n buffer info timeout)).Exhausts ms) ∧
      ∀ x ms c, (⟨.recvStream n buffer info timeout, x, ms⟩ : Service).Serves b c →
        c = b ∧ StaysInside session "recv_stream" n buffer buffer.capacity ms (failureOf x.result) ∧
          (ms = [] → x.buffer = buffer ∧ x.info = info)) ∧
      ∀ count, (∀ ms, ¬ (b.perform (.sendStream n buffer count info timeout)).Exhausts ms) ∧
        ∀ r ms c, (⟨.sendStream n buffer count info timeout, r, ms⟩ : Service).Serves b c →
          c = b ∧ StaysInside session "send_stream" n buffer count ms (failureOf r) := by
  refine ⟨⟨?_, ?_⟩, fun count => ⟨?_, ?_⟩⟩
  · exact ends_operation b (.inl (.recvStream n buffer info timeout))
  · intro x ms c hs
    obtain ⟨⟨x', hrecv, rfl⟩, rfl⟩ := yields_keeping_iff.mp hs
    obtain ⟨hmoving, hkept⟩ := moving_recvStream hrecv
    refine ⟨rfl, hmoving.staysInside h fun block a => ?_, hkept⟩
    rw [Nat.min_self]
    rfl
  · exact ends_operation b (.inl (.sendStream n buffer count info timeout))
  · intro r ms c hs
    obtain ⟨hsend, rfl⟩ := of_yields_keep hs
    exact ⟨rfl, (moving_sendStream hsend).staysInside h fun _ _ => rfl⟩

/-- A stream is set up on the first device with a format and the library's number for it. -/
def setUpWith (format : DataFormat) (number : UInt32) (n : Nat) (block : StreamBlock) :
    Service where
  request := .setupStream ⟨0⟩ { StreamConfig.standard ⟨.rx, 0⟩ with dataFormat := format }
  answer := (.ok ⟨n⟩ : Except Error StreamHandle)
  events :=
    [⟨.inl (.setupStream ⟨7⟩ { block with number := 0 }
        { setupOf (.standard ⟨.rx, 0⟩) with dataFormat := number }),
      (⟨0, some block.number, []⟩ : Reply (Option Nat))⟩]

/-- A stream of packed samples gets the slot that a stream of floating samples had.  Behind it there
is a stream of 16-bit samples. -/
def reusedSlot : List Service :=
  [openedAs 0 ⟨7⟩, setUpAs 0 0 ⟨7⟩ ⟨0, 3⟩, destroyedAs 0 0 ⟨7⟩ ⟨0, 3⟩, setUpWith .i12 2 0 ⟨1, 4⟩,
    setUpWith .i16 1 1 ⟨2, 5⟩]

/-- The driver after `reusedSlot`. -/
def afterReuse : Binding :=
  ⟨⟨#[some ⟨7⟩]⟩, ⟨#[some ⟨⟨0⟩, .i12, false, ⟨1, 4⟩⟩, some ⟨⟨0⟩, .i16, false, ⟨2, 5⟩⟩]⟩, none, 3⟩

theorem path_reusedSlot : Path Service.Serves fresh reusedSlot afterReuse :=
  .cons (serves_openedAs rfl) (.cons (.ask _ (.done _)) (.cons (.ask _ (.done _))
    (.cons (.ask _ (.done _)) (.cons (.ask _ (.done _)) (.nil _)))))

/-- Two packed samples are read into eight bytes, and the last two bytes are left alone.  One 16-bit
sample is read into four. -/
theorem reusedSlot_staysInside :
    Path Service.Serves fresh reusedSlot afterReuse ∧
      streamsHeld reusedSlot =
        [(0, ⟨⟨0⟩, .i12, false, ⟨1, 4⟩⟩), (1, ⟨⟨0⟩, .i16, false, ⟨2, 5⟩⟩)] ∧
      formats 1 (history reusedSlot) = [2] ∧ formats 2 (history reusedSlot) = [1] ∧
      (∃ x ms, (⟨.recvStream ⟨0⟩ (.packed #[1, 2, 3, 4, 5, 6, 7, 8]) none .zero, x, ms⟩ :
          Service).Serves afterReuse afterReuse ∧
        x.buffer.bytes = #[9, 9, 9, 9, 9, 9, 7, 8] ∧ ms.filterMap moved? = [(⟨1, 4⟩, 2)] ∧
        StaysInside reusedSlot "recv_stream" ⟨0⟩ (.packed #[1, 2, 3, 4, 5, 6, 7, 8]) 2 ms none) ∧
      ∃ x ms, (⟨.recvStream ⟨1⟩ (.zeros .i16 1) none .zero, x, ms⟩ : Service).Serves
          afterReuse afterReuse ∧
        x.buffer.bytes = #[9, 9, 9, 9] ∧ ms.filterMap moved? = [(⟨2, 5⟩, 1)] ∧
        StaysInside reusedSlot "recv_stream" ⟨1⟩ (.zeros .i16 1) 1 ms none := by
  have hpacked : (⟨.recvStream ⟨0⟩ (.packed #[1, 2, 3, 4, 5, 6, 7, 8]) none .zero,
      { result := .ok 2, buffer := .packed #[9, 9, 9, 9, 9, 9, 7, 8], info := none },
      [⟨.inl (.stream ⟨1, 4⟩ (.recv 2 none 0)),
        (⟨2, ⟨#[9, 9, 9, 9, 9, 9, 9, 9], none⟩, []⟩ : Reply RecvOut)⟩]⟩ : Service).Serves
      afterReuse afterReuse := .ask _ (.done _)
  have hshort : (⟨.recvStream ⟨1⟩ (.zeros .i16 1) none .zero,
      { result := .ok 1, buffer := ⟨.i16, #[9, 9, 9, 9], .inr rfl⟩, info := none },
      [⟨.inl (.stream ⟨2, 5⟩ (.recv 1 none 0)),
        (⟨1, ⟨#[9, 9, 9, 9, 9], none⟩, []⟩ : Reply RecvOut)⟩]⟩ : Service).Serves
      afterReuse afterReuse := .ask _ (.done _)
  have hinside (n : StreamHandle) (buffer : SampleBuffer) :=
    (session_staysInside path_reusedSlot n buffer none .zero).1.2
  exact ⟨path_reusedSlot, rfl, rfl, rfl, ⟨_, _, hpacked, rfl, rfl,
    (hinside _ _ _ _ _ hpacked).2.1⟩, ⟨_, _, hshort, rfl, rfl, (hinside _ _ _ _ _ hshort).2.1⟩⟩

end Binding
end Native
end RadioBench
