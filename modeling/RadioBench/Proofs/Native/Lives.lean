/-
The lives of streams.

For every stream that it is asked to set up the driver makes a block of memory, and the
library knows the stream by its block.  The library may refuse the block, and then the driver
does not name it again.  Otherwise the block lives in a slot of the driver's table, where it
is used until it is destroyed, which the library is asked for once, whatever it answers.  The
slot says whether the stream runs, which is what the last start or stop of its block says.

The device of a stream is found by its handle.  This is the device that the stream was set up
on unless the handle was given back in the meantime.
-/
import RadioBench.Proofs.Native.Session

namespace RadioBench
namespace Native

open Prog

/-! ## The uses of a block -/

/-- The events that name the block with the serial number. -/
def uses (serial : Nat) (ms : List (Event Machine)) : List (Event Machine) :=
  ms.filter fun ev => (block? ev).map StreamBlock.serial = some serial

/-- The starts, `true`, and stops, `false`, of the stream. -/
def switches (serial : Nat) (ms : List (Event Machine)) : List Bool :=
  ms.filterMap (switched? serial)

/-- The stream was started, and not stopped since. -/
def Playing (serial : Nat) (ms : List (Event Machine)) : Prop :=
  (switches serial ms).getLast? = some true

instance (serial : Nat) (ms : List (Event Machine)) : Decidable (Playing serial ms) :=
  inferInstanceAs (Decidable (_ = _))

/-- The uses of a block that was set up, and only called on since. -/
inductive Living : List (Event Machine) → Prop
  | setUp (d : DeviceRef) (block : StreamBlock) (setup : StreamSetup) (a : Reply (Option Nat))
      (hcode : a.code = 0) : Living [⟨.inl (.setupStream d block setup), a⟩]
  | called (block : StreamBlock) (f : StreamFunction) (a : Reply f.Out)
      {us : List (Event Machine)} (h : Living us) :
      Living (us ++ [⟨.inl (.stream block f), a⟩])

/-- The uses of a block that is not named any more. -/
inductive Settled : List (Event Machine) → Prop
  | unused : Settled []
  | refused (d : DeviceRef) (block : StreamBlock) (setup : StreamSetup) (a : Reply (Option Nat))
      (hcode : a.code ≠ 0) : Settled [⟨.inl (.setupStream d block setup), a⟩]
  | destroyed (d : DeviceRef) (block : StreamBlock) (a : Reply Unit)
      {us : List (Event Machine)} (h : Living us) :
      Settled (us ++ [⟨.inl (.destroyStream d block), a⟩])

/-- No block is named but the one with the serial number. -/
def Confined (serial : Nat) (ms : List (Event Machine)) : Prop :=
  ∀ ev ∈ ms, ∀ block, block? ev = some block → block.serial = serial

variable {ms ts rest : List (Event Machine)} {ev : Event Machine} {j k : Nat}
  {block : StreamBlock}

theorem Living.ne_nil (h : Living ms) : ms ≠ [] := by
  cases h <;> simp

@[simp]
theorem uses_append : uses k (ms ++ ts) = uses k ms ++ uses k ts := List.filter_append ..

theorem uses_cons (hev : block? ev = some block) :
    uses block.serial (ev :: ms) = ev :: uses block.serial ms := by
  rw [uses, List.filter_cons, hev]
  simp [uses]

theorem uses_eq_nil (h : ∀ ev ∈ ms, block? ev = none) : uses k ms = [] := by
  rw [uses, List.filter_eq_nil_iff]
  intro ev hev
  simp [h ev hev]

theorem uses_aside (h : ∀ ev ∈ ms, Aside ev) : uses k ms = [] :=
  uses_eq_nil fun ev hev => (h ev hev).plain.1

theorem Confined.uses_eq_nil (h : Confined k ms) (hj : j ≠ k) : uses j ms = [] := by
  rw [uses, List.filter_eq_nil_iff]
  intro ev hev hused
  obtain ⟨block, hblock, hserial⟩ := Option.map_eq_some_iff.mp (of_decide_eq_true hused)
  exact hj (hserial.symm.trans (h ev hev block hblock))

theorem Confined.of_aside (h : ∀ ev ∈ ms, Aside ev) : Confined k ms := by
  intro ev hev block hblock
  rw [(h ev hev).plain.1] at hblock
  cases hblock

theorem Confined.cons (hev : block? ev = some block) (h : Confined block.serial ms) :
    Confined block.serial (ev :: ms) := by
  refine List.forall_mem_cons.mpr ⟨fun block' hblock' => ?_, h⟩
  rw [hev] at hblock'
  cases hblock'
  rfl

theorem Confined.append (h : Confined k ms) (h' : Confined k ts) : Confined k (ms ++ ts) :=
  List.forall_mem_append.mpr ⟨h, h'⟩

@[simp]
theorem switches_append : switches k (ms ++ ts) = switches k ms ++ switches k ts :=
  List.filterMap_append

/-- A start or a stop names the block. -/
theorem block?_of_switched? {on : Bool} (h : switched? k ev = some on) :
    ∃ block, block? ev = some block ∧ block.serial = k := by
  unfold switched? at h
  split at h
  · exact ⟨_, rfl, (Option.ite_none_right_eq_some.mp h).1.2⟩
  · exact ⟨_, rfl, (Option.ite_none_right_eq_some.mp h).1.2⟩
  · cases h

/-- What is told from the events that name a block is told from none where no event does. -/
theorem filterMap_eq_nil_of_uses {δ : Type} {g : Event Machine → Option δ}
    (hg : ∀ ev x, g ev = some x → ∃ block, block? ev = some block ∧ block.serial = k)
    (h : uses k ms = []) : ms.filterMap g = [] := by
  rw [List.filterMap_eq_nil_iff]
  intro ev hev
  refine Option.eq_none_iff_forall_ne_some.mpr fun x hx => ?_
  obtain ⟨block, hblock, hserial⟩ := hg ev x hx
  have hmem : ev ∈ uses k ms := List.mem_filter.mpr ⟨hev, by simp [hblock, hserial]⟩
  rw [h] at hmem
  cases hmem

theorem switches_eq_nil (h : uses k ms = []) : switches k ms = [] :=
  filterMap_eq_nil_of_uses (fun _ _ => block?_of_switched?) h

/-! An event that names a block, and then nothing but asides. -/

theorem uses_call (hev : block? ev = some block) (hrest : ∀ ev ∈ rest, Aside ev) :
    uses block.serial (ev :: rest) = [ev] := by
  rw [uses_cons hev, uses_aside hrest]

theorem confined_call (hev : block? ev = some block) (hrest : ∀ ev ∈ rest, Aside ev) :
    Confined block.serial (ev :: rest) := .cons hev (.of_aside hrest)

theorem switches_call (hrest : ∀ ev ∈ rest, Aside ev) :
    switches k (ev :: rest) = (switched? k ev).toList := by
  have hquiet : switches k rest = [] := switches_eq_nil (uses_aside hrest)
  rw [← List.singleton_append, switches_append, hquiet, List.append_nil]
  cases h : switched? k ev <;> simp [switches, h]

theorem playing_append (h : switches k ts = []) : Playing k (ms ++ ts) ↔ Playing k ms := by
  rw [Playing, Playing, switches_append, h, List.append_nil]

/-! ## The streams that live -/

/-- The history of a driver whose streams are `D`. -/
structure Tended (D : StreamSlot → Prop) (ms : List (Event Machine)) : Prop where
  living : ∀ slot, D slot → Living (uses slot.block.serial ms)
  running : ∀ slot, D slot → (slot.running = true ↔ Playing slot.block.serial ms)
  settled : ∀ k, (∀ slot, D slot → slot.block.serial ≠ k) → Settled (uses k ms)
  apart : ∀ slot slot', D slot → D slot' → slot.block.serial = slot'.block.serial → slot = slot'

namespace Tended

variable {D D' : StreamSlot → Prop} {slot : StreamSlot} {d : DeviceRef}

theorem nil : Tended (fun _ => False) [] where
  living _ h := h.elim
  running _ h := h.elim
  settled _ _ := .unused
  apart _ _ h := h.elim

theorem congr (h : Tended D ms) (hD : ∀ slot, D' slot ↔ D slot) : Tended D' ms := by
  obtain rfl : D' = D := funext fun slot => propext (hD slot)
  exact h

/-- A stream that lives has a block that was used. -/
theorem serial_ne (h : Tended D ms) (hunused : uses k ms = []) (slot : StreamSlot)
    (hslot : D slot) : slot.block.serial ≠ k := by
  rintro rfl
  exact (h.living slot hslot).ne_nil hunused

/-- What names no block changes nothing. -/
theorem elsewhere (h : Tended D ms) (hts : ∀ ev ∈ ts, block? ev = none) :
    Tended D (ms ++ ts) := by
  have hnone : ∀ k, uses k ts = [] := fun k => uses_eq_nil hts
  have hsame : ∀ k, uses k (ms ++ ts) = uses k ms := by
    intro k
    rw [uses_append, hnone, List.append_nil]
  constructor
  · intro slot hslot
    rw [hsame]
    exact h.living slot hslot
  · intro slot hslot
    rw [playing_append (switches_eq_nil (hnone _))]
    exact h.running slot hslot
  · intro k hk
    rw [hsame]
    exact h.settled k hk
  · exact h.apart

/-- What is made of one block leaves all other streams as they are. -/
theorem append (h : Tended D ms) (hts : Confined k ts)
    (hother : ∀ slot, slot.block.serial ≠ k → (D' slot ↔ D slot))
    (hliving : ∀ slot, D' slot → slot.block.serial = k →
      Living (uses k ms ++ uses k ts) ∧ (slot.running = true ↔ Playing k (ms ++ ts)))
    (hsettled : (∀ slot, D' slot → slot.block.serial ≠ k) → Settled (uses k ms ++ uses k ts))
    (hone : ∀ slot slot', D' slot → D' slot' → slot.block.serial = k →
      slot'.block.serial = k → slot = slot') : Tended D' (ms ++ ts) := by
  have hsame : ∀ j, j ≠ k → uses j (ms ++ ts) = uses j ms := by
    intro j hj
    rw [uses_append, hts.uses_eq_nil hj, List.append_nil]
  constructor
  · intro slot hslot
    by_cases hk : slot.block.serial = k
    · rw [hk, uses_append]
      exact (hliving slot hslot hk).1
    · rw [hsame _ hk]
      exact h.living slot ((hother slot hk).mp hslot)
  · intro slot hslot
    by_cases hk : slot.block.serial = k
    · rw [hk]
      exact (hliving slot hslot hk).2
    · rw [playing_append (switches_eq_nil (hts.uses_eq_nil hk))]
      exact h.running slot ((hother slot hk).mp hslot)
  · intro j hj
    by_cases hk : j = k
    · subst hk
      rw [uses_append]
      exact hsettled hj
    · rw [hsame j hk]
      refine h.settled j fun slot hslot hserial => ?_
      exact hj slot ((hother slot (hserial ▸ hk)).mpr hslot) hserial
  · intro slot slot' hslot hslot' heq
    by_cases hk : slot.block.serial = k
    · exact hone slot slot' hslot hslot' hk (heq ▸ hk)
    · exact h.apart slot slot' ((hother slot hk).mp hslot) ((hother slot' (heq ▸ hk)).mp hslot') heq

theorem setUp {setup : StreamSetup} {a : Reply (Option Nat)} (h : Tended D ms)
    (hunused : uses block.serial ms = []) (hcode : a.code = 0) (hrest : ∀ ev ∈ rest, Aside ev)
    (hblock : slot.block.serial = block.serial) (hoff : slot.running = false) :
    Tended (fun x => D x ∨ x = slot) (ms ++ ⟨.inl (.setupStream d block setup), a⟩ :: rest) := by
  have hnew := h.serial_ne hunused
  have honly : ∀ x, (D x ∨ x = slot) → x.block.serial = block.serial → x = slot :=
    fun x hx hserial => hx.resolve_left fun hD => hnew x hD hserial
  refine h.append (confined_call rfl hrest) (fun x hx => ?_) (fun x hx hserial => ?_)
    (fun hnone => ?_) fun x y hx hy hxk hyk => ?_
  · refine or_iff_left ?_
    rintro rfl
    exact hx hblock
  · rw [uses_call rfl hrest, hunused, honly x hx hserial, hoff]
    have hquiet : switches block.serial (⟨.inl (.setupStream d block setup), a⟩ :: rest) = [] :=
      switches_call hrest
    refine ⟨.setUp d block setup a hcode, ?_⟩
    rw [playing_append hquiet, Playing, switches_eq_nil hunused]
    simp
  · exact absurd hblock (hnone slot (.inr rfl))
  · rw [honly x hx hxk, honly y hy hyk]

theorem refused {setup : StreamSetup} {a : Reply (Option Nat)} (h : Tended D ms)
    (hunused : uses block.serial ms = []) (hcode : a.code ≠ 0) (hrest : ∀ ev ∈ rest, Aside ev) :
    Tended D (ms ++ ⟨.inl (.setupStream d block setup), a⟩ :: rest) := by
  have hnone := h.serial_ne hunused
  refine h.append (confined_call rfl hrest) (fun _ _ => Iff.rfl)
    (fun x hx hserial => absurd hserial (hnone x hx)) (fun _ => ?_)
    fun x _ hx _ hserial _ => absurd hserial (hnone x hx)
  rw [uses_call rfl hrest, hunused]
  exact .refused d block setup a hcode

/-- A stream is called on, and its slot says afterwards whether it runs. -/
theorem called {f : StreamFunction} {a : Reply f.Out} (slot' : StreamSlot) (h : Tended D ms)
    (hslot : D slot) (hrest : ∀ ev ∈ rest, Aside ev) (hblock : slot'.block = slot.block)
    (hrunning : slot'.running = true ↔
      Playing slot.block.serial (ms ++ ⟨.inl (.stream slot.block f), a⟩ :: rest)) :
    Tended (fun x => (D x ∧ x ≠ slot) ∨ x = slot')
      (ms ++ ⟨.inl (.stream slot.block f), a⟩ :: rest) := by
  have honly : ∀ x, ((D x ∧ x ≠ slot) ∨ x = slot') → x.block.serial = slot.block.serial →
      x = slot' := by
    intro x hx hserial
    exact hx.resolve_left fun hD => hD.2 (h.apart x slot hD.1 hslot hserial)
  refine h.append (confined_call rfl hrest) (fun x hx => ?_) (fun x hx hserial => ?_)
    (fun hnone => ?_) fun x y hx hy hxk hyk => ?_
  · constructor
    · rintro (hD | rfl)
      · exact hD.1
      · exact absurd (congrArg StreamBlock.serial hblock) hx
    · intro hD
      refine .inl ⟨hD, ?_⟩
      rintro rfl
      exact hx rfl
  · rw [uses_call rfl hrest, honly x hx hserial]
    exact ⟨.called slot.block f a (h.living slot hslot), hrunning⟩
  · exact absurd (congrArg StreamBlock.serial hblock) (hnone slot' (.inr rfl))
  · rw [honly x hx hxk, honly y hy hyk]

/-- A stream comes to its end. -/
theorem ended (h : Tended D ms) (hslot : D slot) (hts : Confined slot.block.serial ts)
    (hend : ∀ us, Living us → Settled (us ++ uses slot.block.serial ts)) :
    Tended (fun x => D x ∧ x ≠ slot) (ms ++ ts) := by
  have hnone : ∀ x, (D x ∧ x ≠ slot) → x.block.serial ≠ slot.block.serial :=
    fun x hx hserial => hx.2 (h.apart x slot hx.1 hslot hserial)
  refine h.append hts (fun x hx => ?_) (fun x hx hserial => absurd hserial (hnone x hx))
    (fun _ => hend _ (h.living slot hslot)) fun x _ hx _ hserial _ => absurd hserial (hnone x hx)
  refine and_iff_left ?_
  rintro rfl
  exact hx rfl

end Tended

/-! ## The table of streams -/

namespace Binding

variable {b b' : Binding} {session : List Service}

/-- The driver's table of streams has those that live, each of them once, and blocks get their
numbers in turn. -/
structure Tends (b : Binding) (ms : List (Event Machine)) : Prop where
  tended : Tended b.streams.Holds ms
  distinct : b.streams.Distinct
  unused : ∀ k, b.blocks ≤ k → uses k ms = []

namespace Tends

variable {n : StreamHandle} {slot : StreamSlot} {d : DeviceRef}

theorem fresh : Binding.fresh.Tends [] where
  tended := .congr .nil fun slot => iff_of_false (Slots.not_holds_empty slot) id
  distinct := Slots.distinct_empty
  unused _ _ := rfl

theorem serial_lt (h : b.Tends ms) (hslot : b.streams.Holds slot) :
    slot.block.serial < b.blocks := by
  refine Nat.lt_of_not_le fun hle => ?_
  exact h.tended.serial_ne (h.unused _ hle) slot hslot rfl

theorem unused_append (h : b.Tends ms) (hts : Confined k ts) {blocks : Nat} (hk : k < blocks)
    (hle : b.blocks ≤ blocks) : ∀ j, blocks ≤ j → uses j (ms ++ ts) = [] := by
  intro j hj
  have hjk : j ≠ k := by omega
  have hjb : b.blocks ≤ j := by omega
  rw [uses_append, h.unused j hjb, hts.uses_eq_nil hjk, List.append_nil]

theorem elsewhere (h : b.Tends ms) (hts : ∀ ev ∈ ts, block? ev = none)
    (hstreams : b'.streams = b.streams) (hblocks : b'.blocks = b.blocks) :
    b'.Tends (ms ++ ts) := by
  constructor
  · rw [hstreams]
    exact h.tended.elsewhere hts
  · rw [hstreams]
    exact h.distinct
  · intro k hk
    rw [uses_append, h.unused k (hblocks ▸ hk), uses_eq_nil hts, List.append_nil]

theorem setUp {setup : StreamSetup} {a : Reply (Option Nat)} (h : b.Tends ms)
    (hcode : a.code = 0) (hrest : ∀ ev ∈ rest, Aside ev)
    (hserial : slot.block.serial = b.blocks) (hoff : slot.running = false) :
    Tends { b with streams := (b.streams.insert slot).2, blocks := b.blocks + 1 }
      (ms ++ ⟨.inl (.setupStream d ⟨b.blocks, 0⟩ setup), a⟩ :: rest) := by
  have hgain := b.streams.insert_gains slot
  have hunused := h.unused b.blocks (Nat.le_refl _)
  have hnew : ¬ b.streams.Holds slot :=
    fun hslot => h.tended.serial_ne hunused slot hslot hserial
  exact ⟨(h.tended.setUp hunused hcode hrest hserial hoff).congr fun x => hgain.holds_iff,
    hgain.distinct h.distinct hnew,
    h.unused_append (confined_call rfl hrest) (Nat.lt_succ_self _) (Nat.le_succ _)⟩

theorem refused {setup : StreamSetup} {a : Reply (Option Nat)} (h : b.Tends ms)
    (hcode : a.code ≠ 0) (hrest : ∀ ev ∈ rest, Aside ev) :
    Tends { b with blocks := b.blocks + 1 }
      (ms ++ ⟨.inl (.setupStream d ⟨b.blocks, 0⟩ setup), a⟩ :: rest) :=
  ⟨h.tended.refused (h.unused b.blocks (Nat.le_refl _)) hcode hrest, h.distinct,
    h.unused_append (confined_call rfl hrest) (Nat.lt_succ_self _) (Nat.le_succ _)⟩

theorem destroyed {a : Reply Unit} (h : b.Tends ms) (hn : b.streams.get? n.index = some slot)
    (hrest : ∀ ev ∈ rest, Aside ev) :
    Tends { b with streams := b.streams.erase n.index }
      (ms ++ ⟨.inl (.destroyStream d slot.block), a⟩ :: rest) := by
  have hslot : b.streams.Holds slot := ⟨n.index, hn⟩
  have hcall : block? ⟨.inl (.destroyStream d slot.block), a⟩ = some slot.block := rfl
  have hended := h.tended.ended hslot (confined_call hcall hrest) fun us hus => by
    rw [uses_call hcall hrest]
    exact .destroyed d slot.block a hus
  exact ⟨hended.congr fun x => Slots.holds_erase_iff h.distinct hn, h.distinct.erase hn,
    h.unused_append (confined_call rfl hrest) (h.serial_lt hslot) (Nat.le_refl _)⟩

theorem switched {on : Bool} {a : Reply (StreamFunction.switch on).Out} (h : b.Tends ms)
    (hn : b.streams.get? n.index = some slot) (hcode : a.code = 0)
    (hrest : ∀ ev ∈ rest, Aside ev) :
    (b.setRunning n on).Tends (ms ++ ⟨.inl (.stream slot.block (.switch on)), a⟩ :: rest) := by
  have hslot : b.streams.Holds slot := ⟨n.index, hn⟩
  have hgain := Slots.erase_gains_modify hn fun s => { s with running := on }
  have hrunning : on = true ↔ Playing slot.block.serial
      (ms ++ ⟨.inl (.stream slot.block (.switch on)), a⟩ :: rest) := by
    rw [Playing, switches_append, switches_call hrest, switched?_switch hcode, if_pos rfl]
    simp
  have hcalled := h.tended.called { slot with running := on } hslot hrest rfl hrunning
  refine ⟨hcalled.congr fun x => ?_, ?_,
    h.unused_append (confined_call rfl hrest) (h.serial_lt hslot) (Nat.le_refl _)⟩
  · rw [← Slots.holds_erase_iff h.distinct hn]
    exact hgain.holds_iff
  · refine hgain.distinct (h.distinct.erase hn) fun hheld => ?_
    obtain ⟨hheld, hne⟩ := (Slots.holds_erase_iff h.distinct hn).mp hheld
    exact hne (h.tended.apart _ slot hheld hslot rfl)

theorem used {f : StreamFunction} {a : Reply f.Out} (h : b.Tends ms)
    (hn : b.streams.get? n.index = some slot)
    (hoff : ∀ k, switched? k ⟨.inl (.stream slot.block f), a⟩ = none)
    (hrest : ∀ ev ∈ rest, Aside ev) :
    b.Tends (ms ++ ⟨.inl (.stream slot.block f), a⟩ :: rest) := by
  have hslot : b.streams.Holds slot := ⟨n.index, hn⟩
  have hquiet : switches slot.block.serial (⟨.inl (.stream slot.block f), a⟩ :: rest) = [] := by
    rw [switches_call hrest, hoff]
    rfl
  have hrunning := (h.tended.running slot hslot).trans (playing_append hquiet).symm
  refine ⟨(h.tended.called slot hslot hrest rfl hrunning).congr fun x => ?_, h.distinct,
    h.unused_append (confined_call rfl hrest) (h.serial_lt hslot) (Nat.le_refl _)⟩
  by_cases hx : x = slot
  · simp [hx, hslot]
  · simp [hx]

theorem effect {dm : Option (Slots.Move DeviceRef)} {sm : Option (Slots.Move StreamSlot)}
    (h : b.Tends ms) (he : Effect b dm sm ts b') : b'.Tends (ms ++ ts) := by
  cases he with
  | plain hts hdevices hstreams hblocks =>
    exact h.elsewhere (fun ev hev => (hts ev hev).1) hstreams hblocks
  | opened info a hcode hrest =>
    exact h.elsewhere (List.forall_mem_cons.mpr ⟨rfl, fun ev hev => (hrest ev hev).plain.1⟩) rfl rfl
  | closed handle d a hd hrest =>
    exact h.elsewhere (List.forall_mem_cons.mpr ⟨rfl, fun ev hev => (hrest ev hev).plain.1⟩) rfl rfl
  | setUp handle d config a hd hcode hrest hslot =>
    exact h.setUp hcode hrest (hslot ▸ rfl) (hslot ▸ rfl)
  | notSetUp d setup a hcode hrest => exact h.refused hcode hrest
  | destroyed n d slot a hd hn hrest => exact h.destroyed hn hrest
  | switched n slot on a hn hcode hrest => exact h.switched hn hcode hrest
  | used n slot f a hn hoff hrest => exact h.used hn hoff hrest

end Tends

theorem tends_session (h : Path Service.Serves fresh session b) : b.Tends (history session) := by
  refine h.recorded (P := fun past c => c.Tends (history past)) .fresh fun past s c c' _ hs hc => ?_
  rw [history_concat]
  exact hc.effect (effect_of_serves hs)

/-! ## The devices of the streams -/

/-- The handle of the stream's device was given back while the stream was there. -/
def Orphaned (session : List Service) (serial : Nat) : Prop :=
  ∃ past s, past ++ [s] <+: session ∧ ∃ e ∈ streamsHeld past, e.2.block.serial = serial ∧
    s.deviceMove? = some (.released e.2.device.index)

/-- No device is given back while a stream is there that was set up under its handle. -/
def Considerate (session : List Service) : Prop :=
  ∀ past s, past ++ [s] <+: session → ∀ e ∈ streamsHeld past, s.request ≠ .closeDevice e.2.device

theorem orphaned_concat_iff {serial : Nat} {s : Service} :
    Orphaned (session ++ [s]) serial ↔ Orphaned session serial ∨
      ∃ e ∈ streamsHeld session, e.2.block.serial = serial ∧
        s.deviceMove? = some (.released e.2.device.index) := by
  constructor
  · rintro ⟨past, s', hpast, hs'⟩
    rcases List.prefix_concat_iff.mp hpast with heq | hpast
    · obtain ⟨rfl, hlast⟩ := List.append_inj' heq rfl
      obtain rfl := List.singleton_inj.mp hlast
      exact .inr hs'
    · exact .inl ⟨past, s', hpast, hs'⟩
  · rintro (⟨past, s', hpast, hs'⟩ | hs)
    · exact ⟨past, s', hpast.trans (List.prefix_append _ _), hs'⟩
    · exact ⟨session, s, List.prefix_rfl, hs⟩

theorem request_of_released {s : Service} {i : Nat} (h : s.deviceMove? = some (.released i)) :
    s.request = .closeDevice ⟨i⟩ := by
  obtain ⟨request, answer, ms⟩ := s
  cases request with
  | openDevice info =>
    cases answer with
    | error e => cases h
    | ok n =>
      obtain ⟨d, -, hissued⟩ := Option.map_eq_some_iff.mp h
      cases hissued
  | closeDevice handle =>
    obtain rfl := Slots.Move.released.inj (eq_of_released? h)
    rfl
  | _ => cases h

theorem Considerate.not_orphaned (h : Considerate session) (serial : Nat) :
    ¬ Orphaned session serial := by
  rintro ⟨past, s, hpast, e, he, -, hmove⟩
  exact h past s hpast e he (request_of_released hmove)

/-- A stream is set up on the device that has the handle. -/
theorem Effect.of_issued {slot : StreamSlot} {i : Nat} {dm : Option (Slots.Move DeviceRef)}
    (h : Effect b dm (some (.issued i slot)) ms b') :
    ∃ d, b.devices.get? slot.device.index = some d ∧ dm = none ∧
      Transfer.setUp d slot.block.serial ∈ transfers ms := by
  cases h with
  | setUp handle d config a hd hcode hrest hslot =>
    subst hslot
    exact ⟨d, hd, rfl, by simp [transfer?, hcode]⟩

/-- The handle of a stream's device stands for the device that the stream was set up on, as
long as it was not given back. -/
theorem anchored_session (h : Path Service.Serves fresh session b) :
    ∀ i slot, (i, slot) ∈ streamsHeld session →
      ∃ d, Transfer.setUp d slot.block.serial ∈ transfers (history session) ∧
        (¬ Orphaned session slot.block.serial → (slot.device.index, d) ∈ devicesHeld session) := by
  refine h.recorded (P := fun past _ => ∀ i slot, (i, slot) ∈ streamsHeld past →
    ∃ d, Transfer.setUp d slot.block.serial ∈ transfers (history past) ∧
      (¬ Orphaned past slot.block.serial → (slot.device.index, d) ∈ devicesHeld past)) ?_ ?_
  · intro i slot hslot
    cases hslot
  intro past s c c' hpast hs hanchored i slot hslot
  rw [history_concat, transfers_append]
  rcases Slots.mem_held_of_concat hslot with hold | hnew
  · obtain ⟨d, hd, hhandle⟩ := hanchored i slot hold
    refine ⟨d, List.mem_append_left _ hd, fun hkept => ?_⟩
    have hheld := hhandle fun horphaned => hkept (orphaned_concat_iff.mpr (.inl horphaned))
    refine (Slots.mem_held_concat hheld).resolve_right fun hreleased => hkept ?_
    exact orphaned_concat_iff.mpr (.inr ⟨(i, slot), hold, rfl, hreleased⟩)
  · have heffect := effect_of_serves hs
    rw [hnew] at heffect
    obtain ⟨d, hd, hmove, hsetUp⟩ := heffect.of_issued
    refine ⟨d, List.mem_append_right _ hsetUp, fun _ => ?_⟩
    have hheld := (mem_devicesHeld_iff hpast).mpr hd
    refine (Slots.mem_held_concat hheld).resolve_right fun hreleased => ?_
    rw [hmove] at hreleased
    cases hreleased

theorem anchored_slot (h : Path Service.Serves fresh session b) {i : Nat} {slot : StreamSlot}
    (hslot : b.streams.get? i = some slot) :
    ∃ d, Transfer.setUp d slot.block.serial ∈ transfers (history session) ∧
      (¬ Orphaned session slot.block.serial → b.devices.get? slot.device.index = some d) := by
  have hheld : (i, slot.atRest) ∈ streamsHeld session :=
    (mem_streamsHeld_iff h).mpr ⟨slot, hslot, rfl⟩
  obtain ⟨d, hsetUp, hhandle⟩ := anchored_session h i slot.atRest hheld
  exact ⟨d, hsetUp, fun hkept => (mem_devicesHeld_iff h).mp (hhandle hkept)⟩

end Binding
end Native
end RadioBench
