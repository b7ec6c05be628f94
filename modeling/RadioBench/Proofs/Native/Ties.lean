/-
How streams are tied to their devices.

A stream belongs to the device that it was set up on.  The driver keeps only the handle of
that device with the stream, and two things can loosen the tie.  A client that destroys a
stream names a device, and the driver takes its word.  And the device can be closed under its
streams: then their handle stands for no device, or for another one that was opened later.

When devices are told apart for good, these are the only ways.  A stream is then destroyed on
its own device, and called on while that device is open, exactly when its client was careful
in these two respects.
-/
import RadioBench.Proofs.Native.Release

namespace RadioBench
namespace Native

open Prog

variable {ms ts rest us : List (Event Machine)} {ev : Event Machine} {k : Nat}
  {d d' : DeviceRef} {block : StreamBlock}

/-! ## One device for a stream -/

theorem block?_of_setUp (h : transfer? ev = some (.setUp d k)) :
    ∃ block, block? ev = some block ∧ block.serial = k := by
  unfold transfer? at h
  split at h
  · obtain ⟨-, hopened⟩ := Option.ite_none_right_eq_some.mp h
    cases hopened
  · obtain ⟨-, hsetUp⟩ := Option.ite_none_right_eq_some.mp h
    cases hsetUp
    exact ⟨_, rfl, rfl⟩
  · cases h
  · cases h
  · cases h

/-- To be set up is a use. -/
theorem setUp_mem_uses (h : Transfer.setUp d k ∈ transfers ms) :
    Transfer.setUp d k ∈ transfers (uses k ms) := by
  obtain ⟨ev, hev, hsetUp⟩ := List.mem_filterMap.mp h
  obtain ⟨block, hblock, hserial⟩ := block?_of_setUp hsetUp
  refine List.mem_filterMap.mpr ⟨ev, List.mem_filter.mpr ⟨hev, ?_⟩, hsetUp⟩
  simp [hblock, hserial]

theorem Living.own_unique {j : Nat} (h : Living us) (hd : Transfer.setUp d k ∈ transfers us)
    (hd' : Transfer.setUp d' j ∈ transfers us) : d = d' := by
  induction h with
  | setUp e block setup a hcode =>
    have hone : transfers [⟨.inl (.setupStream e block setup), a⟩] = [.setUp e block.serial] := by
      simp [transfer?, hcode]
    rw [hone, List.mem_singleton] at hd hd'
    cases hd
    cases hd'
    rfl
  | @called block f a us hus ih =>
    have hsame : transfers (us ++ [⟨.inl (.stream block f), a⟩]) = transfers us := by
      simp [transfer?]
    rw [hsame] at hd hd'
    exact ih hd hd'

theorem Settled.own_unique {j : Nat} (h : Settled us) (hd : Transfer.setUp d k ∈ transfers us)
    (hd' : Transfer.setUp d' j ∈ transfers us) : d = d' := by
  cases h with
  | unused => cases hd
  | refused e block setup a hcode => simp [transfer?, hcode] at hd
  | @destroyed e block a us hus =>
    have hbefore : ∀ x i, Transfer.setUp x i ∈
        transfers (us ++ [⟨.inl (.destroyStream e block), a⟩]) → Transfer.setUp x i ∈ transfers us := by
      intro x i hx
      simpa [transfer?] using hx
    exact hus.own_unique (hbefore d k hd) (hbefore d' j hd')

theorem Binding.Tends.own_unique {b : Binding} (h : b.Tends ms)
    (hd : Transfer.setUp d k ∈ transfers ms) (hd' : Transfer.setUp d' k ∈ transfers ms) :
    d = d' := by
  have hused := setUp_mem_uses hd
  have hused' := setUp_mem_uses hd'
  by_cases hlive : ∃ slot, b.streams.Holds slot ∧ slot.block.serial = k
  · obtain ⟨slot, hslot, rfl⟩ := hlive
    exact (h.tended.living slot hslot).own_unique hused hused'
  · have hnone : ∀ slot, b.streams.Holds slot → slot.block.serial ≠ k :=
      fun slot hslot hserial => hlive ⟨slot, hslot, hserial⟩
    exact (h.tended.settled k hnone).own_unique hused hused'

/-! ## Devices that are told apart -/

/-- The library hands no device out twice, not even one that was closed. -/
def DistinctOpens (ms : List (Event Machine)) : Prop :=
  ∀ d, (transfers ms).count (.opened d) ≤ 1

theorem DistinctOpens.fresh (h : DistinctOpens ms) : FreshOpens ms := by
  rintro before ev after rfl d hopened hheld
  have hbefore : Transfer.opened d ∈ transfers before :=
    List.mem_of_mem_filter (List.mem_of_getLast? hheld)
  have htwice := h d
  rw [transfers_append, transfers_cons, hopened, List.count_append, Option.toList_some,
    List.singleton_append, List.count_cons_self] at htwice
  have honce := List.count_pos_iff.mpr hbefore
  omega

/-- A device that is held was never closed. -/
theorem DistinctOpens.not_closed (h : DistinctOpens ms) (hd : InTurnsOpen d (tenure d ms)) :
    Transfer.closed d ∉ transfers ms := by
  intro hclosed
  have hmem : Transfer.closed d ∈ tenure d ms :=
    List.mem_filter.mpr ⟨hclosed, by simp [Transfer.concerns]⟩
  obtain ⟨front, ⟨n, rfl⟩, htenure⟩ := hd
  have honce : (tenure d ms).count (.opened d) ≤ 1 :=
    Nat.le_trans (List.filter_sublist.count_le _) (h d)
  cases n with
  | zero => simp [htenure] at hmem
  | succ n =>
    rw [htenure, List.count_append, List.replicate_succ, List.flatten_cons, List.count_append]
      at honce
    simp at honce

theorem DistinctOpens.of_prefix {past session : List Service} (hpast : past <+: session)
    (h : DistinctOpens (history session)) : DistinctOpens (history past) := by
  obtain ⟨rest, rfl⟩ := hpast
  intro d
  have hall := h d
  rw [history, List.flatMap_append, transfers_append, List.count_append] at hall
  exact Nat.le_trans (Nat.le_add_right _ _) hall

/-- The device that the stream was set up on was closed. -/
def DeviceClosed (serial : Nat) (ms : List (Event Machine)) : Prop :=
  ∃ d, Transfer.setUp d serial ∈ transfers ms ∧ Transfer.closed d ∈ transfers ms

theorem DeviceClosed.append (h : DeviceClosed k ms) (ts : List (Event Machine)) :
    DeviceClosed k (ms ++ ts) := by
  obtain ⟨d, hsetUp, hclosed⟩ := h
  refine ⟨d, ?_, ?_⟩
  · rw [transfers_append]
    exact List.mem_append_left _ hsetUp
  · rw [transfers_append]
    exact List.mem_append_left _ hclosed

namespace Binding

variable {b : Binding} {session : List Service} {i j : Nat} {slot : StreamSlot}

theorem owns_session (h : Path Service.Serves fresh session b)
    (hfresh : FreshOpens (history session)) : b.Owns (history session) := by
  refine h.recorded (P := fun past c => FreshOpens (history past) → c.Owns (history past))
    (fun _ => owns_fresh) (fun past s c c' _ hs hc hnext => ?_) hfresh
  rw [history_concat] at hnext ⊢
  exact (hc hnext.left).perform hs hnext

theorem not_closed_of_held (h : Path Service.Serves fresh session b)
    (hdistinct : DistinctOpens (history session)) (hd : b.devices.get? j = some d) :
    Transfer.closed d ∉ transfers (history session) := by
  have howns := owns_session h hdistinct.fresh
  exact hdistinct.not_closed (howns.possession.held d ⟨j, hd⟩)

/-! ## Streams whose device was closed -/

theorem Effect.of_released {b' : Binding} {sm : Option (Slots.Move StreamSlot)}
    (h : Effect b (some (.released i)) sm ms b') :
    ∃ d, b.devices.get? i = some d ∧ Transfer.closed d ∈ transfers ms := by
  cases h with
  | closed handle d a hd hrest => exact ⟨d, hd, by simp [transfer?]⟩

/-- While the handle stood for the device, to give it back was to close the device. -/
theorem deviceClosed_of_orphaned (h : Path Service.Serves fresh session b)
    (horphaned : Orphaned session k) : DeviceClosed k (history session) := by
  refine h.recorded (P := fun past _ => Orphaned past k → DeviceClosed k (history past))
    ?_ (fun past s c c' hpast hs hc hnow => ?_) horphaned
  · rintro ⟨past, s, hpast, -⟩
    simp at hpast
  rw [history_concat]
  by_cases hbefore : Orphaned past k
  · exact (hc hbefore).append _
  obtain ⟨⟨i, slot⟩, hheld, rfl, hmove⟩ := (orphaned_concat_iff.mp hnow).resolve_left hbefore
  obtain ⟨d, hsetUp, hhandle⟩ := anchored_session hpast i slot hheld
  have hd := (mem_devicesHeld_iff hpast).mp (hhandle hbefore)
  have heffect := effect_of_serves hs
  rw [hmove] at heffect
  obtain ⟨d', hd', hclosed⟩ := heffect.of_released
  obtain rfl : d = d' := Option.some.inj (hd.symm.trans hd')
  rw [DeviceClosed, transfers_append]
  exact ⟨d, List.mem_append_left _ hsetUp, List.mem_append_right _ hclosed⟩

section Distinct

variable (h : Path Service.Serves fresh session b) (hdistinct : DistinctOpens (history session))
  (hslot : b.streams.get? i = some slot)
include h hdistinct hslot

theorem deviceClosed_iff_orphaned :
    DeviceClosed slot.block.serial (history session) ↔ Orphaned session slot.block.serial := by
  constructor
  · rintro ⟨d, hsetUp, hclosed⟩
    by_contra hkept
    obtain ⟨d', hsetUp', hhandle⟩ := anchored_slot h hslot
    obtain rfl := (tends_session h).own_unique hsetUp hsetUp'
    exact not_closed_of_held h hdistinct (hhandle hkept) hclosed
  · exact deviceClosed_of_orphaned h

/-- A device that is held is a stream's own just when it has the handle from the set-up, and
had it ever since. -/
theorem own_iff_of_held (hd : b.devices.get? j = some d) :
    Transfer.setUp d slot.block.serial ∈ transfers (history session) ↔
      j = slot.device.index ∧ ¬ Orphaned session slot.block.serial := by
  obtain ⟨d', hsetUp', hhandle⟩ := anchored_slot h hslot
  constructor
  · intro hsetUp
    have hkept : ¬ Orphaned session slot.block.serial := by
      intro horphaned
      obtain ⟨x, hx, hclosed⟩ := deviceClosed_of_orphaned h horphaned
      obtain rfl := (tends_session h).own_unique hsetUp hx
      exact not_closed_of_held h hdistinct hd hclosed
    obtain rfl := (tends_session h).own_unique hsetUp hsetUp'
    have howns := owns_session h hdistinct.fresh
    exact ⟨howns.distinct _ _ d hd (hhandle hkept), hkept⟩
  · rintro ⟨rfl, hkept⟩
    obtain rfl : d = d' := Option.some.inj (hd.symm.trans (hhandle hkept))
    exact hsetUp'

end Distinct

/-! ## What streams are destroyed on -/

/-- The devices that streams are destroyed on, at the client's request and in the end. -/
structure DestroyedOn (session : List Service) (b : Binding) : Prop where
  /-- A request is refused when one of its handles is not in use, and for no other reason. -/
  refused : ∀ past handle n r ms,
    past ++ [(⟨.destroyStream handle n, r, ms⟩ : Service)] <+: session →
      ((r = .error .invalidHandle ↔ handle.index ∉ (devicesHeld past).map Prod.fst ∨
        n.index ∉ (streamsHeld past).map Prod.fst) ∧ (r = .error .invalidHandle → ms = []))
  /-- The device is the one that the request names.  It is the stream's own just when the request
  names the handle from the set-up, and this was not given back meanwhile. -/
  requested : ∀ past s, past ++ [s] <+: session → ∀ ev ∈ s.events, ∀ d block,
    ev.op = .inl (.destroyStream d block) →
      ∃ handle n slot, s.request = .destroyStream handle n ∧
        (handle.index, d) ∈ devicesHeld past ∧ (n.index, slot) ∈ streamsHeld past ∧
        slot.block = block ∧
        (Transfer.setUp d block.serial ∈ transfers (history past) ↔
          handle = slot.device ∧ ¬ Orphaned past block.serial)
  /-- In the end the device is the one that has the handle from the set-up.  It is the stream's
  own just when the handle was not given back meanwhile. -/
  released : ∀ rel, b.release.Yields rel () → ∀ ev ∈ rel, ∀ d block,
    ev.op = .inl (.destroyStream d block) →
      ∃ i slot, (i, slot) ∈ streamsHeld session ∧ slot.block = block ∧
        (slot.device.index, d) ∈ devicesHeld session ∧
        (Transfer.setUp d block.serial ∈ transfers (history session) ↔
          ¬ Orphaned session block.serial)

theorem block?_of_op {ev : Event Machine} (h : ev.op = .inl (.destroyStream d block)) :
    block? ev = some block := by
  obtain ⟨o, a⟩ := ev
  subst h
  rfl

/-- A request makes at most one call that names a block, and makes it first.  It is one on a
new block, or on that of a stream that is there. -/
theorem Effect.of_block {b' : Binding} {dm : Option (Slots.Move DeviceRef)}
    {sm : Option (Slots.Move StreamSlot)} (h : Effect b dm sm ms b') (hev : ev ∈ ms)
    (hblock : block? ev = some block) :
    ∃ rest, ms = ev :: rest ∧ (∀ x ∈ rest, Aside x) ∧
      ((block.serial = b.blocks ∧ ∀ d, ev.op ≠ .inl (.destroyStream d block)) ∨
        ∃ n slot, b.streams.get? n = some slot ∧ slot.block = block ∧
          ((∃ d, ev.op = .inl (.destroyStream d block) ∧ sm = some (.released n)) ∨
            ∃ f, ev.op = .inl (.stream block f))) := by
  have hfirst : ∀ {ev' : Event Machine} {rest : List (Event Machine)}, ev ∈ ev' :: rest →
      (∀ x ∈ rest, Aside x) → ev = ev' := by
    intro ev' rest hmem hrest
    refine (List.mem_cons.mp hmem).resolve_right fun hlater => ?_
    rw [(hrest ev hlater).plain.1] at hblock
    cases hblock
  cases h with
  | plain hms =>
    rw [(hms ev hev).1] at hblock
    cases hblock
  | opened info a hcode hrest =>
    obtain rfl := hfirst hev hrest
    cases hblock
  | closed handle d a hd hrest =>
    obtain rfl := hfirst hev hrest
    cases hblock
  | setUp handle d config a hd hcode hrest hslot =>
    obtain rfl := hfirst hev hrest
    obtain rfl := Option.some.inj hblock
    exact ⟨_, rfl, hrest, .inl ⟨rfl, fun _ hop => by cases hop⟩⟩
  | notSetUp d setup a hcode hrest =>
    obtain rfl := hfirst hev hrest
    obtain rfl := Option.some.inj hblock
    exact ⟨_, rfl, hrest, .inl ⟨rfl, fun _ hop => by cases hop⟩⟩
  | destroyed n d slot a hd hn hrest =>
    obtain rfl := hfirst hev hrest
    obtain rfl := Option.some.inj hblock
    exact ⟨_, rfl, hrest, .inr ⟨n.index, slot, hn, rfl, .inl ⟨d, rfl, rfl⟩⟩⟩
  | switched n slot on a hn hcode hrest =>
    obtain rfl := hfirst hev hrest
    obtain rfl := Option.some.inj hblock
    exact ⟨_, rfl, hrest, .inr ⟨n.index, slot, hn, rfl, .inr ⟨_, rfl⟩⟩⟩
  | used n slot f a hn hoff hrest =>
    obtain rfl := hfirst hev hrest
    obtain rfl := Option.some.inj hblock
    exact ⟨_, rfl, hrest, .inr ⟨n.index, slot, hn, rfl, .inr ⟨f, rfl⟩⟩⟩

theorem request_of_stream_released {s : Service} {i : Nat}
    (h : s.streamMove? = some (.released i)) : ∃ handle n, s.request = .destroyStream handle n := by
  obtain ⟨request, answer, ms⟩ := s
  cases request with
  | destroyStream handle n => exact ⟨handle, n, rfl⟩
  | setupStream handle config =>
    cases answer with
    | error e => cases h
    | ok n =>
      obtain ⟨block, -, hissued⟩ := Option.map_eq_some_iff.mp h
      cases hissued
  | _ => cases h

theorem not_mem_devicesHeld_iff (h : Path Service.Serves fresh session b) :
    i ∉ (devicesHeld session).map Prod.fst ↔ b.devices.get? i = none := by
  rw [devicesHeld, (Slots.lists_of_path (path_devices h)).mem_keys_iff, not_exists,
    Option.eq_none_iff_forall_ne_some]

theorem not_mem_streamsHeld_iff (h : Path Service.Serves fresh session b) :
    i ∉ (streamsHeld session).map Prod.fst ↔ b.streams.get? i = none := by
  rw [streamsHeld, (Slots.lists_of_path (path_streams h)).mem_keys_iff, not_exists,
    ← Option.eq_none_iff_forall_ne_some, Slots.get?_map, Option.map_eq_none_iff]

theorem destroyStream_refused_iff {c : Binding} {handle : DeviceHandle} {n : StreamHandle}
    {r : Except Error Unit} (h : Path Service.Serves fresh session b)
    (hs : (⟨.destroyStream handle n, r, ms⟩ : Service).Serves b c) :
    (r = .error .invalidHandle ↔ handle.index ∉ (devicesHeld session).map Prod.fst ∨
      n.index ∉ (streamsHeld session).map Prod.fst) ∧ (r = .error .invalidHandle → ms = []) := by
  rw [not_mem_devicesHeld_iff h, not_mem_streamsHeld_iff h]
  rcases destroyStream_cases hs with ⟨rfl, rfl, -, hdead⟩ | ⟨d, slot, a, rest, hd, hn, hr, -⟩
  · exact ⟨iff_of_true rfl hdead, fun _ => rfl⟩
  · refine ⟨iff_of_false hr ?_, fun hr' => absurd hr' hr⟩
    rw [hd, hn]
    simp

/-- A request to destroy a stream makes no other call that names a block. -/
theorem destroys_of_request {handle : DeviceHandle} {n : StreamHandle} {r : Except Error Unit}
    {c : Binding} (hs : (⟨.destroyStream handle n, r, ms⟩ : Service).Serves b c) (hev : ev ∈ ms)
    (hblock : block? ev = some block) :
    ∃ d slot, ev.op = .inl (.destroyStream d block) ∧ b.devices.get? handle.index = some d ∧
      b.streams.get? n.index = some slot ∧ slot.block = block := by
  rcases destroyStream_cases hs with ⟨-, rfl, -⟩ | ⟨d, slot, a, rest, hd, hn, -, rfl, hrest, -⟩
  · cases hev
  · rcases List.mem_cons.mp hev with rfl | hlater
    · obtain rfl := Option.some.inj hblock
      exact ⟨d, slot, rfl, hd, hn, rfl⟩
    · rw [(hrest ev hlater).plain.1] at hblock
      cases hblock

theorem destroys_iff_request {s : Service} {c : Binding} (hs : s.Serves b c) (hev : ev ∈ s.events)
    (hblock : block? ev = some block) :
    (∃ d, ev.op = .inl (.destroyStream d block)) ↔
      ∃ handle n, s.request = .destroyStream handle n := by
  constructor
  · rintro ⟨d, hop⟩
    obtain ⟨rest, -, -, ⟨-, hother⟩ | ⟨i, slot, -, -, ⟨-, -, hmove⟩ | ⟨f, hf⟩⟩⟩ :=
      (effect_of_serves hs).of_block hev hblock
    · exact absurd hop (hother d)
    · exact request_of_stream_released hmove
    · rw [hf] at hop
      cases hop
  · rintro ⟨handle, n, hrequest⟩
    obtain ⟨request, answer, events⟩ := s
    obtain rfl : request = .destroyStream handle n := hrequest
    obtain ⟨d, slot, hop, -⟩ := destroys_of_request hs hev hblock
    exact ⟨d, hop⟩

/-- A stream is destroyed because that was asked for, on the device that the request names. -/
theorem request_of_destroys {s : Service} {c : Binding} (hs : s.Serves b c) (hev : ev ∈ s.events)
    (hop : ev.op = .inl (.destroyStream d block)) :
    ∃ handle n slot, s.request = .destroyStream handle n ∧
      b.devices.get? handle.index = some d ∧ b.streams.get? n.index = some slot ∧
      slot.block = block := by
  have hblock := block?_of_op hop
  obtain ⟨handle, n, hrequest⟩ := (destroys_iff_request hs hev hblock).mp ⟨d, hop⟩
  obtain ⟨request, answer, events⟩ := s
  obtain rfl : request = .destroyStream handle n := hrequest
  obtain ⟨d', slot, hop', hd, hn, hslot⟩ := destroys_of_request hs hev hblock
  cases hop.symm.trans hop'
  exact ⟨handle, n, slot, rfl, hd, hn, hslot⟩

/-- In the end a stream is destroyed on the device that has the handle from the set-up. -/
theorem slot_of_destroys (h : b.release.Yields ts ()) (hev : ev ∈ ts)
    (hop : ev.op = .inl (.destroyStream d block)) :
    ∃ i slot, b.streams.get? i = some slot ∧ slot.block = block ∧
      b.devices.get? slot.device.index = some d := by
  have hcalled : Call.destroyStream d block ∈ calls ts := by
    refine List.mem_filterMap.mpr ⟨ev, hev, ?_⟩
    obtain ⟨o, a⟩ := ev
    subst hop
    rfl
  rw [calls_release h] at hcalled
  rcases List.mem_append.mp hcalled with hgiven | hclosed
  · obtain ⟨⟨i, slot⟩, hentry, hgiven⟩ := List.mem_flatMap.mp hgiven
    refine ⟨i, slot, b.streams.mem_toList_iff.mp hentry, ?_⟩
    rw [farewells] at hgiven
    cases hd : b.devices.get? slot.device.index with
    | none => simp [hd] at hgiven
    | some d' =>
      have hcall : Call.destroyStream d block = .destroyStream d' slot.block := by
        rw [hd] at hgiven
        by_cases hrunning : slot.running = true <;> simpa [farewell, hrunning] using hgiven
      cases hcall
      exact ⟨rfl, rfl⟩
  · obtain ⟨e, -, hclose⟩ := List.mem_map.mp hclosed
    cases hclose

/-- Every stream is destroyed on a device that is held, which need not be its own. -/
theorem session_destroysOn (h : Path Service.Serves fresh session b)
    (hdistinct : DistinctOpens (history session)) : DestroyedOn session b where
  refused past handle n r ms hpast := by
    obtain ⟨c, c', hpath, hs⟩ := h.of_prefix hpast
    exact destroyStream_refused_iff hpath hs
  requested past s hpast ev hev d block hop := by
    obtain ⟨c, c', hpath, hs⟩ := h.of_prefix hpast
    obtain ⟨handle, n, slot, hrequest, hd, hn, rfl⟩ := request_of_destroys hs hev hop
    have hdevice := (mem_devicesHeld_iff hpath).mpr hd
    have hstream := (mem_streamsHeld_iff hpath).mpr ⟨slot, hn, rfl⟩
    have hearlier := hdistinct.of_prefix ((List.prefix_append _ _).trans hpast)
    have hown := own_iff_of_held hpath hearlier hn hd
    refine ⟨handle, n, slot.atRest, hrequest, hdevice, hstream, rfl, hown.trans ?_⟩
    exact and_congr_left fun _ => ⟨congrArg DeviceHandle.mk, congrArg DeviceHandle.index⟩
  released rel hrel ev hev d block hop := by
    obtain ⟨i, slot, hslot, rfl, hd⟩ := slot_of_destroys hrel hev hop
    have hdevice := (mem_devicesHeld_iff h).mpr hd
    have hstream := (mem_streamsHeld_iff h).mpr ⟨slot, hslot, rfl⟩
    have hown := own_iff_of_held h hdistinct hslot hd
    exact ⟨i, slot.atRest, hstream, rfl, hdevice, hown.trans (and_iff_right rfl)⟩

/-- A stream is destroyed. -/
def destroyedAs (h : Nat) (n : Nat) (d : DeviceRef) (block : StreamBlock) : Service where
  request := .destroyStream ⟨h⟩ ⟨n⟩
  answer := (.ok () : Except Error Unit)
  events := [⟨.inl (.destroyStream d block), (⟨0, (), []⟩ : Reply Unit)⟩]

/-- Two streams run on the first device.  One of them is destroyed under the handle of the
second device.  Under the other the device is closed, it is started again, and a third device
gets the handle. -/
def straySession : List Service :=
  twoDevices ++
    [setUpAs 0 1 ⟨7⟩ ⟨1, 4⟩, startedAs 1 ⟨1, 4⟩, destroyedAs 1 1 ⟨8⟩ ⟨1, 4⟩, closedAs 0 ⟨7⟩,
      startedAs 0 ⟨0, 3⟩, openedAs 0 ⟨9⟩]

def strayRelease : List (Event Machine) :=
  [⟨.inl (.stream ⟨0, 3⟩ .stop), (⟨0, (), []⟩ : Reply Unit)⟩,
    ⟨.inl (.destroyStream ⟨9⟩ ⟨0, 3⟩), (⟨0, (), []⟩ : Reply Unit)⟩,
    ⟨.inl (.closeDevice ⟨9⟩), (⟨0, (), []⟩ : Reply Unit)⟩,
    ⟨.inl (.closeDevice ⟨8⟩), (⟨0, (), []⟩ : Reply Unit)⟩]

theorem path_straySession : Path Service.Serves fresh straySession
    ⟨⟨#[some ⟨9⟩, some ⟨8⟩]⟩, ⟨#[some ⟨⟨0⟩, .f32, true, ⟨0, 3⟩⟩, none]⟩, none, 2⟩ :=
  path_twoDevices.append (.cons (.ask _ (.done _)) (.cons (.ask _ (.done _))
    (.cons (.ask _ (.done _)) (.cons (.ask _ (.done _)) (.cons (.ask _ (.done _))
      (.single (serves_openedAs rfl)))))))

theorem distinctOpens_straySession : DistinctOpens (history straySession) := by
  have htransfers : transfers (history straySession) =
      [.opened ⟨7⟩, .opened ⟨8⟩, .setUp ⟨7⟩ 0, .setUp ⟨7⟩ 1, .destroyed ⟨8⟩ 1, .closed ⟨7⟩,
        .opened ⟨9⟩] := rfl
  intro d
  rw [htransfers]
  exact List.nodup_iff_count_le_one.mp (by decide) _

theorem stray_session_destroysOn :
    ∃ b, Path Service.Serves fresh straySession b ∧ DistinctOpens (history straySession) ∧
      DestroyedOn straySession b ∧ b.release.Yields strayRelease () ∧
      transfers (history straySession ++ strayRelease) =
        [.opened ⟨7⟩, .opened ⟨8⟩, .setUp ⟨7⟩ 0, .setUp ⟨7⟩ 1, .destroyed ⟨8⟩ 1, .closed ⟨7⟩,
          .opened ⟨9⟩, .destroyed ⟨9⟩ 0, .closed ⟨9⟩, .closed ⟨8⟩] := by
  refine ⟨_, path_straySession, distinctOpens_straySession,
    session_destroysOn path_straySession distinctOpens_straySession, ?_, rfl⟩
  exact .ask _ (.ask _ (.ask _ (.ask _ (.done _))))

end Binding

end Native
end RadioBench
