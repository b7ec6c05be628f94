/-
What a driver gives back at its end.

A driver that is released goes through its streams in the order of their slots.  A stream
that runs is stopped, and then it is destroyed, also when it could not be stopped.  The
devices follow.  Nothing that the library answers changes what is called, apart from the
queries for its last error.

A client that gives no device back while a stream is set up on it has every stream destroyed
once, either when it asks for it or in the end.
-/
import RadioBench.Proofs.Native.Lives
import RadioBench.Proofs.Native.Possession

namespace RadioBench
namespace Native

open Prog

/-! ## Calls -/

/-- The call of an event.  The query for the last error is left out, as it follows any call
that failed. -/
def call? : Event Machine → Option Call
  | ⟨.inl .getLastErrorMessage, _⟩ => none
  | ⟨.inl c, _⟩ => some c
  | ⟨.inr _, _⟩ => none

def calls (ms : List (Event Machine)) : List Call := ms.filterMap call?

variable {ms ts rest : List (Event Machine)} {ev : Event Machine}

@[simp]
theorem calls_append : calls (ms ++ ts) = calls ms ++ calls ts := List.filterMap_append

theorem calls_aside (h : ∀ ev ∈ ms, Aside ev) : calls ms = [] := by
  rw [calls, List.filterMap_eq_nil_iff]
  intro ev hev
  cases h ev hev <;> rfl

theorem calls_call {c : Call} (hev : call? ev = some c) (hrest : ∀ ev ∈ rest, Aside ev) :
    calls (ev :: rest) = [c] := by
  rw [calls, List.filterMap_cons_some hev]
  exact congrArg (c :: ·) (calls_aside hrest)

theorem calls_forM {ι : Type} {l : List ι} {f : ι → Prog Machine PUnit} {g : ι → List Call}
    (hf : ∀ x ts u, (f x).Yields ts u → calls ts = g x) {u : PUnit}
    (h : (l.forM f).Yields ts u) : calls ts = l.flatMap g := by
  induction l generalizing ts with
  | nil =>
    obtain ⟨rfl, -⟩ := yields_done_iff.mp h
    rfl
  | cons x l ih =>
    obtain ⟨v, ts₁, ts₂, rfl, h₁, h₂⟩ := yields_bind_iff.mp h
    rw [calls_append, hf x ts₁ v h₁, ih h₂, List.flatMap_cons]

/-! ## Giving a stream back -/

/-- The calls that give a stream back. -/
def farewell (running : Bool) (d : DeviceRef) (block : StreamBlock) : List Call :=
  if running then [.stream block .stop, .destroyStream d block] else [.destroyStream d block]

/-- What passes between the driver and the library when a stream is given back. -/
inductive Parting (d : DeviceRef) (slot : StreamSlot) : List (Event Machine) → Prop
  | still (a : Reply Unit) {rest : List (Event Machine)} (hoff : slot.running = false)
      (hrest : ∀ ev ∈ rest, Aside ev) :
      Parting d slot (⟨.inl (.destroyStream d slot.block), a⟩ :: rest)
  | running (a a' : Reply Unit) {rest rest' : List (Event Machine)} (hon : slot.running = true)
      (hrest : ∀ ev ∈ rest, Aside ev) (hrest' : ∀ ev ∈ rest', Aside ev) :
      Parting d slot ((⟨.inl (.stream slot.block .stop), a⟩ :: rest) ++
        ⟨.inl (.destroyStream d slot.block), a'⟩ :: rest')

namespace Parting

variable {d : DeviceRef} {slot : StreamSlot}

theorem calls_eq (h : Parting d slot ts) : calls ts = farewell slot.running d slot.block := by
  cases h with
  | still a hoff hrest =>
    rw [hoff]
    exact calls_call rfl hrest
  | running a a' hon hrest hrest' =>
    rw [hon, calls_append, calls_call rfl hrest, calls_call rfl hrest']
    rfl

theorem confined (h : Parting d slot ts) : Confined slot.block.serial ts := by
  cases h with
  | still a hoff hrest => exact confined_call rfl hrest
  | running a a' hon hrest hrest' =>
    exact .append (confined_call rfl hrest) (confined_call rfl hrest')

theorem settled (h : Parting d slot ts) {us : List (Event Machine)} (hus : Living us) :
    Settled (us ++ uses slot.block.serial ts) := by
  have hdestroy : ∀ a : Reply Unit,
      block? ⟨.inl (.destroyStream d slot.block), a⟩ = some slot.block := fun _ => rfl
  cases h with
  | still a hoff hrest =>
    rw [uses_call (hdestroy a) hrest]
    exact .destroyed d slot.block a hus
  | running a a' hon hrest hrest' =>
    have hstop : block? ⟨.inl (.stream slot.block .stop), a⟩ = some slot.block := rfl
    rw [uses_append, uses_call hstop hrest, uses_call (hdestroy a') hrest', ← List.append_assoc]
    exact .destroyed d slot.block a' (.called slot.block .stop a hus)

end Parting

namespace Binding

variable {b : Binding} {session : List Service}

theorem parting_of_yields {i : Nat} {slot : StreamSlot} {d : DeviceRef} {u : Unit}
    (hd : b.devices.get? slot.device.index = some d) (h : (b.releaseStream i slot).Yields ts u) :
    Parting d slot ts := by
  rw [releaseStream, hd] at h
  by_cases hrunning : slot.running = true
  · simp only [hrunning, if_true] at h
    obtain ⟨v, ts₁, ts₂, rfl, h₁, h₂⟩ := yields_bind_iff.mp h
    obtain ⟨r, ts₃, notes, rfl, hstop, hnotes⟩ := of_yields_warnOf h₁
    obtain ⟨a, rest, rfl, hrest, -⟩ := of_yields_succeed hstop
    obtain ⟨r', ts₄, notes', rfl, hdestroy, hnotes'⟩ := of_yields_warnOf h₂
    obtain ⟨a', rest', rfl, hrest', -⟩ := of_yields_succeed hdestroy
    exact .running a a' hrunning (List.forall_mem_append.mpr ⟨hrest, hnotes.aside⟩)
      (List.forall_mem_append.mpr ⟨hrest', hnotes'.aside⟩)
  · simp only [hrunning] at h
    obtain ⟨r, ts₁, notes, rfl, hdestroy, hnotes⟩ := of_yields_warnOf h
    obtain ⟨a, rest, rfl, hrest, -⟩ := of_yields_succeed hdestroy
    exact .still a (Bool.eq_false_iff.mpr hrunning)
      (List.forall_mem_append.mpr ⟨hrest, hnotes.aside⟩)

/-- The calls that give the stream of a slot back.  There are none when the handle of its
device stands for no device. -/
def farewells (b : Binding) (slot : StreamSlot) : List Call :=
  match b.devices.get? slot.device.index with
  | none => []
  | some d => farewell slot.running d slot.block

theorem calls_releaseStream {i : Nat} {slot : StreamSlot} {u : Unit}
    (h : (b.releaseStream i slot).Yields ts u) : calls ts = b.farewells slot := by
  rw [farewells]
  cases hd : b.devices.get? slot.device.index with
  | none =>
    rw [releaseStream, hd] at h
    obtain ⟨rfl, -⟩ := yields_done_iff.mp h
    rfl
  | some d => exact (parting_of_yields hd h).calls_eq

/-- The calls of a release: what gives the streams back, and then the closings. -/
theorem calls_release {u : Unit} (h : b.release.Yields ts u) :
    calls ts = (b.streams.toList.flatMap fun e => b.farewells e.2) ++
      b.devices.toList.map fun e => .closeDevice e.2 := by
  obtain ⟨v, ts₁, ts₂, rfl, h₁, h₂⟩ := yields_bind_iff.mp h
  rw [calls_append, calls_forM (fun _ _ _ => calls_releaseStream) h₁, ← List.flatMap_pure_eq_map,
    calls_forM (fun entry ts u hts => ?_) h₂]
  obtain ⟨a, rest, rfl, hrest⟩ := of_yields_warnOf_close hts
  exact calls_call rfl hrest

/-- The streams that are left come to their end one by one. -/
theorem tended_releaseAll {l : List (Nat × StreamSlot)} {u : PUnit}
    (h : Tended (· ∈ l.map Prod.snd) ms) (hl : (l.map Prod.snd).Nodup)
    (hd : ∀ e ∈ l, ∃ d, b.devices.get? e.2.device.index = some d)
    (hts : (l.forM fun entry => b.releaseStream entry.1 entry.2).Yields ts u) :
    Tended (fun _ => False) (ms ++ ts) := by
  induction l generalizing ms ts with
  | nil =>
    obtain ⟨rfl, -⟩ := yields_done_iff.mp hts
    rw [List.append_nil]
    exact h.congr fun slot => by simp
  | cons entry l ih =>
    obtain ⟨i, slot⟩ := entry
    obtain ⟨hslot, hl⟩ := List.nodup_cons.mp hl
    obtain ⟨⟨d, hdevice⟩, hd⟩ := List.forall_mem_cons.mp hd
    obtain ⟨v, ts₁, ts₂, rfl, h₁, h₂⟩ := yields_bind_iff.mp hts
    have hparting := parting_of_yields hdevice h₁
    have hleaving : slot ∈ ((i, slot) :: l).map Prod.snd := List.mem_cons_self
    have hended := h.ended hleaving hparting.confined fun us hus => hparting.settled hus
    have hleft : Tended (· ∈ l.map Prod.snd) (ms ++ ts₁) :=
      hended.congr fun x => mem_iff_mem_cons_and_ne hslot
    rw [← List.append_assoc]
    exact ih hleft hl hd h₂

/-- The closings name no stream. -/
theorem only_closeAll (b : Binding) :
    Only (fun ev => block? ev = none) (b.devices.toList.forM fun entry =>
      warnOf "" (b.succeed "close" (.closeDevice entry.2))) := by
  have haside (ev : Event Machine) (hev : Aside ev) : block? ev = none := hev.plain.1
  have haround := around_forall haside b.handler
  refine haround.forM fun entry _ => makes_warnOf haround ?_ ""
  exact makes_succeed haround (only_call haside fun _ => rfl) "close"

theorem settled_release {u : Unit} (h : b.Tends ms)
    (hd : ∀ i slot, b.streams.get? i = some slot → ∃ d, b.devices.get? slot.device.index = some d)
    (hts : b.release.Yields ts u) (k : Nat) : Settled (uses k (ms ++ ts)) := by
  obtain ⟨v, ts₁, ts₂, rfl, h₁, h₂⟩ := yields_bind_iff.mp hts
  have hstreams := h.tended.congr fun slot => b.streams.mem_values_iff
  have hended := tended_releaseAll hstreams h.distinct.nodup
    (fun e he => hd e.1 e.2 (b.streams.mem_toList_iff.mp he)) h₁
  have hend := hended.elsewhere ((only_closeAll b).events _ _ h₂)
  rw [← List.append_assoc]
  exact hend.settled k fun _ hfalse => hfalse.elim

/-! ## Sessions and their end -/

theorem Considerate.of_forall
    (h : ∀ s ∈ session, ∀ handle, s.request ≠ .closeDevice handle) : Considerate session :=
  fun _ s hpast _ _ => h s (hpast.subset List.mem_concat_self) _

theorem Considerate.concat (h : Considerate session) {s : Service}
    (hs : ∀ e ∈ streamsHeld session, s.request ≠ .closeDevice e.2.device) :
    Considerate (session ++ [s]) := by
  intro past s' hpast
  rcases List.prefix_concat_iff.mp hpast with heq | hpast
  · obtain ⟨rfl, hlast⟩ := List.append_inj' heq rfl
    obtain rfl := List.singleton_inj.mp hlast
    exact hs
  · exact h past s' hpast

/-- The streams that are left are given back in the order of their handles, each to the device
that it was set up on, and stopped before if they play.  Then the devices are closed. -/
def GivesBack (session : List Service) (rel : List (Event Machine)) : Prop :=
  ∃ streams devices, ∃ own : StreamSlot → DeviceRef,
    Slots.InOrder (streamsHeld session) streams ∧ Slots.InOrder (devicesHeld session) devices ∧
    (∀ e ∈ streams, Transfer.setUp (own e.2) e.2.block.serial ∈ transfers (history session)) ∧
    calls rel =
      (streams.flatMap fun e =>
        farewell (Playing e.2.block.serial (history session)) (own e.2) e.2.block) ++
      devices.map fun e => .closeDevice e.2

/-- What the slot says of its stream, and where its device is found. -/
theorem farewells_of_held (h : Path Service.Serves fresh session b) (hsession : Considerate session)
    {i : Nat} {slot : StreamSlot} (hslot : b.streams.get? i = some slot) :
    ∃ d, b.devices.get? slot.device.index = some d ∧
      Transfer.setUp d slot.block.serial ∈ transfers (history session) ∧
      b.farewells slot =
        farewell (Playing slot.block.serial (history session)) d slot.block := by
  obtain ⟨d, hsetUp, hhandle⟩ := anchored_slot h hslot
  have hdevice := hhandle (hsession.not_orphaned _)
  have hrunning : slot.running = decide (Playing slot.block.serial (history session)) :=
    Bool.eq_iff_iff.mpr
      (((tends_session h).tended.running slot ⟨i, hslot⟩).trans (decide_eq_true_iff).symm)
  refine ⟨d, hdevice, hsetUp, ?_⟩
  rw [farewells, hdevice, ← hrunning]

/-- The device that the handle of the stream's device stands for. -/
def deviceOf (b : Binding) (slot : StreamSlot) : DeviceRef :=
  (b.devices.get? slot.device.index).getD .null

theorem deviceOf_eq {slot : StreamSlot} {d : DeviceRef}
    (hd : b.devices.get? slot.device.index = some d) : b.deviceOf slot = d := by
  rw [deviceOf, hd]
  rfl

theorem givesBack_release (h : Path Service.Serves fresh session b) (hsession : Considerate session)
    (hts : b.release.Yields ts ()) : GivesBack session ts := by
  have hlists := Slots.lists_of_path (path_streams h)
  refine ⟨(b.streams.map StreamSlot.atRest).toList, b.devices.toList, b.deviceOf,
    hlists.inOrder_toList, (Slots.lists_of_path (path_devices h)).inOrder_toList, ?_, ?_⟩
  · rw [Slots.toList_map]
    intro e he
    obtain ⟨⟨i, slot⟩, hentry, rfl⟩ := List.mem_map.mp he
    obtain ⟨d, hd, hsetUp, -⟩ :=
      farewells_of_held h hsession (b.streams.mem_toList_iff.mp hentry)
    rw [← deviceOf_eq hd] at hsetUp
    exact hsetUp
  · rw [calls_release hts, Slots.toList_map, List.flatMap_map]
    refine congrArg (· ++ _) (List.flatMap_congr fun e he => ?_)
    obtain ⟨i, slot⟩ := e
    obtain ⟨d, hd, -, hcalls⟩ := farewells_of_held h hsession (b.streams.mem_toList_iff.mp he)
    rw [hcalls, ← deviceOf_eq hd]
    rfl

/-- A client may ask for anything, and the library reply anything.  As long as it gives no
device back while a stream is set up on it, every stream that the library accepted is
destroyed once and not named again, and one that it refused is not named again either.  What
is left in the end the driver gives back.  To destroy a stream under a handle that stands for
no device does nothing. -/
theorem session_releasesOnce (h : Path Service.Serves fresh session b)
    (hsession : Considerate session) :
    (∀ handle n r ms b', (⟨.destroyStream handle n, r, ms⟩ : Service).Serves b b' →
      (∀ d, (handle.index, d) ∉ devicesHeld session) →
        r = .error .invalidHandle ∧ ms = [] ∧ b' = b) ∧
    (∀ rel, ¬ b.release.Exhausts rel) ∧
    ∀ rel, b.release.Yields rel () →
      GivesBack session rel ∧ ∀ k, Settled (uses k (history session ++ rel)) := by
  refine ⟨fun handle n r ms b' hs hdead => ?_, b.ends_release, fun rel hrel => ?_⟩
  · have hd : b.devices.get? handle.index = none :=
      Option.eq_none_iff_forall_ne_some.mpr fun d hd => hdead d ((mem_devicesHeld_iff h).mpr hd)
    rcases destroyStream_cases hs with ⟨hr, hms, hb, -⟩ | ⟨d, slot, a, rest, hd', -⟩
    · exact ⟨hr, hms, hb⟩
    · rw [hd] at hd'
      cases hd'
  · refine ⟨givesBack_release h hsession hrel, fun k => ?_⟩
    refine settled_release (tends_session h) (fun i slot hslot => ?_) hrel k
    obtain ⟨d, hd, -⟩ := farewells_of_held h hsession hslot
    exact ⟨d, hd⟩

/-- A stream is refused on the second device, and the one on the first device cannot be
stopped. -/
def failingRequests : List Service :=
  [{ request := .setupStream ⟨1⟩ (.standard ⟨.rx, 0⟩)
     answer := (.error (.failed "setup_stream" "") : Except Error StreamHandle)
     events := [⟨.inl (.setupStream ⟨8⟩ ⟨1, 0⟩ (setupOf (.standard ⟨.rx, 0⟩))),
        (⟨-1, none, []⟩ : Reply (Option Nat))⟩,
      ⟨.inl .getLastErrorMessage, (⟨0, none, []⟩ : Reply (Option (List UInt8)))⟩] },
    { request := .stopStream ⟨0⟩
      answer := (.error (.failed "stop_stream" "") : Except Error Unit)
      events := [⟨.inl (.stream ⟨0, 3⟩ .stop), (⟨-1, (), []⟩ : Reply Unit)⟩,
        ⟨.inl .getLastErrorMessage, (⟨0, none, []⟩ : Reply (Option (List UInt8)))⟩] }]

/-- A device is closed. -/
def closedAs (h : Nat) (d : DeviceRef) : Service where
  request := .closeDevice ⟨h⟩
  answer := (.ok () : Except Error Unit)
  events := [⟨.inl (.closeDevice d), (⟨0, (), []⟩ : Reply Unit)⟩]

/-- The second device is closed in the end, while the stream on the first still runs. -/
theorem failing_session_releasesOnce :
    ∃ b, Path Service.Serves fresh (twoDevices ++ failingRequests ++ [closedAs 1 ⟨8⟩]) b ∧
      Considerate (twoDevices ++ failingRequests ++ [closedAs 1 ⟨8⟩]) ∧
      b.release.Yields failingRelease () ∧
      GivesBack (twoDevices ++ failingRequests ++ [closedAs 1 ⟨8⟩]) failingRelease ∧
      ∀ k, Settled (uses k (history (twoDevices ++ failingRequests ++ [closedAs 1 ⟨8⟩]) ++
        failingRelease)) := by
  have hfailed : Path Service.Serves fresh (twoDevices ++ failingRequests)
      ⟨⟨#[some ⟨7⟩, some ⟨8⟩]⟩, ⟨#[some ⟨⟨0⟩, .f32, true, ⟨0, 3⟩⟩]⟩, none, 2⟩ :=
    path_twoDevices.append (.cons (.ask _ (.ask _ (.done _)))
      (.cons (.ask _ (.ask _ (.done _))) (.nil _)))
  have hpath : Path Service.Serves fresh (twoDevices ++ failingRequests ++ [closedAs 1 ⟨8⟩])
      ⟨⟨#[some ⟨7⟩, none]⟩, ⟨#[some ⟨⟨0⟩, .f32, true, ⟨0, 3⟩⟩]⟩, none, 2⟩ :=
    hfailed.append (.single (.ask _ (.done _)))
  have hconsiderate : Considerate (twoDevices ++ failingRequests ++ [closedAs 1 ⟨8⟩]) := by
    have hbefore : Considerate (twoDevices ++ failingRequests) := .of_forall (by
      simp [twoDevices, failingRequests, openedAs, setUpAs, startedAs])
    refine hbefore.concat fun e he => ?_
    have hheld : streamsHeld (twoDevices ++ failingRequests) =
        [(0, ⟨⟨0⟩, .f32, false, ⟨0, 3⟩⟩)] := rfl
    rw [hheld, List.mem_singleton] at he
    subst he
    simp [closedAs]
  have hrelease : (Binding.mk ⟨#[some ⟨7⟩, none]⟩ ⟨#[some ⟨⟨0⟩, .f32, true, ⟨0, 3⟩⟩]⟩
      none 2).release.Yields failingRelease () :=
    .ask _ (.ask _ (.ask _ (.ask _ (.ask _ (.ask _ (.ask _ (.ask _ (.ask _ (.done _)))))))))
  obtain ⟨-, -, hend⟩ := session_releasesOnce hpath hconsiderate
  exact ⟨_, hpath, hconsiderate, hrelease, hend _ hrelease⟩

end Binding
end Native
end RadioBench
