/-
Sessions of a driver.

A client may ask the driver for anything, in any order and with any handles.  A session is the
list of its requests as they were served, each with its answer and with what passed between
the driver and the library meanwhile.

Whatever is asked, a request comes to one of a few effects: a value is stored in one of the
tables, a slot is freed, a stream is started or stopped, or a call is made and the tables stay
as they are.  All that is shown of sessions is shown of these effects.  The first result is
that both tables answer for the handles that the client was given.
-/
import RadioBench.Proofs.Native.Account
import RadioBench.Proofs.Native.Custody
import RadioBench.Proofs.Native.Samples

namespace RadioBench
namespace Native

open Prog

/-- A request that was served: what was asked, what was answered, and what passed between the
driver and the library meanwhile. -/
structure Service where
  request : Request
  answer : request.Answer
  events : List (Event Machine)

/-- What passed between the driver and the library. -/
def history (session : List Service) : List (Event Machine) := session.flatMap (·.events)

@[simp]
theorem history_concat (session : List Service) (s : Service) :
    history (session ++ [s]) = history session ++ s.events := by
  simp [history]

/-! ## Events -/

/-- The device that is opened. -/
def opening? : Event Machine → Option DeviceRef
  | ⟨.inl (.openDevice _), a⟩ => if a.code = 0 then some (Option.getD a.out .null) else none
  | _ => none

/-- The block of the stream that is set up, with the number that the library stored in it. -/
def setUp? : Event Machine → Option StreamBlock
  | ⟨.inl (.setupStream _ block _), a⟩ =>
    if a.code = 0 then some { block with number := Option.getD a.out 0 } else none
  | _ => none

/-- The block that a call names. -/
def block? : Event Machine → Option StreamBlock
  | ⟨.inl (.setupStream _ block _), _⟩ => some block
  | ⟨.inl (.destroyStream _ block), _⟩ => some block
  | ⟨.inl (.stream block _), _⟩ => some block
  | _ => none

/-- Start a stream, or stop it. -/
def StreamFunction.switch : Bool → StreamFunction
  | true => .start
  | false => .stop

/-- The stream of the block is started, `true`, or stopped, `false`. -/
def switched? (serial : Nat) : Event Machine → Option Bool
  | ⟨.inl (.stream block .start), a⟩ =>
    if a.code = 0 ∧ block.serial = serial then some true else none
  | ⟨.inl (.stream block .stop), a⟩ =>
    if a.code = 0 ∧ block.serial = serial then some false else none
  | _ => none

theorem switched?_switch {block : StreamBlock} {on : Bool}
    {a : Reply (StreamFunction.switch on).Out} (hcode : a.code = 0) (serial : Nat) :
    switched? serial ⟨.inl (.stream block (.switch on)), a⟩ =
      if block.serial = serial then some on else none := by
  cases on <;> simp [switched?, StreamFunction.switch, hcode]

theorem switched?_of_failed {block : StreamBlock} {on : Bool}
    {a : Reply (StreamFunction.switch on).Out} (hcode : a.code ≠ 0) (serial : Nat) :
    switched? serial ⟨.inl (.stream block (.switch on)), a⟩ = none := by
  cases on <;> simp [switched?, StreamFunction.switch, hcode]

/-- The event neither names a stream nor moves any ownership. -/
def Plain (ev : Event Machine) : Prop := block? ev = none ∧ transfer? ev = none

theorem Aside.plain {ev : Event Machine} (h : Aside ev) : Plain ev := by
  cases h <;> exact ⟨rfl, rfl⟩

/-! ## Moves of the tables -/

/-- A release that gets as far as the library takes the handle back, whatever comes of it. -/
def released? {α : Type} (i : Nat) : Except Error Unit → Option (Slots.Move α)
  | .error .invalidHandle => none
  | _ => some (.released i)

theorem released?_of_ne {α : Type} {i : Nat} {r : Except Error Unit}
    (h : r ≠ .error .invalidHandle) :
    (released? i r : Option (Slots.Move α)) = some (.released i) := by
  unfold released?
  split
  · exact absurd rfl h
  · rfl

theorem eq_of_released? {α : Type} {i : Nat} {r : Except Error Unit} {m : Slots.Move α}
    (h : released? i r = some m) : m = .released i := by
  unfold released? at h
  split at h
  · cases h
  · exact (Option.some.inj h).symm

/-- The stream as it was set up. -/
def StreamSlot.atRest (slot : StreamSlot) : StreamSlot := { slot with running := false }

namespace Service

/-- The device's handle that is issued or taken back. -/
def deviceMove? : Service → Option (Slots.Move DeviceRef)
  | ⟨.openDevice _, .ok h, ms⟩ => (ms.findSome? opening?).map (.issued h.index)
  | ⟨.closeDevice h, r, _⟩ => released? h.index r
  | _ => none

/-- The stream's handle that is issued or taken back. -/
def streamMove? : Service → Option (Slots.Move StreamSlot)
  | ⟨.setupStream h config, .ok n, ms⟩ => (ms.findSome? setUp?).map fun block =>
    .issued n.index
      { device := h, format := config.dataFormat, running := false, block := block }
  | ⟨.destroyStream _ n, r, _⟩ => released? n.index r
  | _ => none

/-- The driver serves the request so, and is another driver afterwards. -/
def Serves (s : Service) (b b' : Binding) : Prop :=
  (b.perform s.request).Yields s.events (s.answer, b')

/-- The request was for a handle, and none was given. -/
def GivesNone : Service → Prop
  | ⟨.openDevice _, .error _, _⟩ => True
  | ⟨.setupStream .., .error _, _⟩ => True
  | _ => False

end Service

/-- The devices that the client holds, by their handles. -/
def devicesHeld (session : List Service) : List (Nat × DeviceRef) :=
  Slots.held (session.filterMap Service.deviceMove?)

/-- The streams that the client holds, by their handles and as they were set up. -/
def streamsHeld (session : List Service) : List (Nat × StreamSlot) :=
  Slots.held (session.filterMap Service.streamMove?)

namespace Binding

variable {b b' : Binding} {ms : List (Event Machine)}

/-! ## Effects -/

/-- What a request comes to: the handle of a device and that of a stream that are issued or
taken back, what passes between the driver and the library, and the driver afterwards. -/
inductive Effect (b : Binding) : Option (Slots.Move DeviceRef) → Option (Slots.Move StreamSlot) →
    List (Event Machine) → Binding → Prop
  | plain {ms : List (Event Machine)} {b' : Binding} (hms : ∀ ev ∈ ms, Plain ev)
      (hdevices : b'.devices = b.devices) (hstreams : b'.streams = b.streams)
      (hblocks : b'.blocks = b.blocks) : Effect b none none ms b'
  | opened (info : String) (a : Reply (Option DeviceRef)) {rest : List (Event Machine)}
      (hcode : a.code = 0) (hrest : ∀ ev ∈ rest, Aside ev) :
      Effect b
        (some (.issued (b.devices.insert (Option.getD a.out .null)).1 (Option.getD a.out .null)))
        none (⟨.inl (.openDevice info), a⟩ :: rest)
        { b with devices := (b.devices.insert (Option.getD a.out .null)).2 }
  | closed (h : DeviceHandle) (d : DeviceRef) (a : Reply Unit) {rest : List (Event Machine)}
      (hd : b.devices.get? h.index = some d) (hrest : ∀ ev ∈ rest, Aside ev) :
      Effect b (some (.released h.index)) none (⟨.inl (.closeDevice d), a⟩ :: rest)
        { b with devices := b.devices.erase h.index }
  | setUp (h : DeviceHandle) (d : DeviceRef) (config : StreamConfig) (a : Reply (Option Nat))
      {rest : List (Event Machine)} (hd : b.devices.get? h.index = some d) (hcode : a.code = 0)
      (hrest : ∀ ev ∈ rest, Aside ev) {slot : StreamSlot}
      (hslot : slot = ⟨h, config.dataFormat, false, ⟨b.blocks, Option.getD a.out 0⟩⟩) :
      Effect b none (some (.issued (b.streams.insert slot).1 slot))
        (⟨.inl (.setupStream d ⟨b.blocks, 0⟩ (setupOf config)), a⟩ :: rest)
        { b with streams := (b.streams.insert slot).2, blocks := b.blocks + 1 }
  | notSetUp (d : DeviceRef) (setup : StreamSetup) (a : Reply (Option Nat))
      {rest : List (Event Machine)} (hcode : a.code ≠ 0) (hrest : ∀ ev ∈ rest, Aside ev) :
      Effect b none none (⟨.inl (.setupStream d ⟨b.blocks, 0⟩ setup), a⟩ :: rest)
        { b with blocks := b.blocks + 1 }
  | destroyed (n : StreamHandle) (d : DeviceRef) (slot : StreamSlot) (a : Reply Unit)
      {rest : List (Event Machine)} (hd : b.devices.Holds d)
      (hn : b.streams.get? n.index = some slot) (hrest : ∀ ev ∈ rest, Aside ev) :
      Effect b none (some (.released n.index)) (⟨.inl (.destroyStream d slot.block), a⟩ :: rest)
        { b with streams := b.streams.erase n.index }
  | switched (n : StreamHandle) (slot : StreamSlot) (on : Bool)
      (a : Reply (StreamFunction.switch on).Out) {rest : List (Event Machine)}
      (hn : b.streams.get? n.index = some slot) (hcode : a.code = 0)
      (hrest : ∀ ev ∈ rest, Aside ev) :
      Effect b none none (⟨.inl (.stream slot.block (.switch on)), a⟩ :: rest)
        (b.setRunning n on)
  /-- A call on a stream that starts and stops nothing. -/
  | used (n : StreamHandle) (slot : StreamSlot) (f : StreamFunction) (a : Reply f.Out)
      {rest : List (Event Machine)} (hn : b.streams.get? n.index = some slot)
      (hoff : ∀ k, switched? k ⟨.inl (.stream slot.block f), a⟩ = none)
      (hrest : ∀ ev ∈ rest, Aside ev) :
      Effect b none none (⟨.inl (.stream slot.block f), a⟩ :: rest) b

theorem Effect.refused : Effect b none none [] b := .plain (by simp) rfl rfl rfl

/-- What is asked of a stream is refused without a call, or goes to the stream of the slot. -/
theorem of_yields_withStream {α : Type} {n : StreamHandle} {f : StreamSlot → Action α}
    {r : Except Error α} (h : (b.stream n >>= f).run.Yields ms r) :
    (ms = [] ∧ r = .error .invalidHandle) ∨
      ∃ slot, b.streams.get? n.index = some slot ∧ (f slot).run.Yields ms r := by
  rw [stream] at h
  cases hn : b.streams.get? n.index with
  | none =>
    rw [hn] at h
    obtain ⟨rfl, rfl⟩ := yields_done_iff.mp h
    exact .inl ⟨rfl, rfl⟩
  | some slot =>
    rw [hn] at h
    exact .inr ⟨slot, rfl, h⟩

theorem effect_keep {α : Type} {p : Action α} {r : Except Error α} (hp : Only Plain p.run)
    (h : (b.keep p).Yields ms (r, b')) : Effect b none none ms b' := by
  obtain ⟨hp', rfl⟩ := of_yields_keep h
  exact .plain (hp.events _ _ hp') rfl rfl rfl

theorem effect_openDevice {info : String} {r : Except Error DeviceHandle}
    (h : (b.openDevice info).Yields ms (r, b')) :
    Effect b (Service.deviceMove? ⟨.openDevice info, r, ms⟩) none ms b' := by
  rcases openDevice_cases h with
    ⟨rfl, rfl, rfl⟩ | ⟨a, rest, rfl, hrest, ⟨hcode, rfl, rfl⟩ | ⟨hcode, ⟨message, rfl⟩, rfl⟩⟩
  · exact .refused
  · have hopening : opening? ⟨.inl (.openDevice info), a⟩ = some (Option.getD a.out .null) :=
      if_pos hcode
    simp only [Service.deviceMove?, List.findSome?_cons, hopening, Option.map_some]
    exact .opened info a hcode hrest
  · have hfailed : Plain ⟨.inl (.openDevice info), a⟩ := ⟨rfl, if_neg hcode⟩
    exact .plain (List.forall_mem_cons.mpr ⟨hfailed, fun ev hev => (hrest ev hev).plain⟩)
      rfl rfl rfl

theorem effect_closeDevice {h : DeviceHandle} {r : Except Error Unit}
    (hes : (b.closeDevice h).Yields ms (r, b')) :
    Effect b (Service.deviceMove? ⟨.closeDevice h, r, ms⟩) none ms b' := by
  rcases closeDevice_cases hes with ⟨rfl, rfl, rfl, -⟩ | ⟨d, a, rest, hd, hr, rfl, hrest, rfl⟩
  · exact .refused
  · rw [show Service.deviceMove? ⟨.closeDevice h, r, _⟩ = some (.released h.index) from
      released?_of_ne hr]
    exact .closed h d a hd hrest

theorem effect_setupStream {h : DeviceHandle} {config : StreamConfig}
    {r : Except Error StreamHandle} (hes : (b.setupStream h config).Yields ms (r, b')) :
    Effect b none (Service.streamMove? ⟨.setupStream h config, r, ms⟩) ms b' := by
  rcases setupStream_cases hes with ⟨rfl, rfl, rfl, -⟩ | ⟨d, a, rest, hd, rfl, hrest,
    ⟨hcode, slot, hslot, rfl, rfl⟩ | ⟨hcode, ⟨message, rfl⟩, rfl⟩⟩
  · exact .refused
  · have hsetUp : setUp? ⟨.inl (.setupStream d ⟨b.blocks, 0⟩ (setupOf config)), a⟩ =
        some ⟨b.blocks, Option.getD a.out 0⟩ := if_pos hcode
    simp only [Service.streamMove?, List.findSome?_cons, hsetUp, Option.map_some]
    rw [← hslot]
    exact .setUp h d config a hd hcode hrest hslot
  · exact .notSetUp d _ a hcode hrest

theorem effect_destroyStream {h : DeviceHandle} {n : StreamHandle} {r : Except Error Unit}
    (hes : (b.destroyStream h n).Yields ms (r, b')) :
    Effect b none (Service.streamMove? ⟨.destroyStream h n, r, ms⟩) ms b' := by
  rcases destroyStream_cases hes with
    ⟨rfl, rfl, rfl, -⟩ | ⟨d, slot, a, rest, hd, hn, hr, rfl, hrest, rfl⟩
  · exact .refused
  · rw [show Service.streamMove? ⟨.destroyStream h n, r, _⟩ = some (.released n.index) from
      released?_of_ne hr]
    exact .destroyed n d slot a ⟨h.index, hd⟩ hn hrest

theorem effect_switch (on : Bool) {n : StreamHandle} {operation : String}
    {r : Except Error Unit} {g : (StreamFunction.switch on).Out → Unit}
    (hes : (b.commit (do b.succeed operation (.stream (← b.stream n).block (.switch on))) fun a =>
      (g a, b.setRunning n on)).Yields ms (r, b')) : Effect b none none ms b' := by
  rcases of_yields_commit hes with ⟨a, ha, -, rfl⟩ | ⟨e, he, -, rfl⟩
  · rcases of_yields_withStream ha with ⟨-, hx⟩ | ⟨slot, hn, hcall⟩
    · cases hx
    · obtain ⟨a, rest, rfl, hrest, ⟨hcode, -⟩ | ⟨-, message, hx⟩⟩ := of_yields_succeed hcall
      · exact .switched n slot on a hn hcode hrest
      · cases hx
  · rcases of_yields_withStream he with ⟨rfl, -⟩ | ⟨slot, hn, hcall⟩
    · exact .refused
    · obtain ⟨a, rest, rfl, hrest, ⟨-, hx⟩ | ⟨hcode, -⟩⟩ := of_yields_succeed hcall
      · cases hx
      · exact .used n slot _ a hn (switched?_of_failed hcode) hrest

theorem Moving.effect {operation : String} {n : StreamHandle} {buffer : SampleBuffer}
    {function : StreamFunction} {error : Option Error}
    (h : b.Moving operation n buffer function ms error)
    (hoff : ∀ block a k, switched? k ⟨.inl (.stream block function), a⟩ = none) :
    Effect b none none ms b := by
  cases h with
  | dead => exact .refused
  | mismatch => exact .refused
  | @called slot hn _ a rest hrest => exact .used n slot function a hn (hoff slot.block a) hrest

theorem effect_streamStatus {n : StreamHandle} {r : Except Error StreamStatus}
    (h : (b.keep (b.streamStatus n)).Yields ms (r, b')) : Effect b none none ms b' := by
  obtain ⟨hstatus, rfl⟩ := of_yields_keep h
  rcases of_yields_withStream hstatus with ⟨rfl, -⟩ | ⟨slot, hn, hcall⟩
  · exact .refused
  · obtain ⟨x, hsucceed, -⟩ := of_yields_map hcall
    obtain ⟨a, rest, rfl, hrest, -⟩ := of_yields_succeed hsucceed
    exact .used n slot .getStatus a hn (fun _ => rfl) hrest

/-- Every request comes to one of the effects. -/
theorem effect_of_serves {s : Service} (h : s.Serves b b') :
    Effect b s.deviceMove? s.streamMove? s.events b' := by
  obtain ⟨request, answer, ms⟩ := s
  have haside : ∀ ev, Aside ev → Plain ev := fun _ hev => hev.plain
  have haround := around_forall haside b.handler
  cases request with
  | libraryVersion =>
    obtain ⟨⟨reply, h₁, -⟩, rfl⟩ := yields_keeping_iff.mp h
    have hcall := only_call (b := b') (c := .getLibraryVersion) haside fun _ => ⟨rfl, rfl⟩
    exact .plain (hcall.events _ _ h₁) rfl rfl rfl
  | registerLog handler =>
    obtain ⟨c, ms₁, ms₂, rfl, h₁, h₂⟩ := yields_bind_iff.mp h
    obtain ⟨rfl, -, rfl⟩ := yields_pair_iff.mp h₂
    obtain ⟨rfl, reply, rest, rfl, hrest⟩ := of_yields_registerLog h₁
    rw [List.append_nil]
    refine .plain (List.forall_mem_cons.mpr ⟨⟨rfl, rfl⟩, fun ev hev => ?_⟩) rfl rfl rfl
    exact (hrest.aside ev hev).plain
  | deviceList =>
    exact effect_keep (makes_deviceList haround fun _ => only_call haside fun _ => ⟨rfl, rfl⟩) h
  | openDevice info => exact effect_openDevice h
  | closeDevice handle => exact effect_closeDevice h
  | device handle call =>
    refine effect_keep (makes_deviceCall haround (fun _ _ _ => ?_) call) h
    exact only_call haside fun _ => ⟨rfl, rfl⟩
  | channel handle ch call =>
    refine effect_keep (makes_channelCall haround (fun _ _ _ => ?_) call) h
    exact only_call haside fun _ => ⟨rfl, rfl⟩
  | setupStream handle config => exact effect_setupStream h
  | destroyStream handle n => exact effect_destroyStream h
  | startStream n => exact effect_switch true h
  | stopStream n => exact effect_switch false h
  | recvStream n buffer info timeout =>
    obtain ⟨⟨x, h₁, -⟩, rfl⟩ := yields_keeping_iff.mp h
    exact (moving_recvStream h₁).1.effect fun _ _ _ => rfl
  | sendStream n buffer count info timeout =>
    obtain ⟨h₁, rfl⟩ := of_yields_keep h
    exact (moving_sendStream h₁).effect fun _ _ _ => rfl
  | streamStatus n => exact effect_streamStatus h

/-- Only a registration touches the handler. -/
theorem handler_of_perform {r : Request} {a : r.Answer} (h : (b.perform r).Yields ms (a, b'))
    (hother : ∀ x, r ≠ .registerLog x) : b'.handler = b.handler := by
  have hkeep {α : Type} {p : Action α} {x : Except Error α}
      (h : (b.keep p).Yields ms (x, b')) : b'.handler = b.handler := by
    rw [(of_yields_keep h).2]
  cases r with
  | libraryVersion =>
    obtain ⟨-, rfl⟩ := yields_keeping_iff.mp h
    rfl
  | registerLog x => exact absurd rfl (hother x)
  | deviceList => exact hkeep h
  | openDevice info =>
    rcases openDevice_cases h with ⟨-, -, rfl⟩ | ⟨a, rest, -, -, ⟨-, -, rfl⟩ | ⟨-, -, rfl⟩⟩ <;> rfl
  | closeDevice handle =>
    rcases closeDevice_cases h with ⟨-, -, rfl, -⟩ | ⟨d, a, rest, -, -, -, -, rfl⟩ <;> rfl
  | device handle call => exact hkeep h
  | channel handle ch call => exact hkeep h
  | setupStream handle config =>
    rcases setupStream_cases h with
      ⟨-, -, rfl, -⟩ | ⟨d, a, rest, -, -, -, ⟨-, slot, -, -, rfl⟩ | ⟨-, -, rfl⟩⟩ <;> rfl
  | destroyStream handle n =>
    rcases destroyStream_cases h with
      ⟨-, -, rfl, -⟩ | ⟨d, slot, a, rest, -, -, -, -, -, rfl⟩ <;> rfl
  | startStream n => rcases (of_yields_running h).1 with rfl | rfl <;> rfl
  | stopStream n => rcases (of_yields_running h).1 with rfl | rfl <;> rfl
  | recvStream n buffer info timeout =>
    obtain ⟨-, rfl⟩ := yields_keeping_iff.mp h
    rfl
  | sendStream n buffer count info timeout => exact hkeep h
  | streamStatus n => exact hkeep h

/-! ## The tables -/

variable {dm : Option (Slots.Move DeviceRef)} {sm : Option (Slots.Move StreamSlot)}

theorem Effect.follows_devices (h : Effect b dm sm ms b') :
    Slots.Follows dm b.devices b'.devices := by
  cases h with
  | plain _ hdevices => exact hdevices
  | opened => exact .issued _ _
  | closed h d a hd => exact .released _ hd
  | _ => rfl

theorem Effect.follows_streams (h : Effect b dm sm ms b') :
    Slots.Follows sm (b.streams.map StreamSlot.atRest) (b'.streams.map StreamSlot.atRest) := by
  cases h with
  | plain _ _ hstreams => exact congrArg (Slots.map _) hstreams
  | @setUp h d config a rest hd hcode hrest slot hslot =>
    have hissued := Slots.Moved.issued (b.streams.map StreamSlot.atRest) slot.atRest
    rw [Slots.map_insert] at hissued
    rwa [show slot.atRest = slot from hslot ▸ rfl] at hissued
  | destroyed n d slot a hd hn =>
    have hreleased := Slots.Moved.released (b.streams.map StreamSlot.atRest)
      ((Slots.get?_map _ _ _).trans (congrArg (Option.map StreamSlot.atRest) hn))
    rwa [← Slots.map_erase] at hreleased
  | switched n slot on a => exact Slots.map_modify _ _ _ fun _ => rfl
  | _ => rfl

variable {session : List Service}

theorem path_devices (h : Path Service.Serves fresh session b) :
    Path Slots.Moved .empty (session.filterMap Service.deviceMove?) b.devices := by
  refine h.filterMap Binding.devices (fun s c c' hs hm => ?_) fun s c c' m hs hm => ?_
  · have hfollows := (effect_of_serves hs).follows_devices
    rwa [hm] at hfollows
  · have hfollows := (effect_of_serves hs).follows_devices
    rwa [hm] at hfollows

theorem path_streams (h : Path Service.Serves fresh session b) :
    Path Slots.Moved .empty (session.filterMap Service.streamMove?)
      (b.streams.map StreamSlot.atRest) := by
  rw [← Slots.map_empty StreamSlot.atRest]
  refine h.filterMap (fun c => c.streams.map StreamSlot.atRest)
    (fun s c c' hs hm => ?_) fun s c c' m hs hm => ?_
  · have hfollows := (effect_of_serves hs).follows_streams
    rwa [hm] at hfollows
  · have hfollows := (effect_of_serves hs).follows_streams
    rwa [hm] at hfollows

theorem mem_devicesHeld_iff (h : Path Service.Serves fresh session b) {i : Nat} {d : DeviceRef} :
    (i, d) ∈ devicesHeld session ↔ b.devices.get? i = some d :=
  (Slots.lists_of_path (path_devices h)).mem_iff i d

theorem mem_streamsHeld_iff (h : Path Service.Serves fresh session b) {i : Nat}
    {slot : StreamSlot} : (i, slot) ∈ streamsHeld session ↔
      ∃ now, b.streams.get? i = some now ∧ now.atRest = slot := by
  rw [streamsHeld, (Slots.lists_of_path (path_streams h)).mem_iff, Slots.get?_map,
    Option.map_eq_some_iff]

theorem tables_of_givesNone {s : Service} (hs : s.Serves b b') (hnone : s.GivesNone) :
    b'.devices = b.devices ∧ b'.streams = b.streams := by
  obtain ⟨request, answer, ms⟩ := s
  cases request with
  | openDevice info =>
    rcases openDevice_cases hs with
      ⟨-, -, rfl⟩ | ⟨a, rest, -, -, ⟨-, rfl, -⟩ | ⟨-, -, rfl⟩⟩
    · exact ⟨rfl, rfl⟩
    · exact hnone.elim
    · exact ⟨rfl, rfl⟩
  | setupStream h config =>
    rcases setupStream_cases hs with
      ⟨-, -, rfl, -⟩ | ⟨d, a, rest, -, -, -, ⟨-, slot, -, rfl, -⟩ | ⟨-, -, rfl⟩⟩
    · exact ⟨rfl, rfl⟩
    · exact hnone.elim
    · exact ⟨rfl, rfl⟩
  | _ => exact hnone.elim

/-- Both tables answer for the handles that a client was given, whatever it asks for and
whatever the library replies, and a request that gives no handle changes no slot. -/
theorem session_keepsAccounts (h : Path Service.Serves fresh session b) :
    Slots.Account (session.filterMap Service.deviceMove?) b.devices ∧
      Slots.Account (session.filterMap Service.streamMove?) (b.streams.map StreamSlot.atRest) ∧
      ∀ (s : Service) (c c' : Binding), s.Serves c c' → s.GivesNone →
        c'.devices = c.devices ∧ c'.streams = c.streams :=
  ⟨Slots.account_of_path (path_devices h), Slots.account_of_path (path_streams h),
    fun _ _ _ => tables_of_givesNone⟩

/-- A device is opened. -/
def openedAs (i : Nat) (d : DeviceRef) : Service where
  request := .openDevice "usb"
  answer := (.ok ⟨i⟩ : Except Error DeviceHandle)
  events := [⟨.inl (.openDevice "usb"), (⟨0, some d, []⟩ : Reply (Option DeviceRef))⟩]

theorem serves_openedAs {i : Nat} {d : DeviceRef} {devices : Slots DeviceRef}
    (h : b.devices.insert d = (i, devices)) :
    (openedAs i d).Serves b { b with devices := devices } := by
  have hopen : (b.openDevice "usb").Yields (openedAs i d).events
      (.ok ⟨(b.devices.insert d).1⟩, { b with devices := (b.devices.insert d).2 }) := by
    rw [openDevice, if_neg usb_noZeroByte]
    exact .ask _ (.done _)
  rw [h] at hopen
  exact hopen

/-- A stream is set up. -/
def setUpAs (h : Nat) (n : Nat) (d : DeviceRef) (block : StreamBlock) : Service where
  request := .setupStream ⟨h⟩ (.standard ⟨.rx, 0⟩)
  answer := (.ok ⟨n⟩ : Except Error StreamHandle)
  events :=
    [⟨.inl (.setupStream d { block with number := 0 } (setupOf (.standard ⟨.rx, 0⟩))),
      (⟨0, some block.number, []⟩ : Reply (Option Nat))⟩]

/-- A stream is started. -/
def startedAs (n : Nat) (block : StreamBlock) : Service where
  request := .startStream ⟨n⟩
  answer := (.ok () : Except Error Unit)
  events := [⟨.inl (.stream block .start), (⟨0, (), []⟩ : Reply Unit)⟩]

/-- Two devices are open, and on the first a stream runs. -/
def twoDevices : List Service :=
  [openedAs 0 ⟨7⟩, openedAs 1 ⟨8⟩, setUpAs 0 0 ⟨7⟩ ⟨0, 3⟩, startedAs 0 ⟨0, 3⟩]

theorem path_twoDevices : Path Service.Serves fresh twoDevices
    { devices := ⟨#[some ⟨7⟩, some ⟨8⟩]⟩
      streams := ⟨#[some ⟨⟨0⟩, .f32, true, ⟨0, 3⟩⟩]⟩
      handler := none
      blocks := 1 } :=
  .cons (serves_openedAs rfl) (.cons (serves_openedAs rfl) (.cons (.ask _ (.done _))
    (.cons (.ask _ (.done _)) (.nil _))))

/-- The first device is closed, which fails; another cannot be opened; a third one gets the
handle of the first. -/
def reusedHandle : List Service :=
  twoDevices ++
    [{ request := .closeDevice ⟨0⟩
       answer := (.error (.failed "close" "") : Except Error Unit)
       events := [⟨.inl (.closeDevice ⟨7⟩), (⟨-1, (), []⟩ : Reply Unit)⟩,
        ⟨.inl .getLastErrorMessage, (⟨0, none, []⟩ : Reply (Option (List UInt8)))⟩] },
      { request := .openDevice "usb"
        answer := (.error (.failed "open" "") : Except Error DeviceHandle)
        events := [⟨.inl (.openDevice "usb"), (⟨-1, none, []⟩ : Reply (Option DeviceRef))⟩,
          ⟨.inl .getLastErrorMessage, (⟨0, none, []⟩ : Reply (Option (List UInt8)))⟩] },
      openedAs 0 ⟨9⟩]

theorem reusedHandle_keepsAccounts :
    ∃ c, Path Service.Serves fresh reusedHandle c ∧
      devicesHeld reusedHandle = [(1, ⟨8⟩), (0, ⟨9⟩)] ∧
      Slots.Account (reusedHandle.filterMap Service.deviceMove?) c.devices ∧
      Slots.Account (reusedHandle.filterMap Service.streamMove?)
        (c.streams.map StreamSlot.atRest) := by
  have hrefused : ∀ c : Binding, (c.openDevice "usb").Yields
      [⟨.inl (.openDevice "usb"), (⟨-1, none, []⟩ : Reply (Option DeviceRef))⟩,
        ⟨.inl .getLastErrorMessage, (⟨0, none, []⟩ : Reply (Option (List UInt8)))⟩]
      (.error (.failed "open" ""), c) := by
    intro c
    rw [openDevice, if_neg usb_noZeroByte]
    exact .ask _ (.ask _ (.done _))
  have hpath : Path Service.Serves fresh reusedHandle
      { devices := ⟨#[some ⟨9⟩, some ⟨8⟩]⟩
        streams := ⟨#[some ⟨⟨0⟩, .f32, true, ⟨0, 3⟩⟩]⟩
        handler := none
        blocks := 1 } :=
    path_twoDevices.append (.cons (.ask _ (.ask _ (.done _)))
      (.cons (hrefused _) (.cons (serves_openedAs rfl) (.nil _))))
  obtain ⟨hdevices, hstreams, -⟩ := session_keepsAccounts hpath
  exact ⟨_, hpath, rfl, hdevices, hstreams⟩

end Binding
end Native
end RadioBench
