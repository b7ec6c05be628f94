/-
Posting what the guards do.

Each deed is posted when the guards it names are in the right phase, and changes at most
one of them.  Whole operations of a guard are then booked one event after the other.
-/
import RadioBench.Proofs.Guard.Ledger
import RadioBench.Proofs.Guard.ReceiveLoop
import RadioBench.Proofs.SmokeTest.Configure

namespace RadioBench
namespace Ledger

open Deed

def setDevice (L : Ledger) (d : Nat) (p : Phase DeviceHandle) : Ledger :=
  { L with device := fun k => if k = d then p else L.device k }

def setStream (L : Ledger) (t : Nat) (p : Phase Held) : Ledger :=
  { L with stream := fun k => if k = t then p else L.stream k }

@[simp]
theorem setDevice_device (L : Ledger) (d : Nat) (p : Phase DeviceHandle) (k : Nat) :
    (L.setDevice d p).device k = if k = d then p else L.device k := rfl

@[simp]
theorem setDevice_stream (L : Ledger) (d : Nat) (p : Phase DeviceHandle) :
    (L.setDevice d p).stream = L.stream := rfl

@[simp]
theorem setStream_stream (L : Ledger) (t : Nat) (p : Phase Held) (k : Nat) :
    (L.setStream t p).stream k = if k = t then p else L.stream k := rfl

@[simp]
theorem setStream_device (L : Ledger) (t : Nat) (p : Phase Held) :
    (L.setStream t p).device = L.device := rfl

variable {L M : Ledger} {d t : Nat} {h : DeviceHandle} {n : StreamHandle} {r : Bool}

@[simp]
theorem setStream_setStream (L : Ledger) (t : Nat) (p q : Phase Held) :
    (L.setStream t p).setStream t q = L.setStream t q := by
  simp only [setStream, Ledger.mk.injEq, true_and]
  funext k
  split <;> rfl

/-! ## Single deeds -/

theorem posts_other : Posts .other L L := ⟨fun _ => rfl, fun _ => rfl⟩

theorem posts_opened (hd : L.device d = .unborn) :
    Posts (.opened d h) L (L.setDevice d (.live h)) := by
  refine ⟨fun k => ?_, fun _ => rfl⟩
  by_cases hk : d = k
  · simp [deviceStep, ← hk, hd]
  · simp [deviceStep, hk, Ne.symm hk]

theorem posts_used (hd : L.device d = .live h) : Posts (.used d h) L L :=
  ⟨fun _ => ⟨fun hk => hk ▸ hd, rfl⟩, fun _ => rfl⟩

theorem posts_closed (hd : L.device d = .live h) :
    Posts (.closed d h) L (L.setDevice d .gone) := by
  refine ⟨fun k => ?_, fun _ => rfl⟩
  by_cases hk : d = k
  · simp [deviceStep, ← hk, hd]
  · simp [deviceStep, hk, Ne.symm hk]

theorem posts_setUp (hd : L.device d = .live h) (ht : L.stream t = .unborn) :
    Posts (.setUp d h t n) L (L.setStream t (.live ⟨d, h, n, false⟩)) := by
  refine ⟨fun _ => ⟨fun hk => hk ▸ hd, rfl⟩, fun k => ?_⟩
  by_cases hk : t = k
  · simp [streamStep, ← hk, ht]
  · simp [streamStep, hk, Ne.symm hk]

theorem posts_started (ht : L.stream t = .live ⟨d, h, n, r⟩) :
    Posts (.started t n) L (L.setStream t (.live ⟨d, h, n, true⟩)) := by
  refine ⟨fun _ => rfl, fun k => ?_⟩
  by_cases hk : t = k
  · simp [streamStep, ← hk, ht]
  · simp [streamStep, hk, Ne.symm hk]

theorem posts_stopped (ht : L.stream t = .live ⟨d, h, n, true⟩) :
    Posts (.stopped t n) L (L.setStream t (.live ⟨d, h, n, false⟩)) := by
  refine ⟨fun _ => rfl, fun k => ?_⟩
  by_cases hk : t = k
  · simp [streamStep, ← hk, ht]
  · simp [streamStep, hk, Ne.symm hk]

theorem posts_notStopped (ht : L.stream t = .live ⟨d, h, n, true⟩) :
    Posts (.notStopped t n) L L :=
  ⟨fun _ => rfl, fun _ => ⟨fun hk => ⟨d, h, hk ▸ ht⟩, rfl⟩⟩

theorem posts_streamed (ht : L.stream t = .live ⟨d, h, n, r⟩) : Posts (.streamed t n) L L :=
  ⟨fun _ => rfl, fun _ => ⟨fun hk => ⟨d, h, r, hk ▸ ht⟩, rfl⟩⟩

theorem posts_destroyed (hd : L.device d = .live h) (ht : L.stream t = .live ⟨d, h, n, r⟩) :
    Posts (.destroyed d h t n) L (L.setStream t .gone) := by
  refine ⟨fun _ => ⟨fun hk => hk ▸ hd, rfl⟩, fun k => ?_⟩
  by_cases hk : t = k
  · simp [streamStep, ← hk, ht]
  · simp [streamStep, hk, Ne.symm hk]

/-! ## Requests that change nothing -/

theorem books_ambient (o : Ambient) (a : o.Reply) : Books ⟨.inr o, a⟩ L L :=
  ⟨.other, .ambient o a, posts_other⟩

/-- A request that is booked without a change, whatever the answer. -/
def Keeps (L : Ledger) (q : Request) : Prop := ∀ a, Books ⟨.inl q, a⟩ L L

theorem path_keeps {es : List (Event Host)} (hes : ∀ q ∈ requests es, L.Keeps q) :
    Path Books L es L := .of_requests books_ambient hes

theorem path_notes {es : List (Event Host)} (hes : Notes es) : Path Books L es L :=
  path_keeps (by simp [hes.requests])

theorem keeps_device (hd : L.device d = .live h) (c : DeviceCall) : L.Keeps (.device h c) :=
  fun a => ⟨.used d h, .device h c a d, posts_used hd⟩

theorem keeps_channel (hd : L.device d = .live h) (ch : ChannelId) (c : ChannelCall) :
    L.Keeps (.channel h ch c) :=
  fun a => ⟨.used d h, .channel h ch c a d, posts_used hd⟩

theorem keeps_recv (ht : L.stream t = .live ⟨d, h, n, r⟩) (buffer : SampleBuffer)
    (info : Option StreamMeta) (timeout : Duration) :
    L.Keeps (.recvStream n buffer info timeout) :=
  fun a => ⟨.streamed t n, .recv n buffer info timeout a t, posts_streamed ht⟩

theorem keeps_send (ht : L.stream t = .live ⟨d, h, n, r⟩) (buffer : SampleBuffer) (count : Nat)
    (info : Option StreamMeta) (timeout : Duration) :
    L.Keeps (.sendStream n buffer count info timeout) :=
  fun a => ⟨.streamed t n, .send n buffer count info timeout a t, posts_streamed ht⟩

theorem keeps_status (ht : L.stream t = .live ⟨d, h, n, r⟩) : L.Keeps (.streamStatus n) :=
  fun a => ⟨.streamed t n, .status n a t, posts_streamed ht⟩

theorem keeps_register (handler : Option LogHandler) : L.Keeps (.registerLog handler) :=
  fun () => ⟨.other, .register handler, posts_other⟩

/-! ## Whole operations -/

variable {device : Device} {s : Stream} {es : List (Event Host)}

theorem path_opened {info : String} {x : Device} (hd : L.device d = .unborn)
    (hes : (Device.opened info).run.Yields es (.ok x)) :
    Path Books L es (L.setDevice d (.live x.handle)) := by
  rcases Device.of_yields_opened hes with ⟨h, text, rfl, hx⟩ | ⟨e, -, hx⟩
  · obtain rfl := Except.ok.inj hx
    exact .cons ⟨_, .opened info h d, posts_opened hd⟩ (path_notes (notes_single _))
  · cases hx

theorem path_not_opened {info : String} {e : Error}
    (hes : (Device.opened info).run.Yields es (.error e)) : Path Books L es L := by
  rcases Device.of_yields_opened hes with ⟨h, text, -, hx⟩ | ⟨e, rfl, -⟩
  · cases hx
  · exact .single ⟨_, .notOpened info e, posts_other⟩

theorem path_close {x : Except Error Unit} (hd : L.device d = .live device.handle)
    (hes : device.close.run.Yields es x) : Path Books L es (L.setDevice d .gone) := by
  obtain ⟨text, rfl⟩ := Device.of_yields_close hes
  exact .cons (books_ambient _ _) (.single ⟨_, .closed device.handle x d, posts_closed hd⟩)

theorem path_dropDevice {u : Unit} (hd : L.device d = .live device.handle)
    (hes : device.drop.Yields es u) : Path Books L es (L.setDevice d .gone) := by
  obtain ⟨a, notes, rfl, hnotes⟩ := Device.of_yields_drop hes
  exact .cons ⟨_, .closed device.handle a d, posts_closed hd⟩ (path_notes hnotes)

theorem path_channel {ch : ChannelId} {c : ChannelCall} {x : Except Error c.Result}
    (hd : L.device d = .live device.handle) (hes : (device.channel ch c).run.Yields es x) :
    Path Books L es L := by
  rcases Device.of_yields_channel hes with rfl | rfl
  · exact .nil L
  · exact .single (keeps_channel hd ch c x)

theorem path_configure {settings : SmokeTest.Settings} {x : Except Error SmokeTest.Applied}
    (hd : L.device d = .live device.handle)
    (hes : (SmokeTest.configure device settings).run.Yields es x) : Path Books L es L := by
  have hcut := SmokeTest.performs_configure device settings _ _ hes
  exact path_keeps fun q hq => SmokeTest.forall_configureRequests (keeps_device hd)
    (keeps_channel hd) settings q (hcut.subset hq)

theorem path_setup {config : StreamConfig} {x : Stream} (hd : L.device d = .live device.handle)
    (ht : L.stream t = .unborn) (hes : (Stream.setup device config).run.Yields es (.ok x)) :
    Path Books L es (L.setStream t (.live ⟨d, x.device, x.handle, x.running⟩)) ∧
      x.device = device.handle := by
  rcases Stream.of_yields_setup hes with ⟨n, text, rfl, hx⟩ | ⟨e, -, hx⟩
  · obtain rfl := Except.ok.inj hx
    exact ⟨.cons ⟨_, .setUp device.handle config n d t, posts_setUp hd ht⟩
      (path_notes (notes_single _)), rfl⟩
  · cases hx

theorem path_not_setup {config : StreamConfig} {e : Error}
    (hd : L.device d = .live device.handle)
    (hes : (Stream.setup device config).run.Yields es (.error e)) : Path Books L es L := by
  rcases Stream.of_yields_setup hes with ⟨h, text, -, hx⟩ | ⟨e, rfl, -⟩
  · cases hx
  · exact .single ⟨_, .notSetUp device.handle config e d, posts_used hd⟩

theorem path_start {x : Stream} (ht : L.stream t = .live ⟨d, s.device, s.handle, s.running⟩)
    (hes : s.start.run.Yields es (.ok x)) :
    Path Books L es (L.setStream t (.live ⟨d, x.device, x.handle, x.running⟩)) ∧
      x.device = s.device ∧ x.handle = s.handle := by
  rcases Stream.of_yields_start hes with ⟨rfl, hx⟩ | ⟨e, -, hx⟩
  · obtain rfl := Except.ok.inj hx
    exact ⟨.single ⟨_, .started s.handle t, posts_started ht⟩, rfl, rfl⟩
  · cases hx

theorem path_not_start {e : Error} (ht : L.stream t = .live ⟨d, s.device, s.handle, s.running⟩)
    (hes : s.start.run.Yields es (.error e)) : Path Books L es L := by
  rcases Stream.of_yields_start hes with ⟨-, hx⟩ | ⟨e, rfl, -⟩
  · cases hx
  · exact .single ⟨_, .notStarted s.handle e t, posts_streamed ht⟩

theorem path_stop {x : Stream} (ht : L.stream t = .live ⟨d, s.device, s.handle, s.running⟩)
    (hes : s.stop.run.Yields es (.ok x)) :
    Path Books L es (L.setStream t (.live ⟨d, x.device, x.handle, x.running⟩)) ∧
      x.device = s.device ∧ x.handle = s.handle := by
  rcases Stream.of_yields_stop hes with ⟨hrun, rfl, hx⟩ | ⟨-, e, -, hx⟩ | ⟨-, -, hx⟩
  · obtain rfl := Except.ok.inj hx
    rw [hrun] at ht
    exact ⟨.single ⟨_, .stopped s.handle t, posts_stopped ht⟩, rfl, rfl⟩
  · cases hx
  · cases hx

theorem path_not_stop {e : Error} (ht : L.stream t = .live ⟨d, s.device, s.handle, s.running⟩)
    (hes : s.stop.run.Yields es (.error e)) : Path Books L es L := by
  rcases Stream.of_yields_stop hes with ⟨-, -, hx⟩ | ⟨hrun, e', rfl, -⟩ | ⟨-, rfl, -⟩
  · cases hx
  · rw [hrun] at ht
    exact .single ⟨_, .notStopped s.handle e' t, posts_notStopped ht⟩
  · exact .nil L

theorem path_receiveFor {budget : Nat} {buffer : SampleBuffer} {timing : Timing}
    {x : Except Error Report} (ht : L.stream t = .live ⟨d, h, s.handle, r⟩)
    (hes : (s.receiveFor budget buffer timing).run.Yields es x) : Path Books L es L := by
  obtain ⟨turns, hcut⟩ := Stream.cut_receiveFor hes
  exact path_keeps fun q hq => Stream.forall_loopRequests
    (fun buffer => keeps_recv ht buffer none timing.timeout) (keeps_status ht) turns q
    (hcut.subset hq)

/-- Whatever a stop comes to, the stream's guard is done with after the destruction. -/
theorem path_destroy {x : Except Error Unit} (hd : L.device d = .live s.device)
    (ht : L.stream t = .live ⟨d, s.device, s.handle, s.running⟩)
    (hes : s.destroy.run.Yields es x) : Path Books L es (L.setStream t .gone) := by
  rcases Stream.of_yields_destroy hes with ⟨hrun, a, notes, hnotes, rfl⟩ | ⟨-, rfl⟩
  · rw [hrun] at ht
    obtain ⟨M, hM, hlive, hdevice, hgone⟩ : ∃ M, Books ⟨.inl (.stopStream s.handle), a⟩ L M ∧
        (∃ r, M.stream t = .live ⟨d, s.device, s.handle, r⟩) ∧ M.device d = .live s.device ∧
          M.setStream t .gone = L.setStream t .gone := by
      cases (a : Except Error Unit) with
      | ok u =>
        exact ⟨_, ⟨_, .stopped s.handle t, posts_stopped ht⟩, ⟨false, by simp⟩, hd, by simp⟩
      | error e =>
        exact ⟨L, ⟨_, .notStopped s.handle e t, posts_notStopped ht⟩, ⟨true, ht⟩, hd, rfl⟩
    obtain ⟨r, hlive⟩ := hlive
    refine .cons hM (.append (path_notes hnotes) (hgone ▸ .single ?_))
    exact ⟨_, .destroyed s.device s.handle x d t, posts_destroyed hdevice hlive⟩
  · exact .single ⟨_, .destroyed s.device s.handle x d t, posts_destroyed hd ht⟩

theorem path_dropStream {u : Unit} (hd : L.device d = .live s.device)
    (ht : L.stream t = .live ⟨d, s.device, s.handle, s.running⟩) (hes : s.drop.Yields es u) :
    Path Books L es (L.setStream t .gone) := by
  obtain ⟨x, es', notes, rfl, hdestroy, hnotes⟩ := Stream.of_yields_drop hes
  exact (path_destroy hd ht hdestroy).append (path_notes hnotes)

end Ledger
end RadioBench
