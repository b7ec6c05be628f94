/-
Two simulators that show a program the same.

A program names one open device on each of two simulators, and a live stream on each.  What the
two hold besides may be anything: other devices and streams, settings of other channels, another
time.  As long as no failure is pending on either, the same call gives the same result on both
and leaves them alike.

The sample rate is one for all devices, so the two agree on it only once the program has set it.
-/
import RadioBench.Proofs.Simulator.Channels

namespace RadioBench
namespace Simulator

open Step

variable {b s t : State} {room : Nat} {rated : Bool} {d e : DeviceHandle} {n m : StreamHandle}
  {st : StreamState}

/-- A simulator without pending failures that lists and reads as another one does.  Its clock
can go on for some time. -/
structure Calm (b : State) (room : Nat) (s : State) : Prop where
  listed : s.listed = b.listed
  latency : s.readLatency = b.readLatency
  starved : s.starved = b.starved
  armed : s.armed = []
  inTime : s.clock.nanos + room ≤ Duration.limit.nanos

/-- A device is open on each of two simulators. -/
structure Facing (b : State) (room : Nat) (d e : DeviceHandle) (s t : State) : Prop where
  left : Calm b room s
  right : Calm b room t
  openLeft : d ∈ s.devices
  openRight : e ∈ t.devices

/-- The channels of the two devices are set alike, and the sample rate is the same if it is to be
read. -/
structure Matched (b : State) (room : Nat) (rated : Bool) (d e : DeviceHandle) (s t : State) : Prop
    extends Facing b room d e s t where
  channels : ∀ ch, s.channelState d ch = t.channelState e ch
  rate : rated = true → s.sampleRate = t.sampleRate ∧ s.oversample = t.oversample

/-- A stream is live on each of two simulators, and both are in the same state. -/
structure Playing (b : State) (room : Nat) (d e : DeviceHandle) (n m : StreamHandle)
    (st : StreamState) (s t : State) : Prop extends Facing b room d e s t where
  liveLeft : s.streams.find? n = some st
  liveRight : t.streams.find? m = some st

theorem Calm.not_armed (h : Calm b room s) (name : String) : name ∉ s.armed := by
  rw [h.armed]
  exact List.not_mem_nil

theorem Calm.anyTime (h : Calm b room s) : Calm b 0 s :=
  { h with inTime := Nat.le_trans (Nat.add_le_add_left (Nat.zero_le room) _) h.inTime }

theorem Facing.anyTime (h : Facing b room d e s t) : Facing b 0 d e s t :=
  { h with left := h.left.anyTime, right := h.right.anyTime }

/-! ## Outcomes on both -/

variable {α β : Type}

/-- The same error, or values that are related. -/
def Alike (E : State → State → Prop) (Q : α → β → State → State → Prop) :
    Except Error α → Except Error β → State → State → Prop
  | .ok a, .ok b, s, t => Q a b s t
  | .error e, .error e', s, t => e = e' ∧ E s t
  | _, _, _, _ => False

/-- The two steps end alike. -/
def Concur (E : State → State → Prop) (Q : α → β → State → State → Prop) (f : Step α) (g : Step β)
    (s t : State) : Prop := Alike E Q (f s).1 (g t).1 (f s).2 (g t).2

variable {E E' : State → State → Prop}

theorem Alike.mono {Q Q' : α → β → State → State → Prop} {r : Except Error α} {r' : Except Error β}
    (h : Alike E Q r r' s t) (hE : ∀ s t, E s t → E' s t) (hQ : ∀ a b s t, Q a b s t → Q' a b s t) :
    Alike E' Q' r r' s t := by
  match r, r' with
  | .ok a, .ok b => exact hQ a b s t h
  | .error e, .error e' => exact ⟨h.1, hE s t h.2⟩
  | .ok a, .error e => exact h.elim
  | .error e, .ok b => exact h.elim

theorem concur_attempt {Q : α → β → State → State → Prop} {name : String} {f : Step α}
    {g : Step β} (hs : Calm b room s) (ht : Calm b room t)
    (h : Concur E Q f g (s.recorded name) (t.recorded name)) :
    Concur E Q (attempt name f) (attempt name g) s t := by
  rw [Concur, attempt_of_not_armed (hs.not_armed name), attempt_of_not_armed (ht.not_armed name)]
  exact h

theorem concur_onDevice {Q : α → β → State → State → Prop} {name : String} {f : Step α}
    {g : Step β} (h : Facing b room d e s t)
    (hbody : Concur E Q f g (s.recorded name) (t.recorded name)) :
    Concur E Q (onDevice name d f) (onDevice name e g) s t := by
  refine concur_attempt h.left h.right ?_
  have hopen : d ∈ (s.recorded name).devices := h.openLeft
  have hopen' : e ∈ (t.recorded name).devices := h.openRight
  rw [Concur, if_pos hopen, if_pos hopen']
  exact hbody

theorem concur_onStream {Q : α → β → State → State → Prop} {name : String}
    {f : StreamState → Step α} {g : StreamState → Step β} (h : Playing b room d e n m st s t)
    (hbody : Concur E Q (f st) (g st) (s.recorded name) (t.recorded name)) :
    Concur E Q (onStream name n f) (onStream name m g) s t := by
  rw [Concur, onStream_of_live (h.left.not_armed name) h.liveLeft,
    onStream_of_live (h.right.not_armed name) h.liveRight]
  exact hbody

/-! ## Records and notes -/

theorem Facing.recorded (h : Facing b room d e s t) (name : String) :
    Facing b room d e (s.recorded name) (t.recorded name) :=
  ⟨{ h.left with }, { h.right with }, h.openLeft, h.openRight⟩

theorem Facing.note (h : Facing b room d e s t) (x y : Entry) :
    Facing b room d e (s.note x) (t.note y) :=
  ⟨{ h.left with }, { h.right with }, h.openLeft, h.openRight⟩

theorem Matched.recorded (h : Matched b room rated d e s t) (name : String) :
    Matched b room rated d e (s.recorded name) (t.recorded name) :=
  { h.toFacing.recorded name with channels := h.channels, rate := h.rate }

theorem Matched.note (h : Matched b room rated d e s t) (x y : Entry) :
    Matched b room rated d e (s.note x) (t.note y) :=
  { h.toFacing.note x y with channels := h.channels, rate := h.rate }

theorem Playing.note (h : Playing b room d e n m st s t) (x y : Entry) :
    Playing b room d e n m st (s.note x) (t.note y) :=
  { h.toFacing.note x y with liveLeft := h.liveLeft, liveRight := h.liveRight }

theorem Playing.recorded (h : Playing b room d e n m st s t) (name : String) :
    Playing b room d e n m st (s.recorded name) (t.recorded name) :=
  { h.toFacing.recorded name with liveLeft := h.liveLeft, liveRight := h.liveRight }

/-! ## Settings -/

theorem Matched.set (h : Matched b room rated d e s t) (ch : ChannelId) (c : ChannelState) :
    Matched b room rated d e { s with channels := s.channels.set (d, ch) c }
      { t with channels := t.channels.set (e, ch) c } where
  left := { h.left with }
  right := { h.right with }
  openLeft := h.openLeft
  openRight := h.openRight
  channels ch' := by simp only [State.channelState_set, h.channels, true_and]
  rate := h.rate

/-- The outcome of a call on one of the two devices, given as the same value. -/
abbrev Agrees (E : State → State → Prop) (Q : State → State → Prop) (f g : Step α)
    (s t : State) : Prop := Concur E (fun a b s t => a = b ∧ Q s t) f g s t

theorem agrees_onChannel (h : Matched b room rated d e s t) (name : String) (ch : ChannelId)
    (body : ChannelState → Except Error α × ChannelState) :
    Agrees (Facing b 0 d e) (Matched b room rated d e) (onChannel name d ch body)
      (onChannel name e ch body) s t := by
  refine concur_onDevice h.toFacing ?_
  have hsame : (s.recorded name).channelState d ch = (t.recorded name).channelState e ch :=
    h.channels ch
  have hset := (h.recorded name).set ch (body ((t.recorded name).channelState e ch)).2
  rw [Concur, hsame]
  generalize body ((t.recorded name).channelState e ch) = out at hset ⊢
  obtain ⟨r, c⟩ := out
  cases r with
  | ok a => exact ⟨rfl, hset⟩
  | error err => exact ⟨rfl, hset.anyTime⟩

/-- The calls that read the sample rate. -/
def readsRate : ChannelCall → Bool
  | .sampleRate => true
  | _ => false

theorem agrees_channelCall (h : Matched b room rated d e s t) (ch : ChannelId) {c : ChannelCall}
    (hrated : (readsRate c && !rated) = false) :
    Agrees (Facing b 0 d e) (Matched b room rated d e) (channelCall d ch c)
      (channelCall e ch c) s t := by
  cases c with
  | sampleRate =>
    refine concur_onDevice h.toFacing ⟨?_, h.recorded _⟩
    obtain ⟨hrate, hoversample⟩ := h.rate (by simpa [readsRate] using hrated)
    show SampleRate.mk s.sampleRate _ = SampleRate.mk t.sampleRate _
    simp only [State.recorded, hrate, hoversample]
  | antennaList => exact concur_onDevice h.toFacing ⟨rfl, h.recorded _⟩
  | setAntenna index =>
    dsimp only [channelCall]
    split
    · exact concur_attempt h.left h.right ⟨rfl, (h.toFacing.recorded _).anyTime⟩
    · exact agrees_onChannel h _ ch _
  | _ => exact agrees_onChannel h _ ch _

/-- The calls that read the trim of a device, which the two are not known to have in common. -/
def readsTrim : DeviceCall → Bool
  | .vctcxoRead => true
  | _ => false

/-- What a call on a device makes of the knowledge that the rate is the same. -/
def ratedBy (rated : Bool) : DeviceCall → Bool
  | .setSampleRate .. => true
  | .setSampleRateDir .. => true
  | _ => rated

theorem agrees_deviceCall (h : Matched b room rated d e s t) {c : DeviceCall}
    (hc : readsTrim c = false) :
    Agrees E (Matched b room (ratedBy rated c) d e) (deviceCall d c) (deviceCall e c) s t := by
  cases c with
  | vctcxoRead => cases hc
  | reset =>
    refine concur_onDevice h.toFacing ⟨rfl, ?_⟩
    refine ⟨⟨{ h.left with }, { h.right with }, h.openLeft, h.openRight⟩, fun ch => ?_, h.rate⟩
    show (s.forgetChannels d).channelState d ch = (t.forgetChannels e).channelState e ch
    rw [State.channelState_forget, State.channelState_forget, if_pos rfl, if_pos rfl]
  | setSampleRate rate oversample =>
    refine concur_onDevice h.toFacing ⟨rfl, ?_⟩
    exact ⟨⟨{ h.left with }, { h.right with }, h.openLeft, h.openRight⟩, h.channels,
      fun _ => ⟨rfl, rfl⟩⟩
  | setSampleRateDir direction rate oversample =>
    refine concur_onDevice h.toFacing ⟨rfl, ?_⟩
    exact ⟨⟨{ h.left with }, { h.right with }, h.openLeft, h.openRight⟩, h.channels,
      fun _ => ⟨rfl, rfl⟩⟩
  | _ =>
    refine concur_onDevice h.toFacing ⟨rfl, ?_⟩
    exact ⟨⟨{ h.left with }, { h.right with }, h.openLeft, h.openRight⟩, h.channels, h.rate⟩

/-! ## Opening and closing -/

/-- Nothing is set on the device that is opened next. -/
def Blank (s : State) : Prop := ∀ ch, s.channelState ⟨s.nextHandle⟩ ch = .fresh

/-- Two simulators on which no device was opened for the program so far. -/
structure Waiting (b : State) (room : Nat) (s t : State) : Prop where
  left : Calm b room s
  right : Calm b room t
  blankLeft : Blank s
  blankRight : Blank t

theorem Waiting.recorded (h : Waiting b room s t) (name : String) :
    Waiting b room (s.recorded name) (t.recorded name) :=
  ⟨{ h.left with }, { h.right with }, h.blankLeft, h.blankRight⟩

theorem openDevice_of_calm {info : String} (h : Calm b room s) (hinfo : info ∈ b.listed) :
    openDevice info s = (.ok ⟨s.nextHandle⟩, { s.recorded "open" with
      nextHandle := s.nextHandle + 1
      devices := s.devices ++ [⟨s.nextHandle⟩] }) := by
  have hlisted : info ∈ (s.recorded "open").listed := by
    show info ∈ s.listed
    rw [h.listed]
    exact hinfo
  rw [openDevice, attempt_of_not_armed (h.not_armed _), if_pos hlisted]
  rfl

/-- A device that is opened is found with nothing set, whatever was there before. -/
theorem concur_openDevice {info : String} (h : Waiting b room s t) (hinfo : info ∈ b.listed) :
    Concur E (fun d e => Matched b room false d e) (openDevice info) (openDevice info) s t := by
  rw [Concur, openDevice_of_calm h.left hinfo, openDevice_of_calm h.right hinfo]
  exact {
    left := { h.left with }
    right := { h.right with }
    openLeft := List.mem_append_right _ (List.mem_singleton_self _)
    openRight := List.mem_append_right _ (List.mem_singleton_self _)
    channels := fun ch => (h.blankLeft ch).trans (h.blankRight ch).symm
    rate := nofun }

/-- Two simulators of which the program holds nothing any more. -/
def Apart (b : State) (s t : State) : Prop := Calm b 0 s ∧ Calm b 0 t

theorem Waiting.apart (h : Waiting b room s t) : Apart b s t := ⟨h.left.anyTime, h.right.anyTime⟩

theorem agrees_closeDevice (h : Facing b room d e s t) :
    Agrees E (Apart b) (closeDevice d) (closeDevice e) s t :=
  concur_onDevice h ⟨rfl, { h.left.anyTime with }, { h.right.anyTime with }⟩

/-! ## Streams -/

theorem concur_setupStream (h : Matched b room true d e s t) (config : StreamConfig) :
    Concur E (fun n m s t => Playing b room d e n m ⟨config, false, 0⟩ s t ∧
      s.sampleRate = t.sampleRate) (setupStream d config) (setupStream e config) s t := by
  refine concur_onDevice h.toFacing ⟨?_, (h.rate rfl).1⟩
  exact ⟨⟨{ h.left with }, { h.right with }, h.openLeft, h.openRight⟩,
    Table.find?_set_self _ _ _, Table.find?_set_self _ _ _⟩

theorem Playing.put (h : Playing b room d e n m st s t) (st' : StreamState) :
    Playing b room d e n m st' (s.putStream n st') (t.putStream m st') :=
  ⟨⟨{ h.left with }, { h.right with }, h.openLeft, h.openRight⟩,
    Table.find?_set_self _ _ _, Table.find?_set_self _ _ _⟩

theorem agrees_startStream (h : Playing b room d e n m st s t)
    (hrate : s.sampleRate = t.sampleRate) :
    Agrees E (fun s t => Playing b room d e n m { st with running := true } s t ∧
      s.sampleRate = t.sampleRate) (startStream n) (startStream m) s t :=
  concur_onStream h ⟨rfl, (h.recorded _).put _, hrate⟩

theorem agrees_stopStream (h : Playing b room d e n m st s t) :
    Agrees E (Playing b room d e n m { st with running := false }) (stopStream n) (stopStream m)
      s t :=
  concur_onStream h ⟨rfl, (h.recorded _).put _⟩

theorem agrees_destroyStream (h : Playing b room d e n m st s t) (hrest : st.running = false) :
    Agrees E (Facing b room d e) (destroyStream d n) (destroyStream e m) s t := by
  refine concur_onDevice h.toFacing ?_
  have hlive : (s.recorded "destroy_stream").streams.find? n = some st := h.liveLeft
  have hlive' : (t.recorded "destroy_stream").streams.find? m = some st := h.liveRight
  simp only [Concur, hlive, hlive', hrest, Bool.false_eq_true, if_false]
  exact ⟨trivial, { h.left with }, { h.right with }, h.openLeft, h.openRight⟩

end Simulator
end RadioBench
