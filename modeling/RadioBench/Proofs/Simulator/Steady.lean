/-
The requests that a simulator carries out without touching what is open.

Most requests leave the open devices, the live streams and whether these run as they
were.  What they may change are settings, counters and the journal, and they may use up
an armed name, though not the one of a stop.
-/
import RadioBench.Proofs.Table
import RadioBench.Simulator.Perform

namespace RadioBench
namespace Simulator

/-- The stops that were asked for. -/
def State.stops (s : State) : Nat := s.count "stop_stream"

/-- Whether a live stream runs. -/
def State.running? (s : State) (n : StreamHandle) : Option Bool :=
  (s.streams.find? n).map (·.running)

/-- Nothing was opened or closed, set up or destroyed, started or stopped. -/
structure SameHandles (s s' : State) : Prop where
  devices : s'.devices = s.devices
  streams : s'.liveStreams = s.liveStreams
  running : ∀ n, s'.running? n = s.running? n
  nextHandle : s'.nextHandle = s.nextHandle
  armed : ∀ name ∈ s'.armed, name ∈ s.armed

/-- The handles are the same, and nobody tried to stop a stream. -/
structure Steady (s s' : State) : Prop extends SameHandles s s' where
  stops : s'.stops = s.stops
  stop : "stop_stream" ∈ s'.armed ↔ "stop_stream" ∈ s.armed

theorem SameHandles.refl (s : State) : SameHandles s s where
  devices := rfl
  streams := rfl
  running _ := rfl
  nextHandle := rfl
  armed _ h := h

theorem SameHandles.trans {s t u : State} (h : SameHandles s t) (h' : SameHandles t u) :
    SameHandles s u where
  devices := h'.devices.trans h.devices
  streams := h'.streams.trans h.streams
  running n := (h'.running n).trans (h.running n)
  nextHandle := h'.nextHandle.trans h.nextHandle
  armed name hname := h.armed name (h'.armed name hname)

namespace Steady

theorem refl (s : State) : Steady s s where
  toSameHandles := .refl s
  stops := rfl
  stop := Iff.rfl

theorem trans {s t u : State} (h : Steady s t) (h' : Steady t u) : Steady s u where
  toSameHandles := h.toSameHandles.trans h'.toSameHandles
  stops := h'.stops.trans h.stops
  stop := h'.stop.trans h.stop

end Steady

/-! ## Calls that are recorded -/

namespace State

/-- A call was recorded. -/
def recorded (s : State) (name : String) : State := { s with calls := s.calls.push name }

/-- A call was recorded and failed because its name was armed. -/
def rejected (s : State) (name : String) : State :=
  let t := { s.recorded name with armed := s.armed.filter (· ≠ name) }
  match s.handler with
  | none => t
  | some h => t.note (h.deliver .error (name ++ " rejected by device"))

theorem rejected_eq (s : State) (name : String) :
    ∃ journal, s.rejected name =
      { s.recorded name with armed := s.armed.filter (· ≠ name), journal := journal } := by
  unfold rejected
  cases s.handler with
  | none => exact ⟨s.journal, rfl⟩
  | some h => exact ⟨_, rfl⟩

theorem sameHandles_recorded (s : State) (name : String) : SameHandles s (s.recorded name) :=
  { SameHandles.refl s with }

theorem sameHandles_rejected (s : State) (name : String) : SameHandles s (s.rejected name) := by
  obtain ⟨journal, heq⟩ := s.rejected_eq name
  rw [heq]
  exact { SameHandles.refl s with armed := fun x hx => (List.mem_filter.mp hx).1 }

theorem armed_rejected (s : State) (name : String) :
    (s.rejected name).armed = s.armed.filter (· ≠ name) := by
  obtain ⟨journal, heq⟩ := s.rejected_eq name
  rw [heq]

theorem count_recorded (s : State) (name name' : String) :
    (s.recorded name).count name' = s.count name' + if name = name' then 1 else 0 := by
  simp [count, recorded, Array.count_push]

theorem count_rejected (s : State) (name name' : String) :
    (s.rejected name).count name' = s.count name' + if name = name' then 1 else 0 := by
  rw [← count_recorded]
  obtain ⟨journal, heq⟩ := s.rejected_eq name
  rw [heq]
  rfl

theorem steady_recorded {s : State} {name : String} (h : name ≠ "stop_stream") :
    Steady s (s.recorded name) where
  toSameHandles := s.sameHandles_recorded name
  stops := by simp [stops, count_recorded, h]
  stop := Iff.rfl

theorem steady_rejected {s : State} {name : String} (h : name ≠ "stop_stream") :
    Steady s (s.rejected name) where
  toSameHandles := s.sameHandles_rejected name
  stops := by simp [stops, count_rejected, h]
  stop := by simp [armed_rejected, Ne.symm h]

end State

theorem attempt_of_armed {α : Type} {name : String} {body : Step α} {s : State}
    (h : name ∈ s.armed) :
    Step.attempt name body s =
      (.error (.failed name (name ++ " rejected by device")), s.rejected name) := by
  unfold Step.attempt State.rejected State.recorded
  show (if name ∈ s.armed then _ else _) = _
  refine (if_pos h).trans ?_
  cases s.handler <;> rfl

theorem attempt_of_not_armed {α : Type} {name : String} {body : Step α} {s : State}
    (h : name ∉ s.armed) : Step.attempt name body s = body (s.recorded name) := by
  simp only [Step.attempt, State.recorded, if_neg h]

theorem onStream_of_live {α : Type} {name : String} {n : StreamHandle}
    {body : StreamState → Step α} {s : State} {st : StreamState} (hname : name ∉ s.armed)
    (hlive : s.streams.find? n = some st) :
    Step.onStream name n body s = body st (s.recorded name) := by
  have hfind : (s.recorded name).streams.find? n = some st := hlive
  simp only [Step.onStream, attempt_of_not_armed hname, hfind]

/-! ## Steps that keep a property -/

namespace Step

variable {α : Type} {P : State → Prop} {name : String}

/-- The property is there after the step if it was before, whether the step succeeds
or fails. -/
def Keeps (P : State → Prop) (f : Step α) : Prop := ∀ s, P s → P (f s).2

/-- The property does not look at what is recorded of the calls of a name. -/
structure Overlooks (P : State → Prop) (name : String) : Prop where
  recorded : ∀ s, P s → P (s.recorded name)
  rejected : ∀ s, P s → P (s.rejected name)

theorem keeps_fail (e : Error) : (fail e : Step α).Keeps P := fun _ h => h

theorem keeps_attempt {body : Step α} (hP : Overlooks P name) (hbody : body.Keeps P) :
    (attempt name body).Keeps P := by
  intro s hs
  by_cases h : name ∈ s.armed
  · rw [attempt_of_armed h]
    exact hP.rejected s hs
  · rw [attempt_of_not_armed h]
    exact hbody _ (hP.recorded s hs)

theorem keeps_onDevice {h : DeviceHandle} {body : Step α} (hP : Overlooks P name)
    (hbody : ∀ s, h ∈ s.devices → P s → P (body s).2) : (onDevice name h body).Keeps P := by
  refine keeps_attempt hP fun s hs => ?_
  by_cases hopen : h ∈ s.devices
  · rw [if_pos hopen]
    exact hbody s hopen hs
  · rw [if_neg hopen]
    exact hs

theorem keeps_onChannel {h : DeviceHandle} {ch : ChannelId}
    {body : ChannelState → Except Error α × ChannelState} (hP : Overlooks P name)
    (hset : ∀ s c, h ∈ s.devices → P s → P { s with channels := s.channels.set (h, ch) c }) :
    (onChannel name h ch body).Keeps P :=
  keeps_onDevice hP fun s hopen hs => hset s _ hopen hs

theorem keeps_onStream {n : StreamHandle} {body : StreamState → Step α}
    (hP : Overlooks P name)
    (hbody : ∀ st s, s.streams.find? n = some st → P s → P (body st s).2) :
    (onStream name n body).Keeps P := by
  refine keeps_attempt hP fun s hs => ?_
  cases hst : s.streams.find? n with
  | none => exact hs
  | some st => exact hbody st s hst hs

end Step

/-! ## Steady requests -/

open Step

variable {s₀ : State}

theorem overlooks_steady {name : String} (h : name ≠ "stop_stream") :
    Overlooks (Steady s₀) name where
  recorded _ hs := hs.trans (State.steady_recorded h)
  rejected _ hs := hs.trans (State.steady_rejected h)

/-- Changes outside the fields of `Steady`. -/
theorem Steady.of_eq {s t : State} (h : Steady s₀ s) (hdevices : t.devices = s.devices)
    (hstreams : t.streams = s.streams) (hcalls : t.calls = s.calls) (harmed : t.armed = s.armed)
    (hnext : t.nextHandle = s.nextHandle) : Steady s₀ t where
  devices := hdevices.trans h.devices
  streams := by rw [← h.streams, State.liveStreams, State.liveStreams, hstreams]
  running n := by rw [← h.running, State.running?, State.running?, hstreams]
  nextHandle := hnext.trans h.nextHandle
  armed x hx := h.armed x (harmed ▸ hx)
  stops := by rw [← h.stops, State.stops, State.stops, State.count, State.count, hcalls]
  stop := by rw [harmed, h.stop]

/-- The property looks neither at what open devices and their channels are set to nor at the
record of calls, save that of the stops. -/
structure Step.Ignores (P : State → Prop) : Prop where
  overlooks : ∀ name, name ≠ "stop_stream" → Overlooks P name
  channel : ∀ (s : State) h ch c, h ∈ s.devices → P s →
    P { s with channels := s.channels.set (h, ch) c }
  forget : ∀ (s : State) h, P s → P (s.forgetChannels h)
  settings : ∀ (s : State) sampleRate oversample saved trims, P s →
    P { s with sampleRate := sampleRate, oversample := oversample, saved := saved, trims := trims }

theorem ignores_steady : Ignores (Steady s₀) where
  overlooks _ := overlooks_steady
  channel _ _ _ _ _ hs := hs.of_eq rfl rfl rfl rfl rfl
  forget _ _ hs := hs.of_eq rfl rfl rfl rfl rfl
  settings _ _ _ _ _ hs := hs.of_eq rfl rfl rfl rfl rfl

variable {P : State → Prop}

theorem keeps_channel {α : Type} {name : String} {h : DeviceHandle} {ch : ChannelId}
    {body : ChannelState → Except Error α × ChannelState} (hP : Ignores P)
    (hname : name ≠ "stop_stream") : (onChannel name h ch body).Keeps P :=
  keeps_onChannel (hP.overlooks name hname) fun _ _ hopen hs => hP.channel _ _ _ _ hopen hs

theorem keeps_deviceCall (hP : Ignores P) (h : DeviceHandle) (c : DeviceCall) :
    (deviceCall h c).Keeps P := by
  cases c with
  | init => exact keeps_onDevice (hP.overlooks _ (by decide)) fun _ _ hs => hs
  | reset => exact keeps_onDevice (hP.overlooks _ (by decide)) fun _ _ hs => hP.forget _ _ hs
  | numChannels => exact keeps_onDevice (hP.overlooks _ (by decide)) fun _ _ hs => hs
  | loadConfig => exact keeps_onDevice (hP.overlooks _ (by decide)) fun _ _ hs => hs
  | lpfBwRange => exact keeps_onDevice (hP.overlooks _ (by decide)) fun _ _ hs => hs
  | vctcxoRead => exact keeps_onDevice (hP.overlooks _ (by decide)) fun _ _ hs => hs
  | _ =>
    exact keeps_onDevice (hP.overlooks _ (by decide)) fun _ _ hs => hP.settings _ _ _ _ _ hs

theorem keeps_channelCall (hP : Ignores P) (h : DeviceHandle) (ch : ChannelId)
    (c : ChannelCall) : (channelCall h ch c).Keeps P := by
  cases c with
  | sampleRate => exact keeps_onDevice (hP.overlooks _ (by decide)) fun _ _ hs => hs
  | antennaList => exact keeps_onDevice (hP.overlooks _ (by decide)) fun _ _ hs => hs
  | setAntenna index =>
    unfold channelCall
    dsimp only
    split
    · exact keeps_attempt (hP.overlooks _ (by decide)) (keeps_fail _)
    · exact keeps_channel hP (by decide)
  | _ => exact keeps_channel hP (by decide)

theorem keeps_sendStream (hP : Overlooks P "send_stream") (n : StreamHandle)
    (buffer : SampleBuffer) (count : Nat) : (sendStream n buffer count).Keeps P := by
  refine keeps_onStream hP fun st s _ hs => ?_
  split
  · exact hs
  · split <;> exact hs

theorem keeps_recvStream (hP : Overlooks P "recv_stream") {n : StreamHandle}
    (hclock : ∀ (s : State) later, P s → P { s with clock := later })
    (hcounted : ∀ (s : State) st received later, s.streams.find? n = some st → P s →
      P ({ s with clock := later }.putStream n { st with received := received }))
    (buffer : SampleBuffer) (timeout : Duration) : (recvStream n buffer timeout).Keeps P := by
  refine keeps_onStream hP fun st s hst hs => ?_
  dsimp only [State.advance]
  split
  · exact hs
  split
  · exact hs
  split
  · -- a wait until the timeout
    cases s.clock.add? timeout with
    | none => exact hs
    | some later => exact hclock s later hs
  · cases s.clock.add? s.readLatency with
    | none => exact hs
    | some later => exact hcounted s st _ later hst hs

/-- A read that brings samples counts them on its stream. -/
theorem Steady.counted {s : State} {n : StreamHandle} {st : StreamState} (h : Steady s₀ s)
    (hst : s.streams.find? n = some st) (received : UInt64) (clock : Duration) :
    Steady s₀ ({ s with clock := clock }.putStream n { st with received := received }) where
  devices := h.devices
  streams := by
    rw [← h.streams]
    exact Table.keys_set_of_mem (Table.mem_keys_iff.mpr ⟨st, hst⟩) _
  running m := by
    rw [← h.running m]
    by_cases hm : n = m
    · subst hm
      simp [State.running?, State.putStream, Table.find?_set_self, hst]
    · simp [State.running?, State.putStream, Table.find?_set_of_ne _ hm]
  nextHandle := h.nextHandle
  armed := h.armed
  stops := h.stops
  stop := h.stop

theorem perform_recvStream_snd (n : StreamHandle) (buffer : SampleBuffer)
    (info : Option StreamMeta) (timeout : Duration) (s : State) :
    (perform (.recvStream n buffer info timeout) s).2 = (recvStream n buffer timeout s).2 := by
  dsimp only [perform]
  generalize recvStream n buffer timeout s = x
  obtain ⟨(e | ⟨count, stamp⟩), t⟩ := x <;> rfl

/-- The requests that leave alone what is open. -/
def leavesOpen : Request → Bool
  | .openDevice _ => false
  | .closeDevice _ => false
  | .setupStream .. => false
  | .destroyStream .. => false
  | .startStream _ => false
  | .stopStream _ => false
  | _ => true

theorem steady_perform {r : Request} {s t : State} {a : r.Answer} (h : leavesOpen r = true)
    (hp : perform r s = (a, t)) : Steady s t := by
  have hs := Steady.refl s
  suffices Steady s (perform r s).2 by rwa [hp] at this
  cases r with
  | libraryVersion => exact hs
  | registerLog handler =>
    have hrec := @State.steady_recorded s "register_log_handler" (by decide)
    exact hrec.of_eq rfl rfl rfl rfl rfl
  | deviceList => exact keeps_attempt (overlooks_steady (by decide)) (fun _ hs => hs) s hs
  | device d c => exact keeps_deviceCall ignores_steady d c s hs
  | channel d ch c => exact keeps_channelCall ignores_steady d ch c s hs
  | recvStream n buffer info timeout =>
    rw [perform_recvStream_snd]
    exact keeps_recvStream (overlooks_steady (by decide))
      (fun _ _ hs => hs.of_eq rfl rfl rfl rfl rfl)
      (fun _ _ received later hst hs => hs.counted hst received later) buffer timeout s hs
  | sendStream n buffer count =>
    exact keeps_sendStream (overlooks_steady (by decide)) n buffer count s hs
  | streamStatus n =>
    exact keeps_onStream (overlooks_steady (by decide)) (fun _ _ _ hs => hs) s hs
  | _ => cases h

/-! ## What every request keeps -/

/-- The property is kept by whatever a request may do to a state. -/
structure Lasting (P : State → Prop) : Prop where
  overlooks : ∀ name, Overlooks P name
  channel : ∀ (s : State) h ch c, h ∈ s.devices → P s →
    P { s with channels := s.channels.set (h, ch) c }
  forget : ∀ (s : State) h, P s → P (s.forgetChannels h)
  settings : ∀ (s : State) sampleRate oversample saved trims, P s →
    P { s with sampleRate := sampleRate, oversample := oversample, saved := saved, trims := trims }
  handler : ∀ (s : State) handler, P s → P { s with handler := handler }
  streams : ∀ (s : State) streams nextHandle clock, P s →
    P { s with streams := streams, nextHandle := nextHandle, clock := clock }
  opened : ∀ (s : State) h nextHandle, P s →
    P { s with devices := s.devices ++ [h], nextHandle := nextHandle }
  closed : ∀ (s : State) h, P s →
    P ({ s with devices := s.devices.filter (· ≠ h) }.forgetChannels h)

namespace Lasting

theorem ignores (hP : Lasting P) : Ignores P where
  overlooks name _ := hP.overlooks name
  channel := hP.channel
  forget := hP.forget
  settings := hP.settings

theorem openDevice (hP : Lasting P) (info : String) : (openDevice info).Keeps P := by
  refine keeps_attempt (hP.overlooks _) fun s hs => ?_
  by_cases hinfo : info ∈ s.listed
  · rw [if_pos hinfo]
    exact hP.opened s _ _ hs
  · rw [if_neg hinfo]
    exact hs

theorem destroyStream (hP : Lasting P) (d : DeviceHandle) (n : StreamHandle) :
    (destroyStream d n).Keeps P := by
  refine keeps_onDevice (hP.overlooks _) fun s _ hs => ?_
  cases s.streams.find? n with
  | none => exact hs
  | some st =>
    dsimp only
    split
    · exact hs
    · exact hP.streams s _ _ _ hs

theorem perform (hP : Lasting P) (r : Request) {s : State} (h : P s) :
    P (Simulator.perform r s).2 := by
  have hstreams (s : State) (n : StreamHandle) (st : StreamState) (hs : P s) :
      P (s.putStream n st) := hP.streams s _ _ _ hs
  cases r with
  | libraryVersion => exact h
  | registerLog handler => exact hP.handler _ handler ((hP.overlooks _).recorded s h)
  | deviceList => exact keeps_attempt (hP.overlooks _) (fun _ hs => hs) s h
  | openDevice info => exact hP.openDevice info s h
  | closeDevice d => exact keeps_onDevice (hP.overlooks _) (fun s _ hs => hP.closed s d hs) s h
  | device d c => exact keeps_deviceCall hP.ignores d c s h
  | channel d ch c => exact keeps_channelCall hP.ignores d ch c s h
  | setupStream d config =>
    exact keeps_onDevice (hP.overlooks _) (fun s _ hs => hP.streams s _ _ _ hs) s h
  | destroyStream d n => exact hP.destroyStream d n s h
  | startStream n => exact keeps_onStream (hP.overlooks _) (fun _ s _ hs => hstreams s _ _ hs) s h
  | stopStream n => exact keeps_onStream (hP.overlooks _) (fun _ s _ hs => hstreams s _ _ hs) s h
  | recvStream n buffer info timeout =>
    rw [perform_recvStream_snd]
    exact keeps_recvStream (hP.overlooks _) (fun s later hs => hP.streams s _ _ later hs)
      (fun s _ _ later _ hs => hP.streams s _ _ later hs) buffer timeout s h
  | sendStream n buffer count => exact keeps_sendStream (hP.overlooks _) n buffer count s h
  | streamStatus n => exact keeps_onStream (hP.overlooks _) (fun _ _ _ hs => hs) s h

end Lasting

end Simulator
end RadioBench
