/-
A simulator with pending failures beside the same one without.

The two go alike until a failure strikes.  Until then they differ only in what is pending, in
the journal and, when a configuration could not be saved, in the list of saved files; nothing
that a simulator answers depends on these.  The call that is struck has been recorded by then,
as it is on the other side.
-/
import RadioBench.Proofs.Simulator.Handles

namespace RadioBench
namespace Simulator

open Step

variable {F : List String} {s t : State}

/-- The state on the left has pending failures, with names from `F`.  The one on the right has
none and is otherwise the same, but for the journal and the saved files. -/
structure Shadows (F : List String) (s t : State) : Prop where
  same : ∃ armed journal saved, s = { t with armed := armed, journal := journal, saved := saved }
  unarmed : t.armed = []
  pending : ∀ name ∈ s.armed, name ∈ F

namespace Shadows

theorem clock (h : Shadows F s t) : s.clock = t.clock := by
  obtain ⟨armed, journal, saved, rfl⟩ := h.same
  rfl

theorem calls (h : Shadows F s t) : s.calls = t.calls := by
  obtain ⟨armed, journal, saved, rfl⟩ := h.same
  rfl

theorem journal (h : Shadows F s t) (j k : Journal) :
    Shadows F { s with journal := j } { t with journal := k } := by
  obtain ⟨⟨armed, journal, saved, rfl⟩, hunarmed, hpending⟩ := h
  exact ⟨⟨armed, j, saved, rfl⟩, hunarmed, hpending⟩

theorem recorded (h : Shadows F s t) (name : String) :
    Shadows F (s.recorded name) (t.recorded name) := by
  obtain ⟨⟨armed, journal, saved, rfl⟩, hunarmed, hpending⟩ := h
  exact ⟨⟨armed, journal, saved, rfl⟩, hunarmed, hpending⟩

/-- A rejected call leaves the state as it was, apart from what the two may differ in. -/
theorem rejected (h : Shadows F s t) (name : String) :
    Shadows F (s.rejected name) (t.recorded name) := by
  obtain ⟨⟨armed, journal, saved, rfl⟩, hunarmed, hpending⟩ := h
  obtain ⟨journal', heq⟩ := State.rejected_eq
    { t with armed := armed, journal := journal, saved := saved } name
  rw [heq]
  exact ⟨⟨_, journal', saved, rfl⟩, hunarmed,
    fun x hx => hpending x (List.mem_filter.mp hx).1⟩

/-- Only files were saved on the right. -/
theorem saved (h : Shadows F s t) (files : Array PathName) :
    Shadows F s { t with saved := files } := by
  obtain ⟨⟨armed, journal, saved, rfl⟩, hunarmed, hpending⟩ := h
  exact ⟨⟨armed, journal, saved, rfl⟩, hunarmed, hpending⟩

theorem registerLog (h : Shadows F s t) (handler : Option LogHandler) :
    Shadows F (perform (.registerLog handler) s).2 (perform (.registerLog handler) t).2 := by
  obtain ⟨⟨armed, journal, saved, rfl⟩, hunarmed, hpending⟩ := h
  exact ⟨⟨armed, journal, saved, rfl⟩, hunarmed, hpending⟩

end Shadows

theorem shadows_arm (F : List String) (hunarmed : t.armed = []) :
    Shadows F (F.foldl State.arm t) t := by
  have harm (names : List String) (s : State) (h : Shadows F s t) (hnames : names ⊆ F) :
      Shadows F (names.foldl State.arm s) t := by
    induction names generalizing s with
    | nil => exact h
    | cons name names ih =>
      obtain ⟨hname, hrest⟩ := List.cons_subset.mp hnames
      refine ih (s.arm name) ?_ hrest
      unfold State.arm
      split
      · exact h
      · obtain ⟨⟨armed, journal, saved, rfl⟩, -, hpending⟩ := h
        exact ⟨⟨name :: armed, journal, saved, rfl⟩, hunarmed,
          List.forall_mem_cons.mpr ⟨hname, hpending⟩⟩
  exact harm F t ⟨⟨[], t.journal, t.saved, by rw [← hunarmed]⟩, hunarmed,
    by simp [hunarmed]⟩ (List.Subset.refl F)

/-! ## Steps -/

variable {α : Type} {name : String} {f : Step α}

/-- The step does not look at what the two states may differ in, and records nothing itself. -/
def Blind (F : List String) (f : Step α) : Prop :=
  ∀ s t, Shadows F s t → (f s).1 = (f t).1 ∧ Shadows F (f s).2 (f t).2 ∧ (f t).2.calls = t.calls

/-- The call is recorded under its name.  It is rejected on the left, or else it ends alike on
both sides. -/
def Follows (F : List String) (name : String) (f : Step α) : Prop :=
  ∀ s t, Shadows F s t → (f t).2.calls = t.calls.push name ∧
    ((f s).1 = (f t).1 ∧ Shadows F (f s).2 (f t).2 ∨
      name ∈ s.armed ∧
        f s = (.error (.failed name (name ++ " rejected by device")), s.rejected name))

/-- A step that computes the same whatever is pending, noted or saved. -/
theorem blind_of (h : ∀ (t : State) armed journal saved, ∃ journal' saved',
    f { t with armed := armed, journal := journal, saved := saved } = ((f t).1,
      { (f t).2 with armed := armed, journal := journal', saved := saved' }) ∧
      (f t).2.armed = t.armed ∧ (f t).2.calls = t.calls) : Blind F f := by
  rintro s t ⟨⟨armed, journal, saved, rfl⟩, hunarmed, hpending⟩
  obtain ⟨journal', saved', heq, harmed, hcalls⟩ := h t armed journal saved
  rw [heq]
  exact ⟨rfl, ⟨⟨armed, journal', saved', rfl⟩, harmed.trans hunarmed, hpending⟩, hcalls⟩

theorem blind_done (a : α) : Blind F (done a) :=
  blind_of fun _ _ _ _ => ⟨_, _, rfl, rfl, rfl⟩

theorem blind_fail (e : Error) : Blind F (fail e : Step α) :=
  blind_of fun _ _ _ _ => ⟨_, _, rfl, rfl, rfl⟩

theorem follows_attempt (hf : Blind F f) : Follows F name (attempt name f) := by
  intro s t h
  have hfree : name ∉ t.armed := by
    rw [h.unarmed]
    exact List.not_mem_nil
  rw [attempt_of_not_armed hfree]
  obtain ⟨hsame, hshadows, hcalls⟩ := hf _ _ (h.recorded name)
  refine ⟨hcalls, ?_⟩
  by_cases hname : name ∈ s.armed
  · exact .inr ⟨hname, attempt_of_armed hname⟩
  · rw [attempt_of_not_armed hname]
    exact .inl ⟨hsame, hshadows⟩

theorem follows_onDevice {d : DeviceHandle} (hf : Blind F f) :
    Follows F name (onDevice name d f) := by
  refine follows_attempt fun s t h => ?_
  have hdevices : s.devices = t.devices := by
    obtain ⟨armed, journal, saved, rfl⟩ := h.same
    rfl
  rw [hdevices]
  by_cases hopen : d ∈ t.devices
  · rw [if_pos hopen, if_pos hopen]
    exact hf s t h
  · rw [if_neg hopen, if_neg hopen]
    exact ⟨rfl, h, rfl⟩

theorem follows_onChannel {d : DeviceHandle} {ch : ChannelId}
    {body : ChannelState → Except Error α × ChannelState} :
    Follows F name (onChannel name d ch body) :=
  follows_onDevice (blind_of fun _ _ _ _ => ⟨_, _, rfl, rfl, rfl⟩)

theorem follows_onStream {n : StreamHandle} {body : StreamState → Step α}
    (hf : ∀ st, Blind F (body st)) : Follows F name (onStream name n body) := by
  refine follows_attempt fun s t h => ?_
  have hstreams : s.streams = t.streams := by
    obtain ⟨armed, journal, saved, rfl⟩ := h.same
    rfl
  rw [hstreams]
  cases t.streams.find? n with
  | none => exact ⟨rfl, h, rfl⟩
  | some st => exact hf st s t h

theorem follows_map {β : Type} (hf : Follows F name f) (g : α → β) :
    Follows F name fun u => ((f u).1.map g, (f u).2) := by
  intro s t h
  obtain ⟨hcalls, ⟨hsame, hshadows⟩ | ⟨hstruck, hrejected⟩⟩ := hf s t h
  · exact ⟨hcalls, .inl ⟨congrArg (Except.map g) hsame, hshadows⟩⟩
  · refine ⟨hcalls, .inr ⟨hstruck, ?_⟩⟩
    dsimp only
    rw [hrejected]
    rfl

/-! ## The calls -/

theorem follows_deviceCall (d : DeviceHandle) (c : DeviceCall) :
    Follows F c.name (deviceCall d c) := by
  cases c <;> exact follows_onDevice (blind_of fun _ _ _ _ => ⟨_, _, rfl, rfl, rfl⟩)

/-- A configuration that could not be saved makes no other difference. -/
theorem Shadows.saveConfig (h : Shadows F s t) (d : DeviceHandle) (path : PathName) :
    Shadows F (deviceCall d (.saveConfig path) s).2 (deviceCall d (.saveConfig path) t).2 := by
  obtain ⟨-, ⟨-, hshadows⟩ | ⟨-, hrejected⟩⟩ := follows_deviceCall d (.saveConfig path) s t h
  · exact hshadows
  · have hfree : "save_config" ∉ t.armed := by
      rw [h.unarmed]
      exact List.not_mem_nil
    have hleft : Shadows F (s.rejected "save_config") (t.recorded "save_config") := h.rejected _
    rw [hrejected, deviceCall, onDevice, attempt_of_not_armed hfree]
    dsimp only
    split
    · exact hleft.saved _
    · exact hleft

theorem follows_channelCall (d : DeviceHandle) (ch : ChannelId) (c : ChannelCall) :
    Follows F c.name (channelCall d ch c) := by
  cases c with
  | sampleRate => exact follows_onDevice (blind_of fun _ _ _ _ => ⟨_, _, rfl, rfl, rfl⟩)
  | antennaList => exact follows_onDevice (blind_done _)
  | setAntenna index =>
    dsimp only [channelCall]
    split
    · exact follows_attempt (blind_fail _)
    · exact follows_onChannel
  | _ => exact follows_onChannel

theorem follows_deviceList :
    Follows F "device_list" (attempt "device_list" fun s => (.ok s.listed, s)) :=
  follows_attempt (blind_of fun _ _ _ _ => ⟨_, _, rfl, rfl, rfl⟩)

theorem follows_openDevice (info : String) : Follows F "open" (openDevice info) := by
  refine follows_attempt (blind_of fun t _ _ _ => ?_)
  by_cases hinfo : info ∈ t.listed
  · exact ⟨_, _, by rw [if_pos (by exact hinfo), if_pos hinfo], by rw [if_pos hinfo],
      by rw [if_pos hinfo]⟩
  · exact ⟨_, _, by rw [if_neg (by exact hinfo), if_neg hinfo], by rw [if_neg hinfo],
      by rw [if_neg hinfo]⟩

theorem follows_setupStream (d : DeviceHandle) (config : StreamConfig) :
    Follows F "setup_stream" (setupStream d config) :=
  follows_onDevice (blind_of fun _ _ _ _ => ⟨_, _, rfl, rfl, rfl⟩)

theorem follows_destroyStream (d : DeviceHandle) (n : StreamHandle) :
    Follows F "destroy_stream" (destroyStream d n) := by
  refine follows_onDevice (blind_of fun t _ journal saved => ⟨journal, saved, ?_⟩)
  dsimp only
  cases t.streams.find? n with
  | none => exact ⟨rfl, rfl, rfl⟩
  | some st =>
    dsimp only
    cases st.running with
    | true => exact ⟨rfl, rfl, rfl⟩
    | false => exact ⟨rfl, rfl, rfl⟩

theorem follows_startStream (n : StreamHandle) : Follows F "start_stream" (startStream n) :=
  follows_onStream fun _ => blind_of fun _ _ _ _ => ⟨_, _, rfl, rfl, rfl⟩

theorem follows_stopStream (n : StreamHandle) : Follows F "stop_stream" (stopStream n) :=
  follows_onStream fun _ => blind_of fun _ _ _ _ => ⟨_, _, rfl, rfl, rfl⟩

theorem follows_streamStatus (n : StreamHandle) : Follows F "stream_status" (streamStatus n) :=
  follows_onStream fun _ => blind_of fun _ _ _ _ => ⟨_, _, rfl, rfl, rfl⟩

theorem follows_recvStream (n : StreamHandle) (buffer : SampleBuffer) (timeout : Duration) :
    Follows F "recv_stream" (recvStream n buffer timeout) := by
  refine follows_onStream fun st => blind_of fun t _ journal saved => ⟨journal, saved, ?_⟩
  dsimp only [State.advance]
  by_cases hformat : st.config.dataFormat ≠ buffer.format
  · simp only [if_pos hformat, and_self]
  by_cases hrunning : (!st.running) = true
  · simp only [if_neg hformat, if_pos hrunning, and_self]
  simp only [if_neg hformat, if_neg hrunning]
  by_cases hwait : t.starved = true ∨ timeout < t.readLatency
  · simp only [if_pos hwait]
    cases t.clock.add? timeout <;> exact ⟨rfl, rfl, rfl⟩
  · simp only [if_neg hwait]
    cases t.clock.add? t.readLatency <;> exact ⟨rfl, rfl, rfl⟩

end Simulator
end RadioBench
