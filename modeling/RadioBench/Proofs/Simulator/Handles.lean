/-
What the requests of a simulator do that open something, give it back, start it or
stop it.

Each of them is taken apart once: it failed, or the name was not armed and the state
afterwards is known as a whole.
-/
import RadioBench.Proofs.Simulator.Steady

namespace RadioBench
namespace Simulator

open Step

variable {s t : State}

theorem attempt_cases {α : Type} {name : String} {body : Step α} {r : Except Error α}
    (h : attempt name body s = (r, t)) :
    (name ∈ s.armed ∧ (∃ e, r = .error e) ∧ t = s.rejected name) ∨
      (name ∉ s.armed ∧ body (s.recorded name) = (r, t)) := by
  by_cases harmed : name ∈ s.armed
  · rw [attempt_of_armed harmed] at h
    cases h
    exact .inl ⟨harmed, ⟨_, rfl⟩, rfl⟩
  · rw [attempt_of_not_armed harmed] at h
    exact .inr ⟨harmed, h⟩

theorem onDevice_cases {α : Type} {name : String} {d : DeviceHandle} {body : Step α}
    {r : Except Error α} (h : onDevice name d body s = (r, t)) :
    (name ∈ s.armed ∧ (∃ e, r = .error e) ∧ t = s.rejected name) ∨
      (d ∉ s.devices ∧ (∃ e, r = .error e) ∧ t = s.recorded name) ∨
      body (s.recorded name) = (r, t) := by
  rcases attempt_cases h with hrej | ⟨-, h⟩
  · exact .inl hrej
  · by_cases hopen : d ∈ s.devices
    · rw [if_pos (by exact hopen)] at h
      exact .inr (.inr h)
    · rw [if_neg (by exact hopen)] at h
      cases h
      exact .inr (.inl ⟨hopen, ⟨_, rfl⟩, rfl⟩)

theorem onStream_cases {α : Type} {name : String} {n : StreamHandle}
    {body : StreamState → Step α} {r : Except Error α} (h : onStream name n body s = (r, t)) :
    (name ∈ s.armed ∧ (∃ e, r = .error e) ∧ t = s.rejected name) ∨
      (s.running? n = none ∧ (∃ e, r = .error e) ∧ t = s.recorded name) ∨
      (name ∉ s.armed ∧ ∃ st, s.streams.find? n = some st ∧
        body st (s.recorded name) = (r, t)) := by
  rcases attempt_cases h with hrej | ⟨harmed, h⟩
  · exact .inl hrej
  · dsimp only [State.recorded] at h
    cases hst : s.streams.find? n with
    | none =>
      rw [hst] at h
      cases h
      exact .inr (.inl ⟨by simp [State.running?, hst], ⟨_, rfl⟩, rfl⟩)
    | some st =>
      rw [hst] at h
      exact .inr (.inr ⟨harmed, st, rfl, h⟩)

/-! ## The requests -/

theorem openDevice_cases {info : String} {r : Except Error DeviceHandle}
    (h : openDevice info s = (r, t)) :
    ((∃ e, r = .error e) ∧ Steady s t) ∨
      (r = .ok ⟨s.nextHandle⟩ ∧
        t = { s.recorded "open" with
          nextHandle := s.nextHandle + 1
          devices := s.devices ++ [⟨s.nextHandle⟩] }) := by
  rcases attempt_cases h with ⟨-, he, rfl⟩ | ⟨-, h⟩
  · exact .inl ⟨he, State.steady_rejected (by decide)⟩
  · by_cases hinfo : info ∈ s.listed
    · rw [if_pos (by exact hinfo)] at h
      cases h
      exact .inr ⟨rfl, rfl⟩
    · rw [if_neg (by exact hinfo)] at h
      cases h
      exact .inl ⟨⟨_, rfl⟩, State.steady_recorded (by decide)⟩

theorem closeDevice_cases {d : DeviceHandle} {r : Except Error Unit}
    (h : closeDevice d s = (r, t)) :
    (("close" ∈ s.armed ∨ d ∉ s.devices) ∧ Steady s t) ∨
      t = { s.recorded "close" with
        devices := s.devices.filter (· ≠ d) }.forgetChannels d := by
  rcases onDevice_cases h with ⟨harmed, -, rfl⟩ | ⟨hopen, -, rfl⟩ | h
  · exact .inl ⟨.inl harmed, State.steady_rejected (by decide)⟩
  · exact .inl ⟨.inr hopen, State.steady_recorded (by decide)⟩
  · cases h
    exact .inr rfl

theorem setupStream_cases {d : DeviceHandle} {config : StreamConfig}
    {r : Except Error StreamHandle} (h : setupStream d config s = (r, t)) :
    ((∃ e, r = .error e) ∧ Steady s t) ∨
      (r = .ok ⟨s.nextHandle⟩ ∧
        t = { (s.recorded "setup_stream").putStream ⟨s.nextHandle⟩
            { config := config, running := false, received := 0 } with
          nextHandle := s.nextHandle + 1 }) := by
  rcases onDevice_cases h with ⟨-, he, rfl⟩ | ⟨-, he, rfl⟩ | h
  · exact .inl ⟨he, State.steady_rejected (by decide)⟩
  · exact .inl ⟨he, State.steady_recorded (by decide)⟩
  · cases h
    exact .inr ⟨rfl, rfl⟩

/-- A stream is destroyed, or lives on because the request was rejected, because the
device is not open, or because the stream is not at rest. -/
theorem destroyStream_cases {d : DeviceHandle} {n : StreamHandle} {r : Except Error Unit}
    (h : destroyStream d n s = (r, t)) :
    (("destroy_stream" ∈ s.armed ∨ d ∉ s.devices ∨ s.running? n ≠ some false) ∧ Steady s t) ∨
      (s.running? n = some false ∧
        t = { s.recorded "destroy_stream" with streams := s.streams.erase n }) := by
  have hrec : Steady s (s.recorded "destroy_stream") := State.steady_recorded (by decide)
  rcases onDevice_cases h with ⟨harmed, -, rfl⟩ | ⟨hopen, -, rfl⟩ | h
  · exact .inl ⟨.inl harmed, State.steady_rejected (by decide)⟩
  · exact .inl ⟨.inr (.inl hopen), hrec⟩
  · rw [State.running?]
    dsimp only [State.recorded] at h
    cases hst : s.streams.find? n with
    | none =>
      rw [hst] at h
      cases h
      exact .inl ⟨.inr (.inr (by simp)), hrec⟩
    | some st =>
      rw [hst] at h
      dsimp only at h
      cases hrun : st.running with
      | true =>
        rw [hrun] at h
        cases h
        exact .inl ⟨.inr (.inr (by simp [hrun])), hrec⟩
      | false =>
        rw [hrun] at h
        cases h
        exact .inr ⟨by simp [hrun], rfl⟩

theorem startStream_cases {n : StreamHandle} {r : Except Error Unit}
    (h : startStream n s = (r, t)) :
    ((∃ e, r = .error e) ∧ Steady s t) ∨
      (r = .ok () ∧ ∃ st, s.streams.find? n = some st ∧
        t = (s.recorded "start_stream").putStream n { st with running := true }) := by
  rcases onStream_cases h with ⟨-, he, rfl⟩ | ⟨-, he, rfl⟩ | ⟨-, st, hst, h⟩
  · exact .inl ⟨he, State.steady_rejected (by decide)⟩
  · exact .inl ⟨he, State.steady_recorded (by decide)⟩
  · cases h
    exact .inr ⟨rfl, st, hst, rfl⟩

/-- A stop of a live stream fails only when it is armed. -/
theorem stopStream_cases {n : StreamHandle} {r : Except Error Unit}
    (h : stopStream n s = (r, t)) :
    ("stop_stream" ∈ s.armed ∧ (∃ e, r = .error e) ∧ t = s.rejected "stop_stream") ∨
      (s.running? n = none ∧ (∃ e, r = .error e) ∧ t = s.recorded "stop_stream") ∨
      ("stop_stream" ∉ s.armed ∧ r = .ok () ∧ ∃ st, s.streams.find? n = some st ∧
        t = (s.recorded "stop_stream").putStream n { st with running := false }) := by
  rcases onStream_cases h with hrej | hnone | ⟨harmed, st, hst, h⟩
  · exact .inl hrej
  · exact .inr (.inl hnone)
  · cases h
    exact .inr (.inr ⟨harmed, rfl, st, hst, rfl⟩)

/-! ## The streams of a state -/

namespace State

theorem liveStreams_putStream {n : StreamHandle} (h : n ∈ s.liveStreams) (st : StreamState) :
    (s.putStream n st).liveStreams = s.liveStreams := Table.keys_set_of_mem h st

theorem liveStreams_putStream_new {n : StreamHandle} (h : n ∉ s.liveStreams)
    (st : StreamState) : (s.putStream n st).liveStreams = s.liveStreams ++ [n] :=
  Table.keys_set_of_not_mem h st

theorem running?_putStream (n : StreamHandle) (st : StreamState) :
    (s.putStream n st).running? n = some st.running := by
  simp [running?, putStream, Table.find?_set_self]

end State

end Simulator
end RadioBench
