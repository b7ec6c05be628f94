/-
The entries of a simulator.

The table of streams is changed by few requests, and by each of them only under the handle that
is set up or named.  A read counts its samples there, which the entry does not show.
-/
import RadioBench.Proofs.Guard.Keeper
import RadioBench.Proofs.Simulator.Runs

namespace RadioBench
namespace Simulator

open Step

variable {s t : State} {n m : StreamHandle}

namespace State

/-- Whether the stream runs and which format it has, if it is there. -/
def entryAt? (s : State) (n : StreamHandle) : Option Standing :=
  (s.streams.find? n).map fun st => ⟨st.running, st.config.dataFormat⟩

theorem entryAt?_putStream (s : State) (m n : StreamHandle) (st : StreamState) :
    (s.putStream m st).entryAt? n =
      if m = n then some ⟨st.running, st.config.dataFormat⟩ else s.entryAt? n := by
  rw [entryAt?, putStream, Table.find?_set]
  by_cases hm : m = n
  · rw [if_pos hm, if_pos hm]
    rfl
  · rw [if_neg hm, if_neg hm]
    rfl

theorem entryAt?_rejected (s : State) (name : String) (n : StreamHandle) :
    (s.rejected name).entryAt? n = s.entryAt? n := by
  obtain ⟨journal, heq⟩ := s.rejected_eq name
  rw [heq]
  rfl

theorem entryAt?_of_find? {st : StreamState} (h : s.streams.find? n = some st) :
    s.entryAt? n = some ⟨st.running, st.config.dataFormat⟩ := by
  rw [entryAt?, h]
  rfl

end State

/-! ## Requests that keep an entry -/

variable {x : Option Standing}

theorem overlooks_entry (n : StreamHandle) (x : Option Standing) (name : String) :
    Overlooks (fun u => u.entryAt? n = x) name where
  recorded _ hs := hs
  rejected u hs := (u.entryAt?_rejected name n).trans hs

theorem ignores_entry (n : StreamHandle) (x : Option Standing) :
    Ignores fun u => u.entryAt? n = x where
  overlooks name _ := overlooks_entry n x name
  channel _ _ _ _ _ hs := hs
  forget _ _ hs := hs
  settings _ _ _ _ _ hs := hs

theorem entry_of_keeps {α : Type} {f : Step α} {r : Except Error α} (h : f s = (r, t))
    (hf : f.Keeps fun u => u.entryAt? n = s.entryAt? n) : t.entryAt? n = s.entryAt? n := by
  have hkept := hf s rfl
  rwa [h] at hkept

theorem keeps_recvStream_entry (buffer : SampleBuffer) (timeout : Duration) :
    (recvStream m buffer timeout).Keeps fun u => u.entryAt? n = x := by
  refine keeps_recvStream (overlooks_entry n x _) (fun _ _ hs => hs) ?_ buffer timeout
  intro u st received later hst hs
  rw [State.entryAt?_putStream]
  by_cases hm : m = n
  · subst hm
    rw [if_pos rfl, ← hs]
    exact (State.entryAt?_of_find? hst).symm
  · rw [if_neg hm]
    exact hs

/-! ## Requests that change an entry -/

theorem entry_setupStream {d : DeviceHandle} {config : StreamConfig} {a : Except Error StreamHandle}
    (h : setupStream d config s = (a, t)) :
    t.entryAt? n = Event.shift n ⟨.inl (.setupStream d config), a⟩ (s.entryAt? n) := by
  rcases onDevice_cases h with ⟨-, ⟨e, rfl⟩, rfl⟩ | ⟨-, ⟨e, rfl⟩, rfl⟩ | h
  · exact s.entryAt?_rejected _ n
  · rfl
  · cases h
    exact State.entryAt?_putStream _ _ n _

/-- A start or a stop that succeeds is put down in the entry of the stream that it names. -/
theorem entry_switch {name : String} (on : Bool) {a : Except Error Unit}
    (h : onStream name m (fun st u => (.ok (), u.putStream m { st with running := on })) s =
      (a, t)) :
    ((∃ e, a = .error e) ∧ t.entryAt? n = s.entryAt? n) ∨
      (a = .ok () ∧ t.entryAt? n =
        if m = n then (s.entryAt? n).map fun y => { y with running := on } else s.entryAt? n) := by
  rcases onStream_cases h with ⟨-, he, rfl⟩ | ⟨-, he, rfl⟩ | ⟨-, st, hst, h⟩
  · exact .inl ⟨he, s.entryAt?_rejected _ n⟩
  · exact .inl ⟨he, rfl⟩
  · cases h
    refine .inr ⟨rfl, ?_⟩
    rw [State.entryAt?_putStream]
    by_cases hm : m = n
    · subst hm
      rw [if_pos rfl, if_pos rfl, State.entryAt?_of_find? hst]
      rfl
    · rw [if_neg hm, if_neg hm]
      rfl

theorem keeps_destroyStream_entry {d : DeviceHandle} (hm : m ≠ n) :
    (destroyStream d m).Keeps fun u => u.entryAt? n = x := by
  refine keeps_onDevice (overlooks_entry n x _) fun u _ hu => ?_
  cases u.streams.find? m with
  | none => exact hu
  | some st =>
    dsimp only
    split
    · exact hu
    · rw [← hu]
      exact congrArg (Option.map _) (Table.find?_erase_of_ne u.streams (Ne.symm hm))

/-- The entry of a stream is what the event makes of it, unless the stream is destroyed. -/
theorem entry_perform {r : Request} {a : r.Answer} (hp : perform r s = (a, t))
    (hkept : ¬ Event.Destroys n ⟨.inl r, a⟩) :
    t.entryAt? n = Event.shift n ⟨.inl r, a⟩ (s.entryAt? n) := by
  have hname : ∀ name, Overlooks (fun u => u.entryAt? n = s.entryAt? n) name := overlooks_entry n _
  cases r with
  | libraryVersion =>
    cases hp
    rfl
  | registerLog handler =>
    cases hp
    rfl
  | deviceList => exact entry_of_keeps hp (keeps_attempt (hname _) fun _ hs => hs)
  | openDevice info =>
    refine entry_of_keeps hp (keeps_attempt (hname _) fun u hu => ?_)
    split <;> exact hu
  | closeDevice d => exact entry_of_keeps hp (keeps_onDevice (hname _) fun _ _ hs => hs)
  | device d c => exact entry_of_keeps hp (keeps_deviceCall (ignores_entry n _) d c)
  | channel d ch c => exact entry_of_keeps hp (keeps_channelCall (ignores_entry n _) d ch c)
  | setupStream d config => exact entry_setupStream hp
  | destroyStream d m =>
    have hm : m ≠ n := by
      rintro rfl
      exact hkept ⟨d, rfl⟩
    exact entry_of_keeps hp (keeps_destroyStream_entry hm)
  | startStream m =>
    rcases entry_switch true hp with ⟨⟨e, rfl⟩, hsame⟩ | ⟨rfl, hnew⟩
    · exact hsame
    · exact hnew
  | stopStream m =>
    rcases entry_switch false hp with ⟨⟨e, rfl⟩, hsame⟩ | ⟨rfl, hnew⟩
    · exact hsame
    · exact hnew
  | recvStream m buffer info timeout =>
    have hrecv := keeps_recvStream_entry (n := n) (x := s.entryAt? n) (m := m) buffer timeout s rfl
    rw [← perform_recvStream_snd m buffer info timeout s, hp] at hrecv
    exact hrecv
  | sendStream m buffer count info timeout =>
    exact entry_of_keeps hp (keeps_sendStream (hname _) m buffer count)
  | streamStatus m => exact entry_of_keeps hp (keeps_onStream (hname _) fun _ _ _ hs => hs)

/-! ## The keeper -/

/-- What can be done to a simulator besides asking it for something. -/
inductive Control : State → State → Prop
  | arm (s : State) (name : String) : Control s (s.arm name)
  | readLatency (s : State) (latency : Duration) : Control s (s.setReadLatency latency)
  | starved (s : State) (on : Bool) : Control s (s.setStarved on)
  | advance (s : State) (span : Duration) : Control s (s.advance span).2

theorem entry_control (h : Control s t) : t.entryAt? n = s.entryAt? n := by
  cases h with
  | arm name =>
    unfold State.arm
    split <;> rfl
  | readLatency latency => rfl
  | starved on => rfl
  | advance span =>
    unfold State.advance
    cases s.clock.add? span <;> rfl

theorem reachable_control (h : Control s t) (hs : Reachable s) : Reachable t := by
  cases h with
  | arm name => exact hs.arm name
  | readLatency latency => exact hs.readLatency latency
  | starved on => exact hs.starved on
  | advance span => exact hs.advance span

theorem entry_runs {e : Event Host} (h : Runs e s t) (hkept : ¬ e.Destroys n) :
    t.entryAt? n = e.shift n (s.entryAt? n) := by
  match e with
  | ⟨.inl r, a⟩ => exact entry_perform h hkept
  | ⟨.inr .now, _⟩ => exact h ▸ rfl
  | ⟨.inr (.note e), _⟩ => exact h ▸ rfl
  | ⟨.inr (.write _), _⟩ => exact h ▸ rfl

theorem fresh_of_setupStream {d : DeviceHandle} {config : StreamConfig} (hs : Numbered s)
    (h : setupStream d config s = (.ok n, t)) : s.entryAt? n = none := by
  rcases setupStream_cases h with ⟨⟨e, he⟩, -⟩ | ⟨hn, -⟩
  · cases he
  · obtain rfl := Except.ok.inj hn
    have hnew := hs.stream_not_mem
    rw [State.liveStreams, Table.mem_keys_iff] at hnew
    have hnone : s.streams.find? ⟨s.nextHandle⟩ = none :=
      Option.eq_none_iff_forall_ne_some.mpr fun st hst => hnew ⟨st, hst⟩
    rw [State.entryAt?, hnone]
    rfl

/-- The simulator as a keeper of entries. -/
def keeper : Keeper State where
  rule := Runs
  control := Control
  valid := Reachable
  entryAt? := State.entryAt?
  valid_of_rule h hs := Reachable.path (.single h) hs
  valid_of_control := reachable_control
  entry_of_rule := entry_runs
  entry_of_control := entry_control
  fresh hs h := fresh_of_setupStream hs.numbered h

end Simulator
end RadioBench
