/-
Programs that run on a simulator.

A simulator gets from one state to another by requests and by its controls.  In every
state that it gets into, the handles in use have numbers that were given out, so that
the next number is new.
-/
import RadioBench.Host
import RadioBench.Proofs.Prog.Path
import RadioBench.Proofs.Simulator.Handles

namespace RadioBench
namespace Simulator

variable {s t : State}

/-- Every handle in use has a number that was given out. -/
structure Numbered (s : State) : Prop where
  devices : ∀ d ∈ s.devices, d.index < s.nextHandle
  streams : ∀ n ∈ s.liveStreams, n.index < s.nextHandle

namespace Numbered

theorem grow (h : Numbered s) (hnext : s.nextHandle ≤ t.nextHandle)
    (hdevices : ∀ d ∈ t.devices, d ∈ s.devices ∨ d.index < t.nextHandle)
    (hstreams : ∀ n ∈ t.liveStreams, n ∈ s.liveStreams ∨ n.index < t.nextHandle) :
    Numbered t where
  devices d hd := (hdevices d hd).elim (fun hd => Nat.lt_of_lt_of_le (h.devices d hd) hnext) id
  streams n hn := (hstreams n hn).elim (fun hn => Nat.lt_of_lt_of_le (h.streams n hn) hnext) id

theorem of_sameHandles (h : Numbered s) (hsame : SameHandles s t) : Numbered t :=
  h.grow (Nat.le_of_eq hsame.nextHandle.symm) (fun _ hd => .inl (hsame.devices ▸ hd))
    (fun _ hn => .inl (hsame.streams ▸ hn))

theorem putStream (h : Numbered s) {n : StreamHandle} (hn : n ∈ s.liveStreams)
    (st : StreamState) : Numbered (s.putStream n st) :=
  h.grow Nat.le.refl (fun _ hd => .inl hd)
    fun _ hm => .inl (State.liveStreams_putStream hn st ▸ hm)

theorem device_not_mem (h : Numbered s) : ⟨s.nextHandle⟩ ∉ s.devices :=
  fun hmem => Nat.lt_irrefl _ (h.devices _ hmem)

theorem stream_not_mem (h : Numbered s) : ⟨s.nextHandle⟩ ∉ s.liveStreams :=
  fun hmem => Nat.lt_irrefl _ (h.streams _ hmem)

theorem perform (h : Numbered s) {r : Request} {a : r.Answer}
    (hp : Simulator.perform r s = (a, t)) : Numbered t := by
  by_cases hr : leavesOpen r = true
  · exact h.of_sameHandles (steady_perform hr hp).toSameHandles
  cases r with
  | openDevice info =>
    rcases openDevice_cases hp with ⟨-, hst⟩ | ⟨-, rfl⟩
    · exact h.of_sameHandles hst.toSameHandles
    · refine h.grow (Nat.le_succ _) (fun d hd => ?_) fun _ hn => .inl hn
      refine (List.mem_append.mp hd).imp_right fun hd => ?_
      rw [List.mem_singleton.mp hd]
      exact Nat.lt_succ_self _
  | closeDevice d =>
    rcases closeDevice_cases hp with ⟨-, hst⟩ | rfl
    · exact h.of_sameHandles hst.toSameHandles
    · exact h.grow Nat.le.refl (fun x hx => .inl (List.mem_filter.mp hx).1) fun _ hn => .inl hn
  | setupStream d config =>
    rcases setupStream_cases hp with ⟨-, hst⟩ | ⟨-, rfl⟩
    · exact h.of_sameHandles hst.toSameHandles
    · refine h.grow (Nat.le_succ _) (fun _ hd => .inl hd) fun n hn => ?_
      have hkeys := State.liveStreams_putStream_new (s := s) h.stream_not_mem
        { config := config, running := false, received := 0 }
      have hn' : n ∈ s.liveStreams ++ [⟨s.nextHandle⟩] := hkeys ▸ hn
      refine (List.mem_append.mp hn').imp_right fun hn => ?_
      rw [List.mem_singleton.mp hn]
      exact Nat.lt_succ_self _
  | destroyStream d n =>
    rcases destroyStream_cases hp with ⟨-, hst⟩ | ⟨-, rfl⟩
    · exact h.of_sameHandles hst.toSameHandles
    · refine h.grow Nat.le.refl (fun _ hd => .inl hd) fun x hx => .inl ?_
      have hx' : x ∈ (s.streams.erase n).keys := hx
      rw [Table.keys_erase] at hx'
      exact (List.mem_filter.mp hx').1
  | startStream n =>
    rcases startStream_cases hp with ⟨-, hst⟩ | ⟨-, st, hfind, rfl⟩
    · exact h.of_sameHandles hst.toSameHandles
    · exact (h.of_sameHandles (s.sameHandles_recorded _)).putStream
        (Table.mem_keys_iff.mpr ⟨st, hfind⟩) _
  | stopStream n =>
    rcases stopStream_cases hp with ⟨-, -, rfl⟩ | ⟨-, -, rfl⟩ | ⟨-, -, st, hfind, rfl⟩
    · exact h.of_sameHandles (s.sameHandles_rejected _)
    · exact h.of_sameHandles (s.sameHandles_recorded _)
    · exact (h.of_sameHandles (s.sameHandles_recorded _)).putStream
        (Table.mem_keys_iff.mpr ⟨st, hfind⟩) _
  | _ => exact absurd rfl hr

end Numbered

/-- The states that a simulator gets into by requests and by its controls. -/
inductive Reachable : State → Prop
  | start (listed : List String) : Reachable (.start listed)
  | perform {s : State} (r : Request) : Reachable s → Reachable (Simulator.perform r s).2
  | arm {s : State} (name : String) : Reachable s → Reachable (s.arm name)
  | readLatency {s : State} (latency : Duration) :
      Reachable s → Reachable (s.setReadLatency latency)
  | starved {s : State} (on : Bool) : Reachable s → Reachable (s.setStarved on)
  | advance {s : State} (span : Duration) : Reachable s → Reachable (s.advance span).2
  | note {s : State} (e : Entry) : Reachable s → Reachable (s.note e)

theorem Reachable.numbered (h : Reachable s) : Numbered s := by
  induction h with
  | start listed => exact ⟨by simp [State.start], by simp [State.start, State.liveStreams]⟩
  | perform r _ ih => exact ih.perform rfl
  | arm name _ ih =>
    unfold State.arm
    split
    · exact ih
    · exact ⟨ih.devices, ih.streams⟩
  | readLatency latency _ ih => exact ⟨ih.devices, ih.streams⟩
  | starved on _ ih => exact ⟨ih.devices, ih.streams⟩
  | @advance s span _ ih =>
    unfold State.advance
    cases s.clock.add? span <;> exact ⟨ih.devices, ih.streams⟩
  | note e _ ih => exact ⟨ih.devices, ih.streams⟩

/-- A simulator answers the requests of a host and keeps its journal.  The clock may
show any time, and a text may be written or not. -/
def Runs : Event Host → State → State → Prop
  | ⟨.inl r, a⟩, s, t => perform r s = (a, t)
  | ⟨.inr .now, _⟩, s, t => t = s
  | ⟨.inr (.note e), _⟩, s, t => t = s.note e
  | ⟨.inr (.write _), _⟩, s, t => t = s

theorem Reachable.path {es : List (Event Host)} (h : Path Runs s es t) (hs : Reachable s) :
    Reachable t := by
  refine h.invariant (fun e s t he hs => ?_) hs
  match e with
  | ⟨.inl r, a⟩ =>
    have ht : t = (Simulator.perform r s).2 := by rw [he]
    exact ht ▸ hs.perform r
  | ⟨.inr .now, _⟩ => exact he ▸ hs
  | ⟨.inr (.note e), _⟩ => exact he ▸ hs.note e
  | ⟨.inr (.write _), _⟩ => exact he ▸ hs

end Simulator
end RadioBench
