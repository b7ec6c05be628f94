/-
What a simulator keeps is in order.

Every handle that occurs in a state has a number that was given out.  What is set on channels
belongs to open devices and stays within the bounds of the radio, while the trim of a device is
kept when the device is closed.
-/
import RadioBench.Proofs.Simulator.Lending

namespace RadioBench
namespace Simulator

variable {s t : State} {e : Deed}

/-! ## What is set on channels -/

/-- Every entry for a channel is within the bounds of the radio. -/
def Ranged (s : State) : Prop :=
  ∀ key x, (key, x) ∈ s.channels.entries → x.InRange

theorem Ranged.channelState (h : Ranged s) (d : DeviceHandle) (ch : ChannelId) :
    (s.channelState d ch).InRange := by
  rw [State.channelState]
  cases hx : s.channels.find? (d, ch) with
  | none => exact inRange_fresh
  | some x => exact h _ x (Table.mem_entries_of_find? hx)

theorem Ranged.of_set (h : Ranged s) {d : DeviceHandle} {ch : ChannelId} {x : ChannelState}
    (hx : x.InRange) (ht : t.channels = s.channels.set (d, ch) x) : Ranged t := by
  intro key y hy
  rw [ht] at hy
  rcases Table.mem_entries_set hy with heq | hy
  · cases heq
    exact hx
  · exact h key y hy

theorem Ranged.of_eq (h : Ranged s) (ht : t.channels = s.channels) : Ranged t := by
  intro key y hy
  exact h key y (ht ▸ hy)

theorem Ranged.untouched (hs : Ranged s) (h : Untouched s t) : Ranged t := by
  rcases h.channels with heq | ⟨d, ch, -, heq⟩
  · exact hs.of_eq heq
  · exact hs.of_set (hs.channelState d ch) heq

theorem ranged_of_effect (h : Effect s e t) (hs : Ranged s) : Ranged t := by
  cases h with
  | quiet _ ht => exact hs.untouched ht
  | closed _ => exact fun key y hy => hs key y (List.mem_filter.mp hy).1
  | reset _ => exact fun key y hy => hs key y (List.mem_filter.mp hy).1
  | tuned _ _ hrange hsets => exact hs.of_set ((hs.channelState _ _).of_sets hrange hsets) rfl
  | _ => exact hs.of_eq rfl

/-! ## Trims -/

theorem trims_of_effect (h : Effect s e t) (hs : Numbered s)
    (htrims : ∀ d ∈ s.trims.keys, d.index < s.nextHandle) :
    ∀ d ∈ t.trims.keys, d.index < t.nextHandle := by
  have hkept (hsame : t.trims = s.trims) : ∀ d ∈ t.trims.keys, d.index < t.nextHandle :=
    fun d hd => Nat.lt_of_lt_of_le (htrims d (hsame ▸ hd)) h.nextHandle_le
  cases h with
  | quiet _ ht => exact hkept ht.unaltered.trims
  | @trimmed d' value hopen =>
    intro d hd
    obtain ⟨v, hv⟩ := Table.mem_keys_iff.mp hd
    by_cases heq : d' = d
    · exact heq ▸ hs.devices d' hopen
    · exact htrims d (Table.mem_keys_iff.mpr ⟨v, (Table.find?_set_of_ne _ heq _).symm.trans hv⟩)
  | _ => exact hkept rfl

/-! ## Sessions -/

/-- What is kept of handles, channels and trims is in order. -/
structure InOrder (deeds : List Deed) (s : State) : Prop where
  devices : ∀ d ∈ s.devices, d.index < s.nextHandle
  streams : ∀ n ∈ s.liveStreams, n.index < s.nextHandle
  channels : ∀ d ch, (d, ch) ∈ s.channels.keys → d ∈ s.devices ∧ d.index < s.nextHandle
  trims : ∀ d ∈ s.trims.keys, d.index < s.nextHandle
  settings : ∀ key x, (key, x) ∈ s.channels.entries → x.InRange
  /-- No number is given out twice, be it to a device or to a stream. -/
  distinct : (deeds.filterMap Deed.issued?).Nodup
  /-- A device is open just when it was opened and has not been closed. -/
  opened : ∀ d, d ∈ s.devices ↔
    (∃ e ∈ deeds, e.opened? = some d) ∧ ∀ e ∈ deeds, e.closed? ≠ some d
  /-- A stream is live just when it was set up and has not been destroyed. -/
  live : ∀ n, n ∈ s.liveStreams ↔
    (∃ e ∈ deeds, e.setUp? = some n) ∧ ∀ e ∈ deeds, e.destroyed? ≠ some n
  /-- A number that was taken back is not given out later on. -/
  released : ∀ front e rest m, deeds = front ++ e :: rest → e.released? = some m →
    m ∉ rest.filterMap Deed.issued?

theorem session_inOrder {listed : List String} {deeds : List Deed} (h : Session listed deeds s) :
    InOrder deeds s where
  devices := (reachable_of_session h).numbered.devices
  streams := (reachable_of_session h).numbered.streams
  channels d ch hkey := by
    obtain ⟨x, hx⟩ := Table.mem_keys_iff.mp hkey
    have hopen : d ∈ s.devices := by
      by_cases hd : d ∈ s.devices
      · exact hd
      · cases ((reachable_of_session h).tidy d ch hd).symm.trans hx
    exact ⟨hopen, (reachable_of_session h).numbered.devices d hopen⟩
  trims := by
    refine Path.recorded (P := fun _ s => ∀ d ∈ s.trims.keys, d.index < s.nextHandle) h
      (fun d hd => absurd hd List.not_mem_nil) ?_
    intro past e u t hpast he ih
    exact trims_of_effect (effect_of_does he) (reachable_of_session hpast).numbered ih
  settings := by
    refine Path.invariant (P := Ranged) (fun e u t he hu => ranged_of_effect (effect_of_does he) hu)
      h fun key x hx => absurd hx List.not_mem_nil
  distinct := by
    have hissued : [] ++ deeds.filterMap Deed.issued? = List.range s.nextHandle := issued_of_path h
    rw [← List.nil_append (deeds.filterMap _), hissued]
    exact List.nodup_range
  opened := deviceLending.live_of_session h
  live := streamLending.live_of_session h
  released front e rest m heq hm := not_issued_of_released (heq ▸ h) hm

/-- A device is closed while a stream of it lives on, and the next stream is set up on another
device.  Calls that fail and calls that only ask make entries for channels. -/
def turnover : List Deed :=
  [.served (.openDevice "sim") (.ok ⟨0⟩ : Except Error DeviceHandle),
    .served (.setupStream ⟨0⟩ (.standard ⟨.rx, 0⟩)) (.ok ⟨1⟩ : Except Error StreamHandle),
    .served (.device ⟨0⟩ (.vctcxoWrite 9)) (.ok () : Except Error Unit),
    .served (.channel ⟨0⟩ ⟨.rx, 0⟩ (.setAntenna 3)) (.ok () : Except Error Unit),
    .served (.closeDevice ⟨0⟩) (.ok () : Except Error Unit),
    .served (.openDevice "sim") (.ok ⟨2⟩ : Except Error DeviceHandle),
    .served (.channel ⟨2⟩ ⟨.rx, 0⟩ (.setNcoIndex 16 true))
      (.error (.failed "set_nco_index" "index out of range") : Except Error Unit),
    .served (.channel ⟨2⟩ ⟨.tx, 1⟩ .antenna) (.ok (1 : Nat) : Except Error Nat),
    .served (.destroyStream ⟨2⟩ ⟨1⟩) (.ok () : Except Error Unit),
    .served (.setupStream ⟨2⟩ (.standard ⟨.rx, 0⟩)) (.ok ⟨3⟩ : Except Error StreamHandle)]

theorem turnover_inOrder :
    ∃ s, Session ["sim"] turnover s ∧ InOrder turnover s ∧ s.devices = [⟨2⟩] ∧
      s.liveStreams = [⟨3⟩] ∧ s.channels.keys = [(⟨2⟩, ⟨.rx, 0⟩), (⟨2⟩, ⟨.tx, 1⟩)] ∧
      s.trims.keys = [⟨0⟩] := by
  have hpath : Session ["sim"] turnover _ :=
    .cons rfl <| .cons rfl <| .cons rfl <| .cons rfl <| .cons rfl <| .cons rfl <| .cons rfl <|
      .cons rfl <| .cons rfl <| .cons rfl <| .nil _
  exact ⟨_, hpath, session_inOrder hpath, rfl, rfl, rfl, rfl⟩

end Simulator
end RadioBench
