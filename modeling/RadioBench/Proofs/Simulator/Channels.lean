/-
What is set on channels belongs to open devices.

Settings are made on open devices only, and go when their device is closed.  A device that is
opened therefore finds nothing set on its channels, whatever devices there were before.
-/
import RadioBench.Proofs.Simulator.Runs

namespace RadioBench
namespace Simulator

open Step

variable {s t : State}

/-! ## What a change makes of the settings -/

namespace State

theorem channelState_set (s : State) (d d' : DeviceHandle) (ch ch' : ChannelId)
    (c : ChannelState) :
    ({ s with channels := s.channels.set (d, ch) c } : State).channelState d' ch' =
      if d = d' ∧ ch = ch' then c else s.channelState d' ch' := by
  show ((s.channels.set (d, ch) c).find? (d', ch')).getD .fresh = _
  rw [Table.find?_set]
  by_cases hsame : d = d' ∧ ch = ch'
  · rw [if_pos hsame, if_pos (Prod.ext hsame.1 hsame.2)]
    rfl
  · rw [if_neg hsame, if_neg fun heq => hsame (Prod.mk.inj heq)]
    rfl

theorem channelState_forget (s : State) (d d' : DeviceHandle) (ch : ChannelId) :
    (s.forgetChannels d).channelState d' ch =
      if d' = d then .fresh else s.channelState d' ch := by
  show ((s.channels.keep _).find? (d', ch)).getD .fresh = _
  rw [Table.find?_keep]
  by_cases hd : d' = d
  · simp [hd]
  · simp [hd, channelState]

end State

/-! ## Devices that are not open -/

/-- Nothing is set on the channels of a device that is not open. -/
def Tidy (s : State) : Prop :=
  ∀ h ch, h ∉ s.devices → s.channels.find? (h, ch) = none

namespace Tidy

theorem of_eq (h : Tidy s) (hdevices : t.devices = s.devices)
    (hchannels : t.channels = s.channels) :
    Tidy t := by
  intro d ch hd
  rw [hchannels]
  exact h d ch (hdevices ▸ hd)

theorem set (h : Tidy s) {d : DeviceHandle} (hopen : d ∈ s.devices) (ch : ChannelId)
    (c : ChannelState) : Tidy { s with channels := s.channels.set (d, ch) c } := by
  intro d' ch' hd'
  have hother : (d, ch) ≠ (d', ch') := fun heq => hd' ((Prod.mk.inj heq).1 ▸ hopen)
  show (s.channels.set (d, ch) c).find? (d', ch') = none
  rw [Table.find?_set_of_ne _ hother]
  exact h d' ch' hd'

theorem forget (h : Tidy s) (d : DeviceHandle) : Tidy (s.forgetChannels d) := by
  intro d' ch' hd'
  show (s.channels.keep _).find? (d', ch') = none
  rw [Table.find?_keep, h d' ch' hd', ite_self]

theorem close (h : Tidy s) (d : DeviceHandle) :
    Tidy ({ s with devices := s.devices.filter (· ≠ d) }.forgetChannels d) := by
  intro d' ch' hd'
  show (s.channels.keep _).find? (d', ch') = none
  rw [Table.find?_keep]
  by_cases heq : d' = d
  · simp [heq]
  · have hclosed : d' ∉ s.devices := fun hopen =>
      hd' (List.mem_filter.mpr ⟨hopen, by simpa using heq⟩)
    rw [h d' ch' hclosed, ite_self]

end Tidy

theorem lasting_tidy : Lasting Tidy where
  overlooks name := {
    recorded := fun _ hs => hs.of_eq rfl rfl
    rejected := fun s hs => by
      obtain ⟨journal, heq⟩ := s.rejected_eq name
      rw [heq]
      exact hs.of_eq rfl rfl }
  channel _ _ ch c hopen hs := hs.set hopen ch c
  forget _ d hs := hs.forget d
  settings _ _ _ _ _ hs := hs.of_eq rfl rfl
  handler _ _ hs := hs.of_eq rfl rfl
  streams _ _ _ _ hs := hs.of_eq rfl rfl
  opened _ _ _ hs d ch hd := hs d ch fun hopen => hd (List.mem_append_left _ hopen)
  closed _ d hs := hs.close d

theorem Tidy.channelState_of_not_mem (h : Tidy s) {d : DeviceHandle} (hd : d ∉ s.devices)
    (ch : ChannelId) : s.channelState d ch = .fresh := by
  rw [State.channelState, h d ch hd]
  rfl

theorem Reachable.tidy (h : Reachable s) : Tidy s := by
  induction h with
  | start listed => exact fun _ _ _ => rfl
  | perform r _ ih => exact lasting_tidy.perform r ih
  | arm name _ ih =>
    unfold State.arm
    split
    · exact ih
    · exact ih.of_eq rfl rfl
  | readLatency latency _ ih => exact ih.of_eq rfl rfl
  | starved on _ ih => exact ih.of_eq rfl rfl
  | @advance s span _ ih =>
    unfold State.advance
    cases s.clock.add? span <;> exact ih.of_eq rfl rfl
  | note e _ ih => exact ih.of_eq rfl rfl

/-- Nothing is set on the channels of the device that is opened next. -/
theorem Reachable.channelState_next (h : Reachable s) (ch : ChannelId) :
    s.channelState ⟨s.nextHandle⟩ ch = .fresh :=
  h.tidy.channelState_of_not_mem h.numbered.device_not_mem ch

end Simulator
end RadioBench
