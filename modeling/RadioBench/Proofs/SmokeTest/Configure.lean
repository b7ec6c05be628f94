/-
The requests of the configuration.

Sixteen requests are made in a fixed order.  The first failure, of the driver or of
a line to write, ends the sequence.
-/
import RadioBench.Proofs.Guard.Trace
import RadioBench.SmokeTest.Configure

namespace RadioBench

namespace Device

theorem performs_call (d : Device) {c : DeviceCall}
    (hc : (Request.device d.handle c).forgiven = false) :
    Attempt.Performs (d.call c) [.device d.handle c] :=
  .request hc fun _ x h => ⟨x, yields_call_iff.mp h, rfl⟩

theorem performs_channel (d : Device) (ch : ChannelId) {c : ChannelCall}
    (hc : c.refusal? = none) : Attempt.Performs (d.channel ch c) [.channel d.handle ch c] := by
  simp only [channel, hc]
  exact .request rfl fun _ x h => ⟨x, Host.yields_request_iff.mp h, rfl⟩

end Device

namespace SmokeTest

open Attempt

theorem performs_listAntennas (number : Nat) (names : List String) :
    Performs (listAntennas number names) [] := by
  induction names generalizing number with
  | nil => exact .pure ()
  | cons name rest ih => exact .skip (.line _) fun _ => ih (number + 1)

/-- The requests of the configuration, in order. -/
def configureRequests (h : DeviceHandle) (s : Settings) : List Request :=
  [.channel h s.channel (.enable true),
   .channel h s.channel (.setLoFrequency s.loFrequency),
   .channel h s.channel .loFrequency,
   .channel h s.channel .antennaList,
   .channel h s.channel .antenna,
   .channel h s.channel (.setAntenna s.antenna.index),
   .channel h s.channel .antenna,
   .device h (.setSampleRate s.sampleRate s.oversample),
   .channel h s.channel .sampleRate,
   .device h (.lpfBwRange s.channel.direction),
   .channel h s.channel (.setLpfBw s.lpfBandwidth),
   .channel h s.channel (.setNormalizedGain s.normalizedGain),
   .channel h s.channel .normalizedGain,
   .channel h s.channel .gainDb,
   .channel h s.channel (.calibrate s.calibrationBandwidth 0),
   .channel h s.channel (.setTestSignal s.testSignal 0 0)]

theorem forall_configureRequests {P : Request → Prop} {h : DeviceHandle}
    (hdevice : ∀ c, P (.device h c)) (hchannel : ∀ ch c, P (.channel h ch c)) (s : Settings) :
    ∀ q ∈ configureRequests h s, P q := by
  simp [configureRequests, hdevice, hchannel]

theorem performs_configure (d : Device) (s : Settings) :
    Performs (configure d s) (configureRequests d.handle s) := by
  unfold configure configureRequests
  -- the channel and its frequency
  refine .skip (.note _) fun _ => .step (d.performs_channel _ rfl) fun _ => ?_
  refine .skip (.note _) fun _ => .step (d.performs_channel _ rfl) fun _ => ?_
  refine .step (d.performs_channel _ rfl) fun _ => .skip (.line _) fun _ => ?_
  -- the antennas
  refine .step (d.performs_channel _ rfl) fun _ => .skip (.line _) fun _ => ?_
  refine .skip (performs_listAntennas _ _) fun _ => ?_
  refine .step (d.performs_channel _ rfl) fun _ => .skip (.line _) fun _ => ?_
  refine .step (d.performs_channel _ rfl) fun _ => ?_
  refine .step (d.performs_channel _ rfl) fun _ => .skip (.line _) fun _ => ?_
  -- the sample rate
  refine .skip (.note _) fun _ => .step (d.performs_call rfl) fun _ => ?_
  refine .step (d.performs_channel _ rfl) fun _ => .skip (.line _) fun _ => ?_
  -- the filter
  refine .step (d.performs_call rfl) fun _ => .skip (.line _) fun _ => ?_
  refine .perhaps (.note _) fun _ => ?_
  refine .step (d.performs_channel _ rfl) fun _ => ?_
  -- the gain
  refine .step (d.performs_channel _ rfl) fun _ => ?_
  refine .step (d.performs_channel _ rfl) fun _ => .skip (.line _) fun _ => ?_
  refine .step (d.performs_channel _ rfl) fun _ => .skip (.line _) fun _ => ?_
  -- the calibration and the test signal
  refine .skip (.note _) fun _ => .step (d.performs_channel _ rfl) fun _ => ?_
  exact .step (d.performs_channel _ rfl) fun _ => .pure _

end SmokeTest
end RadioBench
