/-
The script of a configuration that goes well.

Besides the order of its requests, the script fixes what becomes of the answers: each
value that was read back is the answer of one request of the script, and the lines show
these values.  The antenna is read twice, before one is chosen and after, and the two
answers need not agree.
-/
import RadioBench.Proofs.Host.Heeds
import RadioBench.Proofs.SmokeTest.Configure

namespace RadioBench

open Attempt

/-- Whether an event is an entry in the journal. -/
def Event.isNote : Event Host → Bool
  | ⟨.inr (.note _), _⟩ => true
  | _ => false

/-- The events without the entries in the journal. -/
def effects (es : List (Event Host)) : List (Event Host) := es.filter fun ev => !ev.isNote

@[simp]
theorem effects_nil : effects [] = [] := rfl

@[simp]
theorem effects_append (es es' : List (Event Host)) :
    effects (es ++ es') = effects es ++ effects es' := List.filter_append ..

@[simp]
theorem effects_note (e : Entry) (u : Unit) (es : List (Event Host)) :
    effects (⟨.inr (.note e), u⟩ :: es) = effects es := rfl

@[simp]
theorem effects_device (h : DeviceHandle) (c : DeviceCall) (a : c.Result)
    (es : List (Event Host)) :
    effects (.device h c a :: es) = .device h c a :: effects es := rfl

@[simp]
theorem effects_channel (h : DeviceHandle) (ch : ChannelId) (c : ChannelCall) (a : c.Result)
    (es : List (Event Host)) :
    effects (.channel h ch c a :: es) = .channel h ch c a :: effects es := rfl

@[simp]
theorem effects_wrote (text : String) (es : List (Event Host)) :
    effects (.wrote text :: es) = .wrote text :: effects es := rfl

namespace Device

variable {E : List (Event Host) → Prop}

theorem heeds_call (d : Device) {c : DeviceCall}
    (hc : (Request.device d.handle c).forgiven = false) :
    Heeds E (fun es a => es = [.device d.handle c a]) (d.call c) :=
  .outcome (fun _ _ h => yields_call_iff.mp h)
    (fun x => by simp [Event.fatal?, hc, Request.failure?]) fun _ => Host.not_exhausts_request

theorem heeds_channel (d : Device) (ch : ChannelId) {c : ChannelCall} (hc : c.refusal? = none) :
    Heeds E (fun es a => es = [.channel d.handle ch c a]) (d.channel ch c) := by
  simp only [channel, hc]
  exact .outcome (fun _ _ h => Host.yields_request_iff.mp h) (fun _ => rfl)
    fun _ => Host.not_exhausts_request

end Device

namespace SmokeTest

variable {E : List (Event Host) → Prop}

/-- The lines of a list of antennas. -/
def antennaLines (number : Nat) (names : List String) : List (Event Host) :=
  (names.zipIdx number).map fun (name, i) => .wrote (toString i ++ ": " ++ name)

@[simp]
theorem effects_antennaLines (number : Nat) (names : List String) :
    effects (antennaLines number names) = antennaLines number names := by
  refine List.filter_eq_self.mpr fun ev hev => ?_
  obtain ⟨⟨name, i⟩, -, rfl⟩ := List.mem_map.mp hev
  rfl

theorem heeds_listAntennas (number : Nat) (names : List String) :
    Heeds E (fun es _ => es = antennaLines number names) (listAntennas number names) := by
  induction names generalizing E number with
  | nil => exact .pure rfl
  | cons name rest ih =>
    refine (Heeds.line _).step fun _ => ?_
    exact (ih (number + 1)).mono (fun _ h => h) fun es _ hes => congrArg _ hes

/-- What happens in a configuration that goes well, entries in the journal aside, when the
values `a` are read back. -/
def configureScript (h : DeviceHandle) (s : Settings) (a : Applied) : List (Event Host) :=
  let ch := s.channel
  let dir := ch.direction
  [.channel h ch (.enable true) (),
   .channel h ch (.setLoFrequency s.loFrequency) (),
   .channel h ch .loFrequency a.loFrequency,
   .wrote ("\nCenter frequency: " ++ mega a.loFrequency ++ " MHz"),
   .channel h ch .antennaList a.antennas,
   .wrote "Available antennae:"] ++
  antennaLines 0 a.antennas ++
  [.channel h ch .antenna a.autoAntenna,
   .wrote ("Automatically selected antenna: " ++ toString a.autoAntenna ++ ": " ++
     antennaName a.antennas a.autoAntenna),
   .channel h ch (.setAntenna s.antenna.index) (),
   .channel h ch .antenna a.antenna,
   .wrote ("Manually selected antenna: " ++ toString a.antenna ++ ": " ++
     antennaName a.antennas a.antenna),
   .device h (.setSampleRate s.sampleRate s.oversample) (),
   .channel h ch .sampleRate a.sampleRate,
   .wrote ("Host interface sample rate: " ++ mega a.sampleRate.host ++
     " MHz\nRF ADC sample rate: " ++ mega a.sampleRate.rf ++ " MHz\n"),
   .device h (.lpfBwRange dir) a.lpfRange,
   .wrote (dir.text ++ " LPF bandwidth range: " ++ mega a.lpfRange.min ++ " - " ++
     mega a.lpfRange.max ++ " MHz\n"),
   .channel h ch (.setLpfBw s.lpfBandwidth) (),
   .channel h ch (.setNormalizedGain s.normalizedGain) (),
   .channel h ch .normalizedGain a.normalizedGain,
   .wrote ("Normalized " ++ dir.text ++ " Gain: " ++ Decimal.plain a.normalizedGain),
   .channel h ch .gainDb a.gainDb,
   .wrote (dir.text ++ " Gain: " ++ toString a.gainDb.toNat ++ " dB"),
   .channel h ch (.calibrate s.calibrationBandwidth 0) (),
   .channel h ch (.setTestSignal s.testSignal 0 0) ()]

theorem heeds_configure (d : Device) (s : Settings) :
    Heeds (fun _ => False) (fun es a => effects es = configureScript d.handle s a)
      (configure d s) := by
  unfold configure
  -- the channel and its frequency
  refine (Heeds.note _).step fun _ => (d.heeds_channel _ rfl).step fun _ => ?_
  refine (Heeds.note _).step fun _ => (d.heeds_channel _ rfl).step fun _ => ?_
  refine (d.heeds_channel _ rfl).step fun loFrequency => (Heeds.line _).step fun _ => ?_
  -- the antennas
  refine (d.heeds_channel _ rfl).step fun antennas => (Heeds.line _).step fun _ => ?_
  refine (heeds_listAntennas _ _).bind ?_
  rintro _ _ rfl
  refine (d.heeds_channel _ rfl).step fun autoAntenna => (Heeds.line _).step fun _ => ?_
  refine (d.heeds_channel _ rfl).step fun _ => ?_
  refine (d.heeds_channel _ rfl).step fun antenna => (Heeds.line _).step fun _ => ?_
  -- the sample rate
  refine (Heeds.note _).step fun _ => (d.heeds_call rfl).step fun _ => ?_
  refine (d.heeds_channel _ rfl).step fun sampleRate => (Heeds.line _).step fun _ => ?_
  -- the filter
  refine (d.heeds_call rfl).step fun lpfRange => (Heeds.line _).step fun _ => ?_
  refine .perhaps (.note _) fun es hes => ?_
  have hes : effects es = [] := by rcases hes with rfl | rfl <;> rfl
  refine (d.heeds_channel _ rfl).step fun _ => ?_
  -- the gain
  refine (d.heeds_channel _ rfl).step fun _ => ?_
  refine (d.heeds_channel _ rfl).step fun normalizedGain => (Heeds.line _).step fun _ => ?_
  refine (d.heeds_channel _ rfl).step fun gainDb => (Heeds.line _).step fun _ => ?_
  -- the calibration and the test signal
  refine (Heeds.note _).step fun _ => (d.heeds_channel _ rfl).step fun _ => ?_
  refine (d.heeds_channel _ rfl).step fun _ => .pure ?_
  simp only [effects_note, effects_channel, effects_device, effects_wrote, effects_append,
    effects_antennaLines 0 antennas, hes, effects_nil, List.nil_append]
  rfl

/-- What is read back from a device whose antennas, before the choice and after it, are
neither the same nor in its list. -/
def unevenApplied : Applied where
  loFrequency := 799e6
  antennas := ["NONE"]
  autoAntenna := 7
  antenna := 5
  sampleRate := ⟨21e6, 42e6⟩
  lpfRange := ⟨1e6, 9e6, 1⟩
  normalizedGain := 0.5
  gainDb := 40

/-- A configuration during which this is read back. -/
def unevenEvents (h : DeviceHandle) (warned : Bool) : List (Event Host) :=
  let ch : ChannelId := ⟨.rx, 0⟩
  let a := unevenApplied
  let note (text : String) : Event Host := ⟨.inr (.note (.debug text)), ()⟩
  [note ("enabling " ++ ch.text),
   .channel h ch (.enable true) (),
   note ("setting LO to " ++ Decimal.plain 800e6 ++ " Hz"),
   .channel h ch (.setLoFrequency 800e6) (),
   .channel h ch .loFrequency a.loFrequency,
   .wrote ("\nCenter frequency: " ++ mega a.loFrequency ++ " MHz"),
   .channel h ch .antennaList a.antennas,
   .wrote "Available antennae:",
   .wrote (toString 0 ++ ": " ++ "NONE"),
   .channel h ch .antenna a.autoAntenna,
   .wrote ("Automatically selected antenna: " ++ toString 7 ++ ": " ++ "?"),
   .channel h ch (.setAntenna 3) (),
   .channel h ch .antenna a.antenna,
   .wrote ("Manually selected antenna: " ++ toString 5 ++ ": " ++ "?"),
   note ("setting sample rate to " ++ Decimal.plain 21e6 ++ " Hz, oversample " ++ toString 2),
   .device h (.setSampleRate 21e6 2) (),
   .channel h ch .sampleRate a.sampleRate,
   .wrote ("Host interface sample rate: " ++ mega a.sampleRate.host ++
     " MHz\nRF ADC sample rate: " ++ mega a.sampleRate.rf ++ " MHz\n"),
   .device h (.lpfBwRange .rx) a.lpfRange,
   .wrote (ch.direction.text ++ " LPF bandwidth range: " ++ mega a.lpfRange.min ++ " - " ++
     mega a.lpfRange.max ++ " MHz\n")] ++
  (if warned then
    [⟨.inr (.note (.warn ("LPF bandwidth " ++ Decimal.plain 8e6 ++
      " Hz is outside the device range"))), ()⟩]
   else []) ++
  [.channel h ch (.setLpfBw 8e6) (),
   .channel h ch (.setNormalizedGain 0.7) (),
   .channel h ch .normalizedGain a.normalizedGain,
   .wrote ("Normalized " ++ ch.direction.text ++ " Gain: " ++ Decimal.plain a.normalizedGain),
   .channel h ch .gainDb a.gainDb,
   .wrote (ch.direction.text ++ " Gain: " ++ toString 40 ++ " dB"),
   note ("calibrating for " ++ Decimal.plain 8e6 ++ " Hz"),
   .channel h ch (.calibrate 8e6 0) (),
   .channel h ch (.setTestSignal .ncoDiv8 0 0) ()]

theorem yields_uneven (d : Device) : ∃ warned, (configure d (.standard ⟨[]⟩)).run.Yields
    (unevenEvents d.handle warned) (.ok unevenApplied) := by
  -- a comparison of floating numbers does not compute in the logic, so both ways are shown
  by_cases hc : (!unevenApplied.lpfRange.contains (Settings.standard ⟨[]⟩).lpfBandwidth) = true
  · refine ⟨true, .ask _ (.ask _ (.ask _ (.ask _ (.ask _ (.ask _ (.ask _ (.ask _ (.ask _ (.ask _
      (.ask _ (.ask _ (.ask _ (.ask _ (.ask _ (.ask _ (.ask _ (.ask _ (.ask _ (.ask _
        ?_)))))))))))))))))))⟩
    simp only [hc, if_true]
    exact .ask _ (.ask _ (.ask _ (.ask _ (.ask _ (.ask _ (.ask _ (.ask _ (.ask _ (.ask _
      (.done _))))))))))
  · refine ⟨false, .ask _ (.ask _ (.ask _ (.ask _ (.ask _ (.ask _ (.ask _ (.ask _ (.ask _ (.ask _
      (.ask _ (.ask _ (.ask _ (.ask _ (.ask _ (.ask _ (.ask _ (.ask _ (.ask _ (.ask _
        ?_)))))))))))))))))))⟩
    simp only [hc]
    exact .ask _ (.ask _ (.ask _ (.ask _ (.ask _ (.ask _ (.ask _ (.ask _ (.ask _
      (.done _)))))))))

end SmokeTest
end RadioBench
