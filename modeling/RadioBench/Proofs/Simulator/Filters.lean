/-
The filters of simulated channels.

A channel has three filters of different lengths.  A load may be shorter than its filter, and a
read fills it up with zeros, so it gives as many values as the filter takes and none of an older
load.  A load that is too long is refused, first by the channel, which does not ask the driver,
and then by the driver.

`written` says what was loaded last.  That no call gets at another filter follows from `Touches`,
which lists what can change a setting.
-/
import RadioBench.Proofs.Simulator.LastWrite
import RadioBench.Proofs.Simulator.Representation

namespace RadioBench
namespace Simulator

open Step

variable {s t : State} {e : Deed} {d : DeviceHandle} {ch : ChannelId} {filter : Gfir}

/-- As many coefficients as the filter takes: those that were loaded, and zeros. -/
def padded (filter : Gfir) (loaded : List Float) : List Float :=
  loaded ++ List.replicate (filter.coeffCount - loaded.length) 0

theorem length_padded {loaded : List Float} (h : loaded.length ≤ filter.coeffCount) :
    (padded filter loaded).length = filter.coeffCount := by
  rw [padded, List.length_append, List.length_replicate]
  omega

namespace Deed

/-- The filter is loaded. -/
def Loads (d : DeviceHandle) (ch : ChannelId) (filter : Gfir) (e : Deed) : Prop :=
  ∃ values, e = .served (.channel d ch (.setGfirCoeff filter values)) (.ok () : Except Error Unit)

/-- The filter is turned on or off. -/
def Switches (d : DeviceHandle) (ch : ChannelId) (filter : Gfir) (e : Deed) : Prop :=
  ∃ on, e = .served (.channel d ch (.setGfir filter on)) (.ok () : Except Error Unit)

/-- Everything that is set on the device is taken back. -/
def Clears (d : DeviceHandle) (e : Deed) : Prop :=
  e = .served (.device d .reset) (.ok () : Except Error Unit) ∨
    e = .served (.closeDevice d) (.ok () : Except Error Unit)

end Deed

/-! ## What changes a filter -/

theorem eq_of_sets?_coefficients {c : ChannelCall} {values : List Float}
    (h : sets? c (.coefficients filter) = some values) : c = .setGfirCoeff filter values := by
  cases c with
  | setGfirCoeff g values' =>
    obtain ⟨rfl, hvalues⟩ := Option.ite_none_right_eq_some.mp h
    rw [Option.some.inj hvalues]
  | _ => cases h

theorem eq_of_sets?_filterOn {c : ChannelCall} {on : Bool}
    (h : sets? c (.filterOn filter) = some on) : c = .setGfir filter on := by
  cases c with
  | setGfir g on' =>
    obtain ⟨rfl, hon⟩ := Option.ite_none_right_eq_some.mp h
    rw [Option.some.inj hon]
  | _ => cases h

/-- A setting stays as it is, unless a call gives it a value, or everything on its device is taken
back. -/
theorem read_of_does (h : Does e s t) {k : Setting}
    (hset : ∀ c value, sets? c k = some value → ∀ v : c.Result,
      e ≠ .served (.channel d ch c) (.ok v : Except Error c.Result))
    (hclears : ¬ e.Clears d) :
    k.read (t.channelState d ch) = k.read (s.channelState d ch) := by
  refine Classical.byContradiction fun hne => ?_
  cases touches_of_effect (effect_of_does h) hne with
  | set hvalue => exact hset _ _ hvalue _ rfl
  | reset => exact hclears (.inl rfl)
  | close => exact hclears (.inr rfl)

theorem coefficients_of_does (h : Does e s t) (hloads : ¬ e.Loads d ch filter)
    (hclears : ¬ e.Clears d) :
    (t.channelState d ch).coefficients filter = (s.channelState d ch).coefficients filter := by
  refine read_of_does h (k := .coefficients filter) (fun c values hvalues v heq => ?_) hclears
  obtain rfl := eq_of_sets?_coefficients hvalues
  exact hloads ⟨values, heq⟩

theorem filterOn_of_does (h : Does e s t) (hswitches : ¬ e.Switches d ch filter)
    (hclears : ¬ e.Clears d) :
    (t.channelState d ch).filterOn filter = (s.channelState d ch).filterOn filter := by
  refine read_of_does h (k := .filterOn filter) (fun c on hon v heq => ?_) hclears
  obtain rfl := eq_of_sets?_filterOn hon
  exact hswitches ⟨on, heq⟩

/-! ## Loads that are too long -/

/-- An armed name comes first, then the handle, and then what is wrong with the argument. -/
theorem answer_of_guarded {α : Type} {r : Except Error α} {name : String} {p : Prop} [Decidable p]
    {err : Error} {value : α} {f : ChannelState → ChannelState} (hp : p)
    (h : onChannel name d ch (fun x => if p then (.error err, x) else (.ok value, f x)) s =
      (r, t)) :
    r = .error (if name ∈ s.armed then .failed name (name ++ " rejected by device")
      else if d ∈ s.devices then err else .invalidHandle) := by
  rw [onChannel, onDevice] at h
  by_cases harmed : name ∈ s.armed
  · rw [attempt_of_armed harmed] at h
    cases h
    rw [if_pos harmed]
  · rw [attempt_of_not_armed harmed] at h
    rw [if_neg harmed]
    by_cases hopen : d ∈ s.devices
    · have hrecorded : d ∈ (s.recorded name).devices := hopen
      simp only [if_pos hrecorded, if_pos hp] at h
      cases h
      rw [if_pos hopen]
    · have hrecorded : d ∉ (s.recorded name).devices := hopen
      rw [if_neg hrecorded] at h
      cases h
      rw [if_neg hopen]

theorem refused_of_overlong {values : List Float} {a : Except Error Unit}
    (hlong : filter.coeffCount < values.length)
    (h : channelCall d ch (.setGfirCoeff filter values) s = (a, t)) :
    a = .error (if "set_gfir_coeff" ∈ s.armed then
        .failed "set_gfir_coeff" "set_gfir_coeff rejected by device"
      else if d ∈ s.devices then .failed "set_gfir_coeff" "too many coefficients"
      else .invalidHandle) ∧
    ∀ d' ch', t.channelState d' ch' = s.channelState d' ch' := by
  dsimp only [channelCall] at h
  have ha := answer_of_guarded hlong h
  rcases onChannel_guarded_inv h with ⟨-, -, ht⟩ | ⟨hshort, -⟩
  · exact ⟨ha, ht.channelState⟩
  · exact absurd hlong hshort

/-! ## Sessions -/

/-- What the filters of all channels do after some deeds. -/
structure Filtering (deeds : List Deed) (s : State) : Prop where
  reads : ∀ d ch filter v t,
    Does (.served (.channel d ch (.gfirCoeff filter)) (.ok v : Except Error (List Float))) s t →
      v = padded filter (written (.coefficients filter) d ch deeds) ∧
        v.length = filter.coeffCount
  /-- A read is answered, unless it was made to fail. -/
  answers : ∀ d ch filter, d ∈ s.devices → "gfir_coeff" ∉ s.armed → ∃ v t,
    Does (.served (.channel d ch (.gfirCoeff filter)) (.ok v : Except Error (List Float))) s t
  /-- A load that fits is accepted, unless it was made to fail. -/
  loads : ∀ d ch filter values, d ∈ s.devices → "set_gfir_coeff" ∉ s.armed →
    values.length ≤ filter.coeffCount → ∃ t,
      Does (.served (.channel d ch (.setGfirCoeff filter values)) (.ok () : Except Error Unit)) s t
  refuses : ∀ d ch filter values a t, filter.coeffCount < values.length →
    Does (.served (.channel d ch (.setGfirCoeff filter values)) (a : Except Error Unit)) s t →
      a = .error (if "set_gfir_coeff" ∈ s.armed then
          .failed "set_gfir_coeff" "set_gfir_coeff rejected by device"
        else if d ∈ s.devices then .failed "set_gfir_coeff" "too many coefficients"
        else .invalidHandle) ∧
      ∀ d' ch', t.channelState d' ch' = s.channelState d' ch'
  coefficients : ∀ e t, Does e s t → ∀ d ch filter, ¬ e.Loads d ch filter → ¬ e.Clears d →
    (t.channelState d ch).coefficients filter = (s.channelState d ch).coefficients filter
  switches : ∀ e t, Does e s t → ∀ d ch filter, ¬ e.Switches d ch filter → ¬ e.Clears d →
    (t.channelState d ch).filterOn filter = (s.channelState d ch).filterOn filter

theorem coefficients_of_session {listed : List String} {deeds : List Deed}
    (h : Session listed deeds s) {v : List Float}
    (hread : channelCall d ch (.gfirCoeff filter) s = (.ok v, t)) :
    v = padded filter (written (.coefficients filter) d ch deeds) ∧
      v.length = filter.coeffCount := by
  dsimp only [channelCall] at hread
  rcases onDevice_inv hread with ⟨e, he, -⟩ | ⟨hopen, hread⟩
  · cases he
  · cases hread
    have hloaded : (s.channelState d ch).coefficients filter =
        written (.coefficients filter) d ch deeds :=
      read_of_session h (.coefficients filter) ch hopen
    have hranged : Ranged s := (session_inOrder h).settings
    rw [← hloaded]
    exact ⟨rfl, length_padded ((hranged.channelState d ch).coefficients filter)⟩

/-- Filters keep what was loaded last, after any deeds, and no call on one gets at another.  A
channel asks the driver for a load just when it fits. -/
theorem session_filtering {listed : List String} {deeds : List Deed} (h : Session listed deeds s) :
    Filtering deeds s ∧
      ∀ (device : Device) (ch : ChannelId) (filter : Gfir) (values : List Float),
        device.channel ch (.setGfirCoeff filter values) =
          if filter.coeffCount < values.length then
            throw (.invalidArgument "too many GFIR coefficients")
          else .of (Host.request (.channel device.handle ch (.setGfirCoeff filter values))) := by
  have hfiltering : Filtering deeds s := {
    reads := fun d ch filter v t hread => coefficients_of_session h hread
    answers := fun d ch filter hopen harmed => by
      obtain ⟨v, t, hread, -⟩ := channelCall_succeeds ch (.gfirCoeff filter) hopen harmed trivial
      exact ⟨v, t, hread⟩
    loads := fun d ch filter values hopen harmed hlength => by
      obtain ⟨_, t, hload, -⟩ :=
        channelCall_succeeds ch (.setGfirCoeff filter values) hopen harmed hlength
      exact ⟨t, hload⟩
    refuses := fun d ch filter values a t hlong hload => refused_of_overlong hlong hload
    coefficients := fun e t he d ch filter hloads hclears =>
      coefficients_of_does he hloads hclears
    switches := fun e t he d ch filter hswitches hclears =>
      filterOn_of_does he hswitches hclears }
  refine ⟨hfiltering, fun device ch filter values => ?_⟩
  by_cases hlong : filter.coeffCount < values.length
  · simp only [Device.channel, ChannelCall.refusal?, if_pos hlong]
  · simp only [Device.channel, ChannelCall.refusal?, if_neg hlong]

/-- A long filter is loaded and then loaded again with less, another one is turned on and refuses
a load, and a load of a third one is lost with a reset of its device. -/
def loadings : List Deed :=
  [.served (.openDevice "sim") (.ok ⟨0⟩ : Except Error DeviceHandle),
    .served (.openDevice "sim") (.ok ⟨1⟩ : Except Error DeviceHandle),
    .served (.channel ⟨0⟩ ⟨.rx, 0⟩ (.setGfirCoeff .gfir3 [1, 2, 3])) (.ok () : Except Error Unit),
    .served (.channel ⟨0⟩ ⟨.rx, 0⟩ (.setGfirCoeff .gfir3 [4])) (.ok () : Except Error Unit),
    .served (.channel ⟨0⟩ ⟨.rx, 0⟩ (.setGfirCoeff .gfir1 [5, 6])) (.ok () : Except Error Unit),
    .served (.channel ⟨0⟩ ⟨.rx, 0⟩ (.setGfir .gfir1 true)) (.ok () : Except Error Unit),
    .served (.channel ⟨0⟩ ⟨.rx, 0⟩ (.setGfirCoeff .gfir1 (List.replicate 41 7)))
      (.error (.failed "set_gfir_coeff" "too many coefficients") : Except Error Unit),
    .served (.channel ⟨1⟩ ⟨.rx, 0⟩ (.setGfirCoeff .gfir3 [8])) (.ok () : Except Error Unit),
    .served (.device ⟨1⟩ .reset) (.ok () : Except Error Unit)]

theorem loadings_filtering :
    ∃ s, Session ["sim"] loadings s ∧
      (∃ v t, Does (.served (.channel ⟨0⟩ ⟨.rx, 0⟩ (.gfirCoeff .gfir3))
        (.ok v : Except Error (List Float))) s t ∧ v = 4 :: List.replicate 119 0) ∧
      (∃ v t, Does (.served (.channel ⟨0⟩ ⟨.rx, 0⟩ (.gfirCoeff .gfir1))
        (.ok v : Except Error (List Float))) s t ∧ v = 5 :: 6 :: List.replicate 38 0) ∧
      (∃ v t, Does (.served (.channel ⟨1⟩ ⟨.rx, 0⟩ (.gfirCoeff .gfir3))
        (.ok v : Except Error (List Float))) s t ∧ v = List.replicate 120 0) ∧
      (s.channelState ⟨0⟩ ⟨.rx, 0⟩).filterOn .gfir1 = true := by
  have hpath : Session ["sim"] loadings _ :=
    .cons rfl <| .cons rfl <| .cons rfl <| .cons rfl <| .cons rfl <| .cons rfl <| .cons rfl <|
      .cons rfl <| .cons rfl <| .nil _
  obtain ⟨hfilters, -⟩ := session_filtering hpath
  refine ⟨_, hpath, ?_, ?_, ?_, rfl⟩
  · exact ⟨_, _, rfl, (hfilters.reads ⟨0⟩ ⟨.rx, 0⟩ .gfir3 _ _ rfl).1⟩
  · exact ⟨_, _, rfl, (hfilters.reads ⟨0⟩ ⟨.rx, 0⟩ .gfir1 _ _ rfl).1⟩
  · exact ⟨_, _, rfl, (hfilters.reads ⟨1⟩ ⟨.rx, 0⟩ .gfir3 _ _ rfl).1⟩

end Simulator
end RadioBench
