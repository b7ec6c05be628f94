/-
How the driver's methods on a device use the library.

A method with an argument that the library cannot take is refused, then one with a handle that
is not live.  Neither refusal asks the library anything.  Every other method is one call of one
function of the library, save that a list of antennas is asked for twice.

The two tables `CarriedBy` name the function for every method, the arguments that it gets, the
return codes that mean success, and what the client is given.  Where the library has a number for
an argument or a result, it is the number of the library's own tables.  That the driver keeps to
all these tables is shown row by row, each by `faithful_withDevice` and what `Asked` says of a
single call.  `session_faithful` is about the devices that a client holds after any session.
-/
import Mathlib.Data.List.GetD
import RadioBench.Proofs.Native.Ties
import RadioBench.Proofs.Native.Names
import RadioBench.Proofs.Native.Numbers

namespace RadioBench

open Native Prog Text

/-! ## What a method asks of the library -/

/-- The library can be given the path: a text without a zero byte has these bytes. -/
def PathName.Usable (p : PathName) : Prop := 0 ∉ p.bytes ∧ ∃ text, Utf8.encode text = p.bytes

namespace DeviceCall

/-- The call is refused with the error, whatever its handle. -/
inductive Unfit : DeviceCall → Error → Prop
  | loadConfig {p : PathName} (hp : ¬ p.Usable) : Unfit (.loadConfig p) .invalidString
  | saveConfig {p : PathName} (hp : ¬ p.Usable) : Unfit (.saveConfig p) .invalidString

/-- The function that carries a call out, with its arguments, the codes that mean success, and
what is given to the client. -/
inductive CarriedBy :
    (c : DeviceCall) → (f : DeviceFunction) → (Int → Prop) → (Reply f.Out → c.Result) → Prop
  | init : CarriedBy .init .init (· = 0) fun _ => ()
  | reset : CarriedBy .reset .reset (· = 0) fun _ => ()
  | numChannels {dir : Direction} {isTx : Bool} (hflag : dir.Flagged isTx) :
      CarriedBy (.numChannels dir) (.getNumChannels isTx) (0 ≤ ·) fun a => a.code.toNat
  | loadConfig {p : PathName} {text : String} (htext : Utf8.encode text = p.bytes) :
      CarriedBy (.loadConfig p) (.loadConfig text) (· = 0) fun _ => ()
  | saveConfig {p : PathName} {text : String} (htext : Utf8.encode text = p.bytes) :
      CarriedBy (.saveConfig p) (.saveConfig text) (· = 0) fun _ => ()
  | setSampleRate {rate : Float} {oversample : Nat} :
      CarriedBy (.setSampleRate rate oversample) (.setSampleRate rate oversample) (· = 0)
        fun _ => ()
  | setSampleRateDir {dir : Direction} {isTx : Bool} {rate : Float} {oversample : Nat}
      (hflag : dir.Flagged isTx) :
      CarriedBy (.setSampleRateDir dir rate oversample) (.setSampleRateDir isTx rate oversample)
        (· = 0) fun _ => ()
  | lpfBwRange {dir : Direction} {isTx : Bool} (hflag : dir.Flagged isTx) :
      CarriedBy (.lpfBwRange dir) (.getLpfBwRange isTx) (· = 0)
        fun ⟨_, (min, max, step), _⟩ => (⟨min.getD 0, max.getD 0, step.getD 0⟩ : Range)
  | vctcxoWrite {value : UInt16} :
      CarriedBy (.vctcxoWrite value) (.vctcxoWrite value) (· = 0) fun _ => ()
  | vctcxoRead : CarriedBy .vctcxoRead .vctcxoRead (· = 0)
      fun ⟨_, (value : Option UInt16), _⟩ => (value.getD 0 : UInt16)

/-- The call is carried out on the device. -/
inductive Carried (d : DeviceRef) :
    (c : DeviceCall) → List (Event Machine) → Except Error c.Result → Prop
  | called {c : DeviceCall} {f : DeviceFunction} {good : Int → Prop}
      {value : Reply f.Out → c.Result} {ms : List (Event Machine)} {x : Except Error c.Result}
      (hrow : c.CarriedBy f good value)
      (h : Asked c.name (Call.event (.device d f)) good value ms x) : Carried d c ms x

end DeviceCall

namespace ChannelCall

/-- The call is refused with the error, whatever its handle. -/
inductive Unfit : ChannelCall → Error → Prop
  | setNcoIndex {index : Nat} {downconvert : Bool} (hindex : 16 ≤ index) :
      Unfit (.setNcoIndex index downconvert) (.invalidArgument "NCO index out of range")

/-- The function that carries a call out, with its arguments, the codes that mean success, and
what is given to the client. -/
inductive CarriedBy :
    (c : ChannelCall) → (f : ChannelFunction) → (Int → Prop) → (Reply f.Out → c.Result) → Prop
  | enable {on : Bool} : CarriedBy (.enable on) (.enable on) (· = 0) fun _ => ()
  | sampleRate : CarriedBy .sampleRate .getSampleRate (· = 0)
      fun ⟨_, (host, rf), _⟩ => (⟨host.getD 0, rf.getD 0⟩ : SampleRate)
  | setLoFrequency {frequency : Float} :
      CarriedBy (.setLoFrequency frequency) (.setLoFrequency frequency) (· = 0) fun _ => ()
  | loFrequency : CarriedBy .loFrequency .getLoFrequency (· = 0)
      fun ⟨_, (frequency : Option Float), _⟩ => (frequency.getD 0 : Float)
  | setAntenna {index : Nat} :
      CarriedBy (.setAntenna index) (.setAntenna index) (· = 0) fun _ => ()
  | antenna : CarriedBy .antenna .getAntenna (0 ≤ ·) fun a => a.code.toNat
  | setLpfBw {bandwidth : Float} :
      CarriedBy (.setLpfBw bandwidth) (.setLpfBw bandwidth) (· = 0) fun _ => ()
  | lpfBw : CarriedBy .lpfBw .getLpfBw (· = 0)
      fun ⟨_, (bandwidth : Option Float), _⟩ => (bandwidth.getD 0 : Float)
  | setLpf {on : Bool} : CarriedBy (.setLpf on) (.setLpf on) (· = 0) fun _ => ()
  | setGfirLpf {on : Bool} {bandwidth : Float} :
      CarriedBy (.setGfirLpf on bandwidth) (.setGfirLpf on bandwidth) (· = 0) fun _ => ()
  | setNormalizedGain {gain : Float} :
      CarriedBy (.setNormalizedGain gain) (.setNormalizedGain gain) (· = 0) fun _ => ()
  | normalizedGain : CarriedBy .normalizedGain .getNormalizedGain (· = 0)
      fun ⟨_, (gain : Option Float), _⟩ => (gain.getD 0 : Float)
  | setGainDb {gain : UInt32} :
      CarriedBy (.setGainDb gain) (.setGainDb gain) (· = 0) fun _ => ()
  | gainDb : CarriedBy .gainDb .getGainDb (· = 0)
      fun ⟨_, (gain : Option UInt32), _⟩ => (gain.getD 0 : UInt32)
  | calibrate {bandwidth : Float} {flags : UInt32} :
      CarriedBy (.calibrate bandwidth flags) (.calibrate bandwidth flags) (· = 0) fun _ => ()
  | setTestSignal {signal : TestSignal} {number : UInt32} {dcI dcQ : Int16}
      (hnumber : signal.Numbered number) :
      CarriedBy (.setTestSignal signal dcI dcQ) (.setTestSignal number dcI dcQ) (· = 0)
        fun _ => ()
  | testSignal {signalOf : UInt32 → TestSignal}
      (hread : ∀ number, TestSignal.ReadAs number (signalOf number)) :
      CarriedBy .testSignal .getTestSignal (· = 0)
        fun ⟨_, (number : Option UInt32), _⟩ => signalOf (number.getD 0)
  | setNcoFrequency {table : NcoFrequencies} :
      CarriedBy (.setNcoFrequency table) (.setNcoFrequency table.frequencies table.phaseOffset)
        (· = 0) fun _ => ()
  | ncoFrequency : CarriedBy .ncoFrequency .getNcoFrequency (· = 0)
      fun ⟨_, (new, offset), _⟩ =>
        (⟨Vector.ofFn fun i => new.getD i 0, offset.getD 0⟩ : NcoFrequencies)
  | setNcoPhase {table : NcoPhases} :
      CarriedBy (.setNcoPhase table) (.setNcoPhase table.phases table.frequency) (· = 0)
        fun _ => ()
  | ncoPhase : CarriedBy .ncoPhase .getNcoPhase (· = 0)
      fun ⟨_, (new, frequency), _⟩ =>
        (⟨Vector.ofFn fun i => new.getD i 0, frequency.getD 0⟩ : NcoPhases)
  | setNcoIndex {index : Nat} {downconvert : Bool} :
      CarriedBy (.setNcoIndex index downconvert) (.setNcoIndex index downconvert) (· = 0)
        fun _ => ()
  | ncoIndex : CarriedBy .ncoIndex .getNcoIndex (0 ≤ ·) fun a => a.code.toNat
  | setGfirCoeff {filter : Gfir} {number : UInt32} {values : List Float}
      (hnumber : filter.Numbered number) :
      CarriedBy (.setGfirCoeff filter values) (.setGfirCoeff number values) (· = 0) fun _ => ()
  /-- The library stores into zeros, enough for the longest filter. -/
  | gfirCoeff {filter : Gfir} {number : UInt32} {count : Nat}
      (hnumber : filter.Numbered number) (hcount : filter.Takes count) :
      CarriedBy (.gfirCoeff filter) (.getGfirCoeff number) (· = 0) fun ⟨_, (new : List Float), _⟩ =>
        (new ++ List.replicate (120 - new.length) 0).take count
  | setGfir {filter : Gfir} {number : UInt32} {on : Bool} (hnumber : filter.Numbered number) :
      CarriedBy (.setGfir filter on) (.setGfir number on) (· = 0) fun _ => ()

/-- The call is carried out on a channel of the device. -/
inductive Carried (d : DeviceRef) (ch : ChannelId) :
    (c : ChannelCall) → List (Event Machine) → Except Error c.Result → Prop
  | called {c : ChannelCall} {f : ChannelFunction} {isTx : Bool} {good : Int → Prop}
      {value : Reply f.Out → c.Result} {ms : List (Event Machine)} {x : Except Error c.Result}
      (hflag : ch.direction.Flagged isTx) (hrow : c.CarriedBy f good value)
      (h : Asked c.name (Call.event (.channel d isTx ch.index f)) good value ms x) :
      Carried d ch c ms x
  | listed {isTx : Bool} {ms : List (Event Machine)} {x : Except Error (List String)}
      (hflag : ch.direction.Flagged isTx) (h : (NameList.antennas d isTx ch.index).Listed ms x) :
      Carried d ch .antennaList ms x

/-- A call of one function is made with the flag of the channel's direction. -/
theorem Carried.of_row {d : DeviceRef} {ch : ChannelId} {c : ChannelCall} {f : ChannelFunction}
    {good : Int → Prop} {value : Reply f.Out → c.Result} {ms : List (Event Machine)}
    {x : Except Error c.Result} (hrow : c.CarriedBy f good value)
    (h : Asked c.name (Call.event (.channel d ch.direction.isTx ch.index f)) good value ms x) :
    Carried d ch c ms x :=
  .called ch.direction.flagged_isTx hrow h

end ChannelCall

namespace Native

/-- How a method on a device is served: what is wrong with its arguments comes first, then its
handle, and only then the library. -/
inductive Faithful {α : Type} (live : DeviceRef → Prop) (unfit : Error → Prop)
    (carried : DeviceRef → List (Event Machine) → Except Error α → Prop) :
    List (Event Machine) → Except Error α → Prop
  | unfit {e : Error} (he : unfit e) : Faithful live unfit carried [] (.error e)
  | dead (hfit : ∀ e, ¬ unfit e) (hdead : ∀ d, ¬ live d) :
      Faithful live unfit carried [] (.error .invalidHandle)
  | carried {d : DeviceRef} {ms : List (Event Machine)} {x : Except Error α}
      (hfit : ∀ e, ¬ unfit e) (hlive : live d) (h : carried d ms x) :
      Faithful live unfit carried ms x

/-- The client holds the device by the handle. -/
def HeldBy (session : List Service) (handle : DeviceHandle) (d : DeviceRef) : Prop :=
  (handle.index, d) ∈ devicesHeld session

/-! ## Outputs -/

theorem stored_zeros (new : List Float) :
    stored .zeros new = Vector.ofFn fun i : Fin ncoTableSize => new.getD i 0 := by
  have hzeros (i : Fin ncoTableSize) : NcoTable.zeros.get i = 0 := by
    simp [NcoTable.zeros, Vector.get]
  simp only [stored, hzeros]

theorem coefficientsOf_eq {count room : Nat} (hcount : count ≤ room) (new : List Float) :
    coefficientsOf count new = (new ++ List.replicate (room - new.length) 0).take count := by
  have hlength : (new ++ List.replicate (room - new.length) 0).length ≥ count := by
    simp only [List.length_append, List.length_replicate]
    omega
  refine List.ext_getElem (by simp [coefficientsOf]; omega) fun i hi hi' => ?_
  simp only [coefficientsOf, List.getElem_map, List.getElem_range, List.getElem_take]
  by_cases hnew : i < new.length
  · rw [List.getElem_append_left hnew, List.getD_eq_getElem _ _ hnew]
  · rw [List.getElem_append_right (by omega), List.getElem_replicate,
      List.getD_eq_default _ _ (by omega)]

namespace Binding

variable {α β : Type} {b b' : Binding} {handle : DeviceHandle} {ch : ChannelId}
  {ms : List (Event Machine)} {live : DeviceRef → Prop} {unfit : Error → Prop}
  {carried : DeviceRef → List (Event Machine) → Except Error α → Prop}

/-- What is made of the reply to a single call. -/
theorem asked_bind {operation : String} {c : Call} {good : Int → Prop} {raw : Reply c.Out → β}
    {value : Reply c.Out → α} {p : Action β} {g : β → Action α} {x : Except Error α}
    (hp : ∀ {ms y}, p.run.Yields ms y → Asked operation c.event good raw ms y)
    (h : (p >>= g).run.Yields ms x) (hg : ∀ a, g (raw a) = pure (value a)) :
    Asked operation c.event good value ms x := by
  rcases yields_run_bind_iff.mp h with ⟨y, ms₁, ms₂, rfl, h₁, h₂⟩ | ⟨e, rfl, h₁⟩
  · cases hp h₁ with
    | succeeded a hcode hnotes =>
      rw [hg] at h₂
      obtain ⟨rfl, rfl⟩ := yields_run_pure_iff.mp h₂
      rw [List.append_nil]
      exact .succeeded a hcode hnotes
  · cases hp h₁ with
    | failed a last hcode hnotes hnotes' => exact .failed a last hcode hnotes hnotes'

/-! ## Every method keeps to its table -/

/-- The driver has the device under the handle. -/
def Live (b : Binding) (handle : DeviceHandle) (d : DeviceRef) : Prop :=
  b.devices.get? handle.index = some d

theorem faithful_withDevice {f : DeviceRef → Action α} {x : Except Error α}
    (hfit : ∀ e, ¬ unfit e) (h : (b.device handle >>= f).run.Yields ms x)
    (hf : ∀ d, (f d).run.Yields ms x → carried d ms x) :
    Faithful (b.Live handle) unfit carried ms x := by
  rw [device] at h
  cases hd : b.devices.get? handle.index with
  | none =>
    rw [hd] at h
    obtain ⟨rfl, rfl⟩ := yields_done_iff.mp h
    exact .dead hfit fun d hlive => by simp [Live, hd] at hlive
  | some d =>
    rw [hd] at h
    exact .carried hfit hd (hf d h)

theorem faithful_onChannel_bind {operation : String} {f : ChannelFunction}
    {g : f.Out → Action α} {x : Except Error α} (hfit : ∀ e, ¬ unfit e)
    (h : (b.onChannel operation handle ch f >>= g).run.Yields ms x)
    (hf : ∀ d, (b.succeed operation (.channel d ch.direction.isTx ch.index f) >>= g).run.Yields
      ms x → carried d ms x) :
    Faithful (b.Live handle) unfit carried ms x := by
  have hassoc : b.onChannel operation handle ch f >>= g = b.device handle >>= fun d =>
      (b.succeed operation (.channel d ch.direction.isTx ch.index f) : Action f.Out) >>= g :=
    bind_assoc (b.device handle)
      (fun d => (b.succeed operation (.channel d ch.direction.isTx ch.index f) : Action f.Out)) g
  rw [hassoc] at h
  exact faithful_withDevice hfit h hf

theorem path_cases (p : PathName) :
    (∃ text, path p = pure text ∧ Utf8.encode text = p.bytes ∧ p.Usable) ∨
      (path p = throw .invalidString ∧ ¬ p.Usable) := by
  rw [path, pathText?]
  by_cases hzero : 0 ∈ p.bytes
  · rw [if_pos hzero]
    exact .inr ⟨rfl, fun husable => husable.1 hzero⟩
  · rw [if_neg hzero]
    cases htext : Utf8.strict? p.bytes with
    | none =>
      refine .inr ⟨rfl, fun husable => ?_⟩
      obtain ⟨text, hencode⟩ := husable.2
      exact Utf8.strict?_eq_none_iff.mp htext text hencode
    | some text =>
      have hencode := Utf8.strict?_eq_some_iff.mp htext
      exact .inl ⟨text, rfl, hencode, hzero, text, hencode⟩

theorem faithful_withPath {p : PathName} {f : String → DeviceRef → Action α} {x : Except Error α}
    (hunfit : ∀ e, unfit e ↔ ¬ p.Usable ∧ e = .invalidString)
    (h : (path p >>= fun text => b.device handle >>= f text).run.Yields ms x)
    (hf : ∀ text d, Utf8.encode text = p.bytes → (f text d).run.Yields ms x → carried d ms x) :
    Faithful (b.Live handle) unfit carried ms x := by
  rcases path_cases p with ⟨text, hpath, htext, husable⟩ | ⟨hpath, husable⟩
  · rw [hpath, pure_bind] at h
    exact faithful_withDevice (fun e he => ((hunfit e).mp he).1 husable) h fun d => hf text d htext
  · rw [hpath] at h
    obtain ⟨rfl, rfl⟩ := yields_done_iff.mp h
    exact .unfit ((hunfit _).mpr ⟨husable, rfl⟩)

theorem faithful_closeDevice {x : Except Error Unit}
    (h : (b.closeDevice handle).Yields ms (x, b')) :
    Faithful (b.Live handle) (fun _ => False)
      (fun d => Asked "close" (Call.event (.closeDevice d)) (· = 0) fun _ => ()) ms x := by
  rw [closeDevice] at h
  cases hd : b.devices.get? handle.index with
  | none =>
    rw [hd] at h
    obtain ⟨rfl, rfl, -⟩ := yields_pair_iff.mp h
    exact .dead (fun _ => id) fun d hlive => by simp [Live, hd] at hlive
  | some d =>
    rw [hd] at h
    obtain ⟨hclose, -⟩ := of_yields_keep h
    exact .carried (fun _ => id) hd (asked_succeed hclose)

theorem faithful_deviceCall {c : DeviceCall} {x : Except Error c.Result}
    (h : (b.deviceCall handle c).run.Yields ms x) :
    Faithful (b.Live handle) c.Unfit (DeviceCall.Carried · c) ms x := by
  cases c with
  | init => exact faithful_withDevice nofun h fun d h => .called .init (asked_succeed h)
  | reset => exact faithful_withDevice nofun h fun d h => .called .reset (asked_succeed h)
  | numChannels dir =>
    exact faithful_withDevice nofun h fun d h =>
      .called (.numChannels dir.flagged_isTx) (asked_bind asked_counting h fun _ => rfl)
  | loadConfig p =>
    have hunfit (e : Error) : (DeviceCall.loadConfig p).Unfit e ↔ ¬ p.Usable ∧ e = .invalidString :=
      ⟨fun | .loadConfig hp => ⟨hp, rfl⟩, fun ⟨hp, he⟩ => he ▸ .loadConfig hp⟩
    exact faithful_withPath hunfit h fun text d htext h =>
      .called (.loadConfig htext) (asked_succeed h)
  | saveConfig p =>
    have hunfit (e : Error) : (DeviceCall.saveConfig p).Unfit e ↔ ¬ p.Usable ∧ e = .invalidString :=
      ⟨fun | .saveConfig hp => ⟨hp, rfl⟩, fun ⟨hp, he⟩ => he ▸ .saveConfig hp⟩
    exact faithful_withPath hunfit h fun text d htext h =>
      .called (.saveConfig htext) (asked_succeed h)
  | setSampleRate rate oversample =>
    exact faithful_withDevice nofun h fun d h => .called .setSampleRate (asked_succeed h)
  | setSampleRateDir dir rate oversample =>
    exact faithful_withDevice nofun h fun d h =>
      .called (.setSampleRateDir dir.flagged_isTx) (asked_succeed h)
  | lpfBwRange dir =>
    exact faithful_withDevice nofun h fun d h =>
      .called (.lpfBwRange dir.flagged_isTx) (asked_bind asked_succeed h fun _ => rfl)
  | vctcxoWrite value =>
    exact faithful_withDevice nofun h fun d h => .called .vctcxoWrite (asked_succeed h)
  | vctcxoRead =>
    exact faithful_withDevice nofun h fun d h =>
      .called .vctcxoRead (asked_bind asked_succeed h fun _ => rfl)

theorem faithful_channelCall {c : ChannelCall} {x : Except Error c.Result}
    (h : (b.channelCall handle ch c).run.Yields ms x) :
    Faithful (b.Live handle) c.Unfit (ChannelCall.Carried · ch c) ms x := by
  cases c with
  | enable on => exact faithful_withDevice nofun h fun d h => .of_row .enable (asked_succeed h)
  | sampleRate =>
    exact faithful_onChannel_bind nofun h fun d h =>
      .of_row .sampleRate (asked_bind asked_succeed h fun _ => rfl)
  | setLoFrequency frequency =>
    exact faithful_withDevice nofun h fun d h => .of_row .setLoFrequency (asked_succeed h)
  | loFrequency =>
    exact faithful_onChannel_bind nofun h fun d h =>
      .of_row .loFrequency (asked_bind asked_succeed h fun _ => rfl)
  | antennaList =>
    exact faithful_withDevice nofun h fun d h =>
      .listed ch.direction.flagged_isTx (listed_readList (antennaList_eq ▸ h))
  | setAntenna index =>
    exact faithful_withDevice nofun h fun d h => .of_row .setAntenna (asked_succeed h)
  | antenna =>
    exact faithful_withDevice nofun h fun d h =>
      .of_row .antenna (asked_bind asked_counting h fun _ => rfl)
  | setLpfBw bandwidth =>
    exact faithful_withDevice nofun h fun d h => .of_row .setLpfBw (asked_succeed h)
  | lpfBw =>
    exact faithful_onChannel_bind nofun h fun d h =>
      .of_row .lpfBw (asked_bind asked_succeed h fun _ => rfl)
  | setLpf on => exact faithful_withDevice nofun h fun d h => .of_row .setLpf (asked_succeed h)
  | setGfirLpf on bandwidth =>
    exact faithful_withDevice nofun h fun d h => .of_row .setGfirLpf (asked_succeed h)
  | setNormalizedGain gain =>
    exact faithful_withDevice nofun h fun d h => .of_row .setNormalizedGain (asked_succeed h)
  | normalizedGain =>
    exact faithful_onChannel_bind nofun h fun d h =>
      .of_row .normalizedGain (asked_bind asked_succeed h fun _ => rfl)
  | setGainDb gain =>
    exact faithful_withDevice nofun h fun d h => .of_row .setGainDb (asked_succeed h)
  | gainDb =>
    exact faithful_onChannel_bind nofun h fun d h =>
      .of_row .gainDb (asked_bind asked_succeed h fun _ => rfl)
  | calibrate bandwidth flags =>
    exact faithful_withDevice nofun h fun d h => .of_row .calibrate (asked_succeed h)
  | setTestSignal signal dcI dcQ =>
    exact faithful_withDevice nofun h fun d h =>
      .of_row (.setTestSignal signal.numbered_code) (asked_succeed h)
  | testSignal =>
    exact faithful_onChannel_bind nofun h fun d h =>
      .of_row (.testSignal TestSignal.readAs_ofCode) (asked_bind asked_succeed h fun _ => rfl)
  | setNcoFrequency table =>
    exact faithful_withDevice nofun h fun d h => .of_row .setNcoFrequency (asked_succeed h)
  | ncoFrequency =>
    refine faithful_onChannel_bind nofun h fun d h =>
      .of_row .ncoFrequency (asked_bind asked_succeed h fun a => ?_)
    obtain ⟨code, ⟨new, offset⟩, messages⟩ := a
    simp only [stored_zeros]
  | setNcoPhase table =>
    exact faithful_withDevice nofun h fun d h => .of_row .setNcoPhase (asked_succeed h)
  | ncoPhase =>
    refine faithful_onChannel_bind nofun h fun d h =>
      .of_row .ncoPhase (asked_bind asked_succeed h fun a => ?_)
    obtain ⟨code, ⟨new, frequency⟩, messages⟩ := a
    simp only [stored_zeros]
  | setNcoIndex index downconvert =>
    by_cases hindex : ncoTableSize ≤ index
    · have hcall : b.channelCall handle ch (.setNcoIndex index downconvert) =
          throw (.invalidArgument "NCO index out of range") := if_pos hindex
      rw [hcall] at h
      obtain ⟨rfl, rfl⟩ := yields_run_throw_iff.mp h
      exact .unfit (.setNcoIndex hindex)
    · have hcall : b.channelCall handle ch (.setNcoIndex index downconvert) =
          b.onChannel "set_nco_index" handle ch (.setNcoIndex index downconvert) := if_neg hindex
      rw [hcall] at h
      exact faithful_withDevice (fun _ (.setNcoIndex h16) => hindex h16) h fun d h =>
        .of_row .setNcoIndex (asked_succeed h)
  | ncoIndex =>
    exact faithful_withDevice nofun h fun d h =>
      .of_row .ncoIndex (asked_bind asked_counting h fun _ => rfl)
  | setGfirCoeff filter values =>
    exact faithful_withDevice nofun h fun d h =>
      .of_row (.setGfirCoeff filter.numbered_code) (asked_succeed h)
  | gfirCoeff filter =>
    refine faithful_onChannel_bind nofun h fun d h =>
      .of_row (.gfirCoeff filter.numbered_code filter.takes_coeffCount)
        (asked_bind asked_succeed h fun a => ?_)
    exact congrArg pure (coefficientsOf_eq filter.coeffCount_le a.out)
  | setGfir filter on =>
    exact faithful_withDevice nofun h fun d h =>
      .of_row (.setGfir filter.numbered_code) (asked_succeed h)

/-- After any session, a method on a device does to the library and to the client what the tables
say of it, with the device that the client holds by the handle, and it comes to an end. -/
theorem session_faithful {session : List Service} (hsession : Path Service.Serves fresh session b)
    (handle : DeviceHandle) (ms : List (Event Machine)) (b' : Binding) :
    (∀ x, (b.perform (.closeDevice handle)).Yields ms (x, b') →
      Faithful (HeldBy session handle) (fun _ => False)
        (fun d => Asked "close" (Call.event (.closeDevice d)) (· = 0) fun _ => ()) ms x) ∧
    (∀ (c : DeviceCall) x, (b.perform (.device handle c)).Yields ms (x, b') →
      Faithful (HeldBy session handle) c.Unfit (DeviceCall.Carried · c) ms x ∧ b' = b) ∧
    (∀ (ch : ChannelId) (c : ChannelCall) x,
      (b.perform (.channel handle ch c)).Yields ms (x, b') →
      Faithful (HeldBy session handle) c.Unfit (ChannelCall.Carried · ch c) ms x ∧ b' = b) ∧
    ∀ r : Request, ¬ (b.perform r).Exhausts ms := by
  have hheld : HeldBy session handle = b.Live handle :=
    funext fun d => propext (mem_devicesHeld_iff hsession)
  rw [hheld]
  refine ⟨fun x h => faithful_closeDevice h, fun c x h => ?_, fun ch c x h => ?_,
    fun r => ends_operation b (.inl r) ms⟩
  · obtain ⟨hcall, hb⟩ := of_yields_keep h
    exact ⟨faithful_deviceCall hcall, hb⟩
  · obtain ⟨hcall, hb⟩ := of_yields_keep h
    exact ⟨faithful_channelCall hcall, hb⟩

/-- The library refuses a gain with a positive code. -/
def refusedGain : List (Event Machine) :=
  [Call.event (.channel ⟨7⟩ true 1 (.setGainDb 17)) ⟨3, (), []⟩,
    Call.event .getLastErrorMessage ⟨0, some (Utf8.encode "busy"), []⟩]

/-- The library makes a constant signal. -/
def constantSignal : List (Event Machine) :=
  [Call.event (.channel ⟨7⟩ true 1 (.setTestSignal 5 100 (-100))) ⟨0, (), []⟩]

/-- The library tells the number of its test signal. -/
def signalTold (number : UInt32) : List (Event Machine) :=
  [Call.event (.channel ⟨7⟩ false 0 .getTestSignal) ⟨0, some number, []⟩]

/-- With one device open: a refused gain, a test signal that is set, two that are read of which the
second has no known number, a path with a zero byte for a handle that is not live, and another call
with this handle. -/
theorem oneDevice_faithful :
    Path Service.Serves fresh [openedAs 0 ⟨7⟩] oneDevice ∧
    Faithful (HeldBy [openedAs 0 ⟨7⟩] ⟨0⟩) (ChannelCall.setGainDb 17).Unfit
      (ChannelCall.Carried · ⟨.tx, 1⟩ (.setGainDb 17)) refusedGain
      (.error (.failed "set_gain_db" "busy")) ∧
    Faithful (HeldBy [openedAs 0 ⟨7⟩] ⟨0⟩) (ChannelCall.setTestSignal .dc 100 (-100)).Unfit
      (ChannelCall.Carried · ⟨.tx, 1⟩ (.setTestSignal .dc 100 (-100))) constantSignal (.ok ()) ∧
    Faithful (HeldBy [openedAs 0 ⟨7⟩] ⟨0⟩) ChannelCall.testSignal.Unfit
      (ChannelCall.Carried · ⟨.rx, 0⟩ .testSignal) (signalTold 3) (.ok .ncoDiv8F) ∧
    Faithful (HeldBy [openedAs 0 ⟨7⟩] ⟨0⟩) ChannelCall.testSignal.Unfit
      (ChannelCall.Carried · ⟨.rx, 0⟩ .testSignal) (signalTold 42) (.ok .none) ∧
    Faithful (HeldBy [openedAs 0 ⟨7⟩] ⟨1⟩) (DeviceCall.loadConfig ⟨[0]⟩).Unfit
      (DeviceCall.Carried · (.loadConfig ⟨[0]⟩)) [] (.error .invalidString) ∧
    Faithful (HeldBy [openedAs 0 ⟨7⟩] ⟨1⟩) DeviceCall.init.Unfit
      (DeviceCall.Carried · .init) [] (.error .invalidHandle) := by
  have hsession : Path Service.Serves fresh [openedAs 0 ⟨7⟩] oneDevice :=
    .single (serves_openedAs rfl)
  have hmessage : CString.read? (some (Utf8.encode "busy")) = "busy" := by decide +kernel
  have hgain : (oneDevice.perform (.channel ⟨0⟩ ⟨.tx, 1⟩ (.setGainDb 17))).Yields refusedGain
      (.error (.failed "set_gain_db" (CString.read? (some (Utf8.encode "busy")))), oneDevice) :=
    .ask _ (.ask _ (.done _))
  rw [hmessage] at hgain
  have hset : (oneDevice.perform (.channel ⟨0⟩ ⟨.tx, 1⟩ (.setTestSignal .dc 100 (-100)))).Yields
      constantSignal (.ok (), oneDevice) := .ask _ (.done _)
  have hread (number : UInt32) : (oneDevice.perform (.channel ⟨0⟩ ⟨.rx, 0⟩ .testSignal)).Yields
      (signalTold number) (.ok (TestSignal.ofCode number), oneDevice) := .ask _ (.done _)
  have hchannel (ms : List (Event Machine)) := (session_faithful hsession ⟨0⟩ ms oneDevice).2.2.1
  obtain ⟨-, hdevice, -, -⟩ := session_faithful hsession ⟨1⟩ [] oneDevice
  exact ⟨hsession, (hchannel _ _ _ _ hgain).1, (hchannel _ _ _ _ hset).1,
    (hchannel _ _ _ _ (hread 3)).1, (hchannel _ _ _ _ (hread 42)).1,
    (hdevice (.loadConfig ⟨[0]⟩) _ (.done _)).1, (hdevice .init _ (.done _)).1⟩

end Binding
end Native
end RadioBench
