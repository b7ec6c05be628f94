/-
Programs that get through on a simulator.

A call on an open device succeeds unless its name is armed or its argument is out of
range.  `Reaches` puts such successes together to runs, and `Completes` says that a
program gets through wherever nothing but settings has changed.
-/
import RadioBench.Guard.Device
import RadioBench.Guard.LogScope
import RadioBench.Proofs.Host.Trace
import RadioBench.Proofs.Simulator.Runs

namespace RadioBench
namespace Simulator

open Step

variable {s t u : State} {d : DeviceHandle}

/-! ## Calls that succeed -/

/-- A success that leaves what is armed. -/
def Succeeds {α : Type} (f : Step α) (s : State) : Prop :=
  ∃ a t, f s = (.ok a, t) ∧ t.armed = s.armed

theorem onDevice_succeeds {α : Type} {name : String} {body : Step α} (hopen : d ∈ s.devices)
    (hname : name ∉ s.armed) (hbody : Succeeds body (s.recorded name)) :
    Succeeds (onDevice name d body) s := by
  obtain ⟨a, t, h, harmed⟩ := hbody
  refine ⟨a, t, ?_, harmed⟩
  rw [onDevice, attempt_of_not_armed hname, ← h]
  exact if_pos hopen

theorem onChannel_succeeds {α : Type} {name : String} {ch : ChannelId}
    {body : ChannelState → Except Error α × ChannelState} (hopen : d ∈ s.devices)
    (hname : name ∉ s.armed) (hbody : ∃ a, (body (s.channelState d ch)).1 = .ok a) :
    Succeeds (onChannel name d ch body) s := by
  obtain ⟨a, h⟩ := hbody
  exact onDevice_succeeds hopen hname ⟨a, _, Prod.ext h rfl, rfl⟩

theorem deviceCall_succeeds (c : DeviceCall) (hopen : d ∈ s.devices) (hname : c.name ∉ s.armed) :
    Succeeds (deviceCall d c) s := by
  cases c <;> exact onDevice_succeeds hopen hname ⟨_, _, rfl, rfl⟩

/-- Whether an argument is in range for a simulated channel. -/
def inRange : ChannelCall → Prop
  | .setAntenna index => index < antennas.length
  | .setNcoIndex index _ => index < ncoTableSize
  | .setGfirCoeff filter values => values.length ≤ filter.coeffCount
  | _ => True

theorem channelCall_succeeds (ch : ChannelId) (c : ChannelCall) (hopen : d ∈ s.devices)
    (hname : c.name ∉ s.armed) (hrange : inRange c) : Succeeds (channelCall d ch c) s := by
  cases c with
  | sampleRate => exact onDevice_succeeds hopen hname ⟨_, _, rfl, rfl⟩
  | antennaList => exact onDevice_succeeds hopen hname ⟨_, _, rfl, rfl⟩
  | setAntenna index =>
    dsimp only [channelCall]
    rw [if_neg (Nat.not_le.mpr hrange)]
    exact onChannel_succeeds hopen hname ⟨(), rfl⟩
  | setNcoIndex index down =>
    dsimp only [channelCall]
    refine onChannel_succeeds hopen hname ⟨(), ?_⟩
    exact congrArg Prod.fst (if_neg (Nat.not_le.mpr hrange))
  | setGfirCoeff filter values =>
    dsimp only [channelCall]
    refine onChannel_succeeds hopen hname ⟨(), ?_⟩
    exact congrArg Prod.fst (if_neg (Nat.not_lt.mpr hrange))
  | _ =>
    dsimp only [channelCall]
    exact onChannel_succeeds hopen hname ⟨_, rfl⟩

/-! ## Runs -/

/-- How a simulator carries out a host's operations when the clock stands still and all
texts are written. -/
def simulate : (o : Host.Op) → State → Host.Reply o × State
  | .inl r, s => perform r s
  | .inr .now, s => (Duration.zero, s)
  | .inr (.note e), s => ((), s.note e)
  | .inr (.write _), s => (.ok (), s)

theorem runs_simulate {e : Event Host} (h : Prog.Handles simulate e s t) : Runs e s t := by
  match e with
  | ⟨.inl r, a⟩ => exact h
  | ⟨.inr .now, _⟩ => exact (congrArg Prod.snd h).symm
  | ⟨.inr (.note e), _⟩ => exact (congrArg Prod.snd h).symm
  | ⟨.inr (.write _), _⟩ => exact (congrArg Prod.snd h).symm

/-- A program may end with a value and leave the simulator in a state. -/
def Reaches {α : Type} (s : State) (p : Prog Host α) (a : α) (t : State) : Prop :=
  ∃ es, p.Yields es a ∧ Path Runs s es t

namespace Reaches

variable {α β : Type}

theorem of_run {p : Prog Host α} {a : α} (h : p.run simulate s = (some a, t)) :
    Reaches s p a t := by
  obtain ⟨es, hes, hpath⟩ := Prog.yields_run h
  exact ⟨es, hes, hpath.mono fun _ _ _ => runs_simulate⟩

theorem bind {p : Prog Host α} {f : α → Prog Host β} {a : α} {b : β} (h : Reaches s p a t)
    (h' : Reaches t (f a) b u) : Reaches s (p >>= f) b u := by
  obtain ⟨es, hes, hpath⟩ := h
  obtain ⟨es', hes', hpath'⟩ := h'
  exact ⟨es ++ es', Prog.yields_bind_iff.mpr ⟨a, es, es', rfl, hes, hes'⟩, hpath.append hpath'⟩

theorem request {r : Request} {a : r.Answer} (h : perform r s = (a, t)) :
    Reaches s (Host.request r) a t := ⟨_, Host.yields_request_iff.mpr rfl, .single h⟩

theorem always {p : Prog Host α} {a : α} (h : Reaches s p a t) :
    Reaches s (Attempt.always p).run (.ok a) t := by
  obtain ⟨es, hes, hpath⟩ := h
  exact ⟨es, Attempt.yields_always_iff.mpr ⟨a, rfl, hes⟩, hpath⟩

theorem andThen {p : Attempt α} {f : α → Attempt β} {a : α} {r : Except Error β}
    (h : Reaches s p.run (.ok a) t) (h' : Reaches t (f a).run r u) :
    Reaches s (p >>= f).run r u := by
  obtain ⟨es, hes, hpath⟩ := h
  obtain ⟨es', hes', hpath'⟩ := h'
  exact ⟨es ++ es', Attempt.yields_bind_iff.mpr (.inl ⟨a, es, es', rfl, hes, hes'⟩),
    hpath.append hpath'⟩

theorem orFail {p : Attempt α} {f : α → Attempt β} {e : Error}
    (h : Reaches s p.run (.error e) t) : Reaches s (p >>= f).run (.error e) t := by
  obtain ⟨es, hes, hpath⟩ := h
  exact ⟨es, Attempt.yields_bind_iff.mpr (.inr ⟨e, rfl, hes⟩), hpath⟩

end Reaches

/-- A program may fail and leave the simulator in a state with a property. -/
def Fails {α : Type} (s : State) (p : Attempt α) (Q : State → Prop) : Prop :=
  ∃ e t, Reaches s p.run (.error e) t ∧ Q t

namespace Fails

variable {α β : Type} {Q : State → Prop}

theorem after {p : Attempt α} {f : α → Attempt β} {a : α} (h : Reaches s p.run (.ok a) t)
    (h' : Fails t (f a) Q) : Fails s (p >>= f) Q := by
  obtain ⟨e, u, hreach, hu⟩ := h'
  exact ⟨e, u, h.andThen hreach, hu⟩

theorem first {p : Attempt α} {f : α → Attempt β} (h : Fails s p Q) : Fails s (p >>= f) Q := by
  obtain ⟨e, u, hreach, hu⟩ := h
  exact ⟨e, u, hreach.orFail, hu⟩

/-- Handlers come and go whether or not a program fails. -/
theorem within {p : Attempt α} {handler : LogHandler}
    (h : Fails (perform (.registerLog (some handler)) (perform (.registerLog none) s).2).2 p Q)
    (hQ : ∀ t, Q t → Q (perform (.registerLog none) t).2) :
    Fails s (LogScope.within handler p) Q := by
  obtain ⟨e, u, hreach, hu⟩ := h
  refine ⟨e, _, ?_, hQ u hu⟩
  exact Reaches.bind (.of_run rfl) (.bind hreach (.of_run rfl))

end Fails

/-! ## Programs that only make settings -/

/-- Only settings have changed. -/
structure Tuned (s s' : State) : Prop extends Steady s s' where
  armed_eq : s'.armed = s.armed

theorem Tuned.refl (s : State) : Tuned s s := ⟨.refl s, rfl⟩

theorem Tuned.trans (h : Tuned s t) (h' : Tuned t u) : Tuned s u where
  toSteady := h.toSteady.trans h'.toSteady
  armed_eq := h'.armed_eq.trans h.armed_eq

theorem tuned_note (s : State) (e : Entry) : Tuned s (s.note e) where
  toSteady := (Steady.refl s).of_eq rfl rfl rfl rfl rfl
  armed_eq := rfl

/-- From every state that differs from a given one in settings only, the program may
succeed and again changes only settings. -/
def Completes {α : Type} (s₀ : State) (p : Attempt α) : Prop :=
  ∀ s, Tuned s₀ s → ∃ a t, Reaches s p.run (.ok a) t ∧ Tuned s₀ t

namespace Completes

variable {α β : Type} {s₀ : State}

theorem pure (a : α) : Completes s₀ (pure a : Attempt α) :=
  fun s hs => ⟨a, s, .of_run rfl, hs⟩

theorem bind {p : Attempt α} {f : α → Attempt β} (hp : Completes s₀ p)
    (hf : ∀ a, Completes s₀ (f a)) : Completes s₀ (p >>= f) := by
  intro s hs
  obtain ⟨a, t, hreach, ht⟩ := hp s hs
  obtain ⟨b, u, hreach', hu⟩ := hf a t ht
  exact ⟨b, u, hreach.andThen hreach', hu⟩

theorem line (text : String) : Completes s₀ (Attempt.line text) :=
  fun s hs => ⟨(), s, .of_run rfl, hs⟩

theorem note (e : Entry) : Completes s₀ (Attempt.always (Host.note e)) :=
  fun s hs => ⟨(), s.note e, .of_run rfl, hs.trans (tuned_note s e)⟩

theorem perhaps {c : Prop} [Decidable c] {p : Attempt Unit} {f : Unit → Attempt α}
    (hp : Completes s₀ p) (hf : ∀ u, Completes s₀ (f u)) :
    Completes s₀ (if c then p >>= f else f ()) := by
  split
  · exact bind hp hf
  · exact hf ()

theorem call {device : Device} {c : DeviceCall} (hopen : device.handle ∈ s₀.devices)
    (hname : c.name ∉ s₀.armed) : Completes s₀ (device.call c) := by
  intro s hs
  obtain ⟨a, t, ht, harmed⟩ :=
    deviceCall_succeeds c (hs.devices ▸ hopen) (hs.armed_eq ▸ hname)
  exact ⟨a, t, .request ht, hs.trans ⟨steady_perform (r := .device device.handle c) rfl ht, harmed⟩⟩

theorem channel {device : Device} {ch : ChannelId} {c : ChannelCall}
    (hopen : device.handle ∈ s₀.devices) (hname : c.name ∉ s₀.armed) (hrange : inRange c)
    (hrefused : c.refusal? = none) : Completes s₀ (device.channel ch c) := by
  intro s hs
  obtain ⟨a, t, ht, harmed⟩ :=
    channelCall_succeeds ch c (hs.devices ▸ hopen) (hs.armed_eq ▸ hname) hrange
  simp only [Device.channel, hrefused]
  exact ⟨a, t, .request ht,
    hs.trans ⟨steady_perform (r := .channel device.handle ch c) rfl ht, harmed⟩⟩

end Completes

end Simulator
end RadioBench
