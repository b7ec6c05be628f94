/-
What a smoke test leaves open on a simulator.

The stages of a test say what it holds; here they are compared with what is open on a
simulator.  The two agree as long as no stop fails.  A stream whose stop was rejected
runs on, and a stream that runs cannot be destroyed, so that it stays when the test
does not ask for a second stop.
-/
import RadioBench.Proofs.Simulator.Success
import RadioBench.Proofs.SmokeTest.Protocol

namespace RadioBench
namespace SmokeTest

open Simulator

variable {s₀ s t : State} {d : DeviceHandle} {n : StreamHandle}

theorem filter_ne_append_self {α : Type} [DecidableEq α] {l : List α} {a : α} (h : a ∉ l) :
    (l ++ [a]).filter (· ≠ a) = l := by
  rw [List.filter_append, List.filter_eq_self.mpr]
  · simp
  · rintro x hx
    simpa using ne_of_mem_of_not_mem hx h

/-- A stop was armed, and only one was asked for since. -/
def Stranded (s₀ s : State) : Prop :=
  "stop_stream" ∈ s₀.armed ∧ s.count "stop_stream" = s₀.count "stop_stream" + 1

/-- What is open, with the bounds that a run keeps. -/
structure Since (s₀ : State) (devices : List DeviceHandle) (streams : List StreamHandle)
    (s : State) : Prop where
  numbered : Numbered s
  armed : ∀ name ∈ s.armed, name ∈ s₀.armed
  devices : s.devices = devices
  streams : s.liveStreams = streams

theorem Since.same {devices : List DeviceHandle} {streams : List StreamHandle}
    (h : Since s₀ devices streams s) (hsame : SameHandles s t) : Since s₀ devices streams t where
  numbered := h.numbered.of_sameHandles hsame
  armed name hname := h.armed name (hsame.armed name hname)
  devices := hsame.devices.trans h.devices
  streams := hsame.streams.trans h.streams

theorem Since.close {streams : List StreamHandle}
    (h : Since s₀ (s₀.devices ++ [d]) streams s) (hd : d ∉ s₀.devices) :
    Since s₀ s₀.devices streams
      ({ s with devices := s.devices.filter (· ≠ d) }.forgetChannels d) where
  numbered := ⟨fun x hx => h.numbered.devices x (List.mem_filter.mp hx).1, h.numbered.streams⟩
  armed := h.armed
  devices := by
    show s.devices.filter (· ≠ d) = _
    rw [h.devices, filter_ne_append_self hd]
  streams := h.streams

/-- No stop was asked for. -/
structure Unstopped (s₀ s : State) : Prop where
  stops : s.stops = s₀.stops
  stop : "stop_stream" ∈ s.armed ↔ "stop_stream" ∈ s₀.armed

theorem Unstopped.steady (h : Unstopped s₀ s) (hst : Steady s t) : Unstopped s₀ t where
  stops := hst.stops.trans h.stops
  stop := hst.stop.trans h.stop

theorem Unstopped.not_stranded (h : Unstopped s₀ s) : ¬Stranded s₀ s := by
  intro hs
  have hstops : s.count "stop_stream" = s₀.count "stop_stream" := h.stops
  have := hs.2
  omega

theorem stranded_steady (hst : Steady s t) : Stranded s₀ t ↔ Stranded s₀ s := by
  have hstops : t.count "stop_stream" = s.count "stop_stream" := hst.stops
  rw [Stranded, Stranded, hstops]

/-- A stream is there besides those from before. -/
structure Streaming (s₀ : State) (d : DeviceHandle) (n : StreamHandle) (running : Bool)
    (s : State) : Prop where
  device : d ∉ s₀.devices
  stream : n ∉ s₀.liveStreams
  since : Since s₀ (s₀.devices ++ [d]) (s₀.liveStreams ++ [n]) s
  running : s.running? n = some running

theorem Streaming.same {running : Bool} (h : Streaming s₀ d n running s)
    (hsame : SameHandles s t) : Streaming s₀ d n running t where
  device := h.device
  stream := h.stream
  since := h.since.same hsame
  running := (hsame.running n).trans h.running

theorem Streaming.put {running running' : Bool} {st : StreamState} {name : String}
    (h : Streaming s₀ d n running s) (hst : st.running = running') :
    Streaming s₀ d n running' ((s.recorded name).putStream n st) := by
  have hrec := h.same (s.sameHandles_recorded name)
  have hmem : n ∈ (s.recorded name).liveStreams := by rw [hrec.since.streams]; simp
  refine ⟨h.device, h.stream, ⟨?_, hrec.since.armed, hrec.since.devices, ?_⟩, ?_⟩
  · exact hrec.since.numbered.putStream hmem st
  · rw [State.liveStreams_putStream hmem]
    exact hrec.since.streams
  · rw [State.running?_putStream, hst]

/-- The streams are those from before, but for one if it is stranded. -/
inductive Settled (s₀ : State) (devices : List DeviceHandle) (s : State) : Prop
  | clear (since : Since s₀ devices s₀.liveStreams s) (h : ¬Stranded s₀ s)
  | stranded (n : StreamHandle) (hn : n ∉ s₀.liveStreams)
      (since : Since s₀ devices (s₀.liveStreams ++ [n]) s) (h : Stranded s₀ s)

theorem Settled.steady {devices : List DeviceHandle} (h : Settled s₀ devices s)
    (hst : Steady s t) : Settled s₀ devices t := by
  cases h with
  | clear since h =>
    exact .clear (since.same hst.toSameHandles) (by rwa [stranded_steady hst])
  | stranded n hn since h =>
    exact .stranded n hn (since.same hst.toSameHandles) ((stranded_steady hst).mpr h)

theorem Settled.since {devices : List DeviceHandle} (h : Settled s₀ devices s) :
    ∃ streams, Since s₀ devices streams s := by
  cases h with
  | clear since => exact ⟨_, since⟩
  | stranded n hn since => exact ⟨_, since⟩

/-- What is open at a stage. -/
def Agrees (s₀ : State) : Stage → State → Prop
  | .waiting, s => Since s₀ s₀.devices s₀.liveStreams s ∧ Unstopped s₀ s
  | .opened d, s =>
    d ∉ s₀.devices ∧ Since s₀ (s₀.devices ++ [d]) s₀.liveStreams s ∧ Unstopped s₀ s
  | .ready d n, s => Streaming s₀ d n false s ∧ Unstopped s₀ s
  | .running d n, s => Streaming s₀ d n true s ∧ Unstopped s₀ s
  | .stuck d n, s =>
    Streaming s₀ d n true s ∧ Stranded s₀ s ∧ "stop_stream" ∉ s.armed
  | .stopped d n, s => Streaming s₀ d n false s ∧ ¬Stranded s₀ s
  | .destroyed d, s => d ∉ s₀.devices ∧ Settled s₀ (s₀.devices ++ [d]) s
  | .closed, s => Settled s₀ s₀.devices s

namespace Agrees

theorem steady {st : Stage} (h : Agrees s₀ st s) (hst : Steady s t) : Agrees s₀ st t := by
  have hsame := hst.toSameHandles
  cases st with
  | waiting => exact ⟨h.1.same hsame, h.2.steady hst⟩
  | opened d => exact ⟨h.1, h.2.1.same hsame, h.2.2.steady hst⟩
  | ready d n => exact ⟨h.1.same hsame, h.2.steady hst⟩
  | running d n => exact ⟨h.1.same hsame, h.2.steady hst⟩
  | stuck d n =>
    exact ⟨h.1.same hsame, (stranded_steady hst).mpr h.2.1, by rw [hst.stop]; exact h.2.2⟩
  | stopped d n => exact ⟨h.1.same hsame, by rw [stranded_steady hst]; exact h.2⟩
  | destroyed d => exact ⟨h.1, h.2.steady hst⟩
  | closed => exact Settled.steady h hst

theorem waiting_self (h : Numbered s₀) : Agrees s₀ .waiting s₀ :=
  ⟨⟨h, fun _ h => h, rfl, rfl⟩, rfl, Iff.rfl⟩

theorem openDevice {info : String} (h : Agrees s₀ .waiting s)
    (hp : Simulator.openDevice info s = (.ok d, t)) : Agrees s₀ (.opened d) t := by
  obtain ⟨hsince, hun⟩ := h
  have hnum : Numbered t := hsince.numbered.perform (r := .openDevice info) hp
  rcases openDevice_cases hp with ⟨⟨e, he⟩, -⟩ | ⟨hd, rfl⟩
  · cases he
  · obtain rfl := Except.ok.inj hd
    have hst : Steady s (s.recorded "open") := State.steady_recorded (by decide)
    refine ⟨hsince.devices ▸ hsince.numbered.device_not_mem, ⟨hnum, hsince.armed, ?_, ?_⟩, ?_⟩
    · show s.devices ++ _ = _
      rw [hsince.devices]
    · exact hsince.streams
    · exact ⟨(hun.steady hst).stops, hun.stop⟩

theorem setupStream {config : StreamConfig} (h : Agrees s₀ (.opened d) s)
    (hp : Simulator.setupStream d config s = (.ok n, t)) : Agrees s₀ (.ready d n) t := by
  obtain ⟨hd, hsince, hun⟩ := h
  have hnum : Numbered t := hsince.numbered.perform (r := .setupStream d config) hp
  rcases setupStream_cases hp with ⟨⟨e, he⟩, -⟩ | ⟨hn, rfl⟩
  · cases he
  · obtain rfl := Except.ok.inj hn
    have hst : Steady s (s.recorded "setup_stream") := State.steady_recorded (by decide)
    have hnew := hsince.numbered.stream_not_mem
    have hstreams := State.liveStreams_putStream_new (s := s) hnew
      { config := config, running := false, received := 0 }
    refine ⟨⟨hd, hsince.streams ▸ hnew, ⟨hnum, hsince.armed, hsince.devices, ?_⟩, ?_⟩, ?_⟩
    · rw [← hsince.streams]
      exact hstreams
    · exact State.running?_putStream _ _
    · exact ⟨(hun.steady hst).stops, hun.stop⟩

theorem startStream (h : Agrees s₀ (.ready d n) s)
    (hp : Simulator.startStream n s = (.ok (), t)) : Agrees s₀ (.running d n) t := by
  obtain ⟨hs, hun⟩ := h
  rcases startStream_cases hp with ⟨⟨e, he⟩, -⟩ | ⟨-, st, -, rfl⟩
  · cases he
  · have hst : Steady s (s.recorded "start_stream") := State.steady_recorded (by decide)
    exact ⟨hs.put rfl, (hun.steady hst).stops, hun.stop⟩

/-- A stop that succeeds is the second, or was not armed from the start. -/
theorem stopStream {st : Stage} (h : Agrees s₀ st s) (hst : st = .running d n ∨ st = .stuck d n)
    (hp : Simulator.stopStream n s = (.ok (), t)) : Agrees s₀ (.stopped d n) t := by
  rcases stopStream_cases hp with ⟨-, ⟨e, he⟩, -⟩ | ⟨-, ⟨e, he⟩, -⟩ | ⟨harmed, -, st, -, rfl⟩
  · cases he
  · cases he
  · have hcount := s.count_recorded "stop_stream" "stop_stream"
    rcases hst with rfl | rfl
    · obtain ⟨hs, hun⟩ := h
      refine ⟨hs.put rfl, fun hstranded => ?_⟩
      exact harmed (hun.stop.mpr hstranded.1)
    · obtain ⟨hs, hstranded, -⟩ := h
      refine ⟨hs.put rfl, fun hagain => ?_⟩
      have htwo : (s.recorded "stop_stream").count "stop_stream" =
        s₀.count "stop_stream" + 1 := hagain.2
      have hone := hstranded.2
      simp at hcount
      omega

/-- A stop that fails was armed, and was the first. -/
theorem rejectedStop {e : Error} {st : Stage} (h : Agrees s₀ st s)
    (hst : st = .running d n ∨ st = .stuck d n)
    (hp : Simulator.stopStream n s = (.error e, t)) : Agrees s₀ (.stuck d n) t := by
  have hrun : s.running? n = some true := by
    rcases hst with rfl | rfl
    · exact h.1.running
    · exact h.1.running
  rcases stopStream_cases hp with ⟨harmed, -, rfl⟩ | ⟨hnone, -⟩ | ⟨-, he, -⟩
  · rcases hst with rfl | rfl
    · obtain ⟨hs, hun⟩ := h
      refine ⟨hs.same (s.sameHandles_rejected _), ⟨hun.stop.mp harmed, ?_⟩, ?_⟩
      · have hstops : s.count "stop_stream" = s₀.count "stop_stream" := hun.stops
        simp [State.count_rejected, hstops]
      · simp [State.armed_rejected]
    · exact absurd harmed h.2.2
  · rw [hrun] at hnone
    cases hnone
  · cases he

theorem destroyStream {st : Stage} {r : Except Error Unit}
    (hdestroy : "destroy_stream" ∉ s₀.armed) (h : Agrees s₀ st s)
    (hst : st = .ready d n ∨ st = .stuck d n ∨ st = .stopped d n)
    (hp : Simulator.destroyStream d n s = (r, t)) : Agrees s₀ (.destroyed d) t := by
  have hs : ∃ running, Streaming s₀ d n running s ∧ (running = true ↔ Stranded s₀ s) := by
    rcases hst with rfl | rfl | rfl
    · exact ⟨false, h.1, by simp [h.2.not_stranded]⟩
    · exact ⟨true, h.1, by simp [h.2.1]⟩
    · exact ⟨false, h.1, by simp [h.2]⟩
  obtain ⟨running, hs, hstranded⟩ := hs
  have hsince := hs.since
  have hnum : Numbered t := hsince.numbered.perform (r := .destroyStream d n) hp
  refine ⟨hs.device, ?_⟩
  rcases destroyStream_cases hp with ⟨hwhy, hsteady⟩ | ⟨hrest, rfl⟩
  · have hrun : running = true := by
      rcases hwhy with harmed | hopen | hrun
      · exact absurd (hsince.armed _ harmed) hdestroy
      · exact absurd (by simp [hsince.devices]) hopen
      · simpa [hs.running] using hrun
    exact .stranded n hs.stream (hsince.same hsteady.toSameHandles)
      ((stranded_steady hsteady).mpr (hstranded.mp hrun))
  · have hrec : Steady s (s.recorded "destroy_stream") := State.steady_recorded (by decide)
    refine .clear ⟨hnum, hsince.armed, hsince.devices, ?_⟩ fun hagain => ?_
    · rw [← filter_ne_append_self hs.stream, ← hsince.streams]
      exact Table.keys_erase s.streams n
    · rw [hs.running] at hrest
      have hrun := hstranded.mpr ((stranded_steady hrec).mp hagain)
      rw [hrun] at hrest
      cases hrest

theorem closeDevice {st : Stage} {r : Except Error Unit} (hclose : "close" ∉ s₀.armed)
    (h : Agrees s₀ st s) (hst : st = .opened d ∨ st = .destroyed d)
    (hp : Simulator.closeDevice d s = (r, t)) : Agrees s₀ .closed t := by
  have hs : d ∉ s₀.devices ∧ Settled s₀ (s₀.devices ++ [d]) s := by
    rcases hst with rfl | rfl
    · exact ⟨h.1, .clear h.2.1 h.2.2.not_stranded⟩
    · exact h
  obtain ⟨hd, hsettled⟩ := hs
  obtain ⟨streams, hsince⟩ := hsettled.since
  rcases closeDevice_cases hp with ⟨harmed | hopen, -⟩ | rfl
  · exact absurd (hsince.armed _ harmed) hclose
  · exact absurd (by simp [hsince.devices]) hopen
  · have hrec : Steady s (s.recorded "close") := State.steady_recorded (by decide)
    cases hsettled.steady hrec with
    | clear since h => exact .clear (since.close hd) h
    | stranded n hn since h => exact .stranded n hn (since.close hd) h

end Agrees

/-! ## A whole test -/

theorem agrees_step {e : Event Host} {st st' : Stage} (hclose : "close" ∉ s₀.armed)
    (hdestroy : "destroy_stream" ∉ s₀.armed) (hstage : Stage.Step e st st') (hrun : Runs e s t)
    (h : Agrees s₀ st s) : Agrees s₀ st' t := by
  cases hstage with
  | ambient o a =>
    cases o with
    | now => exact hrun ▸ h
    | note entry => exact hrun ▸ h.steady ((Steady.refl s).of_eq rfl rfl rfl rfl rfl)
    | write text => exact hrun ▸ h
  | version a => exact h.steady (steady_perform rfl hrun)
  | register handler => exact h.steady (steady_perform rfl hrun)
  | list a => exact h.steady (steady_perform rfl hrun)
  | opened info d => exact h.openDevice hrun
  | notOpened info e =>
    rcases openDevice_cases hrun with ⟨-, hst⟩ | ⟨he, -⟩
    · exact h.steady hst
    · cases he
  | device d c a => exact h.steady (steady_perform rfl hrun)
  | channel d ch c a => exact h.steady (steady_perform rfl hrun)
  | setUp d config n => exact h.setupStream hrun
  | notSetUp d config e =>
    rcases setupStream_cases hrun with ⟨-, hst⟩ | ⟨he, -⟩
    · exact h.steady hst
    · cases he
  | started d n => exact h.startStream hrun
  | notStarted d n e =>
    rcases startStream_cases hrun with ⟨-, hst⟩ | ⟨he, -⟩
    · exact h.steady hst
    · cases he
  | recv d n buffer info timeout a => exact h.steady (steady_perform rfl hrun)
  | status d n a => exact h.steady (steady_perform rfl hrun)
  | stopped d n => exact h.stopStream (.inl rfl) hrun
  | notStopped d n e => exact h.rejectedStop (.inl rfl) hrun
  | stoppedLater d n => exact h.stopStream (.inr rfl) hrun
  | stillStuck d n e => exact h.rejectedStop (.inr rfl) hrun
  | destroyed d n a hst => exact h.destroyStream hdestroy hst hrun
  | closed d a hst => exact h.closeDevice hclose hst hrun

/-- After a test the open devices are those from before.  So are the live streams, unless
a stop was armed and the test asked for one stop only, which was then rejected: in that
case one new stream is left. -/
theorem run_leavesOnlyStranded {budget : Nat} {settings : Settings} {es : List (Event Host)}
    {r : Except Error Outcome} {s₁ : State} (hreach : Reachable s₀)
    (hclose : "close" ∉ s₀.armed) (hdestroy : "destroy_stream" ∉ s₀.armed)
    (hes : (run budget settings).run.Yields es r) (hrun : Path Runs s₀ es s₁) :
    s₁.devices = s₀.devices ∧
      (¬Stranded s₀ s₁ → s₁.liveStreams = s₀.liveStreams) ∧
      (Stranded s₀ s₁ → ∃ n ∉ s₀.liveStreams, s₁.liveStreams = s₀.liveStreams ++ [n]) := by
  obtain ⟨st, hpath, hst⟩ := path_run hes
  have hend : Agrees s₀ st s₁ := by
    refine hpath.related (R := Agrees s₀) (fun e _ _ _ _ hstage hstep h => ?_) hrun
      (.waiting_self hreach.numbered)
    exact agrees_step hclose hdestroy hstage hstep h
  have hsettled : Settled s₀ s₀.devices s₁ := by
    rcases hst with rfl | rfl
    · exact .clear hend.1 hend.2.not_stranded
    · exact hend
  cases hsettled with
  | clear since h => exact ⟨since.devices, fun _ => since.streams, fun h' => absurd h' h⟩
  | stranded n hn since h =>
    exact ⟨since.devices, fun h' => absurd h h', fun _ => ⟨n, hn, since.streams⟩⟩

/-! ## A run that leaves a stream -/

theorem completes_snapshot {d : Device} {s : Settings} (hopen : d.handle ∈ s₀.devices)
    (hname : "save_config" ∉ s₀.armed) : Completes s₀ (snapshot d s) := by
  intro t ht
  have hcall : Completes s₀ (d.call (.saveConfig s.configSnapshot)) := .call hopen hname
  obtain ⟨a, u, hreach, hu⟩ := hcall t ht
  exact ⟨(), u, (Reaches.always hreach).andThen (.of_run rfl), hu⟩

theorem completes_listAntennas (number : Nat) (names : List String) :
    Completes s₀ (listAntennas number names) := by
  induction names generalizing number with
  | nil => exact .pure ()
  | cons name rest ih => exact .bind (.line _) fun _ => ih (number + 1)

theorem completes_configure {d : Device} {s : Settings} (hopen : d.handle ∈ s₀.devices)
    (hnames : ∀ q ∈ configureRequests d.handle s, q.name ∉ s₀.armed)
    (hantenna : s.antenna.index < antennas.length) : Completes s₀ (configure d s) := by
  simp only [configureRequests, List.forall_mem_cons] at hnames
  obtain ⟨h₁, h₂, h₃, h₄, h₅, h₆, -, h₇, h₈, h₉, h₁₀, h₁₁, h₁₂, h₁₃, h₁₄, h₁₅, -⟩ := hnames
  unfold configure
  refine .bind (.note _) fun _ => .bind (.channel hopen h₁ trivial rfl) fun _ => ?_
  refine .bind (.note _) fun _ => .bind (.channel hopen h₂ trivial rfl) fun _ => ?_
  refine .bind (.channel hopen h₃ trivial rfl) fun _ => .bind (.line _) fun _ => ?_
  refine .bind (.channel hopen h₄ trivial rfl) fun _ => .bind (.line _) fun _ => ?_
  refine .bind (completes_listAntennas _ _) fun _ => ?_
  refine .bind (.channel hopen h₅ trivial rfl) fun _ => .bind (.line _) fun _ => ?_
  refine .bind (.channel hopen h₆ hantenna rfl) fun _ => ?_
  refine .bind (.channel hopen h₅ trivial rfl) fun _ => .bind (.line _) fun _ => ?_
  refine .bind (.note _) fun _ => .bind (.call hopen h₇) fun _ => ?_
  refine .bind (.channel hopen h₈ trivial rfl) fun _ => .bind (.line _) fun _ => ?_
  refine .bind (.call hopen h₉) fun _ => .bind (.line _) fun _ => ?_
  refine .perhaps (.note _) fun _ => ?_
  refine .bind (.channel hopen h₁₀ trivial rfl) fun _ => ?_
  refine .bind (.channel hopen h₁₁ trivial rfl) fun _ => ?_
  refine .bind (.channel hopen h₁₂ trivial rfl) fun _ => .bind (.line _) fun _ => ?_
  refine .bind (.channel hopen h₁₃ trivial rfl) fun _ => .bind (.line _) fun _ => ?_
  refine .bind (.note _) fun _ => .bind (.channel hopen h₁₄ trivial rfl) fun _ => ?_
  exact .bind (.channel hopen h₁₅ trivial rfl) fun _ => .pure _

/-- A stream that is set up, started and not read from stays, when the read and the stop
that follows it are rejected. -/
theorem reaches_streaming {t : State} (applied : Applied) (hdevices : t.devices = [⟨0⟩])
    (harmed : t.armed = ["recv_stream", "stop_stream"]) (hnext : t.nextHandle = 1)
    (hstreams : t.liveStreams = []) :
    ∃ message u, Reaches t
        (Stream.setup ⟨⟨0⟩, "mini"⟩ (Settings.standard ⟨[]⟩).streamConfig >>=
          streaming 1 (.standard ⟨[]⟩) applied).run (.error (.failed "recv_stream" message)) u ∧
      u.devices = [⟨0⟩] ∧ u.armed = [] ∧ u.liveStreams = [⟨1⟩] := by
  obtain ⟨listed, clock, journal, calls, armed, handler, next, devices, ⟨streams⟩, channels⟩ := t
  obtain rfl : devices = _ := hdevices
  obtain rfl : armed = _ := harmed
  obtain rfl : next = _ := hnext
  obtain rfl : streams = _ := List.map_eq_nil_iff.mp hstreams
  cases handler with
  | none => exact ⟨_, _, .of_run rfl, rfl, rfl, rfl⟩
  | some h => exact ⟨_, _, .of_run rfl, rfl, rfl, rfl⟩

theorem reaches_session {s : State} (hdevices : s.devices = [⟨0⟩])
    (harmed : s.armed = ["recv_stream", "stop_stream"]) (hnext : s.nextHandle = 1)
    (hstreams : s.liveStreams = []) :
    ∃ message u, Reaches s (session 1 ⟨⟨0⟩, "mini"⟩ (.standard ⟨[]⟩)).run
        (.error (.failed "recv_stream" message)) u ∧
      u.devices = [⟨0⟩] ∧ u.armed = [] ∧ u.liveStreams = [⟨1⟩] := by
  have hopen : (⟨0⟩ : DeviceHandle) ∈ s.devices := by simp [hdevices]
  have hinit : Completes s (Device.call ⟨⟨0⟩, "mini"⟩ .init) :=
    .call hopen (by rw [harmed]; decide)
  have hsnapshot : Completes s (snapshot ⟨⟨0⟩, "mini"⟩ (.standard ⟨[]⟩)) :=
    completes_snapshot hopen (by rw [harmed]; decide)
  have hconfigure : Completes s (configure ⟨⟨0⟩, "mini"⟩ (.standard ⟨[]⟩)) :=
    completes_configure hopen (by rw [harmed]; decide) (by decide)
  obtain ⟨a, s₁, h₁, hs₁⟩ := hinit s (.refl s)
  obtain ⟨b, s₂, h₂, hs₂⟩ := hsnapshot s₁ hs₁
  obtain ⟨applied, t, h₃, ht⟩ := hconfigure s₂ hs₂
  obtain ⟨message, u, h₄, hu⟩ := reaches_streaming applied
    (ht.devices.trans hdevices) (ht.armed_eq.trans harmed) (ht.nextHandle.trans hnext)
    (ht.streams.trans hstreams)
  rw [session_eq]
  exact ⟨message, u, h₁.andThen (h₂.andThen (h₃.andThen h₄)), hu⟩

theorem fails_withDevice {s : State} (hdevices : s.devices = [⟨0⟩])
    (harmed : s.armed = ["recv_stream", "stop_stream"]) (hnext : s.nextHandle = 1)
    (hstreams : s.liveStreams = []) :
    Fails s (withDevice 1 ⟨⟨0⟩, "mini"⟩ (.standard ⟨[]⟩)) (·.liveStreams = [⟨1⟩]) := by
  obtain ⟨message, u, hreach, hdevices, harmed, hstreams⟩ :=
    reaches_session hdevices harmed hnext hstreams
  obtain ⟨listed, clock, journal, calls, armed, handler, next, devices, streams, channels⟩ := u
  obtain rfl : devices = _ := hdevices
  obtain rfl : armed = _ := harmed
  exact ⟨_, _, (Reaches.always hreach).andThen (.of_run rfl), hstreams⟩

/-- A simulator whose next read and next stop fail. -/
def faulty : State := ((State.start ["mini"]).arm "stop_stream").arm "recv_stream"

theorem fails_run : Fails faulty (run 1 (.standard ⟨[]⟩)) (·.liveStreams = [⟨1⟩]) := by
  refine .after (.of_run rfl) (.after (.of_run rfl) ?_)
  refine .within ?_ fun s hs => hs
  -- the list of devices, a line, a line for each device, and the device that is opened
  refine .after (.of_run rfl) (.after (.of_run rfl) (.after (.of_run rfl) ?_))
  refine .after (.of_run rfl) (.first ?_)
  exact fails_withDevice rfl rfl rfl rfl

theorem faulty_run_leavesOnlyStranded :
    ∃ es e s₁, (run 1 (.standard ⟨[]⟩)).run.Yields es (.error e) ∧ Path Runs faulty es s₁ ∧
      s₁.devices = faulty.devices ∧ s₁.liveStreams = [⟨1⟩] ∧ Stranded faulty s₁ := by
  obtain ⟨e, s₁, ⟨es, hes, hrun⟩, hlive⟩ := fails_run
  have h := run_leavesOnlyStranded (.arm _ (.arm _ (.start _))) (by decide) (by decide) hes hrun
  refine ⟨es, e, s₁, hes, hrun, h.1, hlive, Classical.byContradiction fun hnot => ?_⟩
  have hnone : s₁.liveStreams = [] := h.2.1 hnot
  rw [hlive] at hnone
  cases hnone

end SmokeTest
end RadioBench
