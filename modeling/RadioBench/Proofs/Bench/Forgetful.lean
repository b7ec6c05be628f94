/-
A smoke test does not look at what was there before.

Two simulated radios that list the same devices and read alike give a test the same outcome and
the same text, whatever calls and tests they served before.  The device that the test opens is
new to both, so nothing is set on it; the sample rate is set before it is read; and times are
only ever taken from one another.

The test is taken one operation at a time, with what both radios show as the relation between
them.  The loop of reads is taken as a whole, since its report is known beforehand.
-/
import RadioBench.Proofs.Bench.Coupled
import RadioBench.Proofs.Bench.Reception
import RadioBench.Proofs.SmokeTest.Protocol

namespace RadioBench
namespace Bench

open Prog Simulator SmokeTest

variable {b : State} {room budget budget' : Nat} {rated : Bool} {d e : Device} {n m : StreamHandle}
  {st : StreamState} {E : State → State → Prop}

/-! ## Requests -/

theorem same_call (c : DeviceCall) (hc : readsTrim c = false) :
    Same (Matched b room rated d.handle e.handle) E
      (fun _ => Matched b room (ratedBy rated c) d.handle e.handle) (d.call c) (e.call c) :=
  .step (makes_call d c) (makes_call e c) fun _ _ h => agrees_deviceCall h hc

theorem same_channel {ch : ChannelId} {c : ChannelCall} (hc : c.refusal? = none)
    (hrated : (readsRate c && !rated) = false) :
    Same (Matched b room rated d.handle e.handle) (Facing b 0 d.handle e.handle)
      (fun _ => Matched b room rated d.handle e.handle) (d.channel ch c) (e.channel ch c) :=
  .step (makes_channel d ch hc) (makes_channel e ch hc) fun _ _ h => agrees_channelCall h ch hrated

theorem same_note (x y : Entry) :
    Same (Matched b room rated d.handle e.handle) E
      (fun _ => Matched b room rated d.handle e.handle) (.always (Host.note x))
      (.always (Host.note y)) :=
  .note (fun _ _ x y h => h.note x y) x y

/-! ## The configuration -/

theorem same_listAntennas {W : State → State → Prop} (number : Nat) (names : List String) :
    Same W E (fun _ => W) (listAntennas number names) (listAntennas number names) := by
  induction names generalizing number with
  | nil => exact .pure fun _ _ h => ⟨rfl, h⟩
  | cons name rest ih => exact (Same.line _).andThen fun _ => ih (number + 1)

theorem same_configure (s : Settings) :
    Same (Matched b room false d.handle e.handle) (Facing b 0 d.handle e.handle)
      (fun _ => Matched b room true d.handle e.handle) (configure d s) (configure e s) := by
  unfold configure
  -- the channel and its frequency
  refine (same_note _ _).andThen fun _ => (same_channel rfl rfl).andThen fun _ => ?_
  refine (same_note _ _).andThen fun _ => (same_channel rfl rfl).andThen fun _ => ?_
  refine (same_channel rfl rfl).andThen fun _ => (Same.line _).andThen fun _ => ?_
  -- the antennas
  refine (same_channel rfl rfl).andThen fun _ => (Same.line _).andThen fun _ => ?_
  refine (same_listAntennas _ _).andThen fun _ => ?_
  refine (same_channel rfl rfl).andThen fun _ => (Same.line _).andThen fun _ => ?_
  refine (same_channel rfl rfl).andThen fun _ => ?_
  refine (same_channel rfl rfl).andThen fun _ => (Same.line _).andThen fun _ => ?_
  -- the sample rate, which the two agree on from here
  refine (same_note _ _).andThen fun _ => (same_call _ rfl).andThen fun _ => ?_
  refine (same_channel rfl rfl).andThen fun _ => (Same.line _).andThen fun _ => ?_
  -- the filter
  refine (same_call _ rfl).andThen fun _ => (Same.line _).andThen fun _ => ?_
  refine Same.perhaps (same_note _ _) fun _ => ?_
  refine (same_channel rfl rfl).andThen fun _ => ?_
  -- the gain
  refine (same_channel rfl rfl).andThen fun _ => ?_
  refine (same_channel rfl rfl).andThen fun _ => (Same.line _).andThen fun _ => ?_
  refine (same_channel rfl rfl).andThen fun _ => (Same.line _).andThen fun _ => ?_
  -- the calibration and the test signal
  refine (same_note _ _).andThen fun _ => (same_channel rfl rfl).andThen fun _ => ?_
  exact (same_channel rfl rfl).andThen fun _ => .pure fun _ _ h => ⟨rfl, h⟩

/-! ## The loop of reads -/

namespace Reception

/-- Two loops whose reads take the same time. -/
structure SamePace (z z' : Reception) : Prop where
  starved : z.state.starved = z'.state.starved
  latency : z.state.readLatency = z'.state.readLatency
  timing : z.timing = z'.timing

/-- Two loops that are reported alike. -/
structure SameView (z z' : Reception) : Prop extends SamePace z z' where
  buffer : z.buffer = z'.buffer
  stream : z.stream = z'.stream
  rate : z.state.sampleRate = z'.state.sampleRate

variable {z z' : Reception}

theorem SamePace.timesOut_iff (h : SamePace z z') : z.TimesOut ↔ z'.TimesOut := by
  rw [TimesOut, TimesOut, h.starved, h.latency, h.timing]

theorem SamePace.step (h : SamePace z z') : z.step = z'.step := by
  by_cases hout : z'.TimesOut
  · have hout' : z.TimesOut := h.timesOut_iff.mpr hout
    rw [Reception.step, Reception.step, if_pos hout', if_pos hout, h.timing]
  · have hout' : ¬ z.TimesOut := fun hz => hout (h.timesOut_iff.mp hz)
    rw [Reception.step, Reception.step, if_neg hout', if_neg hout, h.latency]

theorem SamePace.reads (h : SamePace z z') : z.reads = z'.reads := by
  rw [Reception.reads, Reception.reads, h.step, h.timing]

namespace SameView

theorem count (h : SameView z z') : z.count = z'.count := by
  by_cases hout : z'.TimesOut
  · have hout' : z.TimesOut := h.timesOut_iff.mpr hout
    rw [Reception.count, Reception.count, if_pos hout', if_pos hout]
  · have hout' : ¬ z.TimesOut := fun hz => hout (h.timesOut_iff.mp hz)
    rw [Reception.count, Reception.count, if_neg hout', if_neg hout, h.buffer]

theorem streamAfter (h : SameView z z') (reads : Nat) :
    z.streamAfter reads = z'.streamAfter reads := by
  rw [Reception.streamAfter, Reception.streamAfter, h.stream, h.count]

theorem statuses (h : SameView z z') (reads : Nat) : z.statuses reads = z'.statuses reads := by
  have hoffset : z.offset = z'.offset := by
    funext j
    rw [offset, offset, h.step]
  have hstatus : z.statusAfter = z'.statusAfter := by
    funext j
    rw [statusAfter, statusAfter, h.streamAfter, h.stream, h.rate]
  have hperiod : z.period = z'.period := by rw [period, period, h.step, h.timing]
  rw [Reception.statuses, Reception.statuses, hoffset, hstatus, hperiod]

theorem report (h : SameView z z') :
    ({ (z.progress z.reads).report with elapsed := z.offset z.reads } : Report) =
      { (z'.progress z'.reads).report with elapsed := z'.offset z'.reads } := by
  simp only [progress, offset, h.reads, h.count, h.statuses, h.step]

end SameView
end Reception

/-- The loop of a test, as it is going to be on a simulator. -/
def loopOf (s : Settings) (b : State) : Reception where
  state := b
  handle := default
  stream := ⟨s.streamConfig, true, 0⟩
  buffer := .zeros s.dataFormat s.bufferSize
  timing := s.timing

/-- The time that the reads of a test take. -/
def readingTime (s : Settings) (b : State) : Nat := (loopOf s b).reads * (loopOf s b).step.nanos

/-- The loop of a test on a stream of its own. -/
def readingOn (s : Settings) (n : StreamHandle) (st : StreamState) (u : State) : Reception where
  state := u
  handle := n
  stream := st
  buffer := .zeros s.dataFormat s.bufferSize
  timing := s.timing

theorem samePace_loopOf {s : Settings} {u : State} (h : Calm b room u) :
    (readingOn s n st u).SamePace (loopOf s b) := ⟨h.starved, h.latency, rfl⟩

/-- The loop can be carried out on a simulator without pending failures. -/
theorem ready_readingOn {s : Settings} {u : State} (h : Calm b (readingTime s b) u)
    (hlive : u.streams.find? n = some st) (hrunning : st.running = true)
    (hformat : st.config.dataFormat = s.dataFormat) (hmoves : 0 < (loopOf s b).step.nanos) :
    (readingOn s n st u).Ready where
  live := hlive
  running := hrunning
  format := hformat
  recv := h.not_armed _
  status := h.not_armed _
  moves := by
    rw [(samePace_loopOf h).step]
    exact hmoves
  inTime := by
    rw [(samePace_loopOf h).step, (samePace_loopOf h).reads]
    exact h.inTime

theorem calm_after {z : Reception} {x : Simulated} {reads : Nat} (h : Calm b room z.state)
    (hx : Reception.After z reads x)
    (hclock : z.state.clock.nanos + reads * z.step.nanos ≤ Duration.limit.nanos) :
    Calm b 0 x.state where
  listed := hx.listed.trans h.listed
  latency := hx.latency.trans h.latency
  starved := hx.starved.trans h.starved
  armed := hx.armed.trans h.armed
  inTime := by
    rw [hx.clock]
    exact hclock

/-- The loop of a test is the same on both, and so are its reports. -/
theorem same_receiveFor {s : Settings} {d e : DeviceHandle} {u v : Stream}
    (hu : u.config = s.streamConfig) (hv : v.config = s.streamConfig)
    (hmoves : 0 < (loopOf s b).step.nanos) (hbudget : (loopOf s b).reads ≤ budget)
    (hbudget' : (loopOf s b).reads ≤ budget') :
    Same (fun x y => Playing b (readingTime s b) d e u.handle v.handle
        ⟨s.streamConfig, true, 0⟩ x y ∧ x.sampleRate = y.sampleRate) E
      (fun _ x y => ∃ st, Playing b 0 d e u.handle v.handle st x y)
      (u.receiveFor budget (u.buffer s.bufferSize) s.timing)
      (v.receiveFor budget' (v.buffer s.bufferSize) s.timing) := by
  intro x y k hxy
  obtain ⟨hplay, hrate⟩ := hxy.states
  let st : StreamState := ⟨s.streamConfig, true, 0⟩
  let z := readingOn s u.handle st x.state
  let z' := readingOn s v.handle st y.state
  have hz : z.Ready := ready_readingOn hplay.left hplay.liveLeft rfl rfl hmoves
  have hz' : z'.Ready := ready_readingOn hplay.right hplay.liveRight rfl rfl hmoves
  have hpace : z.SamePace (loopOf s b) := samePace_loopOf hplay.left
  have hpace' : z'.SamePace (loopOf s b) := samePace_loopOf hplay.right
  have hview : z.SameView z' := {
    starved := hpace.starved.trans hpace'.starved.symm
    latency := hpace.latency.trans hpace'.latency.symm
    timing := rfl
    buffer := rfl
    stream := rfl
    rate := hrate }
  have hbuffer : u.buffer s.bufferSize = z.buffer := by rw [Stream.buffer, hu]; rfl
  have hbuffer' : v.buffer s.bufferSize = z'.buffer := by rw [Stream.buffer, hv]; rfl
  have hstation : z.station x.reads = x := by rw [Reception.station, ← hxy.left]; rfl
  have hstation' : z'.station y.reads = y := by rw [Reception.station, ← hxy.right]; rfl
  obtain ⟨x', hx, hafter⟩ :=
    Reception.run_receiveFor hz (rfl : u.handle = _) (hpace.reads ▸ hbudget) x.reads
  obtain ⟨y', hy, hafter'⟩ :=
    Reception.run_receiveFor hz' (rfl : v.handle = _) (hpace'.reads ▸ hbudget') y.reads
  have htext : z'.written v z'.reads = z.written u z.reads := by
    rw [Reception.written, Reception.written, hview.statuses, hview.reads, hu, hv]
  have hlive : x'.state.streams.find? u.handle = some (z.streamAfter z.reads) := hafter.stream
  have hlive' : y'.state.streams.find? v.handle = some (z.streamAfter z.reads) := by
    rw [hview.streamAfter, hview.reads]
    exact hafter'.stream
  rw [hstation] at hx
  rw [hstation', ← hview.report, htext] at hy
  rw [hbuffer, hbuffer']
  refine ⟨_, _, x', y', _, run_of_carryOut hx hxy.unlimited, run_of_carryOut hy hxy.unlimited,
    ⟨hafter.overlay, hafter'.overlay, rfl, rfl, z.streamAfter z.reads, ?_⟩⟩
  exact {
    left := calm_after hplay.left hafter hz.inTime
    right := calm_after hplay.right hafter' hz'.inTime
    openLeft := hafter.devices ▸ hplay.openLeft
    openRight := hafter'.devices ▸ hplay.openRight
    liveLeft := hlive
    liveRight := hlive' }

/-! ## The session -/

theorem same_snapshot (s : Settings) :
    Same (Matched b room rated d.handle e.handle) E
      (fun _ => Matched b room rated d.handle e.handle) (snapshot d s) (snapshot e s) := by
  have hsave : Same (Matched b room rated d.handle e.handle) (fun _ _ => False)
      (fun _ => Matched b room rated d.handle e.handle) (d.call (.saveConfig s.configSnapshot))
      (e.call (.saveConfig s.configSnapshot)) := same_call _ rfl
  refine hsave.tried.andThen fun r => ?_
  match r with
  | .ok _ => exact .pure fun _ _ h => h
  | .error _ => exact fun _ _ _ hxy => hxy.states.2.elim

theorem coupled_setup (config : StreamConfig) :
    Coupled (Matched b room true d.handle e.handle) E
      (fun u v s t => ∃ n m, u = ⟨d.handle, n, config, false⟩ ∧ v = ⟨e.handle, m, config, false⟩ ∧
        Playing b room d.handle e.handle n m ⟨config, false, 0⟩ s t ∧ s.sampleRate = t.sampleRate)
      (Stream.setup d config) (Stream.setup e config) := by
  refine Coupled.bind (.step (fun _ k hx => run_request hx k (.setupStream d.handle config))
    (fun _ k hx => run_request hx k (.setupStream e.handle config))
    fun _ _ h => concur_setupStream h config) fun n m => ?_
  refine (Same.note (fun _ _ x y h => ⟨h.1.note x y, h.2⟩) _ _).andThen fun _ => ?_
  exact .pure fun _ _ h => ⟨n, m, rfl, rfl, h⟩

section Streaming

variable {s : Settings} {g h : DeviceHandle}

theorem coupled_start (config : StreamConfig) :
    Coupled (fun x y => Playing b room g h n m ⟨config, false, 0⟩ x y ∧
        x.sampleRate = y.sampleRate) E
      (fun u v x y => u = ⟨g, n, config, true⟩ ∧ v = ⟨h, m, config, true⟩ ∧
        Playing b room g h n m ⟨config, true, 0⟩ x y ∧ x.sampleRate = y.sampleRate)
      (Stream.start ⟨g, n, config, false⟩) (Stream.start ⟨h, m, config, false⟩) := by
  refine Same.andThen (.step (fun _ k hx => run_request hx k (.startStream n))
    (fun _ k hx => run_request hx k (.startStream m))
    fun _ _ hxy => agrees_startStream hxy.1 hxy.2) fun _ => ?_
  exact .pure fun _ _ hxy => ⟨rfl, rfl, hxy⟩

theorem coupled_stop (config : StreamConfig) :
    Coupled (fun x y => ∃ st, Playing b 0 g h n m st x y) E
      (fun u v x y => u = ⟨g, n, config, false⟩ ∧ v = ⟨h, m, config, false⟩ ∧
        ∃ st, st.running = false ∧ Playing b 0 g h n m st x y)
      (Stream.stop ⟨g, n, config, true⟩) (Stream.stop ⟨h, m, config, true⟩) := by
  have hstop : Same (fun x y => ∃ st, Playing b 0 g h n m st x y) E
      (fun _ x y => ∃ st, st.running = false ∧ Playing b 0 g h n m st x y)
      (Attempt.of (Host.request (.stopStream n)) : Attempt Unit)
      (Attempt.of (Host.request (.stopStream m)) : Attempt Unit) := by
    refine .step (fun _ k hx => run_request hx k (.stopStream n))
      (fun _ k hx => run_request hx k (.stopStream m)) fun x y hxy => ?_
    obtain ⟨st, hst⟩ := hxy
    exact (agrees_stopStream hst).mono (fun _ _ hE => hE)
      fun _ _ _ _ hend => ⟨hend.1, _, rfl, hend.2⟩
  exact hstop.andThen fun _ => .pure fun _ _ hxy => ⟨rfl, rfl, hxy⟩

theorem same_destroy (config : StreamConfig) :
    Same (fun x y => ∃ st, st.running = false ∧ Playing b 0 g h n m st x y) E
      (fun _ => Facing b 0 g h) (Stream.destroy ⟨g, n, config, false⟩)
      (Stream.destroy ⟨h, m, config, false⟩) := by
  refine .step (fun _ k hx => run_request hx k (.destroyStream g n))
    (fun _ k hx => run_request hx k (.destroyStream h m)) fun x y hxy => ?_
  obtain ⟨st, hrest, hst⟩ := hxy
  exact agrees_destroyStream hst hrest

theorem same_streaming (hmoves : 0 < (loopOf s b).step.nanos)
    (hbudget : (loopOf s b).reads ≤ budget) (hbudget' : (loopOf s b).reads ≤ budget')
    (applied : Applied) :
    Same (fun x y => Playing b (readingTime s b) g h n m ⟨s.streamConfig, false, 0⟩ x y ∧
        x.sampleRate = y.sampleRate) E (fun _ => Facing b 0 g h)
      (streaming budget s applied ⟨g, n, s.streamConfig, false⟩)
      (streaming budget' s applied ⟨h, m, s.streamConfig, false⟩) := by
  have hloop := same_receiveFor (E := fun _ _ => False) (s := s) (d := g) (e := h)
    (u := ⟨g, n, s.streamConfig, true⟩) (v := ⟨h, m, s.streamConfig, true⟩) rfl rfl hmoves hbudget
    hbudget'
  unfold streaming
  refine (Coupled.guarding _ _ (coupled_start s.streamConfig)).known ?_
  refine Same.andThen (Coupled.guarding _ _ hloop) fun _ => ?_
  refine (Coupled.guarding _ _ (coupled_stop s.streamConfig)).known ?_
  refine (same_destroy s.streamConfig).andThen fun _ => ?_
  refine (Same.note (fun _ _ x y hxy => hxy.note x y) _ _).andThen fun _ => ?_
  exact (Same.line _).andThen fun _ => .pure fun _ _ hxy => ⟨rfl, hxy⟩

end Streaming

theorem same_session {s : Settings} (hmoves : 0 < (loopOf s b).step.nanos)
    (hbudget : (loopOf s b).reads ≤ budget) (hbudget' : (loopOf s b).reads ≤ budget') :
    Same (Matched b (readingTime s b) false d.handle e.handle) (Facing b 0 d.handle e.handle)
      (fun _ => Facing b 0 d.handle e.handle) (session budget d s) (session budget' e s) := by
  rw [session_eq, session_eq]
  refine (same_call .init rfl).andThen fun _ => (same_snapshot s).andThen fun _ => ?_
  refine (same_configure s).andThen fun applied => ?_
  refine (coupled_setup s.streamConfig).bind fun u v => ?_
  intro x y k hxy
  obtain ⟨n, m, rfl, rfl, hplay⟩ := hxy.states
  exact same_streaming hmoves hbudget hbudget' applied x y k
    ⟨hxy.left, hxy.right, hxy.unlimited, hplay⟩

/-! ## The whole test -/

theorem same_close : Same (Facing b 0 d.handle e.handle) E (fun _ => Apart b) d.close e.close := by
  refine (Same.note (fun _ _ x y h => h.note x y) _ _).andThen fun _ => ?_
  exact .step (fun _ k hx => run_request hx k (.closeDevice d.handle))
    (fun _ k hx => run_request hx k (.closeDevice e.handle)) fun _ _ h => agrees_closeDevice h

theorem same_drop :
    Same (Facing b 0 d.handle e.handle) E (fun _ => Apart b) (.always d.drop) (.always e.drop) := by
  have hclose : Same (Facing b 0 d.handle e.handle) (fun _ _ => False) (fun _ => Apart b)
      (Attempt.of (Host.request (.closeDevice d.handle)) : Attempt Unit)
      (Attempt.of (Host.request (.closeDevice e.handle)) : Attempt Unit) :=
    .step (fun _ k hx => run_request hx k (.closeDevice d.handle))
      (fun _ k hx => run_request hx k (.closeDevice e.handle)) fun _ _ h => agrees_closeDevice h
  rw [Device.drop, Device.drop, Attempt.always_bind, Attempt.always_bind]
  refine hclose.tried.andThen fun r => ?_
  match r with
  | .ok _ => exact .pure fun _ _ h => h
  | .error _ => exact fun _ _ _ hxy => hxy.states.2.elim

theorem same_closing (r : Except Error (Applied × Report)) :
    Same (Facing b 0 d.handle e.handle) (Apart b) (fun _ => Apart b) (closing d r)
      (closing e r) := by
  refine (same_close (E := fun _ _ => False)).tried.andThen fun a => ?_
  match a with
  | .ok _ =>
    refine Coupled.liftExcept fun x y h => ?_
    cases r with
    | ok a => exact ⟨rfl, h.2⟩
    | error e => exact ⟨rfl, h.2⟩
  | .error _ => exact fun _ _ _ hxy => hxy.states.2.elim

theorem same_ending (r : Except Error (Applied × Report)) :
    Same (Facing b 0 d.handle e.handle) (Apart b) (fun _ => Apart b) (ending d r)
      (ending e r) := by
  by_cases hr : r = .error .clockOverflow
  · subst hr
    exact same_drop.andThen fun _ => .throw _ fun _ _ h => h
  · rw [ending_of_ne hr, ending_of_ne hr]
    exact same_closing r

section Test

variable {s : Settings}

theorem same_withDevice (hmoves : 0 < (loopOf s b).step.nanos)
    (hbudget : (loopOf s b).reads ≤ budget) (hbudget' : (loopOf s b).reads ≤ budget') :
    Same (Matched b (readingTime s b) false d.handle e.handle) (Apart b) (fun _ => Apart b)
      (withDevice budget d s) (withDevice budget' e s) := by
  rw [withDevice_eq, withDevice_eq]
  refine (same_session hmoves hbudget hbudget').tried.andThen fun r => ?_
  refine (same_ending r).weaken fun x y h => ?_
  cases r with
  | ok a => exact h.2
  | error e => exact h.2

theorem coupled_opened {info : String} (hinfo : info ∈ b.listed) :
    Coupled (Waiting b room) E (fun d e => Matched b room false d.handle e.handle)
      (Device.opened info) (Device.opened info) := by
  refine Coupled.bind (.step (fun _ k hx => run_request hx k (.openDevice info))
    (fun _ k hx => run_request hx k (.openDevice info))
    fun _ _ h => concur_openDevice h hinfo) fun g h => ?_
  exact (Same.note (fun _ _ x y hxy => hxy.note x y) _ _).andThen fun _ => .pure fun _ _ hxy => hxy

theorem same_listDevices {W : State → State → Prop} (names : List String) :
    Same W E (fun _ => W) (listDevices names) (listDevices names) := by
  induction names with
  | nil => exact .pure fun _ _ h => ⟨rfl, h⟩
  | cons name rest ih => exact (Same.line _).andThen fun _ => ih

theorem same_surveying (hmoves : 0 < (loopOf s b).step.nanos)
    (hbudget : (loopOf s b).reads ≤ budget) (hbudget' : (loopOf s b).reads ≤ budget') :
    Same (Waiting b (readingTime s b)) (Apart b) (fun _ => Apart b) (surveying budget s b.listed)
      (surveying budget' s b.listed) := by
  refine (Same.line _).andThen fun _ => ?_
  cases hlisted : b.listed with
  | nil => exact .pure fun _ _ h => ⟨rfl, h.apart⟩
  | cons first others =>
    have hfirst : first ∈ b.listed := hlisted ▸ List.mem_cons_self
    refine (same_listDevices _).andThen fun _ => (coupled_opened hfirst).bind fun d e => ?_
    refine (same_withDevice hmoves hbudget hbudget').andThen fun r => ?_
    exact .pure fun _ _ h => ⟨rfl, h⟩

theorem same_survey (hmoves : 0 < (loopOf s b).step.nanos)
    (hbudget : (loopOf s b).reads ≤ budget) (hbudget' : (loopOf s b).reads ≤ budget') :
    Same (Waiting b (readingTime s b)) (Apart b) (fun _ => Apart b) (survey budget s)
      (survey budget' s) := by
  rw [survey_eq, survey_eq]
  have hlist : Coupled (Waiting b (readingTime s b)) (Apart b)
      (fun names names' x y =>
        names = b.listed ∧ names' = b.listed ∧ Waiting b (readingTime s b) x y)
      (Attempt.of (Host.request .deviceList)) (Attempt.of (Host.request .deviceList)) := by
    refine .step (fun _ k hx => run_request hx k .deviceList)
      (fun _ k hx => run_request hx k .deviceList) fun x y h => ?_
    exact concur_attempt h.left h.right ⟨h.left.listed, h.right.listed, h.recorded _⟩
  exact hlist.known (same_surveying hmoves hbudget hbudget')

theorem same_run (hmoves : 0 < (loopOf s b).step.nanos)
    (hbudget : (loopOf s b).reads ≤ budget) (hbudget' : (loopOf s b).reads ≤ budget') :
    Same (Waiting b (readingTime s b)) (Apart b) (fun _ => Apart b) (run budget s)
      (run budget' s) := by
  have hversion {W : State → State → Prop} :
      Same W (Apart b) (fun _ => W) (.always (Host.request .libraryVersion))
        (.always (Host.request .libraryVersion)) := by
    intro x y k hxy
    obtain ⟨served, hx⟩ := run_request hxy.left k .libraryVersion
    obtain ⟨served', hy⟩ := run_request hxy.right k .libraryVersion
    exact ⟨_, _, _, _, k, run_lift_of_eq hx, run_lift_of_eq hy,
      ⟨hxy.left, hxy.right, hxy.unlimited, rfl, hxy.states⟩⟩
  refine hversion.andThen fun _ => (Same.line _).andThen fun _ => ?_
  refine Coupled.within .forward (same_survey hmoves hbudget hbudget') ?_ ?_ ?_
  · exact fun _ _ _ h => ⟨{ h.left with }, { h.right with }, h.blankLeft, h.blankRight⟩
  · exact fun _ _ _ h => ⟨{ h.1 with }, { h.2 with }⟩
  · exact fun _ _ _ _ _ h => ⟨h.1, { h.2.1 with }, { h.2.2 with }⟩

/-- A radio that a test gets through to its end: no failure is pending, a read moves the clock,
and the clock can show the time of every read. -/
structure Suits (s : Settings) (x : Simulated) : Prop where
  reachable : Reachable x.state
  plain : x.overlay = .none
  unarmed : x.state.armed = []
  moves : 0 < (loopOf s x.state).step.nanos
  inTime : x.state.clock.nanos + readingTime s x.state ≤ Duration.limit.nanos

theorem reachable_of_run {α : Type} {p : Prog Host α} {x x' : Simulated} {k k' : Sink} {a : α}
    (h : p.run Simulated.handle (x, k) = (some a, (x', k'))) (hx : Reachable x.state) :
    Reachable x'.state := by
  obtain ⟨es, -, hpath⟩ := yields_run h
  refine hpath.invariant (P := fun z => Reachable z.1.state) (fun ev z z' hz hreach => ?_) hx
  obtain ⟨o, a⟩ := ev
  obtain rfl : (Simulated.handle o z).2 = z' := congrArg Prod.snd hz
  match o with
  | .inl r => exact hreach.perform r
  | .inr .now => exact hreach
  | .inr (.note e) => exact hreach.note e
  | .inr (.write text) => exact hreach

theorem Suits.calm {x : Simulated} (h : Suits s x) :
    Calm x.state (readingTime s x.state) x.state :=
  ⟨rfl, rfl, rfl, h.unarmed, h.inTime⟩

/-- What a test makes of two radios, whatever there was before. -/
theorem run_onBoth {x y : Simulated} (hx : Suits s x) (hy : Reachable y.state)
    (hplain : y.overlay = .none) (hcalm : Calm x.state (readingTime s x.state) y.state)
    (hbudget : (loopOf s x.state).reads ≤ budget) (hbudget' : (loopOf s x.state).reads ≤ budget') :
    ∃ r x' y' k, Simulated.carryOut none (run budget s).run x = (some r, x', k) ∧
      Simulated.carryOut none (run budget' s).run y = (some r, y', k) ∧
      x'.overlay = .none ∧ Calm x.state 0 x'.state := by
  have hwaiting : Waiting x.state (readingTime s x.state) x.state y.state :=
    ⟨hx.calm, hcalm, hx.reachable.channelState_next, hy.channelState_next⟩
  obtain ⟨r, r', x', y', k, hrun, hrun', hend⟩ :=
    same_run hx.moves hbudget hbudget' x y (.empty none) ⟨hx.plain, hplain, rfl, hwaiting⟩
  match r, r' with
  | .ok a, .ok b =>
    obtain rfl := hend.states.1
    exact ⟨.ok a, x', y', k, hrun, hrun', hend.left, hend.states.2.1⟩
  | .error e, .error e' =>
    obtain rfl := hend.states.1
    exact ⟨.error e, x', y', k, hrun, hrun', hend.left, hend.states.2.1⟩
  | .ok a, .error e => exact hend.states.elim
  | .error e, .ok b => exact hend.states.elim

/-- Two radios that list the same devices and read alike give a test the same outcome and the
same text, whatever calls and tests they served before, and a test that is made again gives the
same once more.  The outcome comes with every value that was read back and every report. -/
theorem run_forgetsHistory {x y : Simulated} (hx : Suits s x) (hy : Suits s y)
    (hlisted : y.state.listed = x.state.listed)
    (hlatency : y.state.readLatency = x.state.readLatency)
    (hstarved : y.state.starved = x.state.starved)
    (hbudget : (loopOf s x.state).reads ≤ budget) (hbudget' : (loopOf s x.state).reads ≤ budget') :
    ∃ r x' y' k, Simulated.carryOut none (run budget s).run x = (some r, x', k) ∧
      Simulated.carryOut none (run budget' s).run y = (some r, y', k) ∧
      (x'.state.clock.nanos + readingTime s x.state ≤ Duration.limit.nanos →
        ∃ x'', Simulated.carryOut none (run budget' s).run x' = (some r, x'', k)) := by
  have hpace : (loopOf s y.state).SamePace (loopOf s x.state) := ⟨hstarved, hlatency, rfl⟩
  have htime : readingTime s y.state = readingTime s x.state := by
    rw [readingTime, readingTime, hpace.reads, hpace.step]
  have hcalm : Calm x.state (readingTime s x.state) y.state :=
    ⟨hlisted, hlatency, hstarved, hy.unarmed, htime ▸ hy.inTime⟩
  obtain ⟨r, x', y', k, hrun, hrun', hplain, hleft⟩ :=
    run_onBoth hx hy.reachable hy.plain hcalm hbudget hbudget'
  refine ⟨r, x', y', k, hrun, hrun', fun hlater => ?_⟩
  have hreach : Reachable x'.state := reachable_of_run hrun hx.reachable
  obtain ⟨r₁, x₁, x₂, k₁, hagain, hagain', -, -⟩ :=
    run_onBoth hx hreach hplain { hleft with inTime := hlater } hbudget hbudget'
  -- the first of these runs is the one from before
  obtain ⟨hr, hrest⟩ := Prod.mk.inj (hagain.symm.trans hrun)
  rw [Option.some.inj hr, (Prod.mk.inj hrest).2] at hagain'
  exact ⟨x₂, hagain'⟩

/-- A radio that served before: a device and a stream were left to it, a rate was set, and its
clock has moved. -/
def secondhand : Simulated where
  state := (perform (.setupStream ⟨0⟩ (.standard ⟨.rx, 0⟩))
    (perform (.device ⟨0⟩ (.setSampleRate 1e6 4))
      (perform (.openDevice "mini") ((State.start ["mini"]).advance ⟨40⟩).2).2).2).2
  overlay := .none
  reads := 0

theorem secondhand_run_forgetsHistory :
    Suits (.standard ⟨[]⟩) (.start ["mini"] .none) ∧ Suits (.standard ⟨[]⟩) secondhand ∧
      secondhand.state.clock = ⟨40⟩ ∧
      ∃ r x' y' k,
        Simulated.carryOut none (run 10000 (.standard ⟨[]⟩)).run (.start ["mini"] .none) =
            (some r, x', k) ∧
          Simulated.carryOut none (run 20000 (.standard ⟨[]⟩)).run secondhand =
            (some r, y', k) := by
  have hnew : Suits (.standard ⟨[]⟩) (.start ["mini"] .none) := {
    reachable := .start _
    plain := rfl
    unarmed := rfl
    moves := by decide
    inTime := by decide }
  have hused : Suits (.standard ⟨[]⟩) secondhand := {
    reachable := .perform _ (.perform _ (.perform _ (.advance _ (.start _))))
    plain := rfl
    unarmed := rfl
    moves := by decide
    inTime := by decide }
  obtain ⟨r, x', y', k, hrun, hrun', -⟩ :=
    run_forgetsHistory hnew hused rfl rfl rfl (by decide : _ ≤ 10000) (by decide : _ ≤ 20000)
  exact ⟨hnew, hused, rfl, r, x', y', k, hrun, hrun'⟩

end Test

end Bench
end RadioBench
