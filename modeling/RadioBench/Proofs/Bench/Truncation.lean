/-
Failures cut a smoke test short and do nothing else.

The test is taken one operation at a time, beside the same test without failures.  Where a
failure is passed over, as when the configuration cannot be saved or the device not be closed, the
rest of the test is the same.  Where one ends the test, what is left to do is to give the stream,
the device and the log handler back, and none of that writes.
-/
import RadioBench.Proofs.Bench.Forgetful
import RadioBench.Proofs.Bench.Trails

namespace RadioBench

theorem LogScope.within_eq {α : Type} (handler : LogHandler) (p : Attempt α) :
    within handler p = (Attempt.always (Host.request (.registerLog none)) >>= fun _ =>
      Attempt.always (Host.request (.registerLog (some handler))) >>= fun _ =>
        Attempt.always p.run >>= fun r => Attempt.always leave >>= fun _ => liftExcept r) := by
  refine ExceptT.ext ?_
  simp only [Attempt.always, ExceptT.run_bind_lift]
  refine congrArg (Prog.ask _) (funext fun _ => congrArg (Prog.ask _) (funext fun _ => ?_))
  refine bind_congr fun r => bind_congr fun _ => ?_
  cases r with
  | ok a => rfl
  | error e => rfl

/-- What a stream's guard does once the program that it guards has ended. -/
def Stream.released {α : Type} (s : Stream) : Except Error α → Attempt α
  | .ok a => pure a
  | .error e => do
    .always s.drop
    throw e

theorem Stream.guarding_eq {α : Type} (s : Stream) (p : Attempt α) :
    s.guarding p = (Attempt.always p.run >>= s.released) := by
  refine ExceptT.ext ?_
  simp only [Attempt.always, ExceptT.run_bind_lift]
  refine bind_congr fun r => ?_
  cases r with
  | ok a => rfl
  | error e =>
    simp only [released, Attempt.always, ExceptT.run_bind_lift]
    rfl

namespace Bench

open Prog Simulator SmokeTest

variable {F : List String} {limit bound : Option Nat} {d : Device} {s : Settings} {stream : Stream}
  {budget : Nat} {α : Type}

/-! ## Calls -/

theorem keeps_call {c : DeviceCall} (hc : (Request.device d.handle c).forgiven = false) :
    Keeps F limit bound (d.call c) := by
  refine .step (makes_call d c) (d.performs_call hc) (follows_deviceCall d.handle c) ?_
  cases c with
  | saveConfig path => cases hc
  | _ => simp [DeviceCall.name]

theorem keeps_channel {ch : ChannelId} {c : ChannelCall} (hc : c.refusal? = none) :
    Keeps F limit bound (d.channel ch c) := by
  refine .step (makes_channel d ch hc) (d.performs_channel ch hc)
    (follows_channelCall d.handle ch c) ?_
  cases c <;> simp [ChannelCall.name]

/-- A request that cannot fail. -/
theorem keeps_unfailing {r : Request} (hr : ∀ a, Event.fatal? ⟨.inl r, a⟩ = none)
    (h : ∀ t u, Shadows F t u → (perform r t).1 = (perform r u).1 ∧
      Shadows F (perform r t).2 (perform r u).2) :
    Keeps F limit bound (.always (Host.request r)) := by
  refine Trails.of_runs (fun es a hes => ?_) fun z w hzw => ?_
  · obtain ⟨b, -, hb⟩ := Attempt.yields_always_iff.mp hes
    rw [Host.yields_request_iff.mp hb]
    exact clean_cons.mpr ⟨hr b, clean_nil⟩
  · obtain ⟨served, hz⟩ := run_request hzw.left z.2 r
    obtain ⟨served', hw⟩ := run_request hzw.right w.2 r
    obtain ⟨hsame, hshadows⟩ := h _ _ hzw.states
    rw [hsame] at hz
    exact ⟨_, _, _, run_lift_of_eq hz, run_lift_of_eq hw, { hzw with states := hshadows }⟩

/-! ## The configuration -/

theorem keeps_listAntennas (number : Nat) (names : List String) :
    Keeps F limit bound (listAntennas number names) := by
  induction names generalizing number with
  | nil => exact .pure () fun _ _ h => h
  | cons name rest ih => exact (Trails.line _).andThen fun _ => ih (number + 1)

theorem keeps_configure : Keeps F limit bound (configure d s) := by
  unfold configure
  -- the channel and its frequency
  refine (Trails.note _).andThen fun _ => (keeps_channel rfl).andThen fun _ => ?_
  refine (Trails.note _).andThen fun _ => (keeps_channel rfl).andThen fun _ => ?_
  refine (keeps_channel rfl).andThen fun _ => (Trails.line _).andThen fun _ => ?_
  -- the antennas
  refine (keeps_channel rfl).andThen fun _ => (Trails.line _).andThen fun _ => ?_
  refine (keeps_listAntennas _ _).andThen fun _ => ?_
  refine (keeps_channel rfl).andThen fun _ => (Trails.line _).andThen fun _ => ?_
  refine (keeps_channel rfl).andThen fun _ => ?_
  refine (keeps_channel rfl).andThen fun _ => (Trails.line _).andThen fun _ => ?_
  -- the sample rate
  refine (Trails.note _).andThen fun _ => (keeps_call rfl).andThen fun _ => ?_
  refine (keeps_channel rfl).andThen fun _ => (Trails.line _).andThen fun _ => ?_
  -- the filter
  refine (keeps_call rfl).andThen fun _ => (Trails.line _).andThen fun _ => ?_
  refine Trails.perhaps (Trails.note _) fun _ => ?_
  refine (keeps_channel rfl).andThen fun _ => ?_
  -- the gain
  refine (keeps_channel rfl).andThen fun _ => ?_
  refine (keeps_channel rfl).andThen fun _ => (Trails.line _).andThen fun _ => ?_
  refine (keeps_channel rfl).andThen fun _ => (Trails.line _).andThen fun _ => ?_
  -- the calibration and the test signal
  refine (Trails.note _).andThen fun _ => (keeps_channel rfl).andThen fun _ => ?_
  exact (keeps_channel rfl).andThen fun _ => .pure _ fun _ _ h => h

/-! ## The loop of reads -/

theorem makes_take (timeout : Duration) (p : Stream.Progress) :
    Makes (stream.take timeout p) fun t =>
      ((recvStream stream.handle p.buffer timeout t).1.map fun got => p.counted got.1 p.buffer,
        (recvStream stream.handle p.buffer timeout t).2) := by
  intro x k hx
  obtain ⟨served, hrun⟩ := run_request hx k (.recvStream stream.handle p.buffer none timeout)
  refine ⟨served, (run_bind_ok (run_lift_of_eq hrun)).trans ?_⟩
  dsimp only [perform]
  obtain ⟨result, t⟩ := recvStream stream.handle p.buffer timeout x.state
  cases result with
  | ok got => rfl
  | error e => rfl

theorem keeps_take (timeout : Duration) (p : Stream.Progress) :
    Keeps F limit bound (stream.take timeout p) :=
  .step (makes_take timeout p) (Stream.performs_take timeout p)
    (follows_map (follows_recvStream stream.handle p.buffer timeout) _) (by decide)

theorem keeps_announce : Keeps F limit bound stream.announce := by
  have hstatus : Keeps F limit bound stream.status :=
    .step (fun _ k hx => run_request hx k (.streamStatus stream.handle)) Stream.performs_status
      (follows_streamStatus stream.handle) (by decide)
  refine hstatus.andThen fun _ => (Trails.line _).andThen fun _ => ?_
  exact (Trails.line _).andThen fun _ => .pure _ fun _ _ h => h

theorem keeps_settle (interval : Duration) (watch : Stopwatch) (p : Stream.Progress) :
    Keeps F limit bound (stream.settle interval watch p) := by
  refine Trails.now.andThen fun t => ?_
  split
  · exact keeps_announce.andThen fun _ => .pure _ fun _ _ h => h
  · exact .pure _ fun _ _ h => h

/-- The loop turns as often as without failures, unless one ends it. -/
theorem keeps_pump (timing : Timing) (watch : Stopwatch) (budget : Nat) (p : Stream.Progress) :
    Keeps F limit bound (stream.pump timing watch budget p) := by
  induction budget generalizing p with
  | zero =>
    rw [Stream.pump_zero]
    refine Trails.now.andThen fun t => ?_
    split
    · -- a loop that gives up does not end
      intro z w es r w' _ hes
      obtain ⟨a, -, ha⟩ := Attempt.yields_always_iff.mp hes
      exact absurd ha not_yields_exhausted
    · exact .pure _ fun _ _ h => h
  | succ budget ih =>
    rw [Stream.pump_succ]
    refine Trails.now.andThen fun t => ?_
    split
    · have hturn : Keeps F limit bound (stream.turn timing watch p) :=
        (keeps_take timing.timeout p).andThen fun q => keeps_settle timing.interval watch q
      exact hturn.andThen fun q => ih q
    · exact .pure _ fun _ _ h => h

theorem keeps_receiveFor (buffer : SampleBuffer) (timing : Timing) :
    Keeps F limit bound (stream.receiveFor budget buffer timing) := by
  refine Trails.now.andThen fun t => (keeps_pump timing ⟨t⟩ budget _).andThen fun p => ?_
  exact Trails.now.andThen fun _ => .pure _ fun _ _ h => h

/-! ## What gives things back -/

theorem silent_destroy (stream : Stream) : Silent stream.destroy.run := by
  have hdestroy : Silent (Attempt.of (Host.request (.destroyStream stream.device stream.handle)) :
      Attempt Unit).run := .request _
  unfold Stream.destroy
  split
  · refine (Silent.request _).always.andThen fun r => ?_
    cases (r : Except Error Unit) with
    | ok _ => exact hdestroy
    | error _ => exact (Silent.note _).always.andThen fun _ => hdestroy
  · exact hdestroy

theorem silent_drop (stream : Stream) : Silent stream.drop := by
  refine (silent_destroy stream).bind fun r => ?_
  cases r with
  | ok _ => exact .done _
  | error _ => exact .note _

theorem silent_released (stream : Stream) (r : Except Error α) :
    Silent (stream.released r).run := by
  cases r with
  | ok a => exact .done _
  | error e => exact (silent_drop stream).always.andThen fun _ => .done _

theorem silent_closing (d : Device) (x : Except Error (Applied × Report)) :
    Silent (closing d x).run := by
  have hclose : Silent d.close.run := (Silent.note _).always.andThen fun _ => .request _
  refine hclose.always.andThen fun r => ?_
  cases r with
  | ok _ => exact .ofExcept x
  | error _ => exact (Silent.note _).always.andThen fun _ => .ofExcept x

theorem silent_ending (d : Device) (x : Except Error (Applied × Report)) :
    Silent (ending d x).run := by
  by_cases hx : x = .error .clockOverflow
  · subst hx
    have hdrop : Silent d.drop := by
      refine (Silent.request _).bind fun r => ?_
      cases (r : Except Error Unit) with
      | ok _ => exact .done _
      | error _ => exact .note _
    exact hdrop.always.andThen fun _ => .done _
  · rw [ending_of_ne hx]
    exact silent_closing d x

/-! ## The session -/

theorem keeps_guarding {p : Attempt α} (stream : Stream) (hp : Keeps F limit bound p) :
    Keeps F limit bound (stream.guarding p) := by
  rw [Stream.guarding_eq]
  refine hp.lastly (silent_released stream) (fun r es q hes => ?_) (fun a es hes => ?_) ?_
  · cases r with
    | ok a => exact (Attempt.yields_pure_iff.mp hes).2
    | error e =>
      obtain ⟨u, es₁, es₂, rfl, -, h₂⟩ := Attempt.yields_always_bind_iff.mp hes
      exact (Attempt.yields_throw_iff.mp h₂).2
  · rw [(Attempt.yields_pure_iff.mp hes).1]
    exact clean_nil
  · intro a z w z' w' h hz hw
    rw [← (Prod.mk.inj hz).2, ← (Prod.mk.inj hw).2]
    exact h

/-- A configuration that could not be saved is passed over. -/
theorem keeps_snapshot : Keeps F limit bound (snapshot d s) := by
  have hrun (x : Simulated) (k : Sink) (hx : x.overlay = .none) :
      ∃ served j, (snapshot d s).run.run Simulated.handle (x, k) = (some (.ok ()),
        (⟨{ (deviceCall d.handle (.saveConfig s.configSnapshot) x.state).2 with journal := j },
          x.overlay, served⟩, k)) := by
    obtain ⟨served, hcall⟩ := makes_call d (.saveConfig s.configSnapshot) x k hx
    refine ⟨served, ?_⟩
    cases hout : (deviceCall d.handle (.saveConfig s.configSnapshot) x.state).1 with
    | ok u =>
      rw [hout] at hcall
      exact ⟨_, run_bind_ok (run_lift_of_eq hcall)⟩
    | error e =>
      rw [hout] at hcall
      exact ⟨_, run_bind_ok (run_lift_of_eq hcall)⟩
  refine Trails.of_runs (fun es a hes => (performs_snapshot d es _ hes).1) fun z w h => ?_
  obtain ⟨served, j, hz⟩ := hrun z.1 z.2 h.left
  obtain ⟨served', j', hw⟩ := hrun w.1 w.2 h.right
  exact ⟨(), _, _, hz, hw, { h with states := (h.states.saveConfig _ _).journal j j' }⟩

theorem keeps_setup (config : StreamConfig) : Keeps F limit bound (Stream.setup d config) := by
  have hrequest : Keeps F limit bound
      (Attempt.of (Host.request (.setupStream d.handle config)) : Attempt StreamHandle) :=
    .step (fun _ k hx => run_request hx k (.setupStream d.handle config))
      (.request (r := .setupStream d.handle config) rfl fun _ x h =>
        ⟨x, Host.yields_request_iff.mp h, rfl⟩)
      (follows_setupStream d.handle config) (by decide)
  exact hrequest.andThen fun _ => (Trails.note _).andThen fun _ => .pure _ fun _ _ h => h

theorem keeps_start : Keeps F limit bound stream.start := by
  have hrequest : Keeps F limit bound
      (Attempt.of (Host.request (.startStream stream.handle)) : Attempt Unit) :=
    .step (fun _ k hx => run_request hx k (.startStream stream.handle))
      (.request (r := .startStream stream.handle) rfl fun _ x h =>
        ⟨x, Host.yields_request_iff.mp h, rfl⟩)
      (follows_startStream stream.handle) (by decide)
  exact hrequest.andThen fun _ => .pure _ fun _ _ h => h

theorem keeps_stop (hrunning : stream.running = true) : Keeps F limit bound stream.stop := by
  have hrequest : Keeps F limit bound
      (Attempt.of (Host.request (.stopStream stream.handle)) : Attempt Unit) :=
    .step (fun _ k hx => run_request hx k (.stopStream stream.handle))
      (.request (r := .stopStream stream.handle) rfl fun _ x h =>
        ⟨x, Host.yields_request_iff.mp h, rfl⟩)
      (follows_stopStream stream.handle) (by decide)
  rw [Stream.stop, if_pos hrunning]
  exact hrequest.andThen fun _ => .pure _ fun _ _ h => h

theorem keeps_destroy (hrest : stream.running = false) : Keeps F limit bound stream.destroy := by
  rw [Stream.destroy, hrest]
  exact .step (fun _ k hx => run_request hx k (.destroyStream stream.device stream.handle))
    (.request (r := .destroyStream stream.device stream.handle) rfl fun _ x h =>
      ⟨x, Host.yields_request_iff.mp h, rfl⟩)
    (follows_destroyStream stream.device stream.handle) (by decide)

theorem running_of_started {es : List (Event Host)} {u : Stream}
    (h : (stream.guarding stream.start).run.Yields es (.ok u)) : u.running = true := by
  rcases Stream.of_yields_guarding h with ⟨v, hv, hes⟩ | ⟨e, es₁, es₂, he, -⟩
  · rcases Stream.of_yields_start hes with ⟨-, hout⟩ | ⟨e, -, hout⟩
    · rw [Except.ok.inj hv, Except.ok.inj hout]
    · cases hout
  · cases he

theorem atRest_of_stopped {es : List (Event Host)} {u : Stream}
    (h : (stream.guarding stream.stop).run.Yields es (.ok u)) : u.running = false := by
  rcases Stream.of_yields_guarding h with ⟨v, hv, hes⟩ | ⟨e, es₁, es₂, he, -⟩
  · rcases Stream.of_yields_stop hes with ⟨-, -, hout⟩ | ⟨-, e, -, hout⟩ | ⟨-, -, hout⟩
    · rw [Except.ok.inj hv, Except.ok.inj hout]
    · cases hout
    · cases hout
  · cases he

theorem keeps_streaming (applied : Applied) :
    Keeps F limit bound (streaming budget s applied stream) := by
  refine (keeps_guarding stream keeps_start).bind fun u es hu => ?_
  refine (keeps_guarding u (keeps_receiveFor _ _)).andThen fun report => ?_
  refine (keeps_guarding u (keeps_stop (running_of_started hu))).bind fun v es' hv => ?_
  refine (keeps_destroy (atRest_of_stopped hv)).andThen fun _ => (Trails.note _).andThen fun _ => ?_
  exact (Trails.line _).andThen fun _ => .pure _ fun _ _ h => h

theorem keeps_session : Keeps F limit bound (session budget d s) := by
  rw [session_eq]
  refine (keeps_call rfl).andThen fun _ => keeps_snapshot.andThen fun _ => ?_
  refine keeps_configure.andThen fun applied => (keeps_setup _).andThen fun stream => ?_
  exact keeps_streaming applied

/-! ## The whole test -/

/-- The same text was written. -/
def SameText (z w : Simulated × Sink) : Prop := z.2.stored = w.2.stored

/-- A device that could not be closed makes no difference to the text. -/
theorem trails_withDevice :
    Trails F limit bound (Abreast F limit bound) SameText (withDevice budget d s) := by
  rw [withDevice_eq]
  refine keeps_session.lastly (silent_ending d) (fun r es q hes => (of_yields_ending hes).1)
    (fun a es hes => (of_yields_ending hes).2.clean) fun a z w z' w' h hz hw => ?_
  rw [SameText, (silent_ending d _).of_run hz, (silent_ending d _).of_run hw]
  exact h.text

theorem keeps_opened (info : String) : Keeps F limit bound (Device.opened info) := by
  have hrequest : Keeps F limit bound
      (Attempt.of (Host.request (.openDevice info)) : Attempt DeviceHandle) :=
    .step (fun _ k hx => run_request hx k (.openDevice info))
      (.request (r := .openDevice info) rfl fun _ x h => ⟨x, Host.yields_request_iff.mp h, rfl⟩)
      (follows_openDevice info) (by decide)
  exact hrequest.andThen fun _ => (Trails.note _).andThen fun _ => .pure _ fun _ _ h => h

theorem keeps_listDevices (names : List String) : Keeps F limit bound (listDevices names) := by
  induction names with
  | nil => exact .pure () fun _ _ h => h
  | cons name rest ih => exact (Trails.line _).andThen fun _ => ih

theorem trails_surveying (devices : List String) :
    Trails F limit bound (Abreast F limit bound) SameText (surveying budget s devices) := by
  refine (Trails.line _).andThen fun _ => ?_
  cases devices with
  | nil => exact .pure _ fun _ _ h => h.text
  | cons first others =>
    refine (keeps_listDevices _).andThen fun _ => (keeps_opened first).andThen fun d => ?_
    exact trails_withDevice.andThen fun _ => .pure _ fun _ _ h => h

theorem trails_survey :
    Trails F limit bound (Abreast F limit bound) SameText (survey budget s) := by
  rw [survey_eq]
  have hlist : Keeps F limit bound
      (Attempt.of (Host.request .deviceList) : Attempt (List String)) :=
    .step (fun _ k hx => run_request hx k .deviceList)
      (.request (r := .deviceList) rfl fun _ x h => ⟨x, Host.yields_request_iff.mp h, rfl⟩)
      follows_deviceList (by decide)
  exact hlist.andThen trails_surveying

theorem trails_within {p : Attempt α} (handler : LogHandler)
    (hp : Trails F limit bound (Abreast F limit bound) SameText p) :
    Trails F limit bound (Abreast F limit bound) SameText (LogScope.within handler p) := by
  have hregister (r : Option LogHandler) :
      Keeps F limit bound (.always (Host.request (.registerLog r))) :=
    keeps_unfailing (fun _ => rfl) fun _ _ h => ⟨rfl, h.registerLog r⟩
  have hleave (r : Except Error α) :
      Silent (Attempt.always LogScope.leave >>= fun _ => (liftExcept r : Attempt α)).run :=
    (Silent.request _).always.andThen fun _ => .ofExcept r
  rw [LogScope.within_eq]
  refine (hregister none).andThen fun _ => (hregister (some handler)).andThen fun _ => ?_
  refine hp.lastly hleave (fun r es q hes => ?_) (fun a es hes => ?_) ?_
  · obtain ⟨u, es₁, es₂, rfl, -, h₂⟩ := Attempt.yields_always_bind_iff.mp hes
    exact (Attempt.yields_liftExcept_iff.mp h₂).2
  · obtain ⟨u, es₁, es₂, rfl, h₁, h₂⟩ := Attempt.yields_always_bind_iff.mp hes
    rw [Host.yields_request_iff.mp h₁, (Attempt.yields_liftExcept_iff.mp h₂).1]
    exact clean_cons.mpr ⟨rfl, clean_nil⟩
  · intro a z w z' w' h hz hw
    rw [SameText, (hleave _).of_run hz, (hleave _).of_run hw]
    exact h

theorem trails_run : Trails F limit bound (Abreast F limit bound) SameText (run budget s) := by
  have hversion : Keeps F limit bound (.always (Host.request .libraryVersion)) :=
    keeps_unfailing (fun _ => rfl) fun _ _ h => ⟨rfl, h⟩
  refine hversion.andThen fun _ => (Trails.line _).andThen fun _ => ?_
  exact trails_within .forward trails_survey

/-! ## What is left of a test -/

/-- A run of the program from `z` to `z'` that ended with `q`, beside one without failures that
led to `w` and ended with `r`. -/
structure Begins (p : Attempt α) (z : Simulated × Sink) (q : Except Error α)
    (z' : Simulated × Sink) (r : Except Error α) (w : Simulated × Sink) : Prop where
  /-- The text is a beginning of the other's. -/
  text : z'.2.stored.toList <+: w.2.stored.toList
  /-- A program that succeeds has written all of it. -/
  whole : ∀ a, q = .ok a → r = .ok a ∧ z'.2.stored = w.2.stored
  /-- Of one that fails, the calls up to the one that gave the error, or up to the text that was
  not written, are a beginning of the other's.  Nothing is written after that. -/
  calls : ∀ e, q = .error e → ∃ main after mid,
    p.run.Yields (main ++ after) (.error e) ∧ StopsAt main e ∧
      Path (Handles Simulated.handle) z main mid ∧ Path (Handles Simulated.handle) mid after z' ∧
      z'.2 = mid.2 ∧ mid.1.state.calls.toList <+: w.1.state.calls.toList

theorem begins_of_trails {p : Attempt α} {z w w' : Simulated × Sink} {r : Except Error α}
    (hp : Trails F limit bound (Abreast F limit bound) SameText p)
    (hzw : Abreast F limit bound z w) (hw : p.run.run Simulated.handle w = (some r, w')) :
    ∃ q z', p.run.run Simulated.handle z = (some q, z') ∧ Begins p z q z' r w' ∧
      (¬ Fragile F limit bound → q = r ∧ SameText z' w') := by
  obtain ⟨es, hes, hpath⟩ := yields_run hw
  rcases hp z w es r w' hzw hes hpath with
    ⟨a, es', z', rfl, hes', hpath', -, hsame⟩ | ⟨e, main, after, mid, z', hes', hstruck⟩
  · refine ⟨.ok a, z', run_of_yields hes' hpath', ?_, fun _ => ⟨rfl, hsame⟩⟩
    constructor
    · exact hsame ▸ List.prefix_rfl
    · exact fun b hb => ⟨hb, hsame⟩
    · intro e he
      cases he
  · refine ⟨.error e, z', run_of_yields hes' (hstruck.begins.append hstruck.ends), ?_, ?_⟩
    · constructor
      · exact hstruck.silent ▸ hstruck.text
      · intro b hb
        cases hb
      · intro e' he
        obtain rfl := Except.error.inj he
        exact ⟨main, after, mid, hes', hstruck.stops, hstruck.begins, hstruck.ends,
          hstruck.silent, hstruck.calls⟩
    · intro hsturdy
      obtain ⟨hr, htext⟩ := hstruck.cause.resolve_left hsturdy
      exact ⟨hr.symm, (congrArg Sink.stored hstruck.silent).trans htext⟩

/-- The radio with failures pending. -/
def Simulated.failing (F : List String) (x : Simulated) : Simulated :=
  { x with state := F.foldl State.arm x.state }

theorem abreast_failing {x : Simulated} (hx : Suits s x) (F : List String)
    (hroomy : bound = none ∨ bound = limit) :
    Abreast F limit bound (x.failing F, .empty limit) (x, .empty bound) where
  left := hx.plain
  right := hx.plain
  states := shadows_arm F hx.unarmed
  text := rfl
  limited := rfl
  bounded := rfl
  roomy := hroomy

/-- Whatever failures are pending and however much text there is room for, a test is a beginning
of what it is without either.  Failures to save the configuration and to close the device change
neither its outcome nor its text. -/
theorem run_isOnlyCutShort {x : Simulated} (hx : Suits s x)
    (hbudget : (loopOf s x.state).reads ≤ budget) (F : List String) (limit : Option Nat) :
    ∃ r x' k, Simulated.carryOut none (run budget s).run x = (some r, x', k) ∧
      ∃ q y m, Simulated.carryOut limit (run budget s).run (x.failing F) = (some q, y, m) ∧
        Begins (run budget s) (x.failing F, .empty limit) q (y, m) r (x', k) ∧
        ((∀ name ∈ F, name = "save_config" ∨ name = "close") →
          ∃ x'' k', Simulated.carryOut limit (run budget s).run x = (some q, x'', k') ∧
            m.stored = k'.stored) := by
  obtain ⟨r, x', -, k, hrun, -⟩ :=
    run_onBoth hx hx.reachable hx.plain hx.calm hbudget hbudget
  obtain ⟨q, ⟨y, m⟩, hfailing, hbegins, -⟩ :=
    begins_of_trails trails_run (abreast_failing hx F (.inl rfl)) hrun
  refine ⟨r, x', k, hrun, q, y, m, hfailing, hbegins, fun hnames => ?_⟩
  -- the run that is cut off by the limit alone
  have hnone : Abreast [] limit none (x, .empty limit) (x, .empty none) :=
    abreast_failing hx [] (.inl rfl)
  obtain ⟨q', ⟨x'', k'⟩, hlimited, -⟩ := begins_of_trails trails_run hnone hrun
  obtain ⟨q'', ⟨y', m'⟩, hfailing', -, hsame⟩ :=
    begins_of_trails trails_run (abreast_failing hx F (.inr rfl)) hlimited
  obtain ⟨hq, hend⟩ := Prod.mk.inj (hfailing'.symm.trans hfailing)
  obtain rfl := Option.some.inj hq
  obtain ⟨-, rfl⟩ := Prod.mk.inj hend
  have hsturdy : ¬ Fragile F limit limit := by
    rintro (hlimit | ⟨name, hname, hsave, hclose⟩)
    · exact hlimit rfl
    · exact (hnames name hname).elim hsave hclose
  obtain ⟨rfl, htext⟩ := hsame hsturdy
  exact ⟨x'', k', hlimited, htext⟩

theorem crowded_run_isOnlyCutShort :
    Suits (.standard ⟨[]⟩) (.start ["mini"] .none) ∧
      (loopOf (.standard ⟨[]⟩) (.start ["mini"])).reads ≤ 10000 ∧
      ∃ r x' k q y m,
        Simulated.carryOut none (run 10000 (.standard ⟨[]⟩)).run (.start ["mini"] .none) =
            (some r, x', k) ∧
          Simulated.carryOut (some 100) (run 10000 (.standard ⟨[]⟩)).run
            (Simulated.failing ["save_config", "stop_stream"] (.start ["mini"] .none)) =
              (some q, y, m) ∧
          m.stored.toList <+: k.stored.toList := by
  have hnew : Suits (.standard ⟨[]⟩) (.start ["mini"] .none) := {
    reachable := .start _
    plain := rfl
    unarmed := rfl
    moves := by decide
    inTime := by decide }
  have hbudget : (loopOf (.standard ⟨[]⟩) (.start ["mini"])).reads ≤ 10000 := by decide
  obtain ⟨r, x', k, hrun, q, y, m, hrun', hbegins, -⟩ :=
    run_isOnlyCutShort hnew hbudget ["save_config", "stop_stream"] (some 100)
  exact ⟨hnew, hbudget, r, x', k, q, y, m, hrun, hrun', hbegins.text⟩

end Bench
end RadioBench
