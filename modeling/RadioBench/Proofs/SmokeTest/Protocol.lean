/-
What a smoke test asks of a driver, whatever it is answered.

The requests follow one script.  The first fatal event ends it: an error of the driver,
save of the two requests that are forgiven, or a text that was not written.  Only the
requests that give back what is held come after that event, and its error is the
outcome of the test unchanged.
-/
import RadioBench.Proofs.Guard.ReceiveLoop
import RadioBench.Proofs.SmokeTest.Part
import RadioBench.Proofs.SmokeTest.ReadBack
import RadioBench.SmokeTest.Session

namespace RadioBench
namespace SmokeTest

open Attempt

variable {budget : Nat} {s : Settings} {es : List (Event Host)}

/-! ## The script -/

/-- The requests of a session on a device, with the turns of its loop of reads. -/
def sessionRequests (s : Settings) (h : DeviceHandle) (n : StreamHandle)
    (turns : List (SampleBuffer × Bool)) : List Request :=
  .device h .init :: .device h (.saveConfig s.configSnapshot) :: (configureRequests h s ++
    .setupStream h s.streamConfig :: .startStream n ::
      (Stream.loopRequests n s.readTimeout turns ++ [.stopStream n, .destroyStream h n]))

/-- The requests of a test that uses the given device, once the devices are listed. -/
def testRequests (s : Settings) (first : String) (h : DeviceHandle) (n : StreamHandle)
    (turns : List (SampleBuffer × Bool)) : List Request :=
  .openDevice first :: (sessionRequests s h n turns ++ [.closeDevice h])

/-! ## Requests that keep the stage -/

theorem still_device (h : DeviceHandle) (c : DeviceCall) :
    (Stage.opened h).Still (.device h c) := fun a => .device h c a

theorem still_configure (h : DeviceHandle) (s : Settings) :
    ∀ q ∈ configureRequests h s, (Stage.opened h).Still q :=
  forall_configureRequests (still_device h) (fun ch c a => .channel h ch c a) s

theorem still_loop (h : DeviceHandle) (n : StreamHandle) (timeout : Duration)
    (turns : List (SampleBuffer × Bool)) :
    ∀ q ∈ Stream.loopRequests n timeout turns, (Stage.running h n).Still q :=
  Stream.forall_loopRequests (fun buffer a => .recv h n buffer none timeout a)
    (fun a => .status h n a) turns

/-! ## The session, in parts -/

/-- Save the configuration, and go on if that fails. -/
def snapshot (d : Device) (s : Settings) : Attempt Unit := do
  match ← Attempt.always (d.call (.saveConfig s.configSnapshot)).run with
  | .ok () => pure ()
  | .error e =>
    .warn ("could not save config to " ++ s.configSnapshot.text ++ ": " ++ e.message)

/-- What a session does once it has a stream. -/
def streaming (budget : Nat) (s : Settings) (applied : Applied) (stream : Stream) :
    Attempt (Applied × Report) := do
  let stream ← stream.guarding stream.start
  let report ← stream.guarding (stream.receiveFor budget (stream.buffer s.bufferSize) s.timing)
  let stream ← stream.guarding stream.stop
  stream.destroy
  .info (toString report.samples.toNat ++ " samples in " ++ toString report.reads ++
    " reads, " ++ toString report.timeouts ++ " timeouts")
  .line "All Done"
  pure (applied, report)

theorem session_eq (d : Device) :
    session budget d s = (do
      let () ← d.call .init
      snapshot d s
      let applied ← configure d s
      let stream ← Stream.setup d s.streamConfig
      streaming budget s applied stream) := by
  unfold session snapshot
  refine bind_congr fun u => ?_
  rw [bind_assoc]
  refine bind_congr fun r => ?_
  cases r with
  | ok v => rfl
  | error e => rfl

theorem performs_snapshot (d : Device) :
    Performs (snapshot d s) [.device d.handle (.saveConfig s.configSnapshot)] := by
  intro es r h
  obtain ⟨a, es₁, es₂, rfl, h₁, h₂⟩ := yields_always_bind_iff.mp h
  obtain rfl := Device.yields_call_iff.mp h₁
  cases (a : Except Error Unit) with
  | ok u =>
    obtain ⟨rfl, rfl⟩ := yields_pure_iff.mp h₂
    exact ⟨by simp [Event.fatal?, Request.forgiven], rfl⟩
  | error e =>
    obtain ⟨rfl, rfl⟩ := yields_warn_iff.mp h₂
    exact ⟨by simp [Event.fatal?, Request.forgiven], rfl⟩

/-! ## The parts at their stages -/

theorem part_opened {α : Type} {p : Attempt α} {rs : List Request} {r : Except Error α}
    (h : DeviceHandle) (hp : Performs p rs) (hrs : ∀ q ∈ rs, (Stage.opened h).Still q)
    (hes : p.run.Yields es r) : Part (.stream h) rs (.opened h) (.opened h) es r :=
  .of_cut (hp es r hes) hrs rfl rfl rfl

theorem part_setup {d : Device} {r : Except Error Stream}
    (h : (Stream.setup d s.streamConfig).run.Yields es r) :
    (∃ n, r = .ok ⟨d.handle, n, s.streamConfig, false⟩ ∧
      Part (.stream d.handle) [.setupStream d.handle s.streamConfig] (.opened d.handle)
        (.ready d.handle n) es r) ∨
    ∃ e, r = .error e ∧ ∀ goal, Part (.stream d.handle)
      [.setupStream d.handle s.streamConfig] (.opened d.handle) goal es r := by
  rcases Stream.of_yields_setup h with ⟨n, text, rfl, rfl⟩ | ⟨e, rfl, rfl⟩
  · refine .inl ⟨n, rfl, ?_, rfl, ?_⟩
    · simp [Event.fatal?, Request.forgiven, Request.failure?, failureOf]
    · exact .cons (.setUp _ _ n) (Stage.path_notes (notes_single _))
  · refine .inr ⟨e, rfl, fun goal => ?_⟩
    refine ⟨_, [], .opened d.handle, (List.append_nil _).symm, stopsAt_single rfl,
      List.prefix_rfl, .single (.notSetUp _ _ e), rfl, rfl, .nil _⟩

theorem part_start {stream : Stream} {r : Except Error Stream} (hrun : stream.running = false)
    (h : (stream.guarding stream.start).run.Yields es r) :
    Part (.stream stream.device) [.startStream stream.handle]
        (.ready stream.device stream.handle) (.running stream.device stream.handle) es r ∧
      ∀ x, r = .ok x → x = { stream with running := true } := by
  rcases Stream.of_yields_guarding h with ⟨x, rfl, hes⟩ | ⟨e, main, after, rfl, rfl, hes, hdrop⟩
  · rcases Stream.of_yields_start hes with ⟨rfl, hx⟩ | ⟨e, -, hx⟩
    · obtain rfl := Except.ok.inj hx
      refine ⟨⟨?_, rfl, .single (.started _ _)⟩, fun _ h => (Except.ok.inj h).symm⟩
      simp [Event.fatal?, Request.forgiven, Request.failure?, failureOf]
    · cases hx
  · rcases Stream.of_yields_start hes with ⟨-, hx⟩ | ⟨e', rfl, hx⟩
    · cases hx
    · obtain rfl := Except.error.inj hx
      refine ⟨?_, fun _ h => by cases h⟩
      exact .of_drop (stopsAt_single rfl) List.prefix_rfl (.single (.notStarted _ _ e)) hdrop
        ⟨rfl, rfl, hrun⟩

theorem part_receive {stream : Stream} {buffer : SampleBuffer} {timing : Timing}
    {r : Except Error Report} (hrun : stream.running = true)
    (h : (stream.guarding (stream.receiveFor budget buffer timing)).run.Yields es r) :
    ∃ turns, Part (.stream stream.device) (Stream.loopRequests stream.handle timing.timeout turns)
      (.running stream.device stream.handle) (.running stream.device stream.handle) es r := by
  rcases Stream.of_yields_guarding h with ⟨x, rfl, hes⟩ | ⟨e, main, after, rfl, rfl, hes, hdrop⟩
  · obtain ⟨turns, hcut⟩ := Stream.cut_receiveFor hes
    exact ⟨turns, hcut.1, hcut.2, Stage.path_of_cut hcut (still_loop _ _ _ _)⟩
  · obtain ⟨turns, hcut⟩ := Stream.cut_receiveFor hes
    refine ⟨turns, ?_⟩
    exact .of_drop hcut.1 hcut.2 (Stage.path_of_cut hcut (still_loop _ _ _ _)) hdrop
      ⟨rfl, rfl, hrun⟩

theorem part_stop {stream : Stream} {r : Except Error Stream} (hrun : stream.running = true)
    (h : (stream.guarding stream.stop).run.Yields es r) :
    Part (.stream stream.device) [.stopStream stream.handle]
        (.running stream.device stream.handle) (.stopped stream.device stream.handle) es r ∧
      ∀ x, r = .ok x → x = { stream with running := false } := by
  rcases Stream.of_yields_guarding h with ⟨x, rfl, hes⟩ | ⟨e, main, after, rfl, rfl, hes, hdrop⟩
  · rcases Stream.of_yields_stop hes with ⟨-, rfl, hx⟩ | ⟨-, e, -, hx⟩ | ⟨-, -, hx⟩
    · obtain rfl := Except.ok.inj hx
      refine ⟨⟨?_, rfl, .single (.stopped _ _)⟩, fun _ h => (Except.ok.inj h).symm⟩
      simp [Event.fatal?, Request.forgiven, Request.failure?, failureOf]
    · cases hx
    · cases hx
  · rcases Stream.of_yields_stop hes with ⟨-, -, hx⟩ | ⟨-, e', rfl, hx⟩ | ⟨hrest, -, -⟩
    · cases hx
    · obtain rfl := Except.error.inj hx
      refine ⟨?_, fun _ h => by cases h⟩
      -- the stream still counts as running, so it is stopped once more
      exact .of_drop (stopsAt_single rfl) List.prefix_rfl (.single (.notStopped _ _ e)) hdrop
        ⟨rfl, rfl, hrun⟩
    · exact absurd hrest (by simp [hrun])

theorem part_destroy {stream : Stream} {r : Except Error Unit} (hrun : stream.running = false)
    (h : stream.destroy.run.Yields es r) :
    Part (.stream stream.device) [.destroyStream stream.device stream.handle]
      (.stopped stream.device stream.handle) (.destroyed stream.device) es r := by
  have hpath := (Stage.path_destroy h ⟨rfl, rfl, hrun⟩ :
    requests es = (Stage.stopped stream.device stream.handle).streamCleanup ∧ _).2
  rcases Stream.of_yields_destroy h with ⟨hrun', -⟩ | ⟨-, rfl⟩
  · exact absurd hrun' (by simp [hrun])
  · cases r with
    | ok u =>
      refine ⟨?_, rfl, hpath⟩
      simp [Event.fatal?, Request.forgiven, Request.failure?, failureOf]
    | error e =>
      exact ⟨_, [], .destroyed stream.device, (List.append_nil _).symm, stopsAt_single rfl,
        List.prefix_rfl, hpath, rfl, rfl, .nil _⟩

theorem part_farewell {α : Type} {p : Attempt α} {r : Except Error α} (h : DeviceHandle)
    (hp : Performs p []) (hes : p.run.Yields es r) :
    Part (.stream h) [] (.destroyed h) (.destroyed h) es r :=
  .of_cut (hp es r hes) (by simp) rfl rfl rfl

/-! ## The whole session -/

theorem part_streaming {applied : Applied} {stream : Stream}
    {r : Except Error (Applied × Report)} (hrest : stream.running = false)
    (h : (streaming budget s applied stream).run.Yields es r) :
    ∃ turns, Part (.stream stream.device)
      (.startStream stream.handle :: (Stream.loopRequests stream.handle s.readTimeout turns ++
        [.stopStream stream.handle, .destroyStream stream.device stream.handle]))
      (.ready stream.device stream.handle) (.destroyed stream.device) es r := by
  rcases yields_bind_iff.mp h with ⟨x, es₁, es₂, rfl, h₁, h₂⟩ | ⟨e, rfl, he⟩
  · obtain ⟨hstart, hx⟩ := part_start hrest h₁
    obtain rfl := hx x rfl
    rcases yields_bind_iff.mp h₂ with ⟨report, es₃, es₄, rfl, h₃, h₄⟩ | ⟨e, rfl, he⟩
    · obtain ⟨turns, hloop⟩ := part_receive rfl h₃
      refine ⟨turns, hstart.append (hloop.append ?_)⟩
      rcases yields_bind_iff.mp h₄ with ⟨y, es₅, es₆, rfl, h₅, h₆⟩ | ⟨e, rfl, he⟩
      · obtain ⟨hstop, hy⟩ := part_stop rfl h₅
        obtain rfl := hy y rfl
        refine Part.append hstop
          (?_ : Part _ [.destroyStream stream.device stream.handle] _ _ _ _)
        rcases yields_bind_iff.mp h₆ with ⟨u, es₇, es₈, rfl, h₇, h₈⟩ | ⟨e, rfl, he⟩
        · have hdestroy := part_destroy rfl h₇
          have hrest := part_farewell stream.device
            (.skip (.note _) fun _ => .skip (.line _) fun _ => .pure _) h₈
          exact hdestroy.append hrest
        · exact (part_destroy rfl he).extend [] _
      · exact (part_stop rfl he).1.extend [_] _
    · obtain ⟨turns, hloop⟩ := part_receive rfl he
      exact ⟨turns, hstart.append (hloop.extend _ _)⟩
  · exact ⟨[], (part_start hrest he).1.extend _ _⟩

theorem part_session {d : Device} {r : Except Error (Applied × Report)}
    (h : (session budget d s).run.Yields es r) :
    ∃ n turns, Part (.stream d.handle) (sessionRequests s d.handle n turns) (.opened d.handle)
      (.destroyed d.handle) es r := by
  rw [session_eq] at h
  have hcall {c : DeviceCall} :
      ∀ q ∈ [Request.device d.handle c], (Stage.opened d.handle).Still q :=
    List.forall_mem_singleton.mpr (still_device _ _)
  rcases yields_bind_iff.mp h with ⟨u, es₁, es₂, rfl, h₁, h₂⟩ | ⟨e, rfl, he⟩
  · have hinit := part_opened d.handle (d.performs_call rfl) hcall h₁
    rcases yields_bind_iff.mp h₂ with ⟨v, es₃, es₄, rfl, h₃, h₄⟩ | ⟨e, rfl, he⟩
    · have hsave := part_opened d.handle (performs_snapshot d) hcall h₃
      rcases yields_bind_iff.mp h₄ with ⟨applied, es₅, es₆, rfl, h₅, h₆⟩ | ⟨e, rfl, he⟩
      · have hconf := part_opened d.handle (performs_configure d s) (still_configure _ _) h₅
        rcases yields_bind_iff.mp h₆ with ⟨stream, es₇, es₈, rfl, h₇, h₈⟩ | ⟨e, rfl, he⟩
        · rcases part_setup h₇ with ⟨n, hn, hsetup⟩ | ⟨e, he, -⟩
          · obtain rfl := Except.ok.inj hn
            obtain ⟨turns, hstream⟩ := part_streaming rfl h₈
            exact ⟨n, turns, hinit.append (hsave.append (hconf.append (hsetup.append hstream)))⟩
          · cases he
        · rcases part_setup he with ⟨n, hn, -⟩ | ⟨e', -, hsetup⟩
          · cases hn
          · exact ⟨default, [], hinit.append (hsave.append (hconf.append
              ((hsetup (.opened d.handle)).extend _ _)))⟩
      · have hconf := part_opened d.handle (performs_configure d s) (still_configure _ _) he
        exact ⟨default, [], hinit.append (hsave.append (hconf.extend _ _))⟩
    · have hsave := part_opened d.handle (performs_snapshot d) hcall he
      exact ⟨default, [], hinit.append (hsave.extend _ _)⟩
  · have hinit := part_opened d.handle (d.performs_call rfl) hcall he
    exact ⟨default, [], hinit.extend _ _⟩

/-! ## The rest of the test -/

/-- The close of a device, with nothing but notes around it. -/
def Closes (h : DeviceHandle) (es : List (Event Host)) : Prop :=
  ∃ before after, ∃ a : Except Error Unit,
    es = before ++ ⟨.inl (.closeDevice h), a⟩ :: after ∧ Notes before ∧ Notes after

theorem Closes.requests {h : DeviceHandle} (hes : Closes h es) :
    requests es = [.closeDevice h] := by
  obtain ⟨before, after, a, rfl, hbefore, hafter⟩ := hes
  simp [Event.request?, hbefore.requests, hafter.requests]

theorem Closes.clean {h : DeviceHandle} (hes : Closes h es) : Clean es := by
  obtain ⟨before, after, a, rfl, hbefore, hafter⟩ := hes
  simp [Event.fatal?, Request.forgiven, hbefore.clean, hafter.clean]

theorem Closes.path {h : DeviceHandle} {st : Stage} (hes : Closes h es)
    (hst : st = .opened h ∨ st = .destroyed h) : Path Stage.Step st es .closed := by
  obtain ⟨before, after, a, rfl, hbefore, hafter⟩ := hes
  exact (Stage.path_notes hbefore).append (.cons (.closed h a hst) (Stage.path_notes hafter))

/-- The end of a test with a device, unless a clock could not go on. -/
def closing (d : Device) (x : Except Error (Applied × Report)) : Attempt (Applied × Report) := do
  match ← Attempt.always d.close.run with
  | .ok () => pure ()
  | .error e => .warn ("error closing device: " ++ e.message)
  liftExcept x

/-- The outcome is the one from before, whatever comes of closing the device. -/
theorem of_yields_closing {d : Device} {x r : Except Error (Applied × Report)}
    (h : (closing d x).run.Yields es r) : r = x ∧ Closes d.handle es := by
  obtain ⟨a, es₁, es₂, rfl, h₁, h₂⟩ := yields_always_bind_iff.mp h
  obtain ⟨text, rfl⟩ := Device.of_yields_close h₁
  cases a with
  | ok u =>
    obtain ⟨rfl, rfl⟩ := yields_liftExcept_iff.mp h₂
    exact ⟨rfl, [_], [], _, rfl, notes_single _, notes_nil⟩
  | error e =>
    rcases yields_bind_iff.mp h₂ with ⟨u, es₃, es₄, rfl, h₃, h₄⟩ | ⟨e', -, he⟩
    · obtain ⟨rfl, -⟩ := yields_warn_iff.mp h₃
      obtain ⟨rfl, rfl⟩ := yields_liftExcept_iff.mp h₄
      exact ⟨rfl, [_], [_], _, rfl, notes_single _, notes_single _⟩
    · cases (yields_warn_iff.mp he).2

/-- How a test that has a device ends once the session is over. -/
def ending (d : Device) : Except Error (Applied × Report) → Attempt (Applied × Report)
  | .error .clockOverflow => do
    .always d.drop
    throw .clockOverflow
  | r => closing d r

theorem ending_of_ne {x : Except Error (Applied × Report)} (hx : x ≠ .error .clockOverflow)
    (d : Device) : ending d x = closing d x := by
  cases x with
  | ok a => rfl
  | error e => cases e with
    | clockOverflow => exact absurd rfl hx
    | _ => rfl

theorem of_yields_ending {d : Device} {x r : Except Error (Applied × Report)}
    (h : (ending d x).run.Yields es r) : r = x ∧ Closes d.handle es := by
  by_cases hx : x = .error .clockOverflow
  · subst hx
    obtain ⟨u, es₁, es₂, rfl, h₁, h₂⟩ := yields_always_bind_iff.mp h
    obtain ⟨rfl, rfl⟩ := yields_throw_iff.mp h₂
    obtain ⟨a, notes, rfl, hnotes⟩ := Device.of_yields_drop h₁
    exact ⟨rfl, [], notes, a, by simp, notes_nil, hnotes⟩
  · rw [ending_of_ne hx] at h
    exact of_yields_closing h

theorem withDevice_eq (budget : Nat) (d : Device) (s : Settings) :
    withDevice budget d s = (Attempt.always (session budget d s).run >>= ending d) := by
  refine bind_congr fun r => ?_
  cases r with
  | ok a => rfl
  | error e => cases e <;> rfl

theorem of_yields_withDevice {d : Device} {r : Except Error (Applied × Report)}
    (h : (withDevice budget d s).run.Yields es r) :
    ∃ es₁ es₂, es = es₁ ++ es₂ ∧ (session budget d s).run.Yields es₁ r ∧ Closes d.handle es₂ := by
  rw [withDevice_eq] at h
  obtain ⟨x, es₁, es₂, rfl, h₁, h₂⟩ := yields_always_bind_iff.mp h
  obtain ⟨rfl, hes₂⟩ := of_yields_ending h₂
  exact ⟨es₁, es₂, rfl, h₁, hes₂⟩

theorem part_withDevice {d : Device} {r : Except Error (Applied × Report)}
    (h : (withDevice budget d s).run.Yields es r) :
    ∃ n turns, Part .all (sessionRequests s d.handle n turns ++ [.closeDevice d.handle])
      (.opened d.handle) .closed es r := by
  obtain ⟨es₁, es₂, rfl, h₁, h₂⟩ := of_yields_withDevice h
  obtain ⟨n, turns, hsession⟩ := part_session h₁
  refine ⟨n, turns, ?_⟩
  cases r with
  | ok x =>
    obtain ⟨hclean, hreq, hpath⟩ := hsession
    exact ⟨clean_append.mpr ⟨hclean, h₂.clean⟩, by rw [requests_append, hreq, h₂.requests],
      hpath.append (h₂.path (.inr rfl))⟩
  | error e =>
    obtain ⟨main, after, mid, rfl, hstop, hpre, hmain, hmid, hafter, hend⟩ := hsession
    obtain ⟨hleft, hreleased⟩ := Stage.withoutStream_of_deviceCleanup hmid
    refine ⟨main, after ++ es₂, mid, List.append_assoc .., hstop,
      hpre.trans (List.prefix_append _ _), hmain, trivial, ?_, ?_⟩
    · rw [requests_append, hafter, h₂.requests, ← hmid]
      exact Stage.streamCleanup_append_deviceCleanup mid
    · have hleaves : Duty.all.leaves mid = .closed := hreleased
      rw [hleaves]
      exact hend.append (h₂.path hleft)

theorem performs_listDevices (names : List String) : Performs (listDevices names) [] := by
  induction names with
  | nil => exact .pure ()
  | cons name rest ih => exact .skip (.line _) fun _ => ih

theorem part_waiting {α : Type} {p : Attempt α} {r : Except Error α} (hp : Performs p [])
    (hes : p.run.Yields es r) : Part .all [] .waiting .waiting es r :=
  .of_cut (hp es r hes) (by simp) rfl rfl trivial

theorem part_open {info : String} {r : Except Error Device}
    (h : (Device.opened info).run.Yields es r) :
    (∃ d, r = .ok d ∧ Part .all [.openDevice info] .waiting (.opened d.handle) es r) ∨
    ∃ e, r = .error e ∧ ∀ goal, Part .all [.openDevice info] .waiting goal es r := by
  rcases Device.of_yields_opened h with ⟨d, text, rfl, rfl⟩ | ⟨e, rfl, rfl⟩
  · refine .inl ⟨_, rfl, ?_, rfl, .cons (.opened _ d) (Stage.path_notes (notes_single _))⟩
    simp [Event.fatal?, Request.forgiven, Request.failure?, failureOf]
  · refine .inr ⟨e, rfl, fun goal => ?_⟩
    exact ⟨_, [], .waiting, (List.append_nil _).symm, stopsAt_single rfl, List.prefix_rfl,
      .single (.notOpened _ e), trivial, rfl, .nil _⟩

/-- What the test does with the devices that are listed. -/
def surveying (budget : Nat) (s : Settings) (devices : List String) : Attempt Outcome := do
  .line (toString devices.length ++ " devices")
  match devices with
  | [] => pure .noDevices
  | first :: _ =>
    listDevices devices
    let device ← Device.opened first
    let (applied, report) ← withDevice budget device s
    pure (.completed applied report)

theorem survey_eq :
    survey budget s = (Attempt.of (Host.request .deviceList) >>= surveying budget s) := rfl

theorem of_yields_surveying_nil {r : Except Error Outcome}
    (h : (surveying budget s []).run.Yields es r) :
    Cut [] es r ∧ ∀ applied report, r ≠ .ok (.completed applied report) := by
  rcases yields_bind_iff.mp h with ⟨u, es₁, es₂, rfl, h₁, h₂⟩ | ⟨e, rfl, he⟩
  · obtain ⟨rfl, rfl⟩ := yields_pure_iff.mp h₂
    exact ⟨(Performs.line _ _ _ h₁).append ⟨clean_nil, rfl⟩, by simp⟩
  · exact ⟨(Performs.line _ _ _ he).extend [], by simp⟩

theorem part_surveying {first : String} {others : List String} {r : Except Error Outcome}
    (h : (surveying budget s (first :: others)).run.Yields es r) :
    r ≠ .ok .noDevices ∧
      ∃ h n turns, Part .all (testRequests s first h n turns) .waiting .closed es r := by
  rcases yields_bind_iff.mp h with ⟨u, es₁, es₂, rfl, h₁, h₂⟩ | ⟨e, rfl, he⟩
  · have hcount := part_waiting (.line _) h₁
    rcases yields_bind_iff.mp h₂ with ⟨v, es₃, es₄, rfl, h₃, h₄⟩ | ⟨e, rfl, he⟩
    · have hlist := part_waiting (performs_listDevices _) h₃
      rcases yields_bind_iff.mp h₄ with ⟨d, es₅, es₆, rfl, h₅, h₆⟩ | ⟨e, rfl, he⟩
      · rcases part_open h₅ with ⟨d', hd, hopen⟩ | ⟨e, he, -⟩
        · obtain rfl := Except.ok.inj hd
          rcases yields_bind_iff.mp h₆ with
            ⟨⟨applied, report⟩, es₇, es₈, rfl, h₇, h₈⟩ | ⟨e, rfl, he⟩
          · obtain ⟨n, turns, hdevice⟩ := part_withDevice h₇
            obtain ⟨rfl, rfl⟩ := yields_pure_iff.mp h₈
            refine ⟨by simp, d.handle, n, turns, hcount.append (hlist.append ?_)⟩
            simpa using hopen.append (hdevice.with_value (Outcome.completed applied report))
          · obtain ⟨n, turns, hdevice⟩ := part_withDevice he
            refine ⟨by simp, d.handle, n, turns, hcount.append (hlist.append ?_)⟩
            exact hopen.append hdevice.with_error
        · cases he
      · rcases part_open he with ⟨d, hd, -⟩ | ⟨e', -, hopen⟩
        · cases hd
        · exact ⟨by simp, default, default, [],
            hcount.append (hlist.append ((hopen .waiting).extend _ _))⟩
    · have hlist := part_waiting (performs_listDevices _) he
      exact ⟨by simp, default, default, [], hcount.append (hlist.extend _ _)⟩
  · exact ⟨by simp, default, default, [], (part_waiting (.line _) he).extend _ _⟩

/-- What follows the list of devices.  Without a device there are no requests; with one,
the first that is listed is used. -/
def AfterListing (s : Settings) (es : List (Event Host)) (r : Except Error Outcome) :
    Except Error (List String) → Prop
  | .error e => es = [] ∧ r = .error e
  | .ok [] => Cut [] es r ∧ ∀ applied report, r ≠ .ok (.completed applied report)
  | .ok (first :: _) => r ≠ .ok .noDevices ∧
      ∃ h n turns, Part .all (testRequests s first h n turns) .waiting .closed es r

theorem of_yields_survey {r : Except Error Outcome} (h : (survey budget s).run.Yields es r) :
    ∃ listed tail, es = ⟨.inl .deviceList, listed⟩ :: tail ∧ AfterListing s tail r listed := by
  rw [survey_eq] at h
  rcases yields_bind_iff.mp h with ⟨devices, es₁, es₂, rfl, h₁, h₂⟩ | ⟨e, rfl, he⟩
  · obtain rfl := Host.yields_request_iff.mp h₁
    refine ⟨.ok devices, es₂, rfl, ?_⟩
    cases devices with
    | nil => exact of_yields_surveying_nil h₂
    | cons first others => exact part_surveying h₂
  · exact ⟨.error e, [], Host.yields_request_iff.mp he, rfl, rfl⟩

theorem path_afterListing {r : Except Error Outcome} {listed : Except Error (List String)}
    (h : AfterListing s es r listed) :
    ∃ st, Path Stage.Step .waiting es st ∧ (st = .waiting ∨ st = .closed) := by
  match listed with
  | .error e =>
    obtain ⟨rfl, -⟩ := h
    exact ⟨.waiting, .nil _, .inl rfl⟩
  | .ok [] => exact ⟨.waiting, Stage.path_of_cut h.1 (by simp), .inl rfl⟩
  | .ok (first :: others) =>
    obtain ⟨-, d, n, turns, hpart⟩ := h
    cases r with
    | ok x => exact ⟨.closed, hpart.2.2, .inr rfl⟩
    | error e =>
      obtain ⟨main, after, mid, rfl, -, -, hmain, -, -, hafter⟩ := hpart
      refine ⟨mid.released, hmain.append hafter, ?_⟩
      cases mid <;> simp [Stage.released]

/-- A test writes the version first, and surveys the devices if that was possible. -/
theorem of_yields_run {r : Except Error Outcome} (h : (run budget s).run.Yields es r) :
    ∃ version : String, ∃ w : Except String Unit, ∃ rest,
      es = ⟨.inl .libraryVersion, version⟩ ::
        ⟨.inr (.write ("Lime API Version: " ++ version ++ "\n")), w⟩ :: rest ∧
      ((∃ message, w = .error message ∧ rest = [] ∧ r = .error (.output message)) ∨
        (w = .ok () ∧ ∃ tail, rest = ⟨.inl (.registerLog none), ()⟩ ::
            ⟨.inl (.registerLog (some .forward)), ()⟩ ::
              (tail ++ [⟨.inl (.registerLog none), ()⟩]) ∧
          (survey budget s).run.Yields tail r)) := by
  obtain ⟨version, es₁, es₂, rfl, h₁, h₂⟩ := yields_always_bind_iff.mp h
  obtain rfl := Host.yields_request_iff.mp h₁
  rcases yields_bind_iff.mp h₂ with ⟨u, es₃, es₄, rfl, h₃, h₄⟩ | ⟨e, rfl, he⟩
  · obtain ⟨w, rfl, hw⟩ := yields_line_iff.mp h₃
    obtain ⟨tail, rfl, htail⟩ := LogScope.of_yields_within h₄
    refine ⟨version, w, _, rfl, .inr ⟨?_, tail, rfl, htail⟩⟩
    cases w with
    | ok v => rfl
    | error m => cases hw
  · obtain ⟨w, rfl, hw⟩ := yields_line_iff.mp he
    refine ⟨version, w, [], rfl, .inl ?_⟩
    cases w with
    | ok v => cases hw
    | error m =>
      obtain rfl := Except.error.inj hw
      exact ⟨m, rfl, rfl, rfl⟩

theorem path_run {r : Except Error Outcome} (h : (run budget s).run.Yields es r) :
    ∃ st, Path Stage.Step .waiting es st ∧ (st = .waiting ∨ st = .closed) := by
  obtain ⟨version, w, rest, rfl, ⟨m, -, rfl, -⟩ | ⟨-, tail, rfl, htail⟩⟩ := of_yields_run h
  · exact ⟨.waiting, .cons (.version _ _) (.single (.ambient _ _ _)), .inl rfl⟩
  · obtain ⟨listed, tail, rfl, hlisted⟩ := of_yields_survey htail
    obtain ⟨st, hpath, hst⟩ := path_afterListing hlisted
    refine ⟨st, ?_, hst⟩
    refine .cons (.version _ _) (.cons (.ambient _ _ _) (.cons (.register _ _)
      (.cons (.register _ _) (.cons (.list _ _) ?_))))
    exact hpath.append (.single (.register _ _))

/-- The law of a test's events and its outcome.  Without its first line there is nothing
more.  Otherwise a handler is there from before the devices are listed until everything
is given back.  Between, the script is followed to its end, or up to the first fatal
event, whose error is the outcome. -/
def FollowsScript (s : Settings) (es : List (Event Host)) (r : Except Error Outcome) : Prop :=
  ∃ version : String, ∃ w : Except String Unit, ∃ rest,
    es = ⟨.inl .libraryVersion, version⟩ ::
      ⟨.inr (.write ("Lime API Version: " ++ version ++ "\n")), w⟩ :: rest ∧
    match w with
    | .error message => rest = [] ∧ r = .error (.output message)
    | .ok () => ∃ listed tail, rest = ⟨.inl (.registerLog none), ()⟩ ::
        ⟨.inl (.registerLog (some .forward)), ()⟩ :: ⟨.inl .deviceList, listed⟩ ::
          (tail ++ [⟨.inl (.registerLog none), ()⟩]) ∧ AfterListing s tail r listed

theorem run_followsScript {r : Except Error Outcome} (h : (run budget s).run.Yields es r) :
    FollowsScript s es r := by
  obtain ⟨version, w, rest, rfl, hw | ⟨rfl, tail, rfl, htail⟩⟩ := of_yields_run h
  · obtain ⟨message, rfl, hrest⟩ := hw
    exact ⟨version, _, rest, rfl, hrest⟩
  · obtain ⟨listed, tail, rfl, hlisted⟩ := of_yields_survey htail
    exact ⟨version, _, _, rfl, listed, tail, rfl, hlisted⟩

/-- The configuration cannot be saved. -/
def unsaved : List (Event Host) :=
  [⟨.inl (.device ⟨0⟩ (.saveConfig ⟨[]⟩)), .error (.failed "save_config" "read only")⟩,
    ⟨.inr (.note (.warn "could not save config to : save_config failed: read only")), ()⟩]

/-- A stream is set up and started, and then the device is lost: the first read fails, and so does
what gives the stream back. -/
def lostStream : List (Event Host) :=
  [⟨.inl (.setupStream ⟨0⟩ (Settings.standard ⟨[]⟩).streamConfig), .ok ⟨4⟩⟩,
    ⟨.inr (.note (.debug "stream StreamHandle(4) set up on RX0")), ()⟩,
    ⟨.inl (.startStream ⟨4⟩), .ok ()⟩, ⟨.inr .now, .zero⟩, ⟨.inr .now, .ofMillis 1⟩,
    ⟨.inl (.recvStream ⟨4⟩ (.zeros .f32 10000) none (.ofMillis 1000)),
      ⟨.error (.failed "recv_stream" "lost"), .zeros .f32 10000, none⟩⟩,
    ⟨.inl (.stopStream ⟨4⟩), .error (.failed "stop_stream" "lost")⟩,
    ⟨.inr (.note (.warn "error stopping stream StreamHandle(4): stop_stream failed: lost")), ()⟩,
    ⟨.inl (.destroyStream ⟨0⟩ ⟨4⟩), .error (.failed "destroy_stream" "lost")⟩,
    ⟨.inr (.note (.warn "error destroying stream: destroy_stream failed: lost")), ()⟩]

def lostSession (warned : Bool) : List (Event Host) :=
  [⟨.inl (.device ⟨0⟩ .init), .ok ()⟩] ++ (unsaved ++ (unevenEvents ⟨0⟩ warned ++ lostStream))

/-- The device is closed, or so it is hoped. -/
def lostDevice : List (Event Host) :=
  [⟨.inr (.note (.debug "closing usb")), ()⟩,
    ⟨.inl (.closeDevice ⟨0⟩), .error (.failed "close" "lost")⟩,
    ⟨.inr (.note (.warn "error closing device: close failed: lost")), ()⟩]

def lostSurvey (warned : Bool) : List (Event Host) :=
  ⟨.inl .deviceList, .ok ["usb", "pci"]⟩ :: .wrote "2 devices" :: .wrote "Device: usb" ::
    .wrote "Device: pci" :: ⟨.inl (.openDevice "usb"), .ok ⟨0⟩⟩ ::
    ⟨.inr (.note (.debug "opened usb as DeviceHandle(0)")), ()⟩ ::
    (lostSession warned ++ lostDevice)

def lostEvents (warned : Bool) : List (Event Host) :=
  ⟨.inl .libraryVersion, "20.10"⟩ :: .wrote "Lime API Version: 20.10" ::
    ⟨.inl (.registerLog none), ()⟩ :: ⟨.inl (.registerLog (some .forward)), ()⟩ ::
    (lostSurvey warned ++ [⟨.inl (.registerLog none), ()⟩])

theorem yields_lostSession : ∃ warned, (session 1 ⟨⟨0⟩, "usb"⟩ (.standard ⟨[]⟩)).run.Yields
    (lostSession warned) (.error (.failed "recv_stream" "lost")) := by
  obtain ⟨warned, hconfigure⟩ := yields_uneven ⟨⟨0⟩, "usb"⟩
  have hinit : (Device.call ⟨⟨0⟩, "usb"⟩ .init).run.Yields _ (.ok ()) :=
    Device.yields_call_iff.mpr rfl
  have hsnapshot : (snapshot ⟨⟨0⟩, "usb"⟩ (.standard ⟨[]⟩)).run.Yields unsaved (.ok ()) :=
    .ask _ (.ask _ (.done _))
  rw [session_eq]
  refine ⟨warned, yields_bind_iff.mpr (.inl ⟨_, _, _, rfl, hinit, ?_⟩)⟩
  refine yields_bind_iff.mpr (.inl ⟨_, _, _, rfl, hsnapshot, ?_⟩)
  refine yields_bind_iff.mpr (.inl ⟨_, _, _, rfl, hconfigure, ?_⟩)
  exact .ask _ (.ask _ (.ask _ (.ask _ (.ask _ (.ask _ (.ask _ (.ask _ (.ask _ (.ask _
    (.done _))))))))))

/-- The stream is stopped and destroyed and the device is closed although all of this fails, and
the error of the read is the outcome. -/
theorem lost_run_followsScript :
    ∃ warned, (run 1 (.standard ⟨[]⟩)).run.Yields (lostEvents warned)
        (.error (.failed "recv_stream" "lost")) ∧
      FollowsScript (.standard ⟨[]⟩) (lostEvents warned)
        (.error (.failed "recv_stream" "lost")) := by
  obtain ⟨warned, hsession⟩ := yields_lostSession
  have hending : (ending ⟨⟨0⟩, "usb"⟩ (.error (.failed "recv_stream" "lost"))).run.Yields lostDevice
      (.error (.failed "recv_stream" "lost")) := .ask _ (.ask _ (.ask _ (.done _)))
  have hdevice := withDevice_eq 1 ⟨⟨0⟩, "usb"⟩ (.standard ⟨[]⟩) ▸
    yields_always_bind_iff.mpr ⟨_, _, _, rfl, hsession, hending⟩
  have hsurvey : (survey 1 (.standard ⟨[]⟩)).run.Yields (lostSurvey warned)
      (.error (.failed "recv_stream" "lost")) :=
    .ask _ (.ask _ (.ask _ (.ask _ (.ask _ (.ask _
      (yields_bind_iff.mpr (.inr ⟨_, rfl, hdevice⟩)))))))
  have hscope : ((survey 1 (.standard ⟨[]⟩)).run >>= fun r => LogScope.leave >>= fun _ =>
      pure r).Yields (lostSurvey warned ++ [⟨.inl (.registerLog none), ()⟩])
      (.error (.failed "recv_stream" "lost")) :=
    Prog.yields_bind_iff.mpr ⟨_, _, _, rfl, hsurvey, .ask _ (.done _)⟩
  have h : (run 1 (.standard ⟨[]⟩)).run.Yields (lostEvents warned)
      (.error (.failed "recv_stream" "lost")) := .ask _ (.ask _ (.ask _ (.ask _ hscope)))
  exact ⟨warned, h, run_followsScript h⟩

end SmokeTest
end RadioBench
