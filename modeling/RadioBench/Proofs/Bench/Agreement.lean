/-
Guards agree with both drivers.

The driver on the library and the simulator are keepers of entries, each in its own way, and so a
guard and its driver never differ.  A simulator lets more be seen of an entry than a library
does: the status of a stream, the reads that it refuses and the streams that it will not destroy
are told from the guard.
-/
import RadioBench.Proofs.Native.Entries
import RadioBench.Proofs.Simulator.Entries

namespace RadioBench
namespace Simulator

open Prog Step

variable {s t : State} {stream : Stream} {es : List (Event Host)}

/-! ## What a guard can tell of a simulator -/

theorem find?_of_agrees (h : keeper.Agrees s stream) :
    ∃ st, s.streams.find? stream.handle = some st ∧ st.running = stream.running ∧
      st.config.dataFormat = stream.config.dataFormat := by
  obtain ⟨st, hst, hentry⟩ := Option.map_eq_some_iff.mp h
  obtain ⟨hrunning, hformat⟩ := Standing.mk.inj hentry
  exact ⟨st, hst, hrunning, hformat⟩

theorem perform_of_request {r : Request} {a : r.Answer} (hes : (Host.request r).Yields es a)
    (hpath : Path Runs s es t) : perform r s = (a, t) := by
  obtain rfl := Host.yields_request_iff.mp hes
  obtain ⟨u, hr, hend⟩ := Path.cons_iff.mp hpath
  obtain rfl := Path.nil_iff.mp hend
  exact hr

/-- A status says whether the guard is running, and can be had unless it is going to fail. -/
theorem status_of_agrees (h : keeper.Agrees s stream) {r : Except Error StreamStatus}
    (hes : stream.status.run.Yields es r) (hpath : Path Runs s es t) :
    (∀ status, r = .ok status → status.active = stream.running) ∧
      ("stream_status" ∉ s.armed → ∃ status, r = .ok status) := by
  obtain ⟨st, hst, hrunning, -⟩ := find?_of_agrees h
  have hperform : streamStatus stream.handle s = (r, t) := perform_of_request hes hpath
  by_cases harmed : "stream_status" ∈ s.armed
  · rw [streamStatus, onStream, attempt_of_armed harmed] at hperform
    obtain ⟨rfl, -⟩ := Prod.mk.inj hperform
    constructor
    · intro status hr
      cases hr
    · intro hnot
      exact absurd harmed hnot
  · rw [streamStatus, onStream_of_live harmed hst] at hperform
    obtain ⟨rfl, -⟩ := Prod.mk.inj hperform
    constructor
    · rintro status hr
      obtain rfl := Except.ok.inj hr
      exact hrunning
    · intro _
      exact ⟨_, rfl⟩

theorem result_recvStream (n : StreamHandle) (buffer : SampleBuffer) (info : Option StreamMeta)
    (timeout : Duration) (s : State) :
    (perform (.recvStream n buffer info timeout) s).1.result =
      (recvStream n buffer timeout s).1.map Prod.fst := by
  dsimp only [perform]
  generalize recvStream n buffer timeout s = x
  obtain ⟨(e | ⟨count, stamp⟩), t⟩ := x <;> rfl

/-- A read into a buffer of the guard's own kind has the right format.  That the stream is not
running is said just when it is not. -/
theorem recv_of_agrees (h : keeper.Agrees s stream) {samples : Nat} {info : Option StreamMeta}
    {timeout : Duration} {x : Received}
    (hes : (stream.recv (stream.buffer samples) info timeout).Yields es x)
    (hpath : Path Runs s es t) :
    x.result ≠ .error (.failed "recv_stream" "buffer format does not match stream") ∧
      ("recv_stream" ∉ s.armed →
        (x.result = .error .notRunning ↔ stream.running = false)) := by
  obtain ⟨st, hst, hrunning, hformat⟩ := find?_of_agrees h
  have hresult := result_recvStream stream.handle (stream.buffer samples) info timeout s
  rw [perform_of_request hes hpath] at hresult
  rw [show x.result = _ from hresult]
  by_cases harmed : "recv_stream" ∈ s.armed
  · rw [recvStream, onStream, attempt_of_armed harmed]
    constructor
    · intro hrejected
      have hmessage := (Error.failed.inj (Except.error.inj hrejected)).2
      exact absurd hmessage (by decide)
    · intro hnot
      exact absurd harmed hnot
  · have hsame : ¬ st.config.dataFormat ≠ (stream.buffer samples).format := not_not_intro hformat
    rw [recvStream, onStream_of_live harmed hst, if_neg hsame, hrunning]
    cases stream.running with
    | false => simp [Except.map]
    | true =>
      -- a read of a running stream fails only when the clock cannot go on
      simp only [Bool.not_true, Bool.false_eq_true, if_false, State.advance]
      split
      · cases (s.recorded "recv_stream").clock.add? timeout <;> simp [Except.map]
      · cases (s.recorded "recv_stream").clock.add? (s.recorded "recv_stream").readLatency <;>
          simp [Except.map]

/-- What a simulator refuses to destroy as running is running. -/
theorem running_of_refused {d : DeviceHandle} {n : StreamHandle}
    (h : destroyStream d n s = (.error (.failed "destroy_stream" "stream still running"), t)) :
    ∃ x, s.entryAt? n = some x ∧ x.running = true := by
  by_cases harmed : "destroy_stream" ∈ s.armed
  · rw [destroyStream, onDevice, attempt_of_armed harmed] at h
    have hmessage := (Error.failed.inj (Except.error.inj (congrArg Prod.fst h))).2
    exact absurd hmessage (by decide)
  · rw [destroyStream, onDevice, attempt_of_not_armed harmed] at h
    split at h
    · cases hst : s.streams.find? n with
      | none =>
        rw [show (s.recorded "destroy_stream").streams.find? n = none from hst] at h
        cases h
      | some st =>
        rw [show (s.recorded "destroy_stream").streams.find? n = some st from hst] at h
        cases hrunning : st.running with
        | true => exact ⟨_, State.entryAt?_of_find? hst, hrunning⟩
        | false =>
          simp only [hrunning, Bool.false_eq_true, if_false] at h
          cases h
    · cases h

/-- What the guard tells of a simulator that agrees with it. -/
structure Told (s : State) (stream : Stream) : Prop where
  /-- A status says whether the guard is running. -/
  status : ∀ es r t, stream.status.run.Yields es r → Path Runs s es t →
    (∀ status, r = .ok status → status.active = stream.running) ∧
      ("stream_status" ∉ s.armed → ∃ status, r = .ok status)
  /-- A read into a buffer of the guard's own kind has the right format, and finds the stream not
  running just when the guard is not. -/
  recv : ∀ samples info timeout es x t,
    (stream.recv (stream.buffer samples) info timeout).Yields es x → Path Runs s es t →
    x.result ≠ .error (.failed "recv_stream" "buffer format does not match stream") ∧
      ("recv_stream" ∉ s.armed → (x.result = .error .notRunning ↔ stream.running = false))
  /-- A running stream is found while the guard is given back only when it could not be stopped. -/
  refused : ∀ xs t, ((∃ r, stream.destroy.run.Yields (Traffic.owns xs) r) ∨
      stream.drop.Yields (Traffic.owns xs) ()) → Path (keeper.Carries stream.handle) s xs t →
    Keeper.destruction stream (.error (.failed "destroy_stream" "stream still running")) ∈
        Traffic.owns xs →
      ∃ e, ⟨.inl (.stopStream stream.handle), (.error e : Except Error Unit)⟩ ∈ Traffic.owns xs

theorem told_of_held (h : keeper.Held s stream) : Told s stream where
  status _ _ _ hes hpath := status_of_agrees h.agrees.1 hes hpath
  recv _ _ _ _ _ _ hes hpath := recv_of_agrees h.agrees.1 hes hpath
  refused xs t hes hpath hr := by
    obtain ⟨u, v, hrule, hstop | hentry⟩ := h.rests hes hpath hr
    · exact hstop
    · obtain ⟨x, hx, hrunning⟩ := running_of_refused hrule
      obtain rfl := Option.some.inj (hentry.symm.trans hx)
      cases hrunning

end Simulator

namespace Bench

open Native.Binding (answers_of_serves answers_ambient setUpAs startedAs)

/-- On both drivers, and whatever else they are asked meanwhile, a guard and the entry for its
stream agree for as long as the guard is held. -/
theorem drivers_agreeWithGuards :
    (∀ s stream, Simulator.keeper.Held s stream →
      Simulator.keeper.AgreesThroughout s stream ∧ Simulator.Told s stream) ∧
      ∀ b stream, Native.Binding.keeper.Held b stream →
        Native.Binding.keeper.AgreesThroughout b stream :=
  ⟨fun _ _ h => ⟨h.agreesThroughout, Simulator.told_of_held h⟩, fun _ _ h => h.agreesThroughout⟩

/-- A guard on a stream set up for reading. -/
def readersGuard (h n : Nat) (running : Bool) : Stream where
  device := ⟨h⟩
  handle := ⟨n⟩
  config := .standard ⟨.rx, 0⟩
  running := running

/-- A stream is set up, and then another one by somebody else. -/
def settingUp (h n m : Nat) : List Traffic :=
  [.own ⟨.inl (.setupStream ⟨h⟩ (.standard ⟨.rx, 0⟩)), (.ok ⟨n⟩ : Except Error StreamHandle)⟩,
    .own ⟨.inr (.note (.debug ("stream " ++ StreamHandle.text ⟨n⟩ ++ " set up on " ++
      ChannelId.text ⟨.rx, 0⟩))), ()⟩,
    .foreign ⟨.inl (.setupStream ⟨h⟩ (.standard ⟨.rx, 0⟩)), (.ok ⟨m⟩ : Except Error StreamHandle)⟩]

/-- A start fails, and then the other stream is started. -/
def failingStart (n m : Nat) (e : Error) : List Traffic :=
  [.own ⟨.inl (.startStream ⟨n⟩), (.error e : Except Error Unit)⟩,
    .foreign ⟨.inl (.startStream ⟨m⟩), (.ok () : Except Error Unit)⟩]

/-- A start succeeds, and then the other stream is stopped. -/
def starting (n m : Nat) : List Traffic :=
  [.own ⟨.inl (.startStream ⟨n⟩), (.ok () : Except Error Unit)⟩,
    .foreign ⟨.inl (.stopStream ⟨m⟩), (.ok () : Except Error Unit)⟩]

theorem held_simulated : ∃ s, Simulator.keeper.Held s (readersGuard 0 1 true) := by
  have hopen : Simulator.Reachable _ :=
    (Simulator.Reachable.start ["usb"]).perform (.openDevice "usb")
  have hnew := @Keeper.Held.setUp _ Simulator.keeper ⟨⟨0⟩, "usb"⟩ (.standard ⟨.rx, 0⟩)
    (readersGuard 0 1 false) (settingUp 0 1 2) _ _ hopen (.ask _ (.ask _ (.done _)))
    (.cons rfl (.cons rfl (.cons ⟨by decide, rfl⟩ (.nil _))))
  have hfailed := @Keeper.Held.use _ _ _ _ (.control :: failingStart 1 2
      (.failed "start_stream" ("start_stream" ++ " rejected by device"))) _ _ .start hnew
    (.ask _ (.done _)) (.cons (.arm _ "start_stream") (.cons rfl (.cons ⟨by decide, rfl⟩ (.nil _))))
  have hstarted := @Keeper.Held.use _ _ _ _ (starting 1 2) _ _ .start hfailed
    (.ask _ (.done _)) (.cons rfl (.cons ⟨by decide, rfl⟩ (.nil _)))
  exact ⟨_, hstarted⟩

/-- A start of a stream that the library refuses. -/
def refusedAs (n : Nat) (block : Native.StreamBlock) : Native.Service where
  request := .startStream ⟨n⟩
  answer := (.error (.failed "start_stream" "") : Except Error Unit)
  events := [⟨.inl (.stream block .start), (⟨-1, (), []⟩ : Native.Reply Unit)⟩,
    ⟨.inl .getLastErrorMessage, (⟨0, none, []⟩ : Native.Reply (Option (List UInt8)))⟩]

/-- A stream is stopped. -/
def stoppedAs (n : Nat) (block : Native.StreamBlock) : Native.Service where
  request := .stopStream ⟨n⟩
  answer := (.ok () : Except Error Unit)
  events := [⟨.inl (.stream block .stop), (⟨0, (), []⟩ : Native.Reply Unit)⟩]

theorem held_native : ∃ b, Native.Binding.keeper.Held b (readersGuard 1 1 true) := by
  have hnew := @Keeper.Held.setUp _ Native.Binding.keeper ⟨⟨1⟩, "usb"⟩ (.standard ⟨.rx, 0⟩)
    (readersGuard 1 1 false) (settingUp 1 1 2)
    ⟨⟨#[some ⟨7⟩, some ⟨8⟩]⟩, ⟨#[some ⟨⟨0⟩, .f32, true, ⟨0, 3⟩⟩]⟩, none, 1⟩ _ trivial
    (.ask _ (.ask _ (.done _)))
    (.cons (answers_of_serves (s := setUpAs 1 1 ⟨8⟩ ⟨1, 4⟩) (.ask _ (.done _)))
      (.cons (answers_ambient _ _ _)
        (.cons ⟨by decide, answers_of_serves (s := setUpAs 1 2 ⟨8⟩ ⟨2, 5⟩) (.ask _ (.done _))⟩
          (.nil _))))
  have hfailed := @Keeper.Held.use _ _ _ _ (failingStart 1 2 (.failed "start_stream" "")) _ _
    .start hnew (.ask _ (.done _))
    (.cons (answers_of_serves (s := refusedAs 1 ⟨1, 4⟩) (.ask _ (.ask _ (.done _))))
      (.cons ⟨by decide, answers_of_serves (s := startedAs 2 ⟨2, 5⟩) (.ask _ (.done _))⟩ (.nil _)))
  have hstarted := @Keeper.Held.use _ _ _ _ (starting 1 2) _ _ .start hfailed (.ask _ (.done _))
    (.cons (answers_of_serves (s := startedAs 1 ⟨1, 4⟩) (.ask _ (.done _)))
      (.cons ⟨by decide, answers_of_serves (s := stoppedAs 2 ⟨2, 5⟩) (.ask _ (.done _))⟩ (.nil _)))
  exact ⟨_, hstarted⟩

theorem readersGuards_agreeWithDrivers :
    (∃ s, Simulator.keeper.Held s (readersGuard 0 1 true) ∧ s.entryAt? ⟨1⟩ = some ⟨true, .f32⟩ ∧
      Simulator.Told s (readersGuard 0 1 true)) ∧
      ∃ b, Native.Binding.keeper.Held b (readersGuard 1 1 true) ∧
        b.entryAt? ⟨1⟩ = some ⟨true, .f32⟩ := by
  obtain ⟨hsimulator, hnative⟩ := drivers_agreeWithGuards
  obtain ⟨s, hs⟩ := held_simulated
  obtain ⟨b, hb⟩ := held_native
  obtain ⟨⟨hentry, -⟩, htold⟩ := hsimulator s _ hs
  exact ⟨⟨s, hs, hentry, htold⟩, b, hb, (hnative b _ hb).1⟩

end Bench
end RadioBench
