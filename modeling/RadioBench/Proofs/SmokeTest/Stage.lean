/-
How far a smoke test has come.

A test opens at most one device and sets up at most one stream on it.  A stage says
what is held at a moment; `Step` says which requests may be made at a stage and where
their answers lead.  A device that was closed and a stream that was destroyed are not
held any more, whatever the driver answered.
-/
import RadioBench.Proofs.Guard.Trace
import RadioBench.Proofs.Prog.Path

namespace RadioBench
namespace SmokeTest

inductive Stage
  /-- No device was opened so far. -/
  | waiting
  | opened (h : DeviceHandle)
  /-- A stream is set up and was not started. -/
  | ready (h : DeviceHandle) (n : StreamHandle)
  | running (h : DeviceHandle) (n : StreamHandle)
  /-- A stream was started, and every attempt to stop it has failed. -/
  | stuck (h : DeviceHandle) (n : StreamHandle)
  | stopped (h : DeviceHandle) (n : StreamHandle)
  | destroyed (h : DeviceHandle)
  | closed

namespace Stage

inductive Step : Event Host → Stage → Stage → Prop
  | ambient (o : Ambient) (a : o.Reply) (st : Stage) : Step ⟨.inr o, a⟩ st st
  | version (a : String) (st : Stage) : Step ⟨.inl .libraryVersion, a⟩ st st
  | register (handler : Option LogHandler) (st : Stage) :
      Step ⟨.inl (.registerLog handler), ()⟩ st st
  | list (a : Except Error (List String)) (st : Stage) : Step ⟨.inl .deviceList, a⟩ st st
  | opened (info : String) (h : DeviceHandle) :
      Step ⟨.inl (.openDevice info), .ok h⟩ waiting (opened h)
  | notOpened (info : String) (e : Error) :
      Step ⟨.inl (.openDevice info), .error e⟩ waiting waiting
  | device (h : DeviceHandle) (c : DeviceCall) (a : Except Error c.Result) :
      Step ⟨.inl (.device h c), a⟩ (opened h) (opened h)
  | channel (h : DeviceHandle) (ch : ChannelId) (c : ChannelCall) (a : Except Error c.Result) :
      Step ⟨.inl (.channel h ch c), a⟩ (opened h) (opened h)
  | setUp (h : DeviceHandle) (config : StreamConfig) (n : StreamHandle) :
      Step ⟨.inl (.setupStream h config), .ok n⟩ (opened h) (ready h n)
  | notSetUp (h : DeviceHandle) (config : StreamConfig) (e : Error) :
      Step ⟨.inl (.setupStream h config), .error e⟩ (opened h) (opened h)
  | started (h : DeviceHandle) (n : StreamHandle) :
      Step ⟨.inl (.startStream n), .ok ()⟩ (ready h n) (running h n)
  | notStarted (h : DeviceHandle) (n : StreamHandle) (e : Error) :
      Step ⟨.inl (.startStream n), .error e⟩ (ready h n) (ready h n)
  | recv (h : DeviceHandle) (n : StreamHandle) (buffer : SampleBuffer)
      (info : Option StreamMeta) (timeout : Duration) (a : Received) :
      Step ⟨.inl (.recvStream n buffer info timeout), a⟩ (running h n) (running h n)
  | status (h : DeviceHandle) (n : StreamHandle) (a : Except Error StreamStatus) :
      Step ⟨.inl (.streamStatus n), a⟩ (running h n) (running h n)
  | stopped (h : DeviceHandle) (n : StreamHandle) :
      Step ⟨.inl (.stopStream n), .ok ()⟩ (running h n) (stopped h n)
  | notStopped (h : DeviceHandle) (n : StreamHandle) (e : Error) :
      Step ⟨.inl (.stopStream n), .error e⟩ (running h n) (stuck h n)
  | stoppedLater (h : DeviceHandle) (n : StreamHandle) :
      Step ⟨.inl (.stopStream n), .ok ()⟩ (stuck h n) (stopped h n)
  | stillStuck (h : DeviceHandle) (n : StreamHandle) (e : Error) :
      Step ⟨.inl (.stopStream n), .error e⟩ (stuck h n) (stuck h n)
  | destroyed {st : Stage} (h : DeviceHandle) (n : StreamHandle) (a : Except Error Unit)
      (hst : st = ready h n ∨ st = stuck h n ∨ st = stopped h n) :
      Step ⟨.inl (.destroyStream h n), a⟩ st (destroyed h)
  | closed {st : Stage} (h : DeviceHandle) (a : Except Error Unit)
      (hst : st = opened h ∨ st = destroyed h) : Step ⟨.inl (.closeDevice h), a⟩ st closed

/-- What gives the stream back: a stop if it was started and no stop succeeded, then
its destruction. -/
def streamCleanup : Stage → List Request
  | ready h n => [.destroyStream h n]
  | running h n => [.stopStream n, .destroyStream h n]
  | stuck h n => [.stopStream n, .destroyStream h n]
  | stopped h n => [.destroyStream h n]
  | _ => []

/-- What gives the device back. -/
def deviceCleanup : Stage → List Request
  | waiting => []
  | opened h => [.closeDevice h]
  | ready h _ => [.closeDevice h]
  | running h _ => [.closeDevice h]
  | stuck h _ => [.closeDevice h]
  | stopped h _ => [.closeDevice h]
  | destroyed h => [.closeDevice h]
  | closed => []

/-- What gives everything back that is held. -/
def cleanup (st : Stage) : List Request := st.streamCleanup ++ st.deviceCleanup

/-- The stage once the stream is given back. -/
def withoutStream : Stage → Stage
  | ready h _ => destroyed h
  | running h _ => destroyed h
  | stuck h _ => destroyed h
  | stopped h _ => destroyed h
  | st => st

/-- The stage once everything is given back. -/
def released : Stage → Stage
  | waiting => waiting
  | _ => closed

theorem streamCleanup_append_deviceCleanup (st : Stage) :
    st.streamCleanup ++ st.deviceCleanup = st.cleanup := rfl

theorem withoutStream_of_deviceCleanup {h : DeviceHandle} {st : Stage}
    (hst : st.deviceCleanup = [.closeDevice h]) :
    (st.withoutStream = opened h ∨ st.withoutStream = destroyed h) ∧ st.released = closed := by
  cases st <;> simp_all [deviceCleanup, withoutStream, released]

/-- A request that keeps the stage, whatever the answer. -/
def Still (st : Stage) (r : Request) : Prop := ∀ a, Step ⟨.inl r, a⟩ st st

theorem path_still {st : Stage} {es : List (Event Host)} (h : ∀ r ∈ requests es, Still st r) :
    Path Step st es st := .of_requests (fun o a => .ambient o a st) h

theorem path_notes {st : Stage} {es : List (Event Host)} (h : Notes es) : Path Step st es st :=
  path_still (by simp [h.requests])

theorem path_of_cut {α : Type} {st : Stage} {rs : List Request} {es : List (Event Host)}
    {r : Except Error α} (h : Cut rs es r) (hrs : ∀ q ∈ rs, Still st q) : Path Step st es st :=
  path_still fun q hq => hrs q (h.subset hq)

/-! ## Dropping a stream -/

/-- The stages that agree with what a stream says of itself.  A stream that could not
be stopped still counts as running. -/
def Holds (s : Stream) : Stage → Prop
  | ready h n => s.device = h ∧ s.handle = n ∧ s.running = false
  | running h n => s.device = h ∧ s.handle = n ∧ s.running = true
  | stuck h n => s.device = h ∧ s.handle = n ∧ s.running = true
  | stopped h n => s.device = h ∧ s.handle = n ∧ s.running = false
  | _ => False

theorem Holds.deviceCleanup {s : Stream} {st : Stage} (h : st.Holds s) :
    st.deviceCleanup = [.closeDevice s.device] := by
  cases st <;> simp_all [Holds, Stage.deviceCleanup]

theorem Holds.withoutStream {s : Stream} {st : Stage} (h : st.Holds s) :
    st.withoutStream = destroyed s.device := by
  cases st <;> simp_all [Holds, Stage.withoutStream]

/-- A stop leads from a stage at which the stream counts as running to one at which
the stream may be destroyed. -/
theorem Holds.stop {s : Stream} {st : Stage} (h : st.Holds s) (hrun : s.running = true)
    (a : Except Error Unit) :
    st.streamCleanup = [.stopStream s.handle, .destroyStream s.device s.handle] ∧
      ∃ mid, Step ⟨.inl (.stopStream s.handle), a⟩ st mid ∧
        (mid = stuck s.device s.handle ∨ mid = stopped s.device s.handle) := by
  cases st with
  | running d n =>
    obtain ⟨rfl, rfl, -⟩ := h
    cases a with
    | ok u => exact ⟨rfl, _, .stopped _ _, .inr rfl⟩
    | error e => exact ⟨rfl, _, .notStopped _ _ e, .inl rfl⟩
  | stuck d n =>
    obtain ⟨rfl, rfl, -⟩ := h
    cases a with
    | ok u => exact ⟨rfl, _, .stoppedLater _ _, .inr rfl⟩
    | error e => exact ⟨rfl, _, .stillStuck _ _ e, .inl rfl⟩
  | ready d n => simp [Holds, hrun] at h
  | stopped d n => simp [Holds, hrun] at h
  | waiting => exact h.elim
  | opened d => exact h.elim
  | destroyed d => exact h.elim
  | closed => exact h.elim

theorem Holds.atRest {s : Stream} {st : Stage} (h : st.Holds s) (hrun : s.running = false) :
    st.streamCleanup = [.destroyStream s.device s.handle] ∧
      (st = ready s.device s.handle ∨ st = stopped s.device s.handle) := by
  cases st with
  | ready d n =>
    obtain ⟨rfl, rfl, -⟩ := h
    exact ⟨rfl, .inl rfl⟩
  | stopped d n =>
    obtain ⟨rfl, rfl, -⟩ := h
    exact ⟨rfl, .inr rfl⟩
  | running d n => simp [Holds, hrun] at h
  | stuck d n => simp [Holds, hrun] at h
  | waiting => exact h.elim
  | opened d => exact h.elim
  | destroyed d => exact h.elim
  | closed => exact h.elim

theorem path_destroy {s : Stream} {st : Stage} {es : List (Event Host)} {r : Except Error Unit}
    (h : s.destroy.run.Yields es r) (hst : st.Holds s) :
    requests es = st.streamCleanup ∧ Path Step st es (destroyed s.device) := by
  rcases Stream.of_yields_destroy h with ⟨hrun, a, notes, hnotes, rfl⟩ | ⟨hrun, rfl⟩
  · obtain ⟨hreq, mid, hstop, hmid⟩ := hst.stop hrun a
    constructor
    · simp [Event.request?, hreq, hnotes.requests]
    · exact .cons hstop (.append (path_notes hnotes) (.single (.destroyed _ _ r (.inr hmid))))
  · obtain ⟨hreq, hmid⟩ := hst.atRest hrun
    refine ⟨by simp [Event.request?, hreq], .single (.destroyed _ _ r ?_)⟩
    exact hmid.imp_right .inr

theorem path_drop {s : Stream} {st : Stage} {es : List (Event Host)} {u : Unit}
    (h : s.drop.Yields es u) (hst : st.Holds s) :
    requests es = st.streamCleanup ∧ Path Step st es (destroyed s.device) := by
  obtain ⟨r, es', notes, rfl, hes', hnotes⟩ := Stream.of_yields_drop h
  obtain ⟨hreq, hpath⟩ := path_destroy hes' hst
  exact ⟨by simp [hreq, hnotes.requests], hpath.append (path_notes hnotes)⟩

end Stage
end SmokeTest
end RadioBench
