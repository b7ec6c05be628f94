/-
What becomes of a simulator.

A session is a list of deeds: requests with the answers they got, and uses of the controls.  Each
deed comes to one of a few effects.  A request that fails leaves nothing behind that could be
looked up, and one that succeeds changes what it is about.  `effect_of_does` goes through the
requests once, and all that is shown of sessions is shown of these effects.

A call on a channel makes an entry for it in the table of channels, also when it only looks
something up or fails.  Such an entry says what was so before, and cannot be told from none.
-/
import RadioBench.Proofs.Host.FirstError
import RadioBench.Proofs.Simulator.Channels
import RadioBench.Proofs.Simulator.Setting

namespace RadioBench
namespace Simulator

open Step

variable {s t : State}

/-! ## Sessions -/

/-- What happens to a simulator: it answers a request, or somebody uses one of its controls. -/
inductive Deed
  | served (request : Request) (answer : request.Answer)
  /-- The next call of a name is made to fail. -/
  | armed (name : String)
  /-- The time is set that a successful read takes. -/
  | delayed (latency : Duration)
  | starved (on : Bool)
  /-- The clock is moved by hand, if it can go that far. -/
  | advanced (span : Duration) (outcome : Except Error Unit)
  | noted (entry : Entry)

def Does : Deed → State → State → Prop
  | .served r a, s, t => perform r s = (a, t)
  | .armed name, s, t => t = s.arm name
  | .delayed latency, s, t => t = s.setReadLatency latency
  | .starved on, s, t => t = s.setStarved on
  | .advanced span r, s, t => s.advance span = (r, t)
  | .noted e, s, t => t = s.note e

/-- A new simulator that lists the given devices gets into the state by the deeds. -/
abbrev Session (listed : List String) (deeds : List Deed) (s : State) : Prop :=
  Path Does (.start listed) deeds s

theorem reachable_of_does {e : Deed} (h : Does e s t) (hs : Reachable s) : Reachable t := by
  cases e with
  | served r a =>
    have ht : t = (perform r s).2 := by rw [show perform r s = (a, t) from h]
    exact ht ▸ hs.perform r
  | armed name => exact h ▸ hs.arm name
  | delayed latency => exact h ▸ hs.readLatency latency
  | starved on => exact h ▸ hs.starved on
  | advanced span r =>
    have ht : t = (s.advance span).2 := by rw [show s.advance span = (r, t) from h]
    exact ht ▸ hs.advance span
  | noted e => exact h ▸ hs.note e

theorem reachable_of_session {listed : List String} {deeds : List Deed}
    (h : Session listed deeds s) : Reachable s :=
  Path.invariant (P := Reachable) (fun _ _ _ he hs => reachable_of_does he hs) h (.start listed)

/-- What a simulator sees of an event of a program. -/
def deed? : Event Host → Option Deed
  | ⟨.inl r, a⟩ => some (.served r a)
  | ⟨.inr (.note e), _⟩ => some (.noted e)
  | _ => none

/-- A program that runs on a simulator goes on with the session. -/
theorem session_of_runs {listed : List String} {deeds : List Deed} {es : List (Event Host)}
    (h : Session listed deeds s) (hes : Path Runs s es t) :
    Session listed (deeds ++ es.filterMap deed?) t := by
  refine h.append (hes.filterMap (fun u => u) ?_ ?_)
  · rintro ⟨op | op, a⟩ u v hev hnone
    · cases hnone
    · cases op with
      | note e => cases hnone
      | now => exact hev
      | write text => exact hev
  · rintro ⟨op | op, a⟩ u v e hev hsome
    · obtain rfl := Option.some.inj hsome
      exact hev
    · cases op with
      | note e' =>
        obtain rfl := Option.some.inj hsome
        exact hev
      | now => cases hsome
      | write text => cases hsome

/-! ## What cannot be told apart -/

/-- Nothing differs that can be looked up: what is open, what runs, what was counted, and what is
set.  The calls on record and the armed names may differ, and the handler may have been told. -/
structure Unaltered (s t : State) : Prop where
  listed : t.listed = s.listed
  handler : t.handler = s.handler
  nextHandle : t.nextHandle = s.nextHandle
  devices : t.devices = s.devices
  streams : t.streams = s.streams
  settings : ∀ d ch, t.channelState d ch = s.channelState d ch
  sampleRate : t.sampleRate = s.sampleRate
  oversample : t.oversample = s.oversample
  saved : t.saved = s.saved
  trims : t.trims = s.trims
  clock : t.clock = s.clock
  readLatency : t.readLatency = s.readLatency
  starved : t.starved = s.starved
  journal : t.journal = s.journal ∨
    ∃ handler message, s.handler = some handler ∧
      t.journal = s.journal.push (handler.deliver .error message)

/-- The states differ at most in what is recorded of calls, in one message to the handler, and in
an entry for a channel that says what was so before. -/
structure Untouched (s t : State) : Prop where
  same : ∃ calls armed journal channels,
    t = { s with calls := calls, armed := armed, journal := journal, channels := channels }
  channels : t.channels = s.channels ∨
    ∃ d ch, d ∈ s.devices ∧ t.channels = s.channels.set (d, ch) (s.channelState d ch)
  told : t.journal = s.journal ∨
    ∃ handler message, s.handler = some handler ∧
      t.journal = s.journal.push (handler.deliver .error message)

namespace Untouched

theorem refl (s : State) : Untouched s s := ⟨⟨_, _, _, _, rfl⟩, .inl rfl, .inl rfl⟩

theorem recorded (s : State) (name : String) : Untouched s (s.recorded name) :=
  ⟨⟨_, _, _, _, rfl⟩, .inl rfl, .inl rfl⟩

theorem rejected (s : State) (name : String) : Untouched s (s.rejected name) := by
  unfold State.rejected
  cases hhandler : s.handler with
  | none => exact ⟨⟨_, _, _, _, rfl⟩, .inl rfl, .inl rfl⟩
  | some handler => exact ⟨⟨_, _, _, _, rfl⟩, .inl rfl, .inr ⟨handler, _, hhandler, rfl⟩⟩

theorem entered {d : DeviceHandle} (hopen : d ∈ s.devices) (name : String) (ch : ChannelId) :
    Untouched s { s.recorded name with channels := s.channels.set (d, ch) (s.channelState d ch) } :=
  ⟨⟨_, _, _, _, rfl⟩, .inr ⟨d, ch, hopen, rfl⟩, .inl rfl⟩

theorem arm (s : State) (name : String) : Untouched s (s.arm name) := by
  rw [State.arm]
  split
  · exact refl s
  · exact ⟨⟨_, _, _, _, rfl⟩, .inl rfl, .inl rfl⟩

theorem channelState (h : Untouched s t) (d : DeviceHandle) (ch : ChannelId) :
    t.channelState d ch = s.channelState d ch := by
  rcases h.channels with heq | ⟨d', ch', -, heq⟩
  · rw [State.channelState, State.channelState, heq]
  · have hset : t.channelState d ch =
        ({ s with channels := s.channels.set (d', ch') (s.channelState d' ch') }
          : State).channelState d ch := by
      rw [State.channelState, heq]
      rfl
    rw [hset, State.channelState_set]
    split
    · next hsame => rw [hsame.1, hsame.2]
    · rfl

theorem unaltered (h : Untouched s t) : Unaltered s t := by
  have hsettings := h.channelState
  have htold := h.told
  obtain ⟨calls, armed, journal, channels, rfl⟩ := h.same
  exact {
    listed := rfl, handler := rfl, nextHandle := rfl, devices := rfl, streams := rfl
    settings := hsettings
    sampleRate := rfl, oversample := rfl, saved := rfl, trims := rfl, clock := rfl
    readLatency := rfl, starved := rfl
    journal := htold }

end Untouched

/-! ## Effects -/

/-- Requests that a simulator has nothing to do for but to answer them. -/
def idle : Request → Bool
  | .libraryVersion => true
  | .deviceList => true
  | .device _ c =>
    match c with
    | .init | .numChannels _ | .loadConfig _ | .lpfBwRange _ | .vctcxoRead => true
    | _ => false
  | .channel _ _ c =>
    match c with
    | .sampleRate | .antennaList => true
    | _ => false
  | .sendStream .. => true
  | .streamStatus _ => true
  | _ => false

/-- Nothing comes of the deed: it is a request that fails or that only asks, a name is armed, or
the clock cannot be moved. -/
def Deed.Quiet : Deed → Prop
  | .served r a => idle r = true ∨ ∃ e, r.failure? a = some e
  | .armed _ => True
  | .advanced _ (.error _) => True
  | _ => False

/-- What a deed comes to. -/
inductive Effect (s : State) : Deed → State → Prop
  | quiet {e : Deed} {t : State} (hquiet : e.Quiet) (h : Untouched s t) : Effect s e t
  | registered (handler : Option LogHandler) :
      Effect s (.served (.registerLog handler) ())
        { s.recorded "register_log_handler" with handler := handler }
  | opened {info : String} (hinfo : info ∈ s.listed) :
      Effect s (.served (.openDevice info) (.ok ⟨s.nextHandle⟩ : Except Error DeviceHandle))
        { s.recorded "open" with
          nextHandle := s.nextHandle + 1, devices := s.devices ++ [⟨s.nextHandle⟩] }
  | closed {d : DeviceHandle} (hopen : d ∈ s.devices) :
      Effect s (.served (.closeDevice d) (.ok () : Except Error Unit))
        ({ s.recorded "close" with devices := s.devices.filter (· ≠ d) }.forgetChannels d)
  | reset {d : DeviceHandle} (hopen : d ∈ s.devices) :
      Effect s (.served (.device d .reset) (.ok () : Except Error Unit))
        ((s.recorded "reset").forgetChannels d)
  | saved {d : DeviceHandle} (path : PathName) (hopen : d ∈ s.devices) :
      Effect s (.served (.device d (.saveConfig path)) (.ok () : Except Error Unit))
        { s.recorded "save_config" with saved := s.saved.push path }
  | rated {d : DeviceHandle} (rate : Float) (oversample : Nat) (hopen : d ∈ s.devices) :
      Effect s (.served (.device d (.setSampleRate rate oversample)) (.ok () : Except Error Unit))
        ((s.recorded "set_sample_rate").setRate rate oversample)
  | ratedDir {d : DeviceHandle} (direction : Direction) (rate : Float) (oversample : Nat)
      (hopen : d ∈ s.devices) :
      Effect s
        (.served (.device d (.setSampleRateDir direction rate oversample))
          (.ok () : Except Error Unit))
        ((s.recorded "set_sample_rate_dir").setRate rate oversample)
  | trimmed {d : DeviceHandle} (value : UInt16) (hopen : d ∈ s.devices) :
      Effect s (.served (.device d (.vctcxoWrite value)) (.ok () : Except Error Unit))
        { s.recorded "vctcxo_write" with trims := s.trims.set d value }
  | tuned {d : DeviceHandle} {ch : ChannelId} {c : ChannelCall} (v : c.Result) {x : ChannelState}
      (hopen : d ∈ s.devices) (hrange : inRange c) (hsets : Sets c (s.channelState d ch) x) :
      Effect s (.served (.channel d ch c) (.ok v : Except Error c.Result))
        { s.recorded c.name with channels := s.channels.set (d, ch) x }
  | setUp {d : DeviceHandle} (config : StreamConfig) (hopen : d ∈ s.devices) :
      Effect s (.served (.setupStream d config) (.ok ⟨s.nextHandle⟩ : Except Error StreamHandle))
        { (s.recorded "setup_stream").putStream ⟨s.nextHandle⟩
            { config := config, running := false, received := 0 } with
          nextHandle := s.nextHandle + 1 }
  | destroyed {d : DeviceHandle} {n : StreamHandle} {st : StreamState} (hopen : d ∈ s.devices)
      (hst : s.streams.find? n = some st) (hrest : st.running = false) :
      Effect s (.served (.destroyStream d n) (.ok () : Except Error Unit))
        { s.recorded "destroy_stream" with streams := s.streams.erase n }
  | started {n : StreamHandle} {st : StreamState} (hst : s.streams.find? n = some st) :
      Effect s (.served (.startStream n) (.ok () : Except Error Unit))
        ((s.recorded "start_stream").putStream n { st with running := true })
  | stopped {n : StreamHandle} {st : StreamState} (hst : s.streams.find? n = some st) :
      Effect s (.served (.stopStream n) (.ok () : Except Error Unit))
        ((s.recorded "stop_stream").putStream n { st with running := false })
  /-- A read that waits until its timeout. -/
  | waited {n : StreamHandle} {st : StreamState} {buffer : SampleBuffer} {info : Option StreamMeta}
      {timeout later : Duration} (hst : s.streams.find? n = some st)
      (hslow : s.starved = true ∨ timeout < s.readLatency)
      (hlater : s.clock.add? timeout = some later) :
      Effect s (.served (.recvStream n buffer info timeout) ⟨.ok 0, buffer, info⟩)
        { s.recorded "recv_stream" with clock := later }
  /-- A read that fills the buffer. -/
  | filled {n : StreamHandle} {st : StreamState} {buffer : SampleBuffer} {info : Option StreamMeta}
      {timeout later : Duration} (hst : s.streams.find? n = some st)
      (hfast : ¬ (s.starved = true ∨ timeout < s.readLatency))
      (hlater : s.clock.add? s.readLatency = some later) :
      Effect s
        (.served (.recvStream n buffer info timeout)
          ⟨.ok buffer.capacity, buffer, info.map fun m => { m with timestamp := st.received }⟩)
        ({ s.recorded "recv_stream" with clock := later }.putStream n
          { st with received := st.received + buffer.capacity.toUInt64 })
  | delayed (latency : Duration) : Effect s (.delayed latency) (s.setReadLatency latency)
  | starved (on : Bool) : Effect s (.starved on) (s.setStarved on)
  | advanced {span later : Duration} (hlater : s.clock.add? span = some later) :
      Effect s (.advanced span (.ok ())) { s with clock := later }
  | noted (e : Entry) : Effect s (.noted e) (s.note e)

theorem Effect.refused {r : Request} {a : r.Answer} {e : Error} (hfailed : r.failure? a = some e)
    (h : Untouched s t) : Effect s (.served r a) t := .quiet (.inr ⟨e, hfailed⟩) h

theorem Effect.answered {r : Request} {a : r.Answer} (hidle : idle r = true)
    (h : Untouched s t) : Effect s (.served r a) t := .quiet (.inl hidle) h

/-- Numbers of handles only grow. -/
theorem Effect.nextHandle_le {e : Deed} (h : Effect s e t) : s.nextHandle ≤ t.nextHandle := by
  cases h with
  | quiet _ ht => exact Nat.le_of_eq ht.unaltered.nextHandle.symm
  | opened _ => exact Nat.le_succ _
  | setUp _ _ => exact Nat.le_succ _
  | _ => exact Nat.le_refl _

/-! ## The requests -/

section Steps

variable {α : Type} {r : Except Error α} {name : String}

/-- A call on a device fails and leaves nothing behind, or the device is open. -/
theorem onDevice_inv {d : DeviceHandle} {body : Step α} (h : onDevice name d body s = (r, t)) :
    (∃ e, r = .error e ∧ Untouched s t) ∨
      (d ∈ s.devices ∧ body (s.recorded name) = (r, t)) := by
  rcases attempt_cases h with ⟨-, ⟨e, rfl⟩, rfl⟩ | ⟨-, h⟩
  · exact .inl ⟨e, rfl, .rejected s name⟩
  · by_cases hopen : d ∈ s.devices
    · rw [if_pos (by exact hopen)] at h
      exact .inr ⟨hopen, h⟩
    · rw [if_neg (by exact hopen)] at h
      cases h
      exact .inl ⟨_, rfl, .recorded s name⟩

/-- A call on a stream fails and leaves nothing behind, or the stream is there. -/
theorem onStream_inv {n : StreamHandle} {body : StreamState → Step α}
    (h : onStream name n body s = (r, t)) :
    (∃ e, r = .error e ∧ Untouched s t) ∨
      ∃ st, s.streams.find? n = some st ∧ body st (s.recorded name) = (r, t) := by
  rcases onStream_cases h with ⟨-, ⟨e, rfl⟩, rfl⟩ | ⟨-, ⟨e, rfl⟩, rfl⟩ | ⟨-, st, hst, h⟩
  · exact .inl ⟨e, rfl, .rejected s name⟩
  · exact .inl ⟨e, rfl, .recorded s name⟩
  · exact .inr ⟨st, hst, h⟩

end Steps

theorem effect_deviceCall {d : DeviceHandle} {c : DeviceCall} {a : Except Error c.Result}
    (h : deviceCall d c s = (a, t)) : Effect s (.served (.device d c) a) t := by
  have hrecorded (name : String) : Untouched s (s.recorded name) := .recorded s name
  cases c <;> rcases onDevice_inv h with ⟨e, rfl, ht⟩ | ⟨hopen, h⟩ <;>
    first
    | exact .refused rfl ht
    | cases h
  case init => exact .answered rfl (hrecorded _)
  case reset => exact .reset hopen
  case numChannels => exact .answered rfl (hrecorded _)
  case loadConfig => exact .answered rfl (hrecorded _)
  case saveConfig path => exact .saved path hopen
  case setSampleRate rate oversample => exact .rated rate oversample hopen
  case setSampleRateDir direction rate oversample => exact .ratedDir direction rate oversample hopen
  case lpfBwRange => exact .answered rfl (hrecorded _)
  case vctcxoWrite value => exact .trimmed value hopen
  case vctcxoRead => exact .answered rfl (hrecorded _)

/-- A call on a channel that looks at its argument fails and leaves nothing behind, or the argument
is good and the device open. -/
theorem onChannel_guarded_inv {α : Type} {r : Except Error α} {name : String} {d : DeviceHandle}
    {ch : ChannelId} {p : Prop} [Decidable p] {err : Error} {value : α}
    {f : ChannelState → ChannelState}
    (h : onChannel name d ch (fun x => if p then (.error err, x) else (.ok value, f x)) s = (r, t)) :
    (∃ e, r = .error e ∧ Untouched s t) ∨
      ¬ p ∧ d ∈ s.devices ∧ r = .ok value ∧
        t = { s.recorded name with
          channels := s.channels.set (d, ch) (f (s.channelState d ch)) } := by
  rcases onDevice_inv h with hrefused | ⟨hopen, h⟩
  · exact .inl hrefused
  · by_cases hp : p
    · simp only [if_pos hp] at h
      cases h
      exact .inl ⟨err, rfl, .entered hopen name ch⟩
    · simp only [if_neg hp] at h
      cases h
      exact .inr ⟨hp, hopen, rfl, rfl⟩

theorem effect_channelCall {d : DeviceHandle} {ch : ChannelId} {c : ChannelCall}
    {a : Except Error c.Result} (h : channelCall d ch c s = (a, t)) :
    Effect s (.served (.channel d ch c) a) t := by
  cases c with
  | sampleRate =>
    rcases onDevice_inv h with ⟨e, rfl, ht⟩ | ⟨-, h⟩
    · exact .refused rfl ht
    · cases h
      exact .answered rfl (.recorded s _)
  | antennaList =>
    rcases onDevice_inv h with ⟨e, rfl, ht⟩ | ⟨-, h⟩
    · exact .refused rfl ht
    · cases h
      exact .answered rfl (.recorded s _)
  | setAntenna index =>
    -- the index is looked at before the device is, and there is no entry when it is refused
    dsimp only [channelCall] at h
    by_cases hindex : antennas.length ≤ index
    · rw [if_pos hindex] at h
      rcases attempt_cases h with ⟨-, ⟨e, rfl⟩, rfl⟩ | ⟨-, h⟩
      · exact .refused rfl (.rejected s _)
      · cases h
        exact .refused rfl (.recorded s _)
    · rw [if_neg hindex] at h
      rcases onDevice_inv h with ⟨e, rfl, ht⟩ | ⟨hopen, h⟩
      · exact .refused rfl ht
      · cases h
        exact .tuned _ hopen (Nat.lt_of_not_le hindex) fun k => by cases k <;> rfl
  | setNcoIndex index down =>
    dsimp only [channelCall] at h
    rcases onChannel_guarded_inv h with ⟨e, rfl, ht⟩ | ⟨hindex, hopen, rfl, rfl⟩
    · exact .refused rfl ht
    · exact .tuned _ hopen (Nat.lt_of_not_le hindex) fun k => by cases k <;> rfl
  | setGfirCoeff filter values =>
    dsimp only [channelCall] at h
    rcases onChannel_guarded_inv h with ⟨e, rfl, ht⟩ | ⟨hlength, hopen, rfl, rfl⟩
    · exact .refused rfl ht
    · exact .tuned _ hopen (Nat.le_of_not_lt hlength) (sets_load filter values _)
  | setGfir filter on =>
    dsimp only [channelCall] at h
    rcases onDevice_inv h with ⟨e, rfl, ht⟩ | ⟨hopen, h⟩
    · exact .refused rfl ht
    · cases h
      exact .tuned _ hopen trivial (sets_switch filter on _)
  | _ =>
    -- calls that look a setting up are among these: they set nothing, and enter what was so before
    dsimp only [channelCall] at h
    rcases onDevice_inv h with ⟨e, rfl, ht⟩ | ⟨hopen, h⟩
    · exact .refused rfl ht
    · cases h
      exact .tuned _ hopen trivial fun k => by cases k <;> rfl

theorem effect_openDevice {info : String} {a : Except Error DeviceHandle}
    (h : openDevice info s = (a, t)) : Effect s (.served (.openDevice info) a) t := by
  rcases attempt_cases h with ⟨-, ⟨e, rfl⟩, rfl⟩ | ⟨-, h⟩
  · exact .refused rfl (.rejected s _)
  · by_cases hinfo : info ∈ s.listed
    · rw [if_pos (by exact hinfo)] at h
      cases h
      exact .opened hinfo
    · rw [if_neg (by exact hinfo)] at h
      cases h
      exact .refused rfl (.recorded s _)

theorem effect_destroyStream {d : DeviceHandle} {n : StreamHandle} {a : Except Error Unit}
    (h : destroyStream d n s = (a, t)) : Effect s (.served (.destroyStream d n) a) t := by
  rcases onDevice_inv h with ⟨e, rfl, ht⟩ | ⟨hopen, h⟩
  · exact .refused rfl ht
  dsimp only [State.recorded] at h
  cases hst : s.streams.find? n with
  | none =>
    rw [hst] at h
    cases h
    exact .refused rfl (.recorded s _)
  | some st =>
    rw [hst] at h
    dsimp only at h
    cases hrunning : st.running with
    | true =>
      rw [hrunning] at h
      cases h
      exact .refused rfl (.recorded s _)
    | false =>
      rw [hrunning] at h
      cases h
      exact .destroyed hopen hst hrunning

/-- A read fails and leaves nothing behind, or it waits until its timeout, or it fills the buffer. -/
theorem recvStream_inv {n : StreamHandle} {buffer : SampleBuffer} {timeout : Duration}
    {r : Except Error (Nat × Option UInt64)} (h : recvStream n buffer timeout s = (r, t)) :
    (∃ e, r = .error e ∧ Untouched s t) ∨
      ∃ st later, s.streams.find? n = some st ∧
        ((s.starved = true ∨ timeout < s.readLatency) ∧ s.clock.add? timeout = some later ∧
            r = .ok (0, none) ∧ t = { s.recorded "recv_stream" with clock := later } ∨
          ¬ (s.starved = true ∨ timeout < s.readLatency) ∧
            s.clock.add? s.readLatency = some later ∧
            r = .ok (buffer.capacity, some st.received) ∧
            t = { s.recorded "recv_stream" with clock := later }.putStream n
              { st with received := st.received + buffer.capacity.toUInt64 }) := by
  rcases onStream_inv h with hrefused | ⟨st, hst, h⟩
  · exact .inl hrefused
  have hrecorded : Untouched s (s.recorded "recv_stream") := .recorded s _
  by_cases hformat : st.config.dataFormat ≠ buffer.format
  · rw [if_pos hformat] at h
    cases h
    exact .inl ⟨_, rfl, hrecorded⟩
  rw [if_neg hformat] at h
  by_cases hrest : (!st.running) = true
  · rw [if_pos hrest] at h
    cases h
    exact .inl ⟨_, rfl, hrecorded⟩
  rw [if_neg hrest] at h
  dsimp only [State.advance] at h
  by_cases hslow : (s.recorded "recv_stream").starved = true ∨
      timeout < (s.recorded "recv_stream").readLatency
  · rw [if_pos hslow] at h
    cases hlater : (s.recorded "recv_stream").clock.add? timeout with
    | none =>
      rw [hlater] at h
      cases h
      exact .inl ⟨_, rfl, hrecorded⟩
    | some later =>
      rw [hlater] at h
      cases h
      exact .inr ⟨st, later, hst, .inl ⟨hslow, hlater, rfl, rfl⟩⟩
  · rw [if_neg hslow] at h
    cases hlater : (s.recorded "recv_stream").clock.add?
        (s.recorded "recv_stream").readLatency with
    | none =>
      rw [hlater] at h
      cases h
      exact .inl ⟨_, rfl, hrecorded⟩
    | some later =>
      rw [hlater] at h
      cases h
      exact .inr ⟨st, later, hst, .inr ⟨hslow, hlater, rfl, rfl⟩⟩

theorem effect_recvStream {n : StreamHandle} {buffer : SampleBuffer} {info : Option StreamMeta}
    {timeout : Duration} {a : Received}
    (h : perform (.recvStream n buffer info timeout) s = (a, t)) :
    Effect s (.served (.recvStream n buffer info timeout) a) t := by
  dsimp only [perform] at h
  cases hrecv : recvStream n buffer timeout s with
  | mk r u =>
    rw [hrecv] at h
    rcases recvStream_inv hrecv with ⟨e, rfl, hu⟩ |
      ⟨st, later, hst, ⟨hslow, hlater, rfl, rfl⟩ | ⟨hfast, hlater, rfl, rfl⟩⟩
    · cases h
      exact .refused rfl hu
    · cases h
      cases info with
      | none => exact .waited hst hslow hlater
      | some m => exact .waited hst hslow hlater
    · cases h
      exact .filled hst hfast hlater

theorem effect_sendStream {n : StreamHandle} {buffer : SampleBuffer} {count : Nat}
    {info : Option StreamMeta} {timeout : Duration} {a : Except Error Nat}
    (h : sendStream n buffer count s = (a, t)) :
    Effect s (.served (.sendStream n buffer count info timeout) a) t := by
  rcases onStream_inv h with ⟨e, rfl, ht⟩ | ⟨st, -, h⟩
  · exact .refused rfl ht
  have hrecorded : Untouched s (s.recorded "send_stream") := .recorded s _
  by_cases hformat : st.config.dataFormat ≠ buffer.format
  · rw [if_pos hformat] at h
    cases h
    exact .refused rfl hrecorded
  rw [if_neg hformat] at h
  split at h
  · cases h
    exact .answered rfl hrecorded
  · cases h
    exact .answered rfl hrecorded

/-- A start or a stop. -/
theorem switch_inv {name : String} {n : StreamHandle} {on : Bool} {r : Except Error Unit}
    (h : onStream name n (fun st u => (.ok (), u.putStream n { st with running := on })) s = (r, t)) :
    (∃ e, r = .error e ∧ Untouched s t) ∨
      ∃ st, s.streams.find? n = some st ∧ r = .ok () ∧
        t = (s.recorded name).putStream n { st with running := on } := by
  rcases onStream_inv h with hrefused | ⟨st, hst, h⟩
  · exact .inl hrefused
  · cases h
    exact .inr ⟨st, hst, rfl, rfl⟩

theorem effect_closeDevice {d : DeviceHandle} {a : Except Error Unit}
    (h : closeDevice d s = (a, t)) : Effect s (.served (.closeDevice d) a) t := by
  rcases onDevice_inv h with ⟨e, rfl, ht⟩ | ⟨hopen, h⟩
  · exact .refused rfl ht
  · cases h
    exact .closed hopen

theorem effect_setupStream {d : DeviceHandle} {config : StreamConfig}
    {a : Except Error StreamHandle} (h : setupStream d config s = (a, t)) :
    Effect s (.served (.setupStream d config) a) t := by
  rcases onDevice_inv h with ⟨e, rfl, ht⟩ | ⟨hopen, h⟩
  · exact .refused rfl ht
  · cases h
    exact .setUp config hopen

theorem effect_startStream {n : StreamHandle} {a : Except Error Unit}
    (h : startStream n s = (a, t)) : Effect s (.served (.startStream n) a) t := by
  rcases switch_inv h with ⟨e, rfl, ht⟩ | ⟨st, hst, rfl, rfl⟩
  · exact .refused rfl ht
  · exact .started hst

theorem effect_stopStream {n : StreamHandle} {a : Except Error Unit}
    (h : stopStream n s = (a, t)) : Effect s (.served (.stopStream n) a) t := by
  rcases switch_inv h with ⟨e, rfl, ht⟩ | ⟨st, hst, rfl, rfl⟩
  · exact .refused rfl ht
  · exact .stopped hst

theorem effect_streamStatus {n : StreamHandle} {a : Except Error StreamStatus}
    (h : streamStatus n s = (a, t)) : Effect s (.served (.streamStatus n) a) t := by
  rcases onStream_inv h with ⟨e, rfl, ht⟩ | ⟨st, -, h⟩
  · exact .refused rfl ht
  · cases h
    exact .answered rfl (.recorded s _)

theorem effect_deviceList {a : Except Error (List String)}
    (h : attempt "device_list" (fun s => (.ok s.listed, s)) s = (a, t)) :
    Effect s (.served .deviceList a) t := by
  rcases attempt_cases h with ⟨-, ⟨e, rfl⟩, rfl⟩ | ⟨-, h⟩
  · exact .refused rfl (.rejected s _)
  · cases h
    exact .answered rfl (.recorded s _)

theorem effect_perform {r : Request} {a : r.Answer} (h : perform r s = (a, t)) :
    Effect s (.served r a) t := by
  cases r with
  | libraryVersion =>
    cases h
    exact .answered rfl (.refl s)
  | registerLog handler =>
    cases h
    exact .registered handler
  | deviceList => exact effect_deviceList h
  | openDevice info => exact effect_openDevice h
  | closeDevice d => exact effect_closeDevice h
  | device d c => exact effect_deviceCall h
  | channel d ch c => exact effect_channelCall h
  | setupStream d config => exact effect_setupStream h
  | destroyStream d n => exact effect_destroyStream h
  | startStream n => exact effect_startStream h
  | stopStream n => exact effect_stopStream h
  | recvStream n buffer info timeout => exact effect_recvStream h
  | sendStream n buffer count info timeout => exact effect_sendStream h
  | streamStatus n => exact effect_streamStatus h

theorem effect_of_does {e : Deed} (h : Does e s t) : Effect s e t := by
  cases e with
  | served r a => exact effect_perform h
  | armed name => exact h ▸ .quiet trivial (.arm s name)
  | delayed latency => exact h ▸ .delayed latency
  | starved on => exact h ▸ .starved on
  | advanced span r =>
    rw [Does, State.advance] at h
    cases hlater : s.clock.add? span with
    | none =>
      rw [hlater] at h
      cases h
      exact .quiet trivial (.refl s)
    | some later =>
      rw [hlater] at h
      cases h
      exact .advanced hlater
  | noted e => exact h ▸ .noted e

end Simulator
end RadioBench
