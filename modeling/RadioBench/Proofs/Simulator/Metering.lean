/-
Samples and time add up.

A stream counts the samples that were read from it, and a read is told the count from before it.
What was read from a stream can be summed up from the deeds alone, and so can the time that reads
took, once it is known how fast the radio was at each of them.  `received_of_effect` and
`clock_of_effect` say for one deed that the simulator keeps these sums.

Counts wrap around at 64 bits.  As long as they do not, they are the sums.
-/
import RadioBench.Proofs.Simulator.Effect

namespace RadioBench
namespace Simulator

variable {s t : State} {e : Deed}

/-! ## What deeds amount to -/

/-- The samples that are read from a stream. -/
def Deed.samples (n : StreamHandle) : Deed → Nat
  | .served (.recvStream m _ _ _) ⟨.ok count, _, _⟩ => if m = n then count else 0
  | _ => 0

/-- All samples read from a stream. -/
def samples (n : StreamHandle) : List Deed → Nat
  | [] => 0
  | e :: es => e.samples n + samples n es

theorem samples_concat (n : StreamHandle) (deeds : List Deed) (e : Deed) :
    samples n (deeds ++ [e]) = samples n deeds + e.samples n := by
  induction deeds with
  | nil => exact (Nat.zero_add _).symm
  | cons e' es ih => rw [List.cons_append, samples, samples, ih, Nat.add_assoc]

/-- How fast the radio is told to be. -/
structure Pace where
  latency : Duration
  starved : Bool

namespace Pace

/-- A read takes a millisecond until it is told otherwise. -/
def start : Pace := ⟨.ofMillis 1, false⟩

/-- No samples come before the timeout. -/
def Slow (p : Pace) (timeout : Duration) : Prop := p.starved = true ∨ timeout < p.latency

instance (p : Pace) (timeout : Duration) : Decidable (p.Slow timeout) :=
  inferInstanceAs (Decidable (_ ∨ _))

def after (p : Pace) : Deed → Pace
  | .delayed latency => { p with latency := latency }
  | .starved on => { p with starved := on }
  | _ => p

/-- The time that a deed spends reading. -/
def reading (p : Pace) : Deed → Nat
  | .served (.recvStream _ _ _ timeout) ⟨.ok _, _, _⟩ =>
    if p.Slow timeout then timeout.nanos else p.latency.nanos
  | _ => 0

/-- The time that is spent reading, all in all. -/
def readings : Pace → List Deed → Nat
  | _, [] => 0
  | p, e :: es => p.reading e + (p.after e).readings es

end Pace

/-- The time that the clock is moved by hand. -/
def Deed.span : Deed → Nat
  | .advanced span (.ok ()) => span.nanos
  | _ => 0

/-- The time that the clock is moved by hand, all in all. -/
def spans : List Deed → Nat
  | [] => 0
  | e :: es => e.span + spans es

def State.pace (s : State) : Pace := ⟨s.readLatency, s.starved⟩

/-! ## One deed -/

/-- Where nothing comes of a deed, nothing is read and no time passes. -/
theorem reads_nothing (h : e.Quiet) :
    (∀ n, e.samples n = 0) ∧ (∀ p : Pace, p.reading e = 0) ∧ e.span = 0 := by
  cases e with
  | served r a =>
    cases r with
    | recvStream n buffer info timeout =>
      obtain ⟨x, buffer', info'⟩ := (a : Received)
      cases x with
      | error e => exact ⟨fun _ => rfl, fun _ => rfl, rfl⟩
      | ok count => rcases h with h | ⟨e, h⟩ <;> cases h
    | _ => exact ⟨fun _ => rfl, fun _ => rfl, rfl⟩
  | advanced span r =>
    cases r with
    | error e => exact ⟨fun _ => rfl, fun _ => rfl, rfl⟩
    | ok u => cases h
  | _ => exact ⟨fun _ => rfl, fun _ => rfl, rfl⟩

theorem Unaltered.pace (h : Unaltered s t) : t.pace = s.pace := by
  rw [State.pace, State.pace, h.readLatency, h.starved]

theorem pace_of_effect (h : Effect s e t) : t.pace = s.pace.after e := by
  cases h with
  | @quiet e _ hquiet ht =>
    rw [ht.unaltered.pace]
    cases e with
    | delayed latency => cases hquiet
    | starved on => cases hquiet
    | _ => rfl
  | _ => rfl

theorem clock_of_effect (h : Effect s e t) :
    t.clock.nanos = s.clock.nanos + (s.pace.reading e + e.span) := by
  cases h with
  | quiet hquiet ht =>
    obtain ⟨-, hreading, hspan⟩ := reads_nothing hquiet
    rw [hreading, hspan, ht.unaltered.clock]
    rfl
  | @waited n st buffer info timeout later hst hslow hlater =>
    show later.nanos = s.clock.nanos + (if s.pace.Slow timeout then timeout.nanos else _)
    rw [if_pos (by exact hslow), Duration.add?_eq_some hlater]
  | @filled n st buffer info timeout later hst hfast hlater =>
    show later.nanos = s.clock.nanos + (if s.pace.Slow timeout then _ else s.readLatency.nanos)
    rw [if_neg (by exact hfast), Duration.add?_eq_some hlater]
  | advanced hlater =>
    rw [Duration.add?_eq_some hlater]
    exact congrArg _ (Nat.zero_add _).symm
  | _ => rfl

theorem find?_putStream {m n : StreamHandle} {y st : StreamState}
    (h : (s.putStream m y).streams.find? n = some st) :
    m = n ∧ st = y ∨ m ≠ n ∧ s.streams.find? n = some st := by
  rw [State.putStream, Table.find?_set] at h
  by_cases hm : m = n
  · rw [if_pos hm] at h
    exact .inl ⟨hm, (Option.some.inj h).symm⟩
  · rw [if_neg hm] at h
    exact .inr ⟨hm, h⟩

/-- A stream that is there afterwards was there before and counts what was read from it, or it is
new. -/
theorem received_of_effect (h : Effect s e t) {n : StreamHandle} {st' : StreamState}
    (ht : t.streams.find? n = some st') :
    (∃ st, s.streams.find? n = some st ∧
      st'.received = st.received + (e.samples n).toUInt64) ∨
      n.index = s.nextHandle ∧ st'.received = 0 ∧ e.samples n = 0 := by
  have hkept {st : StreamState} (hst : s.streams.find? n = some st)
      (hreceived : st'.received = st.received) (hsamples : e.samples n = 0) :
      ∃ st, s.streams.find? n = some st ∧
        st'.received = st.received + (e.samples n).toUInt64 := by
    refine ⟨st, hst, ?_⟩
    rw [hsamples, hreceived]
    exact (UInt64.add_zero _).symm
  cases h with
  | quiet hquiet hu =>
    exact .inl (hkept (hu.unaltered.streams ▸ ht) rfl ((reads_nothing hquiet).1 n))
  | setUp config _ =>
    rcases find?_putStream (s := s.recorded "setup_stream") ht with ⟨rfl, rfl⟩ | ⟨-, hst⟩
    · exact .inr ⟨rfl, rfl, rfl⟩
    · exact .inl (hkept hst rfl rfl)
  | @destroyed d m st _ _ _ =>
    by_cases hm : n = m
    · rw [hm, show (State.streams _).find? m = none from Table.find?_erase_self _ m] at ht
      cases ht
    · exact .inl (hkept ((Table.find?_erase_of_ne s.streams hm).symm.trans ht) rfl rfl)
  | started hst =>
    rcases find?_putStream ht with ⟨rfl, rfl⟩ | ⟨-, hst⟩
    · exact .inl (hkept hst rfl rfl)
    · exact .inl (hkept hst rfl rfl)
  | stopped hst =>
    rcases find?_putStream ht with ⟨rfl, rfl⟩ | ⟨-, hst⟩
    · exact .inl (hkept hst rfl rfl)
    · exact .inl (hkept hst rfl rfl)
  | @waited m st _ _ _ _ _ _ _ => exact .inl (hkept ht rfl (ite_self (c := m = n) 0))
  | @filled m st buffer info timeout later hst _ _ =>
    rcases find?_putStream ht with ⟨rfl, rfl⟩ | ⟨hm, hst⟩
    · refine .inl ⟨st, hst, ?_⟩
      show st.received + buffer.capacity.toUInt64 =
        st.received + (if m = m then buffer.capacity else 0).toUInt64
      rw [if_pos rfl]
    · exact .inl (hkept hst rfl (if_neg hm))
  | _ => exact .inl (hkept ht rfl rfl)

theorem index_lt_of_samples (h : Effect s e t) (hs : Numbered s) {n : StreamHandle}
    (hn : e.samples n ≠ 0) : n.index < s.nextHandle := by
  cases h with
  | quiet hquiet _ => exact absurd ((reads_nothing hquiet).1 n) hn
  | @waited m st _ _ _ _ _ _ _ =>
    exact absurd (ite_self (c := m = n) 0) hn
  | @filled m st buffer info timeout later hst _ _ =>
    by_cases hm : m = n
    · exact hm ▸ hs.streams m (Table.mem_keys_iff.mpr ⟨st, hst⟩)
    · exact absurd (if_neg hm) hn
  | _ => exact absurd rfl hn

/-! ## Sessions -/

section Sessions

variable {listed : List String} {deeds : List Deed}

/-- What was read was read from streams that were set up. -/
theorem index_lt_of_session (h : Session listed deeds s) (n : StreamHandle) :
    samples n deeds ≠ 0 → n.index < s.nextHandle := by
  refine Path.recorded (P := fun deeds s => samples n deeds ≠ 0 → n.index < s.nextHandle) h
    (fun hn => absurd rfl hn) ?_
  intro past e u t hpast he ih hn
  have heffect := effect_of_does he
  refine Nat.lt_of_lt_of_le ?_ heffect.nextHandle_le
  by_cases hpast' : samples n past = 0
  · refine index_lt_of_samples heffect (reachable_of_session hpast).numbered fun he' => hn ?_
    rw [samples_concat, hpast', he']
  · exact ih hpast'

theorem received_of_session (h : Session listed deeds s) {n : StreamHandle} :
    ∀ st, s.streams.find? n = some st → st.received = (samples n deeds).toUInt64 := by
  refine Path.recorded (P := fun deeds s => ∀ st, s.streams.find? n = some st →
    st.received = (samples n deeds).toUInt64) h (fun st hst => by cases hst) ?_
  intro past e u t hpast he ih st' ht
  rw [samples_concat]
  rcases received_of_effect (effect_of_does he) ht with ⟨st, hst, hreceived⟩ | ⟨hnew, hnone, he⟩
  · rw [hreceived, ih st hst]
    exact (UInt64.ofNat_add _ _).symm
  · -- nothing was read under a number that was not given out
    have hunread : samples n past = 0 := by
      by_cases hn : samples n past = 0
      · exact hn
      · have hlt := index_lt_of_session hpast n hn
        omega
    rw [hnone, hunread, he]
    rfl

theorem pace_of_session (h : Session listed deeds s) : s.pace = deeds.foldl Pace.after .start := by
  refine Path.recorded (P := fun deeds s => s.pace = deeds.foldl Pace.after .start) h rfl ?_
  intro past e u t _ he ih
  rw [List.foldl_append, ← ih]
  exact pace_of_effect (effect_of_does he)

theorem clock_of_path (h : Path Does s deeds t) :
    t.clock.nanos = s.clock.nanos + (s.pace.readings deeds + spans deeds) := by
  induction h with
  | nil s => rfl
  | @cons e es s t u he _ ih =>
    rw [ih, clock_of_effect (effect_of_does he), pace_of_effect (effect_of_does he), spans,
      Pace.readings]
    omega

/-- The read waits until its timeout, and nothing else happens. -/
structure Waits (s t : State) (info : Option StreamMeta) (timeout : Duration) (a : Received) :
    Prop where
  slow : s.pace.Slow timeout
  result : a.result = .ok 0
  info : a.info = info
  clock : t.clock.nanos = s.clock.nanos + timeout.nanos
  streams : t.streams = s.streams

/-- The read fills the buffer, and is told how many samples were read before. -/
structure Fills (s t : State) (n : StreamHandle) (buffer : SampleBuffer)
    (info : Option StreamMeta) (timeout : Duration) (a : Received) (before : Nat) : Prop where
  fast : ¬ s.pace.Slow timeout
  result : a.result = .ok buffer.capacity
  info : ∃ stamp, a.info = info.map (fun m => { m with timestamp := stamp }) ∧
    (before < UInt64.size → stamp.toNat = before)
  clock : t.clock.nanos = s.clock.nanos + s.readLatency.nanos
  inTime : s.readLatency ≤ timeout
  others : ∀ m, m ≠ n → t.streams.find? m = s.streams.find? m

/-- Reads are accounted for: what they answer, what they take, and what is told of them. -/
structure Metered (deeds : List Deed) (s : State) : Prop where
  pace : s.pace = deeds.foldl Pace.after .start
  read : ∀ n buffer info timeout count (a : Received) t,
    Does (.served (.recvStream n buffer info timeout) a) s t → a.result = .ok count →
      Waits s t info timeout a ∨ Fills s t n buffer info timeout a (samples n deeds)
  failedRead : ∀ n buffer info timeout e (a : Received) t,
    Does (.served (.recvStream n buffer info timeout) a) s t → a.result = .error e →
      t.clock = s.clock ∧ t.streams = s.streams
  status : ∀ n status t,
    Does (.served (.streamStatus n) (.ok status : Except Error StreamStatus)) s t →
      samples n deeds < UInt64.size → status.timestamp.toNat = samples n deeds
  clock : s.clock.nanos = Pace.start.readings deeds + spans deeds

theorem toNat_received_of_session (h : Session listed deeds s) {n : StreamHandle}
    {st : StreamState} (hst : s.streams.find? n = some st)
    (hn : samples n deeds < UInt64.size) : st.received.toNat = samples n deeds := by
  rw [received_of_session h st hst]
  exact UInt64.toNat_ofNat_of_lt hn

/-- However reads of several streams were mixed with each other and with anything else, they are
accounted for. -/
theorem session_metered (h : Session listed deeds s) : Metered deeds s where
  pace := pace_of_session h
  read n buffer info timeout count a t he hcount := by
    have heffect := effect_of_does he
    cases heffect with
    | quiet hquiet _ =>
      rcases hquiet with hidle | ⟨e, hfailed⟩
      · cases hidle
      · cases (congrArg failureOf hcount).symm.trans hfailed
    | waited _ hslow hlater =>
      exact .inl ⟨hslow, rfl, rfl, Duration.add?_eq_some hlater, rfl⟩
    | @filled _ st _ _ _ _ hst hfast hlater =>
      exact .inr {
        fast := hfast
        result := rfl
        info := ⟨st.received, rfl, toNat_received_of_session h hst⟩
        clock := Duration.add?_eq_some hlater
        inTime := Nat.le_of_not_lt fun hlt => hfast (.inr hlt)
        others := fun m hm => Table.find?_set_of_ne s.streams (Ne.symm hm) _ }
  failedRead n buffer info timeout e a t he hfailed := by
    have heffect := effect_of_does he
    cases heffect with
    | quiet _ ht => exact ⟨ht.unaltered.clock, ht.unaltered.streams⟩
    | waited _ _ _ => cases hfailed
    | filled _ _ _ => cases hfailed
  status n status t he hn := by
    rcases onStream_inv (r := (.ok status : Except Error StreamStatus)) he with
      ⟨e, he, -⟩ | ⟨st, hst, he⟩
    · cases he
    · cases he
      exact toNat_received_of_session h hst hn
  clock := by
    rw [clock_of_path h]
    exact Nat.zero_add _

end Sessions

/-- Two streams are read in turn.  One read is too slow, one comes while its stream is stopped and
one is made to fail, and then the stream goes on where it was. -/
def listening : List Deed :=
  [.served (.openDevice "sim") (.ok ⟨0⟩ : Except Error DeviceHandle),
    .served (.setupStream ⟨0⟩ (.standard ⟨.rx, 0⟩)) (.ok ⟨1⟩ : Except Error StreamHandle),
    .served (.setupStream ⟨0⟩ (.standard ⟨.rx, 1⟩)) (.ok ⟨2⟩ : Except Error StreamHandle),
    .served (.startStream ⟨1⟩) (.ok () : Except Error Unit),
    .served (.startStream ⟨2⟩) (.ok () : Except Error Unit),
    .served (.recvStream ⟨1⟩ (.zeros .f32 4) none (.ofMillis 10)) ⟨.ok 4, .zeros .f32 4, none⟩,
    .served (.recvStream ⟨2⟩ (.zeros .f32 8) none (.ofMillis 10)) ⟨.ok 8, .zeros .f32 8, none⟩,
    .delayed (.ofMillis 5),
    .served (.recvStream ⟨1⟩ (.zeros .f32 4) (some ⟨9, true, false⟩) (.ofMillis 2))
      ⟨.ok 0, .zeros .f32 4, some ⟨9, true, false⟩⟩,
    .served (.stopStream ⟨1⟩) (.ok () : Except Error Unit),
    .served (.recvStream ⟨1⟩ (.zeros .f32 4) none (.ofMillis 10))
      ⟨.error .notRunning, .zeros .f32 4, none⟩,
    .served (.startStream ⟨1⟩) (.ok () : Except Error Unit),
    .armed "recv_stream",
    .served (.recvStream ⟨1⟩ (.zeros .f32 4) none (.ofMillis 10))
      ⟨.error (.failed "recv_stream" "recv_stream rejected by device"), .zeros .f32 4, none⟩,
    .served (.recvStream ⟨1⟩ (.zeros .f32 3) (some ⟨9, true, false⟩) (.ofMillis 7))
      ⟨.ok 3, .zeros .f32 3, some ⟨4, true, false⟩⟩,
    .advanced (.ofSeconds 1) (.ok ())]

theorem listening_metered :
    ∃ s, Session ["sim"] listening s ∧ Pace.start.readings listening = 9000000 ∧
      s.clock.nanos = 9000000 + 1000000000 ∧
      ∃ status t,
        Does (.served (.streamStatus ⟨1⟩) (.ok status : Except Error StreamStatus)) s t ∧
          status.timestamp.toNat = 7 := by
  have hpath : Session ["sim"] listening _ :=
    .cons rfl <| .cons rfl <| .cons rfl <| .cons rfl <| .cons rfl <| .cons rfl <| .cons rfl <|
      .cons rfl <| .cons rfl <| .cons rfl <| .cons rfl <| .cons rfl <| .cons rfl <| .cons rfl <|
      .cons rfl <| .cons rfl <| .nil _
  have hmetered := session_metered hpath
  exact ⟨_, hpath, rfl, hmetered.clock, _, _, rfl, hmetered.status ⟨1⟩ _ _ rfl (by decide)⟩

end Simulator
end RadioBench
