/-
What the guards ask of a driver, whatever it answers.

Each lemma gives the events of one operation of a guard.  Notes in the journal are
given only where they stand, since no statement hangs on their text.
-/
import RadioBench.Guard.LogScope
import RadioBench.Guard.Stream
import RadioBench.Proofs.Host.FirstError

namespace RadioBench

open Prog

/-- Nothing but entries in the journal. -/
def Notes (es : List (Event Host)) : Prop := ∀ ev ∈ es, ∃ e, ev = ⟨.inr (.note e), ()⟩

theorem notes_nil : Notes [] := by simp [Notes]

theorem notes_single (e : Entry) : Notes [⟨.inr (.note e), ()⟩] := by
  intro ev hev
  exact ⟨e, List.mem_singleton.mp hev⟩

theorem Notes.clean {es : List (Event Host)} (h : Notes es) : Clean es := by
  intro ev hev
  obtain ⟨e, rfl⟩ := h ev hev
  rfl

theorem Notes.requests {es : List (Event Host)} (h : Notes es) : requests es = [] := by
  rw [RadioBench.requests, List.filterMap_eq_nil_iff]
  intro ev hev
  obtain ⟨e, rfl⟩ := h ev hev
  rfl

namespace Device

variable {d : Device} {es : List (Event Host)}

theorem of_yields_opened {info : String} {r : Except Error Device}
    (h : (opened info).run.Yields es r) :
    (∃ handle text, es = [⟨.inl (.openDevice info), .ok handle⟩, ⟨.inr (.note text), ()⟩] ∧
      r = .ok ⟨handle, info⟩) ∨
    ∃ e, es = [⟨.inl (.openDevice info), .error e⟩] ∧ r = .error e := by
  rcases Attempt.yields_bind_iff.mp h with ⟨handle, es₁, es₂, rfl, h₁, h₂⟩ | ⟨e, rfl, he⟩
  · obtain rfl := Host.yields_request_iff.mp h₁
    rcases Attempt.yields_bind_iff.mp h₂ with ⟨u, es₃, es₄, rfl, h₃, h₄⟩ | ⟨e, rfl, he⟩
    · obtain ⟨rfl, -⟩ := Attempt.yields_debug_iff.mp h₃
      obtain ⟨rfl, rfl⟩ := Attempt.yields_pure_iff.mp h₄
      exact .inl ⟨handle, _, rfl, rfl⟩
    · cases (Attempt.yields_debug_iff.mp he).2
  · exact .inr ⟨e, Host.yields_request_iff.mp he, rfl⟩

theorem yields_call_iff {c : DeviceCall} {r : Except Error c.Result} :
    (d.call c).run.Yields es r ↔ es = [⟨.inl (.device d.handle c), r⟩] :=
  Host.yields_request_iff

theorem of_yields_channel {ch : ChannelId} {c : ChannelCall} {r : Except Error c.Result}
    (h : (d.channel ch c).run.Yields es r) :
    es = [] ∨ es = [⟨.inl (.channel d.handle ch c), r⟩] := by
  rw [channel] at h
  cases hc : c.refusal? with
  | some e =>
    rw [hc] at h
    exact .inl (Attempt.yields_throw_iff.mp h).1
  | none =>
    rw [hc] at h
    exact .inr (Host.yields_request_iff.mp h)

theorem of_yields_close {r : Except Error Unit} (h : d.close.run.Yields es r) :
    ∃ text, es = [⟨.inr (.note text), ()⟩, ⟨.inl (.closeDevice d.handle), r⟩] := by
  rcases Attempt.yields_bind_iff.mp h with ⟨u, es₁, es₂, rfl, h₁, h₂⟩ | ⟨e, rfl, he⟩
  · obtain ⟨rfl, -⟩ := Attempt.yields_debug_iff.mp h₁
    obtain rfl := Host.yields_request_iff.mp h₂
    exact ⟨_, rfl⟩
  · cases (Attempt.yields_debug_iff.mp he).2

theorem of_yields_drop {u : Unit} (h : d.drop.Yields es u) :
    ∃ a notes, es = ⟨.inl (.closeDevice d.handle), a⟩ :: notes ∧ Notes notes := by
  obtain ⟨a, es₁, es₂, rfl, h₁, h₂⟩ := yields_bind_iff.mp h
  obtain rfl := Host.yields_request_iff.mp h₁
  refine ⟨a, es₂, rfl, ?_⟩
  cases (a : Except Error Unit) with
  | ok v => obtain ⟨rfl, -⟩ := yields_done_iff.mp h₂; exact notes_nil
  | error e => obtain rfl := Host.yields_note_iff.mp h₂; exact notes_single _

end Device

namespace Stream

variable {s : Stream} {es : List (Event Host)}

theorem of_yields_setup {d : Device} {config : StreamConfig} {r : Except Error Stream}
    (h : (setup d config).run.Yields es r) :
    (∃ handle text,
      es = [⟨.inl (.setupStream d.handle config), .ok handle⟩, ⟨.inr (.note text), ()⟩] ∧
        r = .ok ⟨d.handle, handle, config, false⟩) ∨
    ∃ e, es = [⟨.inl (.setupStream d.handle config), .error e⟩] ∧ r = .error e := by
  rcases Attempt.yields_bind_iff.mp h with ⟨handle, es₁, es₂, rfl, h₁, h₂⟩ | ⟨e, rfl, he⟩
  · obtain rfl := Host.yields_request_iff.mp h₁
    rcases Attempt.yields_bind_iff.mp h₂ with ⟨u, es₃, es₄, rfl, h₃, h₄⟩ | ⟨e, rfl, he⟩
    · obtain ⟨rfl, -⟩ := Attempt.yields_debug_iff.mp h₃
      obtain ⟨rfl, rfl⟩ := Attempt.yields_pure_iff.mp h₄
      exact .inl ⟨handle, _, rfl, rfl⟩
    · cases (Attempt.yields_debug_iff.mp he).2
  · exact .inr ⟨e, Host.yields_request_iff.mp he, rfl⟩

theorem of_yields_start {r : Except Error Stream} (h : s.start.run.Yields es r) :
    (es = [⟨.inl (.startStream s.handle), .ok ()⟩] ∧ r = .ok { s with running := true }) ∨
    ∃ e, es = [⟨.inl (.startStream s.handle), .error e⟩] ∧ r = .error e := by
  rcases Attempt.yields_bind_iff.mp h with ⟨u, es₁, es₂, rfl, h₁, h₂⟩ | ⟨e, rfl, he⟩
  · obtain rfl := Host.yields_request_iff.mp h₁
    obtain ⟨rfl, rfl⟩ := Attempt.yields_pure_iff.mp h₂
    exact .inl ⟨rfl, rfl⟩
  · exact .inr ⟨e, Host.yields_request_iff.mp he, rfl⟩

theorem of_yields_stop {r : Except Error Stream} (h : s.stop.run.Yields es r) :
    (s.running = true ∧ es = [⟨.inl (.stopStream s.handle), .ok ()⟩] ∧
      r = .ok { s with running := false }) ∨
    (s.running = true ∧ ∃ e, es = [⟨.inl (.stopStream s.handle), .error e⟩] ∧ r = .error e) ∨
    (s.running = false ∧ es = [] ∧ r = .error .notRunning) := by
  cases hs : s.running with
  | false =>
    simp only [stop, hs, Bool.false_eq_true, if_false, Attempt.yields_throw_iff] at h
    exact .inr (.inr ⟨rfl, h⟩)
  | true =>
    simp only [stop, hs, if_true] at h
    rcases Attempt.yields_bind_iff.mp h with ⟨u, es₁, es₂, rfl, h₁, h₂⟩ | ⟨e, rfl, he⟩
    · obtain rfl := Host.yields_request_iff.mp h₁
      obtain ⟨rfl, rfl⟩ := Attempt.yields_pure_iff.mp h₂
      exact .inl ⟨rfl, rfl, rfl⟩
    · exact .inr (.inl ⟨rfl, e, Host.yields_request_iff.mp he, rfl⟩)

/-- A running stream is stopped first, and destroyed whatever came of that. -/
theorem of_yields_destroy {r : Except Error Unit} (h : s.destroy.run.Yields es r) :
    (s.running = true ∧ ∃ a notes, Notes notes ∧
      es = ⟨.inl (.stopStream s.handle), a⟩ ::
        (notes ++ [⟨.inl (.destroyStream s.device s.handle), r⟩])) ∨
    (s.running = false ∧ es = [⟨.inl (.destroyStream s.device s.handle), r⟩]) := by
  cases hs : s.running with
  | false =>
    simp only [destroy, hs, Bool.false_eq_true, if_false] at h
    exact .inr ⟨rfl, Host.yields_request_iff.mp h⟩
  | true =>
    simp only [destroy, hs, if_true] at h
    obtain ⟨a, es₁, es₂, rfl, h₁, h₂⟩ := Attempt.yields_always_bind_iff.mp h
    obtain rfl := Host.yields_request_iff.mp h₁
    refine .inl ⟨rfl, a, ?_⟩
    cases (a : Except Error Unit) with
    | ok u => exact ⟨[], notes_nil, by rw [Host.yields_request_iff.mp h₂]; rfl⟩
    | error e =>
      rcases Attempt.yields_bind_iff.mp h₂ with ⟨u, es₃, es₄, rfl, h₃, h₄⟩ | ⟨e', rfl, he⟩
      · obtain ⟨rfl, -⟩ := Attempt.yields_warn_iff.mp h₃
        exact ⟨_, notes_single _, by rw [Host.yields_request_iff.mp h₄]; rfl⟩
      · cases (Attempt.yields_warn_iff.mp he).2

theorem of_yields_drop {u : Unit} (h : s.drop.Yields es u) :
    ∃ r es' notes, es = es' ++ notes ∧ s.destroy.run.Yields es' r ∧ Notes notes := by
  obtain ⟨r, es₁, es₂, rfl, h₁, h₂⟩ := yields_bind_iff.mp h
  refine ⟨r, es₁, es₂, rfl, h₁, ?_⟩
  cases r with
  | ok v => obtain ⟨rfl, -⟩ := yields_done_iff.mp h₂; exact notes_nil
  | error e => obtain rfl := Host.yields_note_iff.mp h₂; exact notes_single _

theorem of_yields_guarding {α : Type} {p : Attempt α} {r : Except Error α}
    (h : (s.guarding p).run.Yields es r) :
    (∃ a, r = .ok a ∧ p.run.Yields es (.ok a)) ∨
    ∃ e es₁ es₂, r = .error e ∧ es = es₁ ++ es₂ ∧ p.run.Yields es₁ (.error e) ∧
      s.drop.Yields es₂ () := by
  obtain ⟨x, es₁, es₂, rfl, h₁, h₂⟩ := yields_bind_iff.mp h
  cases x with
  | ok a =>
    obtain ⟨rfl, rfl⟩ := yields_done_iff.mp h₂
    exact .inl ⟨a, rfl, by simpa using h₁⟩
  | error e =>
    obtain ⟨u, es₃, es₄, rfl, h₃, h₄⟩ := yields_bind_iff.mp h₂
    obtain ⟨rfl, rfl⟩ := yields_done_iff.mp h₄
    exact .inr ⟨e, es₁, es₃, rfl, by simp, h₁, h₃⟩

theorem of_yields_recv {buffer : SampleBuffer} {info : Option StreamMeta} {timeout : Duration}
    {a : Received} (h : (s.recv buffer info timeout).Yields es a) :
    es = [⟨.inl (.recvStream s.handle buffer info timeout), a⟩] :=
  Host.yields_request_iff.mp h

end Stream

namespace LogScope

variable {es : List (Event Host)}

theorem of_yields_enter {handler : LogHandler} {u : Unit} (h : (enter handler).Yields es u) :
    es = [⟨.inl (.registerLog none), ()⟩, ⟨.inl (.registerLog (some handler)), ()⟩] := by
  obtain ⟨v, es₁, es₂, rfl, h₁, h₂⟩ := yields_bind_iff.mp h
  rw [Host.yields_request_iff.mp h₁, Host.yields_request_iff.mp h₂]
  rfl

theorem of_yields_within {α : Type} {handler : LogHandler} {p : Attempt α} {r : Except Error α}
    (h : (within handler p).run.Yields es r) :
    ∃ es', es = ⟨.inl (.registerLog none), ()⟩ :: ⟨.inl (.registerLog (some handler)), ()⟩ ::
        (es' ++ [⟨.inl (.registerLog none), ()⟩]) ∧ p.run.Yields es' r := by
  obtain ⟨u, es₁, es₂, rfl, h₁, h₂⟩ := yields_bind_iff.mp h
  obtain ⟨x, es₃, es₄, rfl, h₃, h₄⟩ := yields_bind_iff.mp h₂
  obtain ⟨v, es₅, es₆, rfl, h₅, h₆⟩ := yields_bind_iff.mp h₄
  obtain ⟨rfl, rfl⟩ := yields_done_iff.mp h₆
  refine ⟨es₃, ?_, h₃⟩
  rw [of_yields_enter h₁, Host.yields_request_iff.mp h₅]
  rfl

end LogScope
end RadioBench
