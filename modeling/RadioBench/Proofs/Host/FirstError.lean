/-
The first error decides.

An event is fatal when it is a failure that a program may not pass over: any
failure to write, and any failure of the driver but two.  Saving the configuration
may fail, and so may closing a device, and neither ends a run.

A program that `Performs` a list of requests makes them in order and stops at its
first fatal event, which is then its last event and its outcome.  `Performs` is
kept by sequences, so that a long sequence of settings is taken one line at a time.
-/
import RadioBench.Proofs.Host.Trace
import RadioBench.Proofs.Prog.Path

namespace RadioBench

open Prog

/-! ## Requests and failures of events -/

/-- The error in an outcome. -/
def failureOf {α : Type} : Except Error α → Option Error
  | .ok _ => none
  | .error e => some e

/-- The error in an answer of the driver. -/
def Request.failure? : (r : Request) → r.Answer → Option Error
  | .libraryVersion, _ => none
  | .registerLog _, _ => none
  | .deviceList, a => failureOf a
  | .openDevice _, a => failureOf a
  | .closeDevice _, a => failureOf a
  | .device _ _, a => failureOf a
  | .channel _ _ _, a => failureOf a
  | .setupStream _ _, a => failureOf a
  | .destroyStream _ _, a => failureOf a
  | .startStream _, a => failureOf a
  | .stopStream _, a => failureOf a
  | .recvStream _ _ _ _, a => failureOf a.result
  | .sendStream _ _ _ _ _, a => failureOf a
  | .streamStatus _, a => failureOf a

/-- Whether a run goes on when the request fails. -/
def Request.forgiven : Request → Bool
  | .closeDevice _ => true
  | .device _ (.saveConfig _) => true
  | _ => false

/-- The error of a text that was not written whole. -/
def failureOfWrite : Except String Unit → Option Error
  | .ok () => none
  | .error message => some (.output message)

namespace Event

/-- What an event asks of the driver, if it does. -/
def request? : Event Host → Option Request
  | ⟨.inl r, _⟩ => some r
  | ⟨.inr _, _⟩ => none

/-- The error of an event that a run may not pass over. -/
def fatal? : Event Host → Option Error
  | ⟨.inl r, a⟩ => if r.forgiven then none else r.failure? a
  | ⟨.inr (.write _), w⟩ => failureOfWrite w
  | ⟨.inr .now, _⟩ => none
  | ⟨.inr (.note _), _⟩ => none

end Event

/-- The requests among events, in order. -/
def requests (es : List (Event Host)) : List Request := es.filterMap Event.request?

@[simp]
theorem requests_nil : requests [] = [] := rfl

@[simp]
theorem requests_cons (ev : Event Host) (es : List (Event Host)) :
    requests (ev :: es) = ev.request?.toList ++ requests es := by
  cases h : ev.request? <;> simp [requests, h]

@[simp]
theorem requests_append (es es' : List (Event Host)) :
    requests (es ++ es') = requests es ++ requests es' := List.filterMap_append

theorem Path.of_requests {σ : Type} {rule : Event Host → σ → σ → Prop} {s : σ}
    {es : List (Event Host)} (hambient : ∀ o a, rule ⟨.inr o, a⟩ s s)
    (h : ∀ r ∈ requests es, ∀ a, rule ⟨.inl r, a⟩ s s) : Path rule s es s := by
  induction es with
  | nil => exact .nil s
  | cons ev es ih =>
    obtain ⟨o, a⟩ := ev
    cases o with
    | inl r =>
      have hcons : requests (⟨.inl r, a⟩ :: es) = r :: requests es := rfl
      refine .cons (h r (hcons ▸ List.mem_cons_self) a) (ih fun q hq => h q ?_)
      exact hcons ▸ List.mem_cons_of_mem r hq
    | inr o => exact .cons (hambient o a) (ih h)

/-- No event is fatal. -/
def Clean (es : List (Event Host)) : Prop := ∀ e ∈ es, e.fatal? = none

@[simp]
theorem clean_nil : Clean [] := by simp [Clean]

@[simp]
theorem clean_cons {e : Event Host} {es : List (Event Host)} :
    Clean (e :: es) ↔ e.fatal? = none ∧ Clean es := List.forall_mem_cons

@[simp]
theorem clean_append {es es' : List (Event Host)} :
    Clean (es ++ es') ↔ Clean es ∧ Clean es' := List.forall_mem_append

/-- The last event is fatal, and no other one is. -/
def StopsAt (es : List (Event Host)) (e : Error) : Prop :=
  ∃ front last, es = front ++ [last] ∧ Clean front ∧ last.fatal? = some e

theorem stopsAt_single {ev : Event Host} {e : Error} (h : ev.fatal? = some e) :
    StopsAt [ev] e := ⟨[], ev, rfl, clean_nil, h⟩

theorem StopsAt.append {es es' : List (Event Host)} {e : Error} (h : Clean es)
    (h' : StopsAt es' e) : StopsAt (es ++ es') e := by
  obtain ⟨front, last, rfl, hfront, hlast⟩ := h'
  exact ⟨es ++ front, last, by simp, clean_append.mpr ⟨h, hfront⟩, hlast⟩

/-- All the requests are made and nothing fatal happens, or the first fatal event
comes last and is the outcome. -/
def Cut {α : Type} (requested : List Request) (es : List (Event Host)) : Except Error α → Prop
  | .ok _ => Clean es ∧ requests es = requested
  | .error e => StopsAt es e ∧ requests es <+: requested

namespace Cut

variable {α β : Type} {rs rs' : List Request} {es es' : List (Event Host)} {a : α} {e : Error}

theorem append {r : Except Error β} (h : Cut rs es (.ok a)) (h' : Cut rs' es' r) :
    Cut (rs ++ rs') (es ++ es') r := by
  obtain ⟨hclean, hrs⟩ := h
  cases r with
  | ok b =>
    obtain ⟨hclean', hrs'⟩ := h'
    exact ⟨clean_append.mpr ⟨hclean, hclean'⟩, by rw [requests_append, hrs, hrs']⟩
  | error e =>
    obtain ⟨hstop, hpre⟩ := h'
    refine ⟨.append hclean hstop, ?_⟩
    rw [requests_append, hrs]
    exact List.prefix_append_right_inj rs |>.mpr hpre

theorem subset {r : Except Error α} (h : Cut rs es r) : requests es ⊆ rs := by
  cases r with
  | ok a => exact fun q hq => h.2 ▸ hq
  | error e => exact h.2.subset

theorem extend (h : Cut rs es (.error e : Except Error α)) (rs' : List Request) :
    Cut (rs ++ rs') es (.error e : Except Error β) :=
  ⟨h.1, h.2.trans (List.prefix_append rs rs')⟩

end Cut

namespace Attempt

variable {α β : Type}

/-- The program makes the requests in order, up to its first fatal event. -/
def Performs (p : Attempt α) (rs : List Request) : Prop :=
  ∀ es r, p.run.Yields es r → Cut rs es r

namespace Performs

theorem bind {p : Attempt α} {f : α → Attempt β} {rs rs' : List Request} (hp : Performs p rs)
    (hf : ∀ a, Performs (f a) rs') : Performs (p >>= f) (rs ++ rs') := by
  intro es r h
  rcases yields_bind_iff.mp h with ⟨a, es₁, es₂, rfl, h₁, h₂⟩ | ⟨e, rfl, he⟩
  · exact (hp _ _ h₁).append (hf a _ _ h₂)
  · exact (hp _ _ he).extend rs'

theorem step {p : Attempt α} {f : α → Attempt β} {r : Request} {rs : List Request}
    (hp : Performs p [r]) (hf : ∀ a, Performs (f a) rs) : Performs (p >>= f) (r :: rs) :=
  bind hp hf

theorem skip {p : Attempt α} {f : α → Attempt β} {rs : List Request} (hp : Performs p [])
    (hf : ∀ a, Performs (f a) rs) : Performs (p >>= f) rs := bind hp hf

theorem perhaps {c : Prop} [Decidable c] {p : Attempt Unit} {f : Unit → Attempt α}
    {rs : List Request} (hp : Performs p []) (hf : ∀ u, Performs (f u) rs) :
    Performs (if c then p >>= f else f ()) rs := by
  split
  · exact skip hp hf
  · exact hf ()

theorem pure (a : α) : Performs (pure a) [] := by
  intro es r h
  obtain ⟨rfl, rfl⟩ := yields_pure_iff.mp h
  exact ⟨clean_nil, rfl⟩

theorem note (e : Entry) : Performs (always (Host.note e)) [] := by
  intro es r h
  obtain ⟨rfl, rfl⟩ := yields_always_note_iff.mp h
  exact ⟨by simp [Event.fatal?], rfl⟩

theorem line (text : String) : Performs (line text) [] := by
  intro es r h
  obtain ⟨w, rfl, rfl⟩ := yields_line_iff.mp h
  cases w with
  | ok u => exact ⟨by simp [Event.fatal?, failureOfWrite], rfl⟩
  | error m => exact ⟨stopsAt_single rfl, List.nil_prefix⟩

theorem request {r : Request} {p : Prog Host (Except Error α)} (hr : r.forgiven = false)
    (hp : ∀ es x, p.Yields es x → ∃ a, es = [⟨.inl r, a⟩] ∧ r.failure? a = failureOf x) :
    Performs (of p) [r] := by
  intro es x h
  obtain ⟨a, rfl, ha⟩ := hp es x h
  have hfatal : Event.fatal? ⟨.inl r, a⟩ = failureOf x := by simp [Event.fatal?, hr, ha]
  cases x with
  | ok b => exact ⟨clean_cons.mpr ⟨hfatal, clean_nil⟩, rfl⟩
  | error e => exact ⟨stopsAt_single hfatal, List.prefix_rfl⟩

end Performs
end Attempt
end RadioBench
