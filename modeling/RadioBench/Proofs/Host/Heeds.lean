/-
Programs that heed the first error.

Whatever a host replies, such a program ends in one of three ways: with a value, and no
event was fatal; with the error of a fatal event that is the last of its run; or with its
budget used up, and no event was fatal.  What is said besides of the events of a run that
ends with a value, and of one that uses up the budget, is a postcondition of its own.

The rules follow the sequence of a program.  A step that makes one event puts it in front
of what remains to be shown.
-/
import RadioBench.Proofs.Host.FirstError
import RadioBench.Proofs.Prog.Exhausts

namespace RadioBench

open Prog

namespace Host

variable {es : List (Event Host)}

theorem not_exhausts_request {r : Request} : ¬ (request r).Exhausts es :=
  not_exhausts_op (S := Host) (o := .inl r)

theorem not_exhausts_now : ¬ now.Exhausts es := not_exhausts_op (S := Host) (o := .inr .now)

theorem not_exhausts_note {e : Entry} : ¬ (note e).Exhausts es :=
  not_exhausts_op (S := Host) (o := .inr (.note e))

theorem not_exhausts_write {text : String} : ¬ (write text).Exhausts es := by
  rw [write, Prog.exhausts_bind_iff]
  rintro (h | ⟨w, es₁, es₂, rfl, -, h⟩)
  · exact not_exhausts_op h
  · cases (w : Except String Unit) <;> exact not_exhausts_done h

end Host

/-! ## Events of calls that went well -/

namespace Event

/-- A call on a device, and its value. -/
def device (h : DeviceHandle) (c : DeviceCall) (a : c.Result) : Event Host :=
  ⟨.inl (.device h c), .ok a⟩

/-- A call on a channel, and its value. -/
def channel (h : DeviceHandle) (ch : ChannelId) (c : ChannelCall) (a : c.Result) : Event Host :=
  ⟨.inl (.channel h ch c), .ok a⟩

/-- A line that was written whole. -/
def wrote (text : String) : Event Host := ⟨.inr (.write (text ++ "\n")), .ok ()⟩

end Event

/-! ## The rules -/

namespace Attempt

variable {α β : Type} {es : List (Event Host)}

theorem exhausts_bind_iff {p : Attempt α} {f : α → Attempt β} :
    (p >>= f).run.Exhausts es ↔
      p.run.Exhausts es ∨
        ∃ a es₁ es₂, es = es₁ ++ es₂ ∧ p.run.Yields es₁ (.ok a) ∧ (f a).run.Exhausts es₂ :=
  exhausts_run_bind_iff

theorem exhausts_always_iff {p : Prog Host α} : (always p).run.Exhausts es ↔ p.Exhausts es := by
  rw [always, ExceptT.run_lift, map_eq_pure_bind, Prog.exhausts_bind_iff]
  constructor
  · rintro (h | ⟨a, es₁, es₂, rfl, -, h⟩)
    · exact h
    · exact absurd h not_exhausts_done
  · exact .inl

/-- However the host replies, the program stops at the first fatal event; `Q` holds of the
events and the value of a run that ends well, and `E` of the events of a run that uses up
the budget. -/
structure Heeds (E : List (Event Host) → Prop) (Q : List (Event Host) → α → Prop)
    (p : Attempt α) : Prop where
  ok : ∀ es a, p.run.Yields es (.ok a) → Clean es ∧ Q es a
  error : ∀ es e, p.run.Yields es (.error e) → StopsAt es e
  exhausted : ∀ es, p.run.Exhausts es → Clean es ∧ E es

namespace Heeds

variable {E : List (Event Host) → Prop} {P : List (Event Host) → α → Prop}
  {Q : List (Event Host) → β → Prop} {p : Attempt α} {f : α → Attempt β}

theorem mono {E' : List (Event Host) → Prop} {P' : List (Event Host) → α → Prop}
    (h : Heeds E P p) (hE : ∀ es, E es → E' es) (hP : ∀ es a, P es a → P' es a) :
    Heeds E' P' p where
  ok es a hes := ⟨(h.ok es a hes).1, hP es a (h.ok es a hes).2⟩
  error := h.error
  exhausted es hes := ⟨(h.exhausted es hes).1, hE es (h.exhausted es hes).2⟩

theorem bind (hp : Heeds E P p)
    (hf : ∀ es a, P es a → Heeds (fun rest => E (es ++ rest)) (fun rest => Q (es ++ rest)) (f a)) :
    Heeds E Q (p >>= f) where
  ok es b h := by
    rcases yields_bind_iff.mp h with ⟨a, es₁, es₂, rfl, h₁, h₂⟩ | ⟨e, he, -⟩
    · obtain ⟨hclean, hP⟩ := hp.ok es₁ a h₁
      obtain ⟨hclean', hQ⟩ := (hf es₁ a hP).ok es₂ b h₂
      exact ⟨clean_append.mpr ⟨hclean, hclean'⟩, hQ⟩
    · cases he
  error es e h := by
    rcases yields_bind_iff.mp h with ⟨a, es₁, es₂, rfl, h₁, h₂⟩ | ⟨e', he, h₁⟩
    · obtain ⟨hclean, hP⟩ := hp.ok es₁ a h₁
      exact .append hclean ((hf es₁ a hP).error es₂ e h₂)
    · obtain rfl := Except.error.inj he
      exact hp.error es e h₁
  exhausted es h := by
    rcases exhausts_bind_iff.mp h with h₁ | ⟨a, es₁, es₂, rfl, h₁, h₂⟩
    · exact hp.exhausted es h₁
    · obtain ⟨hclean, hP⟩ := hp.ok es₁ a h₁
      obtain ⟨hclean', hE⟩ := (hf es₁ a hP).exhausted es₂ h₂
      exact ⟨clean_append.mpr ⟨hclean, hclean'⟩, hE⟩

/-- A step that makes one event, from which its value can be told. -/
theorem step {ev : α → Event Host} (hp : Heeds E (fun es a => es = [ev a]) p)
    (hf : ∀ a, Heeds (fun rest => E (ev a :: rest)) (fun rest => Q (ev a :: rest)) (f a)) :
    Heeds E Q (p >>= f) :=
  hp.bind fun _ a hes => hes ▸ hf a

theorem pure {a : α} (h : P [] a) : Heeds E P (pure a) where
  ok es b hb := by
    obtain ⟨rfl, hab⟩ := yields_pure_iff.mp hb
    obtain rfl := Except.ok.inj hab
    exact ⟨clean_nil, h⟩
  error es e he := by cases (yields_pure_iff.mp he).2
  exhausted es he := absurd he not_exhausts_done

/-- A step that is left out when a condition does not hold. -/
theorem perhaps {c : Prop} [Decidable c] {N : List (Event Host) → Unit → Prop}
    {n : Attempt Unit} {g : Unit → Attempt β} (hn : Heeds E N n)
    (hg : ∀ es, es = [] ∨ N es () →
      Heeds (fun rest => E (es ++ rest)) (fun rest => Q (es ++ rest)) (g ())) :
    Heeds E Q (if c then n >>= g else g ()) := by
  split
  · exact hn.bind fun es _ hes => hg es (.inr hes)
  · exact hg [] (.inl rfl)

theorem now : Heeds E (fun es t => es = [⟨.inr .now, t⟩]) (always Host.now) where
  ok es t h := by
    obtain ⟨t', ht, h⟩ := yields_always_iff.mp h
    obtain rfl := Except.ok.inj ht
    obtain rfl := Host.yields_now_iff.mp h
    exact ⟨clean_cons.mpr ⟨rfl, clean_nil⟩, rfl⟩
  error es e h := by
    obtain ⟨t, ht, -⟩ := yields_always_iff.mp h
    cases ht
  exhausted es h := absurd (exhausts_always_iff.mp h) Host.not_exhausts_now

theorem note (e : Entry) :
    Heeds E (fun es _ => es = [⟨.inr (.note e), ()⟩]) (always (Host.note e)) where
  ok es u h := by
    obtain ⟨rfl, -⟩ := yields_always_note_iff.mp h
    exact ⟨clean_cons.mpr ⟨rfl, clean_nil⟩, rfl⟩
  error es e h := by cases (yields_always_note_iff.mp h).2
  exhausted es h := absurd (exhausts_always_iff.mp h) Host.not_exhausts_note

theorem line (text : String) :
    Heeds E (fun es _ => es = [.wrote text]) (line text) where
  ok es u h := by
    obtain ⟨w, rfl, hw⟩ := yields_line_iff.mp h
    cases w with
    | ok v => exact ⟨clean_cons.mpr ⟨rfl, clean_nil⟩, rfl⟩
    | error m => cases hw
  error es e h := by
    obtain ⟨w, rfl, hw⟩ := yields_line_iff.mp h
    cases w with
    | ok v => cases hw
    | error m =>
      obtain rfl := Except.error.inj hw
      exact stopsAt_single rfl
  exhausted es h := absurd h Host.not_exhausts_write

/-- A program that makes one event and ends with what it was answered. -/
theorem outcome {ev : Except Error α → Event Host}
    (hp : ∀ es x, p.run.Yields es x → es = [ev x]) (hev : ∀ x, (ev x).fatal? = failureOf x)
    (hend : ∀ es, ¬ p.run.Exhausts es) : Heeds E (fun es a => es = [ev (.ok a)]) p where
  ok es a h := by
    obtain rfl := hp es _ h
    exact ⟨clean_cons.mpr ⟨hev _, clean_nil⟩, rfl⟩
  error es e h := by
    obtain rfl := hp es _ h
    exact stopsAt_single (hev _)
  exhausted es h := absurd h (hend es)

end Heeds
end Attempt
end RadioBench
