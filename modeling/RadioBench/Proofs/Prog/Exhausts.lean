/-
Runs that use up a budget.

A program that is carried out either ends with a value or uses up a budget that its
caller set.  `Yields` speaks of the first kind of run.  `Exhausts` speaks of the other,
so that the two together cover every run, and a program that exhausts on no events is
one that always ends.
-/
import RadioBench.Proofs.Prog.Path

namespace RadioBench
namespace Prog

variable {S T : Signature} {ε α β σ : Type} {es : List (Event S)}

/-- The program, getting the replies of the events in order, asks for their operations
and then finds its budget used up. -/
inductive Exhausts : Prog S α → List (Event S) → Prop
  | here : Exhausts .exhausted []
  | ask {o : S.Op} {k : S.Reply o → Prog S α} (r : S.Reply o) {es : List (Event S)} :
      Exhausts (k r) es → Exhausts (.ask o k) (⟨o, r⟩ :: es)

@[simp]
theorem not_exhausts_done {a : α} : ¬ Exhausts (.done a : Prog S α) es := by
  intro h; cases h

@[simp]
theorem exhausts_exhausted_iff : Exhausts (.exhausted : Prog S α) es ↔ es = [] := by
  constructor
  · intro h; cases h; rfl
  · rintro rfl; exact .here

@[simp]
theorem exhausts_ask_iff {o : S.Op} {k : S.Reply o → Prog S α} :
    Exhausts (.ask o k) es ↔ ∃ r rest, es = ⟨o, r⟩ :: rest ∧ Exhausts (k r) rest := by
  constructor
  · intro h; cases h with
    | ask r h => exact ⟨r, _, rfl, h⟩
  · rintro ⟨r, rest, rfl, h⟩; exact .ask r h

/-- The budget of a sequence is used up in its first part, or in its second part after
the first has ended. -/
theorem exhausts_bind_iff {p : Prog S α} {f : α → Prog S β} :
    Exhausts (p >>= f) es ↔
      Exhausts p es ∨ ∃ a es₁ es₂, es = es₁ ++ es₂ ∧ Yields p es₁ a ∧ Exhausts (f a) es₂ := by
  induction p generalizing es with
  | done a =>
    constructor
    · intro h; exact .inr ⟨a, [], es, rfl, .done a, h⟩
    · rintro (h | ⟨a', es₁, es₂, rfl, h₁, h₂⟩)
      · exact absurd h not_exhausts_done
      · cases h₁; exact h₂
  | ask o k ih =>
    simp only [ask_bind, exhausts_ask_iff, ih]
    constructor
    · rintro ⟨r, rest, rfl, h | ⟨a, es₁, es₂, rfl, h₁, h₂⟩⟩
      · exact .inl ⟨r, rest, rfl, h⟩
      · exact .inr ⟨a, ⟨o, r⟩ :: es₁, es₂, rfl, .ask r h₁, h₂⟩
    · rintro (⟨r, rest, rfl, h⟩ | ⟨a, es₁, es₂, rfl, h₁, h₂⟩)
      · exact ⟨r, rest, rfl, .inl h⟩
      · obtain ⟨r, rest, rfl, h₃⟩ := yields_ask_iff.mp h₁
        exact ⟨r, rest ++ es₂, rfl, .inr ⟨a, rest, es₂, rfl, h₃, h₂⟩⟩
  | exhausted =>
    simp only [exhausted_bind, exhausts_exhausted_iff]
    constructor
    · intro h; exact .inl h
    · rintro (h | ⟨a, es₁, es₂, rfl, h₁, h₂⟩)
      · exact h
      · exact absurd h₁ not_yields_exhausted

theorem exhausts_run_bind_iff {p : ExceptT ε (Prog S) α} {f : α → ExceptT ε (Prog S) β} :
    (p >>= f).run.Exhausts es ↔
      p.run.Exhausts es ∨
        ∃ a es₁ es₂, es = es₁ ++ es₂ ∧ p.run.Yields es₁ (.ok a) ∧ (f a).run.Exhausts es₂ := by
  rw [ExceptT.run_bind, exhausts_bind_iff]
  refine or_congr_right ⟨?_, ?_⟩
  · rintro ⟨x, es₁, es₂, rfl, h₁, h₂⟩
    cases x with
    | ok a => exact ⟨a, es₁, es₂, rfl, h₁, h₂⟩
    | error e => exact absurd h₂ not_exhausts_done
  · rintro ⟨a, es₁, es₂, rfl, h₁, h₂⟩
    exact ⟨.ok a, es₁, es₂, rfl, h₁, h₂⟩

theorem not_exhausts_op {o : S.Op} : ¬ Exhausts (op o) es := by
  rw [op, exhausts_ask_iff]
  rintro ⟨r, rest, rfl, h⟩
  exact not_exhausts_done h

/-- A program that never uses up its budget comes to an end, however it began. -/
theorem exists_yields (hreply : ∀ o, Nonempty (S.Reply o)) {p : Prog S α}
    (h : ∀ es, ¬ p.Exhausts es) : ∃ es a, p.Yields es a := by
  induction p with
  | done a => exact ⟨[], a, .done a⟩
  | ask o k ih =>
    obtain ⟨r⟩ := hreply o
    obtain ⟨es, a, hes⟩ := ih r fun es hes => h _ (.ask r hes)
    exact ⟨_, a, .ask r hes⟩
  | exhausted => exact absurd .here (h [])

/-- Whatever the first reply is. -/
theorem exists_yields_cons (hreply : ∀ o, Nonempty (S.Reply o)) {o : S.Op}
    {k : S.Reply o → Prog S α} (h : ∀ es, ¬ (Prog.ask o k).Exhausts es) (r : S.Reply o) :
    ∃ es a, (Prog.ask o k).Yields (⟨o, r⟩ :: es) a := by
  obtain ⟨es, a, hes⟩ := exists_yields hreply fun es hes => h _ (.ask r hes)
  exact ⟨es, a, .ask r hes⟩

/-- Carried out on another signature, a program uses up a budget only when it does so
itself, if carrying out an operation always ends. -/
theorem exhausts_interpretWith {meaning : (o : S.Op) → σ → Prog T (S.Reply o × σ)}
    (hmeaning : ∀ o s ts, ¬ (meaning o s).Exhausts ts) {p : Prog S α} {s : σ}
    {ts : List (Event T)} (h : (p.interpretWith meaning s).Exhausts ts) :
    ∃ es, p.Exhausts es := by
  induction p generalizing s ts with
  | done a => exact absurd h not_exhausts_done
  | ask o k ih =>
    rw [interpretWith, exhausts_bind_iff] at h
    rcases h with h | ⟨⟨r, t⟩, ts₁, ts₂, rfl, -, h⟩
    · exact absurd h (hmeaning o s ts)
    · obtain ⟨es, hes⟩ := ih r h
      exact ⟨⟨o, r⟩ :: es, .ask r hes⟩
  | exhausted => exact ⟨[], .here⟩

end Prog
end RadioBench
