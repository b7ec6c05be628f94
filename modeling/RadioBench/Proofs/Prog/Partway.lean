/-
Programs that are partway.

`Yields` speaks of a program that has come to its end.  A program that shares an outside world
with others is also looked at in the middle, because what the others do comes between any two of
its own events.  `Goes` keeps what is left of the program, so that every point of a run is there,
and `Asks` says that a property holds of the events up to whatever point is looked at.
-/
import RadioBench.Prog.Trace

namespace RadioBench
namespace Prog

variable {S : Signature} {ε α β : Type} {es : List (Event S)}

/-- The program, getting the replies of the events in order, asks for their operations and is
then left as another program. -/
inductive Goes : Prog S α → List (Event S) → Prog S α → Prop
  | here (p : Prog S α) : Goes p [] p
  | ask {o : S.Op} {k : S.Reply o → Prog S α} (r : S.Reply o) {es : List (Event S)}
      {q : Prog S α} : Goes (k r) es q → Goes (.ask o k) (⟨o, r⟩ :: es) q

theorem goes_done_iff {a : α} {q : Prog S α} : Goes (.done a) es q ↔ es = [] ∧ q = .done a := by
  constructor
  · intro h
    cases h
    exact ⟨rfl, rfl⟩
  · rintro ⟨rfl, rfl⟩
    exact .here _

theorem goes_ask_iff {o : S.Op} {k : S.Reply o → Prog S α} {q : Prog S α} :
    Goes (.ask o k) es q ↔
      (es = [] ∧ q = .ask o k) ∨ ∃ r rest, es = ⟨o, r⟩ :: rest ∧ Goes (k r) rest q := by
  constructor
  · intro h
    cases h with
    | here => exact .inl ⟨rfl, rfl⟩
    | ask r h => exact .inr ⟨r, _, rfl, h⟩
  · rintro (⟨rfl, rfl⟩ | ⟨r, rest, rfl, h⟩)
    · exact .here _
    · exact .ask r h

/-- To be left with a value is to have ended. -/
theorem goes_done_iff_yields {p : Prog S α} {a : α} : p.Goes es (.done a) ↔ p.Yields es a := by
  induction p generalizing es with
  | done b =>
    rw [goes_done_iff, yields_done_iff, Prog.done.injEq, eq_comm (a := a)]
  | ask o k ih =>
    simp only [goes_ask_iff, yields_ask_iff, ih, reduceCtorEq, and_false, false_or]
  | exhausted =>
    constructor
    · intro h
      cases h
    · intro h
      exact absurd h not_yields_exhausted

/-- The property holds of all events of the program, whether it comes to its end or not. -/
def Asks (P : Event S → Prop) (p : Prog S α) : Prop :=
  ∀ es q, p.Goes es q → ∀ ev ∈ es, P ev

namespace Asks

variable {P : Event S → Prop}

theorem done (a : α) : Asks P (.done a : Prog S α) := by
  intro es q h ev hev
  obtain ⟨rfl, -⟩ := goes_done_iff.mp h
  cases hev

theorem exhausted : Asks P (.exhausted : Prog S α) := by
  intro es q h ev hev
  cases h
  cases hev

theorem ask {o : S.Op} {k : S.Reply o → Prog S α} (ho : ∀ r, P ⟨o, r⟩)
    (hk : ∀ r, Asks P (k r)) : Asks P (.ask o k) := by
  intro es q h ev hev
  rcases goes_ask_iff.mp h with ⟨rfl, -⟩ | ⟨r, rest, rfl, hrest⟩
  · cases hev
  · rcases List.mem_cons.mp hev with rfl | hlater
    · exact ho r
    · exact hk r rest q hrest ev hlater

theorem op {o : S.Op} (ho : ∀ r, P ⟨o, r⟩) : Asks P (op o) := ask ho done

theorem of_ask {o : S.Op} {k : S.Reply o → Prog S α} (h : Asks P (.ask o k)) (r : S.Reply o) :
    P ⟨o, r⟩ ∧ Asks P (k r) :=
  ⟨h _ _ (.ask r (.here _)) _ List.mem_cons_self,
    fun _ q hq ev hev => h _ q (.ask r hq) ev (List.mem_cons_of_mem _ hev)⟩

theorem bind {p : Prog S α} {f : α → Prog S β} (hp : Asks P p) (hf : ∀ a, Asks P (f a)) :
    Asks P (p >>= f) := by
  induction p with
  | done a => exact hf a
  | ask o k ih => exact ask (fun r => (hp.of_ask r).1) fun r => ih r (hp.of_ask r).2
  | exhausted => exact exhausted

/-! Programs that may fail. -/

theorem andThen {p : ExceptT ε (Prog S) α} {f : α → ExceptT ε (Prog S) β} (hp : Asks P p.run)
    (hf : ∀ a, Asks P (f a).run) : Asks P (p >>= f).run := by
  rw [ExceptT.run_bind]
  refine bind hp fun r => ?_
  cases r with
  | ok a => exact hf a
  | error e => exact done _

theorem lift {p : Prog S α} (hp : Asks P p) :
    Asks P (ExceptT.lift p : ExceptT ε (Prog S) α).run := by
  rw [ExceptT.run_lift, map_eq_pure_bind]
  exact bind hp fun _ => done _

theorem ofExcept (x : Except ε α) : Asks P (liftExcept x : ExceptT ε (Prog S) α).run := by
  cases x with
  | ok a => exact done _
  | error e => exact done _

end Asks
end Prog
end RadioBench
