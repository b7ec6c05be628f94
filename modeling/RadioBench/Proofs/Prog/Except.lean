/-
Programs that may fail, over any signature.
-/
import RadioBench.Prog.Trace

namespace RadioBench
namespace Prog

variable {S : Signature} {ε α β : Type} {es : List (Event S)}

theorem yields_run_bind_iff {p : ExceptT ε (Prog S) α} {f : α → ExceptT ε (Prog S) β}
    {r : Except ε β} :
    (p >>= f).run.Yields es r ↔
      (∃ a es₁ es₂, es = es₁ ++ es₂ ∧ p.run.Yields es₁ (.ok a) ∧ (f a).run.Yields es₂ r) ∨
        ∃ e, r = .error e ∧ p.run.Yields es (.error e) := by
  rw [ExceptT.run_bind, yields_bind_iff]
  constructor
  · rintro ⟨x, es₁, es₂, rfl, h₁, h₂⟩
    cases x with
    | ok a => exact .inl ⟨a, es₁, es₂, rfl, h₁, h₂⟩
    | error e =>
      obtain ⟨rfl, rfl⟩ := yields_done_iff.mp h₂
      exact .inr ⟨e, rfl, by simpa using h₁⟩
  · rintro (⟨a, es₁, es₂, rfl, h₁, h₂⟩ | ⟨e, rfl, h⟩)
    · exact ⟨.ok a, es₁, es₂, rfl, h₁, h₂⟩
    · exact ⟨.error e, es, [], by simp, h, .done _⟩

theorem yields_run_pure_iff {a : α} {r : Except ε α} :
    (pure a : ExceptT ε (Prog S) α).run.Yields es r ↔ es = [] ∧ r = .ok a := by
  rw [ExceptT.run_pure, pure_eq_done, yields_done_iff, eq_comm (a := r)]

theorem yields_run_throw_iff {e : ε} {r : Except ε α} :
    (throw e : ExceptT ε (Prog S) α).run.Yields es r ↔ es = [] ∧ r = .error e := by
  rw [ExceptT.run_throw, pure_eq_done, yields_done_iff, eq_comm (a := r)]

theorem run_op_of_eq {σ : Type} {handle : (o : S.Op) → σ → S.Reply o × σ} {o : S.Op}
    {s t : σ} {r : S.Reply o} (h : handle o s = (r, t)) : (op o).run handle s = (some r, t) := by
  rw [op, run, h]
  rfl

theorem run_lift_of_eq {σ : Type} {handle : (o : S.Op) → σ → S.Reply o × σ} {p : Prog S α}
    {s t : σ} {a : α} (h : p.run handle s = (some a, t)) :
    (ExceptT.lift p : ExceptT ε (Prog S) α).run.run handle s = (some (.ok a), t) := by
  rw [ExceptT.run_lift, map_eq_pure_bind, run_bind, h]
  rfl

theorem run_bind_ok {σ : Type} {handle : (o : S.Op) → σ → S.Reply o × σ}
    {p : ExceptT ε (Prog S) α} {f : α → ExceptT ε (Prog S) β} {s t : σ} {a : α}
    (h : p.run.run handle s = (some (.ok a), t)) :
    (p >>= f).run.run handle s = (f a).run.run handle t := by
  rw [ExceptT.run_bind, run_bind, h]

theorem run_bind_error {σ : Type} {handle : (o : S.Op) → σ → S.Reply o × σ}
    {p : ExceptT ε (Prog S) α} {f : α → ExceptT ε (Prog S) β} {s t : σ} {e : ε}
    (h : p.run.run handle s = (some (.error e), t)) :
    (p >>= f).run.run handle s = (some (.error e), t) := by
  rw [ExceptT.run_bind, run_bind, h]
  rfl

end Prog
end RadioBench
