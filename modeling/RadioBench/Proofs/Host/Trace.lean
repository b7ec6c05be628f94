/-
What the programs of a host ask for: the events of the smallest of them, and how a
program that may fail is taken apart.
-/
import RadioBench.Host
import RadioBench.Proofs.Prog.Except

namespace RadioBench

open Prog

namespace Host

variable {es : List (Event Host)}

@[simp]
theorem yields_request_iff {r : Request} {a : r.Answer} :
    (request r).Yields es a ↔ es = [⟨.inl r, a⟩] :=
  yields_op_iff (S := Host) (o := .inl r)

@[simp]
theorem yields_now_iff {t : Duration} : now.Yields es t ↔ es = [⟨.inr .now, t⟩] :=
  yields_op_iff (S := Host) (o := .inr .now)

@[simp]
theorem yields_note_iff {e : Entry} {u : Unit} :
    (note e).Yields es u ↔ es = [⟨.inr (.note e), ()⟩] :=
  yields_op_iff (S := Host) (o := .inr (.note e))

/-- The outcome of a write, from the reply of the place that is written to. -/
def written : Except String Unit → Except Error Unit
  | .ok () => .ok ()
  | .error message => .error (.output message)

@[simp]
theorem yields_write_iff {text : String} {r : Except Error Unit} :
    (write text).Yields es r ↔
      ∃ w : Except String Unit, es = [⟨.inr (.write text), w⟩] ∧ r = written w := by
  rw [write, Prog.yields_bind_iff]
  constructor
  · rintro ⟨w, es₁, es₂, rfl, h₁, h₂⟩
    obtain rfl := (yields_op_iff (S := Host)).mp h₁
    refine ⟨w, ?_⟩
    cases (w : Except String Unit) with
    | ok u => obtain ⟨rfl, rfl⟩ := yields_done_iff.mp h₂; exact ⟨rfl, rfl⟩
    | error m => obtain ⟨rfl, rfl⟩ := yields_done_iff.mp h₂; exact ⟨rfl, rfl⟩
  · rintro ⟨w, rfl, rfl⟩
    refine ⟨w, _, [], rfl, (yields_op_iff (S := Host)).mpr rfl, ?_⟩
    cases (w : Except String Unit) with
    | ok u => exact .done _
    | error m => exact .done _

end Host

namespace Attempt

variable {α β : Type} {es : List (Event Host)}

theorem yields_bind_iff {p : Attempt α} {f : α → Attempt β} {r : Except Error β} :
    (p >>= f).run.Yields es r ↔
      (∃ a es₁ es₂, es = es₁ ++ es₂ ∧ p.run.Yields es₁ (.ok a) ∧ (f a).run.Yields es₂ r) ∨
        ∃ e, r = .error e ∧ p.run.Yields es (.error e) := yields_run_bind_iff

@[simp]
theorem yields_pure_iff {a : α} {r : Except Error α} :
    (pure a : Attempt α).run.Yields es r ↔ es = [] ∧ r = .ok a := yields_run_pure_iff

@[simp]
theorem yields_throw_iff {e : Error} {r : Except Error α} :
    (throw e : Attempt α).run.Yields es r ↔ es = [] ∧ r = .error e := yields_run_throw_iff

@[simp]
theorem run_of (p : Prog Host (Except Error α)) : (of p).run = p := rfl

@[simp]
theorem yields_always_iff {p : Prog Host α} {r : Except Error α} :
    (always p).run.Yields es r ↔ ∃ a, r = .ok a ∧ p.Yields es a := by
  rw [always, ExceptT.run_lift, map_eq_pure_bind, Prog.yields_bind_iff]
  constructor
  · rintro ⟨a, es₁, es₂, rfl, h₁, h₂⟩
    obtain ⟨rfl, rfl⟩ := yields_done_iff.mp h₂
    exact ⟨a, rfl, by simpa using h₁⟩
  · rintro ⟨a, rfl, h⟩
    exact ⟨a, es, [], by simp, h, .done _⟩

theorem yields_always_bind_iff {p : Prog Host α} {f : α → Attempt β} {r : Except Error β} :
    (always p >>= f).run.Yields es r ↔
      ∃ a es₁ es₂, es = es₁ ++ es₂ ∧ p.Yields es₁ a ∧ (f a).run.Yields es₂ r := by
  rw [yields_bind_iff]
  constructor
  · rintro (⟨a, es₁, es₂, rfl, h₁, h₂⟩ | ⟨e, -, he⟩)
    · obtain ⟨a', ha, h⟩ := yields_always_iff.mp h₁
      obtain rfl := Except.ok.inj ha
      exact ⟨a, es₁, es₂, rfl, h, h₂⟩
    · obtain ⟨a, ha, -⟩ := yields_always_iff.mp he
      cases ha
  · rintro ⟨a, es₁, es₂, rfl, h₁, h₂⟩
    exact .inl ⟨a, es₁, es₂, rfl, yields_always_iff.mpr ⟨a, rfl, h₁⟩, h₂⟩

theorem always_bind (p : Prog Host α) (f : α → Prog Host β) :
    always (p >>= f) = always p >>= fun a => always (f a) := by
  refine ExceptT.ext ?_
  simp only [always, ExceptT.run_lift, ExceptT.run_bind_lift, map_bind]

@[simp]
theorem yields_line_iff {text : String} {r : Except Error Unit} :
    (line text).run.Yields es r ↔
      ∃ w : Except String Unit,
        es = [⟨.inr (.write (text ++ "\n")), w⟩] ∧ r = Host.written w :=
  Host.yields_write_iff

theorem yields_always_note_iff {e : Entry} {r : Except Error Unit} :
    (always (Host.note e)).run.Yields es r ↔ es = [⟨.inr (.note e), ()⟩] ∧ r = .ok () := by
  rw [yields_always_iff]
  constructor
  · rintro ⟨u, rfl, h⟩
    exact ⟨Host.yields_note_iff.mp h, rfl⟩
  · rintro ⟨rfl, rfl⟩
    exact ⟨(), rfl, Host.yields_note_iff.mpr rfl⟩

@[simp]
theorem yields_debug_iff {text : String} {r : Except Error Unit} :
    (debug text).run.Yields es r ↔ es = [⟨.inr (.note (.debug text)), ()⟩] ∧ r = .ok () :=
  yields_always_note_iff

@[simp]
theorem yields_warn_iff {text : String} {r : Except Error Unit} :
    (warn text).run.Yields es r ↔ es = [⟨.inr (.note (.warn text)), ()⟩] ∧ r = .ok () :=
  yields_always_note_iff

@[simp]
theorem yields_liftExcept_iff {x : Except Error α} {r : Except Error α} :
    (liftExcept x : Attempt α).run.Yields es r ↔ es = [] ∧ r = x := by
  cases x with
  | ok a => exact yields_pure_iff
  | error e => exact yields_throw_iff

end Attempt
end RadioBench
