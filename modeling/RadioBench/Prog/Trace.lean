/-
What programs may do when every operation may be replied to in any way.

An event is an operation with the reply it got.  `Yields p es a` says that the
program `p`, getting the replies of `es` in order, asks for exactly the
operations of `es` and ends with `a`.  No reply is ruled out, so a statement
about all `es` with `Yields p es a` is a statement about every outside world.
-/
import RadioBench.Prog

namespace RadioBench

/-- An operation and its reply. -/
structure Event (S : Signature) where
  op : S.Op
  reply : S.Reply op

namespace Prog

variable {S : Signature} {α β : Type}

inductive Yields : Prog S α → List (Event S) → α → Prop
  | done (a : α) : Yields (.done a) [] a
  | ask {o : S.Op} {k : S.Reply o → Prog S α} (r : S.Reply o) {es : List (Event S)} {a : α} :
      Yields (k r) es a → Yields (.ask o k) (⟨o, r⟩ :: es) a

@[simp]
theorem yields_done_iff {a b : α} {es : List (Event S)} :
    Yields (.done a) es b ↔ es = [] ∧ a = b := by
  constructor
  · intro h; cases h; exact ⟨rfl, rfl⟩
  · rintro ⟨rfl, rfl⟩; exact .done a

@[simp]
theorem yields_ask_iff {o : S.Op} {k : S.Reply o → Prog S α} {es : List (Event S)} {a : α} :
    Yields (.ask o k) es a ↔ ∃ r rest, es = ⟨o, r⟩ :: rest ∧ Yields (k r) rest a := by
  constructor
  · intro h; cases h with
    | ask r h => exact ⟨r, _, rfl, h⟩
  · rintro ⟨r, rest, rfl, h⟩; exact .ask r h

@[simp]
theorem yields_op_iff {o : S.Op} {es : List (Event S)} {r : S.Reply o} :
    Yields (op o) es r ↔ es = [⟨o, r⟩] := by
  rw [op, yields_ask_iff]
  constructor
  · rintro ⟨r', rest, rfl, h⟩
    obtain ⟨rfl, rfl⟩ := yields_done_iff.mp h
    rfl
  · rintro rfl
    exact ⟨r, [], rfl, .done r⟩

@[simp]
theorem not_yields_exhausted {es : List (Event S)} {a : α} :
    ¬ Yields (.exhausted : Prog S α) es a := by
  intro h; cases h

/-- The events of a sequence are those of its parts, one after the other. -/
theorem yields_bind_iff {p : Prog S α} {f : α → Prog S β} {es : List (Event S)} {b : β} :
    Yields (p >>= f) es b ↔
      ∃ a es₁ es₂, es = es₁ ++ es₂ ∧ Yields p es₁ a ∧ Yields (f a) es₂ b := by
  induction p generalizing es with
  | done a =>
    constructor
    · intro h; exact ⟨a, [], es, rfl, .done a, h⟩
    · rintro ⟨a', es₁, es₂, rfl, h₁, h₂⟩
      cases h₁; exact h₂
  | ask o k ih =>
    simp only [ask_bind, yields_ask_iff, ih]
    constructor
    · rintro ⟨r, rest, rfl, a, es₁, es₂, rfl, h₁, h₂⟩
      exact ⟨a, ⟨o, r⟩ :: es₁, es₂, rfl, ⟨r, es₁, rfl, h₁⟩, h₂⟩
    · rintro ⟨a, es₁, es₂, rfl, ⟨r, rest, rfl, h₁⟩, h₂⟩
      exact ⟨r, rest ++ es₂, rfl, a, rest, es₂, rfl, h₁, h₂⟩
  | exhausted =>
    constructor
    · intro h; exact absurd h not_yields_exhausted
    · rintro ⟨_, _, _, _, h, _⟩; exact absurd h not_yields_exhausted

end Prog
end RadioBench
