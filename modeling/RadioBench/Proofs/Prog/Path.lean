/-
Runs read as paths.

A rule says which states an event may lead to.  A path is a list of events that
lead from one state to another, each by a step of the rule.  Rules are used in
two ways: as a discipline that a program keeps, whatever it is replied, and as a
description of an outside world that settles the replies.

`yields_run` and `yields_interpretWith` say that a program that was carried out
asked for events along which its state went; what is shown for all events of a
program then holds for every way of carrying it out.
-/
import RadioBench.Prog.Trace

namespace RadioBench

inductive Path {ε σ : Type} (rule : ε → σ → σ → Prop) : σ → List ε → σ → Prop
  | nil (s : σ) : Path rule s [] s
  | cons {e : ε} {es : List ε} {s t u : σ} :
      rule e s t → Path rule t es u → Path rule s (e :: es) u

namespace Path

variable {ε σ τ : Type} {rule : ε → σ → σ → Prop} {rule' : ε → τ → τ → Prop}

@[simp]
theorem nil_iff {s u : σ} : Path rule s [] u ↔ s = u := by
  constructor
  · intro h; cases h; rfl
  · rintro rfl; exact .nil s

@[simp]
theorem cons_iff {e : ε} {es : List ε} {s u : σ} :
    Path rule s (e :: es) u ↔ ∃ t, rule e s t ∧ Path rule t es u := by
  constructor
  · intro h; cases h with
    | cons he hes => exact ⟨_, he, hes⟩
  · rintro ⟨t, he, hes⟩; exact .cons he hes

theorem append_iff {es es' : List ε} {s u : σ} :
    Path rule s (es ++ es') u ↔ ∃ t, Path rule s es t ∧ Path rule t es' u := by
  induction es generalizing s with
  | nil => simp
  | cons e es ih =>
    simp only [List.cons_append, cons_iff, ih]
    constructor
    · rintro ⟨t, he, v, hes, hes'⟩; exact ⟨v, ⟨t, he, hes⟩, hes'⟩
    · rintro ⟨v, ⟨t, he, hes⟩, hes'⟩; exact ⟨t, he, v, hes, hes'⟩

theorem append {es es' : List ε} {s t u : σ} (h : Path rule s es t) (h' : Path rule t es' u) :
    Path rule s (es ++ es') u := append_iff.mpr ⟨t, h, h'⟩

theorem single {e : ε} {s t : σ} (h : rule e s t) : Path rule s [e] t := .cons h (.nil t)

theorem mono {rule' : ε → σ → σ → Prop} (hrule : ∀ e s t, rule e s t → rule' e s t)
    {es : List ε} {s u : σ} (h : Path rule s es u) : Path rule' s es u := by
  induction h with
  | nil => exact .nil _
  | cons he _ ih => exact .cons (hrule _ _ _ he) ih

theorem invariant {P : σ → Prop} (hstep : ∀ e s t, rule e s t → P s → P t) {es : List ε}
    {s u : σ} (h : Path rule s es u) (hs : P s) : P u := by
  induction h with
  | nil => exact hs
  | cons he _ ih => exact ih (hstep _ _ _ he hs)

/-- Two paths along the same events stay related when their steps do. -/
theorem related {R : σ → τ → Prop}
    (hstep : ∀ e s s' t t', rule e s s' → rule' e t t' → R s t → R s' t')
    {es : List ε} {s u : σ} {t v : τ} (h : Path rule s es u) (h' : Path rule' t es v)
    (hR : R s t) : R u v := by
  induction h generalizing t with
  | nil =>
    rw [nil_iff] at h'
    exact h' ▸ hR
  | cons he _ ih =>
    obtain ⟨t', he', h'⟩ := cons_iff.mp h'
    exact ih h' (hstep _ _ _ _ _ he he' hR)

/-- What holds of no events at the start, and is kept when a step adds its event, holds of
all events at the end. -/
theorem recorded {P : List ε → σ → Prop} {es : List ε} {s u : σ} (h : Path rule s es u)
    (hstart : P [] s)
    (hstep : ∀ past e t t', Path rule s past t → rule e t t' → P past t → P (past ++ [e]) t') :
    P es u := by
  have hrest : ∀ {past es : List ε} {t u : σ}, Path rule s past t → P past t →
      Path rule t es u → P (past ++ es) u := by
    intro past es t u hpast hP hes
    induction hes generalizing past with
    | nil => rwa [List.append_nil]
    | cons he _ ih =>
      rw [List.append_cons]
      exact ih (hpast.append (.single he)) (hstep _ _ _ _ hpast he hP)
  exact hrest (.nil s) hstart h

/-- An event of a path is a step between two states on the way. -/
theorem of_prefix {es past : List ε} {e : ε} {s u : σ} (h : Path rule s es u)
    (he : past ++ [e] <+: es) : ∃ t t', Path rule s past t ∧ rule e t t' := by
  obtain ⟨rest, rfl⟩ := he
  obtain ⟨t', hpast, -⟩ := append_iff.mp h
  obtain ⟨t, hpast, he⟩ := append_iff.mp hpast
  obtain ⟨v, he, -⟩ := cons_iff.mp he
  exact ⟨t, v, hpast, he⟩

/-- A view of the states follows the events that matter to it. -/
theorem filterMap {δ : Type} {rule' : δ → τ → τ → Prop} {g : ε → Option δ} (view : σ → τ)
    (hnone : ∀ e s t, rule e s t → g e = none → view t = view s)
    (hsome : ∀ e s t d, rule e s t → g e = some d → rule' d (view s) (view t))
    {es : List ε} {s u : σ} (h : Path rule s es u) :
    Path rule' (view s) (es.filterMap g) (view u) := by
  induction h with
  | nil => exact .nil _
  | @cons e es s t u he _ ih =>
    cases hg : g e with
    | none =>
      rw [List.filterMap_cons_none hg, ← hnone e s t he hg]
      exact ih
    | some d =>
      rw [List.filterMap_cons_some hg]
      exact .cons (hsome e s t d he hg) ih

end Path

namespace Prog

variable {S T : Signature} {α β σ : Type}

/-- An event is what a handler makes of its operation. -/
def Handles (handle : (o : S.Op) → σ → S.Reply o × σ) (e : Event S) (s t : σ) : Prop :=
  handle e.op s = (e.reply, t)

theorem yields_run {handle : (o : S.Op) → σ → S.Reply o × σ} {p : Prog S α} {s t : σ} {a : α}
    (h : p.run handle s = (some a, t)) : ∃ es, p.Yields es a ∧ Path (Handles handle) s es t := by
  induction p generalizing s with
  | done b =>
    simp only [run, Prod.mk.injEq, Option.some.injEq] at h
    obtain ⟨rfl, rfl⟩ := h
    exact ⟨[], .done b, .nil s⟩
  | ask o k ih =>
    obtain ⟨es, hes, hpath⟩ := ih (handle o s).1 (s := (handle o s).2) h
    exact ⟨⟨o, (handle o s).1⟩ :: es, .ask _ hes, .cons rfl hpath⟩
  | exhausted => simp [run] at h

theorem run_of_yields {handle : (o : S.Op) → σ → S.Reply o × σ} {p : Prog S α}
    {es : List (Event S)} {s t : σ} {a : α} (h : p.Yields es a)
    (hpath : Path (Handles handle) s es t) : p.run handle s = (some a, t) := by
  induction h generalizing s with
  | done a =>
    obtain rfl := Path.nil_iff.mp hpath
    rfl
  | ask r _ ih =>
    obtain ⟨u, hstep, hrest⟩ := Path.cons_iff.mp hpath
    rw [run, show handle _ s = _ from hstep]
    exact ih hrest

theorem yields_pair_iff {a a' : α} {s s' : σ} {es : List (Event S)} :
    (.done (a, s) : Prog S (α × σ)).Yields es (a', s') ↔ es = [] ∧ a = a' ∧ s = s' := by
  rw [yields_done_iff, Prod.mk.injEq]

/-- A program that hands a state on as it got it. -/
theorem yields_keeping_iff {p : Prog S α} {f : α → β} {b : β} {s s' : σ} {es : List (Event S)} :
    (p >>= fun a => .done (f a, s)).Yields es (b, s') ↔
      (∃ a, p.Yields es a ∧ b = f a) ∧ s' = s := by
  rw [yields_bind_iff]
  constructor
  · rintro ⟨a, es₁, es₂, rfl, h₁, h₂⟩
    obtain ⟨rfl, rfl, rfl⟩ := yields_pair_iff.mp h₂
    exact ⟨⟨a, (List.append_nil es₁).symm ▸ h₁, rfl⟩, rfl⟩
  · rintro ⟨⟨a, h, rfl⟩, rfl⟩
    exact ⟨a, es, [], (List.append_nil es).symm, h, .done _⟩

/-- An event is what a program over another signature makes of its operation.  The
events of that program are added to those before. -/
def Means (meaning : (o : S.Op) → σ → Prog T (S.Reply o × σ)) (e : Event S)
    (x y : σ × List (Event T)) : Prop :=
  ∃ ts, (meaning e.op x.1).Yields ts (e.reply, y.1) ∧ y.2 = x.2 ++ ts

theorem yields_interpretWith {meaning : (o : S.Op) → σ → Prog T (S.Reply o × σ)} {p : Prog S α}
    {s t : σ} {ts : List (Event T)} {a : α} (h : (p.interpretWith meaning s).Yields ts (a, t))
    (before : List (Event T)) :
    ∃ es, p.Yields es a ∧ Path (Means meaning) (s, before) es (t, before ++ ts) := by
  induction p generalizing s ts before with
  | done b =>
    rw [interpretWith, yields_done_iff] at h
    obtain ⟨rfl, h⟩ := h
    cases h
    exact ⟨[], .done _, by simp⟩
  | ask o k ih =>
    rw [interpretWith, yields_bind_iff] at h
    obtain ⟨⟨r, s'⟩, ts₁, ts₂, rfl, h₁, h₂⟩ := h
    obtain ⟨es, hes, hpath⟩ := ih r h₂ (before ++ ts₁)
    rw [List.append_assoc] at hpath
    exact ⟨⟨o, r⟩ :: es, .ask r hes, .cons ⟨ts₁, h₁, rfl⟩ hpath⟩
  | exhausted => exact absurd h not_yields_exhausted

theorem exists_append_of_means {meaning : (o : S.Op) → σ → Prog T (S.Reply o × σ)}
    {es : List (Event S)} {x y : σ × List (Event T)} (h : Path (Means meaning) x es y) :
    ∃ ts, y.2 = x.2 ++ ts := by
  induction h with
  | nil x => exact ⟨[], (List.append_nil _).symm⟩
  | cons he _ ih =>
    obtain ⟨ts, -, hts⟩ := he
    obtain ⟨ts', hts'⟩ := ih
    exact ⟨ts ++ ts', by rw [hts', hts, List.append_assoc]⟩

end Prog
end RadioBench
