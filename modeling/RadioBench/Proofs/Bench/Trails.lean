/-
A program with failures pending beside the same one without.

The program is carried out twice from the same state: with failures pending and a limit to the
text, and without failures and with no limit, or the same one.  As long as nothing is struck the
two go alike.  A failure that is not forgiven, or a text that does not fit, ends the program: what
was recorded and written until then is a beginning of what is recorded and written without
failures, and what still happens writes nothing.

`Trails` is this law for one program.  It is kept by sequences, and by everything that gives
something back after a program whatever came of it.  It asks nothing of the run without failures
but that it ends.
-/
import RadioBench.Proofs.Bench.Coupled
import RadioBench.Proofs.Host.FirstError
import RadioBench.Proofs.Simulator.Shadow
import RadioBench.Proofs.Simulator.Steady

namespace RadioBench
namespace Bench

open Prog Simulator

variable {F : List String} {limit bound : Option Nat} {α β : Type}

/-! ## What grows in a run -/

theorem lasting_calls (past : List String) : Lasting fun s => past <+: s.calls.toList where
  overlooks name := {
    recorded := fun s hs => hs.trans ⟨[name], Array.toList_push.symm⟩
    rejected := fun s hs => by
      obtain ⟨journal, heq⟩ := s.rejected_eq name
      rw [heq]
      exact hs.trans ⟨[name], Array.toList_push.symm⟩ }
  channel _ _ _ _ _ hs := hs
  forget _ _ hs := hs
  settings _ _ _ _ _ hs := hs
  handler _ _ hs := hs
  streams _ _ _ _ hs := hs
  opened _ _ _ hs := hs
  closed _ _ hs := hs

/-- A text is written whole, or as far as it fits. -/
theorem Sink.write_cases (k : Sink) (text : String) :
    k.write text = (.ok (), { k with stored := k.stored ++ (Text.Utf8.encode text).toArray }) ∨
      k.limit ≠ none ∧ ∃ n, k.write text = (.error full,
        { k with stored := k.stored ++ (Text.Utf8.encode text).toArray.take n }) := by
  obtain ⟨stored, limit⟩ := k
  cases limit with
  | none => exact .inl rfl
  | some limit =>
    rw [write]
    dsimp only
    split
    · exact .inl rfl
    · exact .inr ⟨Option.some_ne_none limit, _, rfl⟩

namespace Sink

variable {k m : Sink}

theorem prefix_write (k : Sink) (text : String) :
    k.stored.toList <+: (k.write text).2.stored.toList := by
  rcases k.write_cases text with h | ⟨-, n, h⟩
  · rw [h]
    exact ⟨_, Array.toList_append.symm⟩
  · rw [h]
    exact ⟨_, Array.toList_append.symm⟩

theorem limit_write (k : Sink) (text : String) : (k.write text).2.limit = k.limit := by
  rcases k.write_cases text with h | ⟨-, n, h⟩
  · rw [h]
  · rw [h]

/-- Beside a place that has the same text and no limit, or the same, a text is written alike, or
is cut off. -/
theorem write_beside (hstored : k.stored = m.stored) (hlimit : m.limit = none ∨ m.limit = k.limit)
    (text : String) :
    ((k.write text).1 = .ok () ∧ (m.write text).1 = .ok () ∧
      (k.write text).2.stored = (m.write text).2.stored) ∨
    ((k.write text).1 = .error full ∧
      (k.write text).2.stored.toList <+: (m.write text).2.stored.toList ∧
      (k.limit ≠ m.limit ∨ (m.write text).1 = .error full ∧
        (k.write text).2.stored = (m.write text).2.stored)) := by
  obtain ⟨stored, limit⟩ := k
  obtain ⟨stored', bound⟩ := m
  obtain rfl : stored = stored' := hstored
  rcases hlimit with hnone | hsame
  · obtain rfl : bound = none := hnone
    have hm : write ⟨stored, none⟩ text =
        (.ok (), ⟨stored ++ (Text.Utf8.encode text).toArray, none⟩) := rfl
    rcases write_cases ⟨stored, limit⟩ text with hk | ⟨hne, n, hk⟩
    · rw [hk, hm]
      exact .inl ⟨rfl, rfl, rfl⟩
    · rw [hk, hm]
      refine .inr ⟨rfl, ?_, .inl hne⟩
      have htake : ((Text.Utf8.encode text).toArray.take n).toList =
          (Text.Utf8.encode text).take n := by simp
      rw [Array.toList_append, Array.toList_append, htake]
      exact (List.prefix_append_right_inj _).mpr (List.take_prefix n _)
  · obtain rfl : bound = limit := hsame
    rcases write_cases ⟨stored, bound⟩ text with hk | ⟨-, n, hk⟩
    · rw [hk]
      exact .inl ⟨rfl, rfl, rfl⟩
    · rw [hk]
      exact .inr ⟨rfl, List.prefix_rfl, .inr ⟨rfl, rfl⟩⟩

end Sink

theorem run_line (text : String) (x : Simulated) (k : Sink) :
    (Attempt.line text).run.run Simulated.handle (x, k) =
      (some (Host.written (k.write (text ++ "\n")).1), (x, (k.write (text ++ "\n")).2)) := by
  have hhandle : Simulated.handle (.inr (.write (text ++ "\n"))) (x, k) =
      ((k.write (text ++ "\n")).1, (x, (k.write (text ++ "\n")).2)) := rfl
  exact run_of_yields (Attempt.yields_line_iff.mpr ⟨_, rfl, rfl⟩) (.single hhandle)

/-- Calls are recorded after those before, and so is text. -/
theorem grows_of_path {es : List (Event Host)} {z w : Simulated × Sink}
    (h : Path (Handles Simulated.handle) z es w) :
    z.1.state.calls.toList <+: w.1.state.calls.toList ∧
      z.2.stored.toList <+: w.2.stored.toList := by
  refine h.invariant (P := fun u => z.1.state.calls.toList <+: u.1.state.calls.toList ∧
    z.2.stored.toList <+: u.2.stored.toList) (fun ev u v hstep hu => ?_)
    ⟨List.prefix_rfl, List.prefix_rfl⟩
  obtain ⟨o, a⟩ := ev
  obtain rfl : (Simulated.handle o u).2 = v := congrArg Prod.snd hstep
  match o with
  | .inl r => exact ⟨(lasting_calls _).perform r hu.1, hu.2⟩
  | .inr .now => exact hu
  | .inr (.note e) => exact hu
  | .inr (.write text) => exact ⟨hu.1, hu.2.trans (u.2.prefix_write text)⟩

/-! ## Side by side with the run without failures -/

/-- Nothing was struck so far.  The text of the run without failures has no limit, or the same. -/
structure Abreast (F : List String) (limit bound : Option Nat) (z w : Simulated × Sink) : Prop where
  left : z.1.overlay = .none
  right : w.1.overlay = .none
  states : Shadows F z.1.state w.1.state
  text : z.2.stored = w.2.stored
  limited : z.2.limit = limit
  bounded : w.2.limit = bound
  roomy : bound = none ∨ bound = limit

/-- There is something that can end a program before the run without failures ends: a limit that
the other has not, or a failure that is not forgiven. -/
def Fragile (F : List String) (limit bound : Option Nat) : Prop :=
  limit ≠ bound ∨ ∃ name ∈ F, name ≠ "save_config" ∧ name ≠ "close"

/-- A run that ended with an error, beside the run without failures that led to `w` and ended
with `r`.  Up to the event that gave the error its calls and its text are a beginning of those of
the other run, and after it nothing is written. -/
structure Struck (F : List String) (limit bound : Option Nat) (z w : Simulated × Sink)
    (r : Except Error α) (e : Error) (main after : List (Event Host))
    (mid z' : Simulated × Sink) : Prop where
  begins : Path (Handles Simulated.handle) z main mid
  stops : StopsAt main e
  ends : Path (Handles Simulated.handle) mid after z'
  silent : z'.2 = mid.2
  calls : mid.1.state.calls.toList <+: w.1.state.calls.toList
  text : mid.2.stored.toList <+: w.2.stored.toList
  /-- Without anything that can end a program, the other run ends with the same error. -/
  cause : Fragile F limit bound ∨ r = .error e ∧ mid.2.stored = w.2.stored

/-- The program is carried out from `z` until it is cut short. -/
def CutShort (F : List String) (limit bound : Option Nat) (p : Attempt α) (z w : Simulated × Sink)
    (r : Except Error α) : Prop :=
  ∃ e main after mid z', p.run.Yields (main ++ after) (.error e) ∧
    Struck F limit bound z w r e main after mid z'

/-- From states related by `W`, and beside every run without failures, the program with failures
ends with the same value, with the states related by `Q`, or is cut short. -/
def Trails (F : List String) (limit bound : Option Nat)
    (W Q : Simulated × Sink → Simulated × Sink → Prop) (p : Attempt α) : Prop :=
  ∀ z w es r w', W z w → p.run.Yields es r → Path (Handles Simulated.handle) w es w' →
    (∃ a es' z', r = .ok a ∧ p.run.Yields es' (.ok a) ∧
      Path (Handles Simulated.handle) z es' z' ∧ Clean es' ∧ Q z' w') ∨
    CutShort F limit bound p z w' r

/-- As long as nothing was struck, nothing is when the program has ended either. -/
abbrev Keeps (F : List String) (limit bound : Option Nat) (p : Attempt α) : Prop :=
  Trails F limit bound (Abreast F limit bound) (Abreast F limit bound) p

namespace Struck

variable {z w w' mid z' z'' : Simulated × Sink} {r : Except Error α} {e : Error}
  {es main after after' : List (Event Host)}

/-- The run without failures goes on. -/
theorem goesOn (h : Struck F limit bound z w r e main after mid z') {q : Except Error β}
    (hpath : Path (Handles Simulated.handle) w es w') (hfragile : Fragile F limit bound) :
    Struck F limit bound z w' q e main after mid z' :=
  { h with
    calls := h.calls.trans (grows_of_path hpath).1
    text := h.text.trans (grows_of_path hpath).2
    cause := .inl hfragile }

/-- Both go on, and neither writes any more. -/
theorem goesOnSilently {es' : List (Event Host)}
    (h : Struck F limit bound z w r e main after mid z')
    (hpath : Path (Handles Simulated.handle) z' es z'') (hsilent : z''.2 = z'.2)
    (hpath' : Path (Handles Simulated.handle) w es' w') (hsilent' : w'.2 = w.2) :
    Struck F limit bound z w' r e main (after ++ es) mid z'' :=
  { h with
    ends := h.ends.append hpath
    silent := hsilent.trans h.silent
    calls := h.calls.trans (grows_of_path hpath').1
    text := h.text.trans (grows_of_path hpath').2
    cause := h.cause.imp_right fun hsame => ⟨hsame.1, by rw [hsame.2, hsilent']⟩ }

/-- Something happens before that is not fatal. -/
theorem comesLater (h : Struck F limit bound z' w r e main after mid z'')
    (hpath : Path (Handles Simulated.handle) z es z') (hclean : Clean es) :
    Struck F limit bound z w r e (es ++ main) after mid z'' :=
  { h with
    begins := hpath.append h.begins
    stops := .append hclean h.stops }

theorem fragile {a : α} (h : Struck F limit bound z w (.ok a) e main after mid z') :
    Fragile F limit bound := h.cause.elim id fun hsame => nomatch hsame.1

theorem retype {e' : Error}
    (h : Struck F limit bound z w (.error e' : Except Error α) e main after mid z') :
    Struck F limit bound z w (.error e' : Except Error β) e main after mid z' :=
  { h with
    cause := h.cause.imp_right fun hsame => ⟨congrArg _ (Except.error.inj hsame.1), hsame.2⟩ }

end Struck

/-- A program whose last event was struck. -/
theorem cutShort_of_last {p : Attempt α} {z w z' : Simulated × Sink} {r : Except Error α}
    {e : Error} {es : List (Event Host)} (hes : p.run.Yields es (.error e))
    (hpath : Path (Handles Simulated.handle) z es z') (hstops : StopsAt es e)
    (hcalls : z'.1.state.calls = w.1.state.calls)
    (htext : z'.2.stored.toList <+: w.2.stored.toList)
    (hcause : Fragile F limit bound ∨ r = .error e ∧ z'.2.stored = w.2.stored) :
    CutShort F limit bound p z w r :=
  ⟨e, es, [], z', z', (List.append_nil es).symm ▸ hes,
    { begins := hpath
      stops := hstops
      ends := .nil z'
      silent := rfl
      calls := hcalls ▸ List.prefix_rfl
      text := htext
      cause := hcause }⟩

/-! ## Programs that write nothing -/

/-- A program that comes to its end and writes nothing. -/
def Silent (p : Prog Host α) : Prop :=
  ∀ z, ∃ a z', p.run Simulated.handle z = (some a, z') ∧ z'.2 = z.2

namespace Silent

theorem of_run {p : Prog Host α} {z z' : Simulated × Sink} {a : α} (h : Silent p)
    (hrun : p.run Simulated.handle z = (some a, z')) : z'.2 = z.2 := by
  obtain ⟨b, w, hw, hsame⟩ := h z
  rw [hrun] at hw
  exact (Prod.mk.inj hw).2 ▸ hsame

theorem done (a : α) : Silent (.done a) := fun z => ⟨a, z, rfl, rfl⟩

theorem request (r : Request) : Silent (Host.request r) := fun _ => ⟨_, _, rfl, rfl⟩

theorem note (e : Entry) : Silent (Host.note e) := fun _ => ⟨_, _, rfl, rfl⟩

theorem bind {p : Prog Host α} {f : α → Prog Host β} (hp : Silent p) (hf : ∀ a, Silent (f a)) :
    Silent (p >>= f) := by
  intro z
  obtain ⟨a, z₁, hz, hsame⟩ := hp z
  obtain ⟨b, z₂, hz₁, hsame₁⟩ := hf a z₁
  refine ⟨b, z₂, ?_, hsame₁.trans hsame⟩
  rw [run_bind, hz]
  exact hz₁

theorem andThen {p : Attempt α} {f : α → Attempt β} (hp : Silent p.run)
    (hf : ∀ a, Silent (f a).run) : Silent (p >>= f).run := by
  rw [ExceptT.run_bind]
  refine hp.bind fun r => ?_
  cases r with
  | ok a => exact hf a
  | error e => exact done _

theorem always {p : Prog Host α} (hp : Silent p) : Silent (Attempt.always p).run := by
  rw [Attempt.always, ExceptT.run_lift, map_eq_pure_bind]
  exact hp.bind fun a => done _

theorem ofExcept (r : Except Error α) : Silent (liftExcept r : Attempt α).run := by
  cases r with
  | ok a => exact done _
  | error e => exact done _

end Silent

/-! ## Programs that trail -/

namespace Trails

variable {W P Q : Simulated × Sink → Simulated × Sink → Prop} {p : Attempt α}

theorem pure (a : α) (hQ : ∀ z w, W z w → Q z w) :
    Trails F limit bound W Q (pure a : Attempt α) := by
  intro z w es r w' hzw hes hpath
  obtain ⟨rfl, rfl⟩ := Attempt.yields_pure_iff.mp hes
  obtain rfl := Path.nil_iff.mp hpath
  exact .inl ⟨a, [], z, rfl, Attempt.yields_pure_iff.mpr ⟨rfl, rfl⟩, .nil z, clean_nil, hQ z w hzw⟩

/-- What is known of the value of the first program is known to the second. -/
theorem bind {f : α → Attempt β} (hp : Trails F limit bound W P p)
    (hf : ∀ a es, p.run.Yields es (.ok a) → Trails F limit bound P Q (f a)) :
    Trails F limit bound W Q (p >>= f) := by
  intro z w es r w' hzw hes hpath
  rcases Attempt.yields_bind_iff.mp hes with ⟨a, es₁, es₂, rfl, h₁, h₂⟩ | ⟨e, rfl, he⟩
  · obtain ⟨w₁, hpath₁, hpath₂⟩ := Path.append_iff.mp hpath
    rcases hp z w es₁ _ w₁ hzw h₁ hpath₁ with
      ⟨b, es', z₁, hb, hyields, hz, hclean, hzw₁⟩ | ⟨e, main, after, mid, z', hyields, hstruck⟩
    · obtain rfl := Except.ok.inj hb
      rcases hf a es₁ h₁ z₁ w₁ es₂ r w' hzw₁ h₂ hpath₂ with
        ⟨c, es'', z', rfl, hyields', hz', hclean', hQ⟩ |
        ⟨e, main, after, mid, z', hyields', hstruck⟩
      · refine .inl ⟨c, es' ++ es'', z', rfl, ?_, hz.append hz', ?_, hQ⟩
        · exact Attempt.yields_bind_iff.mpr (.inl ⟨a, es', es'', rfl, hyields, hyields'⟩)
        · exact clean_append.mpr ⟨hclean, hclean'⟩
      · refine .inr ⟨e, es' ++ main, after, mid, z', ?_, hstruck.comesLater hz hclean⟩
        rw [List.append_assoc]
        exact Attempt.yields_bind_iff.mpr (.inl ⟨a, es', _, rfl, hyields, hyields'⟩)
    · -- the first program is cut short, and only the other run goes on
      refine .inr ⟨e, main, after, mid, z', ?_, hstruck.goesOn hpath₂ hstruck.fragile⟩
      exact Attempt.yields_bind_iff.mpr (.inr ⟨e, rfl, hyields⟩)
  · rcases hp z w es _ w' hzw he hpath with
      ⟨b, es', z₁, hb, -⟩ | ⟨e', main, after, mid, z', hyields, hstruck⟩
    · cases hb
    · refine .inr ⟨e', main, after, mid, z', ?_, hstruck.retype⟩
      exact Attempt.yields_bind_iff.mpr (.inr ⟨e', rfl, hyields⟩)

theorem andThen {f : α → Attempt β} (hp : Trails F limit bound W P p)
    (hf : ∀ a, Trails F limit bound P Q (f a)) : Trails F limit bound W Q (p >>= f) :=
  hp.bind fun a _ _ => hf a

theorem perhaps {c : Prop} [Decidable c] {n : Attempt Unit} {f : Unit → Attempt β}
    (hn : Trails F limit bound W W n) (hf : ∀ u, Trails F limit bound W Q (f u)) :
    Trails F limit bound W Q (if c then n >>= f else f ()) := by
  split
  · exact hn.andThen hf
  · exact hf ()

/-- A program that no failure strikes. -/
theorem of_runs (hclean : ∀ es a, p.run.Yields es (.ok a) → Clean es)
    (h : ∀ z w, W z w → ∃ a z' w', p.run.run Simulated.handle z = (some (.ok a), z') ∧
      p.run.run Simulated.handle w = (some (.ok a), w') ∧ Q z' w') :
    Trails F limit bound W Q p := by
  intro z w es r w' hzw hes hpath
  obtain ⟨a, z', w'', hz, hw, hQ⟩ := h z w hzw
  obtain ⟨hr, rfl⟩ := Prod.mk.inj (hw.symm.trans (run_of_yields hes hpath))
  obtain rfl := Option.some.inj hr
  obtain ⟨es', hes', hpath'⟩ := yields_run hz
  exact .inl ⟨a, es', z', rfl, hes', hpath', hclean es' a hes', hQ⟩

theorem note (e : Entry) : Keeps F limit bound (.always (Host.note e)) := by
  refine of_runs (fun es a h => (Attempt.Performs.note e es _ h).1) fun z w h => ?_
  exact ⟨(), _, _, rfl, rfl, { h with states := h.states.journal _ _ }⟩

theorem now : Keeps F limit bound (.always Host.now) := by
  refine of_runs (fun es a h => ?_) fun z w h => ?_
  · obtain ⟨t, -, ht⟩ := Attempt.yields_always_iff.mp h
    rw [Host.yields_now_iff.mp ht]
    exact clean_cons.mpr ⟨rfl, clean_nil⟩
  · refine ⟨w.1.state.clock, z, w, ?_, rfl, h⟩
    rw [← h.states.clock]
    rfl

theorem line (text : String) : Keeps F limit bound (.line text) := by
  intro z w es r w' hzw hes hpath
  obtain ⟨hr, rfl⟩ :=
    Prod.mk.inj ((run_line text w.1 w.2).symm.trans (run_of_yields hes hpath))
  obtain rfl := Option.some.inj hr
  obtain ⟨es', hes', hz⟩ := yields_run (run_line text z.1 z.2)
  have hends := Attempt.Performs.line text es' _ hes'
  have hlimit : w.2.limit = none ∨ w.2.limit = z.2.limit := by
    rw [hzw.bounded, hzw.limited]
    exact hzw.roomy
  rcases Sink.write_beside hzw.text hlimit (text ++ "\n") with
    ⟨hk, hm, htext⟩ | ⟨hk, htext, hcause⟩
  · rw [hk] at hes' hends
    rw [hm]
    exact .inl ⟨(), es', _, rfl, hes', hz, hends.1,
      { hzw with
        text := htext
        limited := (z.2.limit_write _).trans hzw.limited
        bounded := (w.2.limit_write _).trans hzw.bounded }⟩
  · rw [hk] at hes' hends
    refine .inr (cutShort_of_last hes' hz hends.1 hzw.states.calls htext ?_)
    rw [hzw.limited, hzw.bounded] at hcause
    exact hcause.imp .inl fun hsame => ⟨congrArg Host.written hsame.1, hsame.2⟩

/-- A program that is one call, and stops at its failure. -/
theorem step {f : Simulator.Step α} {rs : List Request} {name : String} (hp : Makes p f)
    (hcut : Attempt.Performs p rs) (hf : Follows F name f)
    (hname : name ≠ "save_config" ∧ name ≠ "close") : Keeps F limit bound p := by
  intro z w es r w' hzw hes hpath
  obtain ⟨served, hw⟩ := hp w.1 w.2 hzw.right
  obtain ⟨hr, rfl⟩ := Prod.mk.inj (hw.symm.trans (run_of_yields hes hpath))
  obtain rfl := Option.some.inj hr
  obtain ⟨served', hz⟩ := hp z.1 z.2 hzw.left
  obtain ⟨es', hes', hpath'⟩ := yields_run hz
  have hends := hcut es' _ hes'
  obtain ⟨hcalls, ⟨hsame, hshadows⟩ | ⟨hstruck, hrejected⟩⟩ := hf _ _ hzw.states
  · rw [hsame] at hes' hends
    cases hout : (f w.1.state).1 with
    | ok a =>
      rw [hout] at hes' hends
      exact .inl ⟨a, es', _, rfl, hes', hpath', hends.1, { hzw with states := hshadows }⟩
    | error e =>
      rw [hout] at hes' hends
      exact .inr (cutShort_of_last hes' hpath' hends.1 hshadows.calls
        (hzw.text ▸ List.prefix_rfl) (.inr ⟨rfl, hzw.text⟩))
  · -- the call is struck, and was recorded on both sides by then
    rw [hrejected] at hes' hends hpath'
    have hrecorded : (z.1.state.rejected name).calls = (f w.1.state).2.calls := by
      rw [((hzw.states.rejected name).calls), hcalls]
      rfl
    exact .inr (cutShort_of_last hes' hpath' hends.1 hrecorded (hzw.text ▸ List.prefix_rfl)
      (.inl (.inr ⟨name, hzw.states.pending name hstruck, hname⟩)))

/-- A program whose outcome stands, whatever comes of what is done after it. -/
theorem lastly {ending : Except Error α → Attempt α} (hp : Trails F limit bound W P p)
    (hsilent : ∀ r, Silent (ending r).run)
    (hstands : ∀ r es q, (ending r).run.Yields es q → q = r)
    (hclean : ∀ a es, (ending (.ok a)).run.Yields es (.ok a) → Clean es)
    (hQ : ∀ a z w z' w', P z w →
      (ending (.ok a)).run.run Simulated.handle z = (some (.ok a), z') →
      (ending (.ok a)).run.run Simulated.handle w = (some (.ok a), w') → Q z' w') :
    Trails F limit bound W Q (.always p.run >>= ending) := by
  intro z w es r w' hzw hes hpath
  obtain ⟨q, es₁, es₂, rfl, h₁, h₂⟩ := Attempt.yields_always_bind_iff.mp hes
  obtain rfl := hstands _ _ _ h₂
  obtain ⟨w₁, hpath₁, hpath₂⟩ := Path.append_iff.mp hpath
  have hw := run_of_yields h₂ hpath₂
  rcases hp z w es₁ r w₁ hzw h₁ hpath₁ with
    ⟨a, es', z₁, rfl, hyields, hz, hclean₁, hP⟩ | ⟨e, main, after, mid, z₁, hyields, hstruck⟩
  · obtain ⟨q, z', hrun, -⟩ := hsilent (.ok a) z₁
    obtain ⟨es'', hes'', hz'⟩ := yields_run hrun
    obtain rfl := hstands _ _ _ hes''
    refine .inl ⟨a, es' ++ es'', z', rfl, ?_, hz.append hz', ?_, hQ a _ _ _ _ hP hrun hw⟩
    · exact Attempt.yields_always_bind_iff.mpr ⟨_, _, _, rfl, hyields, hes''⟩
    · exact clean_append.mpr ⟨hclean₁, hclean a es'' hes''⟩
  · -- both runs go on to their ends, each after an outcome of its own
    obtain ⟨q, z', hrun, hsame⟩ := hsilent (.error e) z₁
    obtain ⟨es'', hes'', hz'⟩ := yields_run hrun
    obtain rfl := hstands _ _ _ hes''
    refine .inr ⟨e, main, after ++ es'', mid, z', ?_,
      hstruck.goesOnSilently hz' hsame hpath₂ ((hsilent r).of_run hw)⟩
    rw [← List.append_assoc]
    exact Attempt.yields_always_bind_iff.mpr ⟨_, _, _, rfl, hyields, hes''⟩

end Trails

end Bench
end RadioBench
