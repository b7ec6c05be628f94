/-
Two simulated radios side by side.

Two programs are coupled when, carried out on two radios whose states are related, they end
alike: with values that are related or with the same error, with states that are related again,
and with the same text.  The programs need not be the same, since they name devices and streams
by whatever handles their own radio gave out.

Coupling is kept by sequences, so that two runs are compared one operation at a time.  All of it
is about runs that end, and so a coupled program is in particular one that comes to its end.
-/
import RadioBench.Bench.Station
import RadioBench.Guard.LogScope
import RadioBench.Guard.Stream
import RadioBench.Proofs.Prog.Except
import RadioBench.Proofs.Simulator.Facing

namespace RadioBench

theorem Overlay.apply_none (served : Nat) (r : Request) (a : r.Answer) :
    (Overlay.none.apply served r a).1 = a := by
  have hreplace {γ : Type} (x : Except Error γ) : Overlay.replace Option.none x = x := by
    cases x <;> rfl
  cases r with
  | device h c => cases c <;> first | rfl | exact hreplace a
  | channel h ch c => cases c <;> first | rfl | exact hreplace a
  | recvStream n buffer info timeout =>
    obtain ⟨result, buffer', info'⟩ := a
    cases result <;> rfl
  | streamStatus n => exact hreplace a
  | _ => rfl

namespace Bench

open Prog Simulator

variable {α β γ δ : Type}

/-! ## Requests without an overlay -/

variable {x y : Simulated} {k : Sink}

theorem Simulated.perform_plain (hx : x.overlay = .none) (r : Request) :
    ∃ served, x.perform r = ((Simulator.perform r x.state).1,
      { x with state := (Simulator.perform r x.state).2, reads := served }) := by
  refine ⟨(x.overlay.apply x.reads r (Simulator.perform r x.state).1).2, ?_⟩
  have hsame : (x.overlay.apply x.reads r (Simulator.perform r x.state).1).1 =
      (Simulator.perform r x.state).1 := by
    rw [hx]
    exact Overlay.apply_none x.reads r _
  exact congrArg (·, _) hsame

/-- Carried out on a radio without an overlay, the program is one step of the radio. -/
def Makes (p : Attempt α) (f : Simulator.Step α) : Prop :=
  ∀ x k, x.overlay = .none → ∃ served, p.run.run Simulated.handle (x, k) =
    (some (f x.state).1, ({ x with state := (f x.state).2, reads := served }, k))

theorem run_request (hx : x.overlay = .none) (k : Sink) (r : Request) :
    ∃ served, (Host.request r).run Simulated.handle (x, k) =
      (some (perform r x.state).1,
        ({ x with state := (perform r x.state).2, reads := served }, k)) := by
  obtain ⟨served, hperform⟩ := Simulated.perform_plain hx r
  have hhandle : Simulated.handle (.inl r) (x, k) =
      ((x.perform r).1, ((x.perform r).2, k)) := rfl
  rw [hperform] at hhandle
  exact ⟨served, run_op_of_eq (S := Host) (o := .inl r) hhandle⟩

theorem makes_call (d : Device) (c : DeviceCall) : Makes (d.call c) (deviceCall d.handle c) :=
  fun _ k hx => run_request hx k (.device d.handle c)

theorem makes_channel (d : Device) (ch : ChannelId) {c : ChannelCall} (hc : c.refusal? = none) :
    Makes (d.channel ch c) (channelCall d.handle ch c) := by
  intro x k hx
  simp only [Device.channel, hc]
  exact run_request hx k (.channel d.handle ch c)

/-! ## Coupled programs -/

/-- Two radios without overlays, and text that goes to a place without a limit. -/
structure Meets (W : State → State → Prop) (x y : Simulated) (k : Sink) : Prop where
  left : x.overlay = .none
  right : y.overlay = .none
  unlimited : k.limit = none
  states : W x.state y.state

/-- From related states the two programs end alike, and write the same text. -/
def Coupled (W E : State → State → Prop) (Q : α → β → State → State → Prop) (p : Attempt α)
    (q : Attempt β) : Prop :=
  ∀ x y k, Meets W x y k → ∃ r r' x' y' k',
    p.run.run Simulated.handle (x, k) = (some r, (x', k')) ∧
      q.run.run Simulated.handle (y, k) = (some r', (y', k')) ∧
      Meets (Alike E Q r r') x' y' k'

/-- The two programs end with the same value. -/
abbrev Same (W E : State → State → Prop) (Q : α → State → State → Prop) (p q : Attempt α) : Prop :=
  Coupled W E (fun a b s t => a = b ∧ Q a s t) p q

variable {W W' E E' : State → State → Prop}

theorem Meets.mono (h : Meets W x y k) (hW : ∀ s t, W s t → W' s t) : Meets W' x y k :=
  { h with states := hW _ _ h.states }

namespace Coupled

variable {P : α → β → State → State → Prop} {Q : γ → δ → State → State → Prop}
  {p : Attempt α} {q : Attempt β} {f : α → Attempt γ} {g : β → Attempt δ}

theorem weaken (h : Coupled W E P p q) (hW : ∀ s t, W' s t → W s t) : Coupled W' E P p q :=
  fun x y k hxy => h x y k (hxy.mono hW)

theorem bind (hp : Coupled W E P p q) (hf : ∀ a b, Coupled (P a b) E Q (f a) (g b)) :
    Coupled W E Q (p >>= f) (q >>= g) := by
  intro x y k hxy
  obtain ⟨r, r', x', y', k', hx, hy, hend⟩ := hp x y k hxy
  match r, r' with
  | .ok a, .ok b =>
    obtain ⟨r, r', x'', y'', k'', hx', hy', hend'⟩ := hf a b x' y' k' hend
    exact ⟨r, r', x'', y'', k'', (run_bind_ok hx).trans hx', (run_bind_ok hy).trans hy', hend'⟩
  | .error e, .error e' =>
    exact ⟨.error e, .error e', x', y', k', run_bind_error hx, run_bind_error hy,
      hend.mono fun _ _ h => h⟩
  | .ok a, .error e => exact hend.states.elim
  | .error e, .ok b => exact hend.states.elim

/-- The values of the first programs are known. -/
theorem known {W'' : State → State → Prop} {a₀ : α} {b₀ : β}
    (hp : Coupled W E (fun a b s t => a = a₀ ∧ b = b₀ ∧ W'' s t) p q)
    (hf : Coupled W'' E Q (f a₀) (g b₀)) : Coupled W E Q (p >>= f) (q >>= g) := by
  refine hp.bind fun a b => ?_
  intro x y k hxy
  obtain ⟨rfl, rfl, -⟩ := hxy.states
  exact hf x y k (hxy.mono fun _ _ h => h.2.2)

theorem pure {a : α} {b : β} (h : ∀ s t, W s t → P a b s t) :
    Coupled W E P (pure a : Attempt α) (pure b : Attempt β) :=
  fun x y k hxy => ⟨.ok a, .ok b, x, y, k, rfl, rfl, hxy.mono h⟩

theorem throw (err : Error) (h : ∀ s t, W s t → E s t) :
    Coupled W E P (throw err : Attempt α) (throw err : Attempt β) :=
  fun x y k hxy => ⟨.error err, .error err, x, y, k, rfl, rfl,
    hxy.mono fun s t hst => ⟨rfl, h s t hst⟩⟩

theorem liftExcept {r : Except Error α} {r' : Except Error β}
    (h : ∀ s t, W s t → Alike E P r r' s t) :
    Coupled W E P (liftExcept r : Attempt α) (liftExcept r' : Attempt β) := by
  intro x y k hxy
  refine ⟨r, r', x, y, k, ?_, ?_, hxy.mono h⟩
  · cases r <;> rfl
  · cases r' <;> rfl

/-- Two programs that are one step each. -/
theorem step {f : Simulator.Step α} {g : Simulator.Step β} (hp : Makes p f) (hq : Makes q g)
    (h : ∀ s t, W s t → Concur E P f g s t) : Coupled W E P p q := by
  intro x y k hxy
  obtain ⟨served, hx⟩ := hp x k hxy.left
  obtain ⟨served', hy⟩ := hq y k hxy.right
  exact ⟨_, _, _, _, k, hx, hy,
    ⟨hxy.left, hxy.right, hxy.unlimited, h _ _ hxy.states⟩⟩

end Coupled

/-! ## Programs that end with the same value -/

namespace Same

variable {P : α → State → State → Prop} {Q : γ → δ → State → State → Prop} {p q : Attempt α}
  {f : α → Attempt γ} {g : α → Attempt δ}

theorem andThen (hp : Same W E P p q) (hf : ∀ a, Coupled (P a) E Q (f a) (g a)) :
    Coupled W E Q (p >>= f) (q >>= g) := by
  refine Coupled.bind hp fun a b => ?_
  intro x y k hxy
  obtain rfl := hxy.states.1
  exact hf a x y k (hxy.mono fun _ _ h => h.2)

theorem line (text : String) : Same W E (fun _ => W) (.line text) (.line text) := by
  intro x y k hxy
  obtain ⟨stored, limit⟩ := k
  obtain rfl : limit = none := hxy.unlimited
  exact ⟨.ok (), .ok (), x, y, _, rfl, rfl, ⟨hxy.left, hxy.right, rfl, rfl, hxy.states⟩⟩

/-- Entries in the journal need not be the same. -/
theorem note (hW : ∀ s t e e', W s t → W (s.note e) (t.note e')) (e e' : Entry) :
    Same W E (fun _ => W) (.always (Host.note e)) (.always (Host.note e')) := by
  intro x y k hxy
  exact ⟨.ok (), .ok (), _, _, k, rfl, rfl,
    ⟨hxy.left, hxy.right, hxy.unlimited, rfl, hW _ _ e e' hxy.states⟩⟩

theorem perhaps {c : Prop} [Decidable c] {n n' : Attempt Unit} {f : Unit → Attempt γ}
    {g : Unit → Attempt δ} (hn : Same W E (fun _ => W) n n')
    (hf : ∀ u, Coupled W E Q (f u) (g u)) :
    Coupled W E Q (if c then n >>= f else f ()) (if c then n' >>= g else g ()) := by
  split
  · exact hn.andThen hf
  · exact hf ()

/-- The outcome of a program is looked at, and the program that looks does not fail. -/
theorem tried (hp : Same W E P p q) :
    Same W E' (fun r => Alike E (fun a b s t => a = b ∧ P a s t) r r) (.always p.run)
      (.always q.run) := by
  intro x y k hxy
  obtain ⟨r, r', x', y', k', hx, hy, hend⟩ := hp x y k hxy
  have hsame : r = r' := by
    match r, r' with
    | .ok a, .ok b => exact congrArg _ hend.states.1
    | .error e, .error e' => exact congrArg _ hend.states.1
    | .ok a, .error e => exact hend.states.elim
    | .error e, .ok b => exact hend.states.elim
  subst hsame
  exact ⟨.ok r, .ok r, x', y', k', run_lift_of_eq hx, run_lift_of_eq hy,
    ⟨hend.left, hend.right, hend.unlimited, rfl, hend.states⟩⟩

end Same

namespace Coupled

/-- A stream is not dropped when the program that it guards cannot fail. -/
theorem guarding {P : α → β → State → State → Prop} {p : Attempt α} {q : Attempt β}
    (s s' : Stream) (h : Coupled W (fun _ _ => False) P p q) :
    Coupled W E P (s.guarding p) (s'.guarding q) := by
  intro x y k hxy
  obtain ⟨r, r', x', y', k', hx, hy, hend⟩ := h x y k hxy
  match r, r' with
  | .ok a, .ok b =>
    refine ⟨.ok a, .ok b, x', y', k', ?_, ?_, hend.mono fun _ _ h => h⟩
    · exact (run_bind _ _ _ _).trans (by rw [hx]; rfl)
    · exact (run_bind _ _ _ _).trans (by rw [hy]; rfl)
  | .error e, .error e' => exact hend.states.2.elim
  | .ok a, .error e => exact hend.states.elim
  | .error e, .ok b => exact hend.states.elim

/-- The relations look neither at what is recorded of the calls nor at the handler. -/
theorem within {P : α → β → State → State → Prop} {p : Attempt α} {q : Attempt β}
    (handler : LogHandler) (h : Coupled W E P p q)
    (hW : ∀ s t r, W s t → W (perform (.registerLog r) s).2 (perform (.registerLog r) t).2)
    (hE : ∀ s t r, E s t → E (perform (.registerLog r) s).2 (perform (.registerLog r) t).2)
    (hP : ∀ a b s t r, P a b s t →
      P a b (perform (.registerLog r) s).2 (perform (.registerLog r) t).2) :
    Coupled W E P (LogScope.within handler p) (LogScope.within handler q) := by
  -- handlers are registered and removed without fail, so that only `p` and `q` are left
  let after (r : Option LogHandler) (x : Simulated) : Simulated := (x.perform (.registerLog r)).2
  have hrun {γ : Type} (p : Attempt γ) (x : Simulated) (k : Sink) :
      (LogScope.within handler p).run.run Simulated.handle (x, k) =
        (p.run >>= fun r => .ask (.inl (.registerLog none)) fun _ => .done r).run Simulated.handle
          (after (some handler) (after none x), k) := rfl
  intro x y k hxy
  have hbegin : Meets W (after (some handler) (after none x))
      (after (some handler) (after none y)) k :=
    ⟨hxy.left, hxy.right, hxy.unlimited, hW _ _ _ (hW _ _ _ hxy.states)⟩
  obtain ⟨r, r', x', y', k', hx, hy, hend⟩ := h _ _ k hbegin
  refine ⟨r, r', after none x', after none y', k', ?_, ?_,
    ⟨hend.left, hend.right, hend.unlimited, ?_⟩⟩
  · rw [hrun, run_bind, hx]
    rfl
  · rw [hrun, run_bind, hy]
    rfl
  · match r, r' with
    | .ok a, .ok b => exact hP a b _ _ none hend.states
    | .error e, .error e' => exact ⟨hend.states.1, hE _ _ none hend.states.2⟩
    | .ok a, .error e => exact hend.states.elim
    | .error e, .ok b => exact hend.states.elim

end Coupled

/-! ## Text -/

/-- What a program writes does not depend on what was written before. -/
theorem run_unlimited (p : Prog Host α) (x : Simulated) :
    ∃ r x' text, ∀ stored, p.run Simulated.handle (x, ⟨stored, none⟩) =
      (r, (x', ⟨stored ++ text, none⟩)) := by
  induction p generalizing x with
  | done a => exact ⟨some a, x, #[], fun stored => by rw [Array.append_empty]; rfl⟩
  | exhausted => exact ⟨none, x, #[], fun stored => by rw [Array.append_empty]; rfl⟩
  | ask o next ih =>
    match o with
    | .inl r => exact ih (x.perform r).1 (x.perform r).2
    | .inr .now => exact ih x.state.clock x
    | .inr (.note e) => exact ih () { x with state := x.state.note e }
    | .inr (.write written) =>
      obtain ⟨r, x', text, h⟩ := ih (.ok ()) x
      refine ⟨r, x', (Text.Utf8.encode written).toArray ++ text, fun stored => ?_⟩
      rw [← Array.append_assoc]
      exact h _

/-- A program that is carried out later writes after what is there. -/
theorem run_of_carryOut {p : Prog Host α} {r : Option α} {x' : Simulated} {k' : Sink}
    (h : Simulated.carryOut none p x = (r, x', k')) (hk : k.limit = none) :
    p.run Simulated.handle (x, k) = (r, (x', ⟨k.stored ++ k'.stored, none⟩)) := by
  obtain ⟨r₁, x₁, text, hall⟩ := run_unlimited p x
  have hempty : (r₁, (x₁, (⟨#[] ++ text, none⟩ : Sink))) = (r, (x', k')) := (hall #[]).symm.trans h
  obtain ⟨rfl, hrest⟩ := Prod.mk.inj hempty
  obtain ⟨rfl, rfl⟩ := Prod.mk.inj hrest
  obtain ⟨stored, limit⟩ := k
  obtain rfl : limit = none := hk
  rw [hall, Array.empty_append]

end Bench
end RadioBench
