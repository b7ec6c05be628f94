/-
Registrations of message handlers.

A registration gives its handler to the driver when it is made, and takes one back when it is
dropped.  The driver has room for a single handler, and a drop takes back the one that is there,
whosever it is.  So the registration that was made last is in force until any registration is
dropped, an older one too, and after that none is.

A driver is looked at as a `Switchboard`, which says no more than that it stores what it is given.
`handler_of_takes` says what one turn makes of the handler, `handler_of_path` follows by
induction, and the simulator and the driver on the native library are the two switchboards.
-/
import RadioBench.Guard.LogScope
import RadioBench.Proofs.Host.Trace
import RadioBench.Proofs.Native.Entries
import RadioBench.Proofs.Simulator.Effect

namespace RadioBench

open Prog

/-- The event sets the handler, or removes it. -/
def Event.Registers (e : Event Host) : Prop := ∃ handler, e.op = .inl (.registerLog handler)

/-- A driver that stores the handler that it is given, whenever it is given one. -/
structure Switchboard (σ : Type) where
  /-- An event may lead from one state to another. -/
  rule : Event Host → σ → σ → Prop
  handler : σ → Option LogHandler
  exists_registers : ∀ x s, ∃ t, rule ⟨.inl (.registerLog x), ()⟩ s t
  handler_of_registers : ∀ {x a s t}, rule ⟨.inl (.registerLog x), a⟩ s t → handler t = x
  handler_of_other : ∀ {e s t}, rule e s t → ¬ e.Registers → handler t = handler s

namespace LogScope

/-- What happens to a driver.  Registrations are numbered as they are made. -/
inductive Turn
  | made (handler : LogHandler)
  | dropped (k : Nat)
  /-- Anything but a registration that somebody makes by hand. -/
  | other (e : Event Host)

def Turn.made? : Turn → Option LogHandler
  | made handler => some handler
  | _ => none

def Turn.dropped? : Turn → Option Nat
  | dropped k => some k
  | _ => none

/-- The handlers of the registrations that were made. -/
def made (turns : List Turn) : List LogHandler := turns.filterMap Turn.made?

/-- The numbers of the registrations that were dropped. -/
def dropped (turns : List Turn) : List Nat := turns.filterMap Turn.dropped?

/-- Only registrations are dropped that were made, when so many were made before. -/
def OnlyMade : Nat → List Turn → Prop
  | _, [] => True
  | n, .made _ :: turns => OnlyMade (n + 1) turns
  | n, .dropped k :: turns => k < n ∧ OnlyMade n turns
  | n, .other _ :: turns => OnlyMade n turns

theorem onlyMade_append {turns turns' : List Turn} {n : Nat} (h : OnlyMade n (turns ++ turns')) :
    OnlyMade (n + (made turns).length) turns' := by
  induction turns generalizing n with
  | nil => exact h
  | cons turn turns ih =>
    cases turn with
    | made handler =>
      have hrest := ih (n := n + 1) h
      rwa [Nat.add_right_comm] at hrest
    | dropped k => exact ih h.2
    | other e => exact ih h

theorem lt_of_onlyMade {turns : List Turn} {n k : Nat} (h : OnlyMade n turns)
    (hmade : made turns = []) (hk : k ∈ dropped turns) : k < n := by
  induction turns with
  | nil => exact absurd hk List.not_mem_nil
  | cons turn turns ih =>
    cases turn with
    | made handler => cases hmade
    | dropped j =>
      rcases List.mem_cons.mp hk with rfl | hk
      · exact h.1
      · exact ih h.2 hmade hk
    | other e => exact ih h hmade hk

/-- The handler after a turn. -/
def Turn.leaves : Turn → Option LogHandler → Option LogHandler
  | made handler, _ => some handler
  | dropped _, _ => none
  | other _, x => x

theorem foldl_leaves {turns : List Turn} (hmade : made turns = []) (x : Option LogHandler) :
    turns.foldl (fun y turn => turn.leaves y) x = if dropped turns = [] then x else none := by
  induction turns generalizing x with
  | nil => rfl
  | cons turn turns ih =>
    cases turn with
    | made handler => cases hmade
    | dropped k =>
      have hdropped : dropped (.dropped k :: turns) ≠ [] := List.cons_ne_nil k _
      rw [List.foldl_cons, ih hmade, if_neg hdropped]
      exact ite_self none
    | other e => exact ih hmade x

end LogScope

namespace Switchboard

open LogScope

variable {σ : Type} {K : Switchboard σ} {s t : σ}

/-- The driver takes a turn: it answers the requests of a registration, or another event. -/
def Takes (K : Switchboard σ) : Turn → σ → σ → Prop
  | .made handler, s, t => ∃ es, (enter handler).Yields es () ∧ Path K.rule s es t
  | .dropped _, s, t => ∃ es, leave.Yields es () ∧ Path K.rule s es t
  | .other e, s, t => ¬ e.Registers ∧ K.rule e s t

/-- Registrations can be made and dropped at any time. -/
theorem exists_path (K : Switchboard σ) {turns : List Turn}
    (hown : ∀ turn ∈ turns, ∀ e, turn ≠ .other e) (s : σ) : ∃ t, Path K.Takes s turns t := by
  induction turns generalizing s with
  | nil => exact ⟨s, .nil s⟩
  | cons turn turns ih =>
    obtain ⟨hturn, hrest⟩ := List.forall_mem_cons.mp hown
    have htakes : ∃ u, K.Takes turn s u := by
      cases turn with
      | made handler =>
        obtain ⟨u, hremoved⟩ := K.exists_registers none s
        obtain ⟨v, hset⟩ := K.exists_registers (some handler) u
        exact ⟨v, _, .ask _ (.ask _ (.done _)), .cons hremoved (.single hset)⟩
      | dropped k =>
        obtain ⟨u, hremoved⟩ := K.exists_registers none s
        exact ⟨u, _, .ask _ (.done _), .single hremoved⟩
      | other e => exact absurd rfl (hturn e)
    obtain ⟨u, htakes⟩ := htakes
    obtain ⟨t, hpath⟩ := ih hrest u
    exact ⟨t, .cons htakes hpath⟩

theorem handler_of_takes {turn : Turn} (h : K.Takes turn s t) :
    K.handler t = turn.leaves (K.handler s) := by
  cases turn with
  | made handler =>
    obtain ⟨es, hes, hpath⟩ := h
    obtain ⟨u, es₁, es₂, rfl, h₁, h₂⟩ := yields_bind_iff.mp hes
    obtain rfl := Host.yields_request_iff.mp h₁
    obtain rfl := Host.yields_request_iff.mp h₂
    obtain ⟨_, -, hlast⟩ := Path.cons_iff.mp hpath
    obtain ⟨_, hset, hend⟩ := Path.cons_iff.mp hlast
    cases hend
    exact K.handler_of_registers hset
  | dropped k =>
    obtain ⟨es, hes, hpath⟩ := h
    obtain rfl := Host.yields_request_iff.mp hes
    obtain ⟨_, hremoved, hend⟩ := Path.cons_iff.mp hpath
    cases hend
    exact K.handler_of_registers hremoved
  | other e => exact K.handler_of_other h.2 h.1

theorem handler_of_path {turns : List Turn} (h : Path K.Takes s turns t) :
    K.handler t = turns.foldl (fun x turn => turn.leaves x) (K.handler s) := by
  induction h with
  | nil => rfl
  | cons hturn _ ih => rw [List.foldl_cons, ← handler_of_takes hturn, ih]

/-- The registration that was made last, and has not been dropped, is in force just when no older
one was dropped since.  Otherwise no handler is left. -/
theorem newest_inForce_iff (K : Switchboard σ) (front rest : List Turn) (handler : LogHandler)
    (hturns : OnlyMade 0 (front ++ .made handler :: rest)) (hnewest : made rest = [])
    (hlive : (made front).length ∉ dropped rest)
    (hpath : Path K.Takes s (front ++ .made handler :: rest) t) :
    (K.handler t = some handler ↔ ∀ k < (made front).length, k ∉ dropped rest) ∧
      (K.handler t = some handler ∨ K.handler t = none) := by
  have hhandler : K.handler t = if dropped rest = [] then some handler else none := by
    rw [handler_of_path hpath, List.foldl_append, List.foldl_cons]
    exact foldl_leaves hnewest _
  have hbelow : ∀ k ∈ dropped rest, k < 0 + (made front).length + 1 :=
    fun k hk => lt_of_onlyMade (onlyMade_append hturns) hnewest hk
  by_cases hnone : dropped rest = []
  · rw [hhandler, if_pos hnone, hnone]
    exact ⟨⟨fun _ k _ => List.not_mem_nil, fun _ => rfl⟩, .inl rfl⟩
  · rw [hhandler, if_neg hnone]
    refine ⟨⟨nofun, fun holder => ?_⟩, .inr rfl⟩
    -- whatever was dropped is older, as it is not the newest one
    obtain ⟨k, hk⟩ := List.exists_mem_of_ne_nil _ hnone
    have hne : k ≠ (made front).length := fun heq => hlive (heq ▸ hk)
    have hlt := hbelow k hk
    exact absurd hk (holder k (by omega))

end Switchboard

/-! ## The simulator -/

namespace Simulator

variable {s t : State}

theorem handler_of_effect {r : Request} {a : r.Answer} (h : Effect s (.served r a) t)
    (hother : ∀ x, r ≠ .registerLog x) : t.handler = s.handler := by
  cases h with
  | quiet _ ht => exact ht.unaltered.handler
  | registered x => exact absurd rfl (hother x)
  | _ => rfl

/-- The simulator stores the handler. -/
def switchboard : Switchboard State where
  rule := Runs
  handler := State.handler
  exists_registers _ _ := ⟨_, rfl⟩
  handler_of_registers h := by
    cases h
    rfl
  handler_of_other {e s t} h hother := by
    match e with
    | ⟨.inl r, a⟩ =>
      exact handler_of_effect (effect_perform h) fun x hx => hother ⟨x, congrArg Sum.inl hx⟩
    | ⟨.inr .now, _⟩ => exact congrArg State.handler h
    | ⟨.inr (.note entry), _⟩ =>
      have ht : t = s.note entry := h
      rw [ht]
      rfl
    | ⟨.inr (.write _), _⟩ => exact congrArg State.handler h

end Simulator

/-! ## The driver on the native library -/

namespace Native
namespace Binding

/-- The driver stores the handler, whatever the library replies. -/
def switchboard : Switchboard Binding where
  rule := Answers
  handler := Binding.handler
  exists_registers x b := by
    have hset : (b.perform (.registerLog x)).Yields
        [Call.event (.registerLogHandler x.isSome) ⟨0, (), []⟩] ((), { b with handler := x }) := by
      cases x with
      | none => exact .ask _ (.done _)
      | some handler => exact .ask _ (.done _)
    exact ⟨_, _, hset⟩
  handler_of_registers {x a b b'} h := by
    obtain ⟨ms, hms⟩ := h
    obtain ⟨c, ms₁, ms₂, rfl, h₁, h₂⟩ := yields_bind_iff.mp hms
    obtain ⟨-, -, rfl⟩ := yields_pair_iff.mp h₂
    rw [(of_yields_registerLog h₁).1]
  handler_of_other {e b b'} h hother := by
    obtain ⟨ms, hms⟩ := h
    match e with
    | ⟨.inl r, a⟩ =>
      exact handler_of_perform hms fun x hx => hother ⟨x, congrArg Sum.inl hx⟩
    | ⟨.inr o, a⟩ =>
      obtain ⟨-, rfl⟩ := yields_keeping_iff.mp hms
      rfl

end Binding
end Native

/-! ## Overlapping registrations -/

namespace LogScope

/-- A second registration is made, and then the first is dropped. -/
def overlapping : List Turn := [.made (.client 1), .made (.client 2), .dropped 0]

/-- The second registration is dropped before the third is made, and the first is kept. -/
def nested : List Turn := [.made (.client 1), .made .forward, .dropped 1, .made (.client 2)]

/-- The simulator and the driver on the native library lose the handler of a registration that
lives on, when an older one is dropped.  Where only newer ones are, a handler stays. -/
theorem overlapping_not_inForce :
    (∃ t, Path Simulator.switchboard.Takes (.start ["sim"]) overlapping t ∧ t.handler = none) ∧
    (∃ b, Path Native.Binding.switchboard.Takes .fresh overlapping b ∧ b.handler = none) ∧
    ∃ t, Path Simulator.switchboard.Takes (.start ["sim"]) nested t ∧
      t.handler = some (.client 2) := by
  have hlost {σ : Type} (K : Switchboard σ) (s : σ) :
      ∃ t, Path K.Takes s overlapping t ∧ K.handler t = none := by
    have hown : ∀ turn ∈ overlapping, ∀ e, turn ≠ .other e := by simp [overlapping]
    obtain ⟨t, hpath⟩ := K.exists_path hown s
    obtain ⟨hiff, hleft⟩ := K.newest_inForce_iff [.made (.client 1)] [.dropped 0] (.client 2)
      ⟨by decide, trivial⟩ rfl (by decide) hpath
    refine ⟨t, hpath, hleft.resolve_left fun hforce => ?_⟩
    exact hiff.mp hforce 0 (by decide) (by decide)
  have hown : ∀ turn ∈ nested, ∀ e, turn ≠ .other e := by simp [nested]
  obtain ⟨t, hpath⟩ := Simulator.switchboard.exists_path hown (.start ["sim"])
  obtain ⟨hiff, -⟩ := Simulator.switchboard.newest_inForce_iff
    [.made (.client 1), .made .forward, .dropped 1] [] (.client 2) ⟨by decide, trivial⟩ rfl
    (by decide) hpath
  exact ⟨hlost _ _, hlost _ _, t, hpath, hiff.mpr fun k _ => List.not_mem_nil⟩

end LogScope
end RadioBench
