/-
What passes between the driver and the native library.

Four functions of the library move the ownership of a device or a stream.  An action
that is `Quiet` calls none of them; all but four requests are carried out by quiet
actions, and none of these changes the driver's tables.

More generally an action `Makes` events that together have some property when its own calls do,
since what surrounds a call is always the same: messages that are passed on, and the query
for the last error when the call failed.  Any property will do that is `Chained`, and `Only`
is the case of one that each event has by itself.  What comes out of a single call is then a
matter of its return code, and `Asked` says how.
-/
import RadioBench.Native.Binding
import RadioBench.Proofs.Prog.Except
import RadioBench.Proofs.Prog.Exhausts

namespace RadioBench
namespace Native

open Prog

/-- Ownership that moves.  A stream is known by the serial number of its block. -/
inductive Transfer
  | opened (d : DeviceRef)
  | setUp (d : DeviceRef) (serial : Nat)
  | destroyed (d : DeviceRef) (serial : Nat)
  | closed (d : DeviceRef)
  deriving DecidableEq, Repr

/-- The transfer of an event.  A device or a stream comes with a call that succeeds, and
goes with a call whatever it returns. -/
def transfer? : Event Machine → Option Transfer
  | ⟨.inl (.openDevice _), a⟩ =>
    if a.code = 0 then some (.opened (Option.getD a.out .null)) else none
  | ⟨.inl (.setupStream d block _), a⟩ =>
    if a.code = 0 then some (.setUp d block.serial) else none
  | ⟨.inl (.destroyStream d block), _⟩ => some (.destroyed d block.serial)
  | ⟨.inl (.closeDevice d), _⟩ => some (.closed d)
  | _ => none

def transfers (ms : List (Event Machine)) : List Transfer := ms.filterMap transfer?

/-- The handlers that were registered, `false` for none. -/
def registration? : Event Machine → Option Bool
  | ⟨.inl (.registerLogHandler on), _⟩ => some on
  | _ => none

def registrations (ms : List (Event Machine)) : List Bool := ms.filterMap registration?

@[simp]
theorem transfers_nil : transfers [] = [] := rfl

@[simp]
theorem transfers_cons (ev : Event Machine) (ms : List (Event Machine)) :
    transfers (ev :: ms) = (transfer? ev).toList ++ transfers ms := by
  cases h : transfer? ev <;> simp [transfers, h]

@[simp]
theorem transfers_append (ms ms' : List (Event Machine)) :
    transfers (ms ++ ms') = transfers ms ++ transfers ms' := List.filterMap_append

@[simp]
theorem registrations_cons (ev : Event Machine) (ms : List (Event Machine)) :
    registrations (ev :: ms) = (registration? ev).toList ++ registrations ms := by
  cases h : registration? ev <;> simp [registrations, h]

@[simp]
theorem registrations_append (ms ms' : List (Event Machine)) :
    registrations (ms ++ ms') = registrations ms ++ registrations ms' := List.filterMap_append

/-! ## Messages that are passed on -/

/-- The levels of the library's messages by their codes. -/
def levelOf : Int → LogLevel
  | 0 => .critical
  | 1 => .error
  | 2 => .warning
  | 3 => .info
  | _ => .debug

theorem ofCode_eq_levelOf (n : Int) : LogLevel.ofCode n = levelOf n := by
  unfold levelOf
  split
  · rfl
  · rfl
  · rfl
  · rfl
  · next h₀ h₁ h₂ h₃ =>
    rw [LogLevel.ofCode, if_neg h₀, if_neg h₁, if_neg h₂, if_neg h₃]

/-- The entry that a message leaves with a handler: its level, and its text up to the first zero
byte, with what is no UTF-8 replaced.  A message without a text leaves none. -/
def heard : Option LogHandler → Message → Option Entry
  | some handler, ⟨level, some bytes⟩ =>
    some (handler.deliver (levelOf level) (Text.Utf8.lossy (bytes.takeWhile (· ≠ 0))))
  | _, _ => none

/-- An entry is made in the journal. -/
def noteOf (e : Entry) : Event Machine := ⟨.inr (.note e), ()⟩

/-- Nothing but entries in the journal. -/
def Passed (ms : List (Event Machine)) : Prop := ∀ ev ∈ ms, ∃ e, ev = ⟨.inr (.note e), ()⟩

namespace Passed

variable {ms : List (Event Machine)}

theorem nil : Passed [] := by simp [Passed]

theorem single (e : Entry) : Passed [⟨.inr (.note e), ()⟩] := by
  intro ev hev
  exact ⟨e, List.mem_singleton.mp hev⟩

theorem transfers (h : Passed ms) : transfers ms = [] := by
  rw [Native.transfers, List.filterMap_eq_nil_iff]
  intro ev hev
  obtain ⟨e, rfl⟩ := h ev hev
  rfl

theorem registrations (h : Passed ms) : registrations ms = [] := by
  rw [Native.registrations, List.filterMap_eq_nil_iff]
  intro ev hev
  obtain ⟨e, rfl⟩ := h ev hev
  rfl

end Passed

theorem passed_notes (es : List Entry) : Passed (es.map noteOf) := by
  intro ev hev
  obtain ⟨e, -, rfl⟩ := List.mem_map.mp hev
  exact ⟨e, rfl⟩

/-! ## Programs whose events have a property -/

/-- Whatever the library replies, the program ends, and its events together have the property. -/
structure Makes {α : Type} (P : List (Event Machine) → Prop) (p : Prog Machine α) : Prop where
  events : ∀ ms a, p.Yields ms a → P ms
  ends : ∀ ms, ¬ p.Exhausts ms

/-- Whatever the library replies, the program ends, and every event of it has the
property. -/
abbrev Only {α : Type} (R : Event Machine → Prop) (p : Prog Machine α) : Prop :=
  Makes (fun ms => ∀ ev ∈ ms, R ev) p

/-- No events have the property, and events in a row have it when their parts do. -/
structure Chained (P : List (Event Machine) → Prop) : Prop where
  nil : P []
  append : ∀ {ms ms' : List (Event Machine)}, P ms → P ms' → P (ms ++ ms')

theorem chained_forall (R : Event Machine → Prop) : Chained fun ms => ∀ ev ∈ ms, R ev where
  nil _ hev := absurd hev List.not_mem_nil
  append h h' := List.forall_mem_append.mpr ⟨h, h'⟩

theorem makes_op {P : List (Event Machine) → Prop} {o : Machine.Op} (ho : ∀ r, P [⟨o, r⟩]) :
    Makes P (op o) where
  events ms r h := by
    obtain rfl := yields_op_iff.mp h
    exact ho r
  ends _ := not_exhausts_op

namespace Chained

variable {α β : Type} {P : List (Event Machine) → Prop}

theorem pure (hP : Chained P) (a : α) : Makes P (pure a) where
  events ms x h := by
    obtain ⟨rfl, -⟩ := yields_done_iff.mp h
    exact hP.nil
  ends _ := not_exhausts_done

theorem bind {p : Prog Machine α} {f : α → Prog Machine β} (hP : Chained P) (hp : Makes P p)
    (hf : ∀ a, Makes P (f a)) : Makes P (p >>= f) where
  events ms b h := by
    obtain ⟨a, ms₁, ms₂, rfl, h₁, h₂⟩ := yields_bind_iff.mp h
    exact hP.append (hp.events _ _ h₁) ((hf a).events _ _ h₂)
  ends ms h := by
    rcases exhausts_bind_iff.mp h with h | ⟨a, ms₁, ms₂, rfl, -, h⟩
    · exact hp.ends _ h
    · exact (hf a).ends _ h

theorem forM {ι : Type} {l : List ι} {f : ι → Prog Machine PUnit} (hP : Chained P)
    (h : ∀ x ∈ l, Makes P (f x)) : Makes P (l.forM f) := by
  induction l with
  | nil => exact hP.pure _
  | cons x l ih =>
    obtain ⟨hx, hl⟩ := List.forall_mem_cons.mp h
    exact hP.bind hx fun _ => ih hl

theorem bindAction {p : Action α} {f : α → Action β} (hP : Chained P) (hp : Makes P p.run)
    (hf : ∀ a, Makes P (f a).run) : Makes P (p >>= f).run where
  events ms b h := by
    rcases yields_run_bind_iff.mp h with ⟨a, ms₁, ms₂, rfl, h₁, h₂⟩ | ⟨e, -, he⟩
    · exact hP.append (hp.events _ _ h₁) ((hf a).events _ _ h₂)
    · exact hp.events _ _ he
  ends ms h := by
    rcases exhausts_run_bind_iff.mp h with h | ⟨a, ms₁, ms₂, rfl, -, h⟩
    · exact hp.ends _ h
    · exact (hf a).ends _ h

theorem pureAction (hP : Chained P) (a : α) : Makes P (Pure.pure a : Action α).run :=
  hP.pure (Except.ok a)

theorem throwAction (hP : Chained P) (e : Error) : Makes P (throw e : Action α).run :=
  hP.pure (Except.error e)

end Chained

theorem makes_iteAction {α : Type} {P : List (Event Machine) → Prop} {c : Prop} [Decidable c]
    {p q : Action α} (hp : Makes P p.run) (hq : Makes P q.run) :
    Makes P (if c then p else q).run := by
  split
  · exact hp
  · exact hq

/-- What surrounds a call: messages that are passed on, and the query for the last error. -/
inductive Aside : Event Machine → Prop
  | note (e : Entry) : Aside ⟨.inr (.note e), ()⟩
  | query (a : Reply (Option (List UInt8))) : Aside ⟨.inl .getLastErrorMessage, a⟩

theorem Aside.transfer? {ev : Event Machine} (h : Aside ev) : transfer? ev = none := by
  cases h <;> rfl

theorem Passed.aside {ms : List (Event Machine)} (h : Passed ms) : ∀ ev ∈ ms, Aside ev := by
  intro ev hev
  obtain ⟨e, rfl⟩ := h ev hev
  exact .note e

theorem transfers_eq_nil {ms : List (Event Machine)} (h : ∀ ev ∈ ms, transfer? ev = none) :
    transfers ms = [] := List.filterMap_eq_nil_iff.mpr h

theorem transfers_aside {ms : List (Event Machine)} (h : ∀ ev ∈ ms, Aside ev) :
    transfers ms = [] := transfers_eq_nil fun ev hev => (h ev hev).transfer?

/-- The program moves no ownership, whatever the library replies. -/
def Quiet {α : Type} (p : Prog Machine α) : Prop := ∀ ms a, p.Yields ms a → transfers ms = []

theorem Quiet.of_only {α : Type} {p : Prog Machine α}
    (h : Only (fun ev => transfer? ev = none) p) : Quiet p :=
  fun ms a hes => transfers_eq_nil (h.events ms a hes)

/-- What passes when the library is called. -/
def Call.event (c : Call) (a : Reply c.Out) : Event Machine := ⟨.inl c, a⟩

/-- The call registers no handler and removes none. -/
def Call.Ordinary (c : Call) : Prop := ∀ on, c ≠ .registerLogHandler on

/-- How it comes out that the library is asked once: which return codes mean success, and what is
made of a reply with such a code.  Any other code is a failure, and then the library is asked for
its last error message, which is the text of the failure. -/
inductive Asked {Out α : Type} (operation : String) (event : Reply Out → Event Machine)
    (good : Int → Prop) (value : Reply Out → α) : List (Event Machine) → Except Error α → Prop
  | succeeded (a : Reply Out) {notes : List (Event Machine)} (hcode : good a.code)
      (hnotes : Passed notes) :
      Asked operation event good value (event a :: notes) (.ok (value a))
  | failed (a : Reply Out) (last : Reply (Option (List UInt8)))
      {notes notes' : List (Event Machine)} (hcode : ¬ good a.code) (hnotes : Passed notes)
      (hnotes' : Passed notes') :
      Asked operation event good value
        (event a :: (notes ++ Call.getLastErrorMessage.event last :: notes'))
        (.error (.failed operation (Text.CString.read? last.out)))

theorem Asked.aside {α : Type} {operation : String} {c : Call} {good : Int → Prop}
    {value : Reply c.Out → α} {ms : List (Event Machine)} {x : Except Error α}
    (h : Asked operation c.event good value ms x) :
    ∃ a : Reply c.Out, ∃ rest, ms = ⟨.inl c, a⟩ :: rest ∧ (∀ ev ∈ rest, Aside ev) ∧
      ((good a.code ∧ x = .ok (value a)) ∨
        (¬ good a.code ∧ ∃ message, x = .error (.failed operation message))) := by
  cases h with
  | succeeded a hcode hnotes => exact ⟨a, _, rfl, hnotes.aside, .inl ⟨hcode, rfl⟩⟩
  | failed a last hcode hnotes hnotes' =>
    have hquery := List.forall_mem_cons.mpr ⟨Aside.query last, hnotes'.aside⟩
    exact ⟨a, _, rfl, List.forall_mem_append.mpr ⟨hnotes.aside, hquery⟩, .inr ⟨hcode, _, rfl⟩⟩

/-! ## Calls -/

namespace Binding

variable {b : Binding} {ms : List (Event Machine)}

theorem events_of_deliver {m : Message} {u : Unit} (h : (b.deliver m).Yields ms u) :
    ms = (heard b.handler m).toList.map noteOf := by
  obtain ⟨code, bytes⟩ := m
  rw [deliver] at h
  cases hhandler : b.handler with
  | none =>
    rw [hhandler] at h
    exact (yields_done_iff.mp h).1
  | some handler =>
    rw [hhandler] at h
    cases bytes with
    | none => exact (yields_done_iff.mp h).1
    | some bytes =>
      obtain rfl := (yields_op_iff (S := Machine) (o := .inr (.note _))).mp h
      rw [ofCode_eq_levelOf]
      rfl

theorem events_of_forM_deliver {messages : List Message} {u : PUnit}
    (h : (messages.forM b.deliver).Yields ms u) :
    ms = (messages.filterMap (heard b.handler)).map noteOf := by
  induction messages generalizing ms with
  | nil => exact (yields_done_iff.mp h).1
  | cons m messages ih =>
    obtain ⟨v, ms₁, ms₂, rfl, h₁, h₂⟩ := yields_bind_iff.mp h
    rw [events_of_deliver h₁, ih h₂]
    cases hheard : heard b.handler m with
    | none => rw [List.filterMap_cons_none hheard]; rfl
    | some e => rw [List.filterMap_cons_some hheard]; rfl

/-- A call, and then what is heard of the messages that came with the reply. -/
theorem events_of_call {c : Call} {a : Reply c.Out} (h : (b.call c).Yields ms a) :
    ms = c.event a :: (a.messages.filterMap (heard b.handler)).map noteOf := by
  obtain ⟨r, ms₁, ms₂, rfl, h₁, h₂⟩ := yields_bind_iff.mp h
  obtain rfl := (yields_op_iff (S := Machine) (o := .inl c)).mp h₁
  obtain ⟨u, ms₃, ms₄, rfl, h₃, h₄⟩ := yields_bind_iff.mp h₂
  obtain ⟨rfl, rfl⟩ := yields_done_iff.mp h₄
  rw [events_of_forM_deliver h₃, List.append_nil]
  rfl

theorem of_yields_call {c : Call} {a : Reply c.Out} (h : (b.call c).Yields ms a) :
    ∃ rest, ms = ⟨.inl c, a⟩ :: rest ∧ Passed rest := ⟨_, events_of_call h, passed_notes _⟩

theorem of_yields_query {operation : String} {e : Error}
    (h : (b.failure operation).Yields ms e) :
    ∃ last : Reply (Option (List UInt8)), ∃ notes, ms = ⟨.inl .getLastErrorMessage, last⟩ :: notes ∧
      Passed notes ∧ e = .failed operation (Text.CString.read? last.out) := by
  obtain ⟨last, ms₁, ms₂, rfl, h₁, h₂⟩ := yields_bind_iff.mp h
  obtain ⟨notes, rfl, hnotes⟩ := of_yields_call h₁
  obtain ⟨rfl, rfl⟩ := yields_done_iff.mp h₂
  exact ⟨last, notes, by simp, hnotes, rfl⟩

theorem of_yields_failure {operation : String} {e : Error}
    (h : (b.failure operation).Yields ms e) :
    (∀ ev ∈ ms, Aside ev) ∧ ∃ message, e = .failed operation message := by
  obtain ⟨last, notes, rfl, hnotes, rfl⟩ := of_yields_query h
  exact ⟨List.forall_mem_cons.mpr ⟨.query last, hnotes.aside⟩, _, rfl⟩

/-- A reply is weighed by its code, and a bad one is followed by the query. -/
theorem asked_of_ite {α : Type} {operation : String} {c : Call} {good : Int → Prop}
    [DecidablePred good] {value : Reply c.Out → α} {x : Except Error α}
    (h : (b.call c >>= fun a => if good a.code then pure (.ok (value a)) else
      b.failure operation >>= fun e => pure (.error e)).Yields ms x) :
    Asked operation c.event good value ms x := by
  obtain ⟨a, ms₁, ms₂, rfl, h₁, h₂⟩ := yields_bind_iff.mp h
  obtain ⟨notes, rfl, hnotes⟩ := of_yields_call h₁
  by_cases hcode : good a.code
  · rw [if_pos hcode] at h₂
    obtain ⟨rfl, rfl⟩ := yields_done_iff.mp h₂
    rw [List.append_nil]
    exact .succeeded a hcode hnotes
  · rw [if_neg hcode] at h₂
    obtain ⟨e, ms₃, ms₄, rfl, h₃, h₄⟩ := yields_bind_iff.mp h₂
    obtain ⟨rfl, rfl⟩ := yields_done_iff.mp h₄
    obtain ⟨last, notes', rfl, hnotes', rfl⟩ := of_yields_query h₃
    rw [List.append_nil, List.cons_append]
    exact .failed a last hcode hnotes hnotes'

theorem asked_succeed {operation : String} {c : Call} {x : Except Error c.Out}
    (h : (b.succeed operation c).run.Yields ms x) :
    Asked operation c.event (· = 0) (fun a => a.out) ms x := asked_of_ite h

theorem asked_counting {operation : String} {c : Call} {x : Except Error (Nat × c.Out)}
    (h : (b.counting operation c).run.Yields ms x) :
    Asked operation c.event (0 ≤ ·) (fun a => (a.code.toNat, a.out)) ms x := by
  refine asked_of_ite (b := b) ?_
  simp only [← Int.not_lt, ite_not]
  exact h

theorem of_yields_succeed {operation : String} {c : Call} {x : Except Error c.Out}
    (h : (b.succeed operation c).run.Yields ms x) :
    ∃ a : Reply c.Out, ∃ rest, ms = ⟨.inl c, a⟩ :: rest ∧ (∀ ev ∈ rest, Aside ev) ∧
      ((a.code = 0 ∧ x = .ok a.out) ∨
        (a.code ≠ 0 ∧ ∃ message, x = .error (.failed operation message))) :=
  (asked_succeed h).aside

/-- What an action comes to makes no difference. -/
theorem of_yields_warnOf {p : Action Unit} {source : String} {u : Unit}
    (h : (warnOf source p).Yields ms u) :
    ∃ r ms₁ ms₂, ms = ms₁ ++ ms₂ ∧ p.run.Yields ms₁ r ∧ Passed ms₂ := by
  obtain ⟨r, ms₁, ms₂, rfl, h₁, h₂⟩ := yields_bind_iff.mp h
  refine ⟨r, ms₁, ms₂, rfl, h₁, ?_⟩
  cases r with
  | ok =>
    obtain ⟨rfl, -⟩ := yields_done_iff.mp h₂
    exact .nil
  | error e =>
    obtain rfl := (yields_op_iff (S := Machine) (o := .inr (.note _))).mp h₂
    exact .single _

section Only

variable {R : Event Machine → Prop} (hR : ∀ ev, Aside ev → R ev)
include hR

theorem only_deliver (m : Message) : Only R (b.deliver m) := by
  rw [deliver]
  cases b.handler with
  | none => exact (chained_forall R).pure _
  | some handler =>
    cases m.text with
    | none => exact (chained_forall R).pure _
    | some bytes => exact makes_op fun _ => List.forall_mem_singleton.mpr (hR _ (.note _))

theorem only_call {c : Call} (hc : ∀ a, R ⟨.inl c, a⟩) : Only R (b.call c) := by
  have hR' := chained_forall R
  refine hR'.bind (makes_op fun a => List.forall_mem_singleton.mpr (hc a)) fun a => ?_
  exact hR'.bind (hR'.forM fun m _ => only_deliver hR m) fun _ => hR'.pure a

end Only

/-- What surrounds the calls of a driver with the handler has the property: the query for the last
error, and the lines that tell of failures. -/
structure Around (handler : Option LogHandler) (P : List (Event Machine) → Prop) : Prop
    extends Chained P where
  query : ∀ b : Binding, b.handler = handler → Makes P (b.call .getLastErrorMessage)
  warn : ∀ text, P [⟨.inr (.note (.warn text)), ()⟩]

theorem around_forall {R : Event Machine → Prop} (hR : ∀ ev, Aside ev → R ev)
    (handler : Option LogHandler) : Around handler fun ms => ∀ ev ∈ ms, R ev where
  toChained := chained_forall R
  query _ _ := only_call hR fun a => hR _ (.query a)
  warn _ := List.forall_mem_singleton.mpr (hR _ (.note _))

section Makes

variable {P : List (Event Machine) → Prop}

theorem makes_keep {α : Type} {p : Action α} (hP : Chained P) (hp : Makes P p.run) :
    Makes P (b.keep p) := hP.bind hp fun _ => hP.pure _

theorem makes_commit {α β : Type} {p : Action α} {f : α → β × Binding} (hP : Chained P)
    (hp : Makes P p.run) : Makes P (b.commit p f) := by
  refine hP.bind hp fun r => ?_
  cases r with
  | ok a => exact hP.pure _
  | error e => exact hP.pure _

theorem makes_path (hP : Chained P) (p : PathName) : Makes P (path p).run := by
  rw [path]
  split
  · exact hP.pureAction _
  · exact hP.throwAction _

theorem makes_checkedNames {operation : String} {width room count : Nat}
    {entries : List (List UInt8)} (hP : Chained P) :
    Makes P (checkedNames operation width room count entries).run :=
  makes_iteAction (hP.throwAction _) (hP.pureAction _)

theorem makes_warnOf {p : Action Unit} {handler : Option LogHandler} (hP : Around handler P)
    (hp : Makes P p.run) (source : String) : Makes P (warnOf source p) := by
  refine hP.bind hp fun r => ?_
  cases r with
  | ok => exact hP.pure _
  | error e => exact makes_op fun _ => hP.warn _

variable (hP : Around b.handler P)
include hP

theorem makes_failure (operation : String) : Makes P (b.failure operation) :=
  hP.bind (hP.query b rfl) fun _ => hP.pure _

theorem makes_succeed {c : Call} (hc : Makes P (b.call c)) (operation : String) :
    Makes P (b.succeed operation c).run := by
  refine hP.bind hc fun a => ?_
  split
  · exact hP.pure _
  · exact hP.bind (makes_failure hP _) fun _ => hP.pure _

theorem makes_counting {c : Call} (hc : Makes P (b.call c)) (operation : String) :
    Makes P (b.counting operation c).run := by
  refine hP.bind hc fun a => ?_
  split
  · exact hP.bind (makes_failure hP _) fun _ => hP.pure _
  · exact hP.pure _

theorem makes_deviceList (hc : ∀ room, Makes P (b.call (.getDeviceList room))) :
    Makes P b.deviceList.run := by
  refine hP.bindAction (makes_counting hP (hc _) _) fun n => makes_iteAction (hP.pureAction _) ?_
  exact hP.bindAction (makes_counting hP (hc _) _) fun _ => makes_checkedNames hP.toChained

/-! The calls on a device name the one that is in the table. -/

theorem makes_withDevice {α : Type} {h : DeviceHandle} {f : DeviceRef → Action α}
    (hf : ∀ d, b.devices.get? h.index = some d → Makes P (f d).run) :
    Makes P (b.device h >>= f).run := by
  rw [device]
  cases hd : b.devices.get? h.index with
  | some d => exact hf d hd
  | none => exact hP.throwAction _

theorem makes_withStream {α : Type} {n : StreamHandle} {f : StreamSlot → Action α}
    (hf : ∀ slot, Makes P (f slot).run) : Makes P (b.stream n >>= f).run := by
  rw [stream]
  cases b.streams.get? n.index with
  | some slot => exact hf slot
  | none => exact hP.throwAction _

variable {h : DeviceHandle}

theorem makes_deviceCall (hc : ∀ d, b.devices.get? h.index = some d → ∀ f,
    Makes P (b.call (.device d f))) (c : DeviceCall) : Makes P (b.deviceCall h c).run := by
  have hcall (operation : String) (f : DeviceFunction) :
      Makes P (b.device h >>= fun d => b.succeed operation (.device d f)).run :=
    makes_withDevice hP fun d hd => makes_succeed hP (hc d hd f) operation
  cases c with
  | init => exact hcall _ _
  | reset => exact hcall _ _
  | numChannels dir =>
    refine makes_withDevice hP fun d hd => ?_
    exact hP.bindAction (makes_counting hP (hc d hd _) _) fun _ => hP.pureAction _
  | loadConfig p => exact hP.bindAction (makes_path hP.toChained p) fun _ => hcall _ _
  | saveConfig p => exact hP.bindAction (makes_path hP.toChained p) fun _ => hcall _ _
  | setSampleRate rate oversample => exact hcall _ _
  | setSampleRateDir dir rate oversample => exact hcall _ _
  | lpfBwRange dir =>
    refine makes_withDevice hP fun d hd => ?_
    exact hP.bindAction (makes_succeed hP (hc d hd _) _) fun _ => hP.pureAction _
  | vctcxoWrite value => exact hcall _ _
  | vctcxoRead =>
    refine makes_withDevice hP fun d hd => ?_
    exact hP.bindAction (makes_succeed hP (hc d hd _) _) fun _ => hP.pureAction _

theorem makes_channelCall {ch : ChannelId} (hc : ∀ d, b.devices.get? h.index = some d → ∀ f,
    Makes P (b.call (.channel d ch.direction.isTx ch.index f))) (c : ChannelCall) :
    Makes P (b.channelCall h ch c).run := by
  have hcall (operation : String) (f : ChannelFunction) :
      Makes P (b.onChannel operation h ch f).run :=
    makes_withDevice hP fun d hd => makes_succeed hP (hc d hd f) operation
  have hindex (operation : String) (f : ChannelFunction) :
      Makes P (b.indexOnChannel operation h ch f).run :=
    makes_withDevice hP fun d hd =>
      hP.bindAction (makes_counting hP (hc d hd f) operation) fun _ => hP.pureAction _
  cases c with
  | antennaList =>
    refine makes_withDevice hP fun d hd => ?_
    refine hP.bindAction (makes_counting hP (hc d hd _) _) fun n => ?_
    refine makes_iteAction (hP.pureAction _) ?_
    exact hP.bindAction (makes_counting hP (hc d hd _) _) fun _ => makes_checkedNames hP.toChained
  | setNcoIndex index downconvert => exact makes_iteAction (hP.throwAction _) (hcall _ _)
  | _ => first
    | exact hcall _ _
    | exact hindex _ _
    | exact hP.bindAction (hcall _ _) fun _ => hP.pureAction _

/-! The calls on a stream name its block alone. -/

variable (hc : ∀ block f, Makes P (b.call (.stream block f)))
include hc

theorem makes_onStream (n : StreamHandle) (operation : String) (f : StreamFunction) :
    Makes P (b.stream n >>= fun slot => b.succeed operation (.stream slot.block f)).run :=
  makes_withStream hP fun slot => makes_succeed hP (hc slot.block f) operation

theorem makes_recvStream (n : StreamHandle) (buffer : SampleBuffer) (info : Option StreamMeta)
    (timeout : Duration) : Makes P (b.recvStream n buffer info timeout) := by
  rw [recvStream]
  dsimp only
  split
  · exact hP.pure _
  · split
    · exact hP.pure _
    · refine hP.bind (hc _ _) fun a => ?_
      split
      · exact hP.bind (makes_failure hP _) fun _ => hP.pure _
      · exact hP.pure _

theorem makes_sendStream (n : StreamHandle) (buffer : SampleBuffer) (count : Nat)
    (info : Option StreamMeta) (timeout : Duration) :
    Makes P (b.sendStream n buffer count info timeout).run := by
  refine makes_withStream hP fun slot => ?_
  refine makes_iteAction (hP.bindAction (hP.throwAction _) fun _ => ?_) ?_
  · exact hP.bindAction (makes_counting hP (hc _ _) _) fun _ => hP.pureAction _
  · exact hP.bindAction (makes_counting hP (hc _ _) _) fun _ => hP.pureAction _

theorem makes_streamStatus (n : StreamHandle) : Makes P (b.streamStatus n).run :=
  makes_withStream hP fun _ =>
    hP.bindAction (makes_succeed hP (hc _ _) _) fun _ => hP.pureAction _

theorem makes_releaseStream {i : Nat} {slot : StreamSlot}
    (hd : ∀ d, b.devices.get? slot.device.index = some d →
      Makes P (b.call (.destroyStream d slot.block))) : Makes P (b.releaseStream i slot) := by
  rw [releaseStream]
  split
  · exact hP.pure _
  next d hdevice =>
    have hstop := makes_succeed hP (hc slot.block .stop) "stop_stream"
    have hdestroy := makes_succeed hP (hd d hdevice) "destroy_stream"
    dsimp only
    split
    · exact hP.bind (makes_warnOf hP hstop _) fun _ => makes_warnOf hP hdestroy _
    · exact makes_warnOf hP hdestroy _

end Makes

/-! What holds of every call but the registrations, and of what surrounds it, holds of the events
of every other request.  Nothing that the driver does fails to end. -/

section Every

variable {P : List (Event Machine) → Prop} (hP : Around b.handler P)
  (hc : ∀ b' : Binding, b'.handler = b.handler → ∀ c, Call.Ordinary c → Makes P (b'.call c))
include hP hc

theorem makes_openDevice (info : String) : Makes P (b.openDevice info) := by
  rw [openDevice]
  split
  · exact hP.pure _
  · exact makes_commit hP.toChained (makes_succeed hP (hc b rfl _ (by nofun)) _)

theorem makes_closeDevice (h : DeviceHandle) : Makes P (b.closeDevice h) := by
  rw [closeDevice]
  split
  · exact hP.pure _
  · refine makes_keep hP.toChained (makes_succeed ?_ ?_ _)
    · exact hP
    · exact hc _ rfl _ nofun

theorem makes_setupStream (h : DeviceHandle) (config : StreamConfig) :
    Makes P (b.setupStream h config) := by
  rw [setupStream]
  split
  · exact hP.pure _
  · refine makes_commit hP.toChained (makes_succeed ?_ ?_ _)
    · exact hP
    · exact hc _ rfl _ nofun

theorem makes_destroyStream (h : DeviceHandle) (n : StreamHandle) :
    Makes P (b.destroyStream h n) := by
  rw [destroyStream]
  split
  · exact hP.pure _
  · split
    · exact hP.pure _
    · refine makes_keep hP.toChained (makes_succeed ?_ ?_ _)
      · exact hP
      · exact hc _ rfl _ nofun

theorem makes_running {n : StreamHandle} {running : Bool} {operation : String}
    {f : StreamFunction} {g : f.Out → Unit} :
    Makes P (b.commit (do b.succeed operation (.stream (← b.stream n).block f)) fun a =>
      (g a, b.setRunning n running)) :=
  makes_commit hP.toChained (makes_onStream hP (fun _ _ => hc b rfl _ (by nofun)) n operation f)

theorem makes_perform {request : Request} (hr : ∀ handler, request ≠ .registerLog handler) :
    Makes P (b.perform request) := by
  have hstream (block : StreamBlock) (f : StreamFunction) : Makes P (b.call (.stream block f)) :=
    hc b rfl _ (by nofun)
  cases request with
  | libraryVersion => exact hP.bind (hc b rfl _ (by nofun)) fun _ => hP.pure _
  | registerLog handler => exact absurd rfl (hr handler)
  | deviceList => exact makes_keep hP.toChained (makes_deviceList hP fun _ => hc b rfl _ (by nofun))
  | openDevice info => exact makes_openDevice hP hc info
  | closeDevice h => exact makes_closeDevice hP hc h
  | device h call =>
    exact makes_keep hP.toChained (makes_deviceCall hP (fun _ _ _ => hc b rfl _ (by nofun)) call)
  | channel h ch call =>
    exact makes_keep hP.toChained (makes_channelCall hP (fun _ _ _ => hc b rfl _ (by nofun)) call)
  | setupStream h config => exact makes_setupStream hP hc h config
  | destroyStream h n => exact makes_destroyStream hP hc h n
  | startStream n => exact makes_running hP hc
  | stopStream n => exact makes_running hP hc
  | recvStream n buffer info timeout =>
    exact hP.bind (makes_recvStream hP hstream n buffer info timeout) fun _ => hP.pure _
  | sendStream n buffer count info timeout =>
    exact makes_keep hP.toChained (makes_sendStream hP hstream n buffer count info timeout)
  | streamStatus n => exact makes_keep hP.toChained (makes_streamStatus hP hstream n)

theorem makes_release : Makes P b.release := by
  refine hP.bind (hP.forM fun _ _ => ?_) fun _ => hP.forM fun _ _ => ?_
  · exact makes_releaseStream hP (fun _ _ => hc b rfl _ (by nofun))
      fun _ _ => hc b rfl _ (by nofun)
  · exact makes_warnOf hP (makes_succeed hP (hc b rfl _ (by nofun)) _) _

end Every

/-- A registration is one call, of a driver that may hold another handler already. -/
theorem makes_registerLog {P : List (Event Machine) → Prop} {handler : Option LogHandler}
    (hP : Chained P)
    (hc : Makes P (Binding.call { b with handler := handler.or b.handler }
      (.registerLogHandler handler.isSome))) : Makes P (b.registerLog handler) := by
  cases handler with
  | none => exact hP.bind hc fun _ => hP.pure _
  | some handler => exact hP.bind hc fun _ => hP.pure _

theorem ends_operation (b : Binding) (o : Host.Op) (ms : List (Event Machine)) :
    ¬ (operation o b).Exhausts ms := by
  have hall := around_forall (R := fun _ => True) (fun _ _ => trivial)
  have hcall (b : Binding) (c : Call) : Only (fun _ => True) (b.call c) :=
    only_call (fun _ _ => trivial) fun _ => trivial
  have honly : Only (fun _ => True) (operation o b) := by
    cases o with
    | inl request =>
      by_cases hr : ∃ handler, request = .registerLog handler
      · obtain ⟨handler, rfl⟩ := hr
        have hP := (hall none).toChained
        exact hP.bind (makes_registerLog hP (hcall _ _)) fun _ => hP.pure _
      · exact makes_perform (hall _) (fun b' _ c _ => hcall b' c) fun handler h => hr ⟨handler, h⟩
    | inr o =>
      have hP := (hall none).toChained
      exact hP.bind (makes_op fun _ _ _ => trivial) fun _ => hP.pure _
  exact honly.ends ms

theorem ends_release (b : Binding) (ms : List (Event Machine)) : ¬ b.release.Exhausts ms := by
  have honly : Only (fun _ => True) b.release :=
    makes_release (around_forall (fun _ _ => trivial) _) fun _ _ _ _ =>
      only_call (fun _ _ => trivial) fun _ => trivial
  exact honly.ends ms

/-! The requests below move no ownership. -/

/-- Ownership does not move beside a call. -/
theorem around_unmoved (handler : Option LogHandler) :
    Around handler fun ms => ∀ ev ∈ ms, transfer? ev = none :=
  around_forall (fun _ h => h.transfer?) handler

theorem unmoved_call {c : Call} (hc : ∀ a, transfer? ⟨.inl c, a⟩ = none) :
    Only (fun ev => transfer? ev = none) (b.call c) := only_call (fun _ h => h.transfer?) hc

theorem quiet_call {c : Call} (hc : ∀ a, transfer? ⟨.inl c, a⟩ = none) : Quiet (b.call c) :=
  .of_only (unmoved_call hc)

theorem quiet_deviceList : Quiet b.deviceList.run :=
  .of_only (makes_deviceList (around_unmoved _) fun _ => unmoved_call fun _ => rfl)

theorem quiet_deviceCall (h : DeviceHandle) (c : DeviceCall) : Quiet (b.deviceCall h c).run :=
  .of_only (makes_deviceCall (around_unmoved _) (fun _ _ _ => unmoved_call fun _ => rfl) c)

theorem quiet_channelCall (h : DeviceHandle) (ch : ChannelId) (c : ChannelCall) :
    Quiet (b.channelCall h ch c).run :=
  .of_only (makes_channelCall (around_unmoved _) (fun _ _ _ => unmoved_call fun _ => rfl) c)

theorem quiet_onStream (n : StreamHandle) (operation : String) (f : StreamFunction) :
    Quiet (b.stream n >>= fun slot => b.succeed operation (.stream slot.block f)).run :=
  .of_only (makes_onStream (around_unmoved _) (fun _ _ => unmoved_call fun _ => rfl) n operation f)

theorem quiet_recvStream (n : StreamHandle) (buffer : SampleBuffer) (info : Option StreamMeta)
    (timeout : Duration) : Quiet (b.recvStream n buffer info timeout) :=
  .of_only (makes_recvStream (around_unmoved _) (fun _ _ => unmoved_call fun _ => rfl) n buffer
    info timeout)

theorem quiet_streamStatus (n : StreamHandle) : Quiet (b.streamStatus n).run :=
  .of_only (makes_streamStatus (around_unmoved _) (fun _ _ => unmoved_call fun _ => rfl) n)

end Binding
end Native
end RadioBench
