/-
Messages of the native library.

The library knows one callback, and so a process has one handler for its messages, however many
drivers it has.  A driver that registers a handler replaces the one of any other driver, and one
that removes its handler removes whichever is there.

A message comes with the reply to a call, or the library sends it on its own.  Either way it is
passed on as `heard` says, and `relays_perform` shows that a request passes on what came with its
calls, every message once and in order.  A registration is the one request during which the handler
changes.  `session_delivers` follows by induction over what happens to a process.
-/
import RadioBench.Proofs.Native.Session

namespace RadioBench

/-- The handler that is registered, which may be none. -/
def Request.handler? : Request → Option (Option LogHandler)
  | .registerLog handler => some handler
  | _ => none

namespace Native

open Prog

/-! ## What is heard of a message -/

/-- An entry tells which handler made it. -/
theorem eq_of_deliver_eq {h h' : LogHandler} {level level' : LogLevel} {text text' : String}
    (heq : h.deliver level text = h'.deliver level' text') : h = h' := by
  cases h with
  | client number =>
    cases h' with
    | client number' => exact congrArg LogHandler.client (Entry.captured.inj heq).1
    | forward => cases heq
  | forward =>
    cases h' with
    | client number' => cases heq
    | forward => rfl

theorem handler_of_heard {handler : Option LogHandler} {m : Message} {h : LogHandler}
    {level : LogLevel} {text : String} (hheard : heard handler m = some (h.deliver level text)) :
    handler = some h := by
  obtain ⟨code, bytes⟩ := m
  cases handler with
  | none => cases hheard
  | some handler =>
    cases bytes with
    | none => cases hheard
    | some bytes => exact congrArg some (eq_of_deliver_eq (Option.some.inj hheard))

/-! ## What passes -/

/-- The messages that come with an event. -/
def sentIn : Event Machine → List Message
  | ⟨.inl _, a⟩ => Reply.messages a
  | ⟨.inr _, _⟩ => []

def sent (ms : List (Event Machine)) : List Message := ms.flatMap sentIn

/-- The entry comes from the library.  A line of the driver's own names no source. -/
def fromLibrary : Entry → Bool
  | .captured .. => true
  | .line l => l.source.isSome

/-- What an event passes on from the library. -/
def relayed? : Event Machine → Option Entry
  | ⟨.inr (.note e), _⟩ => if fromLibrary e then some e else none
  | _ => none

def relayed (ms : List (Event Machine)) : List Entry := ms.filterMap relayed?

@[simp]
theorem sent_append (ms ms' : List (Event Machine)) : sent (ms ++ ms') = sent ms ++ sent ms' :=
  List.flatMap_append

@[simp]
theorem relayed_append (ms ms' : List (Event Machine)) :
    relayed (ms ++ ms') = relayed ms ++ relayed ms' := List.filterMap_append

theorem fromLibrary_of_heard {handler : Option LogHandler} {m : Message} {e : Entry}
    (h : heard handler m = some e) : fromLibrary e = true := by
  obtain ⟨code, bytes⟩ := m
  cases handler with
  | none => cases h
  | some handler =>
    cases bytes with
    | none => cases h
    | some bytes =>
      obtain rfl := Option.some.inj h
      cases handler <;> rfl

theorem relayed_notes {es : List Entry} (h : ∀ e ∈ es, fromLibrary e = true) :
    relayed (es.map noteOf) = es := by
  induction es with
  | nil => rfl
  | cons e es ih =>
    obtain ⟨he, hes⟩ := List.forall_mem_cons.mp h
    have hrelayed : relayed? (noteOf e) = some e := if_pos he
    rw [List.map_cons, relayed, List.filterMap_cons_some hrelayed]
    exact congrArg (e :: ·) (ih hes)

theorem sent_notes (es : List Entry) : sent (es.map noteOf) = [] := by
  rw [sent, List.flatMap_eq_nil_iff]
  intro ev hev
  obtain ⟨e, -, rfl⟩ := List.mem_map.mp hev
  rfl

/-- Every message is passed on once, in order, as the handler hears it. -/
def Conveys (handler : Option LogHandler) (ms : List (Event Machine)) : Prop :=
  relayed ms = (sent ms).filterMap (heard handler)

/-- The messages are passed on, and no handler is registered or removed. -/
structure Relays (handler : Option LogHandler) (ms : List (Event Machine)) : Prop where
  conveys : Conveys handler ms
  keeps : registrations ms = []

theorem chained_relays (handler : Option LogHandler) : Chained (Relays handler) where
  nil := ⟨rfl, rfl⟩
  append {ms ms'} h h' := by
    have hconveys : Conveys handler (ms ++ ms') := by
      rw [Conveys, relayed_append, sent_append, List.filterMap_append, h.conveys, h'.conveys]
    exact ⟨hconveys, by rw [registrations_append, h.keeps, h'.keeps]; rfl⟩

namespace Binding

variable {b b' : Binding} {ms : List (Event Machine)}

theorem conveys_call {c : Call} (a : Reply c.Out) (handler : Option LogHandler) :
    Conveys handler (c.event a :: (a.messages.filterMap (heard handler)).map noteOf) := by
  have hlibrary : ∀ e ∈ a.messages.filterMap (heard handler), fromLibrary e = true := by
    intro e he
    obtain ⟨m, -, hm⟩ := List.mem_filterMap.mp he
    exact fromLibrary_of_heard hm
  have hrelayed := relayed_notes hlibrary
  have hsent := sent_notes (a.messages.filterMap (heard handler))
  rw [Conveys, ← List.singleton_append, relayed_append, sent_append, hrelayed, hsent,
    List.append_nil]
  show a.messages.filterMap (heard handler) = ([c.event a].flatMap sentIn).filterMap (heard handler)
  rw [List.flatMap_singleton]
  rfl

theorem relays_call {c : Call} (hc : c.Ordinary) : Makes (Relays b.handler) (b.call c) where
  events ms a h := by
    obtain rfl := events_of_call h
    have hregistration : registration? (c.event a) = none := by
      cases c with
      | registerLogHandler on => exact absurd rfl (hc on)
      | _ => rfl
    refine ⟨conveys_call a b.handler, ?_⟩
    rw [registrations_cons, hregistration, (passed_notes _).registrations]
    rfl
  ends ms := by
    have honly : Only (fun _ => True) (b.call c) := only_call (fun _ _ => trivial) fun _ => trivial
    exact honly.ends ms

theorem around_relays (handler : Option LogHandler) : Around handler (Relays handler) where
  toChained := chained_relays handler
  query b hb := hb ▸ relays_call (by nofun)
  warn text := ⟨rfl, rfl⟩

/-- Whatever is asked of the driver but a registration. -/
theorem relays_perform {r : Request} (hr : ∀ handler, r ≠ .registerLog handler) :
    Makes (Relays b.handler) (b.perform r) :=
  makes_perform (around_relays b.handler) (fun _ hb _ hc => hb ▸ relays_call hc) hr

theorem relays_release : Makes (Relays b.handler) b.release :=
  makes_release (around_relays b.handler) fun _ hb _ hc => hb ▸ relays_call hc

/-- A registration is one call.  What comes with it is for the handler that is there meanwhile. -/
theorem events_of_registerLog {handler : Option LogHandler}
    (h : (b.registerLog handler).Yields ms b') :
    b' = { b with handler := handler } ∧ Conveys (handler.or b.handler) ms ∧
      registrations ms = [handler.isSome] := by
  have hcall (on : Bool) (a : Reply Unit) (during : Option LogHandler) :
      registrations ((Call.registerLogHandler on).event a ::
        (a.messages.filterMap (heard during)).map noteOf) = [on] := by
    rw [registrations_cons, (passed_notes _).registrations]
    rfl
  cases handler with
  | none =>
    obtain ⟨a, ms₁, ms₂, rfl, h₁, h₂⟩ := yields_bind_iff.mp h
    obtain ⟨rfl, rfl⟩ := yields_done_iff.mp h₂
    obtain rfl := events_of_call h₁
    rw [List.append_nil]
    exact ⟨rfl, conveys_call a b.handler, hcall false a b.handler⟩
  | some handler =>
    obtain ⟨a, ms₁, ms₂, rfl, h₁, h₂⟩ := yields_bind_iff.mp h
    obtain ⟨rfl, rfl⟩ := yields_done_iff.mp h₂
    obtain rfl := events_of_call h₁
    rw [List.append_nil]
    exact ⟨rfl, conveys_call a (some handler), hcall true a (some handler)⟩

end Binding

/-! ## A process with many drivers -/

/-- The drivers of a process have their own tables, and one handler among them. -/
structure Process where
  tables : Nat → Binding
  handler : Option LogHandler

namespace Process

def start : Process where
  tables _ := .fresh
  handler := none

/-- A driver as it finds itself. -/
def driver (p : Process) (i : Nat) : Binding := { p.tables i with handler := p.handler }

/-- One driver is another one now, and the handler is the one that it left. -/
def update (p : Process) (i : Nat) (b : Binding) : Process where
  tables j := if j = i then b else p.tables j
  handler := b.handler

end Process

/-- What happens to a process. -/
inductive Happening
  /-- A driver serves a request. -/
  | served (i : Nat) (s : Service)
  /-- A driver is given up, and gives back what it holds. -/
  | released (i : Nat) (events : List (Event Machine))
  /-- The library sends a message on its own. -/
  | called (i : Nat) (m : Message) (events : List (Event Machine))

namespace Happening

/-- What passes meanwhile. -/
def events : Happening → List (Event Machine)
  | served _ s => s.events
  | released _ ms => ms
  | called _ _ ms => ms

/-- What the library sends meanwhile. -/
def messages : Happening → List Message
  | called _ m _ => [m]
  | x => sent x.events

/-- The handler that is registered, which may be none. -/
def handler? : Happening → Option (Option LogHandler)
  | served _ s => s.request.handler?
  | _ => none

/-- Who hears the messages, when somebody was registered before.  A handler that is being
registered hears what comes with its registration, and one that is being removed hears what still
comes with its removal. -/
def hearer (before : Option LogHandler) (x : Happening) : Option LogHandler :=
  match x.handler? with
  | some (some handler) => some handler
  | _ => before

end Happening

def Process.Undergoes : Happening → Process → Process → Prop
  | .served i s, p, q => ∃ b, s.Serves (p.driver i) b ∧ q = p.update i b
  | .released i ms, p, q =>
    (p.driver i).release.Yields ms () ∧ q = p.update i { Binding.fresh with handler := p.handler }
  | .called i m ms, p, q => ((p.driver i).deliver m).Yields ms () ∧ q = p

variable {p q : Process} {x : Happening}

/-- What one happening does to the handler, and to those who listen. -/
structure Heeded (p : Process) (x : Happening) (q : Process) : Prop where
  handler : q.handler = x.handler?.getD p.handler
  registrations : registrations x.events = (x.handler?.map Option.isSome).toList
  relayed : relayed x.events = x.messages.filterMap (heard (x.hearer p.handler))

theorem heeded_of_serves {i : Nat} {s : Service} {b : Binding} (h : s.Serves (p.driver i) b) :
    Heeded p (.served i s) (p.update i b) := by
  obtain ⟨r, a, ms⟩ := s
  by_cases hr : ∃ handler, r = .registerLog handler
  · obtain ⟨handler, rfl⟩ := hr
    obtain ⟨b', ms₁, ms₂, rfl, h₁, h₂⟩ := yields_bind_iff.mp h
    obtain ⟨rfl, -, rfl⟩ := yields_pair_iff.mp h₂
    obtain ⟨rfl, hconveys, hregistrations⟩ := Binding.events_of_registerLog h₁
    have hhearer : (Happening.served i ⟨.registerLog handler, a, ms₁⟩).hearer p.handler =
        handler.or p.handler := by
      cases handler <;> rfl
    rw [List.append_nil]
    refine ⟨rfl, hregistrations, ?_⟩
    rw [hhearer]
    exact hconveys
  · have hother : ∀ handler, r ≠ .registerLog handler := fun handler heq => hr ⟨handler, heq⟩
    have hnone : r.handler? = none := by
      cases r with
      | registerLog handler => exact absurd rfl (hother handler)
      | _ => rfl
    have hrelays := (Binding.relays_perform hother).events _ _ h
    have hsame : b.handler = p.handler := Binding.handler_of_perform h hother
    have hhearer : (Happening.served i ⟨r, a, ms⟩).hearer p.handler = p.handler := by
      rw [Happening.hearer, Happening.handler?, hnone]
    refine ⟨?_, ?_, ?_⟩
    · show b.handler = r.handler?.getD p.handler
      rw [hnone]
      exact hsame
    · show Native.registrations ms = (r.handler?.map Option.isSome).toList
      rw [hnone]
      exact hrelays.keeps
    · rw [hhearer]
      exact hrelays.conveys

theorem heeded_of_undergoes (h : Process.Undergoes x p q) : Heeded p x q := by
  cases x with
  | served i s =>
    obtain ⟨b, hserves, rfl⟩ := h
    exact heeded_of_serves hserves
  | released i ms =>
    obtain ⟨hyields, rfl⟩ := h
    have hrelays := Binding.relays_release.events _ _ hyields
    exact ⟨rfl, hrelays.keeps, hrelays.conveys⟩
  | called i m ms =>
    obtain ⟨hyields, hq⟩ := h
    obtain rfl := Binding.events_of_deliver hyields
    rw [hq]
    refine ⟨rfl, (passed_notes _).registrations, ?_⟩
    show Native.relayed ((heard p.handler m).toList.map noteOf) = [m].filterMap (heard p.handler)
    rw [relayed_notes fun e he => fromLibrary_of_heard (Option.mem_toList.mp he)]
    cases hheard : heard p.handler m with
    | none => rw [List.filterMap_cons_none hheard]; rfl
    | some e => rw [List.filterMap_cons_some hheard]; rfl

/-! ## Whatever happens to a process -/

section History

variable {past : List Happening}

/-- The handler that was registered last, if it was not removed since. -/
def lastHandler (past : List Happening) : Option LogHandler :=
  (past.filterMap Happening.handler?).getLast?.join

theorem handler_of_history (h : Path Process.Undergoes .start past p) :
    p.handler = lastHandler past := by
  refine Path.recorded (P := fun past p => p.handler = lastHandler past) h rfl ?_
  intro past x p q _ hx ih
  rw [(heeded_of_undergoes hx).handler, ih, lastHandler, lastHandler, List.filterMap_append]
  cases hhandler : x.handler? with
  | none => simp [hhandler]
  | some handler => simp [hhandler]

theorem registrations_of_history (h : Path Process.Undergoes .start past p) :
    registrations (past.flatMap Happening.events) =
      (past.filterMap Happening.handler?).map Option.isSome := by
  refine Path.recorded (P := fun past _ => registrations (past.flatMap Happening.events) =
    (past.filterMap Happening.handler?).map Option.isSome) h rfl ?_
  intro past x p q _ hx ih
  rw [List.flatMap_append, registrations_append, ih, List.flatMap_singleton,
    (heeded_of_undergoes hx).registrations, List.filterMap_append, List.map_append]
  cases hhandler : x.handler? <;> simp [hhandler]

/-- The handler and the library's callback agree, and messages go where they should. -/
structure Delivers (past : List Happening) (p : Process) : Prop where
  handler : p.handler = lastHandler past
  /-- The library has a callback exactly when there is a handler. -/
  callback : (registrations (past.flatMap Happening.events)).getLast? = some true ↔
    p.handler.isSome = true
  /-- Every message is passed on once, and in order. -/
  relayed : ∀ x q, Process.Undergoes x p q →
    relayed x.events = x.messages.filterMap (heard (x.hearer (lastHandler past)))
  /-- No other handler hears anything. -/
  alone : ∀ x q h level text, Process.Undergoes x p q →
    h.deliver level text ∈ Native.relayed x.events → x.hearer (lastHandler past) = some h
  /-- No request waits for ever, so that what was sent is passed on. -/
  ends : ∀ i r ms, ¬ ((p.driver i).perform r).Exhausts ms

/-- Whichever drivers register and remove handlers, and whatever else is asked of them. -/
theorem history_delivers (h : Path Process.Undergoes .start past p) : Delivers past p := by
  have hhandler := handler_of_history h
  have hrelayed : ∀ x q, Process.Undergoes x p q →
      relayed x.events = x.messages.filterMap (heard (x.hearer (lastHandler past))) := by
    intro x q hx
    rw [(heeded_of_undergoes hx).relayed, hhandler]
  exact {
    handler := hhandler
    callback := by
      rw [registrations_of_history h, hhandler, lastHandler, List.getLast?_map]
      cases (past.filterMap Happening.handler?).getLast? with
      | none => simp
      | some handler => simp
    relayed := hrelayed
    alone := by
      intro x q h level text hx hmem
      rw [hrelayed x q hx] at hmem
      obtain ⟨m, -, hm⟩ := List.mem_filterMap.mp hmem
      exact handler_of_heard hm
    ends := fun i r ms => Binding.ends_operation (p.driver i) (.inl r) ms }

end History

/-- A driver registers a handler, and another driver replaces it.  Messages come with calls and on
their own, one of them without a text and one that is no UTF-8, before the handler is removed
through the first driver again. -/
def handover : List Happening :=
  [.served 0 ⟨.registerLog (some (.client 3)), (),
      [(Call.registerLogHandler true).event ⟨0, (), [⟨9, some [104, 105, 0, 33]⟩]⟩,
        noteOf (.captured 3 .debug "hi")]⟩,
    .called 1 ⟨-1, some []⟩ [noteOf (.captured 3 .debug "")],
    .served 1 ⟨.registerLog (some .forward), (),
      [(Call.registerLogHandler true).event ⟨0, (), []⟩]⟩,
    .called 0 ⟨1, none⟩ [],
    .served 0 ⟨.libraryVersion, "",
      [Call.getLibraryVersion.event ⟨0, none, [⟨1, some [255]⟩]⟩,
        noteOf (.line ⟨.error, some "limesuite", "\ufffd"⟩)]⟩,
    .released 1 [],
    .served 0 ⟨.registerLog none, (), [(Call.registerLogHandler false).event ⟨0, (), []⟩]⟩]

/-- After that nobody hears anything. -/
theorem handover_delivers :
    ∃ p, Path Process.Undergoes .start handover p ∧ p.handler = none ∧
      (registrations (handover.flatMap Happening.events)).getLast? ≠ some true ∧
      ∀ q ms, Process.Undergoes (.called 0 ⟨0, some [104, 105]⟩ ms) p q → relayed ms = [] := by
  have hpath : Path Process.Undergoes .start handover _ :=
    .cons ⟨_, .ask _ (.ask _ (.done _)), rfl⟩ <| .cons ⟨.ask _ (.done _), rfl⟩ <|
      .cons ⟨_, .ask _ (.done _), rfl⟩ <| .cons ⟨.done _, rfl⟩ <|
      .cons ⟨_, .ask _ (.ask _ (.done _)), rfl⟩ <| .cons ⟨.done _, rfl⟩ <|
      .cons ⟨_, .ask _ (.done _), rfl⟩ <| .nil _
  have hdelivers := history_delivers hpath
  have hnone := hdelivers.handler
  refine ⟨_, hpath, hnone, ?_, fun q ms h => hdelivers.relayed _ q h⟩
  intro hcallback
  have hsome := hdelivers.callback.mp hcallback
  rw [hnone] at hsome
  cases hsome

end Native
end RadioBench
