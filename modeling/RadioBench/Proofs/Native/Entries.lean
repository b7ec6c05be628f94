/-
The entries of a driver on the native library.

A slot is marked as running once the library has started its stream, and no longer once the
library has stopped it.  Whatever the library answers besides, and whatever is asked under other
handles, the slot stays as it is.
-/
import RadioBench.Proofs.Guard.Keeper
import RadioBench.Proofs.Native.Session

namespace RadioBench
namespace Native
namespace Binding

open Prog

variable {b b' : Binding} {ms : List (Event Machine)} {n m : StreamHandle}

/-- Whether the stream runs and which format it has, if there is one under the handle. -/
def entryAt? (b : Binding) (n : StreamHandle) : Option Standing :=
  (b.streams.get? n.index).map fun slot => ⟨slot.running, slot.format⟩

theorem entryAt?_setRunning {slot : StreamSlot} (on : Bool)
    (hm : b.streams.get? m.index = some slot) :
    (b.setRunning m on).entryAt? n =
      if m = n then (b.entryAt? n).map fun x => { x with running := on } else b.entryAt? n := by
  rw [entryAt?, setRunning, Slots.get?_modify hm]
  by_cases hmn : m = n
  · subst hmn
    rw [if_pos rfl, if_pos rfl, entryAt?, hm]
    rfl
  · have hindex : m.index ≠ n.index := fun h => hmn (congrArg StreamHandle.mk h)
    rw [if_neg hindex, if_neg hmn]
    rfl

theorem entry_setupStream {d : DeviceHandle} {config : StreamConfig} {a : Except Error StreamHandle}
    (h : (b.setupStream d config).Yields ms (a, b')) :
    b'.entryAt? n = Event.shift n ⟨.inl (.setupStream d config), a⟩ (b.entryAt? n) := by
  rcases setupStream_cases h with ⟨rfl, -, rfl, -⟩ | ⟨d, reply, rest, -, -, -,
    ⟨-, slot, hslot, rfl, rfl⟩ | ⟨-, ⟨message, rfl⟩, rfl⟩⟩
  · rfl
  · show Option.map _ ((b.streams.insert slot).2.get? n.index) =
      if ⟨b.streams.firstFree⟩ = n then some ⟨false, config.dataFormat⟩ else b.entryAt? n
    rw [Slots.get?_insert]
    by_cases hn : b.streams.firstFree = n.index
    · rw [if_pos hn, if_pos (congrArg StreamHandle.mk hn), hslot]
      rfl
    · have hne : (⟨b.streams.firstFree⟩ : StreamHandle) ≠ n :=
        fun h => hn (congrArg StreamHandle.index h)
      rw [if_neg hn, if_neg hne]
      rfl
  · rfl

theorem fresh_of_setupStream {d : DeviceHandle} {config : StreamConfig}
    (h : (b.setupStream d config).Yields ms (.ok n, b')) : b.entryAt? n = none := by
  rcases setupStream_cases h with ⟨hx, -⟩ | ⟨d, reply, rest, -, -, -,
    ⟨-, slot, -, hx, -⟩ | ⟨-, ⟨message, hx⟩, -⟩⟩
  · cases hx
  · obtain rfl := Except.ok.inj hx
    rw [entryAt?]
    exact congrArg (Option.map _) b.streams.get?_firstFree
  · cases hx

/-- A start or a stop is put down once the library has carried it out. -/
theorem entry_switch (on : Bool) {operation : String} {f : StreamFunction} {a : Except Error Unit}
    {g : f.Out → Unit}
    (h : (b.commit (do b.succeed operation (.stream (← b.stream m).block f)) fun out =>
      (g out, b.setRunning m on)).Yields ms (a, b')) :
    ((∃ e, a = .error e) ∧ b'.entryAt? n = b.entryAt? n) ∨
      (a = .ok () ∧ b'.entryAt? n =
        if m = n then (b.entryAt? n).map fun x => { x with running := on } else b.entryAt? n) := by
  rcases of_yields_commit h with ⟨out, hout, rfl, rfl⟩ | ⟨e, -, rfl, rfl⟩
  · rcases of_yields_withStream hout with ⟨-, hx⟩ | ⟨slot, hm, -⟩
    · cases hx
    · exact .inr ⟨rfl, entryAt?_setRunning on hm⟩
  · exact .inl ⟨⟨e, rfl⟩, rfl⟩

theorem entry_destroyStream {d : DeviceHandle} {a : Except Error Unit} (hm : m ≠ n)
    (h : (b.destroyStream d m).Yields ms (a, b')) : b'.entryAt? n = b.entryAt? n := by
  rcases destroyStream_cases h with ⟨-, -, rfl, -⟩ | ⟨d, slot, reply, rest, -, hslot, -, -, -, rfl⟩
  · rfl
  · have hindex : m.index ≠ n.index := fun h => hm (congrArg StreamHandle.mk h)
    show Option.map _ ((b.streams.erase m.index).get? n.index) = _
    rw [Slots.get?_erase hslot, if_neg hindex]
    rfl

/-- The entry of a stream is what the event makes of it, unless the stream is destroyed. -/
theorem entry_perform {r : Request} {a : r.Answer} (h : (b.perform r).Yields ms (a, b'))
    (hkept : ¬ Event.Destroys n ⟨.inl r, a⟩) :
    b'.entryAt? n = Event.shift n ⟨.inl r, a⟩ (b.entryAt? n) := by
  have hkeep : ∀ {α : Type} {p : Action α} {x : Except Error α},
      (b.keep p).Yields ms (x, b') → b'.entryAt? n = b.entryAt? n := by
    intro α p x hp
    obtain ⟨-, rfl⟩ := of_yields_keep hp
    rfl
  cases r with
  | libraryVersion =>
    obtain ⟨-, rfl⟩ := yields_keeping_iff.mp h
    rfl
  | registerLog handler =>
    obtain ⟨c, ms₁, ms₂, rfl, h₁, h₂⟩ := yields_bind_iff.mp h
    obtain ⟨-, -, rfl⟩ := yields_pair_iff.mp h₂
    obtain ⟨rfl, -⟩ := of_yields_registerLog h₁
    rfl
  | deviceList => exact hkeep h
  | openDevice info =>
    rcases openDevice_cases h with ⟨-, -, rfl⟩ | ⟨reply, rest, -, -, ⟨-, -, rfl⟩ | ⟨-, -, rfl⟩⟩
    · rfl
    · rfl
    · rfl
  | closeDevice d =>
    rcases closeDevice_cases h with ⟨-, -, rfl, -⟩ | ⟨d, reply, rest, -, -, -, -, rfl⟩
    · rfl
    · rfl
  | device d c => exact hkeep h
  | channel d ch c => exact hkeep h
  | setupStream d config => exact entry_setupStream h
  | destroyStream d m =>
    have hm : m ≠ n := by
      rintro rfl
      exact hkept ⟨d, rfl⟩
    exact entry_destroyStream hm h
  | startStream m =>
    rcases entry_switch true h with ⟨⟨e, rfl⟩, hsame⟩ | ⟨rfl, hnew⟩
    · exact hsame
    · exact hnew
  | stopStream m =>
    rcases entry_switch false h with ⟨⟨e, rfl⟩, hsame⟩ | ⟨rfl, hnew⟩
    · exact hsame
    · exact hnew
  | recvStream m buffer info timeout =>
    obtain ⟨-, rfl⟩ := yields_keeping_iff.mp h
    rfl
  | sendStream m buffer count info timeout => exact hkeep h
  | streamStatus m => exact hkeep h

/-! ## The keeper -/

/-- The driver may make the event, whatever the library replies meanwhile. -/
def Answers (e : Event Host) (b b' : Binding) : Prop :=
  ∃ ms, (operation e.op b).Yields ms (e.reply, b')

theorem answers_ambient (o : Ambient) (a : Host.Reply (.inr o)) (b : Binding) :
    Answers ⟨.inr o, a⟩ b b :=
  ⟨_, yields_keeping_iff.mpr ⟨⟨a, yields_op_iff.mpr rfl, rfl⟩, rfl⟩⟩

theorem answers_of_serves {s : Service} (h : s.Serves b b') :
    Answers ⟨.inl s.request, s.answer⟩ b b' := ⟨s.events, h⟩

theorem entry_answers {e : Event Host} (h : Answers e b b') (hkept : ¬ e.Destroys n) :
    b'.entryAt? n = e.shift n (b.entryAt? n) := by
  obtain ⟨ms, hms⟩ := h
  match e with
  | ⟨.inl r, a⟩ => exact entry_perform hms hkept
  | ⟨.inr o, a⟩ =>
    obtain ⟨-, rfl⟩ := yields_keeping_iff.mp hms
    rfl

/-- The driver as a keeper of entries.  Its tables may be any. -/
def keeper : Keeper Binding where
  rule := Answers
  control _ _ := False
  valid _ := True
  entryAt? := entryAt?
  valid_of_rule _ _ := trivial
  valid_of_control _ _ := trivial
  entry_of_rule := entry_answers
  entry_of_control h := h.elim
  fresh := by
    rintro b b' d config n - ⟨ms, hms⟩
    exact fresh_of_setupStream hms

end Binding
end Native
end RadioBench
