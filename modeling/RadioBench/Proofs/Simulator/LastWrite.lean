/-
Settings read back.

What is set on a channel is told by the deeds alone.  It is what was given last to that setting
of that channel, after its device was opened and after it was reset last; `written` looks it up.
`read_of_effect` says for one deed that the value follows `written`, and the rest is an induction
over the session.

The trim of a device is kept beside its channels.  No reset takes it back.
-/
import RadioBench.Proofs.Simulator.Lending

namespace RadioBench
namespace Simulator

open Step

variable {s t : State} {e : Deed}

/-! ## What deeds write -/

namespace Deed

/-- Nothing is set on the channels of the device afterwards, since it was opened or reset. -/
def startsAnew (d : DeviceHandle) : Deed → Bool
  | .served (.openDevice _) (.ok d') => d' = d
  | .served (.device d' .reset) (.ok _) => d' = d
  | _ => false

/-- The value that a setting of a channel is given. -/
def sets? (k : Setting) (d : DeviceHandle) (ch : ChannelId) : Deed → Option k.Value
  | .served (.channel d' ch' c) (.ok _) => if d' = d ∧ ch' = ch then Simulator.sets? c k else none
  | _ => none

/-- The value that the trim of a device is given. -/
def trims? (d : DeviceHandle) : Deed → Option UInt16
  | .served (.device d' (.vctcxoWrite value)) (.ok _) => if d' = d then some value else none
  | _ => none

theorem startsAnew_of_opened? {e : Deed} {d : DeviceHandle} (h : e.opened? = some d) :
    e.startsAnew d = true := by
  unfold opened? at h
  split at h
  · cases h
    exact decide_eq_true rfl
  · cases h

end Deed

/-- The value that a setting of a channel was given last, or the one that it has to begin with. -/
def written (k : Setting) (d : DeviceHandle) (ch : ChannelId) (deeds : List Deed) : k.Value :=
  ((deeds.reverse.takeWhile fun e => !e.startsAnew d).findSome? (Deed.sets? k d ch)).getD k.initial

theorem written_concat (k : Setting) (d : DeviceHandle) (ch : ChannelId) (deeds : List Deed)
    (e : Deed) :
    written k d ch (deeds ++ [e]) =
      if e.startsAnew d then k.initial else (e.sets? k d ch).getD (written k d ch deeds) := by
  rw [written, List.reverse_append, List.reverse_singleton, List.singleton_append,
    List.takeWhile_cons]
  cases hanew : e.startsAnew d with
  | true => rfl
  | false =>
    simp only [Bool.not_false, if_true, List.findSome?_cons]
    cases e.sets? k d ch <;> rfl

theorem channelState_tuned (s : State) (name : String) (d d' : DeviceHandle) (ch ch' : ChannelId)
    (x : ChannelState) :
    State.channelState { s.recorded name with channels := s.channels.set (d, ch) x } d' ch' =
      if d = d' ∧ ch = ch' then x else s.channelState d' ch' :=
  (s.recorded name).channelState_set d d' ch ch' x

/-- Where nothing comes of a deed, nothing is written. -/
theorem writes_nothing (h : e.Quiet) :
    (∀ d, e.startsAnew d = false) ∧ (∀ k d ch, e.sets? k d ch = none) ∧ ∀ d, e.trims? d = none := by
  cases e with
  | served r a =>
    cases r with
    | openDevice info =>
      cases (a : Except Error DeviceHandle) with
      | error e => exact ⟨fun _ => rfl, fun _ _ _ => rfl, fun _ => rfl⟩
      | ok d' => rcases h with h | ⟨e, h⟩ <;> cases h
    | device d' c =>
      cases (a : Except Error c.Result) with
      | error e => cases c <;> exact ⟨fun _ => rfl, fun _ _ _ => rfl, fun _ => rfl⟩
      | ok v =>
        rcases h with h | ⟨e, h⟩
        · cases c <;> first | exact ⟨fun _ => rfl, fun _ _ _ => rfl, fun _ => rfl⟩ | cases h
        · cases h
    | channel d' ch' c =>
      cases (a : Except Error c.Result) with
      | error e => exact ⟨fun _ => rfl, fun _ _ _ => rfl, fun _ => rfl⟩
      | ok v =>
        rcases h with h | ⟨e, h⟩
        · cases c <;> first
            | exact ⟨fun _ => rfl, fun _ _ _ => ite_self _, fun _ => rfl⟩
            | cases h
        · cases h
    | _ => exact ⟨fun _ => rfl, fun _ _ _ => rfl, fun _ => rfl⟩
  | _ => exact ⟨fun _ => rfl, fun _ _ _ => rfl, fun _ => rfl⟩

theorem read_of_effect (h : Effect s e t) (hs : Reachable s) (k : Setting) {d : DeviceHandle}
    (ch : ChannelId) (hopen : d ∈ t.devices) :
    k.read (t.channelState d ch) =
      if e.startsAnew d then k.initial
      else (e.sets? k d ch).getD (k.read (s.channelState d ch)) := by
  cases h with
  | quiet hquiet ht =>
    obtain ⟨hanew, hsets, -⟩ := writes_nothing hquiet
    rw [hanew, hsets, ht.channelState]
    rfl
  | opened _ =>
    show k.read (s.channelState d ch) =
      if decide ((⟨s.nextHandle⟩ : DeviceHandle) = d) then k.initial
      else k.read (s.channelState d ch)
    by_cases hd : (⟨s.nextHandle⟩ : DeviceHandle) = d
    · rw [if_pos (decide_eq_true hd), ← hd, hs.channelState_next, Setting.read_fresh]
    · rw [if_neg (by simpa using hd)]
  | @closed d' _ =>
    have hd : d ≠ d' := by simpa using (List.mem_filter.mp hopen).2
    show k.read ((State.forgetChannels _ d').channelState d ch) = k.read (s.channelState d ch)
    rw [State.channelState_forget, if_neg hd]
    rfl
  | @reset d' _ =>
    show k.read (((s.recorded "reset").forgetChannels d').channelState d ch) =
      if decide (d' = d) then k.initial else k.read (s.channelState d ch)
    rw [State.channelState_forget]
    by_cases hd : d' = d
    · rw [if_pos (decide_eq_true hd), if_pos hd.symm, Setting.read_fresh]
    · rw [if_neg (Ne.symm hd), if_neg (by simpa using hd)]
      rfl
  | @tuned d' ch' c v x _ _ hsets =>
    show _ = (if d' = d ∧ ch' = ch then sets? c k else none).getD (k.read (s.channelState d ch))
    rw [channelState_tuned]
    by_cases hsame : d' = d ∧ ch' = ch
    · obtain ⟨rfl, rfl⟩ := hsame
      rw [if_pos ⟨rfl, rfl⟩, if_pos ⟨rfl, rfl⟩]
      exact hsets k
    · rw [if_neg hsame, if_neg hsame, Option.getD_none]
  | _ => rfl

/-- What can change a setting of a channel: a call on that channel that is about that setting, and
what takes back everything that is set on the device. -/
inductive Touches (k : Setting) (d : DeviceHandle) (ch : ChannelId) : Deed → Prop
  | set {c : ChannelCall} {v : c.Result} {value : k.Value} (h : sets? c k = some value) :
      Touches k d ch (.served (.channel d ch c) (.ok v : Except Error c.Result))
  | reset : Touches k d ch (.served (.device d .reset) (.ok () : Except Error Unit))
  | close : Touches k d ch (.served (.closeDevice d) (.ok () : Except Error Unit))

theorem touches_of_effect (h : Effect s e t) {k : Setting} {d : DeviceHandle} {ch : ChannelId}
    (hne : k.read (t.channelState d ch) ≠ k.read (s.channelState d ch)) : Touches k d ch e := by
  cases h with
  | quiet _ ht => exact absurd (by rw [ht.channelState]) hne
  | @closed d' _ =>
    by_cases hd : d = d'
    · exact hd ▸ .close
    · refine absurd ?_ hne
      rw [State.channelState_forget, if_neg hd]
      rfl
  | @reset d' _ =>
    by_cases hd : d = d'
    · exact hd ▸ .reset
    · refine absurd ?_ hne
      rw [State.channelState_forget, if_neg hd]
      rfl
  | @tuned d' ch' c v x _ _ hsets =>
    rw [channelState_tuned] at hne
    by_cases hsame : d' = d ∧ ch' = ch
    · obtain ⟨rfl, rfl⟩ := hsame
      rw [if_pos ⟨rfl, rfl⟩, hsets k] at hne
      cases hvalue : sets? c k with
      | some value => exact .set hvalue
      | none => exact absurd (by rw [hvalue]; rfl) hne
    · rw [if_neg hsame] at hne
      exact absurd rfl hne
  | _ => exact absurd rfl hne

/-! ## Sessions -/

theorem read_of_session {listed : List String} {deeds : List Deed} (h : Session listed deeds s)
    (k : Setting) {d : DeviceHandle} (ch : ChannelId) (hopen : d ∈ s.devices) :
    k.read (s.channelState d ch) = written k d ch deeds := by
  refine Path.recorded (P := fun deeds s => ∀ d, d ∈ s.devices →
    k.read (s.channelState d ch) = written k d ch deeds) h ?_ ?_ d hopen
  · intro d hd
    exact absurd hd List.not_mem_nil
  · intro past e u t hpast he ih d hd
    have hread := read_of_effect (effect_of_does he) (reachable_of_session hpast) k ch hd
    rw [hread, written_concat]
    cases hanew : e.startsAnew d with
    | true => rfl
    | false =>
      -- the device was open before, as otherwise it would start anew
      rcases (mem_devices_of_effect (effect_of_does he) d).mp hd with ⟨hd, -⟩ | hopened
      · rw [ih d hd]
      · cases hanew.symm.trans (Deed.startsAnew_of_opened? hopened)

end Simulator
end RadioBench
