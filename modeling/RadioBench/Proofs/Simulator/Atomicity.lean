/-
A request that fails changes nothing.

Some requests fail late.  A channel call that is given an index out of range has made an entry
for its channel by then, and a read that the clock has no room for has passed all other checks.
Yet whatever a request was refused for, nothing that can be looked up afterwards differs from
what it was before: `effect_perform` leaves only that case for a failure.

A device that is not open and a stream that is not live are reason enough to fail, whatever else
a request asks for.
-/
import RadioBench.Proofs.Guard.Keeper
import RadioBench.Proofs.Simulator.Effect

namespace RadioBench

/-- The device that a request names, if it names one. -/
def Request.device? : Request → Option DeviceHandle
  | .closeDevice d => some d
  | .device d _ => some d
  | .channel d _ _ => some d
  | .setupStream d _ => some d
  | .destroyStream d _ => some d
  | _ => none

namespace Simulator

open Step

variable {s t : State}

/-- The caller of a read has the same buffer and the same metadata as before. -/
def HandsBack : (r : Request) → r.Answer → Prop
  | .recvStream _ buffer info _, a => a.buffer = buffer ∧ a.info = info
  | _, _ => True

theorem handsBack_of_failed {r : Request} {e : Error}
    (h : r.failure? (perform r s).1 = some e) : HandsBack r (perform r s).1 := by
  cases r with
  | recvStream n buffer info timeout =>
    dsimp only [HandsBack, perform, Request.failure?] at h ⊢
    generalize recvStream n buffer timeout s = x at h ⊢
    obtain ⟨(e | count), u⟩ := x
    · exact ⟨rfl, rfl⟩
    · cases h
  | _ => trivial

theorem unaltered_of_failed {r : Request} {e : Error}
    (h : r.failure? (perform r s).1 = some e) : Unaltered s (perform r s).2 := by
  have heffect : Effect s (.served r (perform r s).1) (perform r s).2 := effect_perform rfl
  generalize perform r s = x at h heffect
  obtain ⟨a, t⟩ := x
  cases heffect with
  | quiet _ ht => exact ht.unaltered
  | _ => cases h

/-! ## Handles that are not live -/

theorem onDevice_of_not_mem {α : Type} {d : DeviceHandle} (hd : d ∉ s.devices) (name : String)
    (body : Step α) : ∃ e, failureOf (onDevice name d body s).1 = some e := by
  rcases onDevice_inv (r := (onDevice name d body s).1) rfl with ⟨e, he, -⟩ | ⟨hopen, -⟩
  · exact ⟨e, congrArg failureOf he⟩
  · exact absurd hopen hd

theorem onStream_of_not_mem {α : Type} {n : StreamHandle} (hn : n ∉ s.liveStreams) (name : String)
    (body : StreamState → Step α) : ∃ e, failureOf (onStream name n body s).1 = some e := by
  rcases onStream_inv (r := (onStream name n body s).1) rfl with ⟨e, he, -⟩ | ⟨st, hst, -⟩
  · exact ⟨e, congrArg failureOf he⟩
  · exact absurd (Table.mem_keys_iff.mpr ⟨st, hst⟩) hn

theorem fails_of_closed {r : Request} {d : DeviceHandle} (hr : r.device? = some d)
    (hd : d ∉ s.devices) : ∃ e, r.failure? (perform r s).1 = some e := by
  cases r with
  | closeDevice d' =>
    obtain rfl := Option.some.inj hr
    exact onDevice_of_not_mem hd _ _
  | device d' c =>
    obtain rfl := Option.some.inj hr
    cases c <;> exact onDevice_of_not_mem hd _ _
  | channel d' ch c =>
    obtain rfl := Option.some.inj hr
    cases c with
    | setAntenna index =>
      show ∃ e, failureOf (channelCall d' ch (.setAntenna index) s).1 = some e
      rw [channelCall]
      split
      · -- the index is refused before the device is looked at
        by_cases harmed : "set_antenna" ∈ s.armed
        · rw [attempt_of_armed harmed]
          exact ⟨_, rfl⟩
        · rw [attempt_of_not_armed harmed]
          exact ⟨_, rfl⟩
      · exact onDevice_of_not_mem hd _ _
    | _ => exact onDevice_of_not_mem hd _ _
  | setupStream d' config =>
    obtain rfl := Option.some.inj hr
    exact onDevice_of_not_mem hd _ _
  | destroyStream d' n =>
    obtain rfl := Option.some.inj hr
    exact onDevice_of_not_mem hd _ _
  | _ => cases hr

theorem live_of_effect {r : Request} {a : r.Answer} {n : StreamHandle}
    (h : Effect s (.served r a) t) (hr : r.stream? = some n) (hidle : idle r = false)
    (hdone : r.failure? a = none) : n ∈ s.liveStreams := by
  cases h with
  | quiet hquiet _ =>
    rcases hquiet with hanswered | ⟨e, hfailed⟩
    · cases hidle.symm.trans hanswered
    · cases hdone.symm.trans hfailed
  | destroyed _ hst _ => exact Option.some.inj hr ▸ Table.mem_keys_iff.mpr ⟨_, hst⟩
  | started hst => exact Option.some.inj hr ▸ Table.mem_keys_iff.mpr ⟨_, hst⟩
  | stopped hst => exact Option.some.inj hr ▸ Table.mem_keys_iff.mpr ⟨_, hst⟩
  | waited hst _ _ => exact Option.some.inj hr ▸ Table.mem_keys_iff.mpr ⟨_, hst⟩
  | filled hst _ _ => exact Option.some.inj hr ▸ Table.mem_keys_iff.mpr ⟨_, hst⟩
  | _ => cases hr

theorem fails_of_gone {r : Request} {n : StreamHandle} (hr : r.stream? = some n)
    (hn : n ∉ s.liveStreams) : ∃ e, r.failure? (perform r s).1 = some e := by
  cases hidle : idle r with
  | false =>
    cases hfailed : r.failure? (perform r s).1 with
    | some e => exact ⟨e, rfl⟩
    | none => exact absurd (live_of_effect (effect_perform rfl) hr hidle hfailed) hn
  | true =>
    cases r with
    | sendStream n' buffer count info timeout =>
      obtain rfl := Option.some.inj hr
      exact onStream_of_not_mem hn _ _
    | streamStatus n' =>
      obtain rfl := Option.some.inj hr
      exact onStream_of_not_mem hn _ _
    | destroyStream => cases hidle
    | startStream => cases hidle
    | stopStream => cases hidle
    | recvStream => cases hidle
    | _ => cases hr

/-! ## Failures -/

/-- A request that fails changes nothing, and gives back what it was lent.  A request on a device
that is not open or on a stream that is not live does fail. -/
theorem perform_failsAtomically (s : State) (r : Request) :
    (∀ e, r.failure? (perform r s).1 = some e →
      Unaltered s (perform r s).2 ∧ HandsBack r (perform r s).1) ∧
    ((∃ d, r.device? = some d ∧ d ∉ s.devices) ∨ (∃ n, r.stream? = some n ∧ n ∉ s.liveStreams) →
      ∃ e, r.failure? (perform r s).1 = some e) := by
  constructor
  · intro e he
    exact ⟨unaltered_of_failed he, handsBack_of_failed he⟩
  · rintro (⟨d, hr, hd⟩ | ⟨n, hr, hn⟩)
    · exact fails_of_closed hr hd
    · exact fails_of_gone hr hn

/-- An index beyond the table is refused when its channel has an entry already, and one device is
open, so that stream 0 is not live. -/
theorem lateRefusal_failsAtomically :
    let s := (perform (.openDevice "sim") (.start ["sim"])).2
    let r : Request := .channel ⟨0⟩ ⟨.rx, 3⟩ (.setNcoIndex 16 true)
    s.channels.keys = [] ∧ (perform r s).2.channels.keys = [(⟨0⟩, ⟨.rx, 3⟩)] ∧
      Unaltered s (perform r s).2 ∧
      ∃ e, (Request.startStream ⟨0⟩).failure? (perform (.startStream ⟨0⟩) s).1 = some e := by
  intro s r
  have hfailed : r.failure? (perform r s).1 =
      some (.failed "set_nco_index" "index out of range") := rfl
  have hgone : (⟨0⟩ : StreamHandle) ∉ s.liveStreams := List.not_mem_nil
  exact ⟨rfl, rfl, ((perform_failsAtomically s r).1 _ hfailed).1,
    (perform_failsAtomically s (.startStream ⟨0⟩)).2 (.inr ⟨⟨0⟩, rfl, hgone⟩)⟩

end Simulator
end RadioBench
