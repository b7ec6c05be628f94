/-
Handles are given out once.

Handles are numbered in the order in which they are given out, devices and streams together: along
any deeds the numbers continue the range of those before (`issued_of_path`), so that none is given
out twice.

Devices and streams are lent alike.  A handle is live from the deed that gives it out to the one
that takes it back, and never again.  `live_of_session` says so of any kind of handle for which
one deed at a time has been looked at, and both kinds are.
-/
import RadioBench.Proofs.Simulator.Effect

namespace RadioBench
namespace Simulator

variable {s t : State} {e : Deed}

/-! ## The numbers given out -/

namespace Deed

def opened? : Deed → Option DeviceHandle
  | .served (.openDevice _) (.ok d) => some d
  | _ => none

def closed? : Deed → Option DeviceHandle
  | .served (.closeDevice d) (.ok _) => some d
  | _ => none

def setUp? : Deed → Option StreamHandle
  | .served (.setupStream _ _) (.ok n) => some n
  | _ => none

def destroyed? : Deed → Option StreamHandle
  | .served (.destroyStream _ n) (.ok _) => some n
  | _ => none

/-- The number that is given out, to a device or to a stream. -/
def issued? (e : Deed) : Option Nat :=
  (e.opened?.map DeviceHandle.index).or (e.setUp?.map StreamHandle.index)

/-- The number that is taken back. -/
def released? (e : Deed) : Option Nat :=
  (e.closed?.map DeviceHandle.index).or (e.destroyed?.map StreamHandle.index)

end Deed

/-- Where nothing comes of a deed, nothing is given out or taken back. -/
theorem moves_nothing (h : e.Quiet) :
    e.opened? = none ∧ e.closed? = none ∧ e.setUp? = none ∧ e.destroyed? = none := by
  cases e with
  | served r a =>
    rcases h with hidle | ⟨e, hfailed⟩
    · cases r <;> first | exact ⟨rfl, rfl, rfl, rfl⟩ | cases hidle
    · cases r with
      | openDevice info =>
        cases (a : Except Error DeviceHandle) with
        | error e => exact ⟨rfl, rfl, rfl, rfl⟩
        | ok d => cases hfailed
      | closeDevice d =>
        cases (a : Except Error Unit) with
        | error e => exact ⟨rfl, rfl, rfl, rfl⟩
        | ok u => cases hfailed
      | setupStream d config =>
        cases (a : Except Error StreamHandle) with
        | error e => exact ⟨rfl, rfl, rfl, rfl⟩
        | ok n => cases hfailed
      | destroyStream d n =>
        cases (a : Except Error Unit) with
        | error e => exact ⟨rfl, rfl, rfl, rfl⟩
        | ok u => cases hfailed
      | _ => exact ⟨rfl, rfl, rfl, rfl⟩
  | _ => exact ⟨rfl, rfl, rfl, rfl⟩

theorem issued_of_effect (h : Effect s e t) :
    (e.issued? = none ∧ t.nextHandle = s.nextHandle) ∨
      (e.issued? = some s.nextHandle ∧ t.nextHandle = s.nextHandle + 1) := by
  cases h with
  | quiet hquiet ht =>
    obtain ⟨hopened, -, hsetUp, -⟩ := moves_nothing hquiet
    exact .inl ⟨by rw [Deed.issued?, hopened, hsetUp]; rfl, ht.unaltered.nextHandle⟩
  | opened _ => exact .inr ⟨rfl, rfl⟩
  | setUp _ _ => exact .inr ⟨rfl, rfl⟩
  | _ => exact .inl ⟨rfl, rfl⟩

theorem issued_of_path {deeds : List Deed} (h : Path Does s deeds t) :
    List.range s.nextHandle ++ deeds.filterMap Deed.issued? = List.range t.nextHandle := by
  induction h with
  | nil s => exact List.append_nil _
  | cons he _ ih =>
    rw [← ih]
    rcases issued_of_effect (effect_of_does he) with ⟨hissued, hnext⟩ | ⟨hissued, hnext⟩
    · rw [List.filterMap_cons_none hissued, hnext]
    · rw [List.filterMap_cons_some hissued, hnext, List.range_succ, List.append_assoc]
      rfl

/-! ## Handles that are live -/

theorem kept_iff {H : Type} {p : Prop} {returned given : Option H} {x : H}
    (hreturned : returned = none) (hgiven : given = none) :
    p ↔ p ∧ returned ≠ some x ∨ given = some x := by
  simp [hreturned, hgiven]

theorem mem_devices_of_effect (h : Effect s e t) (d : DeviceHandle) :
    d ∈ t.devices ↔ d ∈ s.devices ∧ e.closed? ≠ some d ∨ e.opened? = some d := by
  cases h with
  | quiet hquiet ht =>
    obtain ⟨hopened, hclosed, -, -⟩ := moves_nothing hquiet
    rw [ht.unaltered.devices]
    exact kept_iff hclosed hopened
  | opened _ =>
    show d ∈ s.devices ++ [⟨s.nextHandle⟩] ↔
      d ∈ s.devices ∧ none ≠ some d ∨ some (⟨s.nextHandle⟩ : DeviceHandle) = some d
    rw [List.mem_append, List.mem_singleton, Option.some.injEq, eq_comm (a := d)]
    simp
  | @closed d' _ =>
    show d ∈ s.devices.filter (· ≠ d') ↔ d ∈ s.devices ∧ some d' ≠ some d ∨ none = some d
    simp [eq_comm (a := d)]
  | _ => exact kept_iff rfl rfl

theorem mem_putStream_iff {n m : StreamHandle} {st : StreamState} :
    m ∈ (s.putStream n st).liveStreams ↔ m ∈ s.liveStreams ∨ n = m := by
  rw [State.liveStreams, State.liveStreams, Table.mem_keys_iff, Table.mem_keys_iff]
  dsimp only [State.putStream]
  rw [Table.find?_set]
  by_cases hn : n = m <;> simp [hn]

theorem mem_putStream_iff_of_live {n m : StreamHandle} {st st' : StreamState}
    (hst : s.streams.find? n = some st) :
    m ∈ (s.putStream n st').liveStreams ↔ m ∈ s.liveStreams := by
  rw [State.liveStreams_putStream (Table.mem_keys_iff.mpr ⟨st, hst⟩)]

theorem mem_liveStreams_of_effect (h : Effect s e t) (n : StreamHandle) :
    n ∈ t.liveStreams ↔ n ∈ s.liveStreams ∧ e.destroyed? ≠ some n ∨ e.setUp? = some n := by
  cases h with
  | quiet hquiet ht =>
    obtain ⟨-, -, hsetUp, hdestroyed⟩ := moves_nothing hquiet
    rw [State.liveStreams, ht.unaltered.streams]
    exact kept_iff hdestroyed hsetUp
  | @setUp d config _ =>
    refine (mem_putStream_iff (s := s.recorded "setup_stream")).trans ?_
    show n ∈ s.liveStreams ∨ (⟨s.nextHandle⟩ : StreamHandle) = n ↔
      n ∈ s.liveStreams ∧ none ≠ some n ∨ some (⟨s.nextHandle⟩ : StreamHandle) = some n
    rw [Option.some.injEq]
    simp
  | @destroyed d n' st _ _ _ =>
    show n ∈ (s.streams.erase n').keys ↔ n ∈ s.liveStreams ∧ some n' ≠ some n ∨ none = some n
    simp [Table.keys_erase, State.liveStreams, eq_comm (a := n)]
  | started hst => exact (mem_putStream_iff_of_live hst).trans (kept_iff rfl rfl)
  | stopped hst => exact (mem_putStream_iff_of_live hst).trans (kept_iff rfl rfl)
  | filled hst _ _ => exact (mem_putStream_iff_of_live hst).trans (kept_iff rfl rfl)
  | _ => exact kept_iff rfl rfl

/-- Handles of one kind: how they are numbered, which of them are live, and which deeds give them
out and take them back. -/
structure Lending (H : Type) where
  index : H → Nat
  live : State → List H
  given? : Deed → Option H
  returned? : Deed → Option H
  issued {e : Deed} {x : H} : given? e = some x → e.issued? = some (index x)
  live_iff {s t : State} {e : Deed} : Effect s e t →
    ∀ x, x ∈ live t ↔ x ∈ live s ∧ returned? e ≠ some x ∨ given? e = some x
  returned {s t : State} {e : Deed} {x : H} : Effect s e t → returned? e = some x → x ∈ live s
  numbered {s : State} : Reachable s → ∀ x ∈ live s, index x < s.nextHandle
  start (listed : List String) : live (.start listed) = []

namespace Lending

variable {H : Type} {listed : List String} {deeds : List Deed}

theorem index_of_given (L : Lending H) (h : Effect s e t) {x : H} (hx : L.given? e = some x) :
    L.index x = s.nextHandle := by
  rcases issued_of_effect h with ⟨hnone, -⟩ | ⟨hsome, -⟩
  · cases (L.issued hx).symm.trans hnone
  · exact Option.some.inj ((L.issued hx).symm.trans hsome)

theorem lt_of_returned (L : Lending H) (h : Session listed deeds s) :
    ∀ e ∈ deeds, ∀ x, L.returned? e = some x → L.index x < s.nextHandle := by
  refine Path.recorded (P := fun deeds s => ∀ e ∈ deeds, ∀ x, L.returned? e = some x →
    L.index x < s.nextHandle) h (fun e he => absurd he List.not_mem_nil) ?_
  intro past e u t hpast he ih e' he' x hx
  refine Nat.lt_of_lt_of_le ?_ (effect_of_does he).nextHandle_le
  rcases List.mem_append.mp he' with he' | he'
  · exact ih e' he' x hx
  · obtain rfl := List.mem_singleton.mp he'
    exact L.numbered (reachable_of_session hpast) x (L.returned (effect_of_does he) hx)

/-- A handle is live just when it was given out and not taken back. -/
theorem live_of_session (L : Lending H) (h : Session listed deeds s) (x : H) :
    x ∈ L.live s ↔
      (∃ e ∈ deeds, L.given? e = some x) ∧ ∀ e ∈ deeds, L.returned? e ≠ some x := by
  refine Path.recorded (P := fun deeds s => x ∈ L.live s ↔
    (∃ e ∈ deeds, L.given? e = some x) ∧ ∀ e ∈ deeds, L.returned? e ≠ some x) h ?_ ?_
  · rw [L.start]
    simp
  · intro past e u t hpast he ih
    have heffect := effect_of_does he
    have hgiven : (∃ e' ∈ past ++ [e], L.given? e' = some x) ↔
        (∃ e' ∈ past, L.given? e' = some x) ∨ L.given? e = some x := by
      simp [or_and_right, exists_or]
    rw [L.live_iff heffect, ih, hgiven, List.forall_mem_append, List.forall_mem_singleton]
    constructor
    · rintro (⟨⟨hgiven, hkept⟩, hnot⟩ | hgiven)
      · exact ⟨.inl hgiven, hkept, hnot⟩
      · -- the handle is new, so that nobody can have taken it back
        have hindex := L.index_of_given heffect hgiven
        refine ⟨.inr hgiven, fun e' he' hx => ?_, fun hx => ?_⟩
        · have hlt := L.lt_of_returned hpast e' he' x hx
          omega
        · have hlt := L.numbered (reachable_of_session hpast) x (L.returned heffect hx)
          omega
    · rintro ⟨hgiven | hgiven, hkept, hnot⟩
      · exact .inl ⟨⟨hgiven, hkept⟩, hnot⟩
      · exact .inr hgiven

end Lending

theorem mem_of_closed (h : Effect s e t) {d : DeviceHandle} (hd : e.closed? = some d) :
    d ∈ s.devices := by
  cases h with
  | quiet hquiet _ => cases (moves_nothing hquiet).2.1.symm.trans hd
  | closed hopen => exact Option.some.inj hd ▸ hopen
  | _ => cases hd

theorem mem_of_destroyed (h : Effect s e t) {n : StreamHandle} (hn : e.destroyed? = some n) :
    n ∈ s.liveStreams := by
  cases h with
  | quiet hquiet _ => cases (moves_nothing hquiet).2.2.2.symm.trans hn
  | destroyed _ hst _ => exact Option.some.inj hn ▸ Table.mem_keys_iff.mpr ⟨_, hst⟩
  | _ => cases hn

theorem Deed.issued?_of_opened? {d : DeviceHandle} (h : e.opened? = some d) :
    e.issued? = some d.index := by
  rw [issued?, h]
  rfl

theorem Deed.issued?_of_setUp? {n : StreamHandle} (h : e.setUp? = some n) :
    e.issued? = some n.index := by
  unfold setUp? at h
  split at h
  · cases h
    rfl
  · cases h

def deviceLending : Lending DeviceHandle where
  index := DeviceHandle.index
  live := State.devices
  given? := Deed.opened?
  returned? := Deed.closed?
  issued := Deed.issued?_of_opened?
  live_iff := mem_devices_of_effect
  returned h := mem_of_closed h
  numbered h := h.numbered.devices
  start _ := rfl

def streamLending : Lending StreamHandle where
  index := StreamHandle.index
  live := State.liveStreams
  given? := Deed.setUp?
  returned? := Deed.destroyed?
  issued := Deed.issued?_of_setUp?
  live_iff := mem_liveStreams_of_effect
  returned h := mem_of_destroyed h
  numbered h := h.numbered.streams
  start _ := rfl

/-- No deed after the one that takes a handle back gives its number out again. -/
theorem not_issued_of_released {listed : List String} {front rest : List Deed} {m : Nat}
    (h : Session listed (front ++ e :: rest) s) (hm : e.released? = some m) :
    m ∉ rest.filterMap Deed.issued? := by
  obtain ⟨u, hfront, hrest⟩ := Path.append_iff.mp h
  obtain ⟨v, he, hrest⟩ := Path.cons_iff.mp hrest
  have hnum : Numbered u := (reachable_of_session hfront).numbered
  have heffect := effect_of_does he
  have hlt : m < u.nextHandle := by
    rw [Deed.released?] at hm
    cases hclosed : e.closed? with
    | some d =>
      rw [hclosed] at hm
      cases hm
      exact hnum.devices d (mem_of_closed heffect hclosed)
    | none =>
      rw [hclosed, Option.map_none, Option.none_or, Option.map_eq_some_iff] at hm
      obtain ⟨n, hdestroyed, rfl⟩ := hm
      exact hnum.streams n (mem_of_destroyed heffect hdestroyed)
  have hold : m ∈ List.range v.nextHandle :=
    List.mem_range.mpr (Nat.lt_of_lt_of_le hlt heffect.nextHandle_le)
  -- the numbers given out from here on continue the range in which the number lies
  have hdistinct : (List.range v.nextHandle ++ rest.filterMap Deed.issued?).Nodup :=
    issued_of_path hrest ▸ List.nodup_range
  intro hagain
  exact (List.nodup_append.mp hdistinct).2.2 m hold m hagain rfl

end Simulator
end RadioBench
