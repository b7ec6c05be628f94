/-
Handles that a table issues and takes back.

A table of slots is used in two ways: a value is stored and its index issued as a handle, or
a handle that is in use is taken back.  From the moves alone one can tell which handles are
out, and under which values.  A table that was empty at first always has just these, and its
length remembers the largest number of them that were out at the same time.
-/
import Mathlib.Data.List.Perm.Subperm
import Mathlib.Order.Bounds.Defs
import RadioBench.Proofs.Native.Slots
import RadioBench.Proofs.Prog.Path

namespace RadioBench
namespace Native
namespace Slots

variable {α : Type}

inductive Move (α : Type)
  | issued (i : Nat) (a : α)
  | released (i : Nat)

/-- The handles that are out after a move, with their values. -/
def heldAfter (held : List (Nat × α)) : Move α → List (Nat × α)
  | .issued i a => held ++ [(i, a)]
  | .released i => held.filter fun e => e.1 ≠ i

/-- The handles that were issued and not released since, with their values, oldest first. -/
def held (moves : List (Move α)) : List (Nat × α) := moves.foldl heldAfter []

/-- What a move does to a table.  Only a handle in use is taken back. -/
inductive Moved : Move α → Slots α → Slots α → Prop
  | issued (t : Slots α) (a : α) : Moved (.issued (t.insert a).1 a) t (t.insert a).2
  | released (t : Slots α) {i : Nat} {a : α} (h : t.get? i = some a) :
      Moved (.released i) t (t.erase i)

/-- A table where a request made a move, or none. -/
def Follows : Option (Move α) → Slots α → Slots α → Prop
  | none, t, u => u = t
  | some m, t, u => Moved m t u

@[simp]
theorem held_concat (moves : List (Move α)) (m : Move α) :
    held (moves ++ [m]) = heldAfter (held moves) m := by
  simp [held]

/-! A request may make a move or not.  An entry comes with the issue of its handle, and goes
with the release. -/

section Requests

variable {ε : Type} {move? : ε → Option (Move α)} {es : List ε} {e : ε} {i : Nat} {a : α}

theorem mem_held_of_concat (h : (i, a) ∈ held ((es ++ [e]).filterMap move?)) :
    (i, a) ∈ held (es.filterMap move?) ∨ move? e = some (.issued i a) := by
  rw [List.filterMap_append] at h
  cases hm : move? e with
  | none => exact .inl (by simpa [hm] using h)
  | some m =>
    rw [List.filterMap_cons_some hm, List.filterMap_nil, held_concat] at h
    cases m with
    | issued j x =>
      rcases List.mem_append.mp h with hold | hnew
      · exact .inl hold
      · obtain ⟨rfl, rfl⟩ := Prod.mk.inj (List.mem_singleton.mp hnew)
        exact .inr rfl
    | released j => exact .inl (List.mem_of_mem_filter h)

theorem mem_held_concat (h : (i, a) ∈ held (es.filterMap move?)) :
    (i, a) ∈ held ((es ++ [e]).filterMap move?) ∨ move? e = some (.released i) := by
  rw [List.filterMap_append]
  cases hm : move? e with
  | none => exact .inl (by simpa [hm] using h)
  | some m =>
    rw [List.filterMap_cons_some hm, List.filterMap_nil, held_concat]
    cases m with
    | issued j x => exact .inl (List.mem_append_left _ h)
    | released j =>
      by_cases hij : i = j
      · exact .inr (hij ▸ rfl)
      · exact .inl (List.mem_filter.mpr ⟨h, decide_eq_true hij⟩)

end Requests

/-! ## The handles that are out -/

/-- The entries of the list are those of the table, each handle once. -/
structure Lists (entries : List (Nat × α)) (t : Slots α) : Prop where
  nodup : (entries.map Prod.fst).Nodup
  mem_iff : ∀ i a, (i, a) ∈ entries ↔ t.get? i = some a

namespace Lists

variable {t u : Slots α} {entries : List (Nat × α)} {m : Move α}

theorem nil : Lists [] (empty : Slots α) where
  nodup := List.nodup_nil
  mem_iff i a := by simp [empty, get?]

theorem mem_keys_iff (h : Lists entries t) {i : Nat} :
    i ∈ entries.map Prod.fst ↔ ∃ a, t.get? i = some a := by
  rw [List.mem_map]
  constructor
  · rintro ⟨⟨j, a⟩, he, rfl⟩
    exact ⟨a, (h.mem_iff j a).mp he⟩
  · rintro ⟨a, ha⟩
    exact ⟨(i, a), (h.mem_iff i a).mpr ha, rfl⟩

theorem moved (h : Lists entries t) (hm : Moved m t u) : Lists (heldAfter entries m) u := by
  cases hm with
  | issued t a =>
    have hnew : (t.insert a).1 ∉ entries.map Prod.fst := by
      rw [h.mem_keys_iff]
      rintro ⟨x, hx⟩
      rw [show (t.insert a).1 = t.firstFree from rfl, t.get?_firstFree] at hx
      cases hx
    constructor
    · rw [heldAfter, List.map_append, List.nodup_append_comm]
      exact List.nodup_cons.mpr ⟨hnew, h.nodup⟩
    · intro i x
      rw [heldAfter, List.mem_append, h.mem_iff, List.mem_singleton, Prod.mk.injEq, get?_insert]
      by_cases hi : t.firstFree = i
      · subst hi
        simp [t.get?_firstFree, insert, eq_comm]
      · simp [hi, insert, Ne.symm hi]
  | @released t i a hused =>
    constructor
    · exact h.nodup.sublist (List.filter_sublist.map Prod.fst)
    · intro j x
      rw [heldAfter, List.mem_filter, h.mem_iff, get?_erase hused]
      by_cases hij : i = j
      · simp [hij]
      · simp [hij, Ne.symm hij]

/-- There is a slot for every handle. -/
theorem length_le (h : Lists entries t) : entries.length ≤ t.size := by
  have hsub : entries.map Prod.fst ⊆ List.range t.size := by
    intro i hi
    obtain ⟨a, ha⟩ := h.mem_keys_iff.mp hi
    exact List.mem_range.mpr (lt_size_of_get? ha)
  simpa using (List.subperm_of_subset h.nodup hsub).length_le

/-- There is a handle for every slot below the lowest free one. -/
theorem firstFree_le_length (h : Lists entries t) : t.firstFree ≤ entries.length := by
  have hsub : List.range t.firstFree ⊆ entries.map Prod.fst := by
    intro i hi
    exact h.mem_keys_iff.mpr (t.exists_of_lt_firstFree (List.mem_range.mp hi))
  simpa using (List.subperm_of_subset List.nodup_range hsub).length_le

/-- The lowest free slot is the least handle that is not out. -/
theorem isLeast_firstFree (h : Lists entries t) :
    IsLeast {i | i ∉ entries.map Prod.fst} t.firstFree := by
  constructor
  · intro hmem
    obtain ⟨a, ha⟩ := h.mem_keys_iff.mp hmem
    rw [t.get?_firstFree] at ha
    cases ha
  · intro i hi
    refine Nat.le_of_not_lt fun hlt => hi ?_
    exact h.mem_keys_iff.mpr (t.exists_of_lt_firstFree hlt)

end Lists

/-- The same entries, in the order of their handles. -/
def InOrder (entries l : List (Nat × α)) : Prop :=
  l.Pairwise (fun e e' => e.1 < e'.1) ∧ ∀ e, e ∈ l ↔ e ∈ entries

theorem Lists.inOrder_toList {t : Slots α} {entries : List (Nat × α)} (h : Lists entries t) :
    InOrder entries t.toList := by
  refine ⟨t.sorted_toList, fun e => ?_⟩
  rw [mem_toList_iff]
  exact (h.mem_iff e.1 e.2).symm

/-! ## The account of a table -/

/-- The largest number of handles that were out at the same time. -/
def IsPeak (moves : List (Move α)) (n : Nat) : Prop :=
  IsGreatest {k | ∃ past, past <+: moves ∧ (held past).length = k} n

/-- A table that answers for the moves made on it.  Every handle that is out is out once and
stands for the value it was issued for, and a handle that is not out stands for none.  A new
handle is the least that is not out.  The table is as long as ever were handles out. -/
structure Account (moves : List (Move α)) (t : Slots α) : Prop where
  distinct : ((held moves).map Prod.fst).Nodup
  resolves : ∀ i a, (i, a) ∈ held moves ↔ t.get? i = some a
  lowest : ∀ past i a, past ++ [.issued i a] <+: moves →
    IsLeast {j | j ∉ (held past).map Prod.fst} i
  peak : IsPeak moves t.size

variable {t u : Slots α} {moves : List (Move α)} {m : Move α}

theorem isPeak_concat (h : IsPeak moves t.size) (hm : Moved m t u)
    (hlists : Lists (held moves) t) : IsPeak (moves ++ [m]) u.size := by
  obtain ⟨⟨past, hpast, hlength⟩, hle⟩ := h
  have hnow : (held (moves ++ [m])).length ≤ u.size := by
    rw [held_concat]
    exact (hlists.moved hm).length_le
  -- either the table did not grow, or all of its slots were in use
  have hsize : u.size = t.size ∨
      t.size ≤ u.size ∧ u.size ≤ (held (moves ++ [m])).length := by
    cases hm with
    | issued t a =>
      have hfree := t.firstFree_le
      have hout := hlists.firstFree_le_length
      rw [size_insert, held_concat, heldAfter, List.length_append, List.length_singleton]
      omega
    | released t hused => exact .inl (t.size_erase _)
  constructor
  · rcases hsize with hsize | ⟨-, hgrown⟩
    · exact ⟨past, hpast.trans (List.prefix_append _ _), hlength.trans hsize.symm⟩
    · exact ⟨moves ++ [m], List.prefix_rfl, Nat.le_antisymm hnow hgrown⟩
  · rintro k ⟨past, hpast, rfl⟩
    rcases List.prefix_concat_iff.mp hpast with rfl | hpast
    · exact hnow
    · have hold : (held past).length ≤ t.size := hle ⟨past, hpast, rfl⟩
      omega

theorem lists_of_path (h : Path Moved (empty : Slots α) moves t) : Lists (held moves) t := by
  refine h.recorded (P := fun ms t => Lists (held ms) t) .nil fun ms m t u _ hm hms => ?_
  rw [held_concat]
  exact hms.moved hm

theorem isPeak_of_path (h : Path Moved (empty : Slots α) moves t) : IsPeak moves t.size := by
  refine h.recorded (P := fun ms t => IsPeak ms t.size) ?_ fun ms m t u hpath hm hms =>
    isPeak_concat hms hm (lists_of_path hpath)
  refine ⟨⟨[], List.prefix_rfl, rfl⟩, ?_⟩
  rintro k ⟨past, hpast, rfl⟩
  rw [List.prefix_nil.mp hpast]
  exact Nat.le_refl _

theorem account_of_path (h : Path Moved (empty : Slots α) moves t) : Account moves t where
  distinct := (lists_of_path h).nodup
  resolves := (lists_of_path h).mem_iff
  lowest past i a hmove := by
    obtain ⟨t, t', hpast, hissued⟩ := h.of_prefix hmove
    cases hissued
    exact (lists_of_path hpast).isLeast_firstFree
  peak := isPeak_of_path h

end Slots
end Native
end RadioBench
