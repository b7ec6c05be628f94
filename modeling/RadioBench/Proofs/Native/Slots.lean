/-
Tables of slots as partial functions.

A table is known by `get?`.  Storing a value uses one slot that was free, the lowest, and
leaves all others as they are.  Freeing that slot gives the same table again.
-/
import Mathlib.Data.List.Nodup
import RadioBench.Native.Slots

namespace RadioBench
namespace Native
namespace Slots

variable {α : Type} {t u v : Slots α} {i : Nat} {a : α}

/-- The slots in use and their values are the same.  The number of free slots may differ. -/
def Same (t u : Slots α) : Prop := ∀ i, u.get? i = t.get? i

/-- One slot that was free is in use. -/
def Gains (t u : Slots α) (i : Nat) (a : α) : Prop :=
  t.get? i = none ∧ u.get? i = some a ∧ ∀ j, j ≠ i → u.get? j = t.get? j

theorem Same.refl (t : Slots α) : Same t t := fun _ => rfl

theorem Same.trans_gains (h : Same t u) (h' : Gains u v i a) : Gains t v i a := by
  obtain ⟨hfree, hused, hrest⟩ := h'
  exact ⟨(h i).symm.trans hfree, hused, fun j hj => (hrest j hj).trans (h j)⟩

theorem get?_setIfInBounds (t : Slots α) (i j : Nat) (x : Option α) (hi : i < t.size) :
    (Slots.mk (t.slots.setIfInBounds i x)).get? j = if i = j then x else t.get? j := by
  rw [get?, Array.getElem?_setIfInBounds]
  by_cases hij : i = j
  · subst hij
    simp [show i < t.slots.size from hi]
  · simp [hij, get?]

theorem get?_of_size_le (t : Slots α) {i : Nat} (hi : t.size ≤ i) : t.get? i = none := by
  rw [get?, Array.getElem?_eq_none hi, Option.join_none]

theorem get?_firstFree (t : Slots α) : t.get? t.firstFree = none := by
  rw [firstFree]
  cases h : t.slots.toList.findIdx? Option.isNone with
  | none => exact t.get?_of_size_le (Nat.le_refl _)
  | some i =>
    obtain ⟨hi, hnone, -⟩ := List.findIdx?_eq_some_iff_getElem.mp h
    rw [Option.getD_some, get?, ← Array.getElem?_toList, List.getElem?_eq_getElem hi,
      Option.isNone_iff_eq_none.mp hnone]
    rfl

theorem firstFree_le (t : Slots α) : t.firstFree ≤ t.size := by
  rw [firstFree]
  cases h : t.slots.toList.findIdx? Option.isNone with
  | none => exact Nat.le_refl _
  | some i =>
    obtain ⟨hi, -⟩ := List.findIdx?_eq_some_iff_getElem.mp h
    exact Nat.le_of_lt hi

theorem exists_of_lt_firstFree (t : Slots α) {j : Nat} (hj : j < t.firstFree) :
    ∃ a, t.get? j = some a := by
  have hsize : j < t.slots.toList.length := Nat.lt_of_lt_of_le hj t.firstFree_le
  have hused : (t.slots.toList[j]).isNone = false := by
    rw [firstFree] at hj
    cases h : t.slots.toList.findIdx? Option.isNone with
    | none => exact List.findIdx?_eq_none_iff.mp h _ (List.getElem_mem hsize)
    | some i =>
      rw [h, Option.getD_some] at hj
      obtain ⟨hi, hfree, hbefore⟩ := List.findIdx?_eq_some_iff_getElem.mp h
      exact eq_false_of_ne_true (hbefore j hj)
  obtain ⟨a, ha⟩ := Option.isSome_iff_exists.mp (Option.isNone_eq_false_iff.mp hused)
  exact ⟨a, by rw [get?, ← Array.getElem?_toList, List.getElem?_eq_getElem hsize, ha]; rfl⟩

theorem get?_insert (t : Slots α) (a : α) (j : Nat) :
    (t.insert a).2.get? j = if t.firstFree = j then some a else t.get? j := by
  simp only [insert]
  by_cases hi : t.firstFree < t.slots.size
  · rw [if_pos hi]
    exact t.get?_setIfInBounds t.firstFree j (some a) hi
  · have hsize : t.firstFree = t.slots.size :=
      Nat.le_antisymm t.firstFree_le (Nat.le_of_not_lt hi)
    rw [if_neg hi, get?, Array.getElem?_push, hsize]
    by_cases hj : j = t.slots.size
    · simp [hj]
    · simp [hj, Ne.symm hj, get?]

theorem insert_gains (t : Slots α) (a : α) : Gains t (t.insert a).2 (t.insert a).1 a := by
  refine ⟨t.get?_firstFree, ?_, fun j hj => ?_⟩
  · rw [get?_insert]
    exact if_pos rfl
  · rw [get?_insert]
    exact if_neg (Ne.symm hj)

theorem lt_size_of_get? {i : Nat} {a : α} (h : t.get? i = some a) : i < t.size := by
  refine Nat.lt_of_not_le fun hi => ?_
  rw [t.get?_of_size_le hi] at h
  cases h

theorem get?_erase (h : t.get? i = some a) (j : Nat) :
    (t.erase i).get? j = if i = j then none else t.get? j :=
  t.get?_setIfInBounds i j none (lt_size_of_get? h)

theorem Gains.erase (h : Gains t u i a) : Same t (u.erase i) := by
  obtain ⟨hfree, hused, hrest⟩ := h
  intro j
  rw [get?_erase hused]
  by_cases hij : i = j
  · rw [if_pos hij, ← hij, hfree]
  · rw [if_neg hij, hrest j (Ne.symm hij)]

theorem get?_modify (h : t.get? i = some a) (f : α → α) (j : Nat) :
    (t.modify i f).get? j = if i = j then some (f a) else t.get? j := by
  rw [modify, h]
  exact t.get?_setIfInBounds i j _ (lt_size_of_get? h)

theorem Gains.modify (h : Gains t u i a) (f : α → α) : Gains t (u.modify i f) i (f a) := by
  obtain ⟨hfree, hused, hrest⟩ := h
  refine ⟨hfree, by rw [get?_modify hused, if_pos rfl], fun j hj => ?_⟩
  rw [get?_modify hused, if_neg (Ne.symm hj), hrest j hj]

/-- A value is changed as if it were taken out and the new one stored in its place. -/
theorem erase_gains_modify (h : t.get? i = some a) (f : α → α) :
    Gains (t.erase i) (t.modify i f) i (f a) := by
  refine ⟨by rw [get?_erase h, if_pos rfl], by rw [get?_modify h, if_pos rfl], fun j hj => ?_⟩
  rw [get?_modify h, get?_erase h, if_neg (Ne.symm hj), if_neg (Ne.symm hj)]

/-! ## The number of slots -/

/-- The table grows by a slot only when none is free. -/
theorem size_insert (t : Slots α) (a : α) :
    (t.insert a).2.size = max t.size (t.firstFree + 1) := by
  have hle := t.firstFree_le
  simp only [insert, size] at hle ⊢
  split
  · rw [Array.size_setIfInBounds]
    omega
  · rw [Array.size_push]
    omega

theorem size_erase (t : Slots α) (i : Nat) : (t.erase i).size = t.size := by
  simp only [erase, size, Array.size_setIfInBounds]

/-! ## A view of the values -/

/-- The same slots, with a view of each value. -/
def map {β : Type} (f : α → β) (t : Slots α) : Slots β := ⟨t.slots.map (Option.map f)⟩

variable {β : Type} (f : α → β)

@[simp]
theorem get?_map (t : Slots α) (i : Nat) : (t.map f).get? i = (t.get? i).map f := by
  simp only [map, get?, Array.getElem?_map]
  rcases t.slots[i]? with _ | _ | a <;> rfl

@[simp]
theorem size_map (t : Slots α) : (t.map f).size = t.size := by
  simp only [map, size, Array.size_map]

theorem map_empty : (empty : Slots α).map f = empty := by simp [map, empty]

theorem map_erase (t : Slots α) (i : Nat) : (t.erase i).map f = (t.map f).erase i := by
  simp only [map, erase, Array.map_setIfInBounds, Option.map_none]

theorem firstFree_map (t : Slots α) : (t.map f).firstFree = t.firstFree := by
  have hsame : Option.isNone ∘ Option.map f = (Option.isNone : Option α → Bool) := by
    funext x
    cases x <;> rfl
  simp only [map, firstFree, Array.toList_map, Array.size_map, List.findIdx?_map, hsame]

theorem map_insert (t : Slots α) (a : α) :
    (t.map f).insert (f a) = ((t.insert a).1, (t.insert a).2.map f) := by
  have hslots : (t.map f).slots = t.slots.map (Option.map f) := rfl
  simp only [insert, firstFree_map, hslots, Array.size_map]
  refine Prod.ext rfl (congrArg Slots.mk ?_)
  split
  · rw [Array.map_setIfInBounds, Option.map_some]
  · rw [Array.map_push, Option.map_some]

/-- A change that the view does not show. -/
theorem map_modify (t : Slots α) (i : Nat) {g : α → α} (hg : ∀ a, f (g a) = f a) :
    (t.modify i g).map f = t.map f := by
  rw [modify]
  cases hi : t.get? i with
  | none => rfl
  | some a =>
    have hsize : i < t.slots.size := lt_size_of_get? hi
    have hused : t.slots[i]? = some (some a) := Option.join_eq_some_iff.mp hi
    refine congrArg Slots.mk (Array.ext_getElem? fun j => ?_)
    rw [Array.getElem?_map, Array.getElem?_map, Array.getElem?_setIfInBounds]
    by_cases hij : i = j
    · subst hij
      rw [if_pos rfl, if_pos hsize, hused]
      simp [hg]
    · rw [if_neg hij]

/-! ## Tables whose slots hold different values -/

def Holds (t : Slots α) (a : α) : Prop := ∃ i, t.get? i = some a

/-- No two slots hold the same value. -/
def Distinct (t : Slots α) : Prop := ∀ i j a, t.get? i = some a → t.get? j = some a → i = j

theorem not_holds_empty (a : α) : ¬ (empty : Slots α).Holds a := by
  rintro ⟨i, hi⟩
  simp [empty, get?] at hi

theorem distinct_empty : (empty : Slots α).Distinct :=
  fun i _ a hi _ => absurd ⟨i, hi⟩ (not_holds_empty a)

theorem Gains.holds_iff (h : Gains t u i a) {x : α} : u.Holds x ↔ t.Holds x ∨ x = a := by
  obtain ⟨hfree, hused, hrest⟩ := h
  constructor
  · rintro ⟨j, hj⟩
    by_cases hji : j = i
    · subst hji
      exact .inr (Option.some.inj (hj.symm.trans hused))
    · exact .inl ⟨j, (hrest j hji).symm.trans hj⟩
  · rintro (⟨j, hj⟩ | rfl)
    · have hji : j ≠ i := by
        rintro rfl
        rw [hfree] at hj
        cases hj
      exact ⟨j, (hrest j hji).trans hj⟩
    · exact ⟨i, hused⟩

theorem Gains.distinct (h : Gains t u i a) (ht : t.Distinct) (ha : ¬ t.Holds a) :
    u.Distinct := by
  obtain ⟨-, hused, hrest⟩ := h
  have hother : ∀ j x, j ≠ i → u.get? j = some x → t.get? j = some x :=
    fun j x hj hx => (hrest j hj).symm.trans hx
  intro j k x hj hk
  by_cases hji : j = i
  · subst hji
    obtain rfl : a = x := Option.some.inj (hused.symm.trans hj)
    exact (Decidable.byContradiction fun hkj => ha ⟨k, hother k a (Ne.symm hkj) hk⟩)
  · by_cases hki : k = i
    · subst hki
      obtain rfl : a = x := Option.some.inj (hused.symm.trans hk)
      exact absurd ⟨j, hother j a hji hj⟩ ha
    · exact ht j k x (hother j x hji hj) (hother k x hki hk)

theorem holds_erase_iff (ht : t.Distinct) (h : t.get? i = some a) {x : α} :
    (t.erase i).Holds x ↔ t.Holds x ∧ x ≠ a := by
  constructor
  · rintro ⟨j, hj⟩
    rw [get?_erase h] at hj
    by_cases hij : i = j
    · rw [if_pos hij] at hj
      cases hj
    · rw [if_neg hij] at hj
      refine ⟨⟨j, hj⟩, ?_⟩
      rintro rfl
      exact hij (ht i j x h hj)
  · rintro ⟨⟨j, hj⟩, hx⟩
    have hij : i ≠ j := by
      rintro rfl
      exact hx (Option.some.inj (hj.symm.trans h))
    exact ⟨j, by rw [get?_erase h, if_neg hij, hj]⟩

theorem Distinct.erase (ht : t.Distinct) (h : t.get? i = some a) : (t.erase i).Distinct := by
  have hkept : ∀ j x, (t.erase i).get? j = some x → t.get? j = some x := by
    intro j x hj
    rw [get?_erase h] at hj
    by_cases hij : i = j
    · rw [if_pos hij] at hj
      cases hj
    · rwa [if_neg hij] at hj
  exact fun j k x hj hk => ht j k x (hkept j x hj) (hkept k x hk)

/-! ## The list of the values -/

theorem mem_toList_iff (t : Slots α) {e : Nat × α} : e ∈ t.toList ↔ t.get? e.1 = some e.2 := by
  rw [toList, List.mem_filterMap]
  constructor
  · rintro ⟨i, -, hi⟩
    obtain ⟨a, ha, rfl⟩ := Option.map_eq_some_iff.mp hi
    exact ha
  · intro he
    exact ⟨e.1, List.mem_range.mpr (lt_size_of_get? he), by rw [he]; rfl⟩

theorem sorted_toList (t : Slots α) : t.toList.Pairwise fun e e' => e.1 < e'.1 := by
  refine List.pairwise_lt_range.filterMap _ fun i j hij e he e' he' => ?_
  obtain ⟨a, -, rfl⟩ := Option.map_eq_some_iff.mp he
  obtain ⟨a', -, rfl⟩ := Option.map_eq_some_iff.mp he'
  exact hij

theorem toList_map {β : Type} (f : α → β) (t : Slots α) :
    (t.map f).toList = t.toList.map (Prod.map id f) := by
  have hsize : (t.map f).slots.size = t.slots.size := size_map f t
  rw [toList, toList, List.map_filterMap, hsize]
  refine List.filterMap_congr fun i _ => ?_
  rw [get?_map]
  cases t.get? i <;> rfl

theorem map_snd_toList (t : Slots α) :
    t.toList.map Prod.snd = (List.range t.size).filterMap t.get? := by
  rw [toList, List.map_filterMap]
  refine List.filterMap_congr fun i _ => ?_
  cases t.get? i <;> rfl

theorem mem_values_iff (t : Slots α) {x : α} : x ∈ t.toList.map Prod.snd ↔ t.Holds x := by
  rw [map_snd_toList, List.mem_filterMap]
  constructor
  · rintro ⟨i, -, hi⟩
    exact ⟨i, hi⟩
  · rintro ⟨i, hi⟩
    exact ⟨i, List.mem_range.mpr (lt_size_of_get? hi), hi⟩

theorem Distinct.nodup (ht : t.Distinct) : (t.toList.map Prod.snd).Nodup := by
  rw [map_snd_toList]
  exact List.nodup_range.filterMap fun i j a hi hj => ht i j a hi hj

end Slots
end Native
end RadioBench
