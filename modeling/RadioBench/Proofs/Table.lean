/-
The keys of a table.
-/
import RadioBench.Table

namespace RadioBench
namespace Table

variable {κ ν : Type} [DecidableEq κ]

omit [DecidableEq κ] in
@[simp]
theorem keys_empty : (empty : Table κ ν).keys = [] := rfl

theorem mem_keys_iff {t : Table κ ν} {k : κ} : k ∈ t.keys ↔ ∃ v, t.find? k = some v := by
  obtain ⟨es⟩ := t
  simp only [keys, find?]
  induction es with
  | nil => simp [findIn]
  | cons e rest ih =>
    obtain ⟨k₁, v₁⟩ := e
    by_cases hk : k₁ = k
    · simp [findIn, hk]
    · simp [findIn, hk, Ne.symm hk, ih]

theorem keys_set_of_not_mem {t : Table κ ν} {k : κ} (h : k ∉ t.keys) (v : ν) :
    (t.set k v).keys = t.keys ++ [k] := by
  obtain ⟨es⟩ := t
  simp only [keys, set] at h ⊢
  induction es with
  | nil => rfl
  | cons e rest ih =>
    obtain ⟨k₁, v₁⟩ := e
    simp only [List.map_cons, List.mem_cons, not_or] at h
    simp [setIn, Ne.symm h.1, ih h.2]

theorem keys_set_of_mem {t : Table κ ν} {k : κ} (h : k ∈ t.keys) (v : ν) :
    (t.set k v).keys = t.keys := by
  obtain ⟨es⟩ := t
  simp only [keys, set] at h ⊢
  induction es with
  | nil => cases h
  | cons e rest ih =>
    obtain ⟨k₁, v₁⟩ := e
    by_cases hk : k₁ = k
    · simp [setIn, hk]
    · simp only [List.map_cons, List.mem_cons, Ne.symm hk, false_or] at h
      simp [setIn, hk, ih h]

omit [DecidableEq κ] in
theorem keys_keep (t : Table κ ν) (p : κ → Bool) : (t.keep p).keys = t.keys.filter p := by
  simp [keys, keep, List.filter_map, Function.comp_def]

theorem keys_erase (t : Table κ ν) (k : κ) :
    (t.erase k).keys = t.keys.filter fun k' => decide (k' ≠ k) := keys_keep t _

theorem mem_entries_of_find? {t : Table κ ν} {k : κ} {v : ν} (h : t.find? k = some v) :
    (k, v) ∈ t.entries := by
  obtain ⟨es⟩ := t
  simp only [find?] at h ⊢
  induction es with
  | nil => cases h
  | cons e rest ih =>
    obtain ⟨k₁, v₁⟩ := e
    by_cases hk : k₁ = k
    · simp [findIn, hk] at h
      simp [hk, h]
    · exact List.mem_cons_of_mem _ (ih (by simpa [findIn, hk] using h))

theorem mem_entries_set {t : Table κ ν} {k k' : κ} {v v' : ν}
    (h : (k', v') ∈ (t.set k v).entries) : (k', v') = (k, v) ∨ (k', v') ∈ t.entries := by
  obtain ⟨es⟩ := t
  simp only [set] at h ⊢
  induction es with
  | nil => exact .inl (List.mem_singleton.mp h)
  | cons e rest ih =>
    obtain ⟨k₁, v₁⟩ := e
    by_cases hk : k₁ = k
    · rw [setIn, if_pos hk] at h
      exact (List.mem_cons.mp h).imp_right (List.mem_cons_of_mem _)
    · rw [setIn, if_neg hk] at h
      rcases List.mem_cons.mp h with heq | h
      · exact .inr (heq ▸ List.mem_cons_self)
      · exact (ih h).imp_right (List.mem_cons_of_mem _)

end Table
end RadioBench
