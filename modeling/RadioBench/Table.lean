/-
Finite tables: a value for each of finitely many keys.

The entries lie in a list in the order in which their keys first came.  Setting
a key that is present replaces its value in place.  `find?` is the view through
which tables are reasoned about.
-/

namespace RadioBench

structure Table (κ ν : Type) where
  entries : List (κ × ν)

namespace Table

variable {κ ν : Type} [DecidableEq κ]

def empty : Table κ ν := ⟨[]⟩

/-- Replace the value of a key in a list of entries, or add an entry at its end. -/
def setIn (k : κ) (v : ν) : List (κ × ν) → List (κ × ν)
  | [] => [(k, v)]
  | (k', v') :: rest => if k' = k then (k, v) :: rest else (k', v') :: setIn k v rest

/-- The value of the first entry for a key. -/
def findIn (k : κ) : List (κ × ν) → Option ν
  | [] => none
  | (k', v') :: rest => if k' = k then some v' else findIn k rest

def find? (t : Table κ ν) (k : κ) : Option ν := findIn k t.entries

def set (t : Table κ ν) (k : κ) (v : ν) : Table κ ν := ⟨setIn k v t.entries⟩

/-- Keep the entries whose keys satisfy `p`. -/
def keep (t : Table κ ν) (p : κ → Bool) : Table κ ν := ⟨t.entries.filter fun e => p e.1⟩

def erase (t : Table κ ν) (k : κ) : Table κ ν := t.keep fun k' => decide (k' ≠ k)

def keys (t : Table κ ν) : List κ := t.entries.map Prod.fst

theorem findIn_setIn (k k' : κ) (v : ν) (es : List (κ × ν)) :
    findIn k' (setIn k v es) = if k = k' then some v else findIn k' es := by
  induction es with
  | nil => simp [setIn, findIn]
  | cons e rest ih =>
    obtain ⟨k₁, v₁⟩ := e
    by_cases h : k₁ = k
    · subst h
      by_cases h' : k₁ = k' <;> simp [setIn, findIn, h']
    · by_cases h' : k₁ = k'
      · subst h'
        simp [setIn, findIn, h, Ne.symm h]
      · simp [setIn, findIn, h, h', ih]

theorem find?_set (t : Table κ ν) (k k' : κ) (v : ν) :
    (t.set k v).find? k' = if k = k' then some v else t.find? k' :=
  findIn_setIn k k' v t.entries

theorem find?_set_self (t : Table κ ν) (k : κ) (v : ν) : (t.set k v).find? k = some v := by
  simp [find?_set]

theorem find?_set_of_ne (t : Table κ ν) {k k' : κ} (h : k ≠ k') (v : ν) :
    (t.set k v).find? k' = t.find? k' := by
  simp [find?_set, h]

theorem find?_keep (t : Table κ ν) (p : κ → Bool) (k : κ) :
    (t.keep p).find? k = if p k then t.find? k else none := by
  obtain ⟨es⟩ := t
  simp only [keep, find?]
  induction es with
  | nil => simp [findIn]
  | cons e rest ih =>
    obtain ⟨k₁, v₁⟩ := e
    by_cases hp : p k₁ = true
    · by_cases hk : k₁ = k
      · subst hk; simp [findIn, hp]
      · simp [findIn, hp, hk, ih]
    · by_cases hk : k₁ = k
      · subst hk; simp [hp, ih]
      · simp [findIn, hp, hk, ih]

theorem find?_erase_self (t : Table κ ν) (k : κ) : (t.erase k).find? k = none := by
  simp [erase, find?_keep]

theorem find?_erase_of_ne (t : Table κ ν) {k k' : κ} (h : k' ≠ k) :
    (t.erase k).find? k' = t.find? k' := by
  simp [erase, find?_keep, h]

end Table
end RadioBench
