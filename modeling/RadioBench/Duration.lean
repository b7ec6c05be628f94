/-
Spans of time, counted in nanoseconds.

A duration is a natural number of nanoseconds.  Differences stop at zero, so a
clock that runs backwards measures no time at all.  Sums are bounded: `add?`
fails exactly when the sum would exceed `limit`, the longest span that 64 bits
of seconds and a nanosecond count below one second can hold.
-/

namespace RadioBench

/-- A span of time.  Readings of a clock are spans since its origin. -/
structure Duration where
  nanos : Nat
  deriving DecidableEq, Repr, Inhabited

namespace Duration

def zero : Duration := ⟨0⟩

def ofMillis (n : Nat) : Duration := ⟨n * 1000000⟩

def ofSeconds (n : Nat) : Duration := ⟨n * 1000000000⟩

/-- Whole seconds and a nanosecond count, which may itself exceed a second. -/
def ofParts (seconds nanos : Nat) : Duration := ⟨seconds * 1000000000 + nanos⟩

/-- The longest span a clock can show. -/
def limit : Duration := ofParts (UInt64.size - 1) 999999999

instance : LE Duration := ⟨fun a b => a.nanos ≤ b.nanos⟩

instance : LT Duration := ⟨fun a b => a.nanos < b.nanos⟩

instance (a b : Duration) : Decidable (a ≤ b) :=
  inferInstanceAs (Decidable (a.nanos ≤ b.nanos))

instance (a b : Duration) : Decidable (a < b) :=
  inferInstanceAs (Decidable (a.nanos < b.nanos))

/-- The difference of two spans, zero when the second is the longer one. -/
instance : Sub Duration := ⟨fun a b => ⟨a.nanos - b.nanos⟩⟩

/-- The sum of two spans, unless no clock could show it. -/
def add? (a b : Duration) : Option Duration :=
  if a.nanos + b.nanos ≤ limit.nanos then some ⟨a.nanos + b.nanos⟩ else none

/-- Whole milliseconds; the rest of the last one is dropped. -/
def toMillis (d : Duration) : Nat := d.nanos / 1000000

theorem nanos_sub (a b : Duration) : (a - b).nanos = a.nanos - b.nanos := rfl

theorem lt_def (a b : Duration) : a < b ↔ a.nanos < b.nanos := Iff.rfl

/-- A sum that exists is the sum of the nanoseconds. -/
theorem add?_eq_some {a b c : Duration} (h : a.add? b = some c) :
    c.nanos = a.nanos + b.nanos := by
  unfold add? at h
  split at h
  · cases h; rfl
  · cases h

theorem add?_eq_none_iff (a b : Duration) :
    a.add? b = none ↔ limit.nanos < a.nanos + b.nanos := by
  unfold add?
  split <;> simp <;> omega

end Duration
end RadioBench
