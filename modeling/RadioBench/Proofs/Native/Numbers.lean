/-
The library's own numbers.

The library knows directions by a flag, and test signals, filters and sample formats by numbers.
The tables here list them as its header does, with the sizes that go with them.  They are
relations, and none of them is made from the functions by which the driver finds a number, so a
statement in their terms holds the driver to the header.

For each table one lemma says that the driver's number stands in it, and where a statement has to
be read back, another says that no other number does.  A number that the library stored may stand
in no table.  `TestSignal.ReadAs` says what is then made of it.
-/
import RadioBench.Radio.Streaming
import RadioBench.Radio.Tuning

namespace RadioBench

/-- The flag of a direction. -/
inductive Direction.Flagged : Direction → Bool → Prop
  | rx : Flagged .rx false
  | tx : Flagged .tx true

theorem Direction.flagged_isTx (dir : Direction) : dir.Flagged dir.isTx := by
  cases dir with
  | rx => exact .rx
  | tx => exact .tx

theorem Direction.Flagged.eq_isTx {dir : Direction} {flag : Bool} (h : dir.Flagged flag) :
    flag = dir.isTx := by
  cases h <;> rfl

namespace DataFormat

inductive Numbered : DataFormat → UInt32 → Prop
  | f32 : Numbered .f32 0
  | i16 : Numbered .i16 1
  | i12 : Numbered .i12 2

/-- The bytes that the library moves for each sample. -/
inductive Sized : DataFormat → Nat → Prop
  | f32 : Sized .f32 8
  | i16 : Sized .i16 4
  | i12 : Sized .i12 3

theorem numbered_code (format : DataFormat) : format.Numbered format.code := by
  cases format <;> constructor

theorem sized_sampleSize (format : DataFormat) : format.Sized format.sampleSize := by
  cases format <;> constructor

end DataFormat

namespace Gfir

inductive Numbered : Gfir → UInt32 → Prop
  | gfir1 : Numbered .gfir1 0
  | gfir2 : Numbered .gfir2 1
  | gfir3 : Numbered .gfir3 2

/-- How many coefficients a filter takes. -/
inductive Takes : Gfir → Nat → Prop
  | gfir1 : Takes .gfir1 40
  | gfir2 : Takes .gfir2 40
  | gfir3 : Takes .gfir3 120

theorem numbered_code (filter : Gfir) : filter.Numbered filter.code := by
  cases filter <;> constructor

theorem takes_coeffCount (filter : Gfir) : filter.Takes filter.coeffCount := by
  cases filter <;> constructor

end Gfir

namespace TestSignal

inductive Numbered : TestSignal → UInt32 → Prop
  | none : Numbered .none 0
  | ncoDiv8 : Numbered .ncoDiv8 1
  | ncoDiv4 : Numbered .ncoDiv4 2
  | ncoDiv8F : Numbered .ncoDiv8F 3
  | ncoDiv4F : Numbered .ncoDiv4F 4
  | dc : Numbered .dc 5

/-- The signal that a number is read as.  There is none behind a number that is not listed. -/
inductive ReadAs : UInt32 → TestSignal → Prop
  | listed {number : UInt32} {signal : TestSignal} (h : signal.Numbered number) :
      ReadAs number signal
  | unlisted {number : UInt32} (h : ∀ signal : TestSignal, ¬ signal.Numbered number) :
      ReadAs number .none

variable {number : UInt32} {signal : TestSignal}

theorem numbered_code (signal : TestSignal) : signal.Numbered signal.code := by
  cases signal <;> constructor

theorem Numbered.eq_code (h : signal.Numbered number) : number = signal.code := by
  cases h <;> rfl

theorem Numbered.ofCode_eq (h : signal.Numbered number) : ofCode number = signal := by
  rw [h.eq_code, ofCode_code]

theorem numbered_ofCode (h : ofCode number ≠ .none) : (ofCode number).Numbered number := by
  unfold ofCode at h ⊢
  repeat' split
  all_goals simp_all [Numbered.ncoDiv8, Numbered.ncoDiv4, Numbered.ncoDiv8F, Numbered.ncoDiv4F,
    Numbered.dc]

theorem readAs_ofCode (number : UInt32) : ReadAs number (ofCode number) := by
  by_cases hlisted : ∃ signal : TestSignal, signal.Numbered number
  · obtain ⟨signal, hsignal⟩ := hlisted
    rw [hsignal.ofCode_eq]
    exact .listed hsignal
  · have hnone : ofCode number = .none :=
      Decidable.byContradiction fun hne => hlisted ⟨_, numbered_ofCode hne⟩
    rw [hnone]
    exact .unlisted fun signal hsignal => hlisted ⟨signal, hsignal⟩

end TestSignal
end RadioBench
