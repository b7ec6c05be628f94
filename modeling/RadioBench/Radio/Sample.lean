/-
Sample formats and host buffers.

A buffer is the memory that one read fills or one write empties.  Its bytes are
typed by a format.  A buffer of floating or 16-bit samples holds whole samples
only.  A buffer of packed 12-bit samples is raw bytes, and its last one or two
bytes may be no whole sample.
-/

namespace RadioBench

/-- How a sample lies in host memory. -/
inductive DataFormat
  /-- Two 32-bit floats. -/
  | f32
  /-- Two 16-bit integers. -/
  | i16
  /-- Two 12-bit integers, packed into three bytes. -/
  | i12
  deriving DecidableEq, Repr, Inhabited

namespace DataFormat

/-- The bytes that one complex sample takes. -/
def sampleSize : DataFormat → Nat
  | f32 => 8
  | i16 => 4
  | i12 => 3

def ofCode (n : UInt32) : DataFormat :=
  if n = 1 then i16 else if n = 2 then i12 else f32

def code : DataFormat → UInt32
  | f32 => 0
  | i16 => 1
  | i12 => 2

def text : DataFormat → String
  | f32 => "F32"
  | i16 => "I16"
  | i12 => "I12"

theorem sampleSize_pos (f : DataFormat) : 0 < f.sampleSize := by cases f <;> decide

end DataFormat

/-- How a sample travels between host and radio. -/
inductive LinkFormat
  | default
  | i16
  | i12
  deriving DecidableEq, Repr, Inhabited

namespace LinkFormat

def code : LinkFormat → UInt32
  | default => 0
  | i16 => 1
  | i12 => 2

def text : LinkFormat → String
  | default => "Default"
  | i16 => "I16"
  | i12 => "I12"

def ofText? (s : String) : Option LinkFormat :=
  if s = "Default" then some default
  else if s = "I16" then some i16
  else if s = "I12" then some i12
  else none

end LinkFormat

structure SampleBuffer where
  format : DataFormat
  bytes : Array UInt8
  whole : format = .i12 ∨ bytes.size % format.sampleSize = 0

namespace SampleBuffer

/-- A buffer of `samples` zero samples. -/
def zeros (format : DataFormat) (samples : Nat) : SampleBuffer where
  format := format
  bytes := Array.replicate (samples * format.sampleSize) 0
  whole := by right; simp

/-- A buffer of packed samples over any bytes. -/
def packed (bytes : Array UInt8) : SampleBuffer where
  format := .i12
  bytes := bytes
  whole := Or.inl rfl

/-- The complex samples the buffer has room for. -/
def capacity (b : SampleBuffer) : Nat := b.bytes.size / b.format.sampleSize

/-- The items of the buffer: bytes when it is packed, samples otherwise. -/
def elements (b : SampleBuffer) : Nat :=
  match b.format with
  | .i12 => b.bytes.size
  | _ => b.capacity

/-- The bytes of the first `samples` samples. -/
def leading (b : SampleBuffer) (samples : Nat) : Array UInt8 :=
  b.bytes.take (samples * b.format.sampleSize)

/-- Put bytes in front of what is left of the old ones behind them. -/
def overlay (old new : Array UInt8) : Array UInt8 :=
  new.take old.size ++ old.drop new.size

theorem size_overlay (old new : Array UInt8) : (overlay old new).size = old.size := by
  simp only [overlay, Array.take_eq_extract, Array.drop_eq_extract, Array.size_append,
    Array.size_extract]
  omega

/-- Store data at the start of the buffer.  The buffer keeps its size, and data
beyond `samples` samples is not stored. -/
def store (b : SampleBuffer) (samples : Nat) (data : Array UInt8) : SampleBuffer where
  format := b.format
  bytes := overlay b.bytes (data.take (samples * b.format.sampleSize))
  whole := by rw [size_overlay]; exact b.whole

/-- The samples that fit are the samples the bytes hold. -/
theorem capacity_mul_le (b : SampleBuffer) :
    b.capacity * b.format.sampleSize ≤ b.bytes.size :=
  Nat.div_mul_le_self _ _

theorem capacity_zeros (format : DataFormat) (samples : Nat) :
    (zeros format samples).capacity = samples := by
  simp [zeros, capacity, Nat.mul_div_cancel _ format.sampleSize_pos]

/-- The four bytes of a word, lowest first. -/
def bytesOfWord (w : UInt32) : List UInt8 :=
  [w.toUInt8, (w >>> 8).toUInt8, (w >>> 16).toUInt8, (w >>> 24).toUInt8]

/-- The two bytes of a half word, lowest first. -/
def bytesOfHalf (h : UInt16) : List UInt8 := [h.toUInt8, (h >>> 8).toUInt8]

def wordOfBytes (b0 b1 b2 b3 : UInt8) : UInt32 :=
  b0.toUInt32 ||| (b1.toUInt32 <<< 8) ||| (b2.toUInt32 <<< 16) ||| (b3.toUInt32 <<< 24)

def halfOfBytes (b0 b1 : UInt8) : UInt16 := b0.toUInt16 ||| (b1.toUInt16 <<< 8)

/-- The bytes of complex floating samples, real part first. -/
def bytesOfF32 : List (Float32 × Float32) → List UInt8
  | [] => []
  | (re, im) :: rest => bytesOfWord re.toBits ++ bytesOfWord im.toBits ++ bytesOfF32 rest

/-- The bytes of complex 16-bit samples, real part first. -/
def bytesOfI16 : List (Int16 × Int16) → List UInt8
  | [] => []
  | (re, im) :: rest => bytesOfHalf re.toUInt16 ++ bytesOfHalf im.toUInt16 ++ bytesOfI16 rest

theorem length_bytesOfF32 (xs : List (Float32 × Float32)) :
    (bytesOfF32 xs).length = 8 * xs.length := by
  induction xs with
  | nil => rfl
  | cons x rest ih => simp only [bytesOfF32, bytesOfWord, List.length_append, List.length_cons,
      List.length_nil, ih]; omega

theorem length_bytesOfI16 (xs : List (Int16 × Int16)) :
    (bytesOfI16 xs).length = 4 * xs.length := by
  induction xs with
  | nil => rfl
  | cons x rest ih => simp only [bytesOfI16, bytesOfHalf, List.length_append, List.length_cons,
      List.length_nil, ih]; omega

/-- A buffer that holds the given floating samples. -/
def ofF32 (xs : List (Float32 × Float32)) : SampleBuffer where
  format := .f32
  bytes := (bytesOfF32 xs).toArray
  whole := by right; simp [DataFormat.sampleSize, length_bytesOfF32]

/-- A buffer that holds the given 16-bit samples. -/
def ofI16 (xs : List (Int16 × Int16)) : SampleBuffer where
  format := .i16
  bytes := (bytesOfI16 xs).toArray
  whole := by right; simp [DataFormat.sampleSize, length_bytesOfI16]

/-- The byte at a position, zero beyond the end. -/
def byteAt (b : SampleBuffer) (i : Nat) : UInt8 := b.bytes.getD i 0

def wordAt (b : SampleBuffer) (i : Nat) : UInt32 :=
  wordOfBytes (b.byteAt i) (b.byteAt (i + 1)) (b.byteAt (i + 2)) (b.byteAt (i + 3))

def halfAt (b : SampleBuffer) (i : Nat) : UInt16 := halfOfBytes (b.byteAt i) (b.byteAt (i + 1))

/-- The complex floating sample with the given number. -/
def f32At (b : SampleBuffer) (n : Nat) : Float32 × Float32 :=
  (Float32.ofBits (b.wordAt (8 * n)), Float32.ofBits (b.wordAt (8 * n + 4)))

/-- The complex 16-bit sample with the given number. -/
def i16At (b : SampleBuffer) (n : Nat) : Int16 × Int16 :=
  ((b.halfAt (4 * n)).toInt16, (b.halfAt (4 * n + 2)).toInt16)

/-- The items of a buffer, by its format. -/
inductive Contents
  | f32 (samples : List (Float32 × Float32))
  | i16 (samples : List (Int16 × Int16))
  | i12 (bytes : List UInt8)

def contents (b : SampleBuffer) : Contents :=
  match b.format with
  | .f32 => .f32 ((List.range b.capacity).map b.f32At)
  | .i16 => .i16 ((List.range b.capacity).map b.i16At)
  | .i12 => .i12 b.bytes.toList

end SampleBuffer
end RadioBench
