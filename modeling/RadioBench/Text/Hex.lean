/-
Lower-case hexadecimal text of fixed width.
-/

namespace RadioBench
namespace Text
namespace Hex

/-- The hexadecimal digit of `n`, for `n` below 16. -/
def digit (n : Nat) : Char := Nat.digitChar (n % 16)

/-- The lowest `width` hexadecimal digits of `n`, most significant first. -/
def digits : (width : Nat) → Nat → List Char
  | 0, _ => []
  | width + 1, n => digits width (n / 16) ++ [digit n]

/-- The bits of a double as sixteen digits.  All NaNs share one word, since
their bits are not specified. -/
def ofFloat (x : Float) : String :=
  if x.isNaN then "nan" else String.ofList (digits 16 x.toBits.toNat)

/-- Two digits for each byte. -/
def ofBytes (bs : List UInt8) : String :=
  String.ofList (bs.flatMap fun b => digits 2 b.toNat)

end Hex
end Text
end RadioBench
