/-
Plain decimal text of a double.

The text shows the fewest digits that read back as the same double.  It is
always positional: there is no exponent, however large or small the value, and a
whole value has no fraction part.  Zero keeps its sign.
-/
import RadioBench.Decimal.Shortest

namespace RadioBench
namespace Decimal

/-- The decimal digits of a natural number. -/
def digitsOf (n : Nat) : List Char := Nat.toDigits 10 n

/-- Positional text of `digits * 10 ^ exponent`. -/
def Scaled.plain (s : Scaled) : List Char :=
  let ds := digitsOf s.digits
  if 0 ≤ s.exponent then
    ds ++ List.replicate s.exponent.toNat '0'
  else
    let places := (-s.exponent).toNat
    if places < ds.length then
      ds.take (ds.length - places) ++ '.' :: ds.drop (ds.length - places)
    else
      '0' :: '.' :: (List.replicate (places - ds.length) '0' ++ ds)

/-- The text of the magnitude of a finite double. -/
def magnitude (x : Float) : List Char :=
  match Binary.ofFloat? x with
  | none => ['0']
  | some b => b.shortest.plain

/-- The sign bit, which a zero has too. -/
def isNegative (x : Float) : Bool := x.toBits >>> 63 = 1

def plain (x : Float) : String :=
  if x.isNaN then "NaN"
  else
    let body := if x.isInf then "inf".toList else magnitude x
    String.ofList (if isNegative x then '-' :: body else body)

end Decimal
end RadioBench
