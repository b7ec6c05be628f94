/-
The shortest decimal that reads back as a given binary fraction.

A positive binary fraction `mantissa * 2 ^ exponent` stands for all reals that
round to it.  They form an interval around it: half a unit of the last place to
each side, a quarter below when the fraction is the lowest of its binade.  The
ends belong to the interval exactly when the mantissa is even, because a tie
goes to the even neighbour.

On the grid of multiples of `10 ^ k` only the two neighbours of the value can be
the nearest point inside the interval, so it is enough to test those two.  The
coarsest grid with a hit gives the fewest digits.  Of two hits the nearer one is
taken and an exact tie goes up.  All comparisons are made on natural numbers.
-/

namespace RadioBench
namespace Decimal

/-- A positive binary fraction.  `narrow` says that the next fraction below is
only half as far away as the next one above. -/
structure Binary where
  mantissa : Nat
  exponent : Int
  narrow : Bool
  deriving DecidableEq, Repr

/-- A decimal `digits * 10 ^ exponent`. -/
structure Scaled where
  digits : Nat
  exponent : Int
  deriving DecidableEq, Repr

namespace Binary

/-- The value in quarters of a unit of the last place, and the ends of the
interval in the same measure. -/
def quarters (b : Binary) : Nat × Nat × Nat :=
  (4 * b.mantissa - (if b.narrow then 1 else 2), 4 * b.mantissa, 4 * b.mantissa + 2)

/-- Two factors that bring quarters of the last place and multiples of `10 ^ k`
to a common measure: a quarter is `fst` of it, a grid step is `snd`. -/
def measures (b : Binary) (k : Int) : Nat × Nat :=
  let q := b.exponent - 2
  (Nat.pow 10 (-k).toNat <<< q.toNat, Nat.pow 10 k.toNat <<< (-q).toNat)

/-- Whether a point at distance `x` from zero rounds to the fraction, all
arguments in one measure. -/
def accepts (b : Binary) (low high x : Nat) : Bool :=
  if b.mantissa % 2 = 0 then low ≤ x && x ≤ high else low < x && x < high

/-- The nearest multiple of `10 ^ k` in the interval, if there is one. -/
def onGrid? (b : Binary) (k : Int) : Option Nat :=
  let (lowQ, valueQ, highQ) := b.quarters
  let (quarter, step) := b.measures k
  let low := lowQ * quarter
  let value := valueQ * quarter
  let high := highQ * quarter
  let below := value / step
  let above := below + 1
  let belowFits := b.accepts low high (below * step)
  let aboveFits := b.accepts low high (above * step)
  match belowFits, aboveFits with
  | true, true => some (if value - below * step < above * step - value then below else above)
  | true, false => some below
  | false, true => some above
  | false, false => none

/-- Search ever finer grids, starting with multiples of `10 ^ k`. -/
def search (b : Binary) : (tries : Nat) → (k : Int) → Option Scaled
  | 0, _ => none
  | tries + 1, k =>
    match b.onGrid? k with
    | some d => some ⟨d, k⟩
    | none => b.search tries (k - 1)

/-- A power of ten at or above the value, found from the number of bits.  The
factor `30103 / 100000` is the logarithm of two, rounded up. -/
def topPower (b : Binary) : Int :=
  (Int.ofNat (Nat.log2 b.mantissa) + b.exponent) * 30103 / 100000 + 2

/-- The shortest decimal.  Seventeen digits are always enough for a mantissa of
53 bits, so the search cannot run out; its last resort is the value's own
integer part. -/
def shortest (b : Binary) : Scaled :=
  (b.search 24 b.topPower).getD ⟨b.mantissa <<< b.exponent.toNat, 0⟩

end Binary

/-- The bit above the fraction of a double, which is not stored. -/
def hiddenBit : Nat := 1 <<< 52

/-- The magnitude of a finite double that is not zero. -/
def Binary.ofFloat? (x : Float) : Option Binary :=
  let bits := x.toBits.toNat
  let field : Nat := bits / hiddenBit % 2048
  let fraction : Nat := bits % hiddenBit
  if field = 2047 then none
  else if field = 0 then
    if fraction = 0 then none else some ⟨fraction, -1074, false⟩
  else some ⟨hiddenBit + fraction, (field : Int) - 1075, fraction = 0 && field != 1⟩

end Decimal
end RadioBench
