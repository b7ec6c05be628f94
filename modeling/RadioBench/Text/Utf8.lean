/-
Reading bytes as UTF-8 without ever failing.

Bytes are read one at a time.  Between characters a byte either is a character,
opens one, or is invalid.  Inside a character the next byte must lie in a known
range, narrower right after some lead bytes, which rules out overlong forms,
surrogates and code points past the last one.  A byte that cannot go on ends the
part read so far, which becomes one replacement character, and is then read
again as the start of something new.
-/

namespace RadioBench
namespace Text
namespace Utf8

/-- Stands for a part of the input that is not UTF-8. -/
def replacement : Char := '\ufffd'

/-- Where the reader stands: between characters, or owed `count + 1` more bytes
of a character, the next of which lies between `low` and `high`. -/
inductive Pending
  | nothing
  | owed (count : Nat) (low high : UInt8) (value : Nat)
  deriving DecidableEq, Repr

/-- Read a byte between characters. -/
def first (b : UInt8) : List Char × Pending :=
  if b < 0x80 then ([Char.ofNat b.toNat], .nothing)
  else if b < 0xC2 then ([replacement], .nothing)
  else if b < 0xE0 then ([], .owed 0 0x80 0xBF (b.toNat - 0xC0))
  else if b < 0xF0 then
    let low := if b = 0xE0 then 0xA0 else 0x80
    let high := if b = 0xED then 0x9F else 0xBF
    ([], .owed 1 low high (b.toNat - 0xE0))
  else if b < 0xF5 then
    let low := if b = 0xF0 then 0x90 else 0x80
    let high := if b = 0xF4 then 0x8F else 0xBF
    ([], .owed 2 low high (b.toNat - 0xF0))
  else ([replacement], .nothing)

/-- Read a byte: the characters it completes, and where the reader then stands. -/
def next : Pending → UInt8 → List Char × Pending
  | .nothing, b => first b
  | .owed count low high value, b =>
    if low ≤ b ∧ b ≤ high then
      let value := value * 64 + (b.toNat - 0x80)
      match count with
      | 0 => ([Char.ofNat value], .nothing)
      | count + 1 => ([], .owed count 0x80 0xBF value)
    else
      let (cs, p) := first b
      (replacement :: cs, p)

/-- Read all bytes onto the characters read before, which are kept newest first.
A character that the end cuts off is invalid. -/
def decodeOnto (before : List Char) : Pending → List UInt8 → List Char
  | .nothing, [] => before.reverse
  | .owed .., [] => (replacement :: before).reverse
  | p, b :: rest => decodeOnto ((next p b).1.reverse ++ before) (next p b).2 rest

/-- The text of a byte string, with each maximal invalid part replaced. -/
def lossy (bs : List UInt8) : String := String.ofList (decodeOnto [] .nothing bs)

/-- The UTF-8 bytes of a text. -/
def encode (s : String) : List UInt8 := s.toUTF8.toList

/-- The text of a byte string that is UTF-8 throughout.  Reading and writing
back restores exactly such byte strings, because what is written is UTF-8. -/
def strict? (bs : List UInt8) : Option String :=
  if encode (lossy bs) = bs then some (lossy bs) else none

end Utf8
end Text
end RadioBench
