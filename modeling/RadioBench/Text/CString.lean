/-
Byte strings that end at the first zero byte.

The radio library hands out texts in this form, either on their own or as the
entries of a list, where each entry has a fixed width and is padded with zeros.
An entry that fills its width has no zero byte at all.
-/
import RadioBench.Text.Utf8

namespace RadioBench
namespace Text
namespace CString

/-- The bytes before the first zero byte. -/
def content (bs : List UInt8) : List UInt8 := bs.takeWhile (· ≠ 0)

/-- The text of a zero-terminated byte string. -/
def read (bs : List UInt8) : String := Utf8.lossy (content bs)

/-- The text behind a pointer that may be null.  A null pointer is no text. -/
def read? (p : Option (List UInt8)) : String := (p.map read).getD ""

/-- Cut a byte string to `width` bytes and fill it up with zeros. -/
def entry (width : Nat) (bs : List UInt8) : List UInt8 :=
  let kept := bs.take width
  kept ++ List.replicate (width - kept.length) 0

/-- A byte string with no zero byte that fits is read back from its entry. -/
theorem content_entry {width : Nat} {bs : List UInt8} (hfit : bs.length ≤ width)
    (hzero : ∀ b ∈ bs, b ≠ 0) : content (entry width bs) = bs := by
  rw [entry, List.take_of_length_le hfit, content,
    List.takeWhile_append_of_pos (by simpa using hzero)]
  cases width - bs.length with
  | zero => simp
  | succ n => simp [List.replicate_succ]

end CString
end Text
end RadioBench
