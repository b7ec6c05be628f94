/-
A place for text with room for a limited number of bytes.

A text that does not fit is stored as far as it does, and writing it fails.  The
cut may fall inside a character, so what is stored is bytes.
-/
import RadioBench.Text.Utf8

namespace RadioBench
namespace Bench

structure Sink where
  stored : Array UInt8
  /-- The bytes it takes in all, if there is a limit. -/
  limit : Option Nat

namespace Sink

def empty (limit : Option Nat) : Sink := { stored := #[], limit := limit }

/-- The text as far as it is stored. -/
def text (k : Sink) : String := Text.Utf8.lossy k.stored.toList

/-- Why a text was not stored whole. -/
def full : String := "sink full"

def write (k : Sink) (text : String) : Except String Unit × Sink :=
  let bytes := (Text.Utf8.encode text).toArray
  match k.limit with
  | none => (.ok (), { k with stored := k.stored ++ bytes })
  | some limit =>
    let room := limit - k.stored.size
    if bytes.size ≤ room then (.ok (), { k with stored := k.stored ++ bytes })
    else (.error full, { k with stored := k.stored ++ bytes.take room })

end Sink
end Bench
end RadioBench
