/-
Directions and channels of a radio.
-/

namespace RadioBench

inductive Direction
  | rx
  | tx
  deriving DecidableEq, Repr, Inhabited

namespace Direction

def isTx : Direction → Bool
  | rx => false
  | tx => true

def ofIsTx (isTx : Bool) : Direction := if isTx then tx else rx

def text : Direction → String
  | rx => "RX"
  | tx => "TX"

end Direction

/-- One of the channels a radio has in each direction. -/
structure ChannelId where
  direction : Direction
  index : UInt32
  deriving DecidableEq, Repr, Inhabited

/-- The direction, directly followed by the index. -/
def ChannelId.text (c : ChannelId) : String :=
  c.direction.text ++ toString c.index.toNat

end RadioBench
