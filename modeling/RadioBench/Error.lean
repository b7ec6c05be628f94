/-
Why a call on the radio can fail.
-/

namespace RadioBench

inductive Error
  /-- The device or the library refused the operation. -/
  | failed (operation message : String)
  /-- No open device or live stream has the handle. -/
  | invalidHandle
  /-- A text cannot be handed to the library. -/
  | invalidString
  | invalidArgument (what : String)
  /-- The stream has not been started. -/
  | notRunning
  /-- A report could not be written. -/
  | output (message : String)
  /-- A clock was told to pass the longest duration. -/
  | clockOverflow
  deriving DecidableEq, Repr

def Error.message : Error → String
  | failed operation message => operation ++ " failed: " ++ message
  | invalidHandle => "Invalid Handle"
  | invalidString => "Invalid String"
  | invalidArgument what => "Invalid Argument: " ++ what
  | notRunning => "Stream Not Running"
  | output message => "Output: " ++ message
  | clockOverflow => "overflow when adding durations"

end RadioBench
