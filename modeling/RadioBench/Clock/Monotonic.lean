/-
The clock of the machine, which never goes back.
-/
import RadioBench.Duration

namespace RadioBench
namespace Clock
namespace Monotonic

/-- The time since an origin that stays fixed while the machine runs. -/
def now : IO Duration := do
  let nanos ← IO.monoNanosNow
  pure ⟨nanos⟩

end Monotonic
end Clock
end RadioBench
