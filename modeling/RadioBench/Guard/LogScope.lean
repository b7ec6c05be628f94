/-
Keeping a handler for the radio library's messages registered.
-/
import RadioBench.Host

namespace RadioBench
namespace LogScope

/-- Register a handler.  Whatever an earlier user left behind goes first. -/
def enter (handler : LogHandler) : Prog Host Unit := do
  Host.request (.registerLog none)
  Host.request (.registerLog (some handler))

/-- Remove the handler. -/
def leave : Prog Host Unit := Host.request (.registerLog none)

/-- Carry a program out while a handler is registered.  The handler is removed
whether or not the program fails. -/
def within {α : Type} (handler : LogHandler) (p : Attempt α) : Attempt α :=
  .of do
    enter handler
    let r ← p.run
    leave
    pure r

end LogScope
end RadioBench
