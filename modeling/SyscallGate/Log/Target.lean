/-!
# Log targets

The parts of the kernel that report, and the path under which each of them does.
-/

namespace SyscallGate.Log

/-- A part of the kernel that reports. -/
inductive Target where
  | kernel
  | trap
  | table
  | fileCalls
  | dispatcher
  deriving DecidableEq, Repr

/-- The path that stands in the records of a part.

Readers of a log can pick out the records of one part by it. -/
def Target.path : Target → String
  | kernel => "pantheros_syscall::kernel"
  | trap => "pantheros_syscall::trap"
  | table => "pantheros_syscall::fd::table"
  | fileCalls => "pantheros_syscall::syscall::fs"
  | dispatcher => "pantheros_syscall::syscall::handler"

/-- A path names one part.

So the records of a part are those with its path. -/
theorem Target.path_injective {part part' : Target} (same : part.path = part'.path) :
    part = part' := by
  cases part <;> cases part' <;> first | rfl | exact absurd same (by decide)

end SyscallGate.Log
