import SyscallGate.Kernel.Dispatch
import SyscallGate.Trap.Frame

/-!
# Traps from user mode

A trap that asks for a system call is dispatched, and the program goes on. Any other trap is
reported and left to the platform, with the frame as it was.
-/

namespace SyscallGate

/-- What becomes of the program after a trap.

The platform reads this together with the frame, and decides about the rest. -/
inductive Disposition where
  /-- The program goes on with the returned frame. -/
  | resume
  | unhandled (cause : Cause)
  deriving DecidableEq, Repr

namespace Kernel

variable {μ ν φ : Type} [UserMemory μ] [FileLayer ν φ]

/-- Handles a trap from user mode.

The cause alone decides. Every system call resumes the program, whatever the call was and however it
ended. -/
def handleTrap (c : Conditions) (frame : TrapFrame) :
    Action (Kernel μ ν φ) (Event φ) Empty (TrapFrame × Disposition) :=
  match Cause.ofRegister frame.cause with
  | .syscall => do
    let frame ← dispatch c frame
    return (frame, .resume)
  | cause => do
    note c (.unhandledTrap cause frame.epc frame.vaddr)
    return (frame, .unhandled cause)

end Kernel

end SyscallGate
