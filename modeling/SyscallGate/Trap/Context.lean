import SyscallGate.Call.Value
import SyscallGate.Memory.Address

/-!
# Trap contexts

What the dispatcher needs of the saved state of a program: where the call number and the arguments
are, where the user stack is, and how a result is written back.
-/

namespace SyscallGate

/-- How many arguments are passed in registers. -/
def argumentRegisters : Nat := 4

/-- A saved state from which a system call can be read, and into which its result can be written.

A dispatch uses these operations only, so it works on any kind of saved state that has them. -/
class TrapContext (τ : Type) where
  callNumber : τ → UInt32
  /-- An argument register, by its position; there are four. -/
  argument : τ → Nat → Checked UInt32
  stackPointer : τ → UserAddr
  setReturn : Value → τ → τ
  setError : Errno → τ → τ
  /-- Steps over the instruction that made the call. -/
  advance : τ → τ

/-- Writes the ending of a call and steps over the instruction that made it.

The program steps over it in either case. Otherwise it would make the same call again. -/
def TrapContext.complete {τ : Type} [TrapContext τ] (ctx : τ) (ending : Completion) : τ :=
  match ending with
  | .ok value => advance (setReturn value ctx)
  | .error e => advance (setError e ctx)

end SyscallGate
