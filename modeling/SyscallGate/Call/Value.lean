import SyscallGate.Descriptor.Fd
import SyscallGate.Errno

/-!
# Results of system calls

A call that succeeds gives back one register or a pair of registers.

- `Value` is the result, and its `of...` functions say how each kind of result becomes one.
- `Completion` is the result or the error of a finished call.
-/

namespace SyscallGate

/-- The result of a system call.

A pair takes two registers, and its high word is in the first one. -/
inductive Value where
  | word (w : UInt32)
  | pair (p : UInt64)
  deriving DecidableEq, Repr

namespace Value

/-- Success without a result is the word 0. -/
def ofUnit : Value := .word 0

/-- A signed number, in two's complement. -/
def ofInt32 (n : Int32) : Value := .word n.toUInt32

/-- A length, of which the low 32 bits are kept. -/
def ofLength (n : Nat) : Value := .word (UInt32.ofNat n)

/-- A descriptor, by its number. -/
def ofFd (fd : Fd) : Value := .word fd.toUInt32

def ofUInt64 (n : UInt64) : Value := .pair n

def labelled : Value → String
  | .word w => "Word(" ++ toString w.toNat ++ ")"
  | .pair p => "Pair(" ++ toString p.toNat ++ ")"

end Value

/-- How a system call ended.

This is what the dispatcher writes into the frame and what a trace of the call tells. -/
abbrev Completion := Except Errno Value

def Completion.labelled : Completion → String
  | .ok v => "Ok(" ++ v.labelled ++ ")"
  | .error e => "Err(" ++ e.name ++ ")"

end SyscallGate
