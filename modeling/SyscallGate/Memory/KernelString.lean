import SyscallGate.Text.Quoted
import SyscallGate.Text.Terminated

/-!
# Strings copied in from user memory

A copy is bounded: when the bound is reached before the end of the string, the copy is marked as
truncated. `KernelString.quoted` is its form in log lines, with three dots after a truncated one.
-/

namespace SyscallGate

/-- A string that was copied in from user memory.

Its bytes are those before the first zero, or as many as the bound allows. -/
structure KernelString where
  text : Terminated
  /-- Whether the bound was reached before the end of the string. -/
  truncated : Bool
  deriving DecidableEq

namespace KernelString

def bytes (s : KernelString) : List UInt8 := s.text.bytes

def length (s : KernelString) : Nat := s.bytes.length

def isEmpty (s : KernelString) : Bool := s.length == 0

/-- The characters with which a log line shows the string.

The mark of a cut string is outside the quotes, where no byte of the string can be. -/
def quotedChars (s : KernelString) : List Char :=
  Quoted.write s.bytes ++ if s.truncated then ['.', '.', '.'] else []

/-- The string as a log line shows it. -/
def quoted (s : KernelString) : String := String.ofList s.quotedChars

end KernelString

end SyscallGate
