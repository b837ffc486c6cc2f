import SyscallGate.Call.Value
import SyscallGate.Descriptor.Table
import SyscallGate.Memory.Address
import SyscallGate.Memory.KernelString
import SyscallGate.Trap.Cause

/-!
# What the kernel reports

Every report of the kernel, with its level, the part it comes from, and its text. File names are
quoted, so that a name chosen by a program cannot break a line or pass for another one.
-/

namespace SyscallGate

/-- A report of the kernel.

A report carries the data that its text shows, and nothing else. Level and target follow from its
kind. -/
inductive Notice where
  | ready
  | table (change : Table.Notice)
  | nameTooLong (path : UserAddr) (limit : Nat)
  | openFailed (name : KernelString) (cause : Errno)
  /-- A file was opened, but there is no descriptor for it. -/
  | noDescriptor (name : KernelString) (cause : Table.Error)
  /-- A file without a descriptor could not be closed in good order. -/
  | undoFailed (name : KernelString) (cause : Errno)
  /-- A file could not be closed in good order. -/
  | closeFailed (fd : Fd) (cause : Errno)
  | lookupFailed (cause : Errno)
  /-- The working directory could not be copied to the program. -/
  | copyOutFailed (dst : UserAddr) (cause : Errno)
  /-- A system call begins, with these argument registers. -/
  | callEntered (number a0 a1 a2 a3 : UInt32)
  | callLeft (number : UInt32) (ending : Completion)
  | unknownCall (number : UInt32)
  | unhandledTrap (cause : Cause) (epc vaddr : UInt32)
  /-- At shutdown, a file could not be closed in good order. -/
  | shutdownFailed (fd : Fd) (cause : Errno)

namespace Notice

/-- How urgent the report is.

A refusal that the program learns of is a detail. A failure that is returned to nobody is a warning,
and so is a request that the kernel does not know. -/
def level : Notice → Log.Level
  | ready => .info
  | table change => change.level
  | nameTooLong .. | openFailed .. | noDescriptor .. | closeFailed .. | lookupFailed ..
  | copyOutFailed .. => .debug
  | undoFailed .. | unknownCall .. | unhandledTrap .. | shutdownFailed .. => .warn
  | callEntered .. | callLeft .. => .trace

/-- The part of the kernel that reports. -/
def target : Notice → Log.Target
  | ready | shutdownFailed .. => .kernel
  | table .. => .table
  | nameTooLong .. | openFailed .. | noDescriptor .. | undoFailed .. | closeFailed ..
  | lookupFailed .. | copyOutFailed .. => .fileCalls
  | callEntered .. | callLeft .. | unknownCall .. => .dispatcher
  | unhandledTrap .. => .trap

/-- The text of the report, on one line. A name is shown quoted, and every other part is a number or
a fixed word. -/
def text : Notice → String
  | ready =>
    "syscall: descriptor table ready, fds " ++ Fd.first.text ++ "..=" ++ Fd.last.text
  | table change => change.text
  | nameTooLong path limit =>
    "open: name at " ++ path.text ++ " longer than " ++ toString limit ++ " bytes"
  | openFailed name cause => "open: " ++ name.quoted ++ ": " ++ cause.describe
  | noDescriptor name cause => "open: " ++ name.quoted ++ ": no descriptor: " ++ cause.message
  | undoFailed name cause => "open: releasing " ++ name.quoted ++ " failed: " ++ cause.describe
  | closeFailed fd cause => "close: releasing fd " ++ fd.text ++ " failed: " ++ cause.describe
  | lookupFailed cause => "getcwd: lookup failed: " ++ cause.describe
  | copyOutFailed dst cause => "getcwd: copyout to " ++ dst.text ++ " failed: " ++ cause.describe
  | callEntered number a0 a1 a2 a3 =>
    "syscall: " ++ toString number.toNat ++ " (" ++
      String.intercalate ", " ([a0, a1, a2, a3].map fun a => Hex.plain a.toNat) ++ ")"
  | callLeft number ending => "syscall: " ++ toString number.toNat ++ " -> " ++ ending.labelled
  | unknownCall number => "syscall: unknown call number " ++ toString number.toNat
  | unhandledTrap cause epc vaddr =>
    "trap: unhandled " ++ cause.name ++ " from user mode at epc " ++ Hex.wide epc.toNat ++
      ", vaddr " ++ Hex.wide vaddr.toNat
  | shutdownFailed fd cause =>
    "syscall: releasing fd " ++ fd.text ++ " failed: " ++ cause.describe

def record (n : Notice) : Log.Record := ⟨n.level, n.target.path, n.text⟩

end Notice

end SyscallGate
