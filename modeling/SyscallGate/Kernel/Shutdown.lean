import SyscallGate.Kernel.State

/-!
# Shutdown

`Kernel.closeAll` takes every descriptor back and closes the files, lowest descriptor first. A file
that does not close in good order is reported, and the others are closed all the same.
-/

namespace SyscallGate.Kernel

variable {μ ν φ : Type} [FileLayer ν φ]

/-- Closes files one after the other.

The order is that of the list, and a failure does not end it. -/
def discardEach (c : Conditions) : List (Fd × φ) → Action (Kernel μ ν φ) (Event φ) Empty Unit
  | [] => return ()
  | (fd, file) :: rest => do
    discard c file (.shutdownFailed fd)
    discardEach c rest

/-- Closes every open file, and returns how many there were.

The table is empty before the first file is closed, so no descriptor names a file that is gone. -/
def closeAll (c : Conditions) : Action (Kernel μ ν φ) (Event φ) Empty Nat := do
  let live ← onTable Table.drain
  discardEach c live
  return live.length

end SyscallGate.Kernel
