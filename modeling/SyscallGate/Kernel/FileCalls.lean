import SyscallGate.Kernel.State
import SyscallGate.Memory.Copy

/-!
# The file calls

Opening a file, closing a descriptor, and telling the working directory.

- `Kernel.openFile` either returns a descriptor for the file that the layer opened, or leaves no
    open file behind: a file for which there is no descriptor is closed again.
- `Kernel.closeFile` frees the descriptor before it closes the file, so the descriptor is free
    whatever the layer answers.
- `Kernel.currentDirectory` hands over the path without a closing mark, cut to the room there is.
-/

namespace SyscallGate.Kernel

variable {μ ν φ : Type} [UserMemory μ] [FileLayer ν φ]

/-- The largest number of bytes of a file name. -/
def nameMax : Nat := 255

/-- The largest number of bytes of the working directory. -/
def pathMax : Nat := 1024

/-- Opens the file whose name is at `path`, and gives it the lowest free descriptor.

The access mode is looked at first, then the name is copied, the file is opened, and a descriptor is
allocated. Each step can fail, and what fails first is answered. Only the last failure leaves
something to undo. -/
def openFile (c : Conditions) (path : UserAddr) (flags : OpenFlags) (mode : UInt32) :
    Action (Kernel μ ν φ) (Event φ) Errno Fd := do
  let _ ← .ofExcept flags.accessMode
  -- One byte more than the longest name: a copy that fills it is too long.
  let name ← onMemory (Copy.inString c path (nameMax + 1))
  if name.truncated then
    note c (.nameTooLong path nameMax)
    .refuse .enametoolong
  else
    -- From here on there is an open file, which has to end up in the table or be closed again.
    let file ← (onLayer (FileLayer.acquire name.text flags mode)).reporting fun cause =>
      note c (.openFailed name cause)
    match ← (onTable (Table.allocate c file)).attempt with
    | .ok fd => return fd
    | .error (cause, file) =>
      -- The error of the table is answered, whatever the layer says to the file that it gets back.
      note c (.noDescriptor name cause)
      discard c file (.undoFailed name)
      .refuse cause.toErrno

/-- Closes the file that a descriptor names.

A number that is no descriptor is refused before the table is asked. An error of the layer is
reported and answered, and does not bring the descriptor back. -/
def closeFile (c : Conditions) (raw : Int32) : Action (Kernel μ ν φ) (Event φ) Errno Unit :=
  match Fd.ofInt32? raw with
  | none => .refuse .ebadf
  | some fd => do
    let file ← (onTable (Table.deallocate c raw)).mapReason Table.Error.toErrno
    (onLayer (FileLayer.release file)).reporting fun cause => note c (.closeFailed fd cause)

/-- Copies the working directory to `dst`, at most `room` bytes of it, and returns how many bytes it
copied. The path ends at its first zero byte, or where the file layer says it does. -/
def currentDirectory (c : Conditions) (dst : UserAddr) (room : Nat) :
    Action (Kernel μ ν φ) (Event φ) Errno Nat := do
  -- The buffer is reserved before the layer is asked, so a shortage is found without asking it.
  let _ ← Buffer.reserve c (pathMax + 1)
  let (buffer, reported) ← (onLayer (FileLayer.locate pathMax)).reporting fun cause =>
    note c (.lookupFailed cause)
  -- What the layer reports may be more than the buffer can hold.
  let written ← .ofChecked (Checked.firstPart buffer.toList (min reported.toNat pathMax))
  let count := min (written.takeWhile (· ≠ 0)).length room
  let path ← .ofChecked (Checked.firstPart buffer.toList count)
  (onMemory (Copy.outBytes path dst)).reporting fun cause => note c (.copyOutFailed dst cause)
  return count

end SyscallGate.Kernel
