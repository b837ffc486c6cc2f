import SyscallGate.Action
import SyscallGate.Files.OpenFlags
import SyscallGate.Text.Terminated

/-!
# The file layer

The file system that the kernel is built upon, behind three operations that the embedder supplies.
A file layer may refuse any of them, and may change with every call.

- `FileLayer ν φ` is the interface, for layers of an arbitrary type `ν` with open files of type `φ`.
- `FileCall φ` is the event of one use, with its answer.
- `FileLayer.acquire`, `FileLayer.release` and `FileLayer.locate` are the operations as actions.
-/

namespace SyscallGate

/-- The operations of a file system.

A layer may answer as it likes, and its state may change with every call, also with one that it
refuses. -/
class FileLayer (ν : Type) (φ : outParam Type) where
  openFile (path : Terminated) (flags : OpenFlags) (mode : UInt32) (layer : ν) : Except Errno φ × ν
  /-- Closes an open file. The file is gone, whatever the answer. -/
  closeFile (file : φ) (layer : ν) : Except Errno Unit × ν
  /-- Writes the working directory into a buffer and reports how many bytes it wrote. The kernel
  does not rely on the report. -/
  currentDirectory {n : Nat} (buffer : Vector UInt8 n) (layer : ν) :
    Except Errno (Vector UInt8 n × UInt64) × ν

/-- One use of the file layer.

It is recorded with its arguments and its answer, so an observer can tell which files were opened
and closed. -/
inductive FileCall (φ : Type) where
  | openFile (path : Terminated) (flags : OpenFlags) (mode : UInt32) (answer : Except Errno φ)
  | closeFile (file : φ) (answer : Except Errno Unit)
  /-- The working directory was asked for, with room for a number of bytes. -/
  | currentDirectory (room : Nat) (answer : Except Errno (List UInt8 × UInt64))

namespace FileLayer

variable {ν φ : Type} [FileLayer ν φ]

/-- Opens a file in the layer. Its answer is the answer of the action. -/
def acquire (path : Terminated) (flags : OpenFlags) (mode : UInt32) :
    Action ν (FileCall φ) Errno φ := do
  let layer ← .read
  let (answer, layer) := openFile path flags mode layer
  .write layer
  .emit (.openFile path flags mode answer)
  .ofExcept answer

/-- Closes a file in the layer. A file is handed over once, and not used afterwards. -/
def release (file : φ) : Action ν (FileCall φ) Errno Unit := do
  let layer ← .read
  let (answer, layer) := closeFile file layer
  .write layer
  .emit (.closeFile file answer)
  .ofExcept answer

/-- Asks for the working directory, with a zeroed buffer of `room` bytes.

The layer writes into the buffer and tells how much it wrote. Both are part of its answer, and
neither needs to be right. -/
def locate (room : Nat) : Action ν (FileCall φ) Errno (Vector UInt8 room × UInt64) := do
  let layer ← .read
  let (answer, layer) := currentDirectory (Vector.replicate room 0) layer
  .write layer
  .emit (.currentDirectory room (answer.map fun (path, reported) => (path.toList, reported)))
  .ofExcept answer

/-- To acquire a file is one call of the layer, whose answer is returned. -/
theorem acquire_apply (path : Terminated) (flags : OpenFlags) (mode : UInt32) (layer : ν) :
    acquire path flags mode layer =
      ⟨(openFile path flags mode layer).1.mapError .refused, (openFile path flags mode layer).2,
        [.openFile path flags mode (openFile path flags mode layer).1]⟩ := by
  simp [acquire, Action.ofExcept_apply]

theorem release_apply (file : φ) (layer : ν) :
    release file layer =
      ⟨(closeFile file layer).1.mapError .refused, (closeFile file layer).2,
        [.closeFile file (closeFile file layer).1]⟩ := by
  simp [release, Action.ofExcept_apply]

theorem locate_apply (room : Nat) (layer : ν) :
    locate room layer =
      ⟨(currentDirectory (Vector.replicate room 0) layer).1.mapError .refused,
        (currentDirectory (Vector.replicate room 0) layer).2,
        [.currentDirectory room ((currentDirectory (Vector.replicate room 0) layer).1.map
          fun (path, reported) => (path.toList, reported))]⟩ := by
  simp [locate, Action.ofExcept_apply]

end FileLayer

end SyscallGate
