import SyscallGate.Action
import SyscallGate.Memory.Range

/-!
# User memory

The memory of the program that made the call, behind two copy primitives that the platform
supplies. A memory may refuse any access, and may change with every access.

- `UserMemory μ` is the interface, for memories of an arbitrary type `μ`.
- `MemoryCall` is the event of one use of a primitive, with its answer.
- `UserMemory.fetch` and `UserMemory.store` are the primitives as actions. They take checked
    ranges only.
-/

namespace SyscallGate

/-- The copy primitives of a platform.

A memory of type `μ` answers a request for bytes with as many as were asked for, or with an error.
Nothing else is known of it: the answer may change from one access to the next. -/
class UserMemory (μ : Type) where
  copyIn (src : UserAddr) (len : Nat) (memory : μ) : Except Errno (Vector UInt8 len) × μ
  copyOut (bytes : List UInt8) (dst : UserAddr) (memory : μ) : Except Errno Unit × μ

/-- One use of a copy primitive.

It is recorded with its range and its answer, so an observer knows what was read and what was
written. -/
inductive MemoryCall where
  | copyIn (src : UserAddr) (len : Nat) (answer : Except Errno (List UInt8))
  | copyOut (bytes : List UInt8) (dst : UserAddr) (answer : Except Errno Unit)

namespace UserMemory

variable {μ : Type} [UserMemory μ]

/-- Copies a checked range into the kernel.

The type of the argument is what keeps unchecked ranges out. -/
def fetch (range : UserRange .read) : Action μ MemoryCall Errno (Vector UInt8 range.len) := do
  let memory ← .read
  let (answer, memory) := copyIn range.addr range.len memory
  .write memory
  .emit (.copyIn range.addr range.len (answer.map (·.toList)))
  .ofExcept answer

/-- Copies bytes to a checked range of their length.

The range is for writing, and its length is that of the bytes where it is made. -/
def store (bytes : List UInt8) (range : UserRange .write) : Action μ MemoryCall Errno Unit := do
  let memory ← .read
  let (answer, memory) := copyOut bytes range.addr memory
  .write memory
  .emit (.copyOut bytes range.addr answer)
  .ofExcept answer

/-- A fetch is one call of the primitive, whose answer it returns. -/
theorem fetch_apply (range : UserRange .read) (memory : μ) :
    fetch range memory =
      ⟨(copyIn range.addr range.len memory).1.mapError .refused,
        (copyIn range.addr range.len memory).2,
        [.copyIn range.addr range.len
          ((copyIn range.addr range.len memory).1.map (·.toList))]⟩ := by
  simp [fetch, Action.ofExcept_apply]

/-- A store is one call of the primitive, whose answer it returns. -/
theorem store_apply (bytes : List UInt8) (range : UserRange .write) (memory : μ) :
    store bytes range memory =
      ⟨(copyOut bytes range.addr memory).1.mapError .refused,
        (copyOut bytes range.addr memory).2,
        [.copyOut bytes range.addr (copyOut bytes range.addr memory).1]⟩ := by
  simp [store, Action.ofExcept_apply]

end UserMemory

end SyscallGate
