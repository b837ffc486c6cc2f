import SyscallGate.Errno
import SyscallGate.Conditions

/-!
# Reserved buffers

Kernel memory is reserved before it is filled, so that a shortage shows up at a known place.

- `Buffer.reserve` sets a number of bytes aside, or refuses with `Errno.enomem`.
- `Buffer.append` fills the reserved space and stops the kernel when it does not suffice.
-/

namespace SyscallGate

/-- Bytes of the kernel, and how many of them there is room for. -/
structure Buffer where
  bytes : List UInt8
  reserved : Nat
  deriving DecidableEq, Repr

namespace Buffer

/-- No reservation above this size is ever granted.

The layout of a buffer allows for up to 2^63 - 1 bytes. No machine has a quarter of the address
space to give, so a reservation above 2^62 bytes is refused in any case: for want of memory, if not
for its layout, and with the same error number. Proofs use of the limit only that it is a machine
word and that the buffers for names and paths are below it. -/
def reservationLimit : Nat := 0x4000000000000000

def length (b : Buffer) : Nat := b.bytes.length

/-- Reserves an empty buffer.

Whether the space is granted is all that a shortage of buffers decides. -/
def reserve {σ ε : Type} (c : Conditions) (size : Nat) : Action σ ε Errno Buffer :=
  if c.shortage.buffers ∨ reservationLimit < size then .refuse .enomem else pure ⟨[], size⟩

/-- Adds bytes at the end of the buffer.

Nothing more is reserved here: bytes beyond the reservation are an error of the kernel, which stops
it. -/
def append (b : Buffer) (more : List UInt8) : Checked Buffer := do
  let total ← Checked.add b.length more.length
  if total ≤ b.reserved then
    .ok { b with bytes := b.bytes ++ more }
  else
    .error (.reservationExceeded total b.reserved)

/-- Bytes that fit the reservation can be added. -/
theorem append_eq_ok {b : Buffer} {more : List UInt8} (small : b.reserved < wordLimit)
    (room : b.length + more.length ≤ b.reserved) :
    b.append more = .ok { b with bytes := b.bytes ++ more } := by
  unfold append
  rw [Checked.add_eq_ok (by omega)]
  simp [bind, Except.bind, room]

/-- What a filled buffer holds.

The reservation stays as it was, so room gets less with every byte. -/
theorem bytes_of_append {b b' : Buffer} {more : List UInt8} (h : b.append more = .ok b') :
    b'.bytes = b.bytes ++ more ∧ b'.reserved = b.reserved := by
  unfold append Checked.add at h
  split at h
  case isFalse => cases h
  case isTrue =>
    simp only [bind, Except.bind] at h
    split at h
    case isTrue => cases h; exact ⟨rfl, rfl⟩
    case isFalse => cases h

theorem length_of_append {b b' : Buffer} {more : List UInt8} (h : b.append more = .ok b') :
    b'.length = b.length + more.length := by
  simp [length, (bytes_of_append h).1]

end Buffer

end SyscallGate
