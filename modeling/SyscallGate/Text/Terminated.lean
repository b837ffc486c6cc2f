/-!
# NUL-terminated strings

A string of bytes whose end is marked by a zero byte, so that no zero byte occurs inside.

- `Terminated` holds the bytes before the mark, with the proof that none of them is zero.
- `Terminated.withNul` is the form with the mark, and `Terminated.ofBytesWithNul?` reads that form.
-/

namespace SyscallGate

/-- The bytes of a NUL-terminated string, without the mark.

That no byte is zero is part of the type, so the string is the same for a reader who stops at the
first zero. -/
structure Terminated where
  bytes : List UInt8
  /-- The mark occurs at the end only. -/
  noNul : 0 ∉ bytes
  deriving DecidableEq

namespace Terminated

/-- The bytes with the closing mark. -/
def withNul (s : Terminated) : List UInt8 := s.bytes ++ [0]

/-- Reads bytes that hold exactly one zero, at their end.

A zero before the end is refused as well as a missing one. -/
def ofBytesWithNul? (raw : List UInt8) : Option Terminated :=
  if h : 0 ∉ raw.dropLast then
    if raw.getLast? = some 0 then some ⟨raw.dropLast, h⟩ else none
  else none

/-- Bytes without a zero, once marked, read back as themselves. -/
theorem ofBytesWithNul?_append {bytes : List UInt8} (h : 0 ∉ bytes) :
    ofBytesWithNul? (bytes ++ [0]) = some ⟨bytes, h⟩ := by
  simp [ofBytesWithNul?, h]

end Terminated

end SyscallGate
