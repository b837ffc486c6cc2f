/-!
# Hexadecimal text

Numbers in base 16 with lower-case digits.

- `Hex.plain` has as many digits as the number needs.
- `Hex.wide` has at least eight, the width of a 32-bit address.
- `Hex.byte` is the pair of digits of one byte.
-/

namespace SyscallGate.Hex

/-- The digits a number needs, after `0x`.

Zero has one digit. -/
def plain (n : Nat) : String :=
  "0x" ++ String.ofList (Nat.toDigits 16 n)

/-- At least eight digits, after `0x`.

Shorter numbers are filled up with zeros at the left, and longer ones are not cut. -/
def wide (n : Nat) : String :=
  let digits := Nat.toDigits 16 n
  "0x" ++ String.ofList (List.replicate (8 - digits.length) '0' ++ digits)

/-- The two digits of a byte. -/
def byte (b : UInt8) : List Char :=
  [Nat.digitChar (b.toNat / 16), Nat.digitChar (b.toNat % 16)]

end SyscallGate.Hex
