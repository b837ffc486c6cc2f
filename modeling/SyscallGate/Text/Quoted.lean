import SyscallGate.Text.Hex
import SyscallGate.Text.Utf8

/-!
# Quoted bytes

Byte strings as they are shown in log lines: between double quotes, on one line, in a form that no
other byte string has.

- Tab, line feed, carriage return, both quotes and the backslash are written with a backslash.
- Other ASCII control characters, and bytes that belong to no valid character, are written `\xNN`.
- All else stands for itself.
-/

namespace SyscallGate.Quoted

open SyscallGate.Utf8 (Piece)

/-- The written form of a byte by its number.

It has always two digits, so a reader knows where it ends. -/
def hexEscape (b : UInt8) : List Char := '\\' :: 'x' :: Hex.byte b

/-- The written form of a character.

Characters with a mark of their own come first, then the other control characters of ASCII. All
others stand for themselves. -/
def writeChar (c : Char) : List Char :=
  if c = '\t' then ['\\', 't']
  else if c = '\n' then ['\\', 'n']
  else if c = '\r' then ['\\', 'r']
  else if c = '\'' then ['\\', '\'']
  else if c = '"' then ['\\', '"']
  else if c = '\\' then ['\\', '\\']
  else if c.toNat < 32 ∨ c.toNat = 127 then hexEscape (UInt8.ofNat c.toNat)
  else [c]

/-- The written form of a piece. -/
def writePiece : Piece → List Char
  | .char c => writeChar c
  | .stray b => hexEscape b

/-- The written form of bytes, between double quotes.

Each piece is written on its own, and the closing quote cannot occur inside, since a quote of a
piece has a backslash before it. -/
def write (bytes : List UInt8) : List Char :=
  '"' :: ((Utf8.pieces bytes).flatMap writePiece ++ ['"'])

end SyscallGate.Quoted
