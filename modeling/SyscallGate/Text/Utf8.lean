/-!
# Reading bytes as UTF-8

Bytes that come from a user program need not be valid UTF-8.

- `Utf8.head?` is the character that a list of bytes begins with, if it begins with a valid one.
- `Utf8.pieces` cuts bytes into valid characters and stray bytes, from left to right.

Cutting loses nothing: the bytes of the pieces, joined, are the bytes that were cut
(`flatMap_bytes_pieces`).
-/

namespace SyscallGate.Utf8

/-- The character whose encoding the bytes begin with. An encoding has at most four bytes.

Only the front of the list is looked at, and what follows does not matter. -/
def head? (bytes : List UInt8) : Option Char :=
  (bytes.take 4).toByteArray.utf8DecodeChar? 0

/-- A character found by `head?` stands at the front in its encoded form. -/
theorem eq_append_of_head? {bytes : List UInt8} {c : Char} (h : head? bytes = some c) :
    bytes = String.utf8EncodeChar c ++ bytes.drop c.utf8Size := by
  have key := String.toByteArray_utf8EncodeChar_of_utf8DecodeChar?_eq_some h
  have front : String.utf8EncodeChar c = bytes.take c.utf8Size := by
    have := congrArg (fun b => b.data.toList) key
    have size_le := c.utf8Size_le_four
    simpa [List.take_take, Nat.min_eq_left size_le] using this
  rw [front, List.take_append_drop]

/-- A part of a byte string: a character, or a byte that belongs to none.

Bytes are never repaired or replaced: a byte that belongs to no character is kept as it is. -/
inductive Piece where
  /-- A character in valid encoding. -/
  | char (c : Char)
  /-- A byte outside any valid character. -/
  | stray (b : UInt8)
  deriving DecidableEq, Repr

/-- The bytes a piece was read from. -/
def Piece.bytes : Piece → List UInt8
  | .char c => String.utf8EncodeChar c
  | .stray b => [b]

/-- Cuts bytes into characters and stray bytes.

A valid character at the front is taken as a whole, and one byte if there is none. So an invalid
byte does not take valid ones behind it along. -/
def pieces (bytes : List UInt8) : List Piece :=
  match bytes with
  | [] => []
  | b :: rest =>
    match head? (b :: rest) with
    | some c => .char c :: pieces (rest.drop (c.utf8Size - 1))
    | none => .stray b :: pieces rest
  termination_by bytes.length
  decreasing_by all_goals simp; try omega

/-- **Cutting loses nothing**: joined again, the pieces give the bytes back.

So two byte strings with the same pieces are equal, and a form that is written piece by piece loses
nothing. -/
theorem flatMap_bytes_pieces (bytes : List UInt8) : (pieces bytes).flatMap Piece.bytes = bytes := by
  fun_induction pieces bytes with
  | case1 => rfl
  | case2 b rest c found ih =>
    -- A character was found, and its encoding is the front of the list.
    have size_pos := c.utf8Size_pos
    obtain ⟨n, hn⟩ : ∃ n, c.utf8Size = n + 1 := ⟨c.utf8Size - 1, by omega⟩
    rw [List.flatMap_cons, ih, Piece.bytes]
    conv => rhs; rw [eq_append_of_head? found]
    simp [hn]
  -- No character begins here, so one byte is split off.
  | case3 b rest _ ih => simp [Piece.bytes, ih]

end SyscallGate.Utf8
