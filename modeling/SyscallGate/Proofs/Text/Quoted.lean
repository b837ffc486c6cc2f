import SyscallGate.Memory.KernelString
import SyscallGate.Proofs.Text.Numerals

/-!
# Reading quoted bytes

The written form of bytes can be read back. The reader takes the characters up to the closing quote,
gives back the bytes that they stand for, and leaves the characters behind the quote. It is no part
of the kernel: that it exists is why no two byte strings share a written form, whatever follows the
form on its line.

## Main definitions

- `AsciiControl`: the characters that can break a line or move the cursor.
- `Quoted.read?`: reads a written form, and leaves what follows it.

## Main results

- `Quoted.read?_write`: a written form is read as the bytes that were written.
- `Quoted.not_asciiControl_of_mem_write`: a written form holds no control character.
- `KernelString.quotedChars_append_inj`: a name can be read off its line.
- `KernelString.quoted_injective`: the form of a name in log lines determines the name.
-/

namespace SyscallGate

open SyscallGate.Utf8 (Piece)

/-- A control character of ASCII.

These are the characters below the space, and the delete character. -/
def AsciiControl (c : Char) : Prop := c.toNat < 32 ∨ c.toNat = 127

instance : DecidablePred AsciiControl := fun _ => inferInstanceAs (Decidable (_ ∨ _))

/-- For a list that is written out, the hypothesis is a computation. -/
theorem not_asciiControl_of_all {chars : List Char}
    (printed : chars.all (fun c => !decide (AsciiControl c)) = true) :
    ∀ c ∈ chars, ¬ AsciiControl c := by
  simpa using printed

/-- No digit of a byte is a control character. -/
theorem not_asciiControl_digitChar : ∀ n < 16, ¬ AsciiControl (Nat.digitChar n) := by decide

/-- An ASCII character is encoded as its number.

So a character that is written in hexadecimal digits is given back by its one byte. -/
theorem utf8EncodeChar_of_lt {c : Char} (ascii : c.toNat < 128) :
    String.utf8EncodeChar c = [UInt8.ofNat c.toNat] :=
  if_pos (Nat.le_of_lt_succ ascii)

namespace Quoted

variable {rest rest' : List Char}

/-! ## The reader -/

/-- The byte of two digits.

The reader meets lower-case digits only, since no others are written. -/
def hexByte (high low : Char) : UInt8 :=
  UInt8.ofNat (16 * Hex.digitValue high + Hex.digitValue low)

/-- The byte that a character stands for behind a backslash.

Three marks are letters for control characters. A quote and a backslash stand for themselves, and so
does an apostrophe. -/
def markedByte : Char → UInt8
  | 't' => 9
  | 'n' => 10
  | 'r' => 13
  | mark => UInt8.ofNat mark.toNat

/-- What was read, with bytes before it.

A reader that fails has read nothing, whatever came before. -/
def behind (bytes : List UInt8) (read : Option (List UInt8 × List Char)) :
    Option (List UInt8 × List Char) :=
  read.map fun (later, rest) => (bytes ++ later, rest)

/-- Reads up to the closing quote.

A backslash with `x` behind it takes two digits, and any other backslash takes one mark. All other
characters stand for the bytes of their encoding. -/
def readBody : List Char → Option (List UInt8 × List Char)
  | [] => none
  | '"' :: rest => some ([], rest)
  | '\\' :: 'x' :: high :: low :: rest => behind [hexByte high low] (readBody rest)
  | '\\' :: mark :: rest => behind [markedByte mark] (readBody rest)
  | c :: rest => behind (String.utf8EncodeChar c) (readBody rest)

/-- Reads a written form: the bytes, and the characters behind it.

What follows the closing quote is left as it is, so the rest of a line can be read after it. -/
def read? : List Char → Option (List UInt8 × List Char)
  | '"' :: rest => readBody rest
  | _ => none

/-! ## Reading what was written -/

/-- A byte that was written in hexadecimal digits is read as this byte. -/
theorem readBody_hexEscape (b : UInt8) :
    readBody (hexEscape b ++ rest) = behind [b] (readBody rest) := by
  -- The two digits are the quotient and the remainder of the byte by 16.
  have value : hexByte (Nat.digitChar (b.toNat / 16)) (Nat.digitChar (b.toNat % 16)) = b := by
    have small := b.toNat_lt
    rw [hexByte, Hex.digitValue_digitChar _ (by omega), Hex.digitValue_digitChar _ (by omega),
      Nat.div_add_mod]
    exact UInt8.ofNat_toNat
  show behind [hexByte _ _] (readBody rest) = _
  rw [value]

/-- A character that needs no mark stands for itself.

The reader looks for quotes and backslashes only, so any other character falls through to its last
case. -/
theorem readBody_cons {c : Char} (noQuote : c ≠ '"') (noBackslash : c ≠ '\\') :
    readBody (c :: rest) = behind (String.utf8EncodeChar c) (readBody rest) := by
  rw [readBody]
  · exact noQuote
  · intro _ _ _ mark
    exact absurd mark noBackslash
  · intro _ _ mark
    exact absurd mark noBackslash

/-- Each character is read as the bytes of its encoding, whatever way it was written in. The cases
are those of the writer. -/
theorem readBody_writeChar (c : Char) :
    readBody (writeChar c ++ rest) = behind (String.utf8EncodeChar c) (readBody rest) := by
  fun_cases writeChar c with
  -- A mark behind a backslash, which the reader turns into the byte of the character.
  | case1 marked | case2 _ marked | case3 _ _ marked | case4 _ _ _ marked | case5 _ _ _ _ marked
  | case6 _ _ _ _ _ marked =>
    subst marked
    rfl
  | case7 _ _ _ _ _ _ control =>
    -- Two digits. The character is below 128, so one byte is its whole encoding.
    have ascii : c.toNat < 128 := by omega
    rw [readBody_hexEscape, utf8EncodeChar_of_lt ascii]
  | case8 _ _ _ _ noQuote noBackslash => exact readBody_cons noQuote noBackslash

/-- A piece is read as its bytes, whether it is a character or a byte that belongs to none. -/
theorem readBody_writePiece (piece : Piece) :
    readBody (writePiece piece ++ rest) = behind piece.bytes (readBody rest) := by
  cases piece with
  | char c => exact readBody_writeChar c
  | stray b => exact readBody_hexEscape b

/-- Pieces up to the closing quote are read as their bytes.

The characters behind the quote are not looked at. -/
theorem readBody_flatMap_writePiece (pieces : List Piece) :
    readBody (pieces.flatMap writePiece ++ '"' :: rest) =
      some (pieces.flatMap Piece.bytes, rest) := by
  -- Induction on the pieces. The first one is read, and the reader goes on with the others.
  induction pieces with
  | nil => rfl
  | cons piece later ih =>
    rw [List.flatMap_cons, List.append_assoc, readBody_writePiece, ih, List.flatMap_cons]
    rfl

/-- **A written form is read as the bytes that were written**, whatever follows it.

The bytes need not be text: a byte that belongs to no character is written in digits and read from
them. -/
theorem read?_write (bytes : List UInt8) : read? (write bytes ++ rest) = some (bytes, rest) := by
  have read : readBody ((Utf8.pieces bytes).flatMap writePiece ++ '"' :: rest) =
      some ((Utf8.pieces bytes).flatMap Piece.bytes, rest) :=
    readBody_flatMap_writePiece (Utf8.pieces bytes)
  rw [Utf8.flatMap_bytes_pieces] at read
  rw [write, List.cons_append, List.append_assoc]
  exact read

/-- Written forms with characters behind them determine the bytes and those characters.

This is why quotes are safe in a log: nothing inside them can end the form early, and nothing behind
them can be taken for a part of it. -/
theorem write_append_inj {bytes bytes' : List UInt8}
    (same : write bytes ++ rest = write bytes' ++ rest') : bytes = bytes' ∧ rest = rest' := by
  -- The same characters are read in the same way, and each form is read as its own bytes.
  have read := congrArg read? same
  rw [read?_write, read?_write] at read
  exact Prod.mk.inj (Option.some.inj read)

/-! ## What is never written -/

/-- A byte in digits is written with a backslash, the letter `x` and two digits. -/
theorem not_asciiControl_of_mem_hexEscape {b : UInt8} {c : Char} (mem : c ∈ hexEscape b) :
    ¬ AsciiControl c := by
  have small := b.toNat_lt
  simp only [hexEscape, Hex.byte, List.mem_cons, List.not_mem_nil, or_false] at mem
  -- The four characters, one after the other.
  rcases mem with rfl | rfl | rfl | rfl
  · decide
  · decide
  · apply not_asciiControl_digitChar
    omega
  · apply not_asciiControl_digitChar
    omega

/-- No piece is written with a control character. A character that is one is written as a mark or in
digits. -/
theorem not_asciiControl_of_mem_writePiece {piece : Piece} {c : Char}
    (mem : c ∈ writePiece piece) : ¬ AsciiControl c := by
  cases piece with
  | stray b => exact not_asciiControl_of_mem_hexEscape mem
  | char c' =>
    simp only [writePiece] at mem
    revert mem
    fun_cases writeChar c' with
    | case1 | case2 | case3 | case4 | case5 | case6 =>
      -- A backslash and a mark are written.
      exact not_asciiControl_of_all (by decide) c
    | case7 => exact not_asciiControl_of_mem_hexEscape
    | case8 _ _ _ _ _ _ printed =>
      -- The character is written as it is, and only if it is no control character.
      intro mem
      rwa [List.mem_singleton.mp mem]

/-- **A written form holds no control character.**

So a name of arbitrary bytes can neither break a line nor move the cursor. -/
theorem not_asciiControl_of_mem_write {bytes : List UInt8} {c : Char} (mem : c ∈ write bytes) :
    ¬ AsciiControl c := by
  rw [write, List.mem_cons, List.mem_append, List.mem_singleton, List.mem_flatMap] at mem
  rcases mem with rfl | ⟨piece, _, written⟩ | rfl
  · decide
  · exact not_asciiControl_of_mem_writePiece written
  · decide

end Quoted

/-! ## Names in log lines -/

namespace KernelString

variable {s s' : KernelString} {rest rest' : List Char}

/-- A name is known by its bytes and by whether it was cut off. -/
theorem eq_of_bytes (bytes : s.bytes = s'.bytes) (truncated : s.truncated = s'.truncated) :
    s = s' := by
  obtain ⟨⟨_, _⟩, _⟩ := s
  obtain ⟨⟨_, _⟩, _⟩ := s'
  cases bytes
  cases truncated
  rfl

/-- **A name can be read off its line**, provided that the line goes on with something else than a
dot. The dots of the mark are outside the quotes, so dots that belong to the name are no mark.

The forms of a name and of its cut-off copy differ in the mark only, and this is why something else
than a dot has to follow. -/
theorem quotedChars_append_inj (noDot : rest.head? ≠ some '.') (noDot' : rest'.head? ≠ some '.')
    (same : s.quotedChars ++ rest = s'.quotedChars ++ rest') : s = s' ∧ rest = rest' := by
  unfold quotedChars at same
  rw [List.append_assoc, List.append_assoc] at same
  -- The bytes are read off the quoted part. What is left to compare is the mark, with the rest of
  -- the line behind it.
  obtain ⟨bytes, behind⟩ := Quoted.write_append_inj same
  cases truncated : s.truncated with
  | false =>
    cases truncated' : s'.truncated with
    | false =>
      rw [truncated, truncated'] at behind
      exact ⟨eq_of_bytes bytes (truncated.trans truncated'.symm), behind⟩
    | true =>
      -- One line goes on with a mark, and the other one with something else than a dot.
      rw [truncated, truncated'] at behind
      exact absurd (congrArg List.head? behind) noDot
  | true =>
    cases truncated' : s'.truncated with
    | false =>
      rw [truncated, truncated'] at behind
      exact absurd (congrArg List.head? behind.symm) noDot'
    | true =>
      rw [truncated, truncated'] at behind
      exact ⟨eq_of_bytes bytes (truncated.trans truncated'.symm), List.append_cancel_left behind⟩

/-- The form of a name in log lines determines the name.

The form on its own has nothing behind it, so no dot either. -/
theorem quoted_injective : Function.Injective quoted := by
  intro s s' same
  have chars : s.quotedChars ++ [] = s'.quotedChars ++ [] := by
    rw [List.append_nil, List.append_nil]
    exact String.ofList_injective same
  exact (quotedChars_append_inj (by simp) (by simp) chars).1

/-- The mark of a name that was cut off consists of dots, and the rest is a written form. -/
theorem not_asciiControl_of_mem_quotedChars {c : Char} (mem : c ∈ s.quotedChars) :
    ¬ AsciiControl c := by
  cases List.mem_append.mp mem with
  | inl written => exact Quoted.not_asciiControl_of_mem_write written
  | inr dots =>
    have dot : c = '.' := by
      cases truncated : s.truncated <;> simp [truncated] at dots
      exact dots
    rw [dot]
    decide

end KernelString

end SyscallGate
