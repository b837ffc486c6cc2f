import Mathlib.Data.List.TakeWhile
import SyscallGate.Text.Hex

/-!
# Reading numerals

A number in a text can be read back, as long as no digit follows it. That is what the records of the
kernel rest on: the number of a descriptor, and the number, the arguments and the result of a call
stand in them as numerals.

## Main definitions

- `Stops`: a text that does not go on with a character of a kind.
- `Hex.value`: the number of hexadecimal digits.

## Main results

- `append_inj_of_stops`: characters of one kind can be told from the text behind them.
- `repr_append_inj`: a decimal numeral with a text behind it determines the number and that text.
- `Hex.plain_append_inj`: so does a hexadecimal one.
-/

namespace SyscallGate

/-! ## Characters of a kind -/

/-- The text does not go on with a character of a kind.

It ends, or its next character is of another kind. For a text that is written out this is a
computation. -/
def Stops (kind : Char → Bool) (text : List Char) : Prop :=
  text.head?.all (fun c => !kind c) = true

instance (kind : Char → Bool) : DecidablePred (Stops kind) :=
  fun _ => inferInstanceAs (Decidable (_ = true))

variable {kind : Char → Bool} {front front' rest rest' : List Char}

/-- The characters in front are all that are taken, since the text behind them does not go on with
their kind. -/
theorem takeWhile_append_of_stops (all : ∀ c ∈ front, kind c = true) (stops : Stops kind rest) :
    (front ++ rest).takeWhile kind = front := by
  -- Of the text behind nothing is taken, as it ends or its first character is of another kind.
  have nothing : rest.takeWhile kind = [] := by
    cases rest with
    | nil => rfl
    | cons c later =>
      apply List.takeWhile_cons_of_neg
      simpa [Stops] using stops
  rw [List.takeWhile_append_of_pos all, nothing, List.append_nil]

/-- **Characters of one kind can be told from the text behind them**, if it does not go on with
them.

So a numeral can be cut out of a line without knowing how long it is. -/
theorem append_inj_of_stops (all : ∀ c ∈ front, kind c = true) (all' : ∀ c ∈ front', kind c = true)
    (stops : Stops kind rest) (stops' : Stops kind rest') (same : front ++ rest = front' ++ rest') :
    front = front' ∧ rest = rest' := by
  have fronts := congrArg (List.takeWhile kind) same
  rw [takeWhile_append_of_stops all stops, takeWhile_append_of_stops all' stops'] at fronts
  rw [fronts] at same
  exact ⟨fronts, List.append_cancel_left same⟩

/-- What holds of the digits of a base holds of every character in a numeral.

The base is at least 2, so the number gets smaller with each digit that is split off. -/
theorem forall_mem_toDigits (holds : Char → Prop) {base : Nat} (two : 1 < base)
    (each : ∀ d < base, holds (Nat.digitChar d)) (n : Nat) :
    ∀ c ∈ Nat.toDigits base n, holds c := by
  -- Induction on the number; the digits before the last one are those of a smaller number.
  induction n using Nat.strongRecOn with
  | ind n ih =>
    intro c mem
    rw [Nat.toDigits_eq_if two] at mem
    split at mem
    case isTrue small =>
      -- One digit is the whole numeral.
      rw [List.mem_singleton.mp mem]
      exact each n small
    case isFalse large =>
      -- The last digit stands behind the numeral of the quotient.
      rcases List.mem_append.mp mem with before | last
      · exact ih (n / base) (Nat.div_lt_self (by omega) two) c before
      · rw [List.mem_singleton.mp last]
        exact each _ (Nat.mod_lt n (by omega))

/-! ## Decimal numerals -/

/-- A decimal numeral consists of decimal digits. -/
theorem isDigit_of_mem_repr (n : Nat) : ∀ c ∈ n.repr.toList, c.isDigit = true := by
  intro c mem
  rw [Nat.toList_repr] at mem
  exact Nat.isDigit_of_mem_toDigits (by decide) (by decide) mem

/-- **A decimal numeral with a text behind it** determines the number and that text.

The text behind must not go on with a digit, since the digit would belong to the numeral. -/
theorem repr_append_inj {n m : Nat} (stops : Stops Char.isDigit rest)
    (stops' : Stops Char.isDigit rest') (same : n.repr.toList ++ rest = m.repr.toList ++ rest') :
    n = m ∧ rest = rest' := by
  obtain ⟨digits, behind⟩ :=
    append_inj_of_stops (isDigit_of_mem_repr n) (isDigit_of_mem_repr m) stops stops' same
  rw [Nat.toList_repr, Nat.toList_repr] at digits
  refine ⟨?_, behind⟩
  -- The numeral gives back the number, so equal numerals are of equal numbers.
  calc n = Nat.ofDigitChars 10 (Nat.toDigits 10 n) 0 := Nat.ofDigitChars_ten_toDigits.symm
    _ = Nat.ofDigitChars 10 (Nat.toDigits 10 m) 0 := by rw [digits]
    _ = m := Nat.ofDigitChars_ten_toDigits

/-! ## Hexadecimal numerals -/

namespace Hex

/-- Hexadecimal digits are the decimal ones and the letters from `a` to `f`. -/
def isDigit (c : Char) : Bool := c.isDigit || 97 ≤ c.toNat && c.toNat ≤ 102

/-- The value of a hexadecimal digit.

The letters stand for the values from 10 on. Only hexadecimal digits are looked at. -/
def digitValue (digit : Char) : Nat :=
  if digit.toNat < 97 then digit.toNat - 48 else digit.toNat - 87

/-- The value of a digit is the number that it was written for. -/
theorem digitValue_digitChar : ∀ d < 16, digitValue (Nat.digitChar d) = d := by decide

/-- The digits of numbers below 16 are hexadecimal digits. -/
theorem isDigit_digitChar : ∀ d < 16, isDigit (Nat.digitChar d) = true := by decide

/-- The number of hexadecimal digits.

The first digit has the highest weight. -/
def value (digits : List Char) : Nat :=
  digits.foldl (fun value digit => 16 * value + digitValue digit) 0

/-- The digits of a number have this number as their value. -/
theorem value_toDigits (n : Nat) : value (Nat.toDigits 16 n) = n := by
  -- Induction on the number; the digits before the last one are those of the quotient.
  induction n using Nat.strongRecOn with
  | ind n ih =>
    rw [Nat.toDigits_eq_if (by decide)]
    split
    case isTrue small => simp [value, digitValue_digitChar n small]
    case isFalse large =>
      have before := ih (n / 16) (Nat.div_lt_self (by omega) (by decide))
      rw [value] at before
      have last := digitValue_digitChar (n % 16) (Nat.mod_lt n (by decide))
      rw [value, List.foldl_append, before, List.foldl_cons, List.foldl_nil, last]
      exact Nat.div_add_mod n 16

/-- **A hexadecimal numeral with a text behind it** determines the number and that text.

The prefix of the numeral is the same on both sides and is dropped first. -/
theorem plain_append_inj {n m : Nat} (stops : Stops isDigit rest) (stops' : Stops isDigit rest')
    (same : (plain n).toList ++ rest = (plain m).toList ++ rest') : n = m ∧ rest = rest' := by
  simp only [plain, String.toList_append, String.toList_ofList, List.append_assoc] at same
  obtain ⟨digits, behind⟩ := append_inj_of_stops
    (forall_mem_toDigits _ (by decide) isDigit_digitChar n)
    (forall_mem_toDigits _ (by decide) isDigit_digitChar m) stops stops'
    (List.append_cancel_left same)
  refine ⟨?_, behind⟩
  calc n = value (Nat.toDigits 16 n) := (value_toDigits n).symm
    _ = value (Nat.toDigits 16 m) := by rw [digits]
    _ = m := value_toDigits m

end Hex

end SyscallGate
