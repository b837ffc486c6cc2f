/-!
# Checked steps

Arithmetic, indexing and assertions that stop the kernel when they are used outside their range.

- `Panic` lists the causes of such a stop and `Panic.message` words them.
- `Checked α` is a value of type `α` or a panic.
- `Checked.add`, `Checked.sub` and `Checked.mul` compute on machine words of 64 bits, seen as
    natural numbers.
- `Checked.firstPart` and `Checked.replaceAt` are the bounds-checked accesses to a list.

Each operation comes with the equation for the case in which it cannot stop.
-/

namespace SyscallGate

/-- The number of values of a machine word: every length and offset lies below it.

Lengths and offsets are natural numbers here, and the checked operations keep them below it. -/
def wordLimit : Nat := 0x10000000000000000

/-- Why the kernel stopped.

Each cause carries the numbers that its message tells. -/
inductive Panic where
  /-- A trap context was asked for an argument register it does not have. -/
  | argumentRegister (index : Nat)
  | slotOutsideTable (slot : Nat)
  | additionOverflow
  | subtractionOverflow
  | multiplicationOverflow
  | indexOutOfBounds (index length : Nat)
  /-- A part of a list was asked for that ends past the end of the list. -/
  | rangeOutOfBounds (stop length : Nat)
  /-- A buffer was asked to hold more than what was reserved for it. -/
  | reservationExceeded (needed reserved : Nat)
  deriving DecidableEq, Repr

def Panic.message : Panic → String
  | argumentRegister index => s!"argument register {index} out of range"
  | slotOutsideTable slot => s!"fd slot {slot} outside table"
  | additionOverflow => "attempt to add with overflow"
  | subtractionOverflow => "attempt to subtract with overflow"
  | multiplicationOverflow => "attempt to multiply with overflow"
  | indexOutOfBounds index length =>
    s!"index out of bounds: the len is {length} but the index is {index}"
  | rangeOutOfBounds stop length =>
    s!"range end index {stop} out of range for slice of length {length}"
  | reservationExceeded needed reserved =>
    s!"buffer of {reserved} bytes cannot hold {needed}"

/-- A value, or the panic that replaced it. -/
abbrev Checked (α : Type) := Except Panic α

namespace Checked

/-! ## Machine-word arithmetic -/

def add (a b : Nat) : Checked Nat :=
  if a + b < wordLimit then .ok (a + b) else .error .additionOverflow

def sub (a b : Nat) : Checked Nat :=
  if b ≤ a then .ok (a - b) else .error .subtractionOverflow

def mul (a b : Nat) : Checked Nat :=
  if a * b < wordLimit then .ok (a * b) else .error .multiplicationOverflow

theorem add_eq_ok {a b : Nat} (h : a + b < wordLimit) : add a b = .ok (a + b) := by
  simp [add, h]

theorem sub_eq_ok {a b : Nat} (h : b ≤ a) : sub a b = .ok (a - b) := by
  simp [sub, h]

theorem mul_eq_ok {a b : Nat} (h : a * b < wordLimit) : mul a b = .ok (a * b) := by
  simp [mul, h]

/-! ## Lists -/

/-- The first `n` elements of a list that has at least `n`. -/
def firstPart {α : Type} (l : List α) (n : Nat) : Checked (List α) :=
  if n ≤ l.length then .ok (l.take n) else .error (.rangeOutOfBounds n l.length)

/-- Replaces the element at a position inside the list. -/
def replaceAt {α : Type} (l : List α) (i : Nat) (a : α) : Checked (List α) :=
  if i < l.length then .ok (l.set i a) else .error (.indexOutOfBounds i l.length)

theorem firstPart_eq_ok {α : Type} {l : List α} {n : Nat} (h : n ≤ l.length) :
    firstPart l n = .ok (l.take n) := by
  simp [firstPart, h]

theorem replaceAt_eq_ok {α : Type} {l : List α} {i : Nat} {a : α} (h : i < l.length) :
    replaceAt l i a = .ok (l.set i a) := by
  simp [replaceAt, h]

end Checked

end SyscallGate
