import SyscallGate.Checked
import SyscallGate.Text.Hex

/-!
# User addresses

An address that a user program hands to the kernel. It is a word of 64 bits; only the addresses
below `userTop` can belong to the program.

- `UserAddr.toNat` is the view in which all reasoning about addresses takes place.
- `UserAddr.bytesToPageEnd` is the distance to the next page boundary.
- `UserAddr.add?` moves an address, unless the sum leaves 64 bits.
-/

namespace SyscallGate

def pageSize : Nat := 4096

/-- The bits of an address that lie inside its page. -/
def pageMask : Nat := pageSize - 1

/-- The first address above user space. -/
def userTop : Nat := 0x80000000

/-- An address given by a user program.

Nothing is known of it: it may be null, beyond user space, or not mapped. -/
structure UserAddr where
  word : UInt64
  deriving DecidableEq, Repr

namespace UserAddr

def null : UserAddr := ⟨0⟩

/-- The address held in a register of 32 bits.

The upper half of the address is zero, so every address from a register is below 2^32. -/
def ofRegister (word : UInt32) : UserAddr := ⟨word.toUInt64⟩

def toNat (a : UserAddr) : Nat := a.word.toNat

/-- The address of a given number below 2^64. -/
def ofNat (n : Nat) : UserAddr := ⟨UInt64.ofNat n⟩

def isNull (a : UserAddr) : Bool := a.word == 0

/-- Whether the address lies in user space.

The null address is below the top as well. It is excluded where ranges are checked. -/
def isUser (a : UserAddr) : Bool := a.toNat < userTop

/-- The position of the address inside its page. -/
def pageOffset (a : UserAddr) : Nat := a.toNat % pageSize

/-- How many bytes lie between the address and the end of its page. -/
def bytesToPageEnd (a : UserAddr) : Checked Nat := Checked.sub pageSize a.pageOffset

/-- The address `n` bytes further, if it is a word.

A sum beyond 64 bits is no address, and does not wrap around. -/
def add? (a : UserAddr) (n : Nat) : Option UserAddr :=
  if a.toNat + n < wordLimit then some (ofNat (a.toNat + n)) else none

instance : Ord UserAddr where
  compare a b := compare a.word b.word

/-- The address in hexadecimal, with at least eight digits. -/
def text (a : UserAddr) : String := Hex.wide a.toNat

def labelled (a : UserAddr) : String := "UserAddr(" ++ a.text ++ ")"

/-! ## The numeric view -/

/-- An address is below 2^64. -/
theorem toNat_lt (a : UserAddr) : a.toNat < wordLimit :=
  a.word.toNat_lt

/-- A number below 2^64 is the number of its address. -/
theorem toNat_ofNat {n : Nat} (h : n < wordLimit) : (ofNat n).toNat = n := by
  simp only [ofNat, toNat, UInt64.toNat_ofNat']
  exact Nat.mod_eq_of_lt h

@[simp] theorem toNat_ofRegister (w : UInt32) : (ofRegister w).toNat = w.toNat := by
  simp [ofRegister, toNat]

/-- An address is its number. -/
theorem ext_toNat {a b : UserAddr} (h : a.toNat = b.toNat) : a = b := by
  cases a
  cases b
  exact congrArg UserAddr.mk (UInt64.toNat_inj.mp h)

theorem isNull_iff (a : UserAddr) : a.isNull = true ↔ a.toNat = 0 := by
  simp only [isNull, toNat, beq_iff_eq]
  exact ⟨fun h => by rw [h]; rfl, fun h => UInt64.toNat_inj.mp h⟩

theorem isUser_iff (a : UserAddr) : a.isUser = true ↔ a.toNat < userTop := by
  simp [isUser]

/-- A moved address is the sum of the numbers.

This is how all proofs about moved addresses go on with numbers. -/
theorem add?_eq_some_iff {a b : UserAddr} {n : Nat} :
    a.add? n = some b ↔ b.toNat = a.toNat + n := by
  unfold add?
  split
  case isTrue small =>
    constructor
    · intro h
      cases h
      exact toNat_ofNat small
    · intro h
      exact congrArg some (ext_toNat (by rw [toNat_ofNat small, h]))
  case isFalse large =>
    have := b.toNat_lt
    constructor
    · intro h
      cases h
    · intro h
      omega

/-- A move fails exactly when the sum is no word. -/
theorem add?_eq_none_iff {a : UserAddr} {n : Nat} :
    a.add? n = none ↔ wordLimit ≤ a.toNat + n := by
  unfold add?
  split <;> simp <;> omega

/-- The distance to the end of the page never underflows, and is at least one byte. -/
theorem bytesToPageEnd_eq (a : UserAddr) :
    a.bytesToPageEnd = .ok (pageSize - a.toNat % pageSize) := by
  have := Nat.mod_lt a.toNat (show 0 < pageSize by decide)
  exact Checked.sub_eq_ok (Nat.le_of_lt this)

end UserAddr

end SyscallGate
