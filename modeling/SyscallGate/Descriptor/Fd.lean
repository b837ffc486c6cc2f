import SyscallGate.Checked

/-!
# Descriptors

A descriptor is a number from 3 to 127 that names an open file: the three below are never handed
out. Descriptor `n` owns slot `n - 3` of the table.

- `Fd.ofInt32?` reads a descriptor from an argument, and fails outside the range.
- `Fd.ofSlot` names the owner of a slot, and stops the kernel outside the table.
-/

namespace SyscallGate

/-- A descriptor.

The bounds are part of the type, so a number outside them cannot reach the table. -/
structure Fd where
  /-- The number that the user program sees. -/
  number : Nat
  lower : 3 ≤ number
  /-- The largest number fits a signed byte. -/
  upper : number ≤ 127
  deriving DecidableEq, Repr

namespace Fd

def first : Fd := ⟨3, by decide, by decide⟩

def last : Fd := ⟨127, by decide, by decide⟩

/-- How many descriptors there are. -/
def slotCount : Nat := last.number - first.number + 1

theorem slotCount_eq : slotCount = 125 := rfl

def ofNat? (n : Nat) : Option Fd :=
  if h : 3 ≤ n ∧ n ≤ 127 then some ⟨n, h.1, h.2⟩ else none

/-- The descriptor that an argument names.

The whole word is compared before it is taken for a descriptor, so no larger number passes as a
smaller one. -/
def ofInt32? (raw : Int32) : Option Fd :=
  if raw.toInt < 0 then none else ofNat? raw.toInt.toNat

/-- The descriptor as a register holds it. -/
def toUInt32 (fd : Fd) : UInt32 := UInt32.ofNat fd.number

/-- The slot that the descriptor owns.

Slots are numbered from 0, and the first descriptor is 3. -/
def slot (fd : Fd) : Nat := fd.number - 3

/-- The owner of a slot.

A number outside the table has no owner. That is an error of the kernel and not of the program, so
it stops the kernel. -/
def ofSlot (slot : Nat) : Checked Fd :=
  if h : slot < slotCount then
    .ok ⟨slot + 3, by omega, by rw [slotCount_eq] at h; omega⟩
  else
    .error (.slotOutsideTable slot)

def text (fd : Fd) : String := toString fd.number

def labelled (fd : Fd) : String := "Fd(" ++ fd.text ++ ")"

/-! ## Slots and numbers -/

/-- A descriptor owns a slot of the table. -/
theorem slot_lt (fd : Fd) : fd.slot < slotCount := by
  have := fd.lower
  have := fd.upper
  rw [slotCount_eq]
  unfold slot
  omega

/-- A descriptor is its number. -/
theorem ext_number {a b : Fd} (h : a.number = b.number) : a = b := by
  cases a
  cases b
  cases h
  rfl

/-- Different descriptors own different slots. -/
theorem slot_injective {a b : Fd} (h : a.slot = b.slot) : a = b := by
  have := a.lower
  have := b.lower
  apply ext_number
  unfold slot at h
  omega

/-- Inside the table a slot has an owner, and it is the owner's slot. -/
theorem ofSlot_slot (fd : Fd) : ofSlot fd.slot = .ok fd := by
  have h := fd.slot_lt
  have := fd.lower
  unfold ofSlot
  rw [dif_pos h]
  congr 1
  apply ext_number
  simp only [slot]
  omega

end Fd

end SyscallGate
