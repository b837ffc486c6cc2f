import SyscallGate.Memory.Copy
import SyscallGate.Trap.Context

/-!
# Call arguments

The arguments of a call fill numbered slots of one word each. Slots 0 to 3 are registers; the others
lie on the user stack, above a gap of 16 bytes that the caller leaves for the registers.

- `ArgumentReader.slot` is the word in a slot.
- `word`, `int` and `userAddr` read the next slot.
- `dword` reads a number of 64 bits from two slots, high word first. It begins at an even slot, so
    it skips one slot when the next one is odd.
-/

namespace SyscallGate

/-- A reader of arguments: the memory with the user stack, and the slot to be read next.

The memory is part of the state, since it may change when the stack is read. -/
structure ArgumentReader (μ : Type) where
  memory : μ
  next : Nat

namespace ArgumentReader

variable {μ τ : Type} [UserMemory μ] [TrapContext τ]

/-- The distance from the stack pointer to the first argument on the stack. -/
def stackOffset : Nat := 16

def slotSize : Nat := 4

def start (memory : μ) : ArgumentReader μ := ⟨memory, 0⟩

/-- The number that bytes stand for, lowest byte first.

The recursion follows the bytes, so the number is below 256 to the power of their count. -/
def littleEndian : List UInt8 → Nat
  | [] => 0
  | b :: rest => b.toNat + 256 * littleEndian rest

/-- Runs an action on the memory of a reader. -/
def onMemory {η α : Type} (x : Action μ MemoryCall η α) :
    Action (ArgumentReader μ) MemoryCall η α :=
  x.zoom (·.memory) (fun memory reader => { reader with memory }) id

/-- Makes `slot` the next one to be read. -/
def moveTo {η : Type} (slot : Nat) : Action (ArgumentReader μ) MemoryCall η Unit :=
  .modify fun reader => { reader with next := slot }

/-- The word in a slot.

The first slots are registers, and the others are words on the stack. The distance of a word is
computed with checks, and an address that leaves 64 bits is refused like one outside user space. -/
def slot (ctx : τ) (index : Nat) : Action (ArgumentReader μ) MemoryCall Errno UInt32 :=
  if index < argumentRegisters then
    .ofChecked (TrapContext.argument ctx index)
  else do
    -- The distance from the stack pointer: the gap, and four bytes for each slot behind the
    -- registers.
    let onStack ← .ofChecked (Checked.sub index argumentRegisters)
    let depth ← .ofChecked (Checked.mul onStack slotSize)
    let offset ← .ofChecked (Checked.add stackOffset depth)
    match (TrapContext.stackPointer ctx).add? offset with
    | none => .refuse .efault
    | some addr =>
      let bytes ← onMemory (Copy.inBytes addr slotSize)
      return UInt32.ofNat (littleEndian bytes)

/-- Reads the next slot. A refusal leaves the position as it is.

The position moves only after the word was read, so a second attempt looks at the same slot. -/
def word (ctx : τ) : Action (ArgumentReader μ) MemoryCall Errno UInt32 := do
  let reader ← .read
  let value ← slot ctx reader.next
  let next ← .ofChecked (Checked.add reader.next 1)
  moveTo next
  return value

/-- Reads the next slot as a signed number. -/
def int (ctx : τ) : Action (ArgumentReader μ) MemoryCall Errno Int32 := do
  let value ← word ctx
  return value.toInt32

/-- Reads the next slot as an address. -/
def userAddr (ctx : τ) : Action (ArgumentReader μ) MemoryCall Errno UserAddr := do
  let value ← word ctx
  return .ofRegister value

/-- Makes the next even slot the one to be read, and names it.

A pair never spans the last register and the first word on the stack, for there is an even number of
registers. -/
def alignToPair {η : Type} : Action (ArgumentReader μ) MemoryCall η Nat := do
  let reader ← .read
  if reader.next % 2 = 1 then
    let even ← .ofChecked (Checked.add reader.next 1)
    moveTo even
    return even
  else
    return reader.next

/-- Reads the next aligned pair of slots, high word first. A refusal leaves the position at the
pair. -/
def dword (ctx : τ) : Action (ArgumentReader μ) MemoryCall Errno UInt64 := do
  let even ← alignToPair
  -- The high word is first. If its slot is refused then the other one is not looked up.
  let high ← slot ctx even
  let odd ← .ofChecked (Checked.add even 1)
  let low ← slot ctx odd
  let next ← .ofChecked (Checked.add even 2)
  moveTo next
  return UInt64.ofNat (0x100000000 * high.toNat + low.toNat)

end ArgumentReader

end SyscallGate
