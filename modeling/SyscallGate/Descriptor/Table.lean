import SyscallGate.Conditions
import SyscallGate.Descriptor.Fd
import SyscallGate.Errno
import SyscallGate.Log.Record
import SyscallGate.Log.Target

/-!
# The descriptor table

A list of slots, each free or holding an open file, that grows up to one slot for each descriptor.

- `Table.get?` is the view of the table as a finite map from descriptors to files.
- `Table.allocate` takes the lowest free slot and grows the table when none is free. It hands the
    file back when it refuses.
- `Table.deallocate` frees a slot and gives the file out.
- `Table.drain` takes all files at once, lowest descriptor first, and gives the slots up.

Storage for slots is reserved ahead, for `Table.firstReservation` slots and then for twice as many
each time. Only the step to a larger reservation can fail.
-/

namespace SyscallGate

/-- The slots in use so far, and how many the reserved storage can hold.

A slot that was freed stays and is used again. Only a drain makes the list shorter. -/
structure Table (φ : Type) where
  slots : List (Option φ)
  /-- The number of slots for which storage is reserved. -/
  capacity : Nat
  deriving DecidableEq, Repr

namespace Table

/-! ## Refusals and notices -/

/-- Why the table refused a request.

A number that names no open file, no descriptor left, and no storage for another slot. -/
inductive Error where
  | badHandle
  | exhausted
  | outOfMemory
  deriving DecidableEq, Repr

namespace Error

def all : List Error := [badHandle, exhausted, outOfMemory]

def name : Error → String
  | badHandle => "BadHandle"
  | exhausted => "Exhausted"
  | outOfMemory => "OutOfMemory"

def message : Error → String
  | badHandle => "bad file descriptor"
  | exhausted => "file descriptor table full"
  | outOfMemory => "out of memory for descriptor slot"

/-- The error number with which a system call answers. -/
def toErrno : Error → Errno
  | badHandle => .ebadf
  | exhausted => .enfile
  | outOfMemory => .enomem

def ofName? (s : String) : Option Error :=
  all.find? fun e => e.name == s

end Error

/-- A change of the table, as its trace tells it. -/
inductive Notice where
  | allocated (fd : Fd)
  | released (fd : Fd)
  deriving DecidableEq, Repr

namespace Notice

/-- Every change of the table is a detail. -/
def level : Notice → Log.Level
  | allocated _ => .trace
  | released _ => .trace

def text : Notice → String
  | allocated fd => "fd: allocated " ++ fd.text
  | released fd => "fd: released " ++ fd.text

def record (n : Notice) : Log.Record := ⟨n.level, Log.Target.table.path, n.text⟩

end Notice

variable {φ η : Type}

/-! ## Views -/

def empty : Table φ := ⟨[], 0⟩

/-- The file that a descriptor names.

A descriptor whose slot does not exist yet names nothing, just as one whose slot is free. -/
def get? (t : Table φ) (fd : Fd) : Option φ := (t.slots[fd.slot]?).join

/-- Whether a number names an open file. -/
def contains (t : Table φ) (raw : Int32) : Bool :=
  match Fd.ofInt32? raw with
  | some fd => (t.get? fd).isSome
  | none => false

def liveCount (t : Table φ) : Nat := t.slots.countP Option.isSome

def isEmpty (t : Table φ) : Bool := t.liveCount == 0

/-- The lowest free slot among those that exist. -/
def firstFree (t : Table φ) : Option Nat := t.slots.findIdx? Option.isNone

/-- The slots in use, with their files, lowest first. -/
def occupied (t : Table φ) : List (Nat × φ) :=
  t.slots.zipIdx.filterMap fun (content, slot) => content.map fun file => (slot, file)

/-- The descriptors in use, with their files, lowest first.

Every slot of the table has an owner as long as there are no more slots than descriptors. -/
def entries (t : Table φ) : Checked (List (Fd × φ)) :=
  t.occupied.mapM fun (slot, file) => return (← Fd.ofSlot slot, file)

/-! ## Operations -/

/-- The slots for which storage is reserved when the first one is made.

Growing storage begins with four elements if an element takes 2 to 1024 bytes, and this is what is
taken of a slot here. It would begin with eight elements of one byte, and with one element above
1024 bytes. When growth can fail is all that depends on the number: other results use no more of
growth than `Table.grow?_cases` says, which holds for any number in its place. -/
def firstReservation : Nat := 4

/-- The table with one more slot, which is free.

Without reserved storage it takes a reservation of twice the size, and there is none when slots are
short. -/
def grow? (c : Conditions) (t : Table φ) : Option (Table φ) :=
  if t.slots.length < t.capacity then
    some { t with slots := t.slots ++ [none] }
  else if c.shortage.slots then
    none
  else
    some ⟨t.slots ++ [none], max firstReservation (2 * t.capacity)⟩

/-- Puts a file into a free slot and names its descriptor.

The slot exists when this is called, and it has an owner. Both are checked all the same, and a
failure would stop the kernel. -/
def occupy (c : Conditions) (slot : Nat) (file : φ) : Action (Table φ) Notice η Fd := do
  let table ← .read
  let slots ← .ofChecked (Checked.replaceAt table.slots slot (some file))
  .write { table with slots }
  let fd ← .ofChecked (Fd.ofSlot slot)
  c.note .trace (.allocated fd)
  return fd

/-- Hands out the lowest free descriptor.

A free slot is used before a new one is made, so descriptors stay as low as they can. A refusal
hands the file back to the caller, who has to close it. -/
def allocate (c : Conditions) (file : φ) : Action (Table φ) Notice (Error × φ) Fd := do
  let table ← .read
  match table.firstFree with
  | some slot => occupy c slot file
  | none =>
    if table.slots.length < Fd.slotCount then
      -- No slot is free, so a new one is made at the end. It is free, and occupied at once.
      match table.grow? c with
      | some larger =>
        .write larger
        occupy c table.slots.length file
      | none => .refuse (.outOfMemory, file)
    else
      .refuse (.exhausted, file)

/-- Takes a descriptor back and gives its file out.

The slot is freed before the file is given out, so the descriptor is free whatever becomes of the
file. -/
def deallocate (c : Conditions) (raw : Int32) : Action (Table φ) Notice Error φ :=
  match Fd.ofInt32? raw with
  | none => .refuse .badHandle
  | some fd => do
    let table ← .read
    match table.get? fd with
    | none => .refuse .badHandle
    | some file =>
      .write { table with slots := table.slots.set fd.slot none }
      c.note .trace (.released fd)
      return file

/-- Takes every descriptor back and gives up the slots.

The files are those of the descriptors in use. The storage is given up as well, so growth begins
anew. -/
def drain : Action (Table φ) Notice η (List (Fd × φ)) := do
  let table ← .read
  .write empty
  .ofChecked table.entries

/-! ## Text -/

def labelled (t : Table φ) : Checked String := do
  let live ← t.entries
  return "\x7b" ++ String.intercalate ", " (live.map fun entry => entry.1.labelled) ++ "\x7d"

/-- The descriptors in use, between braces, with a line for each brace, label and number. -/
def labelledLines (t : Table φ) : Checked String := do
  let live ← t.entries
  if live.isEmpty then
    return "\x7b\x7d"
  else
    let inner := live.flatMap fun entry =>
      ["    Fd(", "        " ++ entry.1.text ++ ",", "    ),"]
    return String.intercalate "\n" (["\x7b"] ++ inner ++ ["\x7d"])

end Table

end SyscallGate
