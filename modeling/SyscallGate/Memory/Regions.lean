import SyscallGate.Memory.UserMemory

/-!
# User memory made of regions

A user memory that is a list of regions, each of them readable as a whole. An access that is not
inside one region faults, even when it lies in two regions that touch.

- `RegionMemory` is the memory, with its instance of `UserMemory`.
- `RegionMemory.peek?` and `RegionMemory.poke?` look at it and change it from outside, whatever the
    rights of the region.
-/

namespace SyscallGate

/-- Consecutive bytes of user memory with the same rights.

The bytes are present as a whole, and the rights are those of the whole region. -/
structure Region where
  base : Nat
  bytes : List UInt8
  /-- Whether copying to the region faults. -/
  readOnly : Bool
  /-- The error with which the region answers every access, if there is one. -/
  fault : Option Errno
  deriving DecidableEq, Repr

namespace Region

/-- Bytes brought to a given size: cut, or filled up. -/
def sized (bytes : List UInt8) (size : Nat) (fill : UInt8) : List UInt8 :=
  bytes.take size ++ List.replicate (size - bytes.length) fill

def holds (r : Region) (addr len : Nat) : Bool :=
  r.base ≤ addr ∧ addr + len ≤ r.base + r.bytes.length

def read? (r : Region) (addr len : Nat) : Option (Vector UInt8 len) :=
  if inside : r.holds addr len then
    some ⟨((r.bytes.drop (addr - r.base)).take len).toArray, by
      simp only [holds, decide_eq_true_eq] at inside
      simp only [List.size_toArray, List.length_take, List.length_drop]
      omega⟩
  else
    none

/-- The region with other bytes from an address on.

Bytes that reach beyond the region make it longer; callers look first whether the region holds the
range. -/
def overwrite (r : Region) (addr : Nat) (bytes : List UInt8) : Region :=
  let offset := addr - r.base
  { r with bytes := r.bytes.take offset ++ bytes ++ r.bytes.drop (offset + bytes.length) }

end Region

/-- A user memory made of regions. The first region that holds a range answers for it.

Regions may overlap, and then the first one hides the others. -/
structure RegionMemory where
  regions : List Region
  deriving DecidableEq, Repr

namespace RegionMemory

def find? (m : RegionMemory) (addr len : Nat) : Option Region :=
  m.regions.find? fun r => r.holds addr len

/-- The memory after the first region that holds the range is overwritten. -/
def overwrite (m : RegionMemory) (addr : Nat) (bytes : List UInt8) : RegionMemory :=
  match m.regions.findIdx? fun r => r.holds addr bytes.length with
  | some i => ⟨m.regions.modify i fun r => r.overwrite addr bytes⟩
  | none => m

/-- The bytes of a range, if a region holds it. -/
def peek? (m : RegionMemory) (addr len : Nat) : Option (Vector UInt8 len) :=
  (m.find? addr len).bind fun r => r.read? addr len

/-- The memory with other bytes in a range, if a region holds it. -/
def poke? (m : RegionMemory) (addr : Nat) (bytes : List UInt8) : Option RegionMemory :=
  (m.find? addr bytes.length).map fun _ => m.overwrite addr bytes

/-- The answer to a request for bytes.

No region, a fault of the region, and the bytes: in this order. Nothing is returned in part. -/
def answerIn (m : RegionMemory) (addr len : Nat) : Except Errno (Vector UInt8 len) :=
  match m.find? addr len with
  | none => .error .efault
  | some r =>
    match r.fault with
    | some e => .error e
    | none => (r.read? addr len).elim (.error .efault) .ok

/-- The answer to a request to write, with the memory afterwards.

A region that is read-only refuses to be written to, and the memory stays as it was. -/
def answerOut (m : RegionMemory) (addr : Nat) (bytes : List UInt8) :
    Except Errno Unit × RegionMemory :=
  match m.find? addr bytes.length with
  | none => (.error .efault, m)
  | some r =>
    match r.fault with
    | some e => (.error e, m)
    | none => if r.readOnly then (.error .efault, m) else (.ok (), m.overwrite addr bytes)

instance : UserMemory RegionMemory where
  copyIn src len m := (m.answerIn src.toNat len, m)
  copyOut bytes dst m := m.answerOut dst.toNat bytes

end RegionMemory

end SyscallGate
