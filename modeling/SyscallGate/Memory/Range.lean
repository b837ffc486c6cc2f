import SyscallGate.Errno
import SyscallGate.Memory.Address

/-!
# Checked ranges

A range of user memory that the kernel may hand to the copy primitives: empty, or entirely between
the null address and the top of user space.

- `UserRange direction` carries that fact in its type, so a range that was not checked cannot be
    accessed.
- `UserRange.check` is the only way in which the kernel obtains one.
-/

namespace SyscallGate

/-- What a range is to be used for. -/
inductive Direction where
  | read
  | write
  deriving DecidableEq, Repr

/-- A range of user memory that passed the check.

The direction is part of the type, so a range for reading cannot be written to. -/
structure UserRange (direction : Direction) where
  addr : UserAddr
  len : Nat
  /-- The range is empty, or it avoids the null address and ends inside user space. -/
  inUser : len = 0 ∨ (0 < addr.toNat ∧ addr.toNat + len ≤ userTop)

namespace UserRange

variable {d : Direction}

def isEmpty (r : UserRange d) : Bool := r.len == 0

def labelled (r : UserRange d) : String :=
  let kind := match d with
    | .read => "UserBuffer"
    | .write => "UserBufferMut"
  kind ++ " \x7b addr: " ++ r.addr.labelled ++ ", len: " ++ toString r.len ++ " \x7d"

/-- Checks a range. The empty range is good wherever it lies.

The conditions are tried in a fixed order, and every failure has the same error number. A sum that
leaves 64 bits is refused and does not wrap around into user space. -/
def check (d : Direction) (addr : UserAddr) (len : Nat) : Except Errno (UserRange d) :=
  if empty : len = 0 then
    .ok ⟨addr, len, .inl empty⟩
  else if null : addr.isNull then
    .error .efault
  else if addr.isUser then
    match sum : addr.add? len with
    | none => .error .efault
    | some stop =>
      if below : stop.toNat ≤ userTop then
        .ok ⟨addr, len, .inr (by
          -- The address is not null and the end is below the top, which is what the type asks for.
          have nonzero : addr.toNat ≠ 0 := fun h => null ((addr.isNull_iff).mpr h)
          have := UserAddr.add?_eq_some_iff.mp sum
          omega)⟩
      else
        .error .efault
  else
    .error .efault

/-- A checked range is the one that was asked for.

The check neither moves nor cuts a range. -/
theorem check_addr_len {addr : UserAddr} {len : Nat} {r : UserRange d}
    (h : check d addr len = .ok r) : r.addr = addr ∧ r.len = len := by
  unfold check at h
  split at h
  case isTrue => cases h; exact ⟨rfl, rfl⟩
  case isFalse =>
    split at h
    case isTrue => cases h
    case isFalse =>
      split at h
      case isFalse => cases h
      case isTrue =>
        split at h
        case h_1 => cases h
        case h_2 =>
          split at h
          case isTrue => cases h; exact ⟨rfl, rfl⟩
          case isFalse => cases h

end UserRange

end SyscallGate
