import SyscallGate.Memory.UserMemory

/-!
# Which ranges pass the check

The check of a range accepts the empty range wherever it lies, and otherwise the ranges inside user
space, in unbounded numbers. Every other range faults (`UserRange.check_eq`).

## Main definitions

- `InUserSpace`: the range avoids the null address and ends inside user space.
- `MemoryCall.Confined`, `MemoryCall.InOnePage`: where a use of user memory lies.
-/

namespace SyscallGate

/-- The range avoids the null address and ends inside user space.

Both ends are numbers, so a range that would wrap around ends beyond user space here. -/
def InUserSpace (addr : UserAddr) (len : Nat) : Prop :=
  0 < addr.toNat ∧ addr.toNat + len ≤ userTop

instance (addr : UserAddr) (len : Nat) : Decidable (InUserSpace addr len) :=
  inferInstanceAs (Decidable (_ ∧ _))

/-- The beginning of a range in user space is in user space.

A beginning that is not empty has the same first address, and ends earlier. -/
theorem InUserSpace.beginning {addr : UserAddr} {len size : Nat} (inside : InUserSpace addr len)
    (within : size ≤ len) : InUserSpace addr size :=
  ⟨inside.1, Nat.le_trans (Nat.add_le_add_left within _) inside.2⟩

/-- **The check is exact**: it accepts empty ranges and ranges in user space, and no others.

The check computes with words and finds an overflow where the sum does not fit. In unbounded
numbers, all its tests together are two inequations. -/
theorem UserRange.check_eq (d : Direction) (addr : UserAddr) (len : Nat) :
    UserRange.check d addr len =
      if inUser : len = 0 ∨ InUserSpace addr len then .ok ⟨addr, len, inUser⟩
      else .error .efault := by
  unfold check
  by_cases empty : len = 0
  · rw [dif_pos empty, dif_pos (.inl empty)]
  · rw [dif_neg empty]
    -- For a range that is not empty, each test of the check is part of the bound.
    have null_iff := addr.isNull_iff
    have user_iff := addr.isUser_iff
    by_cases null : addr.isNull = true
    · -- Null is not in user space, whatever the length is.
      have outside : ¬ (len = 0 ∨ InUserSpace addr len) := by
        have zero := null_iff.mp null
        unfold InUserSpace
        omega
      rw [dif_pos null, dif_neg outside]
    · rw [dif_neg null]
      have nonzero : addr.toNat ≠ 0 := fun zero => null (null_iff.mpr zero)
      by_cases user : addr.isUser = true
      · rw [if_pos user]
        split
        case h_1 overflow =>
          have outside : ¬ (len = 0 ∨ InUserSpace addr len) := by
            -- A sum that does not fit a word is beyond user space by far.
            have large := UserAddr.add?_eq_none_iff.mp overflow
            have top : userTop < wordLimit := by decide
            unfold InUserSpace
            omega
          rw [dif_neg outside]
        case h_2 stop sum =>
          have total := UserAddr.add?_eq_some_iff.mp sum
          by_cases below : stop.toNat ≤ userTop
          · -- The sum is that of the numbers, and below the limit.
            have inside : InUserSpace addr len := by
              unfold InUserSpace
              omega
            rw [dif_pos below, dif_pos (.inr inside)]
          · have outside : ¬ (len = 0 ∨ InUserSpace addr len) := by
              unfold InUserSpace
              omega
            rw [dif_neg below, dif_neg outside]
      · -- An address beyond user space begins no range in it.
        have outside : ¬ (len = 0 ∨ InUserSpace addr len) := by
          have large : ¬ addr.toNat < userTop := fun small => user (user_iff.mpr small)
          unfold InUserSpace
          omega
        rw [if_neg user, dif_neg outside]

/-- A range that passed the check and is not empty lies in user space.

The proof that it lies there was made by the check, and is part of the range. -/
theorem UserRange.inUserSpace {d : Direction} (r : UserRange d) (filled : 0 < r.len) :
    InUserSpace r.addr r.len := by
  rcases r.inUser with empty | inside
  · omega
  · exact inside

/-! ## Uses of user memory -/

namespace MemoryCall

def addr : MemoryCall → UserAddr
  | copyIn src _ _ => src
  | copyOut _ dst _ => dst

def length : MemoryCall → Nat
  | copyIn _ len _ => len
  | copyOut bytes _ _ => bytes.length

def isCopyIn : MemoryCall → Bool
  | copyIn .. => true
  | copyOut .. => false

/-- The use asks for at least one byte, and for bytes in user space only.

An empty use would make no sense, so it is excluded along with the other ones. -/
def Confined (call : MemoryCall) : Prop :=
  0 < call.length ∧ InUserSpace call.addr call.length

/-- All bytes that the use asks for are in one page.

It is said by the offset in the page, so that nothing has to be divided. -/
def InOnePage (call : MemoryCall) : Prop :=
  ∀ offset < call.length,
    (call.addr.toNat + offset) / pageSize = call.addr.toNat / pageSize

theorem inOnePage_of_length_le {call : MemoryCall}
    (room : call.length ≤ pageSize - call.addr.toNat % pageSize) : call.InOnePage := by
  intro offset inside
  unfold pageSize at room ⊢
  omega

end MemoryCall

end SyscallGate
