import SyscallGate.Proofs.Call.Sequence

/-!
# Numbers of 64 bits in pairs of words

A call returns a number of 64 bits in two registers and takes one from two slots, in registers or on
the stack. Both put the high word first, so the words that one of them writes are the number that
the other one reads, and the other way round.

## Main definitions

- `TrapFrame.ReturnsWords`: what becomes of a frame when a pair of words is returned.

## Main results

- `ArgumentReader.slot_eq_ok_iff`, `ArgumentReader.dword_eq_ok_iff`: which words are read.
- `ArgumentReader.dword_mirrors_setReturn`: a returned number is read back, and a number that was
  read is returned as the words it was read from.
-/

namespace SyscallGate

variable {μ τ : Type} [UserMemory μ] [TrapContext τ]

/-! ## Returning a pair -/

/-- A number consists of its two words.

A number that is split into its words is put together again, and words that are put together are
split into themselves. -/
theorem words_eq_iff {n : UInt64} {high low : UInt32} :
    (n >>> 32).toUInt32 = high ∧ n.toUInt32 = low ↔
      n.toNat = 0x100000000 * high.toNat + low.toNat := by
  have whole := n.toNat_lt
  have hHigh := high.toNat_lt
  have hLow := low.toNat_lt
  have highWord : (n >>> 32).toUInt32.toNat = n.toNat / 0x100000000 := by
    rw [UInt64.toNat_toUInt32, UInt64.toNat_shiftRight, Nat.shiftRight_eq_div_pow]
    change n.toNat / 0x100000000 % 0x100000000 = _
    -- The two words are the quotient and the remainder, and the value is made of these.
    omega
  have lowWord : n.toUInt32.toNat = n.toNat % 0x100000000 := UInt64.toNat_toUInt32 n
  rw [← UInt32.toNat_inj, ← UInt32.toNat_inj, highWord, lowWord]
  omega

/-- The frame returns two words, and nothing else changes.

The flag of success is cleared, as for every call that succeeds. All other registers, the program
counter among them, are those of the frame before. -/
structure TrapFrame.ReturnsWords (frame after : TrapFrame) (high low : UInt32) : Prop where
  high : after.v0 = high
  low : after.v1 = low
  flag : after.a3 = 0
  kept (r : Register) (notHigh : r ≠ .v0) (notLow : r ≠ .v1) (notFlag : r ≠ .a3) :
    after.get r = frame.get r

/-- A number of 64 bits is returned with its high word in the first register and its low word in the
second one. -/
theorem TrapFrame.setReturn_returnsWords (frame : TrapFrame) (n : UInt64) :
    frame.ReturnsWords (frame.setReturn (.ofUInt64 n)) (n >>> 32).toUInt32 n.toUInt32 where
  high := rfl
  low := rfl
  flag := rfl
  kept r notHigh notLow notFlag := by
    cases r with
    | v0 => exact absurd rfl notHigh
    | v1 => exact absurd rfl notLow
    | a3 => exact absurd rfl notFlag
    | _ => rfl

namespace ArgumentReader

/-! ## Which words are read -/

/-- A slot holds one thing.

So the layout leaves no choice: the word, the memory afterwards and the uses of memory are
determined by the slot and the memory before. Any two cases exclude each other by where the slot is,
or by what the memory answers. -/
theorem InSlot.unique {ctx : τ} {index : Nat} {m m₁ m₂ : μ} {a₁ a₂ : Except Errno UInt32}
    {calls₁ calls₂ : List MemoryCall} (found₁ : InSlot ctx index m a₁ m₁ calls₁)
    (found₂ : InSlot ctx index m a₂ m₂ calls₂) : a₁ = a₂ ∧ m₁ = m₂ ∧ calls₁ = calls₂ := by
  cases found₁ with
  | register inRegister held =>
    cases found₂ with
    | register _ held' =>
      cases held.symm.trans held'
      exact ⟨rfl, rfl, rfl⟩
    | outside onStack | onStack onStack | refused onStack =>
      exact absurd inRegister (Nat.not_lt.mpr onStack)
  | outside onStack beyond =>
    cases found₂ with
    | register inRegister => exact absurd inRegister (Nat.not_lt.mpr onStack)
    | outside => exact ⟨rfl, rfl, rfl⟩
    | onStack _ inside | refused _ inside => exact absurd beyond (Nat.not_lt.mpr inside)
  | onStack onStack inside place read bytes value =>
    cases found₂ with
    | register inRegister => exact absurd inRegister (Nat.not_lt.mpr onStack)
    | outside _ beyond => exact absurd beyond (Nat.not_lt.mpr inside)
    | onStack _ _ place' read' bytes' value' =>
      -- The address is the same, so the memory answers the same bytes, and they make the same word.
      cases UserAddr.ext_toNat (place.trans place'.symm)
      cases read.symm.trans read'
      cases bytes.symm.trans bytes'
      cases UInt32.toNat_inj.mp (value.trans value'.symm)
      exact ⟨rfl, rfl, rfl⟩
    | refused _ _ place' read' =>
      -- The memory cannot both answer and refuse.
      cases UserAddr.ext_toNat (place.trans place'.symm)
      cases read.symm.trans read'
  | refused onStack inside place read =>
    cases found₂ with
    | register inRegister => exact absurd inRegister (Nat.not_lt.mpr onStack)
    | outside _ beyond => exact absurd beyond (Nat.not_lt.mpr inside)
    | onStack _ _ place' read' =>
      cases UserAddr.ext_toNat (place.trans place'.symm)
      cases read.symm.trans read'
    | refused _ _ place' read' =>
      cases UserAddr.ext_toNat (place.trans place'.symm)
      cases read.symm.trans read'
      exact ⟨rfl, rfl, rfl⟩

/-- A slot whose distance on the stack is no machine word is not read.

Either the product or the sum on the way to it overflows, and an overflow ends the read before the
memory is asked. -/
theorem small_of_slot {ctx : τ} {index : Nat} {reader after : ArgumentReader μ} {w : UInt32}
    {calls : List MemoryCall} (looked : slot ctx index reader = ⟨.ok w, after, calls⟩) :
    index < positionLimit := by
  by_contra large
  have onStack : argumentRegisters ≤ index :=
    Nat.le_trans (by decide) (Nat.not_lt.mp large)
  rw [slot, if_neg (Nat.not_lt.mpr onStack), Checked.sub_eq_ok onStack, Action.ofChecked_ok,
    pure_bind] at looked
  -- The product may just be a word, but then the sum is not.
  by_cases fits : (index - argumentRegisters) * slotSize < wordLimit
  · have exceeds : ¬ stackOffset + (index - argumentRegisters) * slotSize < wordLimit := by
      unfold positionLimit at large
      unfold wordLimit stackOffset argumentRegisters slotSize
      omega
    rw [Checked.mul_eq_ok fits, Action.ofChecked_ok, pure_bind, Checked.add, if_neg exceeds]
      at looked
    cases looked
  · -- The product alone leaves the machine word.
    rw [Checked.mul, if_neg fits] at looked
    cases looked

/-- **Which word a slot is read as**: the one that it holds.

The layout and the reader agree in both directions: what is read is in the slot, and what is in the
slot is read. The position is no part of it. -/
theorem slot_eq_ok_iff {ctx : τ} (registers : TrapContext.HasRegisters ctx) {index : Nat}
    {reader after : ArgumentReader μ} {w : UInt32} {calls : List MemoryCall} :
    slot ctx index reader = ⟨.ok w, after, calls⟩ ↔
      InSlot ctx index reader.memory (.ok w) after.memory calls ∧ after.next = reader.next := by
  have looks (small : index < positionLimit) := slot_inSlot registers small reader
  constructor
  · -- What the layout has in the slot is what was answered, since a lookup has one outcome.
    intro looked
    obtain ⟨answer, m, calls', found, looked'⟩ := looks (small_of_slot looked)
    rw [looked] at looked'
    cases answer <;> cases looked'
    exact ⟨found, rfl⟩
  · -- A slot that holds a word is near enough, so it is looked up, and what is found is what the
    -- layout has.
    rintro ⟨found, stays⟩
    have small : index < positionLimit := Nat.lt_trans found.index_lt (by decide)
    obtain ⟨answer, m, calls', found', looked⟩ := looks small
    obtain ⟨rfl, rfl, rfl⟩ := found.unique found'
    rw [looked, ← stays]
    rfl

omit [UserMemory μ] in
/-- If the next pair is found, then it is the one behind the position, and only the position has
changed. -/
theorem alignToPair_eq_ok {η : Type} {reader after : ArgumentReader μ} {position : Nat}
    {calls : List MemoryCall}
    (aligned : (alignToPair : Action (ArgumentReader μ) MemoryCall η Nat) reader =
      ⟨.ok position, after, calls⟩) :
    position = pairStart reader.next ∧ after = ⟨reader.memory, pairStart reader.next⟩ ∧
      calls = [] := by
  by_cases small : reader.next + 1 < wordLimit
  · rw [alignToPair_apply small] at aligned
    cases aligned
    exact ⟨rfl, rfl, rfl⟩
  · -- The position behind this one is no machine word. An odd position would have failed, so this
    -- one is even and stays.
    have even : reader.next % 2 ≠ 1 := by
      intro odd
      simp [alignToPair, odd, Checked.add, small] at aligned
    have here : pairStart reader.next = reader.next := by
      unfold pairStart
      omega
    simp only [alignToPair, Action.bind_apply, Action.read_apply, Outcome.andThen_ok, if_neg even]
      at aligned
    cases aligned
    rw [here]
    exact ⟨rfl, rfl, rfl⟩

/-- **Which number a pair is read as**: the one whose words are in its slots, high word first.

The position is anywhere. If the number was read then the slots were near, so the sums on the way
did not overflow, and if the slots hold words then they are near as well. -/
theorem dword_eq_ok_iff {ctx : τ} (registers : TrapContext.HasRegisters ctx)
    {reader after : ArgumentReader μ} {n : UInt64} {calls : List MemoryCall} :
    dword ctx reader = ⟨.ok n, after, calls⟩ ↔
      ∃ high low m callsHigh callsLow,
        InSlot ctx (pairStart reader.next) reader.memory (.ok high) m callsHigh ∧
        InSlot ctx (pairStart reader.next + 1) m (.ok low) after.memory callsLow ∧
        n.toNat = 0x100000000 * high.toNat + low.toNat ∧
        after.next = pairStart reader.next + 2 ∧ calls = callsHigh ++ callsLow := by
  have limit : userTop / slotSize + 2 < wordLimit := by decide
  have next {few : Nat} (small : few ≤ 2) (inUser : pairStart reader.next < userTop / slotSize) :
      Checked.add (pairStart reader.next) few = .ok (pairStart reader.next + few) :=
    Checked.add_eq_ok (by omega)
  unfold dword
  constructor
  · -- The read is taken apart: the alignment, the high slot, the low slot, and the position behind
    -- them.
    intro read
    obtain ⟨even, r₀, none, calls₀, aligned, fromHigh, rfl⟩ := Action.bind_eq_ok.mp read
    obtain ⟨rfl, rfl, rfl⟩ := alignToPair_eq_ok aligned
    obtain ⟨high, r₁, callsHigh, calls₁, lookedHigh, fromLow, rfl⟩ :=
      Action.bind_eq_ok.mp fromHigh
    obtain ⟨first, -⟩ := (slot_eq_ok_iff registers).mp lookedHigh
    rw [next (Nat.le_succ 1) first.index_lt, Action.ofChecked_ok, pure_bind] at fromLow
    obtain ⟨low, r₂, callsLow, calls₂, lookedLow, done, rfl⟩ := Action.bind_eq_ok.mp fromLow
    obtain ⟨second, -⟩ := (slot_eq_ok_iff registers).mp lookedLow
    rw [next (Nat.le_refl 2) first.index_lt, Action.ofChecked_ok, pure_bind] at done
    cases done
    exact ⟨high, low, r₁.memory, callsHigh, callsLow, first, second, toNat_pair high low, rfl,
      by simp⟩
  · -- The read is put together from the same four parts.
    rintro ⟨high, low, m, callsHigh, callsLow, first, second, value, behind, rfl⟩
    have near : reader.next ≤ pairStart reader.next := Nat.le_add_right _ _
    have inUser := first.index_lt
    have aligned := @alignToPair_apply μ Errno reader (by omega)
    obtain ⟨memory, position⟩ := after
    cases behind
    refine Action.bind_eq_ok.mpr ⟨_, _, _, _, aligned, ?_, rfl⟩
    refine Action.bind_eq_ok.mpr ⟨high, ⟨m, pairStart reader.next⟩, callsHigh, callsLow,
      (slot_eq_ok_iff registers).mpr ⟨first, rfl⟩, ?_, rfl⟩
    rw [next (Nat.le_succ 1) inUser, Action.ofChecked_ok, pure_bind]
    refine Action.bind_eq_ok.mpr ⟨low, ⟨memory, pairStart reader.next⟩, callsLow, [],
      (slot_eq_ok_iff registers).mpr ⟨second, rfl⟩, ?_, (List.append_nil _).symm⟩
    rw [next (Nat.le_refl 2) inUser, Action.ofChecked_ok, pure_bind,
      UInt64.toNat_inj.mp (value.trans (toNat_pair high low).symm)]
    rfl

/-! ## The two directions -/

omit [UserMemory μ] in
/-- The even position at or behind a position.

A pair is found from both positions, from the even one itself and from the odd one before it. -/
theorem pairStart_eq {position even : Nat} (isEven : even % 2 = 0)
    (near : position = even ∨ position + 1 = even) : pairStart position = even := by
  unfold pairStart
  omega

/-- **Numbers of 64 bits survive the convention in both directions.** If the words that return a
number are in two slots from an even one on, in registers or on the stack, the number is read from
there, and from the odd position before. A number that was read is returned as the words in its
slots, and nothing else but the flag changes.

In the first direction the slots need not be those of the frame that returns: it is enough that they
hold the same words. In the second direction the frame is any frame. -/
theorem dword_mirrors_setReturn {ctx : τ} (registers : TrapContext.HasRegisters ctx) :
    (∀ (n : UInt64) (frame : TrapFrame) (even : Nat) (m m₁ m₂ : μ)
        (callsHigh callsLow : List MemoryCall), even % 2 = 0 →
      let after := frame.setReturn (.ofUInt64 n)
      InSlot ctx even m (.ok after.v0) m₁ callsHigh →
      InSlot ctx (even + 1) m₁ (.ok after.v1) m₂ callsLow →
      ∀ position, position = even ∨ position + 1 = even →
        dword ctx ⟨m, position⟩ = ⟨.ok n, ⟨m₂, even + 2⟩, callsHigh ++ callsLow⟩) ∧
    ∀ (reader behind : ArgumentReader μ) (n : UInt64) (calls : List MemoryCall),
      dword ctx reader = ⟨.ok n, behind, calls⟩ →
        ∃ high low m callsHigh callsLow,
          InSlot ctx (pairStart reader.next) reader.memory (.ok high) m callsHigh ∧
          InSlot ctx (pairStart reader.next + 1) m (.ok low) behind.memory callsLow ∧
          ∀ frame : TrapFrame, frame.ReturnsWords (frame.setReturn (.ofUInt64 n)) high low := by
  constructor
  · -- The words of a number are in the slots, and a number is determined by its words.
    intro n frame even m m₁ m₂ callsHigh callsLow isEven after first second position near
    have start : pairStart position = even := pairStart_eq isEven near
    refine (dword_eq_ok_iff registers).mpr ⟨after.v0, after.v1, m₁, callsHigh, callsLow, ?_⟩
    rw [start]
    exact ⟨first, second, words_eq_iff.mp ⟨rfl, rfl⟩, rfl, rfl⟩
  · -- The words in the slots are those of the number that was read, and these are returned.
    intro reader behind n calls read
    obtain ⟨high, low, m, callsHigh, callsLow, first, second, value, -⟩ :=
      (dword_eq_ok_iff registers).mp read
    refine ⟨high, low, m, callsHigh, callsLow, first, second, fun frame => ?_⟩
    obtain ⟨rfl, rfl⟩ := words_eq_iff.mpr value
    exact frame.setReturn_returnsWords n

/-- The words of a number are in slots 2 and 3, which are registers, and in slots 4 and 5, which are
on the stack. It is read from positions 1 and 3, and returned as the words in the registers.

The values are such that swapped words or swapped bytes would give another number. -/
theorem dword_mirrors_setReturn_spilled :
    let n : UInt64 := 0x89ABCDEF01234567
    let ctx : TrapFrame :=
      { TrapFrame.zero with a2 := 0x89ABCDEF, a3 := 0x01234567, sp := 0x7FFF0000 }
    let m : RegionMemory :=
      ⟨[⟨0x7FFF0010, [0xEF, 0xCD, 0xAB, 0x89, 0x67, 0x45, 0x23, 0x01], false, none⟩]⟩
    TrapContext.HasRegisters ctx ∧ (dword ctx ⟨m, 1⟩).result = .ok n ∧
      (dword ctx ⟨m, 3⟩).result = .ok n ∧
      ∀ frame : TrapFrame, frame.ReturnsWords (frame.setReturn (.ofUInt64 n)) ctx.a2 ctx.a3 := by
  intro n ctx m
  let returned := ctx.setReturn (.ofUInt64 n)
  obtain ⟨mirrored, returns⟩ := @dword_mirrors_setReturn RegionMemory _ _ _ ctx ctx.hasRegisters
  have high : ctx.a2 = returned.v0 := by decide
  have low : ctx.a3 = returned.v1 := by decide
  have slot₂ : InSlot ctx 2 m (.ok returned.v0) m [] :=
    .register (by decide) (congrArg Except.ok high)
  have slot₃ : InSlot ctx 3 m (.ok returned.v1) m [] :=
    .register (by decide) (congrArg Except.ok low)
  have readHigh : UserMemory.copyIn ⟨0x7FFF0010⟩ 4 m = (.ok #v[0xEF, 0xCD, 0xAB, 0x89], m) := rfl
  have readLow : UserMemory.copyIn ⟨0x7FFF0014⟩ 4 m = (.ok #v[0x67, 0x45, 0x23, 0x01], m) := rfl
  have slot₄ : InSlot ctx 4 m (.ok returned.v0) m _ :=
    .onStack (by decide) (by decide) (by decide) readHigh rfl (by decide)
  have slot₅ : InSlot ctx 5 m (.ok returned.v1) m _ :=
    .onStack (by decide) (by decide) (by decide) readLow rfl (by decide)
  have fromRegisters := mirrored n ctx 2 m m m _ _ rfl slot₂ slot₃ 1 (.inr rfl)
  have fromStack := mirrored n ctx 4 m m m _ _ rfl slot₄ slot₅ 3 (.inr rfl)
  refine ⟨ctx.hasRegisters, congrArg Outcome.result fromRegisters,
    congrArg Outcome.result fromStack, fun frame => ?_⟩
  -- What was read from the registers is what they hold.
  obtain ⟨w₀, w₁, m', _, _, first, second, kept⟩ := returns _ _ n _ fromRegisters
  obtain ⟨sameHigh, rfl, -⟩ := slot₂.unique first
  obtain ⟨sameLow, -⟩ := slot₃.unique second
  rw [high, low, Except.ok.inj sameHigh, Except.ok.inj sameLow]
  exact kept frame

end ArgumentReader

end SyscallGate
