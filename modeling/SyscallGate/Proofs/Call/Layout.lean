import SyscallGate.Proofs.Call.Arguments
import SyscallGate.Trap.Frame

/-!
# Where arguments are

The layout of the arguments of a call. Slot `i` is an argument register for `i < 4`, and otherwise
the word on the user stack, `4 * i` bytes above the stack pointer. A pair of slots begins at an even
one, so it is either in registers or on the stack. Each way of reading an argument does what the
layout says (`ArgumentReader.read_reading`), as long as the distance of a slot is a machine word.

## Main definitions

- `TrapContext.HasRegisters`: the context has its argument registers.
- `ArgumentReader.InSlot`: what a slot holds, and what it takes to find out.
- `Argument.OfWord`: what the word in a slot means.
- `ArgumentReader.Reading`: what one read does.

## Main results

- `ArgumentReader.slot_inSlot`: a slot is looked up where the layout says.
- `ArgumentReader.read_reading`: so is an argument.
-/

namespace SyscallGate

variable {μ τ : Type} [UserMemory μ] [TrapContext τ]

/-- The context has its argument registers.

A context may come from elsewhere than a saved frame, and then this is asked of it. Nothing is asked
of its stack pointer. -/
def TrapContext.HasRegisters (ctx : τ) : Prop :=
  ∀ index < argumentRegisters, ∃ w, TrapContext.argument ctx index = .ok w

/-- A saved frame has the argument registers.

So the arguments of a call that comes from a trap can always be read. -/
theorem TrapFrame.hasRegisters (frame : TrapFrame) : TrapContext.HasRegisters frame := by
  intro index inRegister
  match index, inRegister with
  | 0, _ | 1, _ | 2, _ | 3, _ => exact ⟨_, rfl⟩

/-- A word as a signed number.

From the middle of the words on the numbers are negative, in two's complement. -/
theorem toInt_toInt32 (w : UInt32) :
    w.toInt32.toInt = if w.toNat < 0x80000000 then (w.toNat : Int) else w.toNat - 0x100000000 := by
  change w.toBitVec.toInt = _
  rw [BitVec.toInt_eq_toNat_cond, UInt32.toNat_toBitVec]
  split <;> split <;> omega

/-- What the word in a slot means, for an argument that takes one slot.

The word itself is the value of an argument of the first kind, and the other two kinds take it as a
signed number or as an address. -/
inductive Argument.OfWord (w : UInt32) : ArgumentKind → Argument → Prop where
  | word : OfWord w .word (.word w)
  /-- A signed number is in two's complement. -/
  | int {n : Int32}
      (signed : n.toInt = if w.toNat < 0x80000000 then (w.toNat : Int) else w.toNat - 0x100000000) :
      OfWord w .int (.int n)
  /-- An address is filled up with zeros. -/
  | userAddr {a : UserAddr} (extended : a.toNat = w.toNat) : OfWord w .userAddr (.userAddr a)

namespace ArgumentReader

/-! ## Slots -/

/-- What a slot holds, with the memory afterwards and the uses of memory that it takes to find
out.

A slot is a register or on the stack, and which of the two is decided by its number alone. On the
stack it is in user space as a whole or not at all, and only in the first case the memory is asked
for it. The memory may refuse, and its error is the answer. -/
inductive InSlot (ctx : τ) (index : Nat) (m : μ) :
    Except Errno UInt32 → μ → List MemoryCall → Prop where
  | register {w : UInt32} (inRegister : index < argumentRegisters)
      (held : TrapContext.argument ctx index = .ok w) : InSlot ctx index m (.ok w) m []
  /-- The word on the stack is not in user space as a whole. -/
  | outside (onStack : argumentRegisters ≤ index)
      (beyond : userTop < (TrapContext.stackPointer ctx).toNat + 4 * index + 4) :
      InSlot ctx index m (.error .efault) m []
  /-- The word is on the stack, lowest byte first. -/
  | onStack {addr : UserAddr} {block : Vector UInt8 4} {b₀ b₁ b₂ b₃ : UInt8} {w : UInt32} {m' : μ}
      (onStack : argumentRegisters ≤ index)
      (inside : (TrapContext.stackPointer ctx).toNat + 4 * index + 4 ≤ userTop)
      (place : addr.toNat = (TrapContext.stackPointer ctx).toNat + 4 * index)
      (read : UserMemory.copyIn addr 4 m = (.ok block, m'))
      (bytes : block.toList = [b₀, b₁, b₂, b₃])
      (value : w.toNat =
        b₀.toNat + 0x100 * b₁.toNat + 0x10000 * b₂.toNat + 0x1000000 * b₃.toNat) :
      InSlot ctx index m (.ok w) m' [.copyIn addr 4 (.ok block.toList)]
  | refused {addr : UserAddr} {e : Errno} {m' : μ} (onStack : argumentRegisters ≤ index)
      (inside : (TrapContext.stackPointer ctx).toNat + 4 * index + 4 ≤ userTop)
      (place : addr.toNat = (TrapContext.stackPointer ctx).toNat + 4 * index)
      (read : UserMemory.copyIn addr 4 m = (.error e, m')) :
      InSlot ctx index m (.error e) m' [.copyIn addr 4 (.error e)]

/-- The first position whose distance on the stack is no machine word.

Up to there the distance is computed without a loss, so a slot is where its number says. -/
def positionLimit : Nat := 0x4000000000000000

/-- Four bytes make a word, and nothing is cut off.

The lowest byte comes first. -/
theorem toNat_littleEndian (b₀ b₁ b₂ b₃ : UInt8) :
    (UInt32.ofNat (littleEndian [b₀, b₁, b₂, b₃])).toNat =
      b₀.toNat + 0x100 * b₁.toNat + 0x10000 * b₂.toNat + 0x1000000 * b₃.toNat := by
  have h₀ := b₀.toNat_lt
  have h₁ := b₁.toNat_lt
  have h₂ := b₂.toNat_lt
  have h₃ := b₃.toNat_lt
  simp only [littleEndian, UInt32.toNat_ofNat']
  omega

/-- A block of four bytes, by its bytes.

The memory answers with as many bytes as were asked for, so the list has this form. -/
theorem exists_bytes (block : Vector UInt8 4) : ∃ b₀ b₁ b₂ b₃, block.toList = [b₀, b₁, b₂, b₃] := by
  have length := block.length_toList
  match block.toList, length with
  | [b₀, b₁, b₂, b₃], _ => exact ⟨b₀, b₁, b₂, b₃, rfl⟩

/-- **A slot is looked up where the layout says**, and the position stays.

The four cases of `InSlot` are found one after the other: a register, a distance that leads out of
the address space, a word that is in user space, and one that is not. -/
theorem slot_inSlot {ctx : τ} (registers : TrapContext.HasRegisters ctx) {index : Nat}
    (small : index < positionLimit) (reader : ArgumentReader μ) :
    ∃ answer memory calls, InSlot ctx index reader.memory answer memory calls ∧
      slot ctx index reader = ⟨answer.mapError .refused, ⟨memory, reader.next⟩, calls⟩ := by
  unfold slot
  by_cases inRegister : index < argumentRegisters
  · obtain ⟨w, held⟩ := registers index inRegister
    rw [if_pos inRegister, held]
    exact ⟨.ok w, reader.memory, [], .register inRegister held, rfl⟩
  · -- The distance of a slot on the stack is four times its number.
    have onStack : argumentRegisters ≤ index := Nat.not_lt.mp inRegister
    have depth : stackOffset + (index - argumentRegisters) * slotSize = 4 * index := by
      unfold argumentRegisters at onStack ⊢
      unfold stackOffset slotSize
      omega
    have sum : 4 * index < wordLimit := by
      unfold positionLimit at small
      unfold wordLimit
      omega
    -- None of the three steps leaves the machine word, so the distance is the one of the layout.
    rw [if_neg inRegister, Checked.sub_eq_ok onStack, Action.ofChecked_ok, pure_bind,
      Checked.mul_eq_ok (by omega), Action.ofChecked_ok, pure_bind,
      Checked.add_eq_ok (by omega), Action.ofChecked_ok, pure_bind, depth]
    cases moved : (TrapContext.stackPointer ctx).add? (4 * index) with
    | none =>
      -- The sum of the stack pointer and the distance is no address, so the word is beyond user
      -- space.
      have large := UserAddr.add?_eq_none_iff.mp moved
      have top : userTop < wordLimit := by decide
      exact ⟨.error .efault, reader.memory, [], .outside onStack (by omega), rfl⟩
    | some addr =>
      -- The sum is an address. It is not the null address, since the distance is positive.
      have place := UserAddr.add?_eq_some_iff.mp moved
      have positive : 0 < addr.toNat := by
        unfold argumentRegisters at onStack
        omega
      have filled : ¬ (4 = 0) := by decide
      simp only [Action.bind_apply, onMemory, Action.zoom_apply, Copy.inBytes_eq, slotSize,
        if_neg filled]
      by_cases inside : (TrapContext.stackPointer ctx).toNat + 4 * index + 4 ≤ userTop
      · -- The whole word is in user space, and the memory is asked for it once.
        have inUser : InUserSpace addr 4 := ⟨positive, by omega⟩
        rw [if_pos inUser]
        rcases read : UserMemory.copyIn addr 4 reader.memory with ⟨e | block, memory⟩
        · exact ⟨.error e, memory, _, .refused onStack inside place read, rfl⟩
        · obtain ⟨b₀, b₁, b₂, b₃, bytes⟩ := exists_bytes block
          refine ⟨.ok (UInt32.ofNat (littleEndian block.toList)), memory, _,
            .onStack onStack inside place read bytes ?_, rfl⟩
          rw [bytes]
          exact toNat_littleEndian b₀ b₁ b₂ b₃
      · -- The word begins or ends beyond user space, and the memory is not asked.
        have outside : ¬ InUserSpace addr 4 := by
          rintro ⟨-, below⟩
          omega
        rw [if_neg outside]
        exact ⟨.error .efault, reader.memory, [], .outside onStack (by omega), rfl⟩

/-! ## Arguments -/

/-- The position at which a pair begins: the next even one.

An odd position is left out, and no argument is ever read from there afterwards. -/
def pairStart (position : Nat) : Nat := position + position % 2

/-- What reading an argument does: the answer, the reader afterwards, and the uses of memory.

An argument of one slot is at the position itself. A pair is at the next even position, and a read
that fails after it was aligned leaves the position there. -/
inductive Reading (ctx : τ) (reader : ArgumentReader μ) :
    ArgumentKind → Except Errno Argument → ArgumentReader μ → List MemoryCall → Prop where
  /-- An argument of one slot is at the position, which moves on by one. -/
  | single {kind : ArgumentKind} {w : UInt32} {argument : Argument} {m : μ}
      {calls : List MemoryCall} (found : InSlot ctx reader.next reader.memory (.ok w) m calls)
      (means : argument.OfWord w kind) :
      Reading ctx reader kind (.ok argument) ⟨m, reader.next + 1⟩ calls
  /-- The position stays. -/
  | singleRefused {kind : ArgumentKind} {e : Errno} {m : μ} {calls : List MemoryCall}
      (one : kind ≠ .dword) (refused : InSlot ctx reader.next reader.memory (.error e) m calls) :
      Reading ctx reader kind (.error e) ⟨m, reader.next⟩ calls
  /-- An argument of two slots, high word first. Both are in registers, or both on the stack. -/
  | pair {high low : UInt32} {n : UInt64} {m m' : μ} {calls calls' : List MemoryCall}
      (together : pairStart reader.next < argumentRegisters ↔
        pairStart reader.next + 1 < argumentRegisters)
      (first : InSlot ctx (pairStart reader.next) reader.memory (.ok high) m calls)
      (second : InSlot ctx (pairStart reader.next + 1) m (.ok low) m' calls')
      (value : n.toNat = 0x100000000 * high.toNat + low.toNat) :
      Reading ctx reader .dword (.ok (.dword n)) ⟨m', pairStart reader.next + 2⟩ (calls ++ calls')
  /-- The low slot is not looked up. The position is the one of the pair. -/
  | highRefused {e : Errno} {m : μ} {calls : List MemoryCall}
      (first : InSlot ctx (pairStart reader.next) reader.memory (.error e) m calls) :
      Reading ctx reader .dword (.error e) ⟨m, pairStart reader.next⟩ calls
  /-- The high slot is read and the low one is refused. The position is the one of the pair, as
  above. -/
  | lowRefused {high : UInt32} {e : Errno} {m m' : μ} {calls calls' : List MemoryCall}
      (first : InSlot ctx (pairStart reader.next) reader.memory (.ok high) m calls)
      (second : InSlot ctx (pairStart reader.next + 1) m (.error e) m' calls') :
      Reading ctx reader .dword (.error e) ⟨m', pairStart reader.next⟩ (calls ++ calls')

/-- Since the number of argument registers is even, no pair is half in registers and half on the
stack. -/
theorem pairStart_together (position : Nat) :
    pairStart position < argumentRegisters ↔ pairStart position + 1 < argumentRegisters := by
  unfold pairStart argumentRegisters
  omega

omit [UserMemory μ] in
/-- A pair begins at the next even position.

Nothing but the position changes, and the memory is not asked. -/
theorem alignToPair_apply {η : Type} {reader : ArgumentReader μ}
    (small : reader.next + 1 < wordLimit) :
    (alignToPair : Action (ArgumentReader μ) MemoryCall η Nat) reader =
      ⟨.ok (pairStart reader.next), ⟨reader.memory, pairStart reader.next⟩, []⟩ := by
  simp only [alignToPair, Action.bind_apply, Action.read_apply, Outcome.andThen_ok,
    Outcome.after_nil, pairStart]
  by_cases odd : reader.next % 2 = 1
  · -- The position is odd, and the one behind it is even.
    rw [if_pos odd, Checked.add_eq_ok small, odd]
    rfl
  · -- The position is even already, and nothing is written.
    have even : reader.next % 2 = 0 := by omega
    rw [if_neg odd, even]
    rfl

/-- Two words make a number of 64 bits, and nothing is cut off.

The high word comes first. -/
theorem toNat_pair (high low : UInt32) :
    (UInt64.ofNat (0x100000000 * high.toNat + low.toNat)).toNat =
      0x100000000 * high.toNat + low.toNat := by
  have hHigh := high.toNat_lt
  have hLow := low.toNat_lt
  rw [UInt64.toNat_ofNat']
  omega

/-- A word is read from the slot at the position.

An error leaves the position where it is, so the next read looks at the same slot again. -/
theorem word_inSlot {ctx : τ} (registers : TrapContext.HasRegisters ctx)
    {reader : ArgumentReader μ} (small : reader.next < positionLimit) :
    (∃ w m calls, InSlot ctx reader.next reader.memory (.ok w) m calls ∧
        word ctx reader = ⟨.ok w, ⟨m, reader.next + 1⟩, calls⟩) ∨
      ∃ e m calls, InSlot ctx reader.next reader.memory (.error e) m calls ∧
        word ctx reader = ⟨.error (.refused e), ⟨m, reader.next⟩, calls⟩ := by
  have limit : positionLimit < wordLimit := by decide
  have next : Checked.add reader.next 1 = .ok (reader.next + 1) := Checked.add_eq_ok (by omega)
  obtain ⟨answer, m, calls, found, looked⟩ := slot_inSlot registers small reader
  simp only [word, Action.bind_apply, Action.read_apply, Outcome.andThen_ok, Outcome.after_nil,
    looked, next, Action.ofChecked_ok]
  cases answer with
  | error e => exact .inr ⟨e, m, calls, found, rfl⟩
  | ok w => exact .inl ⟨w, m, calls, found, by simp [moveTo]⟩

/-- A number of 64 bits is read from the next pair of slots.

The position is not too far out for the pair and the slot behind it, so nothing leaves the machine
word on the way. -/
theorem dword_reading {ctx : τ} (registers : TrapContext.HasRegisters ctx)
    {reader : ArgumentReader μ} (small : reader.next + 3 < positionLimit) :
    ∃ answer after calls, Reading ctx reader .dword answer after calls ∧
      read ctx .dword reader = ⟨answer.mapError .refused, after, calls⟩ := by
  have limit : positionLimit < wordLimit := by decide
  have near : pairStart reader.next ≤ reader.next + 1 := by
    unfold pairStart
    omega
  have aligned := @alignToPair_apply μ Errno reader (by omega)
  have odd : Checked.add (pairStart reader.next) 1 = .ok (pairStart reader.next + 1) :=
    Checked.add_eq_ok (by omega)
  have behind : Checked.add (pairStart reader.next) 2 = .ok (pairStart reader.next + 2) :=
    Checked.add_eq_ok (by omega)
  -- The high slot is looked up first, and the low one only if that was answered.
  obtain ⟨high, m, calls, first, lookedFirst⟩ :=
    slot_inSlot registers (show pairStart reader.next < positionLimit by omega)
      ⟨reader.memory, pairStart reader.next⟩
  simp only [read, dword, Action.bind_apply, aligned, Outcome.andThen_ok, Outcome.after_nil,
    lookedFirst]
  -- An error in the high slot ends the read, with the position at the pair.
  cases high with
  | error e => exact ⟨.error e, _, calls, .highRefused first, rfl⟩
  | ok high =>
    obtain ⟨low, m', calls', second, lookedSecond⟩ :=
      slot_inSlot registers (show pairStart reader.next + 1 < positionLimit by omega)
        ⟨m, pairStart reader.next⟩
    simp only [mapError_ok, Outcome.andThen_ok, Action.bind_apply, odd, Action.ofChecked_ok,
      Action.pure_apply, Outcome.after_nil, lookedSecond]
    cases low with
    -- An error in the low slot ends it as well, and the high word is dropped.
    | error e => exact ⟨.error e, _, _, .lowRefused first second, rfl⟩
    | ok low =>
      have whole := Reading.pair (pairStart_together reader.next) first second (toNat_pair high low)
      refine ⟨_, _, _, whole, ?_⟩
      simp [behind, moveTo]

/-- **An argument is read where the layout says.**

The three kinds of one slot differ only in what they make of the word, and a pair is read as
`dword_reading` says. -/
theorem read_reading {ctx : τ} (registers : TrapContext.HasRegisters ctx) (kind : ArgumentKind)
    (reader : ArgumentReader μ) (small : reader.next + 3 < positionLimit) :
    ∃ answer after calls, Reading ctx reader kind answer after calls ∧
      read ctx kind reader = ⟨answer.mapError .refused, after, calls⟩ := by
  rcases word_inSlot registers (show reader.next < positionLimit by omega) with
    ⟨w, m, calls, found, looked⟩ | ⟨e, m, calls, refused, looked⟩
  · -- The slot at the position holds a word. What it means depends on the kind.
    cases kind with
    | word => exact ⟨.ok (.word w), _, calls, .single found .word, by simp [read, looked]⟩
    | int =>
      exact ⟨.ok (.int w.toInt32), _, calls, .single found (.int (toInt_toInt32 w)),
        by simp [read, int, looked]⟩
    | userAddr =>
      exact ⟨.ok (.userAddr (.ofRegister w)), _, calls,
        .single found (.userAddr (UserAddr.toNat_ofRegister w)), by simp [read, userAddr, looked]⟩
    | dword => exact dword_reading registers small
  · -- The slot at the position is refused. Only a pair may be elsewhere, so it is looked up on its
    -- own.
    cases kind with
    | word => exact ⟨.error e, _, calls, .singleRefused nofun refused, by simp [read, looked]⟩
    | int => exact ⟨.error e, _, calls, .singleRefused nofun refused, by simp [read, int, looked]⟩
    | userAddr =>
      exact ⟨.error e, _, calls, .singleRefused nofun refused, by simp [read, userAddr, looked]⟩
    | dword => exact dword_reading registers small

end ArgumentReader

end SyscallGate
