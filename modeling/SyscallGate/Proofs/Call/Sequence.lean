import Mathlib.Control.Monad.Basic
import SyscallGate.Memory.Regions
import SyscallGate.Proofs.Call.Layout
import SyscallGate.Proofs.Returns

/-!
# Sequences of arguments

Arguments that are read one after the other. A slot that is not in user space is refused, and the
position does not get past it, so no number of reads makes a distance on the stack leave the machine
word. Any sequence of reads from the start does what the layout says, whatever the stack pointer is,
and even if others change the memory between two reads. A read asks its context for the first four
argument registers and the stack pointer only.

## Main definitions

- `ArgumentReader.readEach`: a sequence of reads.
- `ArgumentReader.readAmid`: a sequence of reads, among changes of the memory.
- `ArgumentReader.Decodes`: what the layout says of a sequence of reads.

## Main results

- `ArgumentReader.readAmid_decodes`: a sequence of reads does what the layout says.
- `ArgumentReader.readEach_returns`: it returns, however long it is.
- `ArgumentReader.readEach_congr`: nothing else of the context matters.
-/

namespace SyscallGate

variable {μ τ τ' : Type} [UserMemory μ] [TrapContext τ] [TrapContext τ']

namespace ArgumentReader

/-- Reads one argument after the other. A read that is refused does not end the sequence.

The answers are in the order of the reads. -/
def readEach (ctx : τ) : List ArgumentKind →
    Action (ArgumentReader μ) MemoryCall Empty (List (Except Errno Argument))
  | [] => return []
  | kind :: rest => do
    let answer ← (read ctx kind).attempt
    let answers ← readEach ctx rest
    return answer :: answers

/-- Reads one argument after the other. Before each read, others may have changed the memory.

Another thread of the program may write to its stack while its call is decoded, so no two reads need
to see the same memory. The position is the reader's own and is not changed by others. -/
def readAmid (ctx : τ) : List ((μ → μ) × ArgumentKind) →
    Action (ArgumentReader μ) MemoryCall Empty (List (Except Errno Argument))
  | [] => return []
  | (change, kind) :: rest => do
    .modify fun reader => { reader with memory := change reader.memory }
    let answer ← (read ctx kind).attempt
    let answers ← readAmid ctx rest
    return answer :: answers

/-- If nobody changes the memory, the arguments are read one after the other.

So what holds amid changes holds without them. -/
theorem readAmid_id (ctx : τ) (kinds : List ArgumentKind) :
    (readAmid ctx (kinds.map (id, ·)) : Action (ArgumentReader μ) MemoryCall Empty _) =
      readEach ctx kinds := by
  -- Induction on the reads. A change that is the identity leaves the reader as it is.
  induction kinds with
  | nil => rfl
  | cons kind rest ih =>
    rw [List.map_cons, readAmid, readEach, ih]
    rfl

/-! ## What a sequence yields -/

/-- What the layout says of a sequence of reads: their answers, the reader afterwards, and the uses
of memory.

Each read begins where the one before it has left the position, and with what has become of the
memory in between. -/
inductive Decodes (ctx : τ) : ArgumentReader μ → List ((μ → μ) × ArgumentKind) →
    List (Except Errno Argument) → ArgumentReader μ → List MemoryCall → Prop where
  | nil (reader : ArgumentReader μ) : Decodes ctx reader [] [] reader []
  | cons {reader after final : ArgumentReader μ} {change : μ → μ} {kind : ArgumentKind}
      {steps : List ((μ → μ) × ArgumentKind)} {answer : Except Errno Argument}
      {answers : List (Except Errno Argument)} {calls later : List MemoryCall}
      (first : Reading ctx ⟨change reader.memory, reader.next⟩ kind answer after calls)
      (rest : Decodes ctx after steps answers final later) :
      Decodes ctx reader ((change, kind) :: steps) (answer :: answers) final (calls ++ later)

/-- A slot from which a word is read is a register, or in user space.

A word was read there, so it is in user space as a whole, and this bounds the number of its slot. -/
theorem InSlot.index_lt {ctx : τ} {index : Nat} {m m' : μ} {w : UInt32} {calls : List MemoryCall}
    (found : InSlot ctx index m (.ok w) m' calls) : index < userTop / slotSize := by
  unfold userTop slotSize
  cases found with
  | register inRegister =>
    -- There are more slots in user space than registers.
    unfold argumentRegisters at inRegister
    omega
  | onStack _ inside =>
    -- The stack pointer is at least 0, so the distance alone is within user space.
    unfold userTop at inside
    omega

/-- No read gets past the last slot that can be in user space.

A read moves the position behind a slot only if a word was read from there. A pair that is refused
may have been aligned, and then the position is at its first slot. -/
theorem Reading.next_le_slots {ctx : τ} {reader after : ArgumentReader μ} {kind : ArgumentKind}
    {answer : Except Errno Argument} {calls : List MemoryCall}
    (reading : Reading ctx reader kind answer after calls)
    (inUser : reader.next ≤ userTop / slotSize) : after.next ≤ userTop / slotSize := by
  -- Behind an odd position there is one more slot, since the number of slots is even.
  have aligned : pairStart reader.next ≤ userTop / slotSize := by
    unfold userTop slotSize at inUser ⊢
    unfold pairStart
    omega
  -- Read arguments leave the position behind the last slot, which is in user space. Refused ones
  -- leave it where it was or at the pair.
  cases reading with
  | single found => exact found.index_lt
  | singleRefused => exact inUser
  | pair _ _ second => exact second.index_lt
  | highRefused => exact aligned
  | lowRefused => exact aligned

/-- Every sequence of reads does what the layout says, from a position that user space can have.

The position at the end is again one that user space can have, and this is what carries the
induction. -/
theorem readAmid_run {ctx : τ} (registers : TrapContext.HasRegisters ctx)
    (steps : List ((μ → μ) × ArgumentKind)) (reader : ArgumentReader μ)
    (inUser : reader.next ≤ userTop / slotSize) :
    ∃ answers final calls, Decodes ctx reader steps answers final calls ∧
      readAmid ctx steps reader = ⟨.ok answers, final, calls⟩ := by
  -- Induction on the reads that are left. The position stays among the slots that can be in user
  -- space, so no distance on the stack leaves the machine word.
  induction steps generalizing reader with
  | nil => exact ⟨[], reader, [], .nil reader, rfl⟩
  | cons step rest ih =>
    obtain ⟨change, kind⟩ := step
    -- The position is far below the limit, and this is where the invariant is used.
    have small : reader.next + 3 < positionLimit := by
      unfold userTop slotSize at inUser
      unfold positionLimit
      omega
    obtain ⟨answer, after, calls, reading, ended⟩ :=
      read_reading registers kind ⟨change reader.memory, reader.next⟩ small
    obtain ⟨answers, final, later, decodes, ran⟩ := ih after (reading.next_le_slots inUser)
    refine ⟨answer :: answers, final, calls ++ later, .cons reading decodes, ?_⟩
    simp only [readAmid, Action.bind_apply, Action.modify_apply, Outcome.andThen_ok,
      Outcome.after_nil, Action.attempt_apply, ended]
    cases answer <;> simp [ran]

/-- **Arguments are where the layout says**: any sequence of reads from the start finds them there,
whatever happens to the memory in between. A refused read does not end the sequence.

The statement has the answers, the position and the uses of memory together, so it also tells that a
register takes no use of memory and that nothing is read twice. -/
theorem readAmid_decodes {ctx : τ} (registers : TrapContext.HasRegisters ctx) (m : μ)
    (steps : List ((μ → μ) × ArgumentKind)) :
    ∃ answers final calls, Decodes ctx (start m) steps answers final calls ∧
      readAmid ctx steps (start m) = ⟨.ok answers, final, calls⟩ :=
  readAmid_run registers steps (start m) (Nat.zero_le _)

/-- Three arguments fill slots 0 to 4, and one register is skipped. The last word in user space is
slot 5, so the pair in slots 6 and 7 is refused, and the word after it, without a use of memory. -/
theorem readAmid_decodes_spilled :
    let ctx : TrapFrame :=
      { TrapFrame.zero with a0 := 10, a1 := 11, a2 := 12, a3 := 13, sp := 0x7FFFFFE8 }
    let m : RegionMemory := ⟨[⟨0x7FFFFFF8, [1, 2, 3, 4, 5, 6, 7, 8], false, none⟩]⟩
    let steps := [(id, .word), (id, .dword), (id, .word), (id, .dword), (id, .word)]
    TrapContext.HasRegisters ctx ∧
      ∃ final calls,
        Decodes ctx (start m) steps
          [.ok (.word 10), .ok (.dword 0xC0000000D), .ok (.word 0x04030201), .error .efault,
            .error .efault] final calls ∧
        final.next = 6 ∧
        calls.map (fun call => (call.addr, call.length)) = [(⟨0x7FFFFFF8⟩, 4)] := by
  intro ctx m steps
  -- What the layout says is taken from the theorem. The values at the end are computed.
  obtain ⟨answers, final, calls, decodes, ran⟩ := readAmid_decodes ctx.hasRegisters m steps
  have result : (readAmid ctx steps (start m)).result =
      .ok [.ok (.word 10), .ok (.dword 0xC0000000D), .ok (.word 0x04030201), .error .efault,
        .error .efault] := by decide +kernel
  have position : (readAmid ctx steps (start m)).state.next = 6 := by decide +kernel
  have reads : ((readAmid ctx steps (start m)).events.map fun call => (call.addr, call.length)) =
      [(⟨0x7FFFFFF8⟩, 4)] := by decide +kernel
  rw [ran] at result position reads
  cases result
  exact ⟨ctx.hasRegisters, final, calls, decodes, position, reads⟩

/-- **A sequence of reads returns**, however long it is.

The reads may be as many as one likes, since the position stays in user space. -/
theorem readEach_returns {ctx : τ} (registers : TrapContext.HasRegisters ctx)
    (kinds : List ArgumentKind) (m : μ) : (readEach ctx kinds (start m)).Returns := by
  obtain ⟨answers, _, _, -, ran⟩ :=
    readAmid_run registers (kinds.map (id, ·)) (start m) (Nat.zero_le _)
  rw [readAmid_id] at ran
  exact .of_ok (congrArg Outcome.result ran)

/-! ## What a read asks its context for -/

/-- Contexts with the same argument registers and the same stack pointer.

The two contexts may be of different kinds, and may differ in every other register. -/
structure SameArguments (ctx : τ) (ctx' : τ') : Prop where
  registers : ∀ index < argumentRegisters,
    TrapContext.argument ctx index = TrapContext.argument ctx' index
  stack : TrapContext.stackPointer ctx = TrapContext.stackPointer ctx'

/-- A slot is a register of the first four, or is found by the stack pointer.

Nothing else of the context is looked at. -/
theorem slot_congr {ctx : τ} {ctx' : τ'} (same : SameArguments ctx ctx') (index : Nat) :
    (slot ctx index : Action (ArgumentReader μ) MemoryCall Errno UInt32) = slot ctx' index := by
  unfold slot
  by_cases inRegister : index < argumentRegisters
  · rw [if_pos inRegister, if_pos inRegister, same.registers index inRegister]
  · rw [if_neg inRegister, if_neg inRegister, same.stack]

/-- The four ways of reading an argument look at slots only, so the same holds of them. -/
theorem read_congr {ctx : τ} {ctx' : τ'} (same : SameArguments ctx ctx') (kind : ArgumentKind) :
    (read ctx kind : Action (ArgumentReader μ) MemoryCall Errno Argument) = read ctx' kind := by
  cases kind with
  | word => simp only [read, word, slot_congr same]
  | int => simp only [read, int, word, slot_congr same]
  | userAddr => simp only [read, userAddr, word, slot_congr same]
  | dword => simp only [read, dword, slot_congr same]

/-- **A sequence of reads asks its context for nothing else**: not for an argument register beyond
the first four, in particular.

So a call can be decoded from a copy of its registers. -/
theorem readEach_congr {ctx : τ} {ctx' : τ'} (same : SameArguments ctx ctx')
    (kinds : List ArgumentKind) :
    (readEach ctx kinds : Action (ArgumentReader μ) MemoryCall Empty _) = readEach ctx' kinds := by
  -- Induction on the reads. Each of them gives the same answer and leaves the same reader.
  induction kinds with
  | nil => rfl
  | cons kind rest ih => simp only [readEach, read_congr same, ih]

end ArgumentReader

end SyscallGate
