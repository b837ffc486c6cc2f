import SyscallGate.Call.Arguments
import SyscallGate.Proofs.Memory.Copying

/-!
# Reading arguments

The first four arguments of a call are in registers, and reading them does not touch user memory
(`ArgumentReader.word_apply`). The others are on the user stack. Wherever the stack pointer is, and
whichever argument is read, the accesses are reads in user space (`ArgumentReader.read_emits`).

## Main definitions

- `ArgumentReader.read`: the four ways of reading an argument, as one.
-/

namespace SyscallGate

/-- The ways of reading an argument, by what it stands for: a word, a signed number, an address, or
a number of 64 bits in two slots. -/
inductive ArgumentKind where
  | word
  | int
  | userAddr
  | dword
  deriving DecidableEq, Repr

/-- An argument that was read, with its value. Its kind is the one that was asked for. -/
inductive Argument where
  | word (w : UInt32)
  | int (n : Int32)
  | userAddr (a : UserAddr)
  | dword (n : UInt64)
  deriving DecidableEq, Repr

namespace ArgumentReader

variable {μ τ : Type} [UserMemory μ] [TrapContext τ]

/-- Reads the next argument in a given way.

The four readers share the position and the memory, and they may follow each other in any order. -/
def read (ctx : τ) : ArgumentKind → Action (ArgumentReader μ) MemoryCall Errno Argument
  | .word => do return .word (← word ctx)
  | .int => do return .int (← int ctx)
  | .userAddr => do return .userAddr (← userAddr ctx)
  | .dword => do return .dword (← dword ctx)

/-- The first words come from registers, without an access to user memory.

The position moves on by one, and a context that lacks the register is the only way to fail. -/
theorem word_apply (ctx : τ) {i : Nat} (inRegister : i < argumentRegisters) (m : μ) :
    word ctx ⟨m, i⟩ =
      match TrapContext.argument ctx i with
      | .ok w => ⟨.ok w, ⟨m, i + 1⟩, []⟩
      | .error cause => ⟨.error (.panicked cause), ⟨m, i⟩, []⟩ := by
  -- So early the position is far from the largest word.
  have small : i + 1 < wordLimit := by
    unfold argumentRegisters at inRegister
    unfold wordLimit
    omega
  unfold word slot
  simp only [Action.bind_apply, Action.read_apply, Outcome.andThen_ok, if_pos inRegister]
  cases TrapContext.argument ctx i with
  | error cause => rfl
  | ok w =>
    rw [Checked.add_eq_ok small]
    rfl

/-! ## Accesses to the user stack -/

/-- A slot on the stack is read by one checked copy, so it is in user space or is not read at all. A
slot in a register takes no access. -/
theorem slot_emits (ctx : τ) (index : Nat) :
    (slot ctx index : Action (ArgumentReader μ) MemoryCall Errno UInt32).Emits
      MemoryCall.Confined := by
  unfold slot
  split
  · exact Action.emits_ofChecked _
  · -- The position on the stack is computed without an access.
    refine (Action.emits_ofChecked _).bind fun onStack => ?_
    refine (Action.emits_ofChecked _).bind fun depth => ?_
    refine (Action.emits_ofChecked _).bind fun offset => ?_
    split
    · -- A distance that leaves the machine word is refused before any access.
      exact Action.emits_refuse _
    · rename_i addr moved
      have copied : (onMemory (Copy.inBytes addr slotSize) :
          Action (ArgumentReader μ) MemoryCall Errno (List UInt8)).Emits MemoryCall.Confined :=
        (Copy.inBytes_emits addr slotSize).zoom
      exact copied.bind fun bytes => Action.emits_pure _

/-- To read a word is to look up one slot. The position is moved on without an access. -/
theorem word_emits (ctx : τ) :
    (word ctx : Action (ArgumentReader μ) MemoryCall Errno UInt32).Emits MemoryCall.Confined := by
  refine Action.emits_read.bind fun reader => ?_
  refine (slot_emits ctx reader.next).bind fun value => ?_
  refine (Action.emits_ofChecked _).bind fun next => ?_
  exact (Action.emits_modify _).bind fun _ => Action.emits_pure _

omit [UserMemory μ] in
/-- To find the next pair takes no access to memory. -/
theorem alignToPair_emits :
    (alignToPair : Action (ArgumentReader μ) MemoryCall Errno Nat).Emits MemoryCall.Confined := by
  refine Action.emits_read.bind fun reader => ?_
  split
  · refine (Action.emits_ofChecked _).bind fun even => ?_
    exact (Action.emits_modify _).bind fun _ => Action.emits_pure _
  · exact Action.emits_pure _

/-- A number of 64 bits is read by at most two accesses, and each is in user space on its own. -/
theorem dword_emits (ctx : τ) :
    (dword ctx : Action (ArgumentReader μ) MemoryCall Errno UInt64).Emits MemoryCall.Confined := by
  -- Two slots, and the alignment before them is arithmetic only.
  refine alignToPair_emits.bind fun even => ?_
  refine (slot_emits ctx even).bind fun high => ?_
  refine (Action.emits_ofChecked _).bind fun odd => ?_
  refine (slot_emits ctx odd).bind fun low => ?_
  refine (Action.emits_ofChecked _).bind fun next => ?_
  exact (Action.emits_modify _).bind fun _ => Action.emits_pure _

/-- **Reading an argument stays in user space**, whatever the stack pointer and the position.

The kinds differ in what they make of a word, but this comes after the access. -/
theorem read_emits (ctx : τ) (kind : ArgumentKind) :
    (read ctx kind : Action (ArgumentReader μ) MemoryCall Errno Argument).Emits
      MemoryCall.Confined := by
  cases kind with
  | word => exact (word_emits ctx).bind fun _ => Action.emits_pure _
  | int =>
    refine Action.Emits.bind ?_ fun _ => Action.emits_pure _
    exact (word_emits ctx).bind fun _ => Action.emits_pure _
  | userAddr =>
    refine Action.Emits.bind ?_ fun _ => Action.emits_pure _
    exact (word_emits ctx).bind fun _ => Action.emits_pure _
  | dword => exact (dword_emits ctx).bind fun _ => Action.emits_pure _

end ArgumentReader

end SyscallGate
