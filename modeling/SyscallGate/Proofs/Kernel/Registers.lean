import SyscallGate.Proofs.Kernel.Totality

/-!
# The registers after a trap

A trap that asks for a system call resumes the program behind the instruction that made the call. It
finds an answer in `v0` and the error flag in `a3`, and every other register as it was. Any other
trap leaves the frame, the kernel and its collaborators alone.

## Main definitions

- `Tells`: what a result says about a call that succeeded.
- `SyscallReturn`: how a frame comes back from a system call.
- `TrapProtocol`: how a frame comes back from a trap.

## Main results

- `Kernel.dispatch_returns_frame`: every dispatch returns its frame in this way.
- `Kernel.handleTrap_protocol`: every trap keeps the protocol, after any session.
-/

namespace SyscallGate

/-! ## The exception number -/

namespace Cause

/-- The exception number is in bits 2 to 6.

The definition takes the quotient by 4 and the remainder by 32 of the number; here it is a shift and
a mask of the word, as the layout of the register has it. -/
theorem exceptionNumber_eq (register : UInt32) :
    exceptionNumber register = ((register >>> 2) &&& 31).toNat := by
  -- A mask with five bits is a remainder by 32.
  have low (n : Nat) : n &&& 31 = n % 32 := Nat.and_two_pow_sub_one_eq_mod n 5
  simp [exceptionNumber, low, Nat.shiftRight_eq_div_pow]

/-- Eight is the number of a system call, and no other number is decoded as one. -/
theorem ofExceptionNumber_eq_syscall_iff {n : Nat} : ofExceptionNumber n = .syscall ↔ n = 8 := by
  constructor
  · intro decoded
    unfold ofExceptionNumber at decoded
    -- All other branches decode to another cause.
    split at decoded <;> first | rfl | cases decoded
  · intro eight
    rw [eight]
    rfl

/-- A trap asks for a system call if its exception number is 8. -/
theorem ofRegister_eq_syscall_iff {register : UInt32} :
    ofRegister register = .syscall ↔ (register >>> 2) &&& 31 = 8 := by
  rw [ofRegister, ofExceptionNumber_eq_syscall_iff, exceptionNumber_eq]
  exact ⟨fun h => UInt32.toNat_inj.mp h, fun h => by rw [h]; rfl⟩

end Cause

/-! ## Returning from a call -/

namespace TrapFrame

/-- The frame behind the instruction that made a call, with a result and the error flag.

The instruction is one word long. Adding its width wraps around at the end of the address space, as
the register does. -/
def returning (frame : TrapFrame) (result flag : UInt32) : TrapFrame :=
  { frame with v0 := result, a3 := flag, epc := frame.epc + instructionWidth }

theorem complete_word (frame : TrapFrame) (w : UInt32) :
    TrapContext.complete frame (.ok (.word w)) = frame.returning w 0 := rfl

theorem complete_error (frame : TrapFrame) (e : Errno) :
    TrapContext.complete frame (.error e) = frame.returning e.code 1 := rfl

/-- Only three registers change.

The three that do are excluded by hypothesis, so that every other one is covered by one case. -/
theorem get_returning (frame : TrapFrame) (result flag : UInt32) {r : Register}
    (notResult : r ≠ .v0) (notFlag : r ≠ .a3) (notCounter : r ≠ .epc) :
    (frame.returning result flag).get r = frame.get r := by
  -- The registers that change are excluded, and each of the others is a field that stays.
  cases r with
  | v0 => exact absurd rfl notResult
  | a3 => exact absurd rfl notFlag
  | epc => exact absurd rfl notCounter
  | _ => rfl

theorem epc_returning (frame : TrapFrame) (result flag : UInt32) :
    (frame.returning result flag).epc.toNat = (frame.epc.toNat + 4) % 2 ^ 32 :=
  UInt32.toNat_add frame.epc instructionWidth

/-- A call in the last word of the address space goes on at its beginning. -/
example : (returning { zero with epc := 0xFFFFFFFC } 3 0).epc = 0 := by decide

end TrapFrame

section

variable {μ ν φ : Type}

open Kernel

/-- What a result says about a call that succeeded, with the table before and after the call.

For every number there is one clause that says something; the others do not apply to it. The tables
are needed for an opening only, whose descriptor has to be new. -/
structure Tells (frame : TrapFrame) (before now : Table φ) (result : UInt32) : Prop where
  /-- An opening tells a descriptor that was free and is in use. -/
  opened (number : frame.v0 = openNumber) :
    ∃ fd : Fd, result.toNat = fd.number ∧ before.get? fd = none ∧ (now.get? fd).isSome
  closed (number : frame.v0 = closeNumber) : result = 0
  located (number : frame.v0 = directoryNumber) : result.toNat ≤ min 1024 frame.a1.toNat
  /-- Other calls do not succeed. -/
  known : frame.v0 ∈ callNumbers

/-- How a frame comes back from a system call.

The word in `v0` is a result or an error number, and the flag tells which. Both cases are stated
under the flag, since this is how a program looks at them. -/
structure SyscallReturn (frame after : TrapFrame) (before now : Table φ) : Prop where
  counter : after.epc.toNat = (frame.epc.toNat + 4) % 2 ^ 32
  flag : after.a3 = 0 ∨ after.a3 = 1
  kept (r : Register) (notResult : r ≠ .v0) (notFlag : r ≠ .a3) (notCounter : r ≠ .epc) :
    after.get r = frame.get r
  success (ok : after.a3 = 0) : Tells frame before now after.v0
  failure (bad : after.a3 = 1) : ∃ e : Errno, after.v0 = e.code
  unknown (number : frame.v0 ∉ callNumbers) : after.a3 = 1 ∧ after.v0 = 1

/-- How a frame comes back from a trap, and what becomes of the kernel.

Which of the two it is depends on the cause register only. In the second case there is nothing to
undo: neither memory nor the layer was used, and the kernel is the same. -/
structure TrapProtocol (frame : TrapFrame) (k : Kernel μ ν φ)
    (o : Outcome (Kernel μ ν φ) (Event φ) Empty (TrapFrame × Disposition)) : Prop where
  syscall (asks : (frame.cause >>> 2) &&& 31 = 8) :
    ∃ after, o.result = .ok (after, .resume) ∧ SyscallReturn frame after k.files o.state.files
  other (asks : (frame.cause >>> 2) &&& 31 ≠ 8) :
    o.result = .ok (frame, .unhandled (.ofExceptionNumber ((frame.cause >>> 2) &&& 31).toNat)) ∧
      o.state = k ∧ Event.memoryCalls o.events = [] ∧ Event.fileCalls o.events = []

/-- A call that tells what its result should say, or refuses, returns its frame properly.

The ending of the call decides between the two cases of the flag. That only a success has to tell
something is why the table is not needed otherwise. -/
theorem SyscallReturn.of_complete {frame : TrapFrame} {before now : Table φ}
    {ending : Except Errno UInt32} (tells : ∀ w, ending = .ok w → Tells frame before now w)
    (unknown : frame.v0 ∉ callNumbers → ending = .error .enosys) :
    SyscallReturn frame (TrapContext.complete frame (ending.map .word)) before now := by
  have differ : (0 : UInt32) ≠ 1 := by decide
  cases ending with
  | ok w =>
    -- The call tells a word: the flag is 0, and the word is the result.
    rw [Except.map, frame.complete_word]
    exact {
      counter := frame.epc_returning w 0
      flag := .inl rfl
      kept := fun r => frame.get_returning w 0
      success := fun _ => tells w rfl
      failure := fun bad => absurd bad differ
      unknown := fun number => absurd (unknown number) nofun }
  | error e =>
    -- The call is refused: the flag is 1, and the error number is the result.
    rw [Except.map, frame.complete_error]
    exact {
      counter := frame.epc_returning e.code 1
      flag := .inr rfl
      kept := fun r => frame.get_returning e.code 1
      success := fun ok => absurd ok.symm differ
      failure := fun _ => ⟨e, rfl⟩
      unknown := fun number => by
        cases unknown number
        exact ⟨rfl, rfl⟩ }

/-- The dispatch of a call that returns a word returns its frame properly.

All calls come down to this lemma: they differ in how their value becomes a word, and in what the
word tells. -/
theorem Carries.returns_frame {α : Type} {frame : TrapFrame} {wrap : α → UInt32}
    {direct : Outcome (Kernel μ ν φ) (Event φ) Errno α}
    {o : Outcome (Kernel μ ν φ) (Event φ) Empty TrapFrame} {before now : Table φ}
    (carried : Carries frame (fun a => .word (wrap a)) direct o) (returns : direct.Returns)
    (known : frame.v0 ∈ callNumbers)
    (tells : ∀ a, direct.result = .ok a → Tells frame before now (wrap a)) :
    ∃ after, o.result = .ok after ∧ SyscallReturn frame after before now := by
  obtain ⟨answer, ended⟩ := returns
  -- Wrapping a value and then making a word of it is the same as making a word at once.
  have isWord : answer.map (fun a => Value.word (wrap a)) = (answer.map wrap).map .word := by
    cases answer <;> rfl
  -- A known number is never unknown; what is left is what the answer tells.
  refine ⟨_, carried.result_eq ended, isWord ▸ .of_complete ?_ fun number => absurd known number⟩
  intro w told
  cases answer with
  | error e => cases told
  | ok a =>
    cases told
    exact tells a ended

variable [UserMemory μ] [FileLayer ν φ] {k : Kernel μ ν φ}

namespace Kernel

/-- The descriptor of a file that was opened was free, and names the file.

It follows from the outcome: an opening that tells a descriptor has put a file there. -/
theorem openFile_grants {c : Conditions} {path : UserAddr} {flags : OpenFlags} {mode : UInt32}
    {fd : Fd} (fits : k.files.Fits) (told : (openFile c path flags mode k).result = .ok fd) :
    ∃ file, k.files.Grants fd file (openFile c path flags mode k).state.files := by
  have outcome := opening c path flags mode k fits
  generalize openFile c path flags mode k = o at outcome told
  cases outcome with
  -- No other outcome tells a descriptor.
  | badMode | nameHalted | nameTooLong | layerRefused | undone => cases told
  | opened arrives whole answer grants =>
    cases told
    exact ⟨_, grants⟩

/-- **Every dispatch returns its frame**, with the answer of the call.

The three numbers differ, so for each call the clauses of the other two do not apply. An unknown
number is refused, which leaves nothing to tell. -/
theorem dispatch_returns_frame (c : Conditions) (frame : TrapFrame) (fits : k.files.Fits) :
    ∃ after, (dispatch c frame k).result = .ok after ∧
      SyscallReturn frame after k.files (dispatch c frame k).state.files := by
  have openNotClose : openNumber ≠ closeNumber := by decide
  have openNotDirectory : openNumber ≠ directoryNumber := by decide
  have closeNotDirectory : closeNumber ≠ directoryNumber := by decide
  rcases frame.number_cases with number | number | number | unknown
  · -- The call opens a file. Its descriptor fits into a word, and names the file afterwards.
    have carried := dispatch_open c number k
    refine carried.returns_frame (openFile_returns c _ _ _ fits)
      (number ▸ List.mem_cons_self) fun fd told => ?_
    obtain ⟨file, grants⟩ := openFile_grants fits told
    obtain ⟨w, isWord, whole⟩ := Value.ofFd_holds fd
    cases isWord
    have live : (dispatch c frame k).state.files.get? fd = some file := by
      rw [carried.state, grants.view, FdMap.insert_self]
    exact {
      opened := fun _ => ⟨fd, whole, grants.lowest.free, by rw [live]; rfl⟩
      closed := fun other => absurd (number.symm.trans other) openNotClose
      located := fun other => absurd (number.symm.trans other) openNotDirectory
      known := number ▸ List.mem_cons_self }
  · -- The call closes a descriptor, and the result is zero.
    have carried := dispatch_close c number k
    have known : frame.v0 ∈ callNumbers := number ▸ List.mem_cons_of_mem _ List.mem_cons_self
    refine carried.returns_frame (closeFile_returns c _ fits) known fun _ _ => ?_
    exact {
      opened := fun other => absurd (other.symm.trans number) openNotClose
      closed := fun _ => rfl
      located := fun other => absurd (number.symm.trans other) closeNotDirectory
      known := known }
  · -- The call tells the directory. The length is bounded by the longest path and by the room.
    have carried := dispatch_directory c number k
    have known : frame.v0 ∈ callNumbers := by simp [callNumbers, number]
    refine carried.returns_frame (currentDirectory_returns c _ _ k) known fun count told => ?_
    exact {
      opened := fun other => absurd (other.symm.trans number) openNotDirectory
      closed := fun other => absurd (other.symm.trans number) closeNotDirectory
      located := fun _ => Nat.le_trans (Nat.mod_le _ _) (currentDirectory_count_le told)
      known := known }
  · -- No call has the number.
    have returned : SyscallReturn frame
        (TrapContext.complete frame ((.error .enosys : Except Errno UInt32).map .word)) k.files
        (dispatch c frame k).state.files :=
      .of_complete (fun w told => by cases told) fun _ => rfl
    exact ⟨_, (dispatch_unknown c unknown k).result, returned⟩

/-- **Every trap keeps the protocol**, after any session.

The table fits after any session with a new kernel, and this is all that matters of the state. -/
theorem handleTrap_protocol (memory : μ) (layer : ν) (steps : List (Conditions × Request))
    (c : Conditions) (frame : TrapFrame) :
    TrapProtocol frame ((initial memory layer : Kernel μ ν φ).afterSession steps)
      (handleTrap c frame ((initial memory layer).afterSession steps)) := by
  have fits := afterSession_fits (k := (initial memory layer : Kernel μ ν φ)) Table.fits_empty steps
  generalize (initial memory layer : Kernel μ ν φ).afterSession steps = k at fits
  constructor
  · intro asks
    -- The cause is a system call: the frame that the dispatch returns is resumed.
    obtain ⟨after, returned, protocol⟩ := dispatch_returns_frame c frame fits
    rw [handleTrap_syscall c (Cause.ofRegister_eq_syscall_iff.mpr asks), returned]
    exact ⟨after, rfl, protocol⟩
  · intro asks
    -- Any other cause is decoded from the same bits, and reported.
    rw [handleTrap_other c fun syscall => asks (Cause.ofRegister_eq_syscall_iff.mp syscall),
      ← Cause.exceptionNumber_eq]
    exact ⟨rfl, rfl, memoryCalls_noted _ _, fileCalls_noted _ _⟩

end Kernel

end

end SyscallGate
