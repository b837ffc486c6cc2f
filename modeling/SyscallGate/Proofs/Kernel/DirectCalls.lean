import SyscallGate.Proofs.Kernel.Confinement

/-!
# A dispatch is a direct call

A dispatch does what the direct call of its number does with the arguments in the registers, and
nothing else: it leaves the same state, uses memory and file layer in the same way, and completes
its frame with the ending of the call. So nothing depends on a register that the call does not use,
and the user stack is not read.

## Main definitions

- `Value.Holds`: a result is one word that holds a number as a whole.
- `TrapFrame.callRegisters`: the registers that a dispatch looks at.
- `DirectDispatch`: a dispatch is the direct call of its number.
- `SameCall`: two dispatches that differ in what their frames held before only.

## Main results

- `Kernel.dispatch_direct`: every dispatch is a direct call, and depends on no other register.
-/

namespace SyscallGate

variable {μ ν φ α : Type}

/-! ## Results in one word -/

/-- The result is one word that holds the number as a whole.

A word of 32 bits loses nothing of a descriptor, of zero, or of the length of a path, so a program
can take the word for the number. -/
def Value.Holds (value : Value) (n : Nat) : Prop :=
  ∃ w : UInt32, value = .word w ∧ w.toNat = n

/-- A length below the size of a word is held as a whole. -/
theorem Value.ofLength_holds {n : Nat} (small : n < UInt32.size) : (Value.ofLength n).Holds n :=
  ⟨UInt32.ofNat n, rfl, UInt32.toNat_ofNat_of_lt' small⟩

theorem Value.ofFd_holds (fd : Fd) : (Value.ofFd fd).Holds fd.number :=
  ⟨fd.toUInt32, rfl, fd.toNat_toUInt32⟩

theorem Value.ofUnit_holds : Value.ofUnit.Holds 0 := ⟨0, rfl, rfl⟩

/-! ## Dispatches -/

open Kernel in
/-- The registers that a dispatch looks at: the number, and the arguments of the call.

For an opening these are the name, the flags and the mode; a closing looks at one argument and the
call for the directory at two. -/
def TrapFrame.callRegisters (frame : TrapFrame) : List Register :=
  if frame.v0 = openNumber then [.v0, .a0, .a1, .a2]
  else if frame.v0 = closeNumber then [.v0, .a0]
  else if frame.v0 = directoryNumber then [.v0, .a0, .a1]
  else [.v0]

section

variable [UserMemory μ] [FileLayer ν φ]

open Kernel

/-- A dispatch that is the direct call of its number.

There is one clause for each number. They say which direct call it is, by the registers that are its
arguments, and that its value gets into one word as a whole. -/
structure DirectDispatch (c : Conditions) (frame : TrapFrame) (k : Kernel μ ν φ)
    (o : Outcome (Kernel μ ν φ) (Event φ) Empty TrapFrame) : Prop where
  opening (number : frame.v0 = openNumber) :
    Carries frame .ofFd (openFile c (.ofRegister frame.a0) ⟨frame.a1⟩ frame.a2 k) o
  closing (number : frame.v0 = closeNumber) :
    Carries frame (fun _ => .ofUnit) (closeFile c frame.a0.toInt32 k) o
  locating (number : frame.v0 = directoryNumber) :
    Carries frame .ofLength (currentDirectory c (.ofRegister frame.a0) frame.a1.toNat k) o
  /-- A call without a number of its own is refused, and has no effect. -/
  unknown (number : frame.v0 ∉ callNumbers) :
    Carries frame id ⟨.error (.refused .enosys), k, []⟩ o
  fdWhole (fd : Fd) : (Value.ofFd fd).Holds fd.number
  unitWhole : Value.ofUnit.Holds 0
  countWhole {dst : UserAddr} {room count : Nat}
    (told : (currentDirectory c dst room k).result = .ok count) : (Value.ofLength count).Holds count
  /-- User memory is read for the name of a file only. -/
  reads : ∀ call ∈ Event.memoryCalls o.events, call.isCopyIn = true →
    frame.v0 = openNumber ∧
      call ∈ (Copy.inString c (.ofRegister frame.a0) (nameMax + 1) k.memory).events

/-- Two dispatches that have the same effects, and complete their frames with the same ending.

The reports may differ, since they tell the argument registers whether the call uses them or not.
The frames differ where they differed before. -/
structure SameCall (frame frame' : TrapFrame)
    (o o' : Outcome (Kernel μ ν φ) (Event φ) Empty TrapFrame) : Prop where
  state : o.state = o'.state
  memory : Event.memoryCalls o.events = Event.memoryCalls o'.events
  files : Event.fileCalls o.events = Event.fileCalls o'.events
  ending : ∃ ending : Except (Halt Empty) Completion,
    o.result = ending.map (TrapContext.complete frame) ∧
      o'.result = ending.map (TrapContext.complete frame')

omit [UserMemory μ] [FileLayer ν φ] in
/-- Two dispatches that carry out one call are the same but for their frames. -/
theorem Carries.sameCall {frame frame' : TrapFrame} {wrap : α → Value}
    {direct : Outcome (Kernel μ ν φ) (Event φ) Errno α}
    {o o' : Outcome (Kernel μ ν φ) (Event φ) Empty TrapFrame} (h : Carries frame wrap direct o)
    (h' : Carries frame' wrap direct o') : SameCall frame frame' o o' where
  state := h.state.trans h'.state.symm
  memory := h.memory.trans h'.memory.symm
  files := h.files.trans h'.files.symm
  -- The ending is that of the direct call, wrapped for the frame.
  ending := by
    refine ⟨direct.attempted.result.map fun ending => ending.map wrap, ?_, ?_⟩
    · rw [h.result]
      cases direct.attempted.result <;> rfl
    · rw [h'.result]
      cases direct.attempted.result <;> rfl

namespace Kernel

/-- A directory has at most as many bytes as there is room for, and never more than the limit.

The path ends at a zero byte or at the end of the buffer, so it is no longer than the buffer; and it
is cut to the room. -/
theorem currentDirectory_count_le {c : Conditions} {dst : UserAddr} {room count : Nat}
    {k : Kernel μ ν φ} (told : (currentDirectory c dst room k).result = .ok count) :
    count ≤ min pathMax room := by
  have outcome := locating c dst room k
  generalize currentDirectory c dst room k = o at outcome told
  cases outcome with
  | noBuffer => cases told
  | lookupFailed => cases told
  | @located buffer reported layer copied memory calls enough answer copy =>
    -- The path is the beginning of a buffer of this size.
    have cut : (pathIn buffer.toList reported).length ≤ pathMax := by
      have first := (List.takeWhile_prefix (l := buffer.toList.take (min reported.toNat pathMax))
        (· ≠ 0)).length_le
      have taken := List.length_take_le (min reported.toNat pathMax) buffer.toList
      unfold pathIn
      omega
    -- Whether it succeeds is up to the copy; if it does, it tells the length that was copied.
    cases copied with
    | error e => cases told
    | ok done =>
      have counted : min (pathIn buffer.toList reported).length room = count := by
        simpa [Except.map] using told
      omega

/-- User memory is read for the name of a file only.

Of the three calls, one does not use memory, and one writes to it. -/
theorem dispatch_reads (c : Conditions) (frame : TrapFrame) (k : Kernel μ ν φ) (call : MemoryCall)
    (used : call ∈ Event.memoryCalls (dispatch c frame k).events) (isRead : call.isCopyIn = true) :
    frame.v0 = openNumber ∧
      call ∈ (Copy.inString c (.ofRegister frame.a0) (nameMax + 1) k.memory).events := by
  rcases frame.number_cases with opening | closing | locating | unknown
  · -- An opening reads the name.
    rw [(dispatch_open c opening k).memory] at used
    exact ⟨opening, openFile_memoryCalls c _ _ _ k call used⟩
  · -- A closing has no use for memory.
    rw [(dispatch_close c closing k).memory,
      Event.memoryCalls_eq_nil (closeFile_emits c _ k)] at used
    cases used
  · rw [(dispatch_directory c locating k).memory] at used
    -- The only use of memory is a write.
    rcases currentDirectory_calls c (.ofRegister frame.a0) frame.a1.toNat k with
      none | ⟨bytes, answer, one, -⟩
    · rw [none] at used
      cases used
    · rw [one, List.mem_singleton] at used
      rw [used] at isRead
      cases isRead
  · -- Neither has a call that does not exist.
    rw [(dispatch_unknown c unknown k).memory] at used
    cases used

/-- Frames that agree on the registers of their call make the same call.

The other registers may differ, the stack pointer and the argument registers that the call does not
use among them. What is reported of them may differ too. -/
theorem dispatch_sameCall (c : Conditions) {frame other : TrapFrame}
    (agree : ∀ r ∈ frame.callRegisters, other.get r = frame.get r) (k : Kernel μ ν φ) :
    SameCall frame other (dispatch c frame k) (dispatch c other k) := by
  unfold TrapFrame.callRegisters at agree
  -- The number is among the registers in any case, so both frames lead to the same call.
  have number : other.v0 = frame.v0 := by
    refine agree .v0 ?_
    split_ifs <;> simp
  rcases frame.number_cases with opening | closing | locating | unknown
  · -- An opening looks at three arguments.
    have a0 : other.a0 = frame.a0 := agree .a0 (by simp [opening])
    have a1 : other.a1 = frame.a1 := agree .a1 (by simp [opening])
    have a2 : other.a2 = frame.a2 := agree .a2 (by simp [opening])
    have here := dispatch_open c opening k
    have there := dispatch_open c (number.trans opening) k
    rw [a0, a1, a2] at there
    exact here.sameCall there
  · -- A closing looks at one.
    have notOpen : closeNumber ≠ openNumber := by decide
    have a0 : other.a0 = frame.a0 := agree .a0 (by simp [closing, notOpen])
    have here := dispatch_close c closing k
    have there := dispatch_close c (number.trans closing) k
    rw [a0] at there
    exact here.sameCall there
  · -- The call for the directory looks at two.
    have notOpen : directoryNumber ≠ openNumber := by decide
    have notClose : directoryNumber ≠ closeNumber := by decide
    have a0 : other.a0 = frame.a0 := agree .a0 (by simp [locating, notOpen, notClose])
    have a1 : other.a1 = frame.a1 := agree .a1 (by simp [locating, notOpen, notClose])
    have here := dispatch_directory c locating k
    have there := dispatch_directory c (number.trans locating) k
    rw [a0, a1] at there
    exact here.sameCall there
  · -- Without a call, the number is all that is looked at.
    have unknown' : other.v0 ∉ callNumbers := number ▸ unknown
    exact (dispatch_unknown c unknown k).sameCall (dispatch_unknown c unknown' k)

/-- **Every dispatch is a direct call**, and nothing depends on the registers that the call does not
use, such as the stack pointer.

The first part names the call and the second part says what it does not depend on. Neither of them
assumes anything about the kernel. -/
theorem dispatch_direct (c : Conditions) (frame : TrapFrame) (k : Kernel μ ν φ) :
    DirectDispatch c frame k (dispatch c frame k) ∧
      ∀ other : TrapFrame, (∀ r ∈ frame.callRegisters, other.get r = frame.get r) →
        SameCall frame other (dispatch c frame k) (dispatch c other k) := by
  refine ⟨?_, fun other agree => dispatch_sameCall c agree k⟩
  exact {
    opening := fun number => dispatch_open c number k
    closing := fun number => dispatch_close c number k
    locating := fun number => dispatch_directory c number k
    unknown := fun number => dispatch_unknown c number k
    fdWhole := Value.ofFd_holds
    unitWhole := Value.ofUnit_holds
    countWhole := fun told => Value.ofLength_holds (by
      have within := currentDirectory_count_le told
      have size : UInt32.size = 4294967296 := rfl
      have limit : pathMax = 1024 := rfl
      omega)
    reads := dispatch_reads c frame k }

end Kernel

end

/-- Two frames with different stacks open the same file: both are told descriptor 3. -/
theorem Kernel.dispatch_direct_other_stack :
    let k : Kernel RegionMemory FlatLayer Nat :=
      initial ⟨[⟨0x400FFE, [97, 0], false, none⟩]⟩ { FlatLayer.empty [] with names := [[97]] }
    let c : Conditions := ⟨.off, .none⟩
    let frame : TrapFrame := { TrapFrame.zero with v0 := openNumber, a0 := 0x400FFE }
    let other : TrapFrame := { frame with sp := 0x7FFF0000, a3 := 9 }
    (dispatch c frame k).result = .ok { frame with v0 := 3, a3 := 0, epc := 4 } ∧
      (dispatch c other k).result = .ok { other with v0 := 3, a3 := 0, epc := 4 } ∧
      Event.fileCalls (dispatch c other k).events =
        Event.fileCalls (dispatch c frame k).events := by
  intro k c frame other
  obtain ⟨-, same⟩ := dispatch_direct c frame k
  -- The frames agree on the number and on the first three arguments, which is all that an opening
  -- uses.
  have agree : ∀ r ∈ frame.callRegisters, other.get r = frame.get r := by decide
  refine ⟨?_, ?_, (same other agree).files.symm⟩
  · decide +kernel
  · decide +kernel

end SyscallGate
