import Mathlib.Tactic.SplitIfs
import SyscallGate.Memory.Copy
import SyscallGate.Proofs.Emits
import SyscallGate.Proofs.Memory.Range

/-!
# How user memory is accessed

What the copies ask of user memory. A copy of bytes is one access, or none (`Copy.inBytes_eq`,
`Copy.outBytes_eq`). A copy of a string is a sequence of accesses, each inside one page
(`Copy.gather_emits`, `Copy.inString_emits`). All of them stay in user space.

## Main definitions

- `Copy.CopiesOut`: the outcomes of copying bytes out.
- `UserMemory.Stores`: a memory in which accepted bytes are put in place, and nothing else changes.
-/

namespace SyscallGate

variable {μ : Type} [UserMemory μ]

/-- Bytes by address, after other bytes were put in place from an address on.

Where the bytes do not reach, the byte is the one of before, so two overlays can be compared address
by address. -/
def overlay (byte : Nat → UInt8) (start : Nat) (bytes : List UInt8) (addr : Nat) : UInt8 :=
  if start ≤ addr then (bytes[addr - start]?).getD (byte addr) else byte addr

theorem overlay_nil (byte : Nat → UInt8) (start : Nat) : overlay byte start [] = byte := by
  funext addr
  simp [overlay]

/-- Bytes that the memory accepts are put in place, and nothing else changes. The bytes of a memory
are given by a function.

A memory type has this property or not; nothing in the copies depends on it. It is what one needs to
speak of the bytes behind an address. -/
def UserMemory.Stores (byteAt : μ → Nat → UInt8) : Prop :=
  ∀ (bytes : List UInt8) (dst : UserAddr) (m m' : μ), copyOut bytes dst m = (.ok (), m') →
    byteAt m' = overlay (byteAt m) dst.toNat bytes

namespace Copy

/-! ## Byte ranges -/

/-- **Outcomes of copying bytes in**: nothing for an empty range, a fault for a range outside user
space, and otherwise one access whose answer is returned.

The outcome is given in full, so that callers need not look at the check again. -/
theorem inBytes_eq (src : UserAddr) (len : Nat) (m : μ) :
    inBytes src len m =
      if len = 0 then ⟨.ok [], m, []⟩
      else if InUserSpace src len then
        let (answer, memory) := UserMemory.copyIn src len m
        ⟨(answer.map (·.toList)).mapError .refused, memory,
          [.copyIn src len (answer.map (·.toList))]⟩
      else ⟨.error (.refused .efault), m, []⟩ := by
  unfold inBytes
  rw [UserRange.check_eq]
  -- The two tests of the right side are those of the check.
  by_cases empty : len = 0
  · simp [empty, UserRange.isEmpty]
  · by_cases inside : InUserSpace src len
    · simp only [empty, inside, or_true, dite_true, UserRange.isEmpty, beq_iff_eq, if_false,
        if_true, Action.bind_apply, Action.ofExcept_ok, Action.pure_apply, Outcome.andThen_ok,
        Outcome.after_nil, UserMemory.fetch_apply]
      rcases UserMemory.copyIn src len m with ⟨e | block, memory⟩ <;> rfl
    · simp [empty, inside]

/-- **Outcomes of copying bytes out**: nothing for no bytes, a fault for a range outside user space,
and otherwise one access whose answer is returned. -/
theorem outBytes_eq (bytes : List UInt8) (dst : UserAddr) (m : μ) :
    outBytes bytes dst m =
      if bytes.length = 0 then ⟨.ok (), m, []⟩
      else if InUserSpace dst bytes.length then
        let (answer, memory) := UserMemory.copyOut bytes dst m
        ⟨answer.mapError .refused, memory, [.copyOut bytes dst answer]⟩
      else ⟨.error (.refused .efault), m, []⟩ := by
  unfold outBytes
  rw [UserRange.check_eq]
  -- As for a copy in, but the answer carries no bytes.
  by_cases empty : bytes.length = 0
  · simp [empty, UserRange.isEmpty]
  · by_cases inside : InUserSpace dst bytes.length
    · simp only [empty, inside, or_true, dite_true, UserRange.isEmpty, beq_iff_eq, if_false,
        if_true, Action.bind_apply, Action.ofExcept_ok, Action.pure_apply, Outcome.andThen_ok,
        Outcome.after_nil, UserMemory.store_apply]
    · simp [empty, inside]

/-- The outcomes of copying bytes out: the answer, the memory afterwards, and its uses.

There is at most one use of memory, and the whole range is passed to it in one piece. -/
inductive CopiesOut (bytes : List UInt8) (dst : UserAddr) (m : μ) :
    Except Errno Unit → μ → List MemoryCall → Prop where
  | nothing (empty : bytes = []) : CopiesOut bytes dst m (.ok ()) m []
  | outside (filled : bytes ≠ []) (outside : ¬ InUserSpace dst bytes.length) :
      CopiesOut bytes dst m (.error .efault) m []
  | asked {answer : Except Errno Unit} {m' : μ} (filled : bytes ≠ [])
      (inside : InUserSpace dst bytes.length)
      (stored : UserMemory.copyOut bytes dst m = (answer, m')) :
      CopiesOut bytes dst m answer m' [.copyOut bytes dst answer]

/-- A copy out with a given answer is one of these outcomes. -/
theorem copiesOut_of_eq {bytes : List UInt8} {dst : UserAddr} {m m' : μ}
    {answer : Except Errno Unit} {calls : List MemoryCall}
    (copy : outBytes bytes dst m = ⟨answer.mapError .refused, m', calls⟩) :
    CopiesOut bytes dst m answer m' calls := by
  rw [outBytes_eq] at copy
  split_ifs at copy with empty inside
  · cases answer <;> cases copy
    exact .nothing (List.length_eq_zero_iff.mp empty)
  · rcases stored : UserMemory.copyOut bytes dst m with ⟨answer', memory⟩
    rw [stored] at copy
    have filled : bytes ≠ [] := fun none => empty (List.length_eq_zero_iff.mpr none)
    cases answer' <;> cases answer <;> cases copy <;> exact .asked filled inside stored
  · cases answer <;> cases copy
    exact .outside (fun none => empty (List.length_eq_zero_iff.mpr none)) inside

/-- **A copy that succeeds puts its bytes in place**, and changes nothing else.

An empty copy puts nothing in place, and has no address to speak of. -/
theorem CopiesOut.byteAt_eq {byteAt : μ → Nat → UInt8} (stores : UserMemory.Stores byteAt)
    {bytes : List UInt8} {dst : UserAddr} {m m' : μ} {calls : List MemoryCall}
    (copied : CopiesOut bytes dst m (.ok ()) m' calls) :
    byteAt m' = overlay (byteAt m) dst.toNat bytes := by
  cases copied with
  | nothing empty => rw [empty, overlay_nil]
  | asked _ _ stored => exact stores bytes dst m m' stored

/-- A copy in ends with an answer: it does not panic. -/
theorem inBytes_answers (src : UserAddr) (len : Nat) (m : μ) :
    ∃ (answer : Except Errno (List UInt8)) (memory : μ) (calls : List MemoryCall),
      inBytes src len m = ⟨answer.mapError .refused, memory, calls⟩ := by
  rw [inBytes_eq]
  split
  · exact ⟨.ok [], m, [], rfl⟩
  · split
    · exact ⟨_, _, _, rfl⟩
    · exact ⟨.error .efault, m, [], rfl⟩

/-- A copy out ends with an answer: it does not panic. -/
theorem outBytes_answers (bytes : List UInt8) (dst : UserAddr) (m : μ) :
    ∃ (answer : Except Errno Unit) (memory : μ) (calls : List MemoryCall),
      outBytes bytes dst m = ⟨answer.mapError .refused, memory, calls⟩ := by
  rw [outBytes_eq]
  split
  · exact ⟨.ok (), m, [], rfl⟩
  · split
    · exact ⟨_, _, _, rfl⟩
    · exact ⟨.error .efault, m, [], rfl⟩

/-- The only use of memory by a copy in is a read in user space. -/
theorem inBytes_emits (src : UserAddr) (len : Nat) :
    (inBytes src len : Action μ MemoryCall Errno (List UInt8)).Emits MemoryCall.Confined := by
  intro m call seen
  rw [inBytes_eq] at seen
  split at seen
  · cases seen
  · rename_i filled
    split at seen
    case isTrue inside =>
      rw [List.mem_singleton] at seen
      subst seen
      exact ⟨Nat.pos_of_ne_zero filled, inside⟩
    case isFalse => cases seen

/-- The only use of memory by a copy out is a write in user space. -/
theorem outBytes_emits (bytes : List UInt8) (dst : UserAddr) :
    (outBytes bytes dst : Action μ MemoryCall Errno Unit).Emits MemoryCall.Confined := by
  intro m call seen
  rw [outBytes_eq] at seen
  split at seen
  · cases seen
  · rename_i filled
    split at seen
    case isTrue inside =>
      rw [List.mem_singleton] at seen
      subst seen
      exact ⟨Nat.pos_of_ne_zero filled, inside⟩
    case isFalse => cases seen

/-! ## Strings -/

/-- The accesses of a string copy: reads in user space, each inside one page.

It is what is said of every access of a string copy, on its own and regardless of the order. -/
def Chunk (call : MemoryCall) : Prop :=
  call.isCopyIn = true ∧ call.Confined ∧ call.InOnePage

omit [UserMemory μ] in
/-- What is asked for next is in one page, and in user space if it passed the check.

The bound and the page limit the chunk from above, and it is at least one byte. -/
theorem chunk_of_check {bound held chunk : Nat} {cursor : UserAddr} {range : UserRange .read}
    (unfilled : held < bound) (chosen : nextChunk bound held cursor = .ok chunk)
    (checked : UserRange.check .read cursor chunk = .ok range)
    (answer : Except Errno (List UInt8)) : Chunk (.copyIn range.addr range.len answer) := by
  -- The chunk is at least one byte long and ends with the page of the cursor, if not before.
  have pos := nextChunk_pos unfilled chosen
  obtain ⟨sameAddr, sameLen⟩ := UserRange.check_addr_len checked
  refine ⟨rfl, ⟨?_, range.inUserSpace ?_⟩, MemoryCall.inOnePage_of_length_le ?_⟩
  · exact sameLen ▸ pos
  · exact sameLen ▸ pos
  · rw [nextChunk_eq cursor unfilled] at chosen
    cases chosen
    simp only [MemoryCall.length, MemoryCall.addr, sameAddr, sameLen]
    omega

/-- The loop makes no other accesses.

It is shown along the recursion of the loop, without regard to what the buffer holds. -/
theorem gather_emits (bound : Nat) (cursor : UserAddr) (buffer : Buffer) :
    (gather bound cursor buffer : Action μ MemoryCall Errno (Buffer × Bool)).Emits Chunk := by
  -- Induction along the loop. `Chunk` holds of the read of every round, whatever was read before.
  fun_induction @gather μ _ bound cursor buffer with
  | case1 cursor buffer unfilled cause chosen => exact Action.emits_stop cause
  | case2 cursor buffer unfilled chunk chosen reason checked => exact Action.emits_refuse reason
  | case3 cursor buffer unfilled chunk chosen range checked ih =>
    have fetched : (UserMemory.fetch range :
        Action μ MemoryCall Errno (Vector UInt8 range.len)).Emits Chunk := by
      intro m call seen
      rw [UserMemory.fetch_apply, List.mem_singleton] at seen
      subst seen
      exact chunk_of_check unfilled chosen checked _
    refine fetched.bind ?_
    intro block
    split
    · -- The end of the string is in this block.
      refine (Action.emits_ofChecked _).bind ?_
      intro complete
      exact Action.emits_pure _
    · split
      · exact Action.emits_stop _
      · rename_i longer filled
        split
        · exact Action.emits_refuse _
        · rename_i next moved
          exact ih _ _ filled _
  | case4 cursor buffer full => exact Action.emits_pure _

/-- All accesses of a string copy are those of the loop. -/
theorem inString_emits (c : Conditions) (src : UserAddr) (bound : Nat) :
    (inString c src bound : Action μ MemoryCall Errno KernelString).Emits Chunk := by
  unfold inString
  split
  case isFalse => exact Action.emits_refuse _
  case isTrue =>
    refine Action.Emits.bind ?_ ?_
    -- The buffer is storage of the kernel.
    · unfold Buffer.reserve
      split
      · exact Action.emits_refuse _
      · exact Action.emits_pure _
    · intro reserved
      refine (gather_emits bound src reserved).bind ?_
      rintro ⟨gathered, found⟩
      refine (Action.emits_ofChecked _).bind ?_
      intro closed
      split
      · exact Action.emits_pure _
      · exact Action.emits_refuse _

end Copy

end SyscallGate
