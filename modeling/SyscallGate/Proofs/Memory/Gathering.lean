import Mathlib.Data.List.TakeWhile
import SyscallGate.Memory.Copy
import SyscallGate.Proofs.Memory.Range

/-!
# Rounds of a string copy

The loop that copies a string in, as a derivation: one rule for each way in which a round can end.
The rules know of no overflow and of no buffer that is too small, because a loop whose buffer was
reserved for the bound meets neither. Results about string copies are inductions on derivations.

## Main definitions

- `Copy.chunkSize`: how many bytes a round asks for.
- `Copy.Gathering`: the derivations of the loop.
- `Copy.CopiesString`: the outcomes of a string copy.

## Main results

- `Copy.gathering`: the loop has a derivation, provided that the buffer has room for the bound.
- `Copy.inString_copies`: a string copy has no other outcomes.
-/

namespace SyscallGate

/-- A buffer of this size can be reserved under the given conditions.

There are two reasons why it could not: memory is short, or the size is beyond the limit of
reservations. -/
def Buffer.CanReserve (c : Conditions) (size : Nat) : Prop :=
  c.shortage.buffers = false ∧ size ≤ reservationLimit

/-- A reservation that can be granted is granted, as an empty buffer of this size. -/
theorem Buffer.reserve_of_canReserve {σ ε : Type} {c : Conditions} {size : Nat}
    (granted : CanReserve c size) :
    (reserve c size : Action σ ε Errno Buffer) = pure ⟨[], size⟩ := by
  have small : ¬ reservationLimit < size := Nat.not_lt.mpr granted.2
  simp [reserve, granted.1, small]

/-- A reservation that cannot be granted is refused. -/
theorem Buffer.reserve_of_not_canReserve {σ ε : Type} {c : Conditions} {size : Nat}
    (denied : ¬ CanReserve c size) :
    (reserve c size : Action σ ε Errno Buffer) = .refuse .enomem := by
  unfold reserve
  apply if_pos
  cases short : c.shortage.buffers with
  | true => exact .inl rfl
  | false => exact .inr (Nat.lt_of_not_le fun enough => denied ⟨short, enough⟩)

/-- A buffer grows by what is put behind its bytes. -/
theorem Buffer.length_extended (b : Buffer) (more : List UInt8) :
    (⟨b.bytes ++ more, b.reserved⟩ : Buffer).length = b.length + more.length :=
  List.length_append

/-- The address behind a range in user space.

A range in user space ends far below the largest address, so the sum does not wrap around. -/
theorem InUserSpace.exists_stop {addr : UserAddr} {len : Nat} (inside : InUserSpace addr len) :
    ∃ stop : UserAddr, stop.toNat = addr.toNat + len := by
  have top : userTop < wordLimit := by decide
  have below := inside.2
  exact ⟨.ofNat (addr.toNat + len), UserAddr.toNat_ofNat (by omega)⟩

namespace Copy

variable {μ : Type} [UserMemory μ] {bound : Nat}

/-- How many bytes a round asks for: up to the bound, and up to the end of the page.

The definition in the loop computes the two limits with checks. Here they are numbers, and the
smaller one is taken. -/
def chunkSize (bound held : Nat) (cursor : UserAddr) : Nat :=
  min (bound - held) (pageSize - cursor.toNat % pageSize)

/-- The loop chooses chunks of this size, and no check of the computation fails. -/
theorem nextChunk_eq_chunkSize {held : Nat} (cursor : UserAddr) (unfilled : held < bound) :
    nextChunk bound held cursor = .ok (chunkSize bound held cursor) :=
  nextChunk_eq cursor unfilled

/-- A round asks for at least one byte, or the loop would not get on. -/
theorem chunkSize_pos {held : Nat} (cursor : UserAddr) (unfilled : held < bound) :
    0 < chunkSize bound held cursor :=
  nextChunk_pos unfilled (nextChunk_eq cursor unfilled)

/-- A round does not ask for more than is missing. -/
theorem chunkSize_le_missing (bound held : Nat) (cursor : UserAddr) :
    chunkSize bound held cursor ≤ bound - held :=
  Nat.min_le_left _ _

/-- A round does not ask for bytes of the next page. -/
theorem chunkSize_in_page (bound held : Nat) (cursor : UserAddr) :
    cursor.toNat % pageSize + chunkSize bound held cursor ≤ pageSize := by
  have inPage := Nat.mod_lt cursor.toNat (show 0 < pageSize by decide)
  have short : chunkSize bound held cursor ≤ pageSize - cursor.toNat % pageSize :=
    Nat.min_le_right _ _
  omega

/-! ## The loop -/

/-- The derivations of the loop, from the cursor, the buffer and the memory with which a round
begins.

A derivation applies `goesOn` a number of times, each time with one read, and then one of the other
four rules. -/
inductive Gathering (bound : Nat) :
    UserAddr → Buffer → μ → Outcome μ MemoryCall Errno (Buffer × Bool) → Prop where
  /-- The bound is reached. -/
  | full {cursor : UserAddr} {buffer : Buffer} {m : μ} (full : bound ≤ buffer.length) :
      Gathering bound cursor buffer m ⟨.ok (buffer, false), m, []⟩
  /-- The next chunk is not in user space. -/
  | outside {cursor : UserAddr} {buffer : Buffer} {m : μ} (unfilled : buffer.length < bound)
      (outside : ¬ InUserSpace cursor (chunkSize bound buffer.length cursor)) :
      Gathering bound cursor buffer m ⟨.error (.refused .efault), m, []⟩
  | refused {cursor : UserAddr} {buffer : Buffer} {m m' : μ} {e : Errno}
      (unfilled : buffer.length < bound)
      (inside : InUserSpace cursor (chunkSize bound buffer.length cursor))
      (answer : UserMemory.copyIn cursor (chunkSize bound buffer.length cursor) m =
        (.error e, m')) :
      Gathering bound cursor buffer m ⟨.error (.refused e), m',
        [.copyIn cursor (chunkSize bound buffer.length cursor) (.error e)]⟩
  /-- The end of the string is in the chunk. -/
  | ended {cursor : UserAddr} {buffer : Buffer} {m m' : μ}
      {block : Vector UInt8 (chunkSize bound buffer.length cursor)}
      (unfilled : buffer.length < bound)
      (inside : InUserSpace cursor (chunkSize bound buffer.length cursor))
      (answer : UserMemory.copyIn cursor (chunkSize bound buffer.length cursor) m =
        (.ok block, m'))
      (zero : 0 ∈ block.toList) :
      Gathering bound cursor buffer m
        ⟨.ok (⟨buffer.bytes ++ block.toList.takeWhile (· ≠ 0), buffer.reserved⟩, true), m',
          [.copyIn cursor (chunkSize bound buffer.length cursor) (.ok block.toList)]⟩
  /-- The string goes on behind the chunk. -/
  | goesOn {cursor next : UserAddr} {buffer : Buffer} {m m' : μ}
      {block : Vector UInt8 (chunkSize bound buffer.length cursor)}
      {rest : Outcome μ MemoryCall Errno (Buffer × Bool)}
      (unfilled : buffer.length < bound)
      (inside : InUserSpace cursor (chunkSize bound buffer.length cursor))
      (answer : UserMemory.copyIn cursor (chunkSize bound buffer.length cursor) m =
        (.ok block, m'))
      (noZero : 0 ∉ block.toList)
      (moved : next.toNat = cursor.toNat + chunkSize bound buffer.length cursor)
      (run : Gathering bound next ⟨buffer.bytes ++ block.toList, buffer.reserved⟩ m' rest) :
      Gathering bound cursor buffer m
        (rest.after [.copyIn cursor (chunkSize bound buffer.length cursor) (.ok block.toList)])

/-- The loop ends where the bound is reached, without a further read. -/
theorem gather_full (cursor : UserAddr) {buffer : Buffer} (full : bound ≤ buffer.length) :
    (gather bound cursor buffer : Action μ MemoryCall Errno (Buffer × Bool)) =
      pure (buffer, false) := by
  rw [gather, dif_neg (Nat.not_lt.mpr full)]

/-- The loop faults at a chunk outside user space, before memory is asked. -/
theorem gather_outside {cursor : UserAddr} {buffer : Buffer} (unfilled : buffer.length < bound)
    (outside : ¬ InUserSpace cursor (chunkSize bound buffer.length cursor)) :
    (gather bound cursor buffer : Action μ MemoryCall Errno (Buffer × Bool)) =
      .refuse .efault := by
  have pos := chunkSize_pos cursor unfilled
  rw [gather, dif_pos unfilled]
  -- The chunk is chosen and then checked; the other branches contradict what was chosen.
  split
  · rename_i cause chosen
    rw [nextChunk_eq_chunkSize cursor unfilled] at chosen
    cases chosen
  · rename_i chunk chosen
    rw [nextChunk_eq_chunkSize cursor unfilled] at chosen
    cases chosen
    have bad : ¬ (chunkSize bound buffer.length cursor = 0 ∨
        InUserSpace cursor (chunkSize bound buffer.length cursor)) :=
      not_or.mpr ⟨Nat.ne_of_gt pos, outside⟩
    split
    · rename_i reason checked
      rw [UserRange.check_eq, dif_neg bad] at checked
      cases checked
      rfl
    · rename_i range checked
      rw [UserRange.check_eq, dif_neg bad] at checked
      cases checked

/-- A round whose chunk passed the check: what the loop does with the bytes.

The bytes are put into the buffer up to the zero byte, if there is one. The two ways of failing
behind a chunk without a zero byte are still there. -/
theorem gather_checked {cursor : UserAddr} {buffer : Buffer} {chunk : Nat} {range : UserRange .read}
    (unfilled : buffer.length < bound) (chosen : nextChunk bound buffer.length cursor = .ok chunk)
    (checked : UserRange.check .read cursor chunk = .ok range) :
    (gather bound cursor buffer : Action μ MemoryCall Errno (Buffer × Bool)) = (do
      let block ← UserMemory.fetch range
      if 0 ∈ block.toList then
        let complete ← .ofChecked (buffer.append (block.toList.takeWhile (· ≠ 0)))
        return (complete, true)
      else
        match buffer.append block.toList, cursor.add? chunk with
        | .error cause, _ => .stop cause
        | .ok _, none => .refuse .efault
        | .ok longer, some next => gather bound next longer) := by
  rw [gather, dif_pos unfilled]
  -- The definition splits in the same way, and all branches but one contradict the hypotheses.
  split
  · rename_i cause chosen'
    cases chosen.symm.trans chosen'
  · rename_i chunk' chosen'
    cases chosen.symm.trans chosen'
    split
    · rename_i reason checked'
      cases checked.symm.trans checked'
    · rename_i range' checked'
      cases checked.symm.trans checked'
      congr 1
      funext block
      split
      · rfl
      · split
        · rename_i cause filled
          simp only [filled]
        · rename_i longer filled
          simp only [filled]
          cases cursor.add? chunk <;> rfl

/-- A round whose chunk is in user space reads it, and ends or goes on as the bytes say.

Both ways of failing are excluded: the buffer has room up to the bound, and the address behind the
chunk exists. -/
theorem gather_inside {cursor next : UserAddr} {buffer : Buffer} (unfilled : buffer.length < bound)
    (inside : InUserSpace cursor (chunkSize bound buffer.length cursor))
    (room : bound < buffer.reserved) (small : buffer.reserved < wordLimit)
    (moved : next.toNat = cursor.toNat + chunkSize bound buffer.length cursor) :
    (gather bound cursor buffer : Action μ MemoryCall Errno (Buffer × Bool)) = (do
      let block ← UserMemory.fetch ⟨cursor, chunkSize bound buffer.length cursor, .inr inside⟩
      if 0 ∈ block.toList then
        return (⟨buffer.bytes ++ block.toList.takeWhile (· ≠ 0), buffer.reserved⟩, true)
      else
        gather bound next ⟨buffer.bytes ++ block.toList, buffer.reserved⟩) := by
  have within := chunkSize_le_missing bound buffer.length cursor
  have checked := UserRange.check_eq .read cursor (chunkSize bound buffer.length cursor)
  -- A range in user space passes the check.
  rw [dif_pos (.inr inside)] at checked
  rw [gather_checked unfilled (nextChunk_eq_chunkSize cursor unfilled) checked]
  congr 1
  funext block
  -- The chunk and each beginning of it fit into what is reserved.
  have lengthOf : block.toList.length = chunkSize bound buffer.length cursor :=
    block.length_toList
  have first : (block.toList.takeWhile (· ≠ 0)).length ≤ block.toList.length :=
    (List.takeWhile_prefix _).length_le
  have whole : buffer.append block.toList = .ok ⟨buffer.bytes ++ block.toList, buffer.reserved⟩ :=
    Buffer.append_eq_ok small (by omega)
  have part : buffer.append (block.toList.takeWhile (· ≠ 0)) =
      .ok ⟨buffer.bytes ++ block.toList.takeWhile (· ≠ 0), buffer.reserved⟩ :=
    Buffer.append_eq_ok small (by omega)
  rw [part, whole, UserAddr.add?_eq_some_iff.mpr moved]
  rfl

/-- **The loop has a derivation**, provided that the buffer has room for the bound.

The recursion is that of the loop: each round that goes on leaves less to be filled. The buffer
keeps its reservation, so its hypotheses can be used again. -/
theorem gathering (cursor : UserAddr) (buffer : Buffer) (room : bound < buffer.reserved)
    (small : buffer.reserved < wordLimit) (m : μ) :
    Gathering bound cursor buffer m (gather bound cursor buffer m) := by
  by_cases unfilled : buffer.length < bound
  · by_cases inside : InUserSpace cursor (chunkSize bound buffer.length cursor)
    · -- The chunk is in user space, and the memory is asked for it.
      obtain ⟨next, moved⟩ := inside.exists_stop
      rw [gather_inside unfilled inside room small moved, Action.bind_apply,
        UserMemory.fetch_apply]
      rcases answer : UserMemory.copyIn cursor (chunkSize bound buffer.length cursor) m with
        ⟨e | block, m'⟩
      · -- The memory refuses.
        exact .refused unfilled inside answer
      · simp only [mapError_ok, Except.map, Outcome.andThen_ok]
        split
        · rename_i zero
          exact .ended unfilled inside answer zero
        · rename_i noZero
          exact .goesOn unfilled inside answer noZero moved (gathering next
            ⟨buffer.bytes ++ block.toList, buffer.reserved⟩ room small m')
    · -- The chunk is not in user space.
      rw [gather_outside unfilled inside]
      exact .outside unfilled inside
  · -- The buffer is full up to the bound.
    rw [gather_full cursor (Nat.not_lt.mp unfilled)]
    exact .full (Nat.not_lt.mp unfilled)
termination_by bound - buffer.length
decreasing_by
  have pos := chunkSize_pos cursor unfilled
  rw [Buffer.length_extended, block.length_toList]
  omega

/-- There is no zero byte before the first one. -/
theorem zero_notMem_takeWhile (bytes : List UInt8) : 0 ∉ bytes.takeWhile (· ≠ 0) := by
  intro zero
  simpa using List.mem_takeWhile_imp zero

/-- What the loop hands over: a refusal, or bytes without a zero, no more than the bound.

The buffer keeps its size, so that the mark that is put behind the string fits. -/
theorem Gathering.result_cases {cursor : UserAddr} {buffer : Buffer} {m : μ}
    {o : Outcome μ MemoryCall Errno (Buffer × Bool)} (run : Gathering bound cursor buffer m o)
    (fits : buffer.length ≤ bound) (noNul : 0 ∉ buffer.bytes) :
    (∃ e, o.result = .error (.refused e)) ∨
      ∃ gathered found, o.result = .ok (gathered, found) ∧
        gathered.reserved = buffer.reserved ∧ 0 ∉ gathered.bytes ∧ gathered.length ≤ bound := by
  induction run with
  | full => exact .inr ⟨_, false, rfl, rfl, noNul, fits⟩
  | outside => exact .inl ⟨.efault, rfl⟩
  | @refused _ _ _ _ e => exact .inl ⟨e, rfl⟩
  | @ended cursor buffer m m' block unfilled inside answer zero =>
    -- What is added stops before the zero byte, and is no longer than the chunk.
    have within := chunkSize_le_missing bound buffer.length cursor
    have lengthOf := block.length_toList
    have first := (List.takeWhile_prefix (l := block.toList) (· ≠ 0)).length_le
    refine .inr ⟨_, true, rfl, rfl, ?_, ?_⟩
    · rw [List.mem_append, not_or]
      exact ⟨noNul, zero_notMem_takeWhile block.toList⟩
    · rw [Buffer.length_extended]
      omega
  | @goesOn cursor next buffer m m' block rest unfilled inside answer noZero moved run ih =>
    -- What is added has no zero byte, and the next round meets a buffer of the same sort.
    have within := chunkSize_le_missing bound buffer.length cursor
    have lengthOf := block.length_toList
    refine ih ?_ ?_
    · rw [Buffer.length_extended, lengthOf]
      omega
    · rw [List.mem_append, not_or]
      exact ⟨noNul, noZero⟩

/-! ## The copy -/

/-- The outcomes of copying a string in.

The two refusals before the loop leave the memory alone. Behind them stands a run of the loop, from
an empty buffer with one byte more than the bound. -/
inductive CopiesString (c : Conditions) (src : UserAddr) (bound : Nat) (m : μ) :
    Outcome μ MemoryCall Errno KernelString → Prop where
  | boundTooLarge (large : wordLimit ≤ bound + 1) :
      CopiesString c src bound m ⟨.error (.refused .einval), m, []⟩
  | noBuffer (small : bound + 1 < wordLimit) (denied : ¬ Buffer.CanReserve c (bound + 1)) :
      CopiesString c src bound m ⟨.error (.refused .enomem), m, []⟩
  | refused {e : Errno} {m' : μ} {calls : List MemoryCall}
      (granted : Buffer.CanReserve c (bound + 1))
      (run : Gathering bound src ⟨[], bound + 1⟩ m ⟨.error (.refused e), m', calls⟩) :
      CopiesString c src bound m ⟨.error (.refused e), m', calls⟩
  /-- The string is what the loop gathered, and it is truncated if no zero was found. -/
  | copied {s : KernelString} {m' : μ} {calls : List MemoryCall}
      (granted : Buffer.CanReserve c (bound + 1))
      (run : Gathering bound src ⟨[], bound + 1⟩ m
        ⟨.ok (⟨s.bytes, bound + 1⟩, !s.truncated), m', calls⟩) :
      CopiesString c src bound m ⟨.ok s, m', calls⟩

/-- **Outcomes of copying a string in.**

The loop never panics here, as its buffer was reserved for the bound. Nor does what follows it. -/
theorem inString_copies (c : Conditions) (src : UserAddr) (bound : Nat) (m : μ) :
    CopiesString c src bound m (inString c src bound m) := by
  unfold inString
  by_cases small : bound + 1 < wordLimit
  · rw [if_pos small]
    by_cases granted : Buffer.CanReserve c (bound + 1)
    · -- The buffer is there: the copy is a run of the loop, and the mark behind it.
      have run := gathering src ⟨[], bound + 1⟩ (Nat.lt_succ_self bound) small m
      have results := run.result_cases (Nat.zero_le bound) List.not_mem_nil
      rw [Buffer.reserve_of_canReserve granted, pure_bind, Action.bind_apply]
      rcases ended : gather bound src ⟨[], bound + 1⟩ m with ⟨result, m', calls⟩
      rw [ended] at run results
      rcases results with ⟨e, rfl⟩ | ⟨⟨bytes, reserved⟩, found, rfl, same, noNul, fits⟩
      · exact .refused granted run
      · -- The loop has ended with bytes.
        cases same
        -- The mark takes the one byte that was reserved beyond the bound.
        have closed : Buffer.append ⟨bytes, bound + 1⟩ [0] = .ok _ :=
          Buffer.append_eq_ok small (Nat.succ_le_succ fits)
        have copied : CopiesString c src bound m _ :=
          .copied (s := ⟨⟨bytes, noNul⟩, !found⟩) granted (by rwa [Bool.not_not])
        simpa [closed, Terminated.ofBytesWithNul?_append noNul] using copied
    · -- There is no buffer.
      rw [Buffer.reserve_of_not_canReserve granted]
      exact .noBuffer small granted
  · -- The bound and the mark together are no machine word.
    rw [if_neg small]
    exact .boundTooLarge (Nat.not_lt.mp small)

/-- A copy that returns a string has found room for it.

The other outcomes do not return a string. -/
theorem canReserve_of_inString {c : Conditions} {src : UserAddr} {m m' : μ} {s : KernelString}
    {calls : List MemoryCall} (copy : inString c src bound m = ⟨.ok s, m', calls⟩) :
    Buffer.CanReserve c (bound + 1) := by
  have outcome := inString_copies c src bound m
  rw [copy] at outcome
  cases outcome with
  | copied granted => exact granted

end Copy

end SyscallGate
