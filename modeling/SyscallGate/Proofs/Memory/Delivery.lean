import SyscallGate.Proofs.Memory.Strings

/-!
# The bytes that reach a string copy

A string copy, seen from its uses of user memory. The reads follow one another without a gap, and
the string is what they handed over, up to the first zero byte. Nothing is assumed of the memory: it
may refuse any read, and it may change between two of them.

## Main definitions

- `MemoryCall.received`: the bytes that uses of user memory handed to the kernel.
- `ReadsOn`: reads one behind the other, from an address on.
- `Copy.ReceivesString`: a string is what the reads of a copy handed over.

## Main results

- `Copy.Gathering.receives`: what the loop makes of the bytes that it receives.
- `Copy.inString_receives`, `Copy.inString_refused_receives`: what a string copy makes of them.
- `Copy.inString_afterReads`: a string copy changes user memory only as reads do.
-/

namespace SyscallGate

/-! ## Reads -/

/-- The bytes that a use of user memory handed to the kernel.

A read that was refused handed over nothing, and neither does a write. -/
def MemoryCall.handed : MemoryCall → List UInt8
  | .copyIn _ _ (.ok bytes) => bytes
  | .copyIn _ _ (.error _) => []
  | .copyOut .. => []

/-- The bytes that uses of user memory handed to the kernel, one after the other. -/
def MemoryCall.received (calls : List MemoryCall) : List UInt8 := calls.flatMap handed

@[simp] theorem MemoryCall.received_nil : received [] = [] := rfl

@[simp] theorem MemoryCall.received_read (src : UserAddr) (len : Nat) (bytes : List UInt8)
    (rest : List MemoryCall) :
    received (.copyIn src len (.ok bytes) :: rest) = bytes ++ received rest := rfl

@[simp] theorem MemoryCall.received_failed (src : UserAddr) (len : Nat) (e : Errno)
    (rest : List MemoryCall) :
    received (.copyIn src len (.error e) :: rest) = received rest := rfl

/-- Reads one behind the other, from an address on, of which only the last one may have failed.

The addresses are numbers, so "behind" is a matter of addition. A read that was answered brought as
many bytes as it asked for. -/
inductive ReadsOn : Nat → List MemoryCall → Prop where
  | none (start : Nat) : ReadsOn start []
  | failed (src : UserAddr) (len : Nat) (e : Errno) :
      ReadsOn src.toNat [.copyIn src len (.error e)]
  | read {src : UserAddr} {bytes : List UInt8} {rest : List MemoryCall}
      (later : ReadsOn (src.toNat + bytes.length) rest) :
      ReadsOn src.toNat (.copyIn src bytes.length (.ok bytes) :: rest)

namespace Copy

variable {μ : Type} [UserMemory μ] {bound : Nat}

open MemoryCall (received)

/-! ## The loop -/

/-- The loop changes user memory only as its reads do.

The loop makes no writes. What a read does to the memory is up to the memory. -/
theorem Gathering.afterReads {cursor : UserAddr} {buffer : Buffer} {m : μ}
    {o : Outcome μ MemoryCall Errno (Buffer × Bool)} (run : Gathering bound cursor buffer m o) :
    UserMemory.AfterReads m o.state := by
  induction run with
  | full => exact .none
  | outside => exact .none
  | refused _ _ answer => exact .of_copyIn answer
  | ended _ _ answer => exact .of_copyIn answer
  | goesOn _ _ answer _ _ _ ih => exact (UserMemory.AfterReads.of_copyIn answer).trans ih

/-- What a run of the loop makes of the bytes that it received.

The loop is taken from the middle, with a buffer that holds something already, so that an induction
can go through its rounds. -/
structure Receives (bound : Nat) (cursor : UserAddr) (buffer : Buffer)
    (o : Outcome μ MemoryCall Errno (Buffer × Bool)) : Prop where
  reads : ReadsOn cursor.toNat o.events
  /-- The bytes before the first zero byte are added to the buffer. -/
  gathered : ∀ longer found, o.result = .ok (longer, found) →
    longer.bytes = buffer.bytes ++ (received o.events).takeWhile (· ≠ 0) ∧
      (found = true ↔ 0 ∈ received o.events)
  /-- Without a zero byte, the loop receives as many bytes as are missing. -/
  full : ∀ longer, o.result = .ok (longer, false) →
    buffer.length + (received o.events).length = bound
  within : buffer.length + (received o.events).length ≤ bound
  /-- A refusal comes before the first zero byte, and before the bound. -/
  refused : ∀ halt, o.result = .error halt →
    0 ∉ received o.events ∧ buffer.length + (received o.events).length < bound

/-- **A run of the loop gathers the bytes that it receives.**

The memory may change between two reads, so nothing is said of what it holds; it is the bytes that
arrived which count. -/
theorem Gathering.receives {cursor : UserAddr} {buffer : Buffer} {m : μ}
    {o : Outcome μ MemoryCall Errno (Buffer × Bool)} (run : Gathering bound cursor buffer m o)
    (fits : buffer.length ≤ bound) : Receives bound cursor buffer o := by
  -- Induction on the derivation. The bytes of a round stand before those of the rounds behind it.
  induction run with
  | @full cursor buffer m full =>
    -- Nothing is received, and nothing is missing.
    refine ⟨.none _, ?_, ?_, by simpa using fits, nofun⟩
    · rintro longer found ⟨⟩
      simp
    · rintro longer ⟨⟩
      simpa using Nat.le_antisymm fits full
  | @outside cursor buffer m unfilled outside =>
    -- The fault comes before any byte.
    exact ⟨.none _, nofun, nofun, by simpa using fits, fun _ _ => by simpa using unfilled⟩
  | @refused cursor buffer m m' e unfilled inside answer =>
    exact ⟨.failed _ _ _, nofun, nofun, by simpa using fits, fun _ _ => by simpa using unfilled⟩
  | @ended cursor buffer m m' block unfilled inside answer zero =>
    -- One chunk is received, with the first zero byte in it.
    have within := chunkSize_le_missing bound buffer.length cursor
    have lengthOf := block.length_toList
    have read : ReadsOn cursor.toNat [.copyIn cursor block.toList.length (.ok block.toList)] :=
      .read (.none _)
    rw [lengthOf] at read
    refine ⟨read, ?_, nofun, ?_, nofun⟩
    · rintro longer found ⟨⟩
      simpa using zero
    · simp only [MemoryCall.received_read, MemoryCall.received_nil, List.append_nil, lengthOf]
      omega
  | @goesOn cursor next buffer m m' block rest unfilled inside answer noZero moved run ih =>
    -- One chunk is received without a zero byte, and then what the other rounds receive.
    have within := chunkSize_le_missing bound buffer.length cursor
    have lengthOf := block.length_toList
    have longerLength := buffer.length_extended block.toList
    have later := ih (by omega)
    have read : ReadsOn cursor.toNat
        (.copyIn cursor block.toList.length (.ok block.toList) :: rest.events) :=
      .read (by rw [lengthOf, ← moved]; exact later.reads)
    rw [lengthOf] at read
    -- The chunk has no zero byte, so the first one is among the bytes that follow.
    have nonzero : ∀ byte ∈ block.toList, decide (byte ≠ 0) = true := by
      intro byte inBlock
      exact decide_eq_true fun zero => noZero (zero ▸ inBlock)
    have all : received (rest.after
        [.copyIn cursor (chunkSize bound buffer.length cursor) (.ok block.toList)]).events =
          block.toList ++ received rest.events := rfl
    refine ⟨read, ?_, ?_, ?_, ?_⟩
    · -- The bytes before the first zero byte are the chunk, and those that follow it before that
      -- byte.
      intro longer found ended
      obtain ⟨bytes, zero⟩ := later.gathered longer found ended
      rw [all, List.takeWhile_append_of_pos nonzero, bytes, List.append_assoc, List.mem_append]
      exact ⟨rfl, zero.trans (or_iff_right noZero).symm⟩
    · -- Without a zero byte, the other rounds fill what is missing behind the chunk.
      intro longer ended
      have filled := later.full longer ended
      rw [all, List.length_append]
      omega
    · have filled := later.within
      rw [all, List.length_append]
      omega
    · -- A refusal of a later round comes before its zero byte and its bound.
      intro halt ended
      obtain ⟨noZeroLater, unfilledLater⟩ := later.refused halt ended
      rw [all, List.mem_append, List.length_append]
      exact ⟨not_or.mpr ⟨noZero, noZeroLater⟩, by omega⟩

/-! ## The copy -/

/-- A string is what the reads of a copy handed over, up to the first zero byte.

It holds of any memory, so it is what results about opening a file rest on. -/
structure ReceivesString (src : UserAddr) (bound : Nat) (calls : List MemoryCall)
    (s : KernelString) : Prop where
  reads : ReadsOn src.toNat calls
  bytes : s.bytes = (received calls).takeWhile (· ≠ 0)
  truncated_iff : s.truncated = true ↔ 0 ∉ received calls
  /-- A string is cut only if the copy received as many bytes as the bound allows. -/
  full : s.truncated = true → (received calls).length = bound
  within : (received calls).length ≤ bound

/-- **A string copy returns the bytes that it receives.**

The loop begins with an empty buffer, so all that is in it has been received. -/
theorem inString_receives {c : Conditions} {src : UserAddr} {m m' : μ} {s : KernelString}
    {calls : List MemoryCall} (copy : inString c src bound m = ⟨.ok s, m', calls⟩) :
    ReceivesString src bound calls s := by
  have outcome := inString_copies c src bound m
  rw [copy] at outcome
  cases outcome with
  | copied _ run =>
    have receives := run.receives (Nat.zero_le bound)
    obtain ⟨bytes, found⟩ := receives.gathered _ _ rfl
    have within := receives.within
    simp only [Buffer.length, List.length_nil, Nat.zero_add] at within
    refine ⟨receives.reads, by simpa using bytes, ?_, ?_, within⟩
    · -- The string was cut if the loop found no zero byte.
      rw [← found]
      simp
    · -- A string that was cut has the length of the bound.
      intro cut
      have full := receives.full ⟨s.bytes, bound + 1⟩ (by rw [cut]; rfl)
      simpa only [Buffer.length, List.length_nil, Nat.zero_add] using full

/-- A string copy is refused before it has received a zero byte, and before the bound.

A bound of zero is excluded, because the copy is then at its bound at once and is not refused by the
loop. -/
theorem inString_refused_receives {c : Conditions} {src : UserAddr} {m m' : μ} {halt : Halt Errno}
    {calls : List MemoryCall} (copy : inString c src bound m = ⟨.error halt, m', calls⟩)
    (pos : 0 < bound) :
    ReadsOn src.toNat calls ∧ 0 ∉ received calls ∧ (received calls).length < bound := by
  have outcome := inString_copies c src bound m
  rw [copy] at outcome
  cases outcome with
  -- The two refusals before the loop come before any read.
  | boundTooLarge => exact ⟨.none _, by simp, by simpa using pos⟩
  | noBuffer => exact ⟨.none _, by simp, by simpa using pos⟩
  | refused _ run =>
    have receives := run.receives (Nat.zero_le bound)
    obtain ⟨noZero, unfilled⟩ := receives.refused _ rfl
    simp only [Buffer.length, List.length_nil, Nat.zero_add] at unfilled
    exact ⟨receives.reads, noZero, unfilled⟩

/-- **A string copy changes user memory only as reads do.**

It holds whatever the outcome is, so also for a copy that is refused in the middle. -/
theorem inString_afterReads (c : Conditions) (src : UserAddr) (bound : Nat) (m : μ) :
    UserMemory.AfterReads m (inString c src bound m).state := by
  have outcome := inString_copies c src bound m
  generalize inString c src bound m = o at outcome
  cases outcome with
  | boundTooLarge => exact .none
  | noBuffer => exact .none
  | refused _ run => exact run.afterReads
  | copied _ run => exact run.afterReads

end Copy

end SyscallGate
