import SyscallGate.Proofs.Memory.Copying
import SyscallGate.Proofs.Memory.Gathering
import SyscallGate.Proofs.Returns

/-!
# The rounds of a string copy

The loop that copies a string in, round by round. A round that does not end the loop leads to the
next one (`Round.Next`), and what the loop does from a round is what that round reads, followed by
what the loop does from the next (`Round.loop_next`). Along the way the buffer stays within what was
reserved, and grows by at least one byte in each round. So the subtractions that choose a chunk
never underflow, and the loop ends.

## Main definitions

- `Round`: where the loop stands when a round begins.
- `Round.Next`, `Round.Reaches`: one round, and a number of rounds.
- `Round.Sound`, `Round.ChoosesChunk`: what holds at the beginning of a round.

## Main results

- `Round.reaches_sound`: every round that the loop reaches is sound.
- `Copy.inString_returns`, `Copy.inBytes_returns`, `Copy.outBytes_returns`: no copy panics.
-/

namespace SyscallGate

/-- Where the loop stands when a round begins.

It is the state that the loop carries from one round to the next, as one value. -/
structure Round (μ : Type) where
  cursor : UserAddr
  buffer : Buffer
  memory : μ

namespace Round

variable {μ : Type} [UserMemory μ] {bound : Nat} {start r r' : Round μ} {call : MemoryCall}

/-- The loop from this round on.

A round is a place in the loop, so the loop from there on is a run of its own. -/
def loop (bound : Nat) (r : Round μ) : Outcome μ MemoryCall Errno (Buffer × Bool) :=
  Copy.gather bound r.cursor r.buffer r.memory

/-- A round that does not end the loop, with the chunk it reads.

The premises are what the loop computes and checks in this round, in its order, with the outcome
that lets it go on. No bound on the buffer is assumed. -/
inductive Next (bound : Nat) : Round μ → MemoryCall → Round μ → Prop where
  | intro {cursor next : UserAddr} {buffer longer : Buffer} {m m' : μ} {chunk : Nat}
      {range : UserRange .read} {block : Vector UInt8 range.len}
      (unfilled : buffer.length < bound)
      (chosen : Copy.nextChunk bound buffer.length cursor = .ok chunk)
      (checked : UserRange.check .read cursor chunk = .ok range)
      (answer : UserMemory.copyIn range.addr range.len m = (.ok block, m'))
      (noZero : 0 ∉ block.toList) (filled : buffer.append block.toList = .ok longer)
      (moved : cursor.add? chunk = some next) :
      Next bound ⟨cursor, buffer, m⟩ (.copyIn range.addr range.len (.ok block.toList))
        ⟨next, longer, m'⟩

/-- The rounds that the loop reaches, with the chunks that were read on the way.

The chunks are listed first to last, so their number is the number of rounds. -/
inductive Reaches (bound : Nat) (start : Round μ) : List MemoryCall → Round μ → Prop where
  | start : Reaches bound start [] start
  | next {calls : List MemoryCall} {call : MemoryCall} {r r' : Round μ}
      (before : Reaches bound start calls r) (step : Next bound r call r') :
      Reaches bound start (calls ++ [call]) r'

/-- The loop goes on with the next round.

What this round contributes is its one read. -/
theorem loop_next (step : Next bound r call r') : r.loop bound = (r'.loop bound).after [call] := by
  cases step with
  | @intro cursor next buffer longer m m' chunk range block unfilled chosen checked answer noZero
      filled moved =>
    change Copy.gather bound cursor buffer m = (Copy.gather bound next longer m').after _
    rw [Copy.gather_checked unfilled chosen checked, Action.bind_apply, UserMemory.fetch_apply,
      answer]
    simp only [mapError_ok, Except.map, Outcome.andThen_ok, if_neg noZero, filled, moved]

/-- There are no other rounds: if no next one follows, the loop ends with at most one read.

With `loop_next` this says that the rounds make up the loop: as long as there is a next round, the
loop is that round and the rest. -/
theorem next_or_ends (r : Round μ) :
    (∃ call r', Next bound r call r') ∨ (r.loop bound).events.length ≤ 1 := by
  -- If the loop does not go on, it is looked at branch by branch.
  by_cases follows : ∃ call r', Next bound r call r'
  · exact .inl follows
  refine .inr ?_
  obtain ⟨cursor, buffer, m⟩ := r
  change (Copy.gather bound cursor buffer m).events.length ≤ 1
  by_cases unfilled : buffer.length < bound
  · by_cases inside : InUserSpace cursor (Copy.chunkSize bound buffer.length cursor)
    · have chosen := Copy.nextChunk_eq_chunkSize cursor unfilled
      have checked := UserRange.check_eq .read cursor (Copy.chunkSize bound buffer.length cursor)
      rw [dif_pos (.inr inside)] at checked
      rw [Copy.gather_checked unfilled chosen checked, Action.bind_apply, UserMemory.fetch_apply]
      rcases answer : UserMemory.copyIn cursor (Copy.chunkSize bound buffer.length cursor) m with
        ⟨e | block, m'⟩
      · -- The read is refused.
        exact Nat.le_refl 1
      -- The read was answered, and is the only one unless the chunk leads to a next round.
      · simp only [mapError_ok, Outcome.andThen_ok]
        split
        · -- The chunk holds a zero byte, and the loop ends behind it.
          cases buffer.append (block.toList.takeWhile (· ≠ 0)) <;> exact Nat.le_refl 1
        · rename_i noZero
          cases filled : buffer.append block.toList with
          | error cause => exact Nat.le_refl 1
          | ok longer =>
            cases moved : cursor.add? (Copy.chunkSize bound buffer.length cursor) with
            | none => exact Nat.le_refl 1
            | some next =>
              exact absurd ⟨_, _, .intro unfilled chosen checked answer noZero filled moved⟩ follows
    · -- There is no read: the chunk is not in user space.
      rw [Copy.gather_outside unfilled inside]
      exact Nat.zero_le 1
  · -- There is no read: the bound is reached.
    rw [Copy.gather_full cursor (Nat.not_lt.mp unfilled)]
    exact Nat.zero_le 1

/-- What holds at the beginning of a round, after a number of rounds.

The second part bounds the buffer, and the third one bounds the number of rounds by it. Together
they say that the loop ends. -/
structure Sound (bound rounds : Nat) (r : Round μ) : Prop where
  /-- The buffer is the one that was reserved, for the bound and the closing mark. -/
  reserved : r.buffer.reserved = bound + 1
  held : r.buffer.length ≤ bound
  /-- Every round copied at least one byte. -/
  progress : rounds ≤ r.buffer.length

/-- A round keeps what holds at its beginning, with one round more and at least one byte more. -/
theorem Next.sound {rounds : Nat} (step : Next bound r call r') (sound : Sound bound rounds r) :
    Sound bound (rounds + 1) r' := by
  cases step with
  | @intro cursor next buffer longer m m' chunk range block unfilled chosen checked answer noZero
      filled moved =>
    -- The chunk is not empty and does not go beyond the bound, and the buffer grows by the chunk.
    have pos := Copy.nextChunk_pos unfilled chosen
    have len := (UserRange.check_addr_len checked).2
    have grown := Buffer.length_of_append filled
    have progress := sound.progress
    rw [Copy.nextChunk_eq cursor unfilled] at chosen
    cases chosen
    rw [Vector.length_toList] at grown
    refine ⟨(Buffer.bytes_of_append filled).2.trans sound.reserved, ?_, ?_⟩
    · simp only at progress ⊢
      omega
    · simp only at progress ⊢
      omega

/-- What the loop does from a round, seen from the round it started with.

By induction on the rounds, with one step of the loop for each. -/
theorem Reaches.loop_eq {calls : List MemoryCall} (run : Reaches bound start calls r) :
    start.loop bound = (r.loop bound).after calls := by
  induction run with
  | start => rfl
  | next before step ih => rw [ih, loop_next step, Outcome.after_after]

/-- **Every round of the loop is sound**: the buffer is within its reservation, and there were no
more rounds than it holds bytes.

The first round begins with an empty buffer, and each round keeps the invariant. -/
theorem reaches_sound {src : UserAddr} {m : μ} {calls : List MemoryCall}
    (run : Reaches bound ⟨src, ⟨[], bound + 1⟩, m⟩ calls r) : Sound bound calls.length r := by
  induction run with
  | start => exact ⟨rfl, Nat.zero_le bound, Nat.le_refl 0⟩
  | next before step ih =>
    rw [List.length_append]
    exact step.sound ih

/-- A round chooses its chunk without an underflow; as long as the bound is not reached, the chunk
is not empty, and fits.

These are the two subtractions of a round, and the number that comes out of them. -/
structure ChoosesChunk (bound : Nat) (r : Round μ) : Prop where
  missing : Checked.sub bound r.buffer.length = .ok (bound - r.buffer.length)
  toPageEnd : r.cursor.bytesToPageEnd = .ok (pageSize - r.cursor.toNat % pageSize)
  chunk (unfilled : r.buffer.length < bound) :
    ∃ chunk, Copy.nextChunk bound r.buffer.length r.cursor = .ok chunk ∧ 0 < chunk ∧
      r.buffer.length + chunk ≤ bound

omit [UserMemory μ] in
/-- The bound of the invariant is what the subtractions need. -/
theorem Sound.choosesChunk {rounds : Nat} (sound : Sound bound rounds r) :
    ChoosesChunk bound r where
  missing := Checked.sub_eq_ok sound.held
  toPageEnd := r.cursor.bytesToPageEnd_eq
  chunk unfilled := by
    have within := Copy.chunkSize_le_missing bound r.buffer.length r.cursor
    exact ⟨_, Copy.nextChunk_eq_chunkSize r.cursor unfilled, Copy.chunkSize_pos r.cursor unfilled,
      by omega⟩

end Round

namespace Copy

variable {μ : Type} [UserMemory μ]

/-! ## The bound of a string copy -/

/-- The loop reads at most once for each byte that is missing.

Every read is one byte of progress at least, and the last read may be one that brings nothing. -/
theorem Gathering.length_events_le {bound : Nat} {cursor : UserAddr} {buffer : Buffer} {m : μ}
    {o : Outcome μ MemoryCall Errno (Buffer × Bool)} (run : Gathering bound cursor buffer m o)
    (fits : buffer.length ≤ bound) : o.events.length + buffer.length ≤ bound := by
  induction run with
  | full | outside =>
    -- There is no read, and nothing to show for it.
    rw [List.length_nil, Nat.zero_add]
    exact fits
  | refused unfilled | ended unfilled =>
    -- There is one read, and at least one byte is missing.
    rw [List.length_singleton, Nat.add_comm]
    exact unfilled
  | @goesOn cursor next buffer m m' block rest unfilled inside answer noZero moved run ih =>
    -- One read, with at least one byte, and the reads of the rounds behind it.
    have within := chunkSize_le_missing bound buffer.length cursor
    have pos := chunkSize_pos cursor unfilled
    rw [Buffer.length_extended, block.length_toList] at ih
    have left := ih (by omega)
    simp only [Outcome.after, List.length_append, List.length_singleton]
    omega

/-- A string copy makes no more reads than its bound has bytes.

In the two refusals before the loop there are none. -/
theorem inString_length_events_le (c : Conditions) (src : UserAddr) (bound : Nat) (m : μ) :
    (inString c src bound m).events.length ≤ bound := by
  have outcome := inString_copies c src bound m
  generalize inString c src bound m = o at outcome
  cases outcome with
  | boundTooLarge | noBuffer => exact Nat.zero_le bound
  | refused granted run | copied granted run => exact run.length_events_le (Nat.zero_le bound)

/-- With its closing mark, a copied string is no longer than the buffer that was reserved.

The mark takes the byte that was reserved beyond the bound. -/
theorem inString_length_le {c : Conditions} {src : UserAddr} {bound : Nat} {m : μ}
    {s : KernelString} (copied : (inString c src bound m).result = .ok s) :
    s.text.withNul.length ≤ bound + 1 := by
  have outcome := inString_copies c src bound m
  generalize inString c src bound m = o at outcome copied
  cases outcome with
  | boundTooLarge | noBuffer | refused => cases copied
  | @copied t m' calls granted run =>
    cases copied
    rcases run.result_cases (Nat.zero_le bound) List.not_mem_nil with
      ⟨e, refused⟩ | ⟨gathered, found, same, -, -, fits⟩
    · cases refused
    · cases same
      rw [Terminated.withNul, List.length_append]
      exact Nat.succ_le_succ fits

/-! ## Copies return -/

/-- A string copy ends with a string or a refusal, as its outcomes do. -/
theorem inString_returns (c : Conditions) (src : UserAddr) (bound : Nat) (m : μ) :
    (inString c src bound m).Returns := by
  have outcome := inString_copies c src bound m
  generalize inString c src bound m = o at outcome
  cases outcome with
  | boundTooLarge | noBuffer | refused => exact .of_refused rfl
  | copied => exact .of_ok rfl

/-- A copy of bytes in ends with the answer of the memory, or with a refusal of its own. -/
theorem inBytes_returns (src : UserAddr) (len : Nat) (m : μ) : (inBytes src len m).Returns := by
  obtain ⟨answer, memory, calls, copied⟩ := inBytes_answers src len m
  exact ⟨answer, by rw [copied]⟩

/-- So does a copy of bytes out. -/
theorem outBytes_returns (bytes : List UInt8) (dst : UserAddr) (m : μ) :
    (outBytes bytes dst m).Returns := by
  obtain ⟨answer, memory, calls, copied⟩ := outBytes_answers bytes dst m
  exact ⟨answer, by rw [copied]⟩

end Copy

end SyscallGate
