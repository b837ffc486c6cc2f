import Mathlib.Data.List.Chain
import SyscallGate.Memory.Regions
import SyscallGate.Proofs.Memory.Copying
import SyscallGate.Proofs.Memory.Strings

/-!
# The order of the reads of a string copy

The reads of a string copy sweep over user memory: each one begins where the one before it ended, at
the beginning of a page, and none follows a read that was refused or that met a zero byte. So no
byte is read twice, no page is visited twice, and nothing is read beyond the page that holds the end
of the string. The reads and their answers decide how the copy ends. Nothing is assumed of the
memory.

## Main definitions

- `MemoryCall.LeadsTo`: one read begins where another passed.
- `UserMemory.NeverAnswers`: reads are never refused with a given reason.
- `Copy.Sweep`: reads that follow one another through the pages.
- `Copy.SweepEnds`: how a copy ends after its reads.
- `Copy.ReadsInOrder`: everything that a string copy may do to user memory.

## Main results

- `Copy.Sweep.pairwise`: a sweep comes back neither to a byte nor to a page.
- `Copy.SweepEnds.unique`: the reads and their answers decide how a copy ends.
- `Copy.inString_readsInOrder`: a string copy reads in order.
-/

namespace SyscallGate

namespace MemoryCall

/-- The address behind what a use of user memory asks for.

It is a number, so it can be the limit of user space, which is no user address. -/
def stop (call : MemoryCall) : Nat := call.addr.toNat + call.length

/-- The page in which a use of user memory begins. -/
def page (call : MemoryCall) : Nat := call.addr.toNat / pageSize

/-- How many bytes uses of user memory ask for.

Whether they were answered does not matter, so this is how far the copy has tried to get. -/
def asked : List MemoryCall → Nat
  | [] => 0
  | call :: later => call.length + asked later

theorem asked_nil : asked [] = 0 := rfl

theorem asked_cons (call : MemoryCall) (later : List MemoryCall) :
    asked (call :: later) = call.length + asked later := rfl

/-- A read that was answered, with bytes other than zero only.

Such a read leaves the copy where it was, except that it has more bytes. It is the only kind of read
that another read may follow. -/
inductive Passed : MemoryCall → Prop where
  | intro {src : UserAddr} {len : Nat} {bytes : List UInt8} (noZero : 0 ∉ bytes) :
      Passed (.copyIn src len (.ok bytes))

theorem not_passed_of_error {src : UserAddr} {len : Nat} {e : Errno} :
    ¬ Passed (.copyIn src len (.error e)) := nofun

theorem not_passed_of_zero {src : UserAddr} {len : Nat} {bytes : List UInt8} (zero : 0 ∈ bytes) :
    ¬ Passed (.copyIn src len (.ok bytes)) := by
  rintro ⟨noZero⟩
  exact noZero zero

/-- The first read passed, and the second one begins where it ended, at the beginning of a page.

A read that stops short of the end of its page has found the bound, and no read comes behind it. -/
structure LeadsTo (call next : MemoryCall) : Prop where
  passed : call.Passed
  adjacent : next.addr.toNat = call.stop
  aligned : pageSize ∣ call.stop

/-- The second use is behind the first one, and in a later page.

Being behind in bytes does not imply being in a later page, so both are said. -/
structure Before (earlier later : MemoryCall) : Prop where
  apart : earlier.stop ≤ later.addr.toNat
  page_lt : earlier.page < later.page

theorem Before.trans {first second third : MemoryCall} (h : Before first second)
    (h' : Before second third) : Before first third := by
  refine ⟨?_, Nat.lt_trans h.page_lt h'.page_lt⟩
  calc first.stop ≤ second.addr.toNat := h.apart
    _ ≤ second.stop := Nat.le_add_right _ _
    _ ≤ third.addr.toNat := h'.apart

instance : Trans Before Before Before := ⟨Before.trans⟩

/-- A read that leads to another one is before it, if it asks for something. -/
theorem LeadsTo.before {call next : MemoryCall} (leads : LeadsTo call next)
    (filled : 0 < call.length) : Before call next := by
  refine ⟨Nat.le_of_eq leads.adjacent.symm, ?_⟩
  -- The first read ends with a page. It began before that end, so its page is an earlier one.
  obtain ⟨page, stop⟩ := leads.aligned
  have adjacent := leads.adjacent
  unfold MemoryCall.page
  unfold MemoryCall.stop at stop adjacent
  rw [adjacent, stop, Nat.mul_div_cancel_left page (by decide),
    Nat.div_lt_iff_lt_mul (by decide), Nat.mul_comm]
  omega

end MemoryCall

/-- Reads are never refused with a given reason, whatever was read before.

What is read before may have changed the memory, so the condition is about all memories that reads
can leave. -/
def UserMemory.NeverAnswers {μ : Type} [UserMemory μ] (e : Errno) (m : μ) : Prop :=
  ∀ m', AfterReads m m' → ∀ (src : UserAddr) (len : Nat), (copyIn src len m').1 ≠ .error e

namespace Copy

open MemoryCall (asked not_passed_of_error not_passed_of_zero)

/-! ## Sweeps -/

/-- Reads that follow one another through the pages, for at most a number of bytes.

Chunks stay in a page and in user space. The sizes are those that the bound and the page ask for, so
a sweep is determined by its beginning and the number of its reads. -/
structure Sweep (src : UserAddr) (bound : Nat) (calls : List MemoryCall) : Prop where
  first : ∀ call ∈ calls.head?, call.addr = src
  chunks : ∀ call ∈ calls, Chunk call
  chain : calls.IsChain MemoryCall.LeadsTo
  within : asked calls ≤ bound
  /-- Each read asks for as many bytes as are missing, or as are left in the page. -/
  sizes : ∀ before call after, calls = before ++ call :: after →
    call.length = chunkSize bound (asked before) call.addr

/-- How a copy ends after its reads: with a refusal, or with a string that may be truncated. The
cases exclude one another.

What the string holds does not show here, only whether it was cut: the reads say where and how the
copy stopped. -/
inductive SweepEnds (src : UserAddr) (bound : Nat) (calls : List MemoryCall) :
    Except (Halt Errno) Bool → Prop where
  /-- The last read was refused. -/
  | refused {addr : UserAddr} {len : Nat} {e : Errno}
      (last : calls.getLast? = some (.copyIn addr len (.error e))) :
      SweepEnds src bound calls (.error (.refused e))
  /-- The last read met a zero byte. -/
  | ended {addr : UserAddr} {len : Nat} {bytes : List UInt8}
      (last : calls.getLast? = some (.copyIn addr len (.ok bytes))) (zero : 0 ∈ bytes) :
      SweepEnds src bound calls (.ok false)
  /-- All reads passed, and the bound is reached. -/
  | full (passed : ∀ call ∈ calls, call.Passed) (all : asked calls = bound) :
      SweepEnds src bound calls (.ok true)
  /-- All reads passed, and what would be read next is not in user space. -/
  | outside {next : UserAddr} (passed : ∀ call ∈ calls, call.Passed)
      (unfilled : asked calls < bound) (place : next.toNat = src.toNat + asked calls)
      (outside : ¬ InUserSpace next (chunkSize bound (asked calls) next)) :
      SweepEnds src bound calls (.error (.refused .efault))

variable {src next : UserAddr} {bound : Nat} {call : MemoryCall} {calls later : List MemoryCall}

/-- Bytes that are there already are bytes fewer to ask for.

The loop counts what it holds against the whole bound, and a sweep counts what is left of it. -/
theorem chunkSize_sub (bound taken held : Nat) (cursor : UserAddr) :
    chunkSize (bound - taken) held cursor = chunkSize bound (taken + held) cursor := by
  rw [chunkSize, chunkSize, Nat.sub_sub]

theorem Sweep.nil (src : UserAddr) (bound : Nat) : Sweep src bound [] :=
  ⟨nofun, nofun, .nil, Nat.zero_le bound, by simp⟩

/-- If a read does not reach the bound, its page ends with it.

The size of a read is the smaller one of what is missing and what is left in the page. -/
theorem aligned_of_missing (start : call.addr = src) (size : call.length = chunkSize bound 0 src)
    (missing : 0 < bound - call.length) : pageSize ∣ call.stop := by
  have inPage := Nat.mod_lt src.toNat (show 0 < pageSize by decide)
  have toPageEnd : call.length = pageSize - src.toNat % pageSize := by
    unfold chunkSize at size
    omega
  unfold MemoryCall.stop
  rw [start, toPageEnd]
  unfold pageSize
  omega

/-- A sweep, with one read before it.

This is the step of the induction. Behind the read stand the reads of a sweep that begins where it
ended, and if there are any, the read has passed. -/
theorem Sweep.cons (start : call.addr = src) (chunk : Chunk call)
    (size : call.length = chunkSize bound 0 src)
    (leads : later ≠ [] → call.Passed ∧ next.toNat = call.stop)
    (rest : Sweep next (bound - call.length) later) : Sweep src bound (call :: later) := by
  have within := chunkSize_le_missing bound 0 src
  refine ⟨by simp [start], ?_, ?_, ?_, ?_⟩
  · -- Chunks: the first read is one, and so are the others.
    rintro other (_ | ⟨_, inLater⟩)
    · exact chunk
    · exact rest.chunks other inLater
  · -- Each read leads to the next one; the first of the others begins behind the new one.
    rw [List.isChain_cons]
    refine ⟨fun second isHead => ?_, rest.chain⟩
    obtain ⟨passed, place⟩ := leads (by rintro rfl; cases isHead)
    refine ⟨passed, by rw [rest.first second isHead, place], ?_⟩
    -- The next read asks for something, so the bound is not reached.
    have filled := (rest.chunks second (List.mem_of_mem_head? isHead)).2.1.1
    have total := rest.within
    obtain ⟨others, rfl⟩ := List.head?_eq_some_iff.mp isHead
    rw [MemoryCall.asked_cons] at total
    exact aligned_of_missing start size (by omega)
  · -- Together they ask for no more than the bound.
    have total := rest.within
    rw [MemoryCall.asked_cons]
    omega
  · -- Sizes: the read in question is the new one, or it has one read more before it.
    intro before other after same
    rcases List.cons_eq_append_iff.mp same with ⟨rfl, tail⟩ | ⟨front, rfl, tail⟩
    · cases tail
      rw [size, start, MemoryCall.asked_nil]
    · rw [rest.sizes front other after tail, chunkSize_sub, MemoryCall.asked_cons]

/-- **A sweep does not come back**, neither to a byte nor to a page.

Being before is transitive, so it is enough to look at neighbours. -/
theorem Sweep.pairwise (sweep : Sweep src bound calls) : calls.Pairwise MemoryCall.Before :=
  (sweep.chain.imp_of_mem_imp fun call _ inCalls _ leads =>
    leads.before (sweep.chunks call inCalls).2.1.1).pairwise

/-- A sweep stops at a read that did not pass.

The read is at the end, or another one would follow it. -/
theorem Sweep.stops (sweep : Sweep src bound calls) (inCalls : call ∈ calls)
    (stopped : ¬ call.Passed) {other : MemoryCall} (another : other ∈ calls) :
    other = call ∨ other.Before call := by
  obtain ⟨earlier, after, rfl⟩ := List.append_of_mem inCalls
  cases after with
  | nil =>
    -- The read is the last one, and all others are before it.
    rcases List.mem_append.mp another with before | last
    · exact .inr ((List.pairwise_append.mp sweep.pairwise).2.2 other before call (by simp))
    · exact .inl (List.mem_singleton.mp last)
  | cons next others =>
    -- Another read follows, which is only possible if this one passed.
    have leads := (List.isChain_cons_cons.mp sweep.chain.right_of_append).1
    exact absurd leads.passed stopped

/-- The reads and their answers decide how a copy ends.

There are four cases. Any two of them are told apart by the last read or by the number of bytes. -/
theorem SweepEnds.unique {ending ending' : Except (Halt Errno) Bool}
    (h : SweepEnds src bound calls ending) (h' : SweepEnds src bound calls ending') :
    ending = ending' := by
  -- The last read tells whether there was a refusal or a zero byte. If all reads passed, it depends
  -- on how many bytes they asked for.
  have stuck {stopped : MemoryCall} (last : calls.getLast? = some stopped)
      (notPassed : ¬ stopped.Passed) : ¬ ∀ call ∈ calls, call.Passed :=
    fun passed => notPassed (passed stopped (List.mem_of_getLast? last))
  cases h with
  | refused last =>
    cases h' with
    | refused last' =>
      cases last.symm.trans last'
      rfl
    | ended last' => cases last.symm.trans last'
    | full passed | outside passed => exact absurd passed (stuck last not_passed_of_error)
  | ended last zero =>
    cases h' with
    | refused last' => cases last.symm.trans last'
    | ended => rfl
    | full passed | outside passed => exact absurd passed (stuck last (not_passed_of_zero zero))
  | full passed all =>
    cases h' with
    | refused last => exact absurd passed (stuck last not_passed_of_error)
    | ended last zero => exact absurd passed (stuck last (not_passed_of_zero zero))
    | full => rfl
    | outside _ unfilled => omega
  | outside passed unfilled =>
    cases h' with
    | refused last => exact absurd passed (stuck last not_passed_of_error)
    | ended last zero => exact absurd passed (stuck last (not_passed_of_zero zero))
    | full _ all => omega
    | outside => rfl

/-- An ending, with one read before the others.

The read has passed, so the last one is still that of the others, and the bytes count on from it. -/
theorem SweepEnds.cons {ending : Except (Halt Errno) Bool} (passed : call.Passed)
    (start : call.addr = src) (place : next.toNat = call.stop) (size : call.length ≤ bound)
    (rest : SweepEnds next (bound - call.length) later ending) :
    SweepEnds src bound (call :: later) ending := by
  cases rest with
  -- The same read is the last one.
  | refused last => exact .refused (by rw [List.getLast?_cons, last]; rfl)
  | ended last zero => exact .ended (by rw [List.getLast?_cons, last]; rfl) zero
  | full others all =>
    -- All others passed, and together with this read they reach the bound.
    refine .full (List.forall_mem_cons.mpr ⟨passed, others⟩) ?_
    rw [MemoryCall.asked_cons, all]
    omega
  | @outside beyond others unfilled further outside =>
    -- The place behind them is the same, counted from the new read on.
    have all : ∀ other ∈ call :: later, other.Passed := List.forall_mem_cons.mpr ⟨passed, others⟩
    refine SweepEnds.outside all ?_ (?_ : beyond.toNat = _) ?_
    · rw [MemoryCall.asked_cons]
      omega
    · rw [further, place, MemoryCall.asked_cons, MemoryCall.stop, start, Nat.add_assoc]
    · rwa [MemoryCall.asked_cons, ← chunkSize_sub]

/-! ## The loop -/

variable {μ : Type} [UserMemory μ]

/-- What a round asks for is in one page, and in user space if that was checked.

A round asks for at least one byte, since the buffer is not full. -/
theorem chunk_of_inside {held : Nat} (unfilled : held < bound)
    (inside : InUserSpace src (chunkSize bound held src)) (answer : Except Errno (List UInt8)) :
    Chunk (.copyIn src (chunkSize bound held src) answer) :=
  ⟨rfl, ⟨chunkSize_pos src unfilled, inside⟩,
    MemoryCall.inOnePage_of_length_le (Nat.min_le_right _ _)⟩

/-- **The reads of the loop are a sweep**, and decide how it ends.

What the loop holds at the start of a round is taken off the bound, so each round looks like the
first one of a copy with a smaller bound. -/
theorem Gathering.sweeps {cursor : UserAddr} {buffer : Buffer} {m : μ}
    {o : Outcome μ MemoryCall Errno (Buffer × Bool)} (run : Gathering bound cursor buffer m o)
    (fits : buffer.length ≤ bound) :
    Sweep cursor (bound - buffer.length) o.events ∧
      SweepEnds cursor (bound - buffer.length) o.events (o.result.map fun ended => !ended.2) := by
  -- The loop counts from the whole bound, and a sweep from the rest.
  have ask (buffer : Buffer) (cursor : UserAddr) :
      chunkSize bound buffer.length cursor = chunkSize (bound - buffer.length) 0 cursor := by
    rw [chunkSize_sub, Nat.add_zero]
  -- Induction on the derivation. A round puts one read before those of the rounds behind it.
  induction run with
  | @full cursor buffer m full =>
    -- No read is made: nothing is missing.
    refine ⟨.nil _ _, .full nofun ?_⟩
    rw [MemoryCall.asked_nil]
    omega
  | @outside cursor buffer m unfilled outside =>
    -- No read is made: the next chunk is outside user space.
    refine ⟨.nil _ _, .outside nofun ?_ rfl ?_⟩
    · rw [MemoryCall.asked_nil]
      omega
    · rwa [MemoryCall.asked_nil, ← ask]
  | @refused cursor buffer m m' e unfilled inside answer =>
    -- One read, which is refused.
    exact ⟨.cons rfl (chunk_of_inside unfilled inside _) (ask buffer cursor) nofun
      (.nil cursor _), .refused rfl⟩
  | @ended cursor buffer m m' block unfilled inside answer zero =>
    -- One read, which met a zero byte.
    exact ⟨.cons rfl (chunk_of_inside unfilled inside _) (ask buffer cursor) nofun
      (.nil cursor _), .ended rfl zero⟩
  | @goesOn cursor next buffer m m' block rest unfilled inside answer noZero moved run ih =>
    -- One read that passed, and then the reads of the rounds behind it.
    have within := chunkSize_le_missing bound buffer.length cursor
    have longer := buffer.length_extended block.toList
    rw [block.length_toList] at longer
    obtain ⟨sweep, ends⟩ := ih (by omega)
    rw [longer, ← Nat.sub_sub] at sweep ends
    exact ⟨.cons rfl (chunk_of_inside unfilled inside _) (ask buffer cursor)
      (fun _ => ⟨.intro noZero, moved⟩) sweep, .cons (.intro noZero) rfl moved within ends⟩

/-- A refusal of the loop is the answer to a read, or a fault.

Of the memories that the loop meets, each is one that reads have left, so the condition on the
memory applies. -/
theorem Gathering.refusal {cursor : UserAddr} {buffer : Buffer} {m : μ} {e : Errno}
    {o : Outcome μ MemoryCall Errno (Buffer × Bool)} (run : Gathering bound cursor buffer m o)
    (never : UserMemory.NeverAnswers e m) (ended : o.result = .error (.refused e)) :
    e = .efault := by
  induction run with
  | full => cases ended
  | outside =>
    -- The loop itself only faults.
    cases ended
    rfl
  | refused _ _ answer =>
    -- The memory refused the read, which it never does for this reason.
    cases ended
    exact absurd (congrArg Prod.fst answer) (never _ .none _ _)
  | ended => cases ended
  | goesOn _ _ answer _ _ _ ih =>
    -- A later read is refused, by a memory that this read has left.
    exact ih (fun m' later => never m' ((UserMemory.AfterReads.of_copyIn answer).trans later)) ended

/-! ## The copy -/

/-- Everything that a string copy may do to user memory, and how it ends.

It is in order in that its reads are a sweep, and the rest says how the copy ends. That the memory
does not give the refusals of the copy itself is assumed only where a clause says so. -/
structure ReadsInOrder (c : Conditions) (src : UserAddr) (bound : Nat) (m : μ)
    (o : Outcome μ MemoryCall Errno KernelString) : Prop where
  /-- If the bound is a machine word, it is the largest one. -/
  tooLarge : wordLimit ≤ bound + 1 → o = ⟨.error (.refused .einval), m, []⟩
  noBuffer : bound + 1 < wordLimit → ¬ Buffer.CanReserve c (bound + 1) →
    o = ⟨.error (.refused .enomem), m, []⟩
  einval_iff : UserMemory.NeverAnswers .einval m →
    (o.result = .error (.refused .einval) ↔ wordLimit ≤ bound + 1)
  enomem_iff : UserMemory.NeverAnswers .enomem m →
    (o.result = .error (.refused .enomem) ↔
      bound + 1 < wordLimit ∧ ¬ Buffer.CanReserve c (bound + 1))
  sweep : Sweep src bound o.events
  once : o.events.Pairwise MemoryCall.Before
  /-- A read that was refused, or that met a zero byte, is behind all others. -/
  stops : ∀ call ∈ o.events, ¬ call.Passed → ∀ other ∈ o.events, other = call ∨ other.Before call
  /-- The reads and their answers decide how the copy ends. -/
  ends_iff : Buffer.CanReserve c (bound + 1) → ∀ ending,
    SweepEnds src bound o.events ending ↔ o.result.map KernelString.truncated = ending

/-- A copy that found room for the string is in order if its reads are.

Having found room excludes the two refusals before the loop, so these clauses hold for want of a
case. -/
theorem ReadsInOrder.of_canReserve {c : Conditions} {m : μ}
    {o : Outcome μ MemoryCall Errno KernelString} (granted : Buffer.CanReserve c (bound + 1))
    (sweep : Sweep src bound o.events)
    (ends : SweepEnds src bound o.events (o.result.map KernelString.truncated))
    (refusal : ∀ e, UserMemory.NeverAnswers e m → o.result = .error (.refused e) → e = .efault) :
    ReadsInOrder c src bound m o := by
  have limit : Buffer.reservationLimit < wordLimit := by decide
  have small : ¬ wordLimit ≤ bound + 1 := Nat.not_le.mpr (Nat.lt_of_le_of_lt granted.2 limit)
  exact {
    tooLarge := fun large => absurd large small
    noBuffer := fun _ denied => absurd granted denied
    einval_iff := fun never =>
      ⟨fun refused => absurd (refusal .einval never refused) nofun,
        fun large => absurd large small⟩
    enomem_iff := fun never =>
      ⟨fun refused => absurd (refusal .enomem never refused) nofun,
        fun denied => absurd granted denied.2⟩
    sweep := sweep
    once := sweep.pairwise
    stops := fun _ inCalls stopped _ => sweep.stops inCalls stopped
    ends_iff := fun _ ending => ⟨ends.unique, fun same => same ▸ ends⟩ }

/-- **A string copy reads in order**, whatever the memory answers.

There are four endings, by what comes in the way: the bound, the buffer, a read of the loop, or
nothing. -/
theorem inString_readsInOrder (c : Conditions) (src : UserAddr) (bound : Nat) (m : μ) :
    ReadsInOrder c src bound m (inString c src bound m) := by
  have outcome := inString_copies c src bound m
  generalize inString c src bound m = o at outcome
  cases outcome with
  | boundTooLarge large =>
    -- The bound is too large: nothing is read, and the refusal is the one of this case.
    have room (granted : Buffer.CanReserve c (bound + 1)) : bound + 1 < wordLimit :=
      Nat.lt_of_le_of_lt granted.2 (by decide)
    exact {
      tooLarge := fun _ => rfl
      noBuffer := fun small => absurd large (Nat.not_le.mpr small)
      einval_iff := fun _ => ⟨fun _ => large, fun _ => rfl⟩
      enomem_iff := fun _ => ⟨nofun, fun denied => absurd large (Nat.not_le.mpr denied.1)⟩
      sweep := .nil src bound
      once := .nil
      stops := nofun
      ends_iff := fun granted => absurd large (Nat.not_le.mpr (room granted)) }
  | noBuffer small denied =>
    -- There is no buffer: again nothing is read.
    exact {
      tooLarge := fun large => absurd large (Nat.not_le.mpr small)
      noBuffer := fun _ _ => rfl
      einval_iff := fun _ => ⟨nofun, fun large => absurd large (Nat.not_le.mpr small)⟩
      enomem_iff := fun _ => ⟨fun _ => ⟨small, denied⟩, fun _ => rfl⟩
      sweep := .nil src bound
      once := .nil
      stops := nofun
      ends_iff := fun granted => absurd granted denied }
  | refused granted run =>
    -- The loop is refused, with its reads behind it.
    obtain ⟨sweep, ends⟩ := run.sweeps (Nat.zero_le bound)
    refine .of_canReserve granted sweep ends fun e never ended => run.refusal never ?_
    cases ended
    rfl
  | @copied s m' calls granted run =>
    -- The loop ends with a string, cut if no zero byte was met.
    obtain ⟨sweep, ends⟩ := run.sweeps (Nat.zero_le bound)
    refine .of_canReserve granted sweep ?_ nofun
    simpa [Except.map, Buffer.length] using ends

end Copy

/-- Reads of a memory made of regions are refused with the faults of the regions only.

Without a region for a range, the read faults; otherwise the region answers, or refuses with the
fault it has. -/
theorem RegionMemory.neverAnswers {m : RegionMemory} {e : Errno} (other : e ≠ .efault)
    (noFault : ∀ r ∈ m.regions, r.fault ≠ some e) : UserMemory.NeverAnswers e m := by
  intro m' later src len
  obtain rfl : m' = m := later.eq_of_pure fun _ _ _ => rfl
  change m'.answerIn src.toNat len ≠ .error e
  unfold answerIn
  cases found : m'.find? src.toNat len with
  | none => simpa using other.symm
  | some r =>
    have absent := noFault r (List.mem_of_find?_eq_some found)
    cases fault : r.fault with
    | some e' => simpa [fault] using absent
    | none =>
      simp only [fault]
      cases r.read? src.toNat len <;> simp [other.symm]

/-- The first of two reads ends with its page, and the second one is refused. -/
theorem Copy.inString_readsInOrder_refused :
    let m : RegionMemory :=
      ⟨[⟨0x400FFE, [97, 98], false, none⟩, ⟨0x401000, .replicate 14 99, false, some .ebusy⟩]⟩
    let o := inString ⟨.off, .none⟩ ⟨0x400FFE⟩ 16 m
    Sweep ⟨0x400FFE⟩ 16 o.events ∧ o.result ≠ .error (.refused .einval) ∧
      o.result = .error (.refused .ebusy) ∧
      o.events.map (fun call => (call.addr, call.length)) =
        [(⟨0x400FFE⟩, 2), (⟨0x401000⟩, 14)] := by
  intro m o
  have order := inString_readsInOrder ⟨.off, .none⟩ ⟨0x400FFE⟩ 16 m
  have never : UserMemory.NeverAnswers .einval m := RegionMemory.neverAnswers nofun (by decide)
  have small : ¬ wordLimit ≤ 16 + 1 := by decide
  exact ⟨order.sweep, fun refused => small ((order.einval_iff never).mp refused),
    by decide +kernel, by decide +kernel⟩

end SyscallGate
