import SyscallGate.Proofs.Memory.Copying
import SyscallGate.Proofs.Memory.Gathering

/-!
# Strings in paged memory

What a string copy returns, byte by byte, from a memory that is readable page by page. The copy
itself reads chunks; that the chunks end where pages end is what makes the two agree.

## Main definitions

- `Pages`: which pages can be read, and the bytes in them.
- `Pages.Backs`: a memory answers reads from given pages, however often it is read.
- `Pages.EndsAt`: the first zero byte behind an address, with all bytes up to it in good pages.
- `PagedMemory`: the memories that are given by their pages.

## Main results

- `Pages.reads_of_gathering`: a run of the copy loop reads the string that the pages hold.
- `Copy.inString_meets_bytes`: a string copy returns the bytes before the first zero byte, or as
  many as the bound allows, or faults.
-/

namespace SyscallGate

/-- The memories that reads can leave behind.

A memory may change when it is read, so what holds of a memory alone says little about a copy that
reads several times. These are the memories that such a copy can meet. -/
inductive UserMemory.AfterReads {μ : Type} [UserMemory μ] (m : μ) : μ → Prop where
  | none : AfterReads m m
  | read {m' : μ} (src : UserAddr) (len : Nat) (earlier : AfterReads m m') :
      AfterReads m (copyIn src len m').2

namespace UserMemory.AfterReads

variable {μ : Type} [UserMemory μ] {m m' m'' : μ}

/-- Reads after reads are reads. -/
theorem trans (first : AfterReads m m') (later : AfterReads m' m'') : AfterReads m m'' := by
  -- Induction on the later reads, the last one first.
  induction later with
  | none => exact first
  | read src len _ ih => exact .read src len ih

/-- A single read, given by its answer. -/
theorem of_copyIn {src : UserAddr} {len : Nat} {answer : Except Errno (Vector UInt8 len)}
    (read : copyIn src len m = (answer, m')) : AfterReads m m' := by
  have after := AfterReads.read src len (.none : AfterReads m m)
  rwa [read] at after

/-- If a read leaves a memory as it is, so do any number of them. -/
theorem eq_of_pure (h : AfterReads m m')
    (pure : ∀ (m : μ) (src : UserAddr) (len : Nat), (copyIn src len m).2 = m) : m' = m := by
  induction h with
  | none => rfl
  | read src len _ ih => rw [pure, ih]

end UserMemory.AfterReads

/-- Which pages of a user memory can be read, and the byte at each address.

The byte of a page that cannot be read is never looked at. -/
structure Pages where
  /-- Whether the page of a given number can be read. -/
  readable : Nat → Prop
  byte : Nat → UInt8

namespace Pages

variable {μ : Type} [UserMemory μ] {pages : Pages}

/-- The bytes of a range.

It wraps around nowhere: addresses are numbers here, and a range may even leave user space. -/
def bytesFrom (pages : Pages) (start len : Nat) : List UInt8 :=
  (List.range len).map fun i => pages.byte (start + i)

/-- The address is in user space, other than the null address, and its page can be read.

It takes all three for a byte to be read. A copy faults at the first address that is not good. -/
def Good (pages : Pages) (addr : Nat) : Prop :=
  0 < addr ∧ addr < userTop ∧ pages.readable (addr / pageSize)

/-- The string at `start` has `k` bytes, and they and the zero byte behind them are at good
addresses.

There is at most one such `k`, and the pages of all these addresses have to be readable, that of the
zero byte included. -/
structure EndsAt (pages : Pages) (start k : Nat) : Prop where
  good : ∀ i ≤ k, pages.Good (start + i)
  zero : pages.byte (start + k) = 0
  first : ∀ i < k, pages.byte (start + i) ≠ 0

/-- A memory answers from the pages, whatever was read before: a range inside a page is answered
with its bytes if the page can be read, and faults if not.

Only ranges inside a page are asked for, since chunks are such ranges. The clauses are about every
memory that reads can leave, so they can be used again after each chunk. -/
structure Backs (pages : Pages) (m : μ) : Prop where
  answers : ∀ m', UserMemory.AfterReads m m' → ∀ (src : UserAddr) (len : Nat), 0 < len →
    src.toNat % pageSize + len ≤ pageSize → pages.readable (src.toNat / pageSize) →
    (UserMemory.copyIn src len m').1.map (·.toList) = .ok (pages.bytesFrom src.toNat len)
  faults : ∀ m', UserMemory.AfterReads m m' → ∀ (src : UserAddr) (len : Nat), 0 < len →
    src.toNat % pageSize + len ≤ pageSize → ¬ pages.readable (src.toNat / pageSize) →
    (UserMemory.copyIn src len m').1 = .error .efault

/-! ## Bytes -/

@[simp] theorem length_bytesFrom (start len : Nat) : (pages.bytesFrom start len).length = len := by
  simp [bytesFrom]

@[simp] theorem bytesFrom_zero (start : Nat) : pages.bytesFrom start 0 = [] := rfl

/-- A range in two parts. -/
theorem bytesFrom_add (start first second : Nat) :
    pages.bytesFrom start (first + second) =
      pages.bytesFrom start first ++ pages.bytesFrom (start + first) second := by
  simp [bytesFrom, List.range_add, Nat.add_assoc]

theorem take_bytesFrom {start len size : Nat} (within : size ≤ len) :
    (pages.bytesFrom start len).take size = pages.bytesFrom start size := by
  obtain ⟨more, rfl⟩ := Nat.exists_eq_add_of_le within
  rw [bytesFrom_add, List.take_left' (length_bytesFrom _ _)]

/-- A range by its first byte. -/
theorem bytesFrom_succ (start len : Nat) :
    pages.bytesFrom start (len + 1) = pages.byte start :: pages.bytesFrom (start + 1) len := by
  rw [Nat.add_comm, bytesFrom_add]
  rfl

theorem zero_mem_bytesFrom_iff {start len : Nat} :
    0 ∈ pages.bytesFrom start len ↔ ∃ i < len, pages.byte (start + i) = 0 := by
  simp [bytesFrom]

/-- A range with a zero byte has a first one, and the bytes before it are those without a zero. -/
theorem takeWhile_bytesFrom {start len : Nat} (zero : 0 ∈ pages.bytesFrom start len) :
    ∃ j < len, pages.byte (start + j) = 0 ∧ (∀ i < j, pages.byte (start + i) ≠ 0) ∧
      (pages.bytesFrom start len).takeWhile (· ≠ 0) = pages.bytesFrom start j := by
  -- Induction on the length; the first byte is the zero, or it comes before the zero.
  induction len generalizing start with
  | zero => cases zero
  | succ len ih =>
    rw [bytesFrom_succ] at zero ⊢
    by_cases first : pages.byte start = 0
    · -- The first byte is the zero, and nothing comes before it.
      refine ⟨0, Nat.succ_pos len, first, fun i below => absurd below (Nat.not_lt_zero i), ?_⟩
      simp [first]
    · -- The first byte is none, so the first zero is one further on in the rest.
      have later := (List.mem_cons.mp zero).resolve_left (Ne.symm first)
      obtain ⟨j, below, atZero, before, taken⟩ := ih later
      refine ⟨j + 1, Nat.succ_lt_succ below, ?_, ?_, ?_⟩
      · rwa [Nat.add_comm j 1, ← Nat.add_assoc]
      · intro i inside
        cases i with
        | zero => exact first
        | succ i =>
          rw [Nat.add_comm i 1, ← Nat.add_assoc]
          exact before i (Nat.lt_of_succ_lt_succ inside)
      · rw [bytesFrom_succ, List.takeWhile_cons_of_pos (by simpa using first), taken]

/-! ## The string that a run of the loop reads -/

/-- A string has one end. -/
theorem EndsAt.unique {start k k' : Nat} (h : pages.EndsAt start k) (h' : pages.EndsAt start k') :
    -- Of two ends, the earlier one would be a byte of the string up to the later one.
    k = k' := by
  rcases Nat.lt_trichotomy k k' with below | same | above
  · exact absurd h.zero (h'.first k below)
  · exact same
  · exact absurd h'.zero (h.first k' above)

/-- The string at `start`, up to a bound: its bytes, and whether its end was found.

The three cases exclude each other and leave nothing out, so this relation is a function of the
pages, written as a relation. -/
inductive Reads (pages : Pages) (start bound : Nat) :
    Except (Halt Errno) (List UInt8 × Bool) → Prop where
  | whole {k : Nat} (before : k < bound) (ends : pages.EndsAt start k) :
      Reads pages start bound (.ok (pages.bytesFrom start k, true))
  /-- The bound comes before the end. -/
  | cut (noEnd : ∀ k < bound, ¬ pages.EndsAt start k)
      (good : ∀ i < bound, pages.Good (start + i)) :
      Reads pages start bound (.ok (pages.bytesFrom start bound, false))
  | fault (noEnd : ∀ k < bound, ¬ pages.EndsAt start k)
      (bad : ∃ i < bound, ¬ pages.Good (start + i)) :
      Reads pages start bound (.error (.refused .efault))

/-- A string whose end was found is the one that ends there. -/
theorem Reads.ended {start bound : Nat} {bytes : List UInt8}
    (reads : pages.Reads start bound (.ok (bytes, true))) :
    pages.EndsAt start bytes.length ∧ bytes = pages.bytesFrom start bytes.length := by
  cases reads with
  | whole _ ends =>
    rw [length_bytesFrom]
    exact ⟨ends, rfl⟩

/-- Pages that back a memory back it after a read as well. -/
theorem Backs.after {m : μ} (backs : pages.Backs m) (src : UserAddr) (len : Nat) :
    pages.Backs (UserMemory.copyIn src len m).2 := by
  have from_m {m' : μ} (h : UserMemory.AfterReads (UserMemory.copyIn src len m).2 m') :
      UserMemory.AfterReads m m' :=
    (UserMemory.AfterReads.read src len .none).trans h
  exact ⟨fun m' h => backs.answers m' (from_m h), fun m' h => backs.faults m' (from_m h)⟩

/-- What was read is what the page holds.

A read that was answered with bytes was one of a readable page, for the other ones fault. -/
theorem Backs.of_ok {m m' : μ} {src : UserAddr} {len : Nat} {block : Vector UInt8 len}
    (backs : pages.Backs m) (pos : 0 < len) (inPage : src.toNat % pageSize + len ≤ pageSize)
    (answer : UserMemory.copyIn src len m = (.ok block, m')) :
    pages.readable (src.toNat / pageSize) ∧ block.toList = pages.bytesFrom src.toNat len := by
  by_cases readable : pages.readable (src.toNat / pageSize)
  · -- The page is readable, and the answer is what it holds.
    have bytes := backs.answers m .none src len pos inPage readable
    rw [answer] at bytes
    exact ⟨readable, Except.ok.inj bytes⟩
  · -- The page is not readable, so there would have been a fault.
    have fault := backs.faults m .none src len pos inPage readable
    rw [answer] at fault
    cases fault

/-- A read that fails is one of a page that cannot be read. -/
theorem Backs.of_error {m m' : μ} {src : UserAddr} {len : Nat} {e : Errno}
    (backs : pages.Backs m) (pos : 0 < len) (inPage : src.toNat % pageSize + len ≤ pageSize)
    (answer : UserMemory.copyIn src len m = (.error e, m')) :
    ¬ pages.readable (src.toNat / pageSize) ∧ e = .efault := by
  by_cases readable : pages.readable (src.toNat / pageSize)
  · have bytes := backs.answers m .none src len pos inPage readable
    rw [answer] at bytes
    cases bytes
  · have fault := backs.faults m .none src len pos inPage readable
    rw [answer] at fault
    exact ⟨readable, Except.error.inj fault⟩

omit [UserMemory μ] in
/-- In a page that can be read, the addresses of a range in user space are good.

The addresses of the range share the page of the first one. -/
theorem good_of_inside {cursor : UserAddr} {len : Nat} (inside : InUserSpace cursor len)
    (inPage : cursor.toNat % pageSize + len ≤ pageSize)
    (readable : pages.readable (cursor.toNat / pageSize)) {i : Nat} (below : i < len) :
    pages.Good (cursor.toNat + i) := by
  -- The range does not cross the end of the page.
  have samePage : (cursor.toNat + i) / pageSize = cursor.toNat / pageSize := by
    unfold pageSize at inPage ⊢
    omega
  unfold InUserSpace at inside
  refine ⟨by omega, by omega, ?_⟩
  rwa [samePage]

omit [UserMemory μ] in
/-- User space ends where a page ends, so a range inside one page that is not in user space begins
outside of it. -/
theorem not_good_of_outside {cursor : UserAddr} {len : Nat} (outside : ¬ InUserSpace cursor len)
    (inPage : cursor.toNat % pageSize + len ≤ pageSize) : ¬ pages.Good cursor.toNat := by
  -- If the first address were good, the whole range would be in user space.
  rintro ⟨pos, below, -⟩
  apply outside
  unfold InUserSpace
  unfold pageSize at inPage
  unfold userTop at below ⊢
  omega

omit [UserMemory μ] in
/-- A string that meets a bad address before a zero byte faults.

Where the string ends, if it ends at all, lies behind the bad address, so the end is not found. This
covers addresses outside user space and pages that cannot be read alike. -/
theorem Reads.of_bad {start bound held : Nat} (below : held < bound)
    (nonzero : ∀ i < held, pages.byte (start + i) ≠ 0) (bad : ¬ pages.Good (start + held)) :
    pages.Reads start bound (.error (.refused .efault)) := by
  refine .fault ?_ ⟨held, below, bad⟩
  intro k _ ends
  -- An end before the bad address would be a zero byte among those before it.
  rcases Nat.lt_or_ge k held with before | behind
  · exact nonzero k before ends.zero
  · exact bad (ends.good held behind)

/-- The buffer holds the beginning of the string at `start`, and the cursor is behind it.

This is the invariant of the loop. It holds of the empty buffer at the start. -/
structure Holds (pages : Pages) (start : Nat) (cursor : UserAddr) (buffer : Buffer) : Prop where
  place : cursor.toNat = start + buffer.length
  bytes : buffer.bytes = pages.bytesFrom start buffer.length
  good : ∀ i < buffer.length, pages.Good (start + i)
  nonzero : ∀ i < buffer.length, pages.byte (start + i) ≠ 0

omit [UserMemory μ] in
/-- A chunk of good addresses without a zero makes the beginning longer.

The chunk may also be a part of what was read, as when the zero byte has been found in it. -/
theorem Holds.extend {start len : Nat} {cursor next : UserAddr} {buffer : Buffer}
    (holds : pages.Holds start cursor buffer) (moved : next.toNat = cursor.toNat + len)
    (good : ∀ i < len, pages.Good (cursor.toNat + i))
    (noZero : 0 ∉ pages.bytesFrom cursor.toNat len) :
    pages.Holds start next
      ⟨buffer.bytes ++ pages.bytesFrom cursor.toNat len, buffer.reserved⟩ := by
  have longer := buffer.length_extended (pages.bytesFrom cursor.toNat len)
  rw [length_bytesFrom] at longer
  have place := holds.place
  -- An offset is in the old part, or it is an offset into the chunk.
  have split {i : Nat} (below : i < buffer.length + len) :
      i < buffer.length ∨ ∃ j < len, start + i = cursor.toNat + j := by
    by_cases old : i < buffer.length
    · exact .inl old
    · exact .inr ⟨i - buffer.length, by omega, by omega⟩
  refine ⟨?_, ?_, ?_, ?_⟩
  · -- The cursor has moved on by the chunk.
    rw [moved, longer, place, Nat.add_assoc]
  · -- The bytes are those of the beginning, followed by those of the chunk.
    rw [longer, bytesFrom_add, ← holds.bytes, ← place]
  · -- An address of the beginning is good, and so is one of the chunk.
    intro i below
    rw [longer] at below
    rcases split below with old | ⟨j, inChunk, same⟩
    · exact holds.good i old
    · rw [same]
      exact good j inChunk
  · -- The same for bytes other than zero.
    intro i below
    rw [longer] at below
    rcases split below with old | ⟨j, inChunk, same⟩
    · exact holds.nonzero i old
    · rw [same]
      exact fun zero => noZero (zero_mem_bytesFrom_iff.mpr ⟨j, inChunk, zero⟩)

omit [UserMemory μ] in
/-- If the cursor is at a good zero byte, the string ends there.

All bytes before the cursor are known to be none. -/
theorem Holds.endsAt {start : Nat} {cursor : UserAddr} {buffer : Buffer}
    (holds : pages.Holds start cursor buffer) (good : pages.Good cursor.toNat)
    (zero : pages.byte cursor.toNat = 0) : pages.EndsAt start buffer.length := by
  rw [holds.place] at good zero
  refine ⟨?_, zero, holds.nonzero⟩
  intro i upTo
  -- An address up to the cursor is one before it, or the cursor itself.
  rcases Nat.lt_or_eq_of_le upTo with before | rfl
  · exact holds.good i before
  · exact good

/-- **A run of the loop reads the string that the pages hold**, if it has read the beginning of that
string so far.

Each rule of `Copy.Gathering` leads to one of the cases of `Pages.Reads`, or it goes on. The buffer
at hand and the cursor say how much of the string has been read. -/
theorem reads_of_gathering {start bound : Nat} {cursor : UserAddr} {buffer : Buffer} {m : μ}
    {o : Outcome μ MemoryCall Errno (Buffer × Bool)}
    (run : Copy.Gathering bound cursor buffer m o) (backs : pages.Backs m)
    (holds : pages.Holds start cursor buffer) (fits : buffer.length ≤ bound) :
    pages.Reads start bound (o.result.map fun found => (found.1.bytes, found.2)) := by
  -- Induction on the derivation: what a round has read is the beginning that the next one meets.
  induction run with
  | @full cursor buffer m full =>
    -- The bound is reached without a zero byte: the string is cut there.
    obtain ⟨-, bytes, good, nonzero⟩ := holds
    rw [Nat.le_antisymm fits full] at bytes good nonzero
    have cut : pages.Reads start bound (.ok (pages.bytesFrom start bound, false)) :=
      .cut (fun k below ends => nonzero k below ends.zero) good
    rwa [← bytes] at cut
  | @outside cursor buffer m unfilled outside =>
    -- The chunk begins outside user space, at an address that is not good.
    have bad : ¬ pages.Good cursor.toNat :=
      not_good_of_outside outside (Copy.chunkSize_in_page bound buffer.length cursor)
    rw [holds.place] at bad
    exact .of_bad unfilled holds.nonzero bad
  | @refused cursor buffer m m' e unfilled inside answer =>
    -- The memory refuses the chunk, so its page is not readable, and no address in it is good.
    obtain ⟨unreadable, rfl⟩ := backs.of_error (Copy.chunkSize_pos cursor unfilled)
      (Copy.chunkSize_in_page bound buffer.length cursor) answer
    refine .of_bad unfilled holds.nonzero ?_
    rw [← holds.place]
    exact fun bad => unreadable bad.2.2
  | @ended cursor buffer m m' block unfilled inside answer zero =>
    -- The chunk holds a zero byte, and the first one ends the string.
    have inPage := Copy.chunkSize_in_page bound buffer.length cursor
    have within := Copy.chunkSize_le_missing bound buffer.length cursor
    obtain ⟨readable, read⟩ := backs.of_ok (Copy.chunkSize_pos cursor unfilled) inPage answer
    rw [read] at zero
    obtain ⟨j, below, atZero, before, taken⟩ := takeWhile_bytesFrom zero
    -- The bytes before the zero extend the beginning up to the end of the string.
    obtain ⟨stop, moved⟩ := (inside.beginning (Nat.le_of_lt below)).exists_stop
    have all := holds.extend moved
      (fun i first => good_of_inside inside inPage readable (Nat.lt_trans first below))
      (fun early => by
        obtain ⟨i, first, isZero⟩ := zero_mem_bytesFrom_iff.mp early
        exact before i first isZero)
    have ends := all.endsAt (by rw [moved]; exact good_of_inside inside inPage readable below)
      (by rw [moved]; exact atZero)
    have shorter : (⟨buffer.bytes ++ pages.bytesFrom cursor.toNat j, buffer.reserved⟩ :
        Buffer).length < bound := by
      rw [Buffer.length_extended, length_bytesFrom]
      omega
    have whole : pages.Reads start bound (.ok (_, true)) := .whole shorter ends
    rw [← all.bytes, ← taken, ← read] at whole
    exact whole
  | @goesOn cursor next buffer m m' block rest unfilled inside answer noZero moved run ih =>
    -- The chunk holds no zero byte. The next round meets a beginning that is longer by it.
    have inPage := Copy.chunkSize_in_page bound buffer.length cursor
    have within := Copy.chunkSize_le_missing bound buffer.length cursor
    obtain ⟨readable, read⟩ := backs.of_ok (Copy.chunkSize_pos cursor unfilled) inPage answer
    have stays := backs.after cursor (Copy.chunkSize bound buffer.length cursor)
    rw [answer] at stays
    rw [read] at noZero ih
    refine ih stays (holds.extend moved ?_ noZero) ?_
    · intro i below
      exact good_of_inside inside inPage readable below
    · rw [Buffer.length_extended, length_bytesFrom]
      omega

end Pages

/-! ## The string that a copy returns -/

namespace Copy

variable {μ : Type} [UserMemory μ] {pages : Pages}

/-- The string that the loop reads is the one that the copy returns.

The loop starts with an empty buffer, which holds the empty beginning of the string. -/
theorem inString_reads {m : μ} (backs : pages.Backs m) {c : Conditions} (src : UserAddr)
    {bound : Nat} (granted : Buffer.CanReserve c (bound + 1)) :
    pages.Reads src.toNat bound
      ((inString c src bound m).result.map fun s => (s.bytes, !s.truncated)) := by
  have outcome := inString_copies c src bound m
  have limits : Buffer.reservationLimit < wordLimit := by decide
  -- Nothing has been read at the start, so there is nothing to check.
  have start : pages.Holds src.toNat src ⟨[], bound + 1⟩ :=
    ⟨rfl, rfl, fun i below => absurd below (Nat.not_lt_zero i),
      fun i below => absurd below (Nat.not_lt_zero i)⟩
  generalize inString c src bound m = o at outcome
  -- With room for the bound, the copy is a run of the loop.
  cases outcome with
  | boundTooLarge large => exact absurd granted.2 (by omega)
  | noBuffer _ denied => exact absurd granted denied
  | refused _ run => exact Pages.reads_of_gathering run backs start (Nat.zero_le bound)
  | copied _ run => exact Pages.reads_of_gathering run backs start (Nat.zero_le bound)

/-- **A string copy, byte by byte**: if a zero byte comes before the bound and all addresses up to
it are good, the copy returns the bytes before it. Otherwise it returns as many bytes as the bound
allows, marked as truncated, if their addresses are good, and faults if not.

The loop reads chunks, and the statement does not speak of them: it is about each byte on its own,
and about the first place where something ends the string. -/
theorem inString_meets_bytes {m : μ} (backs : pages.Backs m) {c : Conditions} (src : UserAddr)
    {bound : Nat} (granted : Buffer.CanReserve c (bound + 1)) :
    let result := (inString c src bound m).result
    (∀ k < bound, pages.EndsAt src.toNat k →
      ∃ s, result = .ok s ∧ s.bytes = pages.bytesFrom src.toNat k ∧ s.truncated = false) ∧
    ((∀ k < bound, ¬ pages.EndsAt src.toNat k) → (∀ i < bound, pages.Good (src.toNat + i)) →
      ∃ s, result = .ok s ∧ s.bytes = pages.bytesFrom src.toNat bound ∧ s.truncated = true) ∧
    ((∀ k < bound, ¬ pages.EndsAt src.toNat k) → (∃ i < bound, ¬ pages.Good (src.toNat + i)) →
      result = .error (.refused .efault)) ∧
    ∀ s, result = .ok s → 0 ∉ s.bytes ∧ s.text.withNul = s.bytes ++ [0] := by
  intro result
  -- All four parts are read off the case in which the copy ends.
  have reads : pages.Reads src.toNat bound (result.map fun s => (s.bytes, !s.truncated)) :=
    inString_reads backs src granted
  clear_value result
  -- The cases exclude each other, since a string has one end.
  cases result with
  | error halt =>
    -- The copy faults, so there is no end before the bound, and an address is bad.
    cases reads with
    | fault noEnd bad =>
      obtain ⟨i, below, isBad⟩ := bad
      refine ⟨?_, ?_, fun _ _ => rfl, nofun⟩
      · intro k before ends
        exact absurd ends (noEnd k before)
      · intro _ good
        exact absurd (good i below) isBad
  | ok s =>
    -- The copy returns a string, which has no zero byte whatever it is.
    change pages.Reads src.toNat bound (.ok (s.bytes, !s.truncated)) at reads
    generalize bytes : s.bytes = read, truncated : (!s.truncated) = found at reads
    have noNul (s' : KernelString) : 0 ∉ s'.bytes ∧ s'.text.withNul = s'.bytes ++ [0] :=
      ⟨s'.text.noNul, rfl⟩
    cases reads with
    | @whole k before ends =>
      -- Its end was found, and a string has one end only.
      refine ⟨?_, fun noEnd => absurd ends (noEnd k before),
        fun noEnd => absurd ends (noEnd k before), fun s' _ => noNul s'⟩
      intro k' _ ends'
      cases ends.unique ends'
      exact ⟨s, rfl, bytes, by simpa using truncated⟩
    | cut noEnd good =>
      -- It was cut at the bound, with all addresses good.
      refine ⟨?_, fun _ _ => ⟨s, rfl, bytes, by simpa using truncated⟩, ?_, fun s' _ => noNul s'⟩
      · intro k before ends
        exact absurd ends (noEnd k before)
      · rintro - ⟨i, below, isBad⟩
        exact absurd (good i below) isBad

end Copy

/-! ## Memories given by their pages -/

/-- A user memory in which a page can be accessed as a whole or not at all.

It is an example of a memory that pages back, with bytes that stay as they are until they are
written. -/
structure PagedMemory where
  /-- Whether the page of a given number can be accessed. -/
  accessible : Nat → Bool
  byte : Nat → UInt8

namespace PagedMemory

def pages (m : PagedMemory) : Pages := ⟨fun page => m.accessible page = true, m.byte⟩

instance (m : PagedMemory) (addr : Nat) : Decidable (m.pages.Good addr) :=
  inferInstanceAs
    (Decidable (0 < addr ∧ addr < userTop ∧ m.accessible (addr / pageSize) = true))

/-- Whether a range lies in accessible pages.

It is computed address by address, so that it needs no division of the range into pages. -/
def holds (m : PagedMemory) (start len : Nat) : Bool :=
  (List.range len).all fun i => m.accessible ((start + i) / pageSize)

/-- The memory with other bytes in a range. -/
def overwrite (m : PagedMemory) (start : Nat) (bytes : List UInt8) : PagedMemory :=
  { m with byte := fun addr =>
      if start ≤ addr then (bytes[addr - start]?).getD (m.byte addr) else m.byte addr }

instance : UserMemory PagedMemory where
  copyIn src len m :=
    (if m.holds src.toNat len then
        .ok ⟨(m.pages.bytesFrom src.toNat len).toArray, by simp⟩
      else .error .efault, m)
  copyOut bytes dst m :=
    if m.holds dst.toNat bytes.length then (.ok (), m.overwrite dst.toNat bytes)
    else (.error .efault, m)

/-- Of a range inside a page, one page is asked for. -/
theorem holds_in_page {m : PagedMemory} {start len : Nat} (pos : 0 < len)
    (inPage : start % pageSize + len ≤ pageSize) :
    m.holds start len = true ↔ m.pages.readable (start / pageSize) := by
  have samePage {i : Nat} (below : i < len) : (start + i) / pageSize = start / pageSize := by
    unfold pageSize at inPage ⊢
    omega
  simp only [holds, List.all_eq_true, List.mem_range, pages]
  constructor
  · intro all
    exact all 0 pos
  · intro readable i below
    rwa [samePage below]

/-- A paged memory answers from its pages.

Reading leaves such a memory as it is, so there is only one memory to consider. -/
theorem backs (m : PagedMemory) : m.pages.Backs m := by
  have unchanged {m' : PagedMemory} (h : UserMemory.AfterReads m m') : m' = m :=
    h.eq_of_pure fun _ _ _ => rfl
  refine ⟨?_, ?_⟩
  · intro m' h src len pos inPage readable
    rw [unchanged h]
    have held := (holds_in_page pos inPage).mpr readable
    simp [UserMemory.copyIn, held, Except.map]
  · intro m' h src len pos inPage unreadable
    rw [unchanged h]
    have notHeld : m.holds src.toNat len = false :=
      Bool.eq_false_iff.mpr fun held => unreadable ((holds_in_page pos inPage).mp held)
    simp [UserMemory.copyIn, notHeld]

/-- What is written to a paged memory is stored there. -/
theorem stores : UserMemory.Stores PagedMemory.byte := by
  intro bytes dst m m' stored
  simp only [UserMemory.copyOut] at stored
  split at stored <;> cases stored
  rfl

end PagedMemory

/-- A string of two bytes ends with its page. Its zero byte is the first byte of the next page,
which is the last one that can be read. -/
theorem Copy.inString_meets_bytes_across_pages :
    let m : PagedMemory := ⟨fun page => page == 0x400 || page == 0x401,
      fun addr => if addr = 0x400FFE then 97 else if addr = 0x400FFF then 98 else 0⟩
    let c : Conditions := ⟨.off, .none⟩
    m.pages.Backs m ∧ Buffer.CanReserve c 17 ∧ m.pages.EndsAt 0x400FFE 2 ∧
      ∃ s, (inString c ⟨0x400FFE⟩ 16 m).result = .ok s ∧ s.bytes = [97, 98] ∧
        s.truncated = false := by
  intro m c
  have granted : Buffer.CanReserve c 17 := ⟨rfl, by decide⟩
  have ends : m.pages.EndsAt 0x400FFE 2 := ⟨by decide, by decide, by decide⟩
  exact ⟨m.backs, granted, ends,
    (inString_meets_bytes m.backs ⟨0x400FFE⟩ granted).1 2 (by decide) ends⟩

end SyscallGate
