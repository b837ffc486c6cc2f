import SyscallGate.Proofs.Memory.Delivery

/-!
# String copies with different bounds

A string copy with a smaller bound returns the beginning of what the same copy with a larger bound
returns. The two ask for the same chunks until the smaller bound cuts one short, and from then on
the copy with the smaller bound asks for nothing more. So nothing is assumed of the memory but that
it answers for a part of a range as it does for the whole.

## Main definitions

- `UserMemory.AnswersParts`: what can be read can be read again, as a whole or in part.

## Main results

- `Copy.Gathering.received_prefix`: the bytes that the loop receives under two bounds.
- `Copy.inString_cut`: what a string copy returns under two bounds.
-/

namespace SyscallGate

variable {μ : Type} [UserMemory μ]

/-- Whatever was read before, a memory that answered for a range answers for every part of it that
is not empty, with the bytes of that part.

It is assumed of the memory for all later reads, since the two copies that are compared may read one
after the other, each in chunks of its own. -/
def UserMemory.AnswersParts (m : μ) : Prop :=
  ∀ m₁ m₂, AfterReads m m₁ → AfterReads m m₂ →
    ∀ (src part : UserAddr) (len offset size : Nat) (bytes : List UInt8),
      (copyIn src len m₁).1.map (·.toList) = .ok bytes →
      part.toNat = src.toNat + offset → 0 < size → offset + size ≤ len →
      (copyIn part size m₂).1.map (·.toList) = .ok ((bytes.drop offset).take size)

/-- The beginning of a range that was read can be read.

It is a part of the range, and the bytes are the beginning of those that were read. -/
theorem UserMemory.AnswersParts.read_beginning {m m₁ m₂ m₂' : μ} (parts : AnswersParts m)
    (after₁ : AfterReads m m₁) (after₂ : AfterReads m m₂) {src : UserAddr} {len size : Nat}
    {block : Vector UInt8 len} (read : copyIn src len m₂ = (.ok block, m₂')) (pos : 0 < size)
    (within : size ≤ len) :
    ∃ (beginning : Vector UInt8 size) (m₁' : μ), copyIn src size m₁ = (.ok beginning, m₁') ∧
      beginning.toList = block.toList.take size := by
  have answered := parts m₂ m₁ after₂ after₁ src src len 0 size block.toList
    (by rw [read]; rfl) rfl pos (by omega)
  rcases again : copyIn src size m₁ with ⟨e | beginning, m₁'⟩
  · -- The read of the part is answered, so it was not refused.
    rw [again] at answered
    cases answered
  · rw [again] at answered
    exact ⟨beginning, m₁', rfl, Except.ok.inj answered⟩

namespace Copy

variable {bound bound₁ bound₂ : Nat}

open MemoryCall (received)
open UserMemory (AfterReads AnswersParts)

/-! ## The loop -/

/-- A smaller bound cuts a chunk at what is missing.

The end of the page is the same for both bounds, so only what is missing makes a difference. -/
theorem chunkSize_of_le (less : bound₁ ≤ bound₂) (held : Nat) (cursor : UserAddr) :
    chunkSize bound₁ held cursor = min (bound₁ - held) (chunkSize bound₂ held cursor) := by
  unfold chunkSize
  omega

/-- The loop does nothing once the bound is reached.

Of the five rules, one applies to a full buffer. -/
theorem Gathering.of_full {cursor : UserAddr} {buffer : Buffer} {m : μ}
    {o : Outcome μ MemoryCall Errno (Buffer × Bool)} (run : Gathering bound cursor buffer m o)
    (full : bound ≤ buffer.length) : o = ⟨.ok (buffer, false), m, []⟩ := by
  cases run with
  | full => rfl
  | outside unfilled | refused unfilled | ended unfilled | goesOn unfilled =>
    exact absurd full (Nat.not_le.mpr unfilled)

/-- A run in a place where a range was read, of which its own chunk is as much as its bound allows:
it ends well with bytes from the beginning of that range, or it gets past the range.

This is one step of the comparison: what the run under the smaller bound does while the one under
the larger bound reads a chunk. -/
theorem Gathering.of_longer_chunk {m : μ} (parts : AnswersParts m) {cursor : UserAddr}
    {buffer : Buffer} {m₁ m₂ m₂' : μ} {o : Outcome μ MemoryCall Errno (Buffer × Bool)}
    (after₁ : AfterReads m m₁) (after₂ : AfterReads m m₂)
    (run : Gathering bound cursor buffer m₁ o) {len : Nat} {block : Vector UInt8 len}
    (cut : chunkSize bound buffer.length cursor = min (bound - buffer.length) len)
    (inside : InUserSpace cursor len) (read : UserMemory.copyIn cursor len m₂ = (.ok block, m₂')) :
    ((∃ found, o.result = .ok found) ∧ received o.events <+: block.toList) ∨
      0 ∉ block.toList ∧ ∃ next m₁' rest, next.toNat = cursor.toNat + len ∧ AfterReads m m₁' ∧
        Gathering bound next ⟨buffer.bytes ++ block.toList, buffer.reserved⟩ m₁' rest ∧
        o.result = rest.result ∧ received o.events = block.toList ++ received rest.events := by
  by_cases unfilled : buffer.length < bound
  · have within : chunkSize bound buffer.length cursor ≤ len := cut ▸ Nat.min_le_right _ _
    obtain ⟨beginning, m₁', answer, bytes⟩ :=
      parts.read_beginning after₁ after₂ read (chunkSize_pos cursor unfilled) within
    have start : beginning.toList <+: block.toList := bytes ▸ List.take_prefix _ _
    have length := beginning.length_toList
    have lengthOf := block.length_toList
    -- The chunk is in user space and is answered, so two of the rules remain.
    cases run with
    | full full => exact absurd full (Nat.not_le.mpr unfilled)
    | outside _ outside => exact absurd (inside.beginning within) outside
    | refused _ _ refused => cases answer.symm.trans refused
    | ended _ _ answer' zero =>
      cases answer.symm.trans answer'
      exact .inl ⟨⟨_, rfl⟩, by simpa using start⟩
    | goesOn _ _ answer' noZero moved rest =>
      cases answer.symm.trans answer'
      by_cases whole : len ≤ bound - buffer.length
      · have same : chunkSize bound buffer.length cursor = len := by omega
        have all : beginning.toList = block.toList := by
          rw [bytes, List.take_of_length_le (by omega)]
        rw [all] at noZero rest
        rw [same] at moved
        exact .inr ⟨noZero, _, m₁', _, moved, after₁.trans (.of_copyIn answer), rest, rfl,
          by rw [← all]; rfl⟩
      · -- A chunk that was cut reaches the bound.
        have reached := rest.of_full (by rw [Buffer.length_extended]; omega)
        exact .inl ⟨⟨_, by rw [reached]; rfl⟩, by simpa [reached] using start⟩
  · -- The bound was reached before, and the run ends without a read.
    rw [run.of_full (Nat.not_lt.mp unfilled)]
    exact .inl ⟨⟨_, rfl⟩, List.nil_prefix⟩

/-- **The bytes that the loop receives under two bounds**: if it ends well under the larger one, it
does so under the smaller one, and receives a beginning of the same bytes.

Nothing is said of the case in which the larger bound fails: then the smaller one may stop before
the place where the failure is. -/
theorem Gathering.received_prefix {m : μ} (parts : AnswersParts m) (less : bound₁ ≤ bound₂)
    {cursor : UserAddr} {buffer₁ buffer₂ : Buffer} {m₁ m₂ : μ}
    {o₁ o₂ : Outcome μ MemoryCall Errno (Buffer × Bool)} (after₁ : AfterReads m m₁)
    (after₂ : AfterReads m m₂) (same : buffer₁.length = buffer₂.length)
    (run₁ : Gathering bound₁ cursor buffer₁ m₁ o₁) (run₂ : Gathering bound₂ cursor buffer₂ m₂ o₂)
    (ok : ∃ found, o₂.result = .ok found) :
    (∃ found, o₁.result = .ok found) ∧ received o₁.events <+: received o₂.events := by
  -- Induction on the run under the larger bound. As long as both go on, they are at the same place
  -- and hold as many bytes.
  induction run₂ generalizing buffer₁ m₁ o₁ with
  | outside | refused =>
    -- These end with a refusal.
    obtain ⟨found, impossible⟩ := ok
    cases impossible
  | full full =>
    -- The larger bound is reached, and so is the smaller one.
    rw [run₁.of_full (by omega)]
    exact ⟨⟨_, rfl⟩, List.nil_prefix⟩
  | @ended cursor buffer₂ m₂ m₂' block unfilled inside answer zero =>
    -- The larger one ends in this chunk, and the smaller one has the beginning of it.
    rcases run₁.of_longer_chunk parts after₁ after₂ (same ▸ chunkSize_of_le less _ cursor) inside
        answer with ⟨ended, start⟩ | ⟨noZero, -⟩
    · exact ⟨ended, by simpa using start⟩
    · exact absurd zero noZero
  | @goesOn cursor next buffer₂ m₂ m₂' block rest₂ unfilled inside answer noZero moved run₂ ih =>
    -- The larger one goes on. The smaller one ends in this chunk, or it goes on at the same place.
    have all : received (rest₂.after
        [.copyIn cursor (chunkSize bound₂ buffer₂.length cursor) (.ok block.toList)]).events =
          block.toList ++ received rest₂.events := rfl
    rcases run₁.of_longer_chunk parts after₁ after₂ (same ▸ chunkSize_of_le less _ cursor) inside
        answer with ⟨ended, start⟩ | ⟨-, next₁, m₁', rest₁, moved₁, after₁', run₁, ended, all₁⟩
    · exact ⟨ended, all ▸ start.trans (List.prefix_append _ _)⟩
    · cases UserAddr.ext_toNat (moved₁.trans moved.symm)
      rw [ended, all, all₁, List.prefix_append_right_inj]
      refine ih after₁' (after₂.trans (.of_copyIn answer)) ?_ run₁ ok
      rw [Buffer.length_extended, Buffer.length_extended, same]

/-! ## The copy -/

/-- What comes behind the first zero byte does not matter.

What is read behind the string, up to the end of a chunk, does not get into the string. -/
theorem takeWhile_of_prefix {bytes more : List UInt8} (start : bytes <+: more) (zero : 0 ∈ bytes) :
    more.takeWhile (· ≠ 0) = bytes.takeWhile (· ≠ 0) ∧
      (bytes.takeWhile (· ≠ 0)).length < bytes.length := by
  have stops : bytes.takeWhile (· ≠ 0) ≠ bytes := by
    intro all
    rw [← all] at zero
    exact zero_notMem_takeWhile bytes zero
  have short : (bytes.takeWhile (· ≠ 0)).length < bytes.length :=
    Nat.lt_of_not_le fun long => stops ((List.takeWhile_prefix _).eq_of_length_le long)
  obtain ⟨rest, rfl⟩ := start
  rw [List.takeWhile_append, if_neg (Nat.ne_of_lt short)]
  exact ⟨rfl, short⟩

/-- If a string copy returns a string, so does a copy with a smaller bound, and it receives a
beginning of the same bytes.

The two copies may have been made in any order and at different times, from memories that only reads
have changed. -/
theorem inString_received_prefix {m m₁ m₂ m₂' : μ} (parts : AnswersParts m) (less : bound₁ ≤ bound₂)
    (after₁ : AfterReads m m₁) (after₂ : AfterReads m m₂) {c₁ c₂ : Conditions} {src : UserAddr}
    (granted : Buffer.CanReserve c₁ (bound₁ + 1)) {s : KernelString} {calls : List MemoryCall}
    (copy : inString c₂ src bound₂ m₂ = ⟨.ok s, m₂', calls⟩) :
    ∃ s₁ m₁' calls₁, inString c₁ src bound₁ m₁ = ⟨.ok s₁, m₁', calls₁⟩ ∧
      received calls₁ <+: received calls := by
  have limits : Buffer.reservationLimit < wordLimit := by decide
  have longer := inString_copies c₂ src bound₂ m₂
  have shorter := inString_copies c₁ src bound₁ m₁
  have bothEmpty : (⟨[], bound₁ + 1⟩ : Buffer).length = (⟨[], bound₂ + 1⟩ : Buffer).length := rfl
  rw [copy] at longer
  generalize inString c₁ src bound₁ m₁ = o at shorter ⊢
  cases longer with
  | copied _ run₂ =>
    cases shorter with
    -- With room for the larger bound there is room for the smaller one.
    | boundTooLarge large => exact absurd granted.2 (by omega)
    | noBuffer _ denied => exact absurd granted denied
    | refused _ run₁ =>
      -- The loop under the smaller bound does not fail.
      obtain ⟨⟨found, impossible⟩, -⟩ :=
        Gathering.received_prefix parts less after₁ after₂ bothEmpty run₁ run₂ ⟨_, rfl⟩
      cases impossible
    | copied _ run₁ =>
      have received := Gathering.received_prefix parts less after₁ after₂ bothEmpty run₁ run₂
        ⟨_, rfl⟩
      exact ⟨_, _, _, rfl, received.2⟩

/-- Of two strings that were received from the same bytes, the one with the smaller bound is as much
of the other one as fits.

Whether the end of the string arrived under the smaller bound decides between the two cases. -/
theorem ReceivesString.cut {src : UserAddr} {calls calls₁ : List MemoryCall} {s s₁ : KernelString}
    (shorter : ReceivesString src bound₁ calls₁ s₁) (longer : ReceivesString src bound₂ calls s)
    (start : received calls₁ <+: received calls) :
    s₁.bytes = s.bytes.take (min bound₁ s.length) ∧
      (s₁.truncated = false ↔ s.truncated = false ∧ s.length < bound₁) := by
  have within := shorter.within
  have whole := longer.truncated_iff
  rw [KernelString.length, longer.bytes, shorter.bytes]
  by_cases zero : 0 ∈ received calls₁
  · -- The end of the string is among the bytes that both received.
    obtain ⟨same, short⟩ := takeWhile_of_prefix start zero
    have ended : s₁.truncated = false := by simpa [zero] using shorter.truncated_iff
    have endedBoth : s.truncated = false := by simpa [start.subset zero] using whole
    rw [same, List.take_of_length_le (by omega)]
    exact ⟨rfl, by simp only [ended, endedBoth, true_and, true_iff]; omega⟩
  · -- The smaller bound comes first, and all bytes up to it are part of both strings.
    have cut : s₁.truncated = true := shorter.truncated_iff.mpr zero
    have full := shorter.full cut
    have nonzero : ∀ byte ∈ received calls₁, decide (byte ≠ 0) = true := by
      intro byte inside
      exact decide_eq_true fun isZero => zero (isZero ▸ inside)
    obtain ⟨rest, all⟩ := start
    rw [← all, List.takeWhile_append_of_pos nonzero, List.length_append, full,
      Nat.min_eq_left (Nat.le_add_right _ _), ← full, List.take_left]
    refine ⟨by simpa using nonzero, ?_⟩
    simp only [cut, Bool.true_eq_false, false_iff, not_and]
    omega

/-- **String copies with two bounds**: if the copy with the larger bound returns a string, the one
with the smaller bound returns as much of it as fits, and marks it as truncated unless it is the
whole string with room to spare. So a larger bound changes no byte that was returned and cuts no
string that was whole, and a copy that fails also fails with a larger bound.

Copies of names and of paths differ in their bounds only, so this compares what they would do with
the same string. -/
theorem inString_cut {m m₁ m₂ : μ} (parts : AnswersParts m) (after₁ : AfterReads m m₁)
    (after₂ : AfterReads m m₂) {c₁ : Conditions} (c₂ : Conditions) (src : UserAddr)
    (less : bound₁ ≤ bound₂) (granted : Buffer.CanReserve c₁ (bound₁ + 1)) :
    let shorter := (inString c₁ src bound₁ m₁).result
    let longer := (inString c₂ src bound₂ m₂).result
    (∀ s, longer = .ok s → ∃ s₁, shorter = .ok s₁ ∧ s₁.bytes = s.bytes.take (min bound₁ s.length) ∧
      (s₁.truncated = false ↔ s.truncated = false ∧ s.length < bound₁)) ∧
    (∀ s s₁, longer = .ok s → shorter = .ok s₁ → s₁.bytes <+: s.bytes ∧
      (s₁.truncated = false → s.bytes = s₁.bytes ∧ s.truncated = false)) ∧
    ∀ halt₁, shorter = .error halt₁ → ∃ halt, longer = .error halt := by
  intro shorter longer
  -- The first part, for the string that the longer copy returns; the others follow from it.
  have cut (s : KernelString) (returned : longer = .ok s) :
      ∃ s₁, shorter = .ok s₁ ∧ s₁.bytes = s.bytes.take (min bound₁ s.length) ∧
        (s₁.truncated = false ↔ s.truncated = false ∧ s.length < bound₁) := by
    rcases copy : inString c₂ src bound₂ m₂ with ⟨result, m₂', calls⟩
    cases (congrArg Outcome.result copy).symm.trans returned
    obtain ⟨s₁, m₁', calls₁, copy₁, start⟩ :=
      inString_received_prefix parts less after₁ after₂ granted copy
    exact ⟨s₁, congrArg Outcome.result copy₁,
      (inString_receives copy₁).cut (inString_receives copy) start⟩
  refine ⟨cut, ?_, ?_⟩
  · -- The bytes that were returned stay, and a string that was whole is not cut.
    intro s s₁ returned returned₁
    obtain ⟨s', same, bytes, whole⟩ := cut s returned
    cases returned₁.symm.trans same
    refine ⟨bytes ▸ List.take_prefix _ _, fun ended => ?_⟩
    obtain ⟨endedBoth, room⟩ := whole.mp ended
    have fits : s.bytes.length ≤ min bound₁ s.length :=
      Nat.le_min.mpr ⟨Nat.le_of_lt room, Nat.le_refl _⟩
    rw [bytes, List.take_of_length_le fits]
    exact ⟨rfl, endedBoth⟩
  · -- A failure under the smaller bound excludes a success under the larger one.
    intro halt₁ failed
    cases failedToo : longer with
    | error halt => exact ⟨halt, rfl⟩
    | ok s =>
      obtain ⟨s₁, returned, -⟩ := cut s failedToo
      cases failed.symm.trans returned

end Copy

/-! ## Memories given by their pages -/

/-- The bytes of a part of a range are those that stand there. -/
theorem Pages.take_drop_bytesFrom (pages : Pages) {start len offset size : Nat}
    (within : offset + size ≤ len) :
    ((pages.bytesFrom start len).drop offset).take size =
      pages.bytesFrom (start + offset) size := by
  obtain ⟨more, rfl⟩ := Nat.exists_eq_add_of_le within
  rw [Nat.add_assoc, bytesFrom_add, List.drop_left' (pages.length_bytesFrom _ _),
    take_bytesFrom (Nat.le_add_right _ _)]

/-- A memory given by its pages answers for parts: their pages are among those of the range. -/
theorem PagedMemory.answersParts (m : PagedMemory) : UserMemory.AnswersParts m := by
  have unchanged {m' : PagedMemory} (h : UserMemory.AfterReads m m') : m' = m :=
    h.eq_of_pure fun _ _ _ => rfl
  intro m₁ m₂ after₁ after₂ src part len offset size bytes read place pos within
  rw [unchanged after₁] at read
  rw [unchanged after₂]
  by_cases held : m.holds src.toNat len = true
  · -- The range is accessible, and every part of it is.
    have bytesOf : bytes = m.pages.bytesFrom src.toNat len := by
      simpa [UserMemory.copyIn, held, Except.map] using read.symm
    have heldPart : m.holds part.toNat size = true := by
      simp only [PagedMemory.holds, List.all_eq_true, List.mem_range] at held ⊢
      intro i below
      rw [place, Nat.add_assoc]
      exact held (offset + i) (by omega)
    rw [bytesOf, m.pages.take_drop_bytesFrom within, ← place]
    simp [UserMemory.copyIn, heldPart, Except.map]
  · -- The range was not read.
    simp [UserMemory.copyIn, held, Except.map] at read

/-- A name of six bytes crosses into another page. The larger bound reaches its end, and the smaller
one leaves it truncated within the first page. -/
theorem Copy.inString_cut_name :
    let m : PagedMemory := ⟨fun page => page == 0x400 || page == 0x401,
      fun addr => if 0x400FFC ≤ addr ∧ addr < 0x401002 then 97 else 0⟩
    let c : Conditions := ⟨.off, .none⟩
    UserMemory.AnswersParts m ∧ Buffer.CanReserve c 4 ∧
      (inString c ⟨0x400FFC⟩ 255 m).result.map (fun s => (s.bytes, s.truncated)) =
        .ok (List.replicate 6 97, false) ∧
      ∃ s₁, (inString c ⟨0x400FFC⟩ 3 m).result = .ok s₁ ∧ s₁.bytes = [97, 97, 97] ∧
        s₁.truncated = true := by
  intro m c
  have granted : Buffer.CanReserve c 4 := ⟨rfl, by decide⟩
  have large : (inString c ⟨0x400FFC⟩ 255 m).result.map (fun s => (s.bytes, s.truncated)) =
      .ok (List.replicate 6 97, false) := by decide +kernel
  have less : 3 ≤ 255 := by decide
  have cut := (inString_cut m.answersParts .none .none c ⟨0x400FFC⟩ less granted).1
  refine ⟨m.answersParts, granted, large, ?_⟩
  rcases returned : (inString c ⟨0x400FFC⟩ 255 m).result with halt | s
  · rw [returned] at large
    cases large
  · rw [returned] at large
    obtain ⟨bytes, whole⟩ := Prod.mk.inj (Except.ok.inj large)
    obtain ⟨s₁, returned₁, bytes₁, whole₁⟩ := cut s returned
    simp only [KernelString.length, bytes, whole] at bytes₁ whole₁
    exact ⟨s₁, returned₁, bytes₁, by simpa using whole₁⟩

end SyscallGate
