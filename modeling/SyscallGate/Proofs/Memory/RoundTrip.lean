import SyscallGate.Proofs.Memory.Strings

/-!
# Strings that were copied out

A string that the kernel copies out can be copied in again. The copy out checks its whole range and
stores it at once, while the copy in reads chunks that end where pages end, and may ask for bytes
behind the string. The two agree in a memory that is readable page by page: the pages that took the
bytes are the ones that the chunks meet.

## Main definitions

- `UserMemory.Paged`: the memories of a type are given by their pages, before and after each access.

## Main results

- `Copy.CopiesOut.holds`: what the pages hold after a copy out.
- `Copy.inString_returns_stored`: a string copy returns the string that was copied out.
-/

namespace SyscallGate

variable {μ : Type} [UserMemory μ]

/-- Reads are answered from pages. Bytes that are accepted go to pages that can be read, and the
same pages can be read afterwards.

This is what a copy out and a copy in have to agree on: the bytes go where they are read from, and
to write does not make a page appear or go away. -/
structure UserMemory.Paged (pages : μ → Pages) : Prop where
  backs : ∀ m, (pages m).Backs m
  stores : Stores fun m => (pages m).byte
  accepts : ∀ (bytes : List UInt8) (dst : UserAddr) (m m' : μ), copyOut bytes dst m = (.ok (), m') →
    ∀ i < bytes.length, (pages m).readable ((dst.toNat + i) / pageSize)
  keeps : ∀ (bytes : List UInt8) (dst : UserAddr) (m m' : μ), copyOut bytes dst m = (.ok (), m') →
    (pages m').readable = (pages m).readable

namespace Pages

variable {pages : Pages}

/-! ## Bytes that were put in place -/

/-- What was put in place is what is there. -/
theorem bytesFrom_overlay {byte : Nat → UInt8} {start : Nat} {bytes : List UInt8}
    (stored : pages.byte = overlay byte start bytes) :
    pages.bytesFrom start bytes.length = bytes := by
  refine List.ext_getElem (length_bytesFrom _ _) ?_
  intro i _ below
  simp [bytesFrom, stored, overlay, below]

/-- The string ends at the zero byte that comes behind its bytes.

The bytes and the zero byte stand next to each other, so the two together are one range. -/
theorem endsAt_of_bytesFrom {start : Nat} {name : List UInt8} (noZero : 0 ∉ name)
    (held : pages.bytesFrom start (name.length + 1) = name ++ [0])
    (good : ∀ i ≤ name.length, pages.Good (start + i)) : pages.EndsAt start name.length := by
  rw [bytesFrom_add] at held
  -- The range of the name and its zero byte is cut in two.
  obtain ⟨bytes, zero⟩ := List.append_inj held (length_bytesFrom _ _)
  refine ⟨good, List.head_eq_of_cons_eq zero, ?_⟩
  intro i below isZero
  apply noZero
  rw [← bytes]
  exact zero_mem_bytesFrom_iff.mpr ⟨i, below, isZero⟩

/-- A string that ends is read as far as the bound allows.

Which of the two it is depends on the bound only. A fault would mean a bad address before the end of
the string, where all addresses are good. -/
theorem EndsAt.read {start k bound : Nat} {result : Except (Halt Errno) (List UInt8 × Bool)}
    (ends : pages.EndsAt start k) (reads : pages.Reads start bound result) :
    (k < bound → result = .ok (pages.bytesFrom start k, true)) ∧
      (bound ≤ k → result = .ok (pages.bytesFrom start bound, false)) := by
  cases reads with
  | whole before ends' =>
    -- Another end would be the same one, and it is before the bound.
    cases ends.unique ends'
    exact ⟨fun _ => rfl, fun short => absurd before (Nat.not_lt.mpr short)⟩
  -- The end is not before the bound, so the string was cut.
  | cut noEnd => exact ⟨fun before => absurd ends (noEnd k before), fun _ => rfl⟩
  | fault noEnd bad =>
    obtain ⟨i, below, isBad⟩ := bad
    refine ⟨fun before => absurd ends (noEnd k before), fun short => ?_⟩
    exact absurd (ends.good i (Nat.le_trans (Nat.le_of_lt below) short)) isBad

end Pages

namespace Copy

variable {pages : μ → Pages}

/-- A copy out has one of its outcomes, with an answer and without a panic. -/
theorem outBytes_copiesOut (bytes : List UInt8) (dst : UserAddr) (m : μ) :
    ∃ answer : Except Errno Unit, (outBytes bytes dst m).result = answer.mapError .refused ∧
      CopiesOut bytes dst m answer (outBytes bytes dst m).state (outBytes bytes dst m).events := by
  obtain ⟨answer, m', calls, copy⟩ := outBytes_answers bytes dst m
  rw [copy]
  exact ⟨answer, rfl, copiesOut_of_eq copy⟩

/-- **What the pages hold after a copy out** that succeeded: its bytes, at good addresses.

The address of each byte is in user space, for the copy has checked the range, and its page can be
read, for the memory has accepted the bytes. -/
theorem CopiesOut.holds (paged : UserMemory.Paged pages) {bytes : List UInt8} {dst : UserAddr}
    {m m' : μ} {calls : List MemoryCall} (copied : CopiesOut bytes dst m (.ok ()) m' calls) :
    (pages m').bytesFrom dst.toNat bytes.length = bytes ∧
      ∀ i < bytes.length, (pages m').Good (dst.toNat + i) := by
  refine ⟨Pages.bytesFrom_overlay (copied.byteAt_eq paged.stores), ?_⟩
  intro i below
  cases copied with
  | nothing empty =>
    -- Nothing was copied, so there is no byte to speak of.
    rw [empty] at below
    cases below
  | asked _ inside stored =>
    -- The range was checked, and the memory has stored the bytes.
    obtain ⟨pos, top⟩ := inside
    refine ⟨by omega, by omega, ?_⟩
    rw [paged.keeps bytes dst m m' stored]
    exact paged.accepts bytes dst m m' stored i below

/-- A copy out that fails has asked the memory once and was refused, or it has changed nothing.

There is no third way, since an empty copy succeeds. -/
theorem CopiesOut.fails {bytes : List UInt8} {dst : UserAddr} {m m' : μ} {e : Errno}
    {calls : List MemoryCall} (copied : CopiesOut bytes dst m (.error e) m' calls) :
    calls = [.copyOut bytes dst (.error e)] ∨
      (¬ InUserSpace dst bytes.length ∧ e = .efault ∧ m' = m ∧ calls = []) := by
  cases copied with
  | outside _ outside => exact .inr ⟨outside, rfl, rfl, rfl⟩
  | asked => exact .inl rfl

/-- What a string copy returns if the string ends.

The string is read as a whole if it ends before the bound. This is the second half of the round
trip, and it knows nothing of the copy out. -/
theorem inString_of_endsAt {held : Pages} {m : μ} (backs : held.Backs m) {src : UserAddr} {k : Nat}
    (ends : held.EndsAt src.toNat k) {c : Conditions} {bound : Nat}
    (granted : Buffer.CanReserve c (bound + 1)) :
    let result := (inString c src bound m).result
    (k < bound →
      ∃ s, result = .ok s ∧ s.bytes = held.bytesFrom src.toNat k ∧ s.truncated = false) ∧
    (bound ≤ k →
      ∃ s, result = .ok s ∧ s.bytes = held.bytesFrom src.toNat bound ∧ s.truncated = true) := by
  intro result
  have reads : held.Reads src.toNat bound (result.map fun s => (s.bytes, !s.truncated)) :=
    inString_reads backs src granted
  clear_value result
  obtain ⟨whole, cut⟩ := ends.read reads
  cases result with
  | error halt =>
    -- A string that ends is never answered with a fault.
    refine ⟨fun before => ?_, fun short => ?_⟩
    · cases whole before
    · cases cut short
  | ok s =>
    -- The answer is a string, and it is marked as the reads say.
    refine ⟨fun before => ?_, fun short => ?_⟩
    · obtain ⟨bytes, found⟩ := Prod.mk.inj (Except.ok.inj (whole before))
      exact ⟨s, rfl, bytes, by simpa using found⟩
    · obtain ⟨bytes, missed⟩ := Prod.mk.inj (Except.ok.inj (cut short))
      exact ⟨s, rfl, bytes, by simpa using missed⟩

/-- **What is copied out can be copied in**: after a string with a zero byte and any other bytes
behind it were copied out, a string copy from there returns the string, or as much of it as the
bound allows, marked as truncated. A copy out that fails has been refused by the memory, unless its
range is not in user space; then it has not asked the memory and has changed nothing.

The chunks of the copy in need not be aligned with what was copied out. They meet the same pages,
and the zero byte keeps the copy from going beyond them. -/
theorem inString_returns_stored (paged : UserMemory.Paged pages) (dst : UserAddr) (m : μ) :
    (∀ name tail : List UInt8, 0 ∉ name →
      let copied := outBytes (name ++ 0 :: tail) dst m
      copied.result = .ok () → ∀ (c : Conditions) (bound : Nat), Buffer.CanReserve c (bound + 1) →
        let back := inString c dst bound copied.state
        (name.length < bound →
          ∃ s, back.result = .ok s ∧ s.bytes = name ∧ s.truncated = false) ∧
        (bound ≤ name.length →
          ∃ s, back.result = .ok s ∧ s.bytes = name.take bound ∧ s.truncated = true)) ∧
    ∀ (bytes : List UInt8) (halt : Halt Errno),
      let copied := outBytes bytes dst m
      copied.result = .error halt →
        (∃ e, halt = .refused e ∧ copied.events = [.copyOut bytes dst (.error e)]) ∨
        (¬ InUserSpace dst bytes.length ∧ halt = .refused .efault ∧ copied.state = m ∧
          copied.events = []) := by
  constructor
  · -- The copy out succeeds, so the pages hold its bytes.
    intro name tail noZero copied succeeds c bound granted
    obtain ⟨answer, answered, stores⟩ := outBytes_copiesOut (name ++ 0 :: tail) dst m
    cases answer with
    | error e => cases succeeds.symm.trans answered
    | ok done =>
      obtain ⟨held, good⟩ := stores.holds paged
      have behind : name.length + 1 ≤ (name ++ 0 :: tail).length := by
        rw [List.length_append, List.length_cons]
        omega
      -- The bytes begin with the string, and its zero byte comes next.
      have beginning {size : Nat} (within : size ≤ (name ++ 0 :: tail).length) :
          (pages copied.state).bytesFrom dst.toNat size = (name ++ 0 :: tail).take size := by
        rw [← Pages.take_bytesFrom within, held]
      have withZero :
          (pages copied.state).bytesFrom dst.toNat (name.length + 1) = name ++ [0] := by
        rw [beginning behind, List.take_length_add_append, List.take_one]
        rfl
      have ends := Pages.endsAt_of_bytesFrom noZero withZero
        (fun i upTo => good i (by omega))
      obtain ⟨whole, cut⟩ := inString_of_endsAt (paged.backs copied.state) ends granted
      -- As far as the bound allows: the whole name, or its beginning.
      rw [beginning (Nat.le_of_lt behind), List.take_left] at whole
      refine ⟨whole, fun short => ?_⟩
      rw [beginning (Nat.le_trans short (Nat.le_of_lt behind)),
        List.take_append_of_le_length short] at cut
      exact cut short
  · -- The copy out fails.
    intro bytes halt copied failed
    obtain ⟨answer, answered, stores⟩ := outBytes_copiesOut bytes dst m
    cases answer with
    | error e =>
      cases failed.symm.trans answered
      rcases stores.fails with asked | ⟨outside, rfl, unchanged⟩
      · exact .inl ⟨e, rfl, asked⟩
      · exact .inr ⟨outside, rfl, unchanged⟩
    | ok done => cases failed.symm.trans answered

end Copy

/-! ## Memories given by their pages -/

/-- A memory that is given by its pages is one of these. -/
theorem PagedMemory.paged : UserMemory.Paged PagedMemory.pages where
  backs := backs
  stores := stores
  -- The pages of an accepted range are accessible, byte by byte.
  accepts := by
    intro bytes dst m m' stored i below
    simp only [UserMemory.copyOut] at stored
    split at stored
    case isTrue held =>
      simp only [holds, List.all_eq_true, List.mem_range] at held
      exact held i below
    case isFalse => cases stored
  -- Writing changes bytes and no page.
  keeps := by
    intro bytes dst m m' stored
    simp only [UserMemory.copyOut] at stored
    split at stored <;> cases stored
    rfl

/-- A string of three bytes is copied out to the end of user space, over bytes that are not zero.
The copy in stops at the zero byte with one bound, and is truncated with another one. -/
theorem Copy.inString_returns_stored_at_top :
    let m : PagedMemory := ⟨fun page => page == 0x7FFFF, fun _ => 7⟩
    let c : Conditions := ⟨.off, .none⟩
    let copied := outBytes [97, 98, 99, 0, 100] ⟨0x7FFFFFFB⟩ m
    Buffer.CanReserve c 256 ∧ Buffer.CanReserve c 3 ∧ copied.result = .ok () ∧
      (∃ s, (inString c ⟨0x7FFFFFFB⟩ 255 copied.state).result = .ok s ∧ s.bytes = [97, 98, 99] ∧
        s.truncated = false) ∧
      ∃ s, (inString c ⟨0x7FFFFFFB⟩ 2 copied.state).result = .ok s ∧ s.bytes = [97, 98] ∧
        s.truncated = true := by
  intro m c copied
  have large : Buffer.CanReserve c 256 := ⟨rfl, by decide⟩
  have small : Buffer.CanReserve c 3 := ⟨rfl, by decide⟩
  have succeeds : copied.result = .ok () := rfl
  have returned := (inString_returns_stored PagedMemory.paged ⟨0x7FFFFFFB⟩ m).1 [97, 98, 99] [100]
    (by decide) succeeds c
  exact ⟨large, small, succeeds, (returned 255 large).1 (by decide),
    (returned 2 small).2 (by decide)⟩

end SyscallGate
