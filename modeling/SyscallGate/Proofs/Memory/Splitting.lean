import SyscallGate.Proofs.Memory.Strings
import SyscallGate.Proofs.Memory.Sweep

/-!
# Checking a range in parts

The check of a range is additive: a range passes exactly when its beginning and its rest pass. That
is why a string copy, which checks one chunk after the other, needs no check of the whole. If no
chunk holds the end of the string, the copy reaches its bound exactly when the range up to the bound
would pass at once, and it faults if not.

## Main definitions

- `UserRange.Accepts`: the check lets a range through.
- `UserRange.CheckedExactly`: which ranges the check lets through, in unbounded numbers.
- `UserRange.CheckedInParts`: how the check of a range and the checks of its parts are related.
- `Copy.ChecksAsWhole`: the checks of a string copy amount to one check.

## Main results

- `UserRange.accepts_add`: the check is additive.
- `Copy.Gathering.checks`: the chunks of the loop pass as their whole would.
- `UserRange.check_whole_and_in_parts`: the check is exact and additive, in the loop too.
-/

namespace SyscallGate

variable {d : Direction} {addr : UserAddr} {len : Nat}

namespace UserRange

/-! ## Ranges -/

/-- The check lets a range through.

An empty range passes wherever it is, even at the null address and beyond the end of user space, so
a range that passes need not lie in user space. -/
def Accepts (d : Direction) (addr : UserAddr) (len : Nat) : Prop :=
  ∃ r, check d addr len = .ok r

theorem check_of_inUser (inUser : len = 0 ∨ InUserSpace addr len) :
    check d addr len = .ok ⟨addr, len, inUser⟩ := by
  rw [check_eq, dif_pos inUser]

theorem check_of_not_inUser (outside : ¬ (len = 0 ∨ InUserSpace addr len)) :
    check d addr len = .error .efault := by
  rw [check_eq, dif_neg outside]

theorem accepts_iff : Accepts d addr len ↔ len = 0 ∨ InUserSpace addr len := by
  constructor
  · intro ⟨r, checked⟩
    obtain ⟨rfl, rfl⟩ := check_addr_len checked
    exact r.inUser
  · intro inUser
    exact ⟨_, check_of_inUser inUser⟩

theorem check_of_not_accepts (refused : ¬ Accepts d addr len) :
    check d addr len = .error .efault :=
  check_of_not_inUser fun inUser => refused (accepts_iff.mpr inUser)

/-- Behind a range that the check lets through, there is an address.

The sum of the numbers is a machine word: a range in user space ends far below the last word, and an
empty range leaves the address where it is. -/
theorem Accepts.add?_eq_some (accepted : Accepts d addr len) :
    addr.add? len = some (.ofNat (addr.toNat + len)) := by
  have top : userTop < wordLimit := by decide
  have small : addr.toNat + len < wordLimit := by
    cases accepts_iff.mp accepted with
    | inl empty =>
      rw [empty]
      exact addr.toNat_lt
    | inr inside => exact Nat.lt_of_le_of_lt inside.2 top
  exact if_pos small

/-- **The check is additive**: it lets a range through exactly when it lets through the beginning
and the rest. A rest that wraps around is no exception, since there is no beginning before it. -/
theorem accepts_add (addr : UserAddr) (first second : Nat) :
    Accepts d addr (first + second) ↔
      Accepts d addr first ∧ Accepts d (.ofNat (addr.toNat + first)) second := by
  by_cases accepted : Accepts d addr first
  -- Behind an accepted beginning, the place of the rest is the sum of the numbers. The three ranges
  -- are then compared by their ends.
  · have place : (UserAddr.ofNat (addr.toNat + first)).toNat = addr.toNat + first :=
      UserAddr.add?_eq_some_iff.mp accepted.add?_eq_some
    have ends := accepts_iff.mp accepted
    rw [accepts_iff] at accepted
    rw [accepts_iff, accepts_iff, accepts_iff, and_iff_right accepted]
    unfold InUserSpace at ends ⊢
    rw [place]
    omega
  · have outside := accepted
    -- A refused beginning is not empty, and the whole range is not in user space either: it begins
    -- at null, or reaches at least as far.
    rw [accepts_iff] at outside
    rw [accepts_iff]
    unfold InUserSpace at outside ⊢
    constructor
    · omega
    · intro ⟨beginning, _⟩
      exact absurd beginning accepted

/-- Every part of a range that the check lets through is let through.

The part is the rest of a beginning of the range, so it takes two cuts. -/
theorem Accepts.part (accepted : Accepts d addr len) {offset size : Nat}
    (within : offset + size ≤ len) :
    ∃ start, addr.add? offset = some start ∧ Accepts d start size := by
  -- First what follows the part is cut off, then what stands before it.
  obtain ⟨behind, rfl⟩ := Nat.exists_eq_add_of_le within
  obtain ⟨beginning, -⟩ := (accepts_add addr (offset + size) behind).mp accepted
  obtain ⟨before, part⟩ := (accepts_add addr offset size).mp beginning
  exact ⟨_, before.add?_eq_some, part⟩

/-- The check of the ranges at an address, in unbounded numbers. What it lets through is what was
asked for. -/
structure CheckedExactly (d : Direction) (addr : UserAddr) : Prop where
  accepts_iff (len : Nat) :
    (∃ r, check d addr len = .ok r ∧ r.addr = addr ∧ r.len = len) ↔
      len = 0 ∨ 1 ≤ addr.toNat ∧ addr.toNat + len ≤ 0x80000000
  faults_iff (len : Nat) :
    check d addr len = .error .efault ↔
      ¬ (len = 0 ∨ 1 ≤ addr.toNat ∧ addr.toNat + len ≤ 0x80000000)

/-- The checks of the parts of a range at an address.

There are two ways to name the place where the rest begins. As a word, the sum may wrap around; as
an address that moves, it may fail to exist. A beginning that passes excludes both. -/
structure CheckedInParts (d : Direction) (addr : UserAddr) : Prop where
  /-- The rest of a range begins at the sum of the numbers, as a word. -/
  add_iff (first second : Nat) :
    Accepts d addr (first + second) ↔
      Accepts d addr first ∧ Accepts d (.ofNat (addr.toNat + first)) second
  /-- The rest of a range begins where the address moves to, if it can. -/
  add?_iff (first second : Nat) :
    Accepts d addr (first + second) ↔
      Accepts d addr first ∧ ∃ next, addr.add? first = some next ∧ Accepts d next second
  part (len offset size : Nat) : Accepts d addr len → offset + size ≤ len →
    ∃ start, addr.add? offset = some start ∧ Accepts d start size

theorem checkedExactly (d : Direction) (addr : UserAddr) : CheckedExactly d addr where
  accepts_iff len := by
    constructor
    · intro ⟨r, checked, _⟩
      exact accepts_iff.mp ⟨r, checked⟩
    · intro inUser
      exact ⟨_, check_of_inUser inUser, rfl, rfl⟩
  faults_iff len := by
    constructor
    · intro faulted inUser
      -- A range in user space is let through, so it does not fault.
      cases (check_of_inUser inUser).symm.trans faulted
    · intro outside
      exact check_of_not_inUser outside

theorem checkedInParts (d : Direction) (addr : UserAddr) : CheckedInParts d addr where
  add_iff := accepts_add addr
  add?_iff first second := by
    rw [accepts_add]
    constructor
    -- From the sum as a word to the address that moves there, and back.
    · intro ⟨beginning, rest⟩
      exact ⟨beginning, _, beginning.add?_eq_some, rest⟩
    · intro ⟨beginning, next, moved, rest⟩
      cases beginning.add?_eq_some.symm.trans moved
      exact ⟨beginning, rest⟩
  part _ _ _ := fun accepted within => accepted.part within

end UserRange

/-! ## The chunks of a string copy -/

namespace Copy

variable {μ : Type} [UserMemory μ] {bound : Nat}

open UserRange (Accepts)

/-- What a copy returns if it reaches its bound, provided that the check lets a range through. -/
def onceChecked (addr : UserAddr) (len : Nat) : Except (Halt Errno) Bool :=
  ((UserRange.check .read addr len).map fun _ => true).mapError .refused

theorem onceChecked_of_accepts (accepted : Accepts .read addr len) :
    onceChecked addr len = .ok true := by
  obtain ⟨r, checked⟩ := accepted
  rw [onceChecked, checked]
  rfl

theorem onceChecked_of_not_accepts (refused : ¬ Accepts .read addr len) :
    onceChecked addr len = .error (.refused .efault) := by
  rw [onceChecked, UserRange.check_of_not_accepts refused]
  rfl

/-- Behind a chunk in user space, one check of the rest decides as one check of the whole.

This is the step from one round of the loop to the next: the chunk has passed, and what is left is
shorter by it. -/
theorem onceChecked_chunk {cursor next : UserAddr} {chunk : Nat} (inside : InUserSpace cursor chunk)
    (moved : next.toNat = cursor.toNat + chunk) (within : chunk ≤ len) :
    onceChecked next (len - chunk) = onceChecked cursor len := by
  obtain ⟨rest, rfl⟩ := Nat.exists_eq_add_of_le within
  have accepted : Accepts .read cursor chunk := UserRange.accepts_iff.mpr (.inr inside)
  have place : next = .ofNat (cursor.toNat + chunk) :=
    Option.some.inj ((UserAddr.add?_eq_some_iff.mpr moved).symm.trans accepted.add?_eq_some)
  have splits := UserRange.accepts_add (d := .read) cursor chunk rest
  -- The next chunk begins at the sum of the numbers, by the additive law either way.
  rw [Nat.add_sub_cancel_left, place]
  by_cases whole : Accepts .read cursor (chunk + rest)
  · rw [onceChecked_of_accepts whole, onceChecked_of_accepts (splits.mp whole).2]
  · -- The chunk passed, so it is the rest that keeps the whole from passing.
    have behind : ¬ Accepts .read (.ofNat (cursor.toNat + chunk)) rest :=
      fun rest => whole (splits.mpr ⟨accepted, rest⟩)
    rw [onceChecked_of_not_accepts whole, onceChecked_of_not_accepts behind]

/-- A chunk that is not in user space is part of no range that passes.

A chunk begins where the range begins and is no longer than what is missing, so a range in user
space would have it in user space. -/
theorem not_accepts_of_chunk {held : Nat} {cursor : UserAddr} (unfilled : held < bound)
    (outside : ¬ InUserSpace cursor (chunkSize bound held cursor)) :
    ¬ Accepts .read cursor (bound - held) := by
  have pos := chunkSize_pos cursor unfilled
  have within := chunkSize_le_missing bound held cursor
  intro accepted
  -- What is missing is not empty, since something is left to read.
  cases UserRange.accepts_iff.mp accepted with
  | inl empty => omega
  | inr inside => exact outside (inside.beginning within)

/-- **The chunks of the loop pass as their whole would**, provided that each of them is read without
a zero byte.

Going on after each chunk is what makes the loop check more. If a chunk is refused or ends the
string, the rest of the range is never looked at, and the loop says nothing about it. -/
theorem Gathering.checks {cursor : UserAddr} {buffer : Buffer} {m : μ}
    {o : Outcome μ MemoryCall Errno (Buffer × Bool)} (run : Gathering bound cursor buffer m o)
    (fits : buffer.length ≤ bound) (passed : ∀ call ∈ o.events, call.Passed) :
    (o.result.map fun ended => !ended.2) = onceChecked cursor (bound - buffer.length) := by
  -- Induction on the derivation. A round that goes on leaves the rest of the range to check.
  induction run with
  | @full cursor buffer m full =>
    -- Nothing is missing, and the empty range passes: the copy is at its bound.
    have empty : bound - buffer.length = 0 := Nat.sub_eq_zero_of_le full
    rw [empty, onceChecked_of_accepts (UserRange.accepts_iff.mpr (.inl rfl))]
    rfl
  | outside unfilled outside =>
    -- The first chunk of what is missing is refused, and so is all of it.
    rw [onceChecked_of_not_accepts (not_accepts_of_chunk unfilled outside)]
    rfl
  | refused =>
    -- A chunk that the memory refuses, or that ends the string, is excluded.
    exact absurd (passed _ (List.mem_singleton.mpr rfl)) MemoryCall.not_passed_of_error
  | ended _ _ _ zero =>
    exact absurd (passed _ (List.mem_singleton.mpr rfl)) (MemoryCall.not_passed_of_zero zero)
  | @goesOn cursor next buffer m m' block rest unfilled inside answer noZero moved run ih =>
    -- The chunk was read without a zero byte. What is still missing is the rest behind it.
    have within := chunkSize_le_missing bound buffer.length cursor
    have longer := buffer.length_extended block.toList
    rw [block.length_toList] at longer
    have later := ih (by omega) fun call inRest => passed call (List.mem_cons_of_mem _ inRest)
    rw [longer, ← Nat.sub_sub] at later
    exact later.trans (onceChecked_chunk inside moved within)

/-- If the whole range passes, then the loop is refused by the memory only.

A fault of the loop itself would be a chunk outside user space, of which an accepted range has none.
So an error of the loop is the answer of one of its reads. -/
theorem Gathering.answered {cursor : UserAddr} {buffer : Buffer} {m : μ} {e : Errno}
    {o : Outcome μ MemoryCall Errno (Buffer × Bool)} (run : Gathering bound cursor buffer m o)
    (accepted : Accepts .read cursor (bound - buffer.length))
    (refused : o.result = .error (.refused e)) :
    ∃ src len, .copyIn src len (.error e) ∈ o.events := by
  induction run with
  | full | ended =>
    -- The loop is through without a refusal.
    cases refused
  | outside unfilled outside => exact absurd accepted (not_accepts_of_chunk unfilled outside)
  | refused unfilled inside answer =>
    -- The memory refuses the chunk at hand, with this very error.
    cases refused
    exact ⟨_, _, List.mem_singleton.mpr rfl⟩
  | @goesOn cursor next buffer m m' block rest unfilled inside answer noZero moved run ih =>
    -- The rest behind a chunk is a part of the range, and passes like the whole.
    have within := chunkSize_le_missing bound buffer.length cursor
    have longer := buffer.length_extended block.toList
    rw [block.length_toList] at longer
    obtain ⟨behind, moved', accepted'⟩ := accepted.part (Nat.le_of_eq (Nat.add_sub_cancel' within))
    cases (UserAddr.add?_eq_some_iff.mpr moved).symm.trans moved'
    obtain ⟨src, len, called⟩ := ih (by rwa [longer, ← Nat.sub_sub]) refused
    exact ⟨src, len, List.mem_cons_of_mem _ called⟩

/-- The checks of a string copy amount to one check of everything up to the bound.

This is why the loop needs no check in advance: as long as nothing else ends it, it behaves as if
the range up to the bound had been checked at once. -/
structure ChecksAsWhole (src : UserAddr) (bound : Nat)
    (o : Outcome μ MemoryCall Errno KernelString) : Prop where
  /-- If no chunk is refused by the memory or holds the end of the string, the copy reaches the
  bound or faults, as one check of the whole range decides. -/
  reaches : (∀ call ∈ o.events, call.Passed) →
    o.result.map KernelString.truncated =
      ((UserRange.check .read src bound).map fun _ => true).mapError .refused
  /-- If the whole range passes, then only the memory refuses anything. -/
  answered : Accepts .read src bound → ∀ e, o.result = .error (.refused e) →
    ∃ chunk len, .copyIn chunk len (.error e) ∈ o.events

/-- The loop begins with an empty buffer at the address itself, so what its chunks amount to is the
whole range. With room for the bound, the two refusals before the loop do not arise. -/
theorem inString_checksAsWhole {c : Conditions} (src : UserAddr)
    (granted : Buffer.CanReserve c (bound + 1)) (m : μ) :
    ChecksAsWhole src bound (inString c src bound m) := by
  -- Either the loop was refused, or it ended. In both cases its run is at hand.
  have outcome := inString_copies c src bound m
  have limit : Buffer.reservationLimit < wordLimit := by decide
  generalize inString c src bound m = o at outcome
  cases outcome with
  | boundTooLarge large => exact absurd granted.2 (by omega)
  | noBuffer _ denied => exact absurd granted denied
  | refused _ run =>
    -- The loop was refused: its result is the result of the copy, and an accepted range leaves the
    -- memory as the only one that can refuse.
    refine ⟨run.checks (Nat.zero_le bound), fun accepted e refused => ?_⟩
    cases refused
    exact run.answered accepted rfl
  | copied _ run =>
    -- The loop ended: it says whether the string ends, and the copy whether it was cut.
    refine ⟨fun passed => ?_, fun _ _ refused => by cases refused⟩
    have reached := run.checks (Nat.zero_le bound) passed
    rwa [Except.map, Bool.not_not] at reached

end Copy

/-- **The check of a range is exact and additive.** For both directions, it lets through the empty
range and the ranges in user space, in unbounded numbers, and it lets through a range exactly when
it lets through its parts. So the checks that a string copy makes, chunk by chunk, amount to one
check of the whole. -/
theorem UserRange.check_whole_and_in_parts {μ : Type} [UserMemory μ] (addr : UserAddr) :
    (∀ d, CheckedExactly d addr ∧ CheckedInParts d addr) ∧
      ∀ (c : Conditions) (bound : Nat) (m : μ), Buffer.CanReserve c (bound + 1) →
        Copy.ChecksAsWhole addr bound (Copy.inString c addr bound m) :=
  ⟨fun d => ⟨checkedExactly d addr, checkedInParts d addr⟩,
    fun _ _ m granted => Copy.inString_checksAsWhole addr granted m⟩

/-- Whether a chunk was read without a zero byte can be looked up in what it brought. -/
instance : DecidablePred MemoryCall.Passed
  | .copyIn _ _ (.ok _) => decidable_of_iff _ ⟨.intro, fun ⟨noZero⟩ => noZero⟩
  | .copyIn _ _ (.error _) => isFalse MemoryCall.not_passed_of_error
  | .copyOut .. => isFalse nofun

/-- The last two bytes of user space pass as a whole and one by one, and a third byte does not. A
copy of a string without an end reads two bytes and faults at the third. -/
theorem UserRange.check_last_bytes :
    let m : PagedMemory := ⟨fun _ => true, fun _ => 97⟩
    let c : Conditions := ⟨.off, .none⟩
    let addr : UserAddr := ⟨0x7FFFFFFE⟩
    let copy := Copy.inString c addr 3 m
    (Accepts .write addr 2 ∧ Accepts .write addr 1 ∧ Accepts .write ⟨0x7FFFFFFF⟩ 1) ∧
      check .write addr 3 = .error .efault ∧
      Buffer.CanReserve c 4 ∧ (∀ call ∈ copy.events, call.Passed) ∧ copy.events.length = 1 ∧
      copy.result.map KernelString.truncated = .error (.refused .efault) := by
  intro m c addr copy
  obtain ⟨ranges, copies⟩ := @check_whole_and_in_parts PagedMemory _ addr
  obtain ⟨exact, parts⟩ := ranges .write
  -- One byte more than the bound is reserved, for the mark at the end.
  have granted : Buffer.CanReserve c 4 := ⟨rfl, by decide⟩
  have passed : ∀ call ∈ copy.events, call.Passed := by decide +kernel
  have both : Accepts .write addr 2 := by
    obtain ⟨r, checked, -⟩ := (exact.accepts_iff 2).mpr (by decide)
    exact ⟨r, checked⟩
  -- Two bytes pass as a whole, so each of them passes.
  have each := (parts.add_iff 1 1).mp both
  exact ⟨⟨both, each⟩, (exact.faults_iff 3).mpr (by decide), granted, passed, by decide +kernel,
    (copies c 3 m granted).reaches passed⟩

end SyscallGate
