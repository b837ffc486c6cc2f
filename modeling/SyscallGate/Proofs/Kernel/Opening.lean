import Mathlib.Tactic.SplitIfs
import SyscallGate.Files.FlatLayer
import SyscallGate.Memory.Regions
import SyscallGate.Proofs.Kernel.Turnover
import SyscallGate.Proofs.Memory.Delivery

/-!
# Opening a file, cause by cause

Several things can stand in the way of an opening. They are looked at in a fixed order, and the
first one that applies decides. The layer is asked last but one: before the table, and after
everything that concerns the arguments.

## Main definitions

- `Kernel.ReachesLayer`: nothing stands in the way before the layer is asked, and it is asked for
  this name.
- `Kernel.FirstCause`: the outcomes of an opening, each with its cause and no earlier one.

## Main results

- `Kernel.openFile_first_cause`: the first cause that applies decides.
-/

namespace SyscallGate

variable {μ ν φ : Type}

open MemoryCall (received)

/-! ## The access mode -/

/-- Of the four values of the two low bits, only 3 names no access mode.

The other three are reading, writing and both, which is why the refusal is an equivalence and not
one direction only. -/
theorem OpenFlags.accessMode_eq_error_iff {f : OpenFlags} {e : Errno} :
    f.accessMode = .error e ↔ f.bits &&& 3 = 3 ∧ e = .einval := by
  -- The two low bits make a number below 4, so three inequations leave one value.
  have low : (f.bits &&& 3).toNat < 4 := by
    rw [UInt32.toNat_and]
    exact Nat.and_lt_two_pow f.bits.toNat (show 3 < 2 ^ 2 by decide)
  have value (n : UInt32) : f.bits &&& 3 = n ↔ (f.bits &&& 3).toNat = n.toNat :=
    UInt32.toNat_inj.symm
  unfold accessMode accessMask
  dsimp only
  split_ifs with zero one two
  · simp [zero]
  · simp [one]
  · simp [two]
  -- The comparisons with 0, 1 and 2 have failed.
  · have three : f.bits &&& 3 = 3 := by
      rw [value] at zero one two ⊢
      simp only [UInt32.toNat_ofNat] at zero one two ⊢
      omega
    simp [three, eq_comm]

theorem OpenFlags.accessMode_eq_ok_iff {f : OpenFlags} :
    (∃ mode, f.accessMode = .ok mode) ↔ f.bits &&& 3 ≠ 3 := by
  constructor
  · rintro ⟨mode, good⟩ both
    cases good.symm.trans (accessMode_eq_error_iff.mpr ⟨both, rfl⟩)
  · intro good
    cases access : f.accessMode with
    | ok mode => exact ⟨mode, rfl⟩
    | error e => exact absurd (accessMode_eq_error_iff.mp access).1 good

/-! ## What the layer is asked to open -/

def FileCall.isOpening : FileCall φ → Bool
  | .openFile .. => true
  | .closeFile .. => false
  | .currentDirectory .. => false

/-- The uses of the file layer that ask it to open a file, in order. -/
def Event.openings (events : List (Event φ)) : List (FileCall φ) :=
  (fileCalls events).filter FileCall.isOpening

namespace Kernel

variable [UserMemory μ]

/-! ## The name -/

/-- The flags name an access mode, and there is kernel memory for the longest name with one byte
more and a closing mark.

What an opening looks at before it touches user memory. The longest name takes one byte more, by
which a longer name is told, and one for the mark that is put behind it. -/
structure MayCopy (c : Conditions) (flags : OpenFlags) : Prop where
  access : flags.bits &&& 3 ≠ 3
  buffer : Buffer.CanReserve c (nameMax + 2)

/-- A name is what a program has put at an address, up to the first zero byte.

Everything is said about what was received from memory, so that it holds for a memory that changes
while it is read. In a memory that keeps still it is the string at the address, as usual. -/
structure NameAt (path : UserAddr) (m : μ) (calls : List MemoryCall) (name : Terminated) :
    Prop where
  /-- The memory was read from the address on, without a gap. -/
  reads : ReadsOn path.toNat calls
  ended : 0 ∈ received calls
  bytes : name.bytes = (received calls).takeWhile (· ≠ 0)
  short : name.bytes.length ≤ nameMax
  /-- In a memory that is readable page by page, the name is the string at the address. -/
  paged : ∀ pages : Pages, pages.Backs m → pages.EndsAt path.toNat name.bytes.length ∧
    name.bytes = pages.bytesFrom path.toNat name.bytes.length

/-- Nothing stands in the way before the layer is asked, and it is asked for this name.

The copy of the name has come to its end here, with the memory that it left and the uses of memory
that it made. So there is at most one name, memory and list of calls for which this holds. -/
structure ReachesLayer (c : Conditions) (path : UserAddr) (flags : OpenFlags) (k : Kernel μ ν φ)
    (name : Terminated) (memory : μ) (calls : List MemoryCall) : Prop extends MayCopy c flags where
  copy : Copy.inString c path (nameMax + 1) k.memory = ⟨.ok ⟨name, false⟩, memory, calls⟩
  nameAt : NameAt path k.memory calls name

/-- A string that was not cut is the name at its address.

The zero byte must have been received, or the string would have been cut at the bound. -/
theorem nameAt_of_copy {c : Conditions} {path : UserAddr} {m memory : μ} {calls : List MemoryCall}
    {name : Terminated} (buffer : Buffer.CanReserve c (nameMax + 2))
    (copy : Copy.inString c path (nameMax + 1) m = ⟨.ok ⟨name, false⟩, memory, calls⟩) :
    NameAt path m calls name := by
  have receives := Copy.inString_receives copy
  have ended : 0 ∈ received calls := by
    -- Without a zero byte the copy would have been marked as cut.
    by_contra noZero
    cases receives.truncated_iff.mpr noZero
  have bytes : name.bytes = (received calls).takeWhile (· ≠ 0) := receives.bytes
  refine ⟨receives.reads, ended, bytes, ?_, ?_⟩
  · -- The zero byte is one of the bytes that the bound allows, and not one of the name.
    have shorter : name.bytes.length < (received calls).length := by
      -- What stands before the zero byte is shorter than all that was received: of the same length,
      -- it would be all of it, and hold the zero byte.
      have first := (List.takeWhile_prefix (l := received calls) (· ≠ 0)).length_le
      refine Nat.lt_of_le_of_ne (bytes ▸ first) fun same => ?_
      have whole := (List.takeWhile_prefix (l := received calls) (· ≠ 0)).eq_of_length
        (bytes ▸ same)
      exact name.noNul (by rwa [bytes, whole])
    have within := receives.within
    omega
  · intro pages backs
    -- In pages that keep still, the copy reads the string that they hold at the address.
    have reads := Copy.inString_reads backs path buffer
    rw [copy] at reads
    exact reads.ended

/-! ## The first cause -/

variable [FileLayer ν φ]

/-- The outcomes of opening a file, in the order in which their causes are looked at. Each of them
has its own cause, and none of those before it.

An outcome holds everything that an opening leaves behind: the answer, the kernel afterwards, and
all that was done and reported on the way, in order. So nothing else is asked of the layer, and
nothing else is written, in any of these cases. -/
inductive FirstCause (c : Conditions) (path : UserAddr) (flags : OpenFlags) (mode : UInt32)
    (k : Kernel μ ν φ) : Outcome (Kernel μ ν φ) (Event φ) Errno Fd → Prop where
  /-- Both low bits are set. Nothing else is looked at. -/
  | badMode (both : flags.bits &&& 3 = 3) :
      FirstCause c path flags mode k ⟨.error (.refused .einval), k, []⟩
  /-- There is no kernel memory for the name. -/
  | noBuffer (access : flags.bits &&& 3 ≠ 3) (denied : ¬ Buffer.CanReserve c (nameMax + 2)) :
      FirstCause c path flags mode k ⟨.error (.refused .enomem), k, []⟩
  /-- The copy of the name is refused, before a zero byte was received. -/
  | copyRefused {e : Errno} {memory : μ} {calls : List MemoryCall} (mayCopy : MayCopy c flags)
      (copy : Copy.inString c path (nameMax + 1) k.memory = ⟨.error (.refused e), memory, calls⟩)
      (reads : ReadsOn path.toNat calls) (noZero : 0 ∉ received calls)
      (few : (received calls).length < nameMax + 1) :
      FirstCause c path flags mode k
        ⟨.error (.refused e), { k with memory }, calls.map .memory⟩
  /-- One byte more than the longest name arrives, and none of them is zero. -/
  | nameTooLong {name : KernelString} {memory : μ} {calls : List MemoryCall}
      (mayCopy : MayCopy c flags)
      (copy : Copy.inString c path (nameMax + 1) k.memory = ⟨.ok name, memory, calls⟩)
      (reads : ReadsOn path.toNat calls) (noZero : 0 ∉ received calls)
      (all : (received calls).length = nameMax + 1) :
      FirstCause c path flags mode k ⟨.error (.refused .enametoolong), { k with memory },
        calls.map .memory ++ noted c (.nameTooLong path nameMax)⟩
  /-- The layer is asked, and its error is returned as it is. -/
  | layerRefused {name : Terminated} {memory : μ} {calls : List MemoryCall} {e : Errno} {layer : ν}
      (reached : ReachesLayer c path flags k name memory calls)
      (answer : FileLayer.openFile name flags mode k.layer = (.error e, layer)) :
      FirstCause c path flags mode k ⟨.error (.refused e), { k with memory, layer },
        calls.map .memory ++ .layer (.openFile name flags mode (.error e)) ::
          noted c (.openFailed ⟨name, false⟩ e)⟩
  /-- The table has no place for the file, which is handed back. -/
  | tableRefused {name : Terminated} {memory : μ} {calls : List MemoryCall} {file : φ}
      {layer layer' : ν} {cause : Table.Error} {closing : Except Errno Unit}
      (reached : ReachesLayer c path flags k name memory calls)
      (answer : FileLayer.openFile name flags mode k.layer = (.ok file, layer))
      (lacks : k.files.Lacks c cause)
      (closed : FileLayer.closeFile file layer = (closing, layer')) :
      FirstCause c path flags mode k ⟨.error (.refused cause.toErrno),
        { k with memory, layer := layer' },
        calls.map .memory ++ .layer (.openFile name flags mode (.ok file)) ::
          (noted c (.noDescriptor ⟨name, false⟩ cause) ++
            .layer (.closeFile file closing) :: reported c closing (.undoFailed ⟨name, false⟩))⟩
  /-- Nothing stands in the way: the lowest free descriptor names the file, and every other
  descriptor names what it named. -/
  | opened {name : Terminated} {memory : μ} {calls : List MemoryCall} {file : φ} {layer : ν}
      {fd : Fd} {files : Table φ} (reached : ReachesLayer c path flags k name memory calls)
      (answer : FileLayer.openFile name flags mode k.layer = (.ok file, layer))
      (enough : ∀ cause, ¬ k.files.Lacks c cause)
      (lowest : FdMap.LowestFree k.files.get? fd)
      (view : files.get? = FdMap.insert k.files.get? fd file) :
      FirstCause c path flags mode k ⟨.ok fd, ⟨memory, layer, files⟩,
        calls.map .memory ++ .layer (.openFile name flags mode (.ok file)) ::
          (Table.noted c (.allocated fd)).map fun change => .notice (.table change)⟩

variable {c : Conditions} {path : UserAddr} {flags : OpenFlags} {mode : UInt32} {k : Kernel μ ν φ}

omit [FileLayer ν φ] in
/-- A name that arrived whole reaches the layer. -/
theorem NameArrives.reachesLayer {name : KernelString} {memory : μ} {calls : List MemoryCall}
    (arrives : NameArrives c path flags k name memory calls) (whole : name.truncated = false) :
    name = ⟨name.text, false⟩ ∧ ReachesLayer c path flags k name.text memory calls := by
  obtain ⟨text, truncated⟩ := name
  cases whole
  have buffer := Copy.canReserve_of_inString arrives.copy
  -- A flag that is clear adds nothing to the text, so the name is the text.
  exact ⟨rfl,
    { access := OpenFlags.accessMode_eq_ok_iff.mp arrives.mode
      buffer := buffer
      copy := arrives.copy
      nameAt := nameAt_of_copy buffer arrives.copy }⟩

/-- The copy of a name that gives no name: there is no buffer for it, or a read was refused.

These are the two causes that the copy itself has. A bound that no buffer can have is a third one
for copies in general, but the bound of a name is a small number. -/
theorem firstCause_of_copy {halt : Halt Errno} {memory : μ} {calls : List MemoryCall}
    (good : flags.bits &&& 3 ≠ 3)
    (copy : Copy.inString c path (nameMax + 1) k.memory = ⟨.error halt, memory, calls⟩) :
    FirstCause c path flags mode k ⟨.error halt, { k with memory }, calls.map .memory⟩ := by
  obtain ⟨reads, noZero, few⟩ := Copy.inString_refused_receives copy (Nat.succ_pos nameMax)
  have outcome := Copy.inString_copies c path (nameMax + 1) k.memory
  -- Which of the endings of a copy it is: with a small bound, there are three that give no string.
  rw [copy] at outcome
  cases outcome with
  -- The bound of a name is far below the size of the address space.
  | boundTooLarge large => exact absurd large (by decide)
  | noBuffer _ denied => exact .noBuffer good denied
  | refused granted _ => exact .copyRefused ⟨good, granted⟩ copy reads noZero few

/-- An opening ends as the first cause that applies says.

The endings that `Kernel.opening` tells apart are those of the algorithm. Each of them is put in
terms of the arguments, of what was received and of the table, and so becomes a cause. -/
theorem openFile_ends (fits : k.files.Fits) :
    FirstCause c path flags mode k (openFile c path flags mode k) := by
  have outcome := opening c path flags mode k fits
  generalize openFile c path flags mode k = o at outcome
  cases outcome with
  | badMode bad =>
    -- The access mode is refused for one value of the low bits only.
    obtain ⟨both, rfl⟩ := OpenFlags.accessMode_eq_error_iff.mp bad
    exact .badMode both
  | nameHalted good copy =>
    exact firstCause_of_copy (OpenFlags.accessMode_eq_ok_iff.mp good) copy
  | nameTooLong arrives long =>
    -- A string that was cut has filled its bound without a zero byte.
    have receives := Copy.inString_receives arrives.copy
    have buffer := Copy.canReserve_of_inString arrives.copy
    exact .nameTooLong ⟨OpenFlags.accessMode_eq_ok_iff.mp arrives.mode, buffer⟩ arrives.copy
      receives.reads (receives.truncated_iff.mp long) (receives.full long)
  | @layerRefused name memory calls e layer arrives whole answer =>
    -- The name that is passed on is not marked as cut, so it is shown as the plain name.
    obtain ⟨plain, reached⟩ := arrives.reachesLayer whole
    rw [plain]
    exact .layerRefused reached answer
  | @opened name memory calls file layer fd files arrives whole answer grants enough =>
    exact .opened (arrives.reachesLayer whole).2 answer enough grants.lowest grants.view
  | @undone name memory calls file layer layer' cause closing arrives whole answer lacks closed =>
    -- The table handed the file back, and the layer was asked to close it.
    obtain ⟨plain, reached⟩ := arrives.reachesLayer whole
    rw [plain]
    exact .tableRefused reached answer lacks closed

/-- What the layer is asked to open: the name, with flags and mode as they are, if nothing stands in
the way before. -/
theorem FirstCause.openings_eq {o : Outcome (Kernel μ ν φ) (Event φ) Errno Fd}
    (ends : FirstCause c path flags mode k o) :
    (∃ name memory calls, ReachesLayer c path flags k name memory calls ∧
      Event.openings o.events =
        [.openFile name flags mode (FileLayer.openFile name flags mode k.layer).1]) ∨
    ((∀ name memory calls, ¬ ReachesLayer c path flags k name memory calls) ∧
      Event.openings o.events = []) := by
  cases ends with
  | badMode both => exact .inr ⟨fun _ _ _ reached => reached.access both, rfl⟩
  | noBuffer _ denied => exact .inr ⟨fun _ _ _ reached => denied reached.buffer, rfl⟩
  | copyRefused _ copy =>
    refine .inr ⟨fun _ _ _ reached => ?_, by simp [Event.openings]⟩
    cases copy.symm.trans reached.copy
  | @nameTooLong name memory calls _ copy _ noZero =>
    refine .inr ⟨fun _ _ _ reached => ?_, by simp [Event.openings]⟩
    -- A name that reaches the layer has its zero byte among the bytes that were received.
    cases copy.symm.trans reached.copy
    exact noZero reached.nameAt.ended
  | layerRefused reached answer =>
    refine .inl ⟨_, _, _, reached, ?_⟩
    simp [Event.openings, FileCall.isOpening, answer]
  | tableRefused reached answer =>
    refine .inl ⟨_, _, _, reached, ?_⟩
    simp [Event.openings, List.filter_cons, FileCall.isOpening, answer]
  | opened reached answer =>
    refine .inl ⟨_, _, _, reached, ?_⟩
    simp [Event.openings, List.filter_cons, FileCall.isOpening, answer]

/-- **The first cause decides**: an opening ends as the first cause that applies says. The layer is
asked once, for the name at the address, with flags and mode as they are, if nothing stands in the
way before; and it is not asked at all if something does. Every table that a kernel can have fits
(`afterSession_fits`). -/
theorem openFile_first_cause (c : Conditions) (path : UserAddr) (flags : OpenFlags) (mode : UInt32)
    (k : Kernel μ ν φ) (fits : k.files.Fits) :
    let o := openFile c path flags mode k
    FirstCause c path flags mode k o ∧
      (∀ name memory calls, ReachesLayer c path flags k name memory calls →
        Event.openings o.events =
          [.openFile name flags mode (FileLayer.openFile name flags mode k.layer).1]) ∧
      ((∀ name memory calls, ¬ ReachesLayer c path flags k name memory calls) →
        Event.openings o.events = []) := by
  intro o
  have ends : FirstCause c path flags mode k o := openFile_ends fits
  refine ⟨ends, ?_, ?_⟩
  · intro name memory calls reached
    rcases ends.openings_eq with ⟨name', memory', calls', reached', asked⟩ | ⟨never, -⟩
    · cases reached.copy.symm.trans reached'.copy
      exact asked
    · exact absurd reached (never name memory calls)
  · intro never
    rcases ends.openings_eq with ⟨name, memory, calls, reached, -⟩ | ⟨-, silent⟩
    · exact absurd reached (never name memory calls)
    · exact silent

end Kernel

/-- With descriptor 3 in use, a name of one byte is opened with an unknown flag. The layer is asked
for it, and the descriptor is 4. With both low bits set, neither the missing memory nor the null
address matters. -/
theorem Kernel.openFile_first_cause_unknown_flag :
    let start : Kernel RegionMemory FlatLayer Nat :=
      initial ⟨[⟨0x400FFE, [97, 0], false, none⟩]⟩ { FlatLayer.empty [] with names := [[97]] }
    let k := start.afterSession [(⟨.off, .none⟩, .openFile ⟨0x400FFE⟩ ⟨0⟩ 0)]
    let c : Conditions := ⟨.off, .none⟩
    let o := openFile c ⟨0x400FFE⟩ ⟨0x80000000⟩ 420 k
    k.files.Fits ∧ o.result.map Fd.number = .ok 4 ∧
      (∃ name memory calls, ReachesLayer c ⟨0x400FFE⟩ ⟨0x80000000⟩ k name memory calls) ∧
      (openFile ⟨.off, ⟨true, true⟩⟩ .null ⟨0x80000003⟩ 420 k).result =
        .error (.refused .einval) := by
  intro start k c o
  have fits : k.files.Fits := afterSession_fits Table.fits_empty _
  refine ⟨fits, by decide +kernel, ?_, by decide +kernel⟩
  by_contra never
  simp only [not_exists] at never
  have silent := (openFile_first_cause c ⟨0x400FFE⟩ ⟨0x80000000⟩ 420 k fits).2.2 never
  have asked : (Event.openings o.events).length = 1 := by decide +kernel
  rw [silent] at asked
  cases asked

end SyscallGate
