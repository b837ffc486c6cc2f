import SyscallGate.Files.FlatLayer
import SyscallGate.Memory.Regions
import SyscallGate.Proofs.Kernel.Conservation
import SyscallGate.Proofs.Memory.Delivery

/-!
# Failed openings

An opening can fail in many places, two of them behind the point where the layer has opened a file.
Wherever it fails, it leaves nothing behind: the table is the same, user memory was read and not
written, and the open files are those that were open before. A file for which the table has no place
is handed back once, and how the layer answers that makes no difference.

## Main definitions

- `Event.LeavesOpen`: the files that are open after events.
- `Kernel.LeavesNoTrace`: what a failed opening leaves is what was there before.
- `Kernel.HandsBackRefused`: a file is handed back exactly if the table refuses it.

## Main results

- `Kernel.failed_open_leaves_no_trace`: in any state that a session reaches, a failed opening leaves
  nothing behind, and a file is handed back exactly if the table refuses it.
-/

namespace SyscallGate

variable {μ ν φ : Type}

/-! ## Open files -/

namespace Event

/-- After these events these files are open, each as often as it was opened and not handed back.

A file can be opened more than once, if the layer gives the same file out again. That is why
multisets are compared, and not sets. -/
def LeavesOpen (events : List (Event φ)) (files : Multiset φ) : Prop :=
  (filesOpened events : Multiset φ) = files + filesClosed events

variable {events rest : List (Event φ)}

/-- Events that hand back what they opened change nothing in the open files.

This is what makes a failed opening invisible: what it adds to the history has as many files opened
as closed. -/
theorem leavesOpen_append_iff (even : filesOpened rest = filesClosed rest) {files : Multiset φ} :
    LeavesOpen (events ++ rest) files ↔ LeavesOpen events files := by
  -- Both sides gain the same files, which cancel.
  simp only [LeavesOpen, filesOpened_append, filesClosed_append, even, ← Multiset.coe_add,
    ← add_assoc]
  exact Multiset.add_left_inj

/-- If no file was opened twice, the open files are those that were opened and not handed back.

Without that condition, a file that was open before might be opened again and handed back, and count
as closed. -/
theorem open_append_iff (even : filesOpened rest = filesClosed rest)
    (fresh : (filesOpened (events ++ rest)).Nodup) {file : φ} :
    (file ∈ filesOpened (events ++ rest) ∧ file ∉ filesClosed (events ++ rest)) ↔
      (file ∈ filesOpened events ∧ file ∉ filesClosed events) := by
  rw [filesOpened_append] at fresh
  -- No file of the later events is one of the earlier ones.
  have apart := (List.nodup_append.mp fresh).2.2
  simp only [filesOpened_append, filesClosed_append, List.mem_append, not_or, ← even]
  constructor
  · -- A file that was opened later was also handed back later, so it is not open.
    rintro ⟨wasOpened | reopened, kept, notRest⟩
    · exact ⟨wasOpened, kept⟩
    · exact absurd reopened notRest
  · rintro ⟨wasOpened, kept⟩
    exact ⟨.inl wasOpened, kept, fun reopened => apart file wasOpened file reopened rfl⟩

end Event

namespace Kernel

variable [UserMemory μ] [FileLayer ν φ]

/-! ## What an opening may leave behind -/

/-- After a failed opening, everything is as it was before.

The history is what was seen before the opening, from the beginning on, so that one can speak of the
open files. The layer is left out: it has been asked, and it may have changed. -/
structure LeavesNoTrace (history : List (Event φ)) (k : Kernel μ ν φ)
    (o : Outcome (Kernel μ ν φ) (Event φ) Errno Fd) : Prop where
  named : ∀ fd, o.state.files.get? fd = k.files.get? fd
  /-- The next allocation for which there is storage gets the descriptor that it would have got. -/
  next : ∀ (later : Conditions) (file : φ), later.shortage.slots = false →
    (Table.allocate later file o.state.files).result = (Table.allocate later file k.files).result
  reads : ∀ call ∈ Event.memoryCalls o.events, call.isCopyIn = true
  memory : UserMemory.AfterReads k.memory o.state.memory
  /-- If reads leave user memory as it is, so does the opening. -/
  unchanged : (∀ (m : μ) (src : UserAddr) (len : Nat), (UserMemory.copyIn src len m).2 = m) →
    o.state.memory = k.memory
  leftOpen : ∀ files, Event.LeavesOpen (history ++ o.events) files ↔ Event.LeavesOpen history files
  openSet : (Event.filesOpened (history ++ o.events)).Nodup → ∀ file,
    (file ∈ Event.filesOpened (history ++ o.events) ∧
        file ∉ Event.filesClosed (history ++ o.events)) ↔
      (file ∈ Event.filesOpened history ∧ file ∉ Event.filesClosed history)

/-- An opening hands a file back exactly if the table refuses it, for want of a descriptor or of
storage.

The first part says for which files this happens, the second part how: in a call, with its error,
and once. -/
structure HandsBackRefused (c : Conditions) (flags : OpenFlags) (mode : UInt32) (k : Kernel μ ν φ)
    (o : Outcome (Kernel μ ν φ) (Event φ) Errno Fd) : Prop where
  closed_iff : ∀ file, file ∈ Event.filesClosed o.events ↔
    file ∈ Event.filesOpened o.events ∧
      ∃ cause, (Table.allocate c file k.files).result = .error (.refused (cause, file))
  returned : ∀ file ∈ Event.filesClosed o.events,
    (FdMap.Full k.files.get? ∧ HandsBack flags mode k file .enfile o) ∨
      (k.files.Lacks c .outOfMemory ∧ HandsBack flags mode k file .enomem o)

/-! ## Every opening -/

variable {c : Conditions} {path : UserAddr} {flags : OpenFlags} {mode : UInt32} {k : Kernel μ ν φ}
  {o : Outcome (Kernel μ ν φ) (Event φ) Errno Fd}

/-- An opening does with user memory what the copy of the name does: it reads.

The copy is the only part of an opening that uses memory, and five of the six outcomes have one. -/
theorem Opening.memory (outcome : Opening c path flags mode k o) :
    (∀ call ∈ Event.memoryCalls o.events, call.isCopyIn = true) ∧
      UserMemory.AfterReads k.memory o.state.memory := by
  -- A copy reads, in chunks, and memory afterwards is what reads leave.
  have reads {result : Except (Halt Errno) KernelString} {memory : μ} {calls : List MemoryCall}
      (copy : Copy.inString c path (nameMax + 1) k.memory = ⟨result, memory, calls⟩) :
      (∀ call ∈ calls, call.isCopyIn = true) ∧ UserMemory.AfterReads k.memory memory := by
    have chunks := Copy.inString_emits c path (nameMax + 1) k.memory
    have after := Copy.inString_afterReads c path (nameMax + 1) k.memory
    rw [copy] at chunks after
    exact ⟨fun call used => (chunks call used).1, after⟩
  -- Only a bad mode ends the opening before the copy.
  cases outcome with
  | badMode => exact ⟨nofun, .none⟩
  | nameHalted _ copy => simpa using reads copy
  | nameTooLong arrives => simpa using reads arrives.copy
  | layerRefused arrives => simpa using reads arrives.copy
  | opened arrives => simpa using reads arrives.copy
  | undone arrives => simpa using reads arrives.copy

/-- A failed opening leaves no trace, whatever was seen before it.

Whether the layer refused the file or the table did, the table is the same, and as many files were
closed as opened. -/
theorem Opening.leavesNoTrace {halt : Halt Errno} (outcome : Opening c path flags mode k o)
    (failed : o.result = .error halt) (history : List (Event φ)) : LeavesNoTrace history k o := by
  -- A descriptor is told exactly if the file went into the table, so this case is excluded.
  obtain ⟨same, even⟩ : o.state.files = k.files ∧
      Event.filesOpened o.events = Event.filesClosed o.events := by
    cases outcome.placement with
    | noFile _ same opened closed => exact ⟨same, opened.trans closed.symm⟩
    | inTable _ told => cases told.symm.trans failed
    | handedBack same _ _ opened closed => exact ⟨same, opened.trans closed.symm⟩
  -- Each part follows from these two facts or from the copy of the name.
  obtain ⟨reads, after⟩ := outcome.memory
  exact
    { named := fun fd => by rw [same]
      next := fun later file _ => by rw [same]
      reads := reads
      memory := after
      unchanged := after.eq_of_pure
      leftOpen := fun files => Event.leavesOpen_append_iff even
      openSet := fun fresh file => Event.open_append_iff even fresh }

/-- An opening hands a file back exactly if the table refuses it.

A table that refuses a file lacks something, and what it lacks decides on the error. An error of the
layer in the second call is reported and does not matter. -/
theorem Opening.handsBackRefused (outcome : Opening c path flags mode k o) (fits : k.files.Fits) :
    HandsBackRefused c flags mode k o := by
  -- The table refuses a file exactly if it lacks something.
  have refused (file : φ) (cause : Table.Error) :
      (Table.allocate c file k.files).result = .error (.refused (cause, file)) ↔
        k.files.Lacks c cause := Table.allocate_refused_iff fits file
  cases outcome.placement with
  | noFile _ _ opened closed =>
    -- There was no file, so none was handed back.
    refine ⟨fun file => ?_, ?_⟩
    · simp [opened, closed]
    · simp [closed]
  | inTable _ _ _ enough opened closed =>
    -- The file was put into the table, which lacked nothing.
    refine ⟨fun file => ?_, ?_⟩
    · simp [closed, refused, enough]
    · simp [closed]
  | @handedBack file cause _ lacks back opened closed =>
    -- The file was handed back, and is the only one that was opened.
    refine ⟨fun file' => ?_, ?_⟩
    · rw [closed, opened]
      exact ⟨fun given => ⟨given, cause, (refused file' cause).mpr lacks⟩, And.left⟩
    · rw [closed]
      intro file' given
      rw [List.mem_singleton.mp given]
      -- What the table lacks gives the error.
      cases lacks with
      | descriptor full => exact .inl ⟨full, back⟩
      | storage occupied room stuck => exact .inr ⟨.storage occupied room stuck, back⟩

/-- **A failed opening leaves no trace**, in any state that a session with a new kernel reaches.
Failed or not, an opening hands a file back exactly if the layer has opened it and the table refuses
it; this happens once, and the error is the one of the table.

What the state is before does not matter beyond that its table fits. The history goes back to the
beginning, since files opened before count too. -/
theorem failed_open_leaves_no_trace (memory : μ) (layer : ν) (steps : List (Conditions × Request))
    (c : Conditions) (path : UserAddr) (flags : OpenFlags) (mode : UInt32) :
    let start : Kernel μ ν φ := initial memory layer
    let k := start.afterSession steps
    let o := openFile c path flags mode k
    (∀ halt, o.result = .error halt → LeavesNoTrace (start.history steps) k o) ∧
      HandsBackRefused c flags mode k o := by
  intro start k o
  have fits : k.files.Fits := afterSession_fits Table.fits_empty steps
  have outcome : Opening c path flags mode k o := opening c path flags mode k fits
  exact ⟨fun _ failed => outcome.leavesNoTrace failed _, outcome.handsBackRefused fits⟩

end Kernel

/-- With four files open, a fifth slot needs storage, and there is none. The fifth file is handed
back, which the layer answers with an error of its own. -/
theorem Kernel.failed_open_leaves_no_trace_twice_failed :
    let start : Kernel RegionMemory FlatLayer Nat :=
      initial ⟨[⟨0x400FFE, [97, 0], false, none⟩]⟩
        { FlatLayer.empty [] with names := [[97]], closeFault := some .ebusy }
    let steps : List (Conditions × Request) :=
      List.replicate 4 (⟨.off, .none⟩, .openFile ⟨0x400FFE⟩ ⟨0⟩ 0)
    let k := start.afterSession steps
    let o := openFile ⟨.off, ⟨false, true⟩⟩ ⟨0x400FFE⟩ ⟨0⟩ 0 k
    o.result = .error (.refused .enomem) ∧ Event.filesClosed o.events = [5] ∧
      LeavesNoTrace (start.history steps) k o := by
  intro start steps k o
  -- The opening fails for want of storage; the theorem says that nothing is left of it.
  have failed : o.result = .error (.refused .enomem) := by decide +kernel
  refine ⟨failed, by decide +kernel, ?_⟩
  exact (failed_open_leaves_no_trace _ _ steps _ _ _ _).1 _ failed

end SyscallGate
