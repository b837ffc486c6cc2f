import SyscallGate.Kernel.FileCalls
import SyscallGate.Kernel.Shutdown
import SyscallGate.Proofs.Descriptor.Operations
import SyscallGate.Proofs.Kernel.Events
import SyscallGate.Proofs.Memory.Copying

/-!
# Outcomes of the file calls

Everything that opening, closing, locating and shutting down can do, case by case: how the call
ends, the kernel it leaves, and its events in order. Later results about the calls are read off
these cases and do not look at the calls themselves.

## Main definitions

- `Kernel.Opening`, `Kernel.Closing`, `Kernel.Locating`: the cases of the three calls.
- `Kernel.Placement`: where the file of an opening is afterwards.
- `Kernel.HandsBack`: a file was opened, handed back, and refused with an error.
- `Kernel.ClosesEach`: files are closed one after the other, whatever the layer answers.

## Main results

- `Kernel.opening`, `Kernel.closing`, `Kernel.locating`: there are no other cases, provided that the
  table fits.
- `Kernel.closeAll_eq`: a shutdown closes the files of the table, lowest descriptor first.
-/

namespace SyscallGate.Kernel

variable {μ ν φ α η : Type} [FileLayer ν φ]

/-- A report, if its level is recorded.

Outcomes list events as they are seen, so a report is one event or none. -/
def noted (c : Conditions) (report : Notice) : List (Event φ) :=
  if c.log.admits report.level then [.notice report] else []

/-- The report on an answer, if it is an error. -/
def reported (c : Conditions) (answer : Except Errno α) (report : Errno → Notice) :
    List (Event φ) :=
  match answer with
  | .ok _ => []
  | .error cause => noted c (report cause)

@[simp] theorem memoryCalls_noted (c : Conditions) (report : Notice) :
    Event.memoryCalls (noted c report : List (Event φ)) = [] := by
  unfold noted
  split <;> rfl

@[simp] theorem fileCalls_noted (c : Conditions) (report : Notice) :
    Event.fileCalls (noted c report : List (Event φ)) = [] := by
  unfold noted
  split <;> rfl

@[simp] theorem memoryCalls_reported (c : Conditions) (answer : Except Errno α)
    (report : Errno → Notice) :
    Event.memoryCalls (reported c answer report : List (Event φ)) = [] := by
  cases answer with
  | ok => rfl
  | error cause => exact memoryCalls_noted c (report cause)

@[simp] theorem fileCalls_reported (c : Conditions) (answer : Except Errno α)
    (report : Errno → Notice) :
    Event.fileCalls (reported c answer report : List (Event φ)) = [] := by
  cases answer with
  | ok => rfl
  | error cause => exact fileCalls_noted c (report cause)

omit [FileLayer ν φ] in
theorem note_eq (c : Conditions) (report : Notice) (k : Kernel μ ν φ) :
    (note c report : Action (Kernel μ ν φ) (Event φ) η Unit) k = ⟨.ok (), k, noted c report⟩ :=
  note_apply c report k

omit [FileLayer ν φ] in
/-- A part of a call that is reported when it refuses, and passes its answer on.

Both a use of the layer and a copy to the program are wrapped in this way. The events of the part
come first, and the report is the last thing that is seen. -/
theorem reporting_eq (c : Conditions) {x : Action (Kernel μ ν φ) (Event φ) Errno α}
    {k k' : Kernel μ ν φ} {answer : Except Errno α} {events : List (Event φ)}
    (ended : x k = ⟨answer.mapError .refused, k', events⟩) (report : Errno → Notice) :
    x.reporting (fun cause => note c (report cause)) k =
      ⟨answer.mapError .refused, k', events ++ reported c answer report⟩ := by
  -- The report stands at the end of the events, and the answer is the one of the part.
  simp only [Action.reporting, Action.bind_apply, Action.attempt_apply, ended]
  cases answer with
  | ok a => simp [reported]
  | error cause => simp [reported, noted]

/-- To discard a file is to hand it back and to go on: the answer is reported if it is an error, and
then forgotten. -/
theorem discard_eq (c : Conditions) (file : φ) (report : Errno → Notice) (k : Kernel μ ν φ)
    {answer : Except Errno Unit} {layer : ν}
    (closed : FileLayer.closeFile file k.layer = (answer, layer)) :
    (discard c file report : Action (Kernel μ ν φ) (Event φ) η Unit) k =
      ⟨.ok (), { k with layer }, .layer (.closeFile file answer) :: reported c answer report⟩ := by
  simp only [Kernel.discard, Action.bind_apply, Action.attempt_apply, onLayer_apply,
    FileLayer.release_apply, closed]
  cases answer with
  | ok done => rfl
  | error cause =>
    simp [reported, noted]

/-! ## Opening -/

variable [UserMemory μ]

/-- The flags name an access mode, and the name of the file arrives.

These two steps come first in every opening, and do not concern the layer. -/
structure NameArrives (c : Conditions) (path : UserAddr) (flags : OpenFlags) (k : Kernel μ ν φ)
    (name : KernelString) (memory : μ) (calls : List MemoryCall) : Prop where
  mode : ∃ mode, flags.accessMode = .ok mode
  copy : Copy.inString c path (nameMax + 1) k.memory = ⟨.ok name, memory, calls⟩

/-- The outcomes of opening a file.

Each case names what the call has met on its way, so that its outcome can be written down: the
memory that the copy left, the layer that the answer came with, and the events so far. A case also
has the opposite of what would have ended the call before. -/
inductive Opening (c : Conditions) (path : UserAddr) (flags : OpenFlags) (mode : UInt32)
    (k : Kernel μ ν φ) : Outcome (Kernel μ ν φ) (Event φ) Errno Fd → Prop where
  | badMode {e : Errno} (bad : flags.accessMode = .error e) :
      Opening c path flags mode k ⟨.error (.refused e), k, []⟩
  | nameHalted {halt : Halt Errno} {memory : μ} {calls : List MemoryCall}
      (good : ∃ mode, flags.accessMode = .ok mode)
      (copy : Copy.inString c path (nameMax + 1) k.memory = ⟨.error halt, memory, calls⟩) :
      Opening c path flags mode k ⟨.error halt, { k with memory }, calls.map .memory⟩
  | nameTooLong {name : KernelString} {memory : μ} {calls : List MemoryCall}
      (arrives : NameArrives c path flags k name memory calls) (long : name.truncated = true) :
      Opening c path flags mode k ⟨.error (.refused .enametoolong), { k with memory },
        calls.map .memory ++ noted c (.nameTooLong path nameMax)⟩
  | layerRefused {name : KernelString} {memory : μ} {calls : List MemoryCall} {e : Errno}
      {layer : ν} (arrives : NameArrives c path flags k name memory calls)
      (whole : name.truncated = false)
      (answer : FileLayer.openFile name.text flags mode k.layer = (.error e, layer)) :
      Opening c path flags mode k ⟨.error (.refused e), { k with memory, layer },
        calls.map .memory ++
          .layer (.openFile name.text flags mode (.error e)) :: noted c (.openFailed name e)⟩
  /-- The layer opens a file, and it gets a descriptor. -/
  | opened {name : KernelString} {memory : μ} {calls : List MemoryCall} {file : φ} {layer : ν}
      {fd : Fd} {files : Table φ} (arrives : NameArrives c path flags k name memory calls)
      (whole : name.truncated = false)
      (answer : FileLayer.openFile name.text flags mode k.layer = (.ok file, layer))
      (grants : k.files.Grants fd file files) (enough : ∀ cause, ¬ k.files.Lacks c cause) :
      Opening c path flags mode k ⟨.ok fd, ⟨memory, layer, files⟩,
        calls.map .memory ++ .layer (.openFile name.text flags mode (.ok file)) ::
          (Table.noted c (.allocated fd)).map fun change => .notice (.table change)⟩
  /-- The layer opens a file for which there is no descriptor: it is handed back. -/
  | undone {name : KernelString} {memory : μ} {calls : List MemoryCall} {file : φ}
      {layer layer' : ν} {cause : Table.Error} {closing : Except Errno Unit}
      (arrives : NameArrives c path flags k name memory calls) (whole : name.truncated = false)
      (answer : FileLayer.openFile name.text flags mode k.layer = (.ok file, layer))
      (lacks : k.files.Lacks c cause)
      (closed : FileLayer.closeFile file layer = (closing, layer')) :
      Opening c path flags mode k ⟨.error (.refused cause.toErrno),
        { k with memory, layer := layer' },
        calls.map .memory ++ .layer (.openFile name.text flags mode (.ok file)) ::
          (noted c (.noDescriptor name cause) ++
            .layer (.closeFile file closing) :: reported c closing (.undoFailed name))⟩

/-- **Outcomes of opening a file.**

The proof runs the call symbolically. The table has to fit, or there would be descriptors that the
allocation cannot name. -/
theorem opening (c : Conditions) (path : UserAddr) (flags : OpenFlags) (mode : UInt32)
    (k : Kernel μ ν φ) (fits : k.files.Fits) :
    Opening c path flags mode k (openFile c path flags mode k) := by
  unfold openFile
  simp only [Action.bind_apply, Action.ofExcept_apply]
  -- One split for each point at which the call can end; what was done before a point is part of
  -- the case it leads to.
  cases access : flags.accessMode with
  | error e => exact .badMode access
  | ok accessMode =>
    simp only [mapError_ok, Outcome.andThen_ok, Outcome.after_nil, Action.bind_apply,
      onMemory_apply]
    rcases copy : Copy.inString c path (nameMax + 1) k.memory with ⟨halt | name, memory, calls⟩
    · -- There is no name, and the layer was not asked.
      exact .nameHalted ⟨accessMode, access⟩ copy
    · have arrives : NameArrives c path flags k name memory calls := ⟨⟨accessMode, access⟩, copy⟩
      simp only [Outcome.embed_mk, Outcome.andThen_ok]
      cases long : name.truncated with
      | true =>
        -- A name that was cut is too long.
        have outcome : Opening c path flags mode k _ := .nameTooLong arrives long
        simpa [noted] using outcome
      | false =>
        simp only [Bool.false_eq_true, if_false, Action.reporting, Action.bind_apply,
          Action.attempt_apply, onLayer_apply, FileLayer.acquire_apply]
        rcases answer : FileLayer.openFile name.text flags mode k.layer with ⟨e | file, layer⟩
        · -- The layer has refused, which is reported.
          have outcome := Opening.layerRefused arrives long answer
          simpa [noted] using outcome
        -- The layer has opened a file: from here on every ending has to account for it.
        · have allocated := Table.allocates c file fits
          rcases found : Table.allocate c file k.files with ⟨result, files, changes⟩
          rw [found] at allocated
          cases allocated with
          | granted grants enough =>
            -- The file got a descriptor.
            have outcome := Opening.opened arrives long answer grants enough
            simpa [found] using outcome
          | refused lacks =>
            -- There is no descriptor for the file, so the layer gets it back.
            rcases closed : FileLayer.closeFile file layer with ⟨closing, layer'⟩
            have outcome := Opening.undone arrives long answer lacks closed
            have discarded (report : Errno → Notice) :
                (discard c file report : Action (Kernel μ ν φ) (Event φ) Errno Unit) _ = _ :=
              discard_eq c file report ⟨memory, layer, k.files⟩ closed
            simpa [found, discarded, noted] using outcome

/-! ### The file of an opening -/

/-- The layer opened a file and got it back at once. Whatever it answered to that, the opening is
refused with the given error.

It is said by the uses of the layer in full: there are these two, in this order, and no others. -/
structure HandsBack (flags : OpenFlags) (mode : UInt32) (k : Kernel μ ν φ) (file : φ) (e : Errno)
    (o : Outcome (Kernel μ ν φ) (Event φ) Errno Fd) : Prop where
  calls : ∃ name layer closing layer',
    FileLayer.openFile name flags mode k.layer = (.ok file, layer) ∧
      FileLayer.closeFile file layer = (closing, layer') ∧
      Event.fileCalls o.events =
        [.openFile name flags mode (.ok file), .closeFile file closing]
  refused : o.result = .error (.refused e)

/-- Where the file of an opening is afterwards, if the layer opened one.

There are three places, and each case says what was opened and what was closed. A file that is in
the table has not been handed back, and the other way round. -/
inductive Placement (c : Conditions) (flags : OpenFlags) (mode : UInt32) (k : Kernel μ ν φ)
    (o : Outcome (Kernel μ ν φ) (Event φ) Errno Fd) : Prop where
  | noFile {halt : Halt Errno} (failed : o.result = .error halt) (same : o.state.files = k.files)
      (opened : Event.filesOpened o.events = []) (closed : Event.filesClosed o.events = []) :
      Placement c flags mode k o
  | inTable (file : φ) {fd : Fd} (told : o.result = .ok fd)
      (grants : k.files.Grants fd file o.state.files) (enough : ∀ cause, ¬ k.files.Lacks c cause)
      (opened : Event.filesOpened o.events = [file]) (closed : Event.filesClosed o.events = []) :
      Placement c flags mode k o
  | handedBack {file : φ} {cause : Table.Error} (same : o.state.files = k.files)
      (lacks : k.files.Lacks c cause) (back : HandsBack flags mode k file cause.toErrno o)
      (opened : Event.filesOpened o.events = [file])
      (closed : Event.filesClosed o.events = [file]) : Placement c flags mode k o

/-- **Where the file of an opening is**: there is none, or it is in the table, or it was handed
back. -/
theorem Opening.placement {c : Conditions} {path : UserAddr} {flags : OpenFlags} {mode : UInt32}
    {k : Kernel μ ν φ} {o : Outcome (Kernel μ ν φ) (Event φ) Errno Fd}
    (outcome : Opening c path flags mode k o) : Placement c flags mode k o := by
  -- Each outcome lists its events, so the files are counted there.
  cases outcome with
  | badMode => exact .noFile rfl rfl rfl rfl
  | nameHalted =>
    refine .noFile rfl rfl ?_ ?_
    · simp [Event.filesOpened]
    · simp [Event.filesClosed]
  | nameTooLong =>
    refine .noFile rfl rfl ?_ ?_
    · simp [Event.filesOpened]
    · simp [Event.filesClosed]
  | layerRefused =>
    refine .noFile rfl rfl ?_ ?_
    · simp [Event.filesOpened, FileCall.opened?, Except.toOption]
    · simp [Event.filesClosed, FileCall.closed?]
  | @opened name memory calls file layer fd files _ _ _ grants enough =>
    -- The one outcome in which a descriptor is told.
    refine .inTable file rfl grants enough ?_ ?_
    · simp [Event.filesOpened, FileCall.opened?, Except.toOption]
    · simp [Event.filesClosed, FileCall.closed?]
  | undone _ _ answer lacks closed =>
    -- The file was opened and closed within the call.
    refine .handedBack rfl lacks ⟨⟨_, _, _, _, answer, closed, ?_⟩, rfl⟩ ?_ ?_
    · simp
    · simp [Event.filesOpened, FileCall.opened?, List.filterMap_cons, Except.toOption]
    · simp [Event.filesClosed, FileCall.closed?, List.filterMap_cons]

/-! ## Closing -/

/-- The outcomes of closing a descriptor.

Whether the number is no descriptor, or one that is not in use, makes no difference to a program. -/
inductive Closing (c : Conditions) (raw : Int32) (k : Kernel μ ν φ) :
    Outcome (Kernel μ ν φ) (Event φ) Errno Unit → Prop where
  | badDescriptor (dead : ∀ fd, Fd.ofInt32? raw = some fd → k.files.get? fd = none) :
      Closing c raw k ⟨.error (.refused .ebadf), k, []⟩
  /-- The file is taken out of the table and handed back; the layer's answer is returned. -/
  | closed {fd : Fd} {file : φ} {files : Table φ} {answer : Except Errno Unit} {layer : ν}
      (releases : k.files.Releases raw fd file files)
      (answered : FileLayer.closeFile file k.layer = (answer, layer)) :
      Closing c raw k ⟨answer.mapError .refused, { k with layer, files },
        (Table.noted c (.released fd)).map (fun change => .notice (.table change)) ++
          .layer (.closeFile file answer) :: reported c answer (.closeFailed fd)⟩

omit [UserMemory μ] in
/-- **Outcomes of closing a descriptor.**

The descriptor is taken out of the table before the layer is asked, so it is free in any case. -/
theorem closing (c : Conditions) (raw : Int32) (k : Kernel μ ν φ) (fits : k.files.Fits) :
    Closing c raw k (closeFile c raw k) := by
  unfold closeFile
  cases named : Fd.ofInt32? raw with
  | none =>
    -- The number is that of no descriptor.
    refine .badDescriptor ?_
    intro fd h
    rw [named] at h
    cases h
  | some fd =>
    -- The table decides whether there is a file to hand back.
    have deallocated := Table.deallocates c raw fits
    rcases found : Table.deallocate c raw k.files with ⟨result, files, changes⟩
    rw [found] at deallocated
    cases deallocated with
    | refused dead =>
      -- The descriptor is not in use, and the table says so.
      have outcome := Closing.badDescriptor (c := c) dead
      simpa [Action.mapReason, found, Table.Error.toErrno] using outcome
    | released releases =>
      cases named.symm.trans releases.named
      rcases answered : FileLayer.closeFile _ k.layer with ⟨answer, layer⟩
      have outcome := Closing.closed (c := c) releases answered
      -- The descriptor is gone whatever the layer answers; an error is only reported.
      cases answer with
      | ok done =>
        simpa [Action.mapReason, Action.reporting, found, FileLayer.release_apply, answered,
          reported] using outcome
      | error e =>
        simpa [Action.mapReason, Action.reporting, found, FileLayer.release_apply, answered,
          reported, noted] using outcome

/-! ## Locating -/

/-- The path that an answer of the file layer stands for: the bytes before the first zero byte,
among those that the layer says it wrote.

A report beyond the end of the buffer is cut to its length, and the path can still be shorter. -/
def pathIn (buffer : List UInt8) (count : UInt64) : List UInt8 :=
  (buffer.take (min count.toNat pathMax)).takeWhile (· ≠ 0)

/-- The outcomes of telling the working directory.

The case of a path that is told includes the copy to the program, with its own answer. The number of
bytes does not depend on that answer, but it is told only if the copy succeeds. -/
inductive Locating (c : Conditions) (dst : UserAddr) (room : Nat) (k : Kernel μ ν φ) :
    Outcome (Kernel μ ν φ) (Event φ) Errno Nat → Prop where
  | noBuffer (short : c.shortage.buffers = true) :
      Locating c dst room k ⟨.error (.refused .enomem), k, []⟩
  | lookupFailed {e : Errno} {layer : ν} (enough : c.shortage.buffers = false)
      (answer : FileLayer.currentDirectory (Vector.replicate pathMax 0) k.layer =
        (.error e, layer)) :
      Locating c dst room k ⟨.error (.refused e), { k with layer },
        .layer (.currentDirectory pathMax (.error e)) :: noted c (.lookupFailed e)⟩
  /-- The path is copied out, as far as there is room; the memory's answer is returned. -/
  | located {buffer : Vector UInt8 pathMax} {count : UInt64} {layer : ν}
      {copied : Except Errno Unit} {memory : μ} {calls : List MemoryCall}
      (enough : c.shortage.buffers = false)
      (answer : FileLayer.currentDirectory (Vector.replicate pathMax 0) k.layer =
        (.ok (buffer, count), layer))
      (copy : Copy.outBytes ((pathIn buffer.toList count).take room) dst k.memory =
        ⟨copied.mapError .refused, memory, calls⟩) :
      Locating c dst room k
        ⟨(copied.map fun _ => min (pathIn buffer.toList count).length room).mapError .refused,
          { k with memory, layer },
          .layer (.currentDirectory pathMax (.ok (buffer.toList, count))) ::
            (calls.map .memory ++ reported c copied (.copyOutFailed dst))⟩

/-- To take so many bytes of the buffer is to take them of the path, which is the beginning of the
buffer. -/
theorem take_pathIn (buffer : List UInt8) (count : UInt64) (room : Nat) :
    buffer.take (min (pathIn buffer count).length room) = (pathIn buffer count).take room := by
  have start : pathIn buffer count <+: buffer :=
    (List.takeWhile_prefix _).trans (List.take_prefix _ _)
  rw [Nat.min_comm, ← List.take_take, ← List.prefix_iff_eq_take.mp start]

/-- **Outcomes of telling the working directory.**

There are three points at which the call ends, and two cuts of the buffer in between. That neither
cut can fail is what has to be shown; the rest is reading off. -/
theorem locating (c : Conditions) (dst : UserAddr) (room : Nat) (k : Kernel μ ν φ) :
    Locating c dst room k (currentDirectory c dst room k) := by
  unfold currentDirectory Buffer.reserve
  have small : ¬ Buffer.reservationLimit < pathMax + 1 := by decide
  cases short : c.shortage.buffers with
  | true =>
    -- There is no memory for the buffer.
    have outcome : Locating c dst room k _ := .noBuffer short
    simpa using outcome
  | false =>
    rcases answer : FileLayer.currentDirectory (Vector.replicate pathMax 0) k.layer with
      ⟨found, layer⟩
    have asked := reporting_eq c (x := onLayer (FileLayer.locate pathMax)) (k := k)
      (by rw [onLayer_apply, FileLayer.locate_apply, answer]; rfl) .lookupFailed
    simp only [Bool.false_eq_true, small, or_false, if_false, Action.bind_apply,
      Action.pure_apply, Outcome.andThen_ok, Outcome.after_nil, asked]
    cases found with
    | error e =>
      -- The layer has no path to tell.
      exact .lookupFailed short answer
    | ok found =>
      obtain ⟨buffer, count⟩ := found
      -- Neither cut of the buffer goes past its end, so both are made.
      have full : buffer.toList.length = pathMax := buffer.length_toList
      have firstCut : Checked.firstPart buffer.toList (min count.toNat pathMax) = .ok _ :=
        Checked.firstPart_eq_ok (by omega)
      have start : pathIn buffer.toList count <+: buffer.toList :=
        (List.takeWhile_prefix _).trans (List.take_prefix _ _)
      have inBuffer := Nat.le_trans (Nat.min_le_left _ room) start.length_le
      have secondCut := Checked.firstPart_eq_ok inBuffer
      rw [take_pathIn] at secondCut
      -- The copy to the program ends with an answer, and this is the answer of the call.
      obtain ⟨copied, memory, calls, copy⟩ :=
        Copy.outBytes_answers ((pathIn buffer.toList count).take room) dst k.memory
      have outcome : Locating c dst room k _ := .located short answer copy
      have handed := reporting_eq c (x := onMemory (Copy.outBytes _ dst)) (k := { k with layer })
        (by rw [onMemory_apply, copy]; rfl) (.copyOutFailed dst)
      simp only [mapError_ok, Outcome.andThen_ok, Action.bind_apply, firstCut,
        Action.ofChecked_ok, Action.pure_apply, Outcome.after_nil]
      change Locating c dst room k (Outcome.after _
        ((Action.ofChecked (Checked.firstPart buffer.toList
          (min (pathIn buffer.toList count).length room)) _).andThen _))
      simp only [secondCut, Action.ofChecked_ok, Action.pure_apply, Action.bind_apply,
        Outcome.andThen_ok, Outcome.after_nil, handed]
      cases copied with
      | ok done =>
        simp only [mapError_ok, Outcome.andThen_ok, Action.pure_apply, Outcome.after_mk,
          List.append_nil]
        exact outcome
      | error e => exact outcome

/-! ## Shutdown -/

/-- A file that was closed, with the descriptor it had and the answer of the layer.

A shutdown returns a number only. What became of each file is seen in these records. -/
structure ClosedFile (φ : Type) where
  fd : Fd
  file : φ
  answer : Except Errno Unit

namespace ClosedFile

/-- The binding that is gone. -/
def entry (x : ClosedFile φ) : Fd × φ := (x.fd, x.file)

/-- The use of the layer. -/
def call (x : ClosedFile φ) : FileCall φ := .closeFile x.file x.answer

/-- What an observer sees of the closing, as a part of a shutdown. -/
def atShutdown (c : Conditions) (x : ClosedFile φ) : List (Event φ) :=
  .layer x.call :: reported c x.answer (.shutdownFailed x.fd)

end ClosedFile

/-- The layer closes files one after the other, whatever it answers.

The layer of one closing is what the next closing meets. None of the answers ends the sequence. -/
inductive ClosesEach : ν → List (ClosedFile φ) → ν → Prop where
  | nil (layer : ν) : ClosesEach layer [] layer
  | cons {layer next final : ν} {x : ClosedFile φ} {later : List (ClosedFile φ)}
      (answered : FileLayer.closeFile x.file layer = (x.answer, next))
      (rest : ClosesEach next later final) : ClosesEach layer (x :: later) final

omit [UserMemory μ] in
/-- The layer answers every closing, so for every list of files there are records of this. -/
theorem exists_closesEach (live : List (Fd × φ)) (layer : ν) :
    ∃ (closed : List (ClosedFile φ)) (final : ν),
      ClosesEach layer closed final ∧ closed.map ClosedFile.entry = live := by
  induction live generalizing layer with
  | nil => exact ⟨[], layer, .nil layer, rfl⟩
  | cons entry rest ih =>
    obtain ⟨fd, file⟩ := entry
    -- The layer answers the first closing, and the others go on from what it became.
    rcases answered : FileLayer.closeFile file layer with ⟨answer, next⟩
    obtain ⟨closed, final, each, entries⟩ := ih next
    refine ⟨⟨fd, file, answer⟩ :: closed, final, .cons answered each, ?_⟩
    rw [List.map_cons, entries]
    rfl

omit [UserMemory μ] in
/-- What a shutdown does with the files is what the records say, with a report for each failure. -/
theorem ClosesEach.discardEach_eq {layer final : ν} {closed : List (ClosedFile φ)}
    (each : ClosesEach layer closed final) (c : Conditions) (memory : μ) (files : Table φ) :
    discardEach c (closed.map ClosedFile.entry) ⟨memory, layer, files⟩ =
      ⟨.ok (), ⟨memory, final, files⟩, closed.flatMap (ClosedFile.atShutdown c)⟩ := by
  -- Induction on the files; the layer is the only part that changes on the way.
  induction each with
  | nil layer => rfl
  | @cons layer next final x later answered rest ih =>
    -- The first file is handed back, whatever is answered.
    have first (report : Errno → Notice) :
        (discard c x.file report : Action (Kernel μ ν φ) (Event φ) Empty Unit) _ = _ :=
      discard_eq c x.file report ⟨memory, layer, files⟩ answered
    simp only [List.map_cons, ClosedFile.entry, discardEach, Action.bind_apply, first,
      Outcome.andThen_ok]
    change Outcome.after _ (discardEach c (later.map ClosedFile.entry) ⟨memory, next, files⟩) = _
    rw [ih]
    rfl

omit [UserMemory μ] in
/-- **Outcome of a shutdown**: every file of the table is closed, lowest descriptor first, and the
table is empty.

The table is drained first. So the files are those that it names, and the kernel that is left has an
empty table even before the first file is closed. -/
theorem closeAll_eq (c : Conditions) (k : Kernel μ ν φ) (fits : k.files.Fits) :
    ∃ (closed : List (ClosedFile φ)) (final : ν),
      FdMap.Lists k.files.get? (closed.map ClosedFile.entry) ∧
      closed.map ClosedFile.file = k.files.held ∧ ClosesEach k.layer closed final ∧
      closeAll c k =
        ⟨.ok closed.length, initial k.memory final, closed.flatMap (ClosedFile.atShutdown c)⟩ := by
  -- What the drain gave up, and the records of closing it.
  obtain ⟨live, drained, lists, files⟩ := @Table.drain_eq φ Empty k.files fits
  obtain ⟨closed, final, each, rfl⟩ := exists_closesEach live k.layer
  refine ⟨closed, final, lists, ?_, each, ?_⟩
  · -- The files of the records are those of the table.
    rw [← files, List.map_map]
    rfl
  · -- The call is the drain, followed by the closings.
    have discarded := each.discardEach_eq c k.memory .empty
    simp [closeAll, drained, discarded, initial]

/-! ### What an observer sees of a shutdown -/

@[simp] theorem memoryCalls_atShutdown (c : Conditions) (closed : List (ClosedFile φ)) :
    Event.memoryCalls (closed.flatMap (ClosedFile.atShutdown c)) = [] := by
  induction closed with
  | nil => rfl
  | cons x later ih => simp [ClosedFile.atShutdown, ih]

@[simp] theorem fileCalls_atShutdown (c : Conditions) (closed : List (ClosedFile φ)) :
    Event.fileCalls (closed.flatMap (ClosedFile.atShutdown c)) = closed.map ClosedFile.call := by
  induction closed with
  | nil => rfl
  | cons x later ih => simp [ClosedFile.atShutdown, ih]

omit [UserMemory μ] in
/-- A shutdown hands back the files of the table.

This is all that most results need of a shutdown: what was handed back, and that nothing else
happened to files or memory. -/
theorem closeAll_cases (c : Conditions) (k : Kernel μ ν φ) (fits : k.files.Fits) :
    ∃ (layer : ν) (events : List (Event φ)),
      closeAll c k = ⟨.ok k.files.held.length, ⟨k.memory, layer, .empty⟩, events⟩ ∧
        Event.memoryCalls events = [] ∧ Event.filesOpened events = [] ∧
        Event.filesClosed events = k.files.held := by
  obtain ⟨closed, final, -, files, -, ended⟩ := closeAll_eq c k fits
  refine ⟨final, closed.flatMap (ClosedFile.atShutdown c), ?_, by simp, ?_, ?_⟩
  · rw [ended, ← files, List.length_map]
    rfl
  · rw [Event.filesOpened, fileCalls_atShutdown, List.filterMap_map]
    exact List.filterMap_eq_nil_iff.mpr fun _ _ => rfl
  · rw [Event.filesClosed, fileCalls_atShutdown, List.filterMap_map, ← files]
    exact congrFun (@List.filterMap_eq_map _ _ ClosedFile.file) closed

end SyscallGate.Kernel
