import SyscallGate.Files.FlatLayer
import SyscallGate.Memory.Regions
import SyscallGate.Proofs.Call.Sequence
import SyscallGate.Proofs.Descriptor.Refinement
import SyscallGate.Proofs.Kernel.Routing
import SyscallGate.Proofs.Kernel.Totality
import SyscallGate.Proofs.Reports

/-!
# Logging is a filter

The log level decides which reports are shown, and nothing else. Of the same requests to the same
kernel, a run at a lower level gives the same answers and makes the same uses of user memory and of
the file layer as a run at a higher level, leaves the same state, and shows those lines of the
higher level that the lower one admits. The same holds of a descriptor table on its own.

## Main results

- `Table.Request.perform_filters`, `Request.perform_filters`: one request at two levels.
- `Kernel.dispatch_filters`: a dispatch at two levels, from any context that has its registers.
- `Kernel.logging_filters`: sessions at two levels.
-/

namespace SyscallGate

variable {μ ν φ τ η α : Type} {c c' : Conditions}

open SyscallGate.Action (Filters)

/-! ## The descriptor table -/

namespace Table

/-- A change of the table as a record of the log. -/
def Notice.record? (change : Notice) : Option Log.Record := some change.record

/-- A change of the table is shown if its level is recorded. -/
abbrev shownAt (c : Conditions) (change : Notice) : Bool := c.log.shows change.record?

/-- The level of a change decides whether it is shown, and all changes are details. -/
theorem note_filters (quieter : c.Quieter c') (change : Notice) (detail : change.level = .trace) :
    Filters (shownAt c) (c.note .trace change : Action (Table φ) Notice η Unit)
      (c'.note .trace change) :=
  quieter.note_filters (congrArg c.log.admits detail)

/-- The rule for each step of the definition is taken in turn. Here, as below, nothing but the
report depends on the conditions. -/
theorem occupy_filters (quieter : c.Quieter c') (slot : Nat) (file : φ) :
    Filters (shownAt c) (occupy c slot file : Action (Table φ) Notice η Fd)
      (occupy c' slot file) := by
  refine Action.filters_read.bind fun table => ?_
  refine (Action.filters_ofChecked _).bind fun slots => ?_
  refine (Action.filters_write _).bind fun _ => ?_
  refine (Action.filters_ofChecked _).bind fun fd => ?_
  exact (note_filters quieter (.allocated fd) rfl).bind fun _ => Action.filters_pure fd

/-- The allocation looks at the conditions in one more place: when the table has to grow. -/
theorem allocate_filters (quieter : c.Quieter c') (file : φ) :
    Filters (shownAt c) (allocate c file) (allocate c' file) := by
  refine Action.filters_read.bind fun table => ?_
  -- Whether the table can grow depends on the shortage, and that is the same.
  have growth : table.grow? c = table.grow? c' := by
    rw [grow?, grow?, quieter.shortage]
  rw [growth]
  cases table.firstFree with
  | some slot => exact occupy_filters quieter slot file
  | none =>
    refine Filters.ite ?_ (Action.filters_refuse _)
    cases table.grow? c' with
    | none => exact Action.filters_refuse _
    | some larger => exact (Action.filters_write larger).bind fun _ => occupy_filters quieter _ file

/-- A deallocation asks for no storage, so its report is all that depends on the conditions. -/
theorem deallocate_filters (quieter : c.Quieter c') (raw : Int32) :
    Filters (shownAt c) (deallocate c raw : Action (Table φ) Notice Error φ)
      (deallocate c' raw) := by
  unfold deallocate
  cases Fd.ofInt32? raw with
  | none => exact Action.filters_refuse _
  | some fd =>
    refine Action.filters_read.bind fun table => ?_
    cases table.get? fd with
    | none => exact Action.filters_refuse _
    | some file =>
      refine (Action.filters_write _).bind fun _ => ?_
      exact (note_filters quieter (.released fd) rfl).bind fun _ => Action.filters_pure file

/-- A drain reports nothing. -/
theorem drain_filters {keep : Notice → Bool} :
    Filters keep (drain : Action (Table φ) Notice η (List (Fd × φ))) drain := by
  refine Action.filters_read.bind fun table => ?_
  exact (Action.filters_write _).bind fun _ => Action.filters_ofChecked _

/-- **A request to a table at two levels.**

There is one rule for each kind of request. The views of the table report nothing, and neither do
its texts. -/
theorem Request.perform_filters :
    Service.FiltersEach (perform : Service (Table φ) Notice (Request φ) (Reply φ))
      Notice.record? := by
  intro c c' quieter request
  cases request with
  -- Those that change the table.
  | allocate file => exact (allocate_filters quieter file).attempt.map _
  | deallocate raw => exact (deallocate_filters quieter raw).attempt.map _
  | contains raw => exact Action.filters_read.map _
  | liveCount => exact Action.filters_read.map _
  | isEmpty => exact Action.filters_read.map _
  | drain => exact drain_filters.map _
  | labelled =>
    exact (Action.filters_read.bind fun table => Action.filters_ofChecked _).map _
  | labelledLines =>
    exact (Action.filters_read.bind fun table => Action.filters_ofChecked _).map _

end Table

/-! ## The parts of a kernel -/

/-- What an observer sees, as a record of the log if it is a report. -/
def Event.record? : Event φ → Option Log.Record
  | memory _ => none
  | layer _ => none
  | notice report => some report.record

namespace Kernel

/-- An event is shown if it is no report, or if its level is recorded. -/
abbrev shownAt (c : Conditions) (e : Event φ) : Bool := c.log.shows e.record?

/-- Work on the memory, on the layer or on the table is carried over into the kernel with its own
filter. Uses of memory and of the layer are never filtered. -/
theorem onMemory_filters (x : Action μ MemoryCall η α) :
    Filters (shownAt c) (onMemory x : Action (Kernel μ ν φ) (Event φ) η α) (onMemory x) :=
  (Action.Emits.filters fun _ _ _ => rfl).zoom

theorem onLayer_filters (x : Action ν (FileCall φ) η α) :
    Filters (shownAt c) (onLayer x : Action (Kernel μ ν φ) (Event φ) η α) (onLayer x) :=
  (Action.Emits.filters fun _ _ _ => rfl).zoom

theorem onTable_filters {x y : Action (Table φ) Table.Notice η α}
    (h : Filters (Table.shownAt c) x y) :
    Filters (shownAt c) (onTable x : Action (Kernel μ ν φ) (Event φ) η α) (onTable y) :=
  Filters.zoom h

/-- A report of a kernel is shown at its own level. -/
theorem note_filters (quieter : c.Quieter c') (report : Notice) :
    Filters (shownAt c) (note c report : Action (Kernel μ ν φ) (Event φ) η Unit)
      (note c' report) :=
  quieter.note_filters rfl

theorem discard_filters [FileLayer ν φ] (quieter : c.Quieter c') (file : φ)
    (report : Errno → Notice) :
    Filters (shownAt c) (discard c file report : Action (Kernel μ ν φ) (Event φ) η Unit)
      (discard c' file report) := by
  -- The layer is asked at any level; only its failure is reported.
  refine (onLayer_filters _).attempt.bind fun answer => ?_
  cases answer with
  | ok done => exact Action.filters_pure _
  | error cause => exact note_filters quieter (report cause)

/-! ## The calls -/

section

variable [UserMemory μ] [FileLayer ν φ]

/-- An opening takes the rule for each of its steps: the mode, the name, the layer and the table.
Two of its branches end with reports. -/
theorem openFile_filters (quieter : c.Quieter c') (path : UserAddr) (flags : OpenFlags)
    (mode : UInt32) :
    Filters (shownAt c) (openFile c path flags mode : Action (Kernel μ ν φ) (Event φ) Errno Fd)
      (openFile c' path flags mode) := by
  refine (Action.filters_ofExcept _).bind fun _ => ?_
  -- The copy of the name depends on the shortage, and that is the same.
  have copy : (Copy.inString c path (nameMax + 1) : Action μ MemoryCall Errno KernelString) =
      Copy.inString c' path (nameMax + 1) := by
    simp only [Copy.inString, Buffer.reserve, quieter.shortage]
  rw [copy]
  -- The name has arrived, and is too long or not.
  refine (onMemory_filters _).bind fun name => ?_
  refine Filters.ite ?_ ?_
  · exact (note_filters quieter _).bind fun _ => Action.filters_refuse _
  · refine ((onLayer_filters _).reporting fun cause => note_filters quieter _).bind fun file => ?_
    -- The layer has opened the file, and the table is asked for a descriptor.
    refine (onTable_filters (Table.allocate_filters quieter file)).attempt.bind fun answer => ?_
    cases answer with
    | ok fd => exact Action.filters_pure fd
    | error refusal =>
      -- The table has refused it: report, hand it back, refuse.
      refine (note_filters quieter _).bind fun _ => ?_
      exact (discard_filters quieter _ _).bind fun _ => Action.filters_refuse _

omit [UserMemory μ] in
/-- A closing has its number checked first, which no report tells of. -/
theorem closeFile_filters (quieter : c.Quieter c') (raw : Int32) :
    Filters (shownAt c) (closeFile c raw : Action (Kernel μ ν φ) (Event φ) Errno Unit)
      (closeFile c' raw) := by
  unfold closeFile
  cases Fd.ofInt32? raw with
  | none => exact Action.filters_refuse _
  | some fd =>
    refine (onTable_filters (Table.deallocate_filters quieter raw)).mapReason.bind fun file => ?_
    exact (onLayer_filters _).reporting fun cause => note_filters quieter _

/-- The buffer for the path is refused for want of memory, which is the same at both levels. -/
theorem currentDirectory_filters (quieter : c.Quieter c') (dst : UserAddr) (room : Nat) :
    Filters (shownAt c) (currentDirectory c dst room : Action (Kernel μ ν φ) (Event φ) Errno Nat)
      (currentDirectory c' dst room) := by
  unfold currentDirectory Buffer.reserve
  rw [quieter.shortage]
  refine (Filters.ite (Action.filters_refuse _) (Action.filters_pure _)).bind fun _ => ?_
  refine ((onLayer_filters _).reporting fun cause => note_filters quieter _).bind fun found => ?_
  refine (Action.filters_ofChecked _).bind fun written => ?_
  refine (Action.filters_ofChecked _).bind fun path => ?_
  exact ((onMemory_filters _).reporting fun cause => note_filters quieter _).map _

omit [UserMemory μ] in
theorem closeAll_filters (quieter : c.Quieter c') :
    Filters (shownAt c) (closeAll c : Action (Kernel μ ν φ) (Event φ) Empty Nat) (closeAll c') := by
  -- Induction on the files that the table gave up.
  have each (live : List (Fd × φ)) :
      Filters (shownAt c) (discardEach c live : Action (Kernel μ ν φ) (Event φ) Empty Unit)
        (discardEach c' live) := by
    induction live with
    | nil => exact Action.filters_pure ()
    | cons entry rest ih => exact (discard_filters quieter _ _).bind fun _ => ih
  exact (onTable_filters Table.drain_filters).bind fun live => (each live).map _

/-! ## Calls from a context -/

variable [TrapContext τ]

omit [UserMemory μ] [FileLayer ν φ] [TrapContext τ] in
/-- Arguments are read without a report. -/
theorem readArguments_filters (x : Action (ArgumentReader μ) MemoryCall η α) :
    Filters (shownAt c) (readArguments x : Action (Kernel μ ν φ) (Event φ) η α)
      (readArguments x) :=
  onMemory_filters _

/-- The call of a number is the call itself, between the reading of its arguments and the wrapping
of its value. -/
theorem route_filters (quieter : c.Quieter c') (number : UInt32) (ctx : τ) :
    Filters (shownAt c) (route c number ctx : Action (Kernel μ ν φ) (Event φ) Errno Value)
      (route c' number ctx) := by
  refine Filters.ite ?_ (Filters.ite ?_ (Filters.ite ?_ ?_))
  · refine (readArguments_filters _).bind fun arguments => ?_
    exact (currentDirectory_filters quieter _ _).map _
  · refine (readArguments_filters _).bind fun arguments => ?_
    exact (openFile_filters quieter _ _ _).map _
  · refine (readArguments_filters _).bind fun fd => ?_
    -- An unknown number is reported and refused.
    exact (closeFile_filters quieter fd).map _
  · exact (note_filters quieter _).bind fun _ => Action.filters_refuse _

omit [UserMemory μ] [FileLayer ν φ] in
/-- With the argument registers there, reading them for the report can only succeed.

This is the only place where a level decides whether something is done that is not a report: the
registers are read, or they are not. Without such a register, a trace would end in a panic that a
quiet run does not meet. -/
theorem noteEntry_filters (quieter : c.Quieter c') (number : UInt32) {ctx : τ}
    (registers : TrapContext.HasRegisters ctx) :
    Filters (shownAt c) (noteEntry c number ctx : Action (Kernel μ ν φ) (Event φ) η Unit)
      (noteEntry c' number ctx) := by
  obtain ⟨a0, held0⟩ := registers 0 (by decide)
  obtain ⟨a1, held1⟩ := registers 1 (by decide)
  obtain ⟨a2, held2⟩ := registers 2 (by decide)
  obtain ⟨a3, held3⟩ := registers 3 (by decide)
  -- At either level the entry is the report, which a level that does not record it drops.
  have entry (c : Conditions) :
      (noteEntry c number ctx : Action (Kernel μ ν φ) (Event φ) η Unit) =
        note c (.callEntered number a0 a1 a2 a3) := by
    unfold noteEntry
    split
    case isTrue => simp only [held0, held1, held2, held3, Action.ofChecked_ok, pure_bind]
    case isFalse silent => exact (if_neg silent).symm
  rw [entry, entry]
  exact note_filters quieter _

/-- **A dispatch at two levels**, from any context that has its registers.

The two reports around the call are dropped or shown like all others. -/
theorem dispatch_filters (quieter : c.Quieter c') {ctx : τ}
    (registers : TrapContext.HasRegisters ctx) :
    Filters (shownAt c) (dispatch c ctx : Action (Kernel μ ν φ) (Event φ) Empty τ)
      (dispatch c' ctx) := by
  refine (noteEntry_filters quieter _ registers).bind fun _ => ?_
  refine (route_filters quieter _ ctx).attempt.bind fun ending => ?_
  exact (note_filters quieter _).bind fun _ => Action.filters_pure _

/-- A trap is dispatched, or it is reported and the frame given back. -/
theorem handleTrap_filters (quieter : c.Quieter c') (frame : TrapFrame) :
    Filters (shownAt c)
      (handleTrap c frame : Action (Kernel μ ν φ) (Event φ) Empty (TrapFrame × Disposition))
      (handleTrap c' frame) := by
  unfold handleTrap
  cases Cause.ofRegister frame.cause with
  | syscall => exact (dispatch_filters quieter frame.hasRegisters).map _
  | _ => exact (note_filters quieter _).bind fun _ => Action.filters_pure _

end

end Kernel

/-! ## Requests and sessions -/

variable [UserMemory μ] [FileLayer ν φ]

/-- **A request to a kernel at two levels.**

What a request gives back does not depend on the levels, since refusals are part of the reply. -/
theorem Request.perform_filters :
    Service.FiltersEach (perform : Service (Kernel μ ν φ) (Event φ) Request Reply)
      Event.record? := by
  intro c c' quieter request
  cases request with
  | openFile path flags mode =>
    exact (Kernel.openFile_filters quieter path flags mode).attempt.map _
  | closeFile raw => exact (Kernel.closeFile_filters quieter raw).attempt.map _
  | currentDirectory dst room =>
    exact (Kernel.currentDirectory_filters quieter dst room).attempt.map _
  | dispatch frame => exact (Kernel.dispatch_filters quieter frame.hasRegisters).map _
  | trap frame => exact (Kernel.handleTrap_filters quieter frame).map _
  | closeAll => exact (Kernel.closeAll_filters quieter).map _

namespace Kernel

omit [UserMemory μ] [FileLayer ν φ] in
/-- A view in which there are no reports is the same under every filter.

Filtering drops reports only, and these do not show in the view. -/
theorem filterMap_shown {view : Event φ → Option α}
    (unseen : ∀ report, view (.notice report) = none) (f : Log.Filter) (events : List (Event φ)) :
    (events.filter fun e => f.shows e.record?).filterMap view = events.filterMap view := by
  rw [List.filterMap_filter]
  refine List.filterMap_congr fun e _ => ?_
  cases e with
  | memory call => rfl
  | layer call => rfl
  | notice report =>
    rw [unseen]
    exact ite_self none

/-- **Logging is a filter**: two sessions of the same requests with a kernel, under filters of which
the first one records less, make the same uses of user memory and of the file layer request by
request, and are the same but for the reports. So are two sessions with a descriptor table.

That the answers, the states and the shown reports are the same is `Service.SameButReports`, which
says so exchange by exchange. The uses of memory and of the layer follow from it, because they are
read off events that no filter drops. -/
theorem logging_filters {f g : Log.Filter} (less : f.rank ≤ g.rank) :
    (∀ (k : Kernel μ ν φ) (steps : List (Shortage × Request)),
      let quiet := k.session (Service.under f steps)
      let verbose := k.session (Service.under g steps)
      Service.SameButReports Event.record? f g quiet verbose ∧
        (quiet.map fun x => Event.memoryCalls x.outcome.events) =
          (verbose.map fun x => Event.memoryCalls x.outcome.events) ∧
        (quiet.map fun x => Event.fileCalls x.outcome.events) =
          (verbose.map fun x => Event.fileCalls x.outcome.events)) ∧
    ∀ (t : Table φ) (steps : List (Shortage × Table.Request φ)),
      Service.SameButReports Table.Notice.record? f g
        (Service.session Table.Request.perform t (Service.under f steps))
        (Service.session Table.Request.perform t (Service.under g steps)) := by
  refine ⟨?_, fun t steps => Service.sameButReports Table.Request.perform_filters less t steps⟩
  intro k steps quiet verbose
  -- The quiet session is the verbose one with what its filter drops left out.
  have shown : quiet = verbose.map (Service.shownUnder Event.record? f) :=
    Service.session_filters Request.perform_filters less k steps
  refine ⟨Service.sameButReports Request.perform_filters less k steps, ?_, ?_⟩
  · rw [shown, List.map_map]
    exact List.map_congr_left fun x _ => filterMap_shown (fun _ => rfl) f x.outcome.events
  · rw [shown, List.map_map]
    exact List.map_congr_left fun x _ => filterMap_shown (fun _ => rfl) f x.outcome.events

end Kernel

/-- A file is closed again for want of a descriptor, which fails, and then a call has no meaning. Of
the five reports at the level of traces, these two are warnings. -/
theorem Kernel.logging_filters_warnings :
    let k : Kernel RegionMemory FlatLayer Nat :=
      initial ⟨[⟨0x400FFE, [97, 0], false, none⟩]⟩
        { FlatLayer.empty [] with names := [[97]], closeFault := some .ebusy }
    let steps : List (Shortage × Request) :=
      [(⟨false, true⟩, .openFile ⟨0x400FFE⟩ ⟨0⟩ 0),
        (.none, .dispatch { TrapFrame.zero with v0 := 7 })]
    let quiet := k.session (Service.under (.upTo .warn) steps)
    let verbose := k.session (Service.under (.upTo .trace) steps)
    Service.SameButReports Event.record? (.upTo .warn) (.upTo .trace) quiet verbose ∧
      (Service.records Event.record? verbose).length = 5 ∧
      (Service.records Event.record? quiet).map (·.target) =
        [Log.Target.fileCalls.path, Log.Target.dispatcher.path] :=
  ⟨((logging_filters (by decide)).1 _ _).1, by decide +kernel, by decide +kernel⟩

end SyscallGate
