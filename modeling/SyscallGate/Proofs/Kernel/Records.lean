import SyscallGate.Proofs.Descriptor.Replay
import SyscallGate.Proofs.Kernel.Logging

/-!
# The records of a request

Which records stand in the events of a call when traces are recorded. A reader of the log is mostly
after certain records: those of one part of the kernel, or those of one level. For every choice that
passes over what the calls report on their own account, the records of a call are those of the
change that it made to the descriptor table. A dispatch adds one record before the call and one
behind it.

## Main definitions

- `Event.picked`: the records among events that a reader is after.
- `PassesOver`: a reader who is not after the reports of calls.
- `Kernel.ShowsChanges`: such a reader sees how the table changed, and no more.
- `Kernel.Bracketed`: a dispatch at the level of traces.
- `Request.calls`: the system calls for which a request asks with a frame.

## Main results

- `Kernel.Opening.shows`, `Kernel.Closing.shows`, `Kernel.Locating.shows`: the records of the calls.
- `Kernel.dispatch_bracketed`: the records of a dispatch.
- `Request.perform_shows`, `Request.perform_closeAll_silent`: the records of other requests.
-/

namespace SyscallGate

variable {μ ν φ α : Type}

/-! ## Records among events -/

/-- A reader who is after changes of the table or after beginnings and ends of calls, at most.

The calls report their failures on their own account. A reader who leaves these reports out still
sees the table and the dispatcher, but not the numbers that the dispatcher does not know. -/
structure PassesOver (pick : Log.Record → Bool) : Prop where
  parts : ∀ n : Notice, n.target ≠ .table → n.target ≠ .dispatcher → pick n.record = false
  unknown : ∀ number, pick (Notice.unknownCall number).record = false

theorem PassesOver.unhandledTrap {pick : Log.Record → Bool} (passes : PassesOver pick)
    (cause : Cause) (epc vaddr : UInt32) :
    pick (Notice.unhandledTrap cause epc vaddr).record = false :=
  passes.parts _ nofun nofun

namespace Event

/-- The records among events that a reader is after.

Which records there are does not depend on how they are grouped into events: the definition reads
the events once, and the lemmas below give it part by part. -/
def picked (pick : Log.Record → Bool) (events : List (Event φ)) : List Log.Record :=
  (events.filterMap record?).filter pick

variable {pick : Log.Record → Bool}

@[simp] theorem picked_nil : picked pick ([] : List (Event φ)) = [] := rfl

@[simp] theorem picked_append (first later : List (Event φ)) :
    picked pick (first ++ later) = picked pick first ++ picked pick later := by
  simp [picked]

@[simp] theorem picked_layer (call : FileCall φ) (rest : List (Event φ)) :
    picked pick (.layer call :: rest) = picked pick rest := rfl

@[simp] theorem picked_notice (report : Notice) (rest : List (Event φ)) :
    picked pick (.notice report :: rest) =
      (if pick report.record then [report.record] else []) ++ picked pick rest := by
  -- A report is read as one record, which the reader is after or not.
  show List.filter pick (report.record :: rest.filterMap record?) = _
  rw [List.filter_cons]
  split <;> rfl

@[simp] theorem picked_map_memory (calls : List MemoryCall) :
    picked pick (calls.map (Event.memory : MemoryCall → Event φ)) = [] := by
  induction calls with
  | nil => rfl
  | cons call rest ih => exact ih

@[simp] theorem picked_map_table (changes : List Table.Notice) :
    picked pick (changes.map fun change => (Event.notice (.table change) : Event φ)) =
      (changes.map Table.Notice.record).filter pick := by
  -- None of the uses of memory has a record.
  induction changes with
  | nil => rfl
  | cons change rest ih =>
    -- A change of the table reports nothing but its own record.
    have same : (Notice.table change).record = change.record := rfl
    rw [List.map_cons, picked_notice, ih, List.map_cons, List.filter_cons, same]
    split <;> rfl

end Event

namespace Kernel

open Event (picked)

variable {c : Conditions} {pick : Log.Record → Bool}

theorem picked_noted {report : Notice} (passed : pick report.record = false) :
    picked pick (noted c report : List (Event φ)) = [] := by
  unfold noted
  split
  · simp [passed]
  · rfl

theorem picked_reported {answer : Except Errno α} {report : Errno → Notice}
    (passed : ∀ e, pick (report e).record = false) :
    picked pick (reported c answer report : List (Event φ)) = [] := by
  cases answer with
  | ok => rfl
  | error e => exact picked_noted (passed e)

/-! ## The records of the calls -/

/-- A reader who passes over the reports of calls sees how the table changed, and no more.

The changes lead from one view to the other, so they are what really happened, and not just what was
written. Nothing else that the reader is after stands between them. -/
def ShowsChanges (before after : Table φ) (events : List (Event φ)) : Prop :=
  ∃ changes : List Table.Notice, FdMap.Changes before.get? after.get? changes ∧
    ∀ pick, PassesOver pick → picked pick events = (changes.map Table.Notice.record).filter pick

theorem ShowsChanges.of_picked_eq_nil {t : Table φ} {events : List (Event φ)}
    (silent : ∀ pick, PassesOver pick → picked pick events = []) : ShowsChanges t t events :=
  ⟨[], .unchanged, silent⟩

variable [UserMemory μ] [FileLayer ν φ] {k : Kernel μ ν φ}

/-- An opening shows one allocation if it puts a file into the table, and nothing if not. At the
level of traces, every allocation is recorded. -/
theorem Opening.shows {path : UserAddr} {flags : OpenFlags} {mode : UInt32}
    {o : Outcome (Kernel μ ν φ) (Event φ) Errno Fd} (outcome : Opening c path flags mode k o)
    (detailed : c.log = .upTo .trace) : ShowsChanges k.files o.state.files o.events := by
  cases outcome with
  -- The four outcomes without a file are silent, apart from a report that is passed over.
  | badMode => exact .of_picked_eq_nil fun _ _ => rfl
  | nameHalted => exact .of_picked_eq_nil fun _ _ => Event.picked_map_memory _
  | nameTooLong =>
    refine .of_picked_eq_nil fun pick passes => ?_
    simp [picked_noted (passes.parts (.nameTooLong path nameMax) nofun nofun)]
  | @layerRefused name memory calls e =>
    refine .of_picked_eq_nil fun pick passes => ?_
    simp [picked_noted (passes.parts (.openFailed name e) nofun nofun)]
  -- The table gained the lowest free descriptor.
  | @opened name memory calls file layer fd files _ _ _ grants =>
    refine ⟨[.allocated fd], ?_, fun pick _ => ?_⟩
    · have changed := FdMap.Changes.allocated file grants.lowest.free
      rwa [← grants.view] at changed
    · simp only [Event.picked_append, Event.picked_map_memory, Event.picked_layer,
        Event.picked_map_table, Table.noted_of_trace detailed, List.nil_append]
  -- The table is as it was. Handing the file back takes up to two reports, both passed over.
  | @undone name memory calls file layer layer' cause =>
    refine .of_picked_eq_nil fun pick passes => ?_
    simp [picked_noted (passes.parts (.noDescriptor name cause) nofun nofun),
      picked_reported fun e => passes.parts (.undoFailed name e) nofun nofun]

omit [UserMemory μ] in
/-- A closing shows one release if the number names a file in use. The report on a failure of the
layer comes behind it, and is passed over. -/
theorem Closing.shows {raw : Int32} {o : Outcome (Kernel μ ν φ) (Event φ) Errno Unit}
    (outcome : Closing c raw k o) (detailed : c.log = .upTo .trace) :
    ShowsChanges k.files o.state.files o.events := by
  cases outcome with
  | badDescriptor => exact .of_picked_eq_nil fun _ _ => rfl
  -- The descriptor was taken back before the layer was asked.
  | @closed fd file files answer layer releases =>
    refine ⟨[.released fd], ?_, fun pick passes => ?_⟩
    · have changed := FdMap.Changes.released (Option.isSome_of_eq_some releases.live)
      rwa [← releases.view] at changed
    · simp only [Event.picked_append, Event.picked_layer, Event.picked_map_table,
        Table.noted_of_trace detailed, List.append_nil,
        picked_reported fun e => passes.parts (.closeFailed fd e) nofun nofun]

/-- The call for the working directory leaves the table alone, whatever the layer tells. -/
theorem Locating.shows {dst : UserAddr} {room : Nat}
    {o : Outcome (Kernel μ ν φ) (Event φ) Errno Nat} (outcome : Locating c dst room k o) :
    ShowsChanges k.files o.state.files o.events := by
  cases outcome with
  | noBuffer => exact .of_picked_eq_nil fun _ _ => rfl
  | @lookupFailed e =>
    refine .of_picked_eq_nil fun pick passes => ?_
    simp [picked_noted (passes.parts (.lookupFailed e) nofun nofun)]
  | located =>
    refine .of_picked_eq_nil fun pick passes => ?_
    simp [picked_reported fun e => passes.parts (.copyOutFailed dst e) nofun nofun]

omit [UserMemory μ] [FileLayer ν φ] in
/-- A shutdown reports failures only, file by file, and these are passed over. That the table loses
its descriptors is not reported. -/
theorem picked_atShutdown (passes : PassesOver pick) (closed : List (ClosedFile φ)) :
    picked pick (closed.flatMap (ClosedFile.atShutdown c)) = [] := by
  -- Each file adds a use of the layer, and at most one report.
  induction closed with
  | nil => rfl
  | cons x later ih =>
    have failure : picked pick (reported c x.answer (.shutdownFailed x.fd) : List (Event φ)) = [] :=
      picked_reported fun e => passes.parts (.shutdownFailed x.fd e) nofun nofun
    simp [ClosedFile.atShutdown, ih, failure]

/-! ## The records of a dispatch -/

/-- The report on the beginning of the call that a frame asks for.

It names the number of the call and four argument registers as they are before the call, even of a
call that has fewer arguments or none. -/
def entry (frame : TrapFrame) : Notice :=
  .callEntered frame.v0 frame.a0 frame.a1 frame.a2 frame.a3

/-- The report on the end of that call, with a word or an error.

The end of a call tells its result, which for every call is one word or an error. -/
def exit (frame : TrapFrame) (answer : Except Errno UInt32) : Notice :=
  .callLeft frame.v0 (answer.map .word)

/-- A dispatch at the level of traces: it completes the frame with a word or an error, and makes
the call between two reports.

What stands between the two reports is what the call itself shows, and nothing else is reported
there. -/
structure Bracketed (frame : TrapFrame) (k : Kernel μ ν φ) (answer : Except Errno UInt32)
    (inner : List (Event φ)) (o : Outcome (Kernel μ ν φ) (Event φ) Empty TrapFrame) : Prop where
  completed : o.result = .ok (TrapContext.complete frame (answer.map .word))
  events : o.events = .notice (entry frame) :: (inner ++ [.notice (exit frame answer)])
  shows : ShowsChanges k.files o.state.files inner

omit [UserMemory μ] [FileLayer ν φ] in
theorem noted_of_admits {report : Notice} (admitted : c.log.admits report.level = true) :
    (noted c report : List (Event φ)) = [.notice report] := if_pos admitted

/-- If the number of a frame leads to an action that ends, the dispatch makes the action between two
reports. -/
theorem bracketed_of_route (detailed : c.log = .upTo .trace) {frame : TrapFrame}
    {answer : Except Errno UInt32}
    (ended : (route c frame.v0 frame k).result = (answer.map Value.word).mapError .refused)
    (shows : ShowsChanges k.files (route c frame.v0 frame k).state.files
      (route c frame.v0 frame k).events) :
    ∃ inner, Bracketed frame k answer inner (dispatch c frame k) := by
  -- Both reports pass the filter, which lets everything through.
  have entered : c.log.admits (entry frame).level = true := by
    rw [detailed]
    rfl
  have left (ending : Completion) :
      c.log.admits (Notice.callLeft frame.v0 ending).level = true := by
    rw [detailed]
    rfl
  -- The action of the number, with its result, the state afterwards and its events.
  rcases routed : route c frame.v0 frame k with ⟨result, k', inner⟩
  rw [routed] at ended shows
  obtain rfl : result = (answer.map Value.word).mapError .refused := ended
  have outcome : dispatch c frame k = ⟨.ok (TrapContext.complete frame (answer.map .word)), k',
      .notice (entry frame) :: (inner ++ [.notice (exit frame answer)])⟩ := by
    -- The report at the end prints what completes the frame: the word, or the error.
    rw [dispatch_apply, routed, ← entry, noted_of_admits entered]
    cases answer <;>
      simp [exit, Except.map, note_eq, -note_apply, noted_of_admits (left _)]
  rw [outcome]
  exact ⟨inner, rfl, rfl, shows⟩

/-- If that action is a call and then gives its value back as a word, what the call shows is what
stands between the reports.

Opening, closing and telling the directory differ in how their value becomes a word, and in nothing
that matters here. -/
theorem bracketed_of_routed (detailed : c.log = .upTo .trace) {frame : TrapFrame}
    {x : Action (Kernel μ ν φ) (Event φ) Errno α} (wrap : α → UInt32)
    (routed : route c frame.v0 frame = (do let a ← x; return .word (wrap a)))
    (returns : (x k).Returns) (shows : ShowsChanges k.files (x k).state.files (x k).events) :
    ∃ answer inner, Bracketed frame k answer inner (dispatch c frame k) := by
  obtain ⟨answer, ended⟩ := returns
  have outcome : route c frame.v0 frame k = ⟨(answer.map fun a => Value.word (wrap a)).mapError
      .refused, (x k).state, (x k).events⟩ := by
    -- The word is made behind the call, without a further effect.
    rw [routed, Action.bind_apply, Action.andThen_pure, ended]
    cases answer <;> rfl
  refine ⟨answer.map wrap, bracketed_of_route detailed ?_ ?_⟩
  · rw [outcome]
    cases answer <;> rfl
  · rw [outcome]
    exact shows

/-- **Every dispatch makes its call between two reports**, and completes the frame with a word or an
error. -/
theorem dispatch_bracketed (detailed : c.log = .upTo .trace) (frame : TrapFrame)
    (fits : k.files.Fits) :
    ∃ answer inner, Bracketed frame k answer inner (dispatch c frame k) := by
  -- One case for each known number, and one for all others.
  rcases frame.number_cases with number | number | number | unknown
  · exact bracketed_of_routed detailed Fd.toUInt32 (route_open c number)
      (openFile_returns c _ _ _ fits) ((opening c _ _ _ k fits).shows detailed)
  · exact bracketed_of_routed detailed (fun _ => 0) (route_close c number)
      (closeFile_returns c _ fits) ((closing c _ k fits).shows detailed)
  · exact bracketed_of_routed detailed UInt32.ofNat (route_directory c number)
      (currentDirectory_returns c _ _ k) (locating c _ _ k).shows
  -- No call: the number is reported as unknown, which the reader passes over.
  · have refused : route c frame.v0 frame k =
        ⟨.error (.refused .enosys), k, noted c (.unknownCall frame.v0)⟩ := by
      rw [route_unknown c unknown]
      simp [note_eq, -note_apply]
    refine ⟨.error .enosys, bracketed_of_route detailed ?_ ?_⟩
    · rw [refused]
      rfl
    · rw [refused]
      exact .of_picked_eq_nil fun pick passes => picked_noted (passes.unknown frame.v0)

end Kernel

/-! ## The records of a request -/

namespace Request

/-- The system calls for which a request asks with a frame: one or none.

A trap counts if its cause is a system call. Any other trap, like every request by a direct call,
makes no use of the dispatcher. -/
def calls : Request → List TrapFrame
  | dispatch frame => [frame]
  | trap frame => if Cause.ofRegister frame.cause = .syscall then [frame] else []
  | _ => []

theorem calls_cases (request : Request) :
    request.calls = [] ∨ ∃ frame, request.calls = [frame] := by
  cases request with
  | openFile | closeFile | currentDirectory | closeAll => exact .inl rfl
  | dispatch frame => exact .inr ⟨frame, rfl⟩
  | trap frame =>
    by_cases syscall : Cause.ofRegister frame.cause = .syscall
    · exact .inr ⟨frame, if_pos syscall⟩
    · exact .inl (if_neg syscall)

/-- The reply to a request that asks for a call with a frame, from the frame with which the program
goes on. -/
def resumed (request : Request) (after : TrapFrame) : Reply :=
  match request with
  | trap _ => .trapped after .resume
  | _ => .dispatched after

variable [UserMemory μ] [FileLayer ν φ] {c : Conditions} {k : Kernel μ ν φ}

open Kernel
open Event (picked)

/-- A request that asks for a call with a frame does what the dispatch of the frame does.

The trap handler adds nothing but that the program goes on, which is said in the reply. -/
theorem perform_of_mem_calls {request : Request} {frame : TrapFrame}
    (asks : frame ∈ request.calls) :
    request.perform c k = ⟨(Kernel.dispatch c frame k).result.map request.resumed,
      (Kernel.dispatch c frame k).state, (Kernel.dispatch c frame k).events⟩ := by
  cases request with
  | openFile | closeFile | currentDirectory | closeAll => cases asks
  -- Directly dispatched: the reply is the frame.
  | dispatch asked =>
    obtain rfl : frame = asked := List.mem_singleton.mp asks
    simp only [perform, Action.bind_apply, Action.andThen_pure]
    rfl
  -- By way of a trap: the cause is a system call, or no call would be asked for.
  | trap asked =>
    simp only [calls, List.mem_ite_nil_right, List.mem_singleton] at asks
    obtain ⟨syscall, rfl⟩ := asks
    simp only [perform, Action.bind_apply, handleTrap_syscall c syscall, Action.andThen_pure]
    cases (Kernel.dispatch c frame k).result <;> rfl

/-- A trap that asks for no call does nothing but warn. -/
theorem perform_trap_of_calls_eq_nil {frame : TrapFrame} (noCall : (trap frame).calls = []) :
    (trap frame).perform c k =
      ⟨.ok (.trapped frame (.unhandled (Cause.ofRegister frame.cause))), k,
        noted c (.unhandledTrap (Cause.ofRegister frame.cause) frame.epc frame.vaddr)⟩ := by
  have other : Cause.ofRegister frame.cause ≠ .syscall := by
    intro syscall
    simp [calls, syscall] at noCall
  simp only [perform, Action.bind_apply, handleTrap_other c other, Outcome.andThen_ok,
    Action.pure_apply, Outcome.after_mk, List.append_nil]

/-- A shutdown empties the table, and shows nothing of it.

This is the one change of the table that no record tells. It is left out where changes are read off
the records. -/
theorem perform_closeAll_silent (c : Conditions) (fits : k.files.Fits) :
    (closeAll.perform c k).state.files = .empty ∧
      ∀ pick, PassesOver pick → picked pick (closeAll.perform c k).events = [] := by
  obtain ⟨closed, final, -, -, -, ended⟩ := closeAll_eq c k fits
  simp only [perform, Action.bind_apply, Action.andThen_pure, ended]
  exact ⟨rfl, fun pick passes => picked_atShutdown passes closed⟩

omit [UserMemory μ] [FileLayer ν φ] in
/-- To give back how a call ended shows nothing more.

An action that is attempted never fails; its error becomes part of the reply. -/
theorem shows_attempt {t : Table φ} {x : Action (Kernel μ ν φ) (Event φ) Errno α}
    (shows : ShowsChanges t (x k).state.files (x k).events) (reply : Except Errno α → Reply) :
    let o : Outcome (Kernel μ ν φ) (Event φ) Empty Reply := (do return reply (← x.attempt)) k
    ShowsChanges t o.state.files o.events := by
  simpa only [Action.bind_apply, Action.attempt_apply, Action.andThen_pure,
    Outcome.attempted_state, Outcome.attempted_events] using shows

/-- **A request that asks for no call with a frame** shows how it changed the table, and no more,
unless it is a shutdown. -/
theorem perform_shows (detailed : c.log = .upTo .trace) {request : Request}
    (noCall : request.calls = []) (noShutdown : request ≠ .closeAll) (fits : k.files.Fits) :
    ShowsChanges k.files (request.perform c k).state.files (request.perform c k).events := by
  -- One case for each way of asking. Those with a frame ask for a call, apart from a trap with
  -- another cause.
  cases request with
  | openFile path flags mode =>
    exact shows_attempt ((opening c path flags mode k fits).shows detailed) .opened
  | closeFile raw => exact shows_attempt ((closing c raw k fits).shows detailed) .closed
  | currentDirectory dst room => exact shows_attempt (locating c dst room k).shows .located
  | dispatch frame => cases noCall
  | trap frame =>
    rw [perform_trap_of_calls_eq_nil noCall]
    exact .of_picked_eq_nil fun pick passes => picked_noted (passes.unhandledTrap _ _ _)
  | closeAll => exact absurd rfl noShutdown

end Request

end SyscallGate
