import SyscallGate.Kernel.Session
import SyscallGate.Proofs.Call.Arguments
import SyscallGate.Proofs.Kernel.FileCalls

/-!
# From registers to calls and back

A system call in a frame does what a direct call with the arguments in the registers does. Both make
the same use of user memory and of the file layer, and a program reads the answer of the direct call
in the frame that it gets back. Around the call there are reports, and nothing else.

## Main definitions

- `Request.direct?`: the direct call that a request comes down to.
- `Reply.answer`: the word or the error code of an answer.
- `Mirrors`: an outcome differs from another one in its reports only.
- `Carries`: a dispatch has the effects of a direct call, and returns its ending in the frame.

## Main results

- `Kernel.openCall_eq`, `Kernel.closeCall_eq`, `Kernel.directoryCall_eq`: the arguments of a call
  are in its registers.
- `Kernel.dispatch_open`, `Kernel.dispatch_close`, `Kernel.dispatch_directory`,
  `Kernel.dispatch_unknown`: what a dispatch carries out, by its number.
- `Request.perform_mirrors`: a request mirrors the direct call that it comes down to.
-/

namespace SyscallGate

variable {μ ν φ τ α : Type} [UserMemory μ] [FileLayer ν φ]

/-! ## Calls with their arguments in registers -/

namespace Kernel

variable [TrapContext τ]

/-- The arguments of an opening are in the first three registers.

A context may lack a register, and then the call ends where the register is asked for. So the
equation has the registers as steps that can fail, in the order in which they are read. -/
theorem openCall_eq (c : Conditions) (ctx : τ) :
    (openCall c ctx : Action (Kernel μ ν φ) (Event φ) Errno Value) = (do
      let path ← .ofChecked (TrapContext.argument ctx 0)
      let flags ← .ofChecked (TrapContext.argument ctx 1)
      let mode ← .ofChecked (TrapContext.argument ctx 2)
      let fd ← openFile c (.ofRegister path) ⟨flags⟩ mode
      return .ofFd fd) := by
  funext k
  -- Each of the first words is in a register, so reading the arguments leaves the memory as it is.
  have first := ArgumentReader.word_apply ctx (show 0 < argumentRegisters by decide) k.memory
  have second := ArgumentReader.word_apply ctx (show 1 < argumentRegisters by decide) k.memory
  have third := ArgumentReader.word_apply ctx (show 2 < argumentRegisters by decide) k.memory
  simp only [openCall, readArguments, ArgumentReader.userAddr, Action.bind_apply, onMemory_apply,
    Action.zoom_apply, ArgumentReader.start, first]
  -- A missing register ends both sides at the same place.
  cases TrapContext.argument ctx 0 with
  | error cause => rfl
  | ok path =>
    simp only [Outcome.andThen_ok, Action.pure_apply, Outcome.after_nil, Action.bind_apply, second]
    cases TrapContext.argument ctx 1 with
    | error cause => rfl
    | ok flags =>
      simp only [Outcome.andThen_ok, Outcome.after_nil, Action.bind_apply, third]
      cases TrapContext.argument ctx 2 <;> rfl

/-- The argument of a closing is in the first register, as a signed number. -/
theorem closeCall_eq (c : Conditions) (ctx : τ) :
    (closeCall c ctx : Action (Kernel μ ν φ) (Event φ) Errno Value) = (do
      let fd ← .ofChecked (TrapContext.argument ctx 0)
      closeFile c fd.toInt32
      return .ofUnit) := by
  funext k
  have first := ArgumentReader.word_apply ctx (show 0 < argumentRegisters by decide) k.memory
  simp only [closeCall, readArguments, ArgumentReader.int, Action.bind_apply, onMemory_apply,
    Action.zoom_apply, ArgumentReader.start, first]
  cases TrapContext.argument ctx 0 <;> rfl

/-- The arguments of the call for the working directory are in the first two registers. -/
theorem directoryCall_eq (c : Conditions) (ctx : τ) :
    (directoryCall c ctx : Action (Kernel μ ν φ) (Event φ) Errno Value) = (do
      let dst ← .ofChecked (TrapContext.argument ctx 0)
      let room ← .ofChecked (TrapContext.argument ctx 1)
      let count ← currentDirectory c (.ofRegister dst) room.toNat
      return .ofLength count) := by
  funext k
  have first := ArgumentReader.word_apply ctx (show 0 < argumentRegisters by decide) k.memory
  have second := ArgumentReader.word_apply ctx (show 1 < argumentRegisters by decide) k.memory
  simp only [directoryCall, readArguments, ArgumentReader.userAddr, Action.bind_apply,
    onMemory_apply, Action.zoom_apply, ArgumentReader.start, first]
  cases TrapContext.argument ctx 0 with
  | error cause => rfl
  | ok dst =>
    simp only [Outcome.andThen_ok, Action.pure_apply, Outcome.after_nil, Action.bind_apply, second]
    cases TrapContext.argument ctx 1 <;> rfl

end Kernel

/-! ## Requests and the direct calls they come down to -/

/-- The numbers with a call behind them.

They are the numbers that `Kernel.route` compares with, in the order of the calls and not of the
comparisons. -/
def Kernel.callNumbers : List UInt32 := [openNumber, closeNumber, directoryNumber]

open Kernel in
theorem TrapFrame.number_cases (frame : TrapFrame) :
    frame.v0 = openNumber ∨ frame.v0 = closeNumber ∨ frame.v0 = directoryNumber ∨
      frame.v0 ∉ callNumbers := by
  -- The list is taken apart into its three members.
  by_cases known : frame.v0 ∈ callNumbers
  · simp only [callNumbers, List.mem_cons, List.not_mem_nil, or_false] at known
    rcases known with opening | closing | locating
    · exact .inl opening
    · exact .inr (.inl closing)
    · exact .inr (.inr (.inl locating))
  · exact .inr (.inr (.inr known))

/-- The direct call that a frame asks for, if there is a call of its number.

The arguments are the registers of the frame as they are before the call. None of them is on the
stack, as these calls have three arguments at most. -/
def TrapFrame.request? (frame : TrapFrame) : Option Request :=
  if frame.v0 = Kernel.directoryNumber then
    some (.currentDirectory (.ofRegister frame.a0) frame.a1.toNat)
  else if frame.v0 = Kernel.openNumber then
    some (.openFile (.ofRegister frame.a0) ⟨frame.a1⟩ frame.a2)
  else if frame.v0 = Kernel.closeNumber then
    some (.closeFile frame.a0.toInt32)
  else
    none

/-- The direct call that a request comes down to: itself, or the one that its frame asks for. -/
def Request.direct? : Request → Option Request
  | openFile path flags mode => some (.openFile path flags mode)
  | closeFile fd => some (.closeFile fd)
  | currentDirectory dst room => some (.currentDirectory dst room)
  | dispatch frame => frame.request?
  | trap frame => if Cause.ofRegister frame.cause = .syscall then frame.request? else none
  | closeAll => none

/-- A frame asks for the call of its number, or for none if no call has the number.

This is the case distinction of the definition, with the inequations that exclude the numbers
before. -/
theorem TrapFrame.request?_cases (frame : TrapFrame) :
    (frame.v0 = Kernel.directoryNumber ∧
        frame.request? = some (.currentDirectory (.ofRegister frame.a0) frame.a1.toNat)) ∨
      (frame.v0 = Kernel.openNumber ∧
        frame.request? = some (.openFile (.ofRegister frame.a0) ⟨frame.a1⟩ frame.a2)) ∨
      (frame.v0 = Kernel.closeNumber ∧
        frame.request? = some (.closeFile frame.a0.toInt32)) ∨
      ((frame.v0 ≠ Kernel.directoryNumber ∧ frame.v0 ≠ Kernel.openNumber ∧
        frame.v0 ≠ Kernel.closeNumber) ∧ frame.request? = none) := by
  unfold request?
  -- The numbers are compared in the order of the definition.
  by_cases directory : frame.v0 = Kernel.directoryNumber
  · exact .inl ⟨directory, if_pos directory⟩
  · rw [if_neg directory]
    by_cases opening : frame.v0 = Kernel.openNumber
    · exact .inr (.inl ⟨opening, if_pos opening⟩)
    · rw [if_neg opening]
      by_cases closing : frame.v0 = Kernel.closeNumber
      · exact .inr (.inr (.inl ⟨closing, if_pos closing⟩))
      · exact .inr (.inr (.inr ⟨⟨directory, opening, closing⟩, if_neg closing⟩))

/-- A direct call opens a file, closes a descriptor, or tells the working directory.

In whatever way it was asked for, a direct call is never a dispatch or a trap itself, and no
shutdown. -/
theorem Request.direct?_cases {request direct : Request} (asks : request.direct? = some direct) :
    (∃ path flags mode, direct = .openFile path flags mode) ∨ (∃ raw, direct = .closeFile raw) ∨
      ∃ dst room, direct = .currentDirectory dst room := by
  have ofFrame {frame : TrapFrame} (h : frame.request? = some direct) :
      (∃ path flags mode, direct = .openFile path flags mode) ∨ (∃ raw, direct = .closeFile raw) ∨
        ∃ dst room, direct = .currentDirectory dst room := by
    rcases frame.request?_cases with ⟨-, found⟩ | ⟨-, found⟩ | ⟨-, found⟩ | ⟨-, found⟩ <;>
      cases found.symm.trans h
    · exact .inr (.inr ⟨_, _, rfl⟩)
    · exact .inl ⟨_, _, _, rfl⟩
    · exact .inr (.inl ⟨_, rfl⟩)
  -- A request without a frame is its own direct call.
  cases request with
  | openFile path flags mode => exact .inl ⟨_, _, _, (Option.some.inj asks).symm⟩
  | closeFile raw => exact .inr (.inl ⟨_, (Option.some.inj asks).symm⟩)
  | currentDirectory dst room => exact .inr (.inr ⟨_, _, (Option.some.inj asks).symm⟩)
  | dispatch frame => exact ofFrame asks
  | trap frame =>
    -- A trap with another cause comes down to nothing.
    simp only [direct?] at asks
    split at asks
    · exact ofFrame asks
    · cases asks
  | closeAll => cases asks

/-- A direct call comes down to itself.

So the direct call of a request is as far as one can get. -/
theorem Request.direct?_of_direct {request direct : Request}
    (asks : request.direct? = some direct) : direct.direct? = some direct := by
  rcases direct?_cases asks with ⟨path, flags, mode, rfl⟩ | ⟨raw, rfl⟩ | ⟨dst, room, rfl⟩ <;> rfl

/-- What a program reads in a frame: a result, or the code of an error. -/
def TrapFrame.answer (frame : TrapFrame) : Except UInt32 UInt32 :=
  if frame.a3 = 0 then .ok frame.v0 else .error frame.v0

/-- The result in an answer as a word, or the code of the error.

A program reads no more than this: the kind of a result is lost in the registers, and the error is
known by its number. -/
def Reply.answer : Reply → Except UInt32 UInt32
  | opened answer => (answer.map Fd.toUInt32).mapError Errno.code
  | closed answer => (answer.map fun _ => 0).mapError Errno.code
  | located answer => (answer.map UInt32.ofNat).mapError Errno.code
  | dispatched frame => frame.answer
  | trapped frame _ => frame.answer
  | closedAll count => .ok (UInt32.ofNat count)

/-- An outcome that differs from another one in its reports only.

The reports are those on the beginning and the end of a call, and a program does not see them. -/
structure Mirrors (direct o : Outcome (Kernel μ ν φ) (Event φ) Empty Reply) : Prop where
  state : o.state = direct.state
  memory : Event.memoryCalls o.events = Event.memoryCalls direct.events
  files : Event.fileCalls o.events = Event.fileCalls direct.events
  answer : o.result.map Reply.answer = direct.result.map Reply.answer

/-- A dispatch that carries out a direct call: it makes the same use of memory and file layer,
leaves the same state, and completes its frame with the ending of the call.

The result of the direct call is a value in one piece or an error. Here it has become part of the
frame, and a dispatch cannot be refused. -/
structure Carries (frame : TrapFrame) (wrap : α → Value)
    (direct : Outcome (Kernel μ ν φ) (Event φ) Errno α)
    (o : Outcome (Kernel μ ν φ) (Event φ) Empty TrapFrame) : Prop where
  state : o.state = direct.state
  memory : Event.memoryCalls o.events = Event.memoryCalls direct.events
  files : Event.fileCalls o.events = Event.fileCalls direct.events
  result : o.result = direct.attempted.result.map fun ending =>
    TrapContext.complete frame (ending.map wrap)

namespace Kernel

omit [UserMemory μ] [FileLayer ν φ] in
theorem noteEntry_apply {η : Type} (c : Conditions) (number : UInt32) (frame : TrapFrame)
    (k : Kernel μ ν φ) :
    (noteEntry c number frame : Action (Kernel μ ν φ) (Event φ) η Unit) k =
      ⟨.ok (), k, noted c (.callEntered number frame.a0 frame.a1 frame.a2 frame.a3)⟩ := by
  unfold noteEntry noted
  split
  case isTrue recorded =>
    -- The registers of a frame can always be read, so the report is made.
    have level : (Notice.callEntered number frame.a0 frame.a1 frame.a2 frame.a3).level = .trace :=
      rfl
    simp [TrapContext.argument, TrapFrame.argument, level, recorded]
  case isFalse silent => exact (if_neg silent).symm ▸ rfl

/-- A dispatch makes the call of the number, between two reports, and completes the frame.

The reading of the argument registers is gone, for a frame always has them. What is left is the
call, and what stands around it. -/
theorem dispatch_apply (c : Conditions) (frame : TrapFrame) (k : Kernel μ ν φ) :
    dispatch c frame k =
      ((route c frame.v0 frame k).attempted.andThen fun ending => do
        note c (.callLeft frame.v0 ending)
        return TrapContext.complete frame ending).after
      (noted c (.callEntered frame.v0 frame.a0 frame.a1 frame.a2 frame.a3)) := by
  unfold dispatch
  simp only [Action.bind_apply, noteEntry_apply, Outcome.andThen_ok, Action.attempt_apply,
    show TrapContext.callNumber frame = frame.v0 from rfl]

/-- What a program reads in a completed frame is the answer that the frame was completed with. -/
theorem answer_complete (frame : TrapFrame) (ending : Except Errno UInt32) :
    (TrapContext.complete frame (ending.map Value.word)).answer = ending.mapError Errno.code := by
  cases ending with
  | ok w => rfl
  | error e => rfl

/-! ### From a number to its call -/

/-- From the number in a frame to its call: the number is compared with the numbers of the calls,
one after the other, and the registers are the arguments. -/
theorem route_open (c : Conditions) {frame : TrapFrame} (number : frame.v0 = openNumber) :
    (route c frame.v0 frame : Action (Kernel μ ν φ) (Event φ) Errno Value) = (do
      let fd ← openFile c (.ofRegister frame.a0) ⟨frame.a1⟩ frame.a2
      return .ofFd fd) := by
  have notDirectory : openNumber ≠ directoryNumber := by decide
  rw [number, route, if_neg notDirectory, if_pos rfl, openCall_eq]
  rfl

theorem route_close (c : Conditions) {frame : TrapFrame} (number : frame.v0 = closeNumber) :
    (route c frame.v0 frame : Action (Kernel μ ν φ) (Event φ) Errno Value) = (do
      let _ ← closeFile c frame.a0.toInt32
      return .ofUnit) := by
  have notDirectory : closeNumber ≠ directoryNumber := by decide
  have notOpen : closeNumber ≠ openNumber := by decide
  rw [number, route, if_neg notDirectory, if_neg notOpen, if_pos rfl, closeCall_eq]
  rfl

theorem route_directory (c : Conditions) {frame : TrapFrame}
    (number : frame.v0 = directoryNumber) :
    (route c frame.v0 frame : Action (Kernel μ ν φ) (Event φ) Errno Value) = (do
      let count ← currentDirectory c (.ofRegister frame.a0) frame.a1.toNat
      return .ofLength count) := by
  rw [number, route, if_pos rfl, directoryCall_eq]
  rfl

theorem route_unknown (c : Conditions) {frame : TrapFrame}
    (number : frame.v0 ∉ callNumbers) :
    (route c frame.v0 frame : Action (Kernel μ ν φ) (Event φ) Errno Value) = (do
      note c (.unknownCall frame.v0)
      .refuse .enosys) := by
  -- No comparison succeeds.
  simp only [callNumbers, List.mem_cons, List.not_mem_nil, or_false, not_or] at number
  obtain ⟨notOpen, notClose, notDirectory⟩ := number
  rw [route, if_neg notDirectory, if_neg notOpen, if_neg notClose]

/-! ### From an ending to the frame -/

/-- A dispatch carries out the action to which the number of its frame leads.

The action stands for a call with its arguments. All that is known of it is where its value goes, so
one proof serves for every call. -/
theorem dispatch_carries_of_routed {c : Conditions} {frame : TrapFrame}
    {x : Action (Kernel μ ν φ) (Event φ) Errno α} (wrap : α → Value)
    (routed : route c frame.v0 frame = (do let a ← x; return wrap a)) (k : Kernel μ ν φ) :
    Carries frame wrap (x k) (dispatch c frame k) := by
  simp only [dispatch_apply, routed, Action.bind_apply]
  -- The three ways in which the call can end. A report stands before it, and another one behind it
  -- unless it stopped the kernel.
  rcases x k with ⟨(e | cause) | a, k', events⟩
  · -- Refused: the report at the end tells the error, which completes the frame.
    simp only [Outcome.andThen_error, Outcome.attempted_refused, Outcome.andThen_ok,
      Action.bind_apply, note_eq, Action.pure_apply, Outcome.after_mk, List.append_nil]
    exact ⟨rfl, by simp, by simp, rfl⟩
  · simp only [Outcome.andThen_error, Outcome.attempted_panicked, Outcome.after_mk]
    exact ⟨rfl, by simp, by simp, rfl⟩
  · simp only [Outcome.andThen_ok, Outcome.attempted_ok, Action.bind_apply, note_eq,
      Action.pure_apply, Outcome.after_mk, List.append_nil]
    exact ⟨rfl, by simp, by simp, rfl⟩

/-- A frame with the number of an opening carries out the opening. -/
theorem dispatch_open (c : Conditions) {frame : TrapFrame} (number : frame.v0 = openNumber)
    (k : Kernel μ ν φ) :
    Carries frame .ofFd (openFile c (.ofRegister frame.a0) ⟨frame.a1⟩ frame.a2 k)
      (dispatch c frame k) :=
  dispatch_carries_of_routed .ofFd (route_open c number) k

/-- A frame with the number of a closing carries out the closing. -/
theorem dispatch_close (c : Conditions) {frame : TrapFrame} (number : frame.v0 = closeNumber)
    (k : Kernel μ ν φ) :
    Carries frame (fun _ => .ofUnit) (closeFile c frame.a0.toInt32 k) (dispatch c frame k) :=
  dispatch_carries_of_routed (fun _ => .ofUnit) (route_close c number) k

/-- A frame with the number of the call for the directory carries out this call. -/
theorem dispatch_directory (c : Conditions) {frame : TrapFrame}
    (number : frame.v0 = directoryNumber) (k : Kernel μ ν φ) :
    Carries frame .ofLength (currentDirectory c (.ofRegister frame.a0) frame.a1.toNat k)
      (dispatch c frame k) :=
  dispatch_carries_of_routed .ofLength (route_directory c number) k

/-- A dispatch without a call behind it returns an error and does nothing.

It is the case of an action that is refused at once, with nothing but a report before. -/
theorem dispatch_unknown (c : Conditions) {frame : TrapFrame}
    (number : frame.v0 ∉ callNumbers) (k : Kernel μ ν φ) :
    Carries frame id ⟨.error (.refused .enosys), k, []⟩ (dispatch c frame k) := by
  have carried := dispatch_carries_of_routed id
    ((route_unknown c number).trans (bind_pure _).symm) k
  have refused : (do
      note c (.unknownCall frame.v0)
      .refuse .enosys : Action (Kernel μ ν φ) (Event φ) Errno Value) k =
      ⟨.error (.refused .enosys), k, noted c (.unknownCall frame.v0)⟩ := by
    simp [note_eq, -note_apply]
  rw [refused] at carried
  obtain ⟨state, memory, files, result⟩ := carried
  -- The report of the unknown number is no use of memory or of the layer.
  rw [memoryCalls_noted] at memory
  rw [fileCalls_noted] at files
  exact ⟨state, memory, files, result⟩

/-- If the number of a frame leads to an action, the dispatch mirrors the direct call that makes the
action.

The direct call gives its ending back as a reply, and the dispatch as a frame. They mirror each
other if the reply and the frame tell the same. -/
theorem dispatch_mirrors {c : Conditions} {frame : TrapFrame}
    {x : Action (Kernel μ ν φ) (Event φ) Errno α} (wrap : α → UInt32)
    (reply : Except Errno α → Reply)
    (routed : route c frame.v0 frame = (do let a ← x; return .word (wrap a)))
    (answers : ∀ a, (reply a).answer = (a.map wrap).mapError Errno.code) (k : Kernel μ ν φ) :
    Mirrors ((do return reply (← x.attempt) : Action _ _ _ _) k)
      ((Request.dispatch frame).perform c k) := by
  have carried := dispatch_carries_of_routed (fun a => .word (wrap a)) routed k
  simp only [Request.perform, Action.bind_apply, Action.attempt_apply, Action.andThen_pure]
  refine ⟨?_, ?_, ?_, ?_⟩
  · rw [carried.state, Outcome.attempted_state]
  · rw [carried.memory, Outcome.attempted_events]
  · rw [carried.files, Outcome.attempted_events]
  · -- The frame shows what the reply says, unless the call stopped the kernel.
    rw [carried.result]
    cases (x k).attempted.result with
    | error halt => rfl
    | ok ending =>
      have told := answer_complete frame (ending.map wrap)
      rw [← answers] at told
      cases ending with
      | error e => exact congrArg Except.ok told
      | ok a => exact congrArg Except.ok told

end Kernel

namespace Mirrors

variable {first second third : Outcome (Kernel μ ν φ) (Event φ) Empty Reply}

omit [UserMemory μ] [FileLayer ν φ] in
theorem refl (o : Outcome (Kernel μ ν φ) (Event φ) Empty Reply) : Mirrors o o :=
  ⟨rfl, rfl, rfl, rfl⟩

omit [UserMemory μ] [FileLayer ν φ] in
theorem trans (h : Mirrors first second) (h' : Mirrors second third) : Mirrors first third :=
  ⟨h'.state.trans h.state, h'.memory.trans h.memory, h'.files.trans h.files,
    h'.answer.trans h.answer⟩

end Mirrors

namespace Kernel

/-- A trap that asks for a system call does what the dispatch does, and resumes the program. -/
theorem handleTrap_syscall (c : Conditions) {frame : TrapFrame}
    (syscall : Cause.ofRegister frame.cause = .syscall) (k : Kernel μ ν φ) :
    handleTrap c frame k =
      ⟨(dispatch c frame k).result.map fun after => (after, .resume), (dispatch c frame k).state,
        (dispatch c frame k).events⟩ := by
  simp only [handleTrap, syscall, Action.bind_apply, Action.andThen_pure]

/-- Any other trap is reported, and the frame comes back as it was. -/
theorem handleTrap_other (c : Conditions) {frame : TrapFrame}
    (other : Cause.ofRegister frame.cause ≠ .syscall) (k : Kernel μ ν φ) :
    handleTrap c frame k =
      ⟨.ok (frame, .unhandled (Cause.ofRegister frame.cause)), k,
        noted c (.unhandledTrap (Cause.ofRegister frame.cause) frame.epc frame.vaddr)⟩ := by
  unfold handleTrap
  generalize Cause.ofRegister frame.cause = cause at other ⊢
  -- All causes but that of a system call lead to the same branch.
  cases cause with
  | syscall => exact absurd rfl other
  | _ =>
    simp only [Action.bind_apply, note_eq, Outcome.andThen_ok, Action.pure_apply,
      Outcome.after_mk, List.append_nil]

end Kernel

namespace Request

open Kernel

/-- A dispatch mirrors the direct call that its frame asks for.

The three calls differ in the form of their reply and in how their value becomes a word. -/
theorem dispatch_mirrors_request (c : Conditions) {frame : TrapFrame} {direct : Request}
    (asks : frame.request? = some direct) (k : Kernel μ ν φ) :
    Mirrors (direct.perform c k) ((dispatch frame).perform c k) := by
  rcases frame.request?_cases with
    ⟨number, found⟩ | ⟨number, found⟩ | ⟨number, found⟩ | ⟨-, found⟩ <;>
    cases found.symm.trans asks
  · exact dispatch_mirrors UInt32.ofNat .located (route_directory c number) (fun _ => rfl) k
  · exact dispatch_mirrors Fd.toUInt32 .opened (route_open c number) (fun _ => rfl) k
  · exact dispatch_mirrors (fun _ => 0) .closed (route_close c number) (fun _ => rfl) k

/-- A trap that asks for a system call mirrors the dispatch of its frame. -/
theorem trap_mirrors_dispatch (c : Conditions) {frame : TrapFrame}
    (syscall : Cause.ofRegister frame.cause = .syscall) (k : Kernel μ ν φ) :
    Mirrors ((dispatch frame).perform c k) ((trap frame).perform c k) := by
  -- After the dispatch the trap only adds what becomes of the program.
  simp only [perform, Action.bind_apply, handleTrap_syscall c syscall, Action.andThen_pure]
  refine ⟨rfl, rfl, rfl, ?_⟩
  cases (Kernel.dispatch c frame k).result <;> rfl

/-- **One call behind every request**: a request mirrors the direct call that it comes down to.

Requests by frame and by trap go through the dispatch; the mirror of the trap is put behind that of
the dispatch. -/
theorem perform_mirrors (c : Conditions) {request direct : Request}
    (asks : request.direct? = some direct) (k : Kernel μ ν φ) :
    Mirrors (direct.perform c k) (request.perform c k) := by
  cases request with
  | openFile | closeFile | currentDirectory =>
    cases asks
    exact .refl _
  | dispatch frame => exact dispatch_mirrors_request c asks k
  | trap frame =>
    -- A trap comes down to a call only if it asks for a system call.
    simp only [direct?] at asks
    split at asks
    case isTrue syscall =>
      exact (dispatch_mirrors_request c asks k).trans (trap_mirrors_dispatch c syscall k)
    case isFalse => cases asks
  | closeAll => cases asks

/-- A request with which no call is made.

It may still be answered, and reported. -/
structure Idle (k : Kernel μ ν φ) (o : Outcome (Kernel μ ν φ) (Event φ) Empty Reply) : Prop where
  state : o.state = k
  memory : Event.memoryCalls o.events = []
  files : Event.fileCalls o.events = []

/-- A frame without a call of its number changes nothing when it is dispatched. -/
theorem dispatch_idle (c : Conditions) {frame : TrapFrame} (unknown : frame.request? = none)
    (k : Kernel μ ν φ) : Idle k ((dispatch frame).perform c k) := by
  rcases frame.request?_cases with ⟨-, found⟩ | ⟨-, found⟩ | ⟨-, found⟩ | ⟨number, -⟩
  · -- The three numbers with a call are excluded.
    cases found.symm.trans unknown
  · cases found.symm.trans unknown
  · cases found.symm.trans unknown
  have unknown : frame.v0 ∉ callNumbers := by simp [callNumbers, number]
  have refused := dispatch_unknown c unknown k
  simp only [perform, Action.bind_apply, Action.andThen_pure]
  exact ⟨refused.state, refused.memory, refused.files⟩

/-- A request that comes down to no call, and is no shutdown, does nothing. -/
theorem perform_idle (c : Conditions) {request : Request} (noCall : request.direct? = none)
    (noShutdown : request ≠ .closeAll) (k : Kernel μ ν φ) : Idle k (request.perform c k) := by
  cases request with
  | openFile | closeFile | currentDirectory => cases noCall
  | dispatch frame => exact dispatch_idle c noCall k
  | trap frame =>
    simp only [direct?] at noCall
    split at noCall
    case isTrue syscall =>
      -- A trap for an unknown call does what the dispatch does, which is nothing.
      have mirrors := trap_mirrors_dispatch c syscall k
      have idle := dispatch_idle c noCall k
      exact ⟨mirrors.state.trans idle.state, mirrors.memory.trans idle.memory,
        mirrors.files.trans idle.files⟩
    case isFalse other =>
      -- Another trap is reported, and this is all.
      simp only [perform, Action.bind_apply, handleTrap_other c other, Outcome.andThen_ok,
        Action.pure_apply, Outcome.after_mk, List.append_nil]
      exact ⟨rfl, by simp, by simp⟩
  | closeAll => exact absurd rfl noShutdown

end Request

end SyscallGate
