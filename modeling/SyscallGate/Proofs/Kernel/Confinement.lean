import SyscallGate.Files.FlatLayer
import SyscallGate.Memory.Regions
import SyscallGate.Proofs.Call.Arguments
import SyscallGate.Proofs.Kernel.Routing

/-!
# Confinement of the uses of user memory

Whatever a program asks for, with whatever registers, addresses and lengths, the kernel uses memory
of user space only. A system call uses no more of it than it needs: an opening reads inside single
pages, telling the working directory writes at most once, and no other call uses memory at all.

## Main definitions

- `Operation`: everything that can lead to a use of user memory.
- `CallLimit`, `Operation.Limit`: the uses of memory that a system call may make.

## Main results

- `Operation.perform_confined`: no operation goes beyond user space, or beyond its limit.
- `Operation.session_confined`: nor does any sequence of operations.
-/

namespace SyscallGate

variable {μ ν φ τ η α β : Type}

/-! ## Kinds of events that use memory -/

namespace Event

/-- An event that uses user memory only in a given way.

Uses of the layer and reports are let through by every kind. -/
def Uses (kind : MemoryCall → Prop) : Event φ → Prop
  | memory call => kind call
  | layer _ => True
  | notice _ => True

/-- An event that does not use user memory.

It is the kind that no use of memory is of. -/
abbrev Silent : Event φ → Prop := Uses fun _ => False

theorem forall_memoryCalls {kind : MemoryCall → Prop} {events : List (Event φ)}
    (h : ∀ e ∈ events, Uses kind e) : ∀ call ∈ memoryCalls events, kind call := by
  intro call used
  obtain ⟨e, seen, isCall⟩ := List.mem_filterMap.mp used
  have uses := h e seen
  cases e <;> cases isCall
  exact uses

theorem memoryCalls_eq_nil {events : List (Event φ)} (h : ∀ e ∈ events, Silent e) :
    memoryCalls events = [] :=
  List.eq_nil_iff_forall_not_mem.mpr (forall_memoryCalls h)

end Event

namespace Action

variable {kind kind' : MemoryCall → Prop}

/-- What follows a part without uses of memory makes all of them.

A call from a context begins with a part of this sort: it reports, or it reads registers. -/
theorem memoryCalls_bind_of_silent {x : Action (Kernel μ ν φ) (Event φ) η α}
    {f : α → Action (Kernel μ ν φ) (Event φ) η β} {P : List MemoryCall → Prop}
    (silent : x.Emits Event.Silent) (empty : P [])
    (next : ∀ a k, P (Event.memoryCalls (f a k).events)) (k : Kernel μ ν φ) :
    P (Event.memoryCalls ((x >>= f) k).events) := by
  have noUse := Event.memoryCalls_eq_nil (silent k)
  rw [bind_apply]
  -- The first part ends the action, or hands on to the second one. It adds no use either way.
  rcases ended : x k with ⟨halt | a, k', events⟩ <;> rw [ended] at noUse
  · rw [Outcome.andThen_error, noUse]
    exact empty
  · simp only [Outcome.andThen_ok, Outcome.after, Event.memoryCalls_append, noUse, List.nil_append]
    exact next a k'

/-- A part without uses of memory can follow any other part.

A call ends with such a part, which reports or wraps its answer. -/
theorem memoryCalls_bind_silent {x : Action (Kernel μ ν φ) (Event φ) η α}
    {f : α → Action (Kernel μ ν φ) (Event φ) η β} (silent : ∀ a, (f a).Emits Event.Silent)
    (k : Kernel μ ν φ) :
    Event.memoryCalls ((x >>= f) k).events = Event.memoryCalls (x k).events := by
  rw [bind_apply]
  rcases x k with ⟨halt | a, k', events⟩
  · rfl
  · have noUse := Event.memoryCalls_eq_nil (silent a k')
    simp only [Outcome.andThen_ok, Outcome.after, Event.memoryCalls_append, noUse, List.append_nil]

end Action

/-! ## The parts of a kernel -/

namespace Kernel

variable {kind : MemoryCall → Prop}

theorem onMemory_emits {x : Action μ MemoryCall η α} (h : x.Emits kind) :
    (onMemory x : Action (Kernel μ ν φ) (Event φ) η α).Emits (Event.Uses kind) :=
  Action.Emits.zoom h

theorem onLayer_emits (x : Action ν (FileCall φ) η α) :
    (onLayer x : Action (Kernel μ ν φ) (Event φ) η α).Emits (Event.Uses kind) :=
  Action.Emits.zoom fun _ _ _ => trivial

theorem onTable_emits (x : Action (Table φ) Table.Notice η α) :
    (onTable x : Action (Kernel μ ν φ) (Event φ) η α).Emits (Event.Uses kind) :=
  Action.Emits.zoom fun _ _ _ => trivial

/-- A report is no use of memory, so it is of every kind. -/
theorem note_emits (c : Conditions) (report : Notice) :
    (note c report : Action (Kernel μ ν φ) (Event φ) η Unit).Emits (Event.Uses kind) :=
  Action.emits_note trivial

theorem discard_emits [FileLayer ν φ] (c : Conditions) (file : φ) (report : Errno → Notice) :
    (discard c file report : Action (Kernel μ ν φ) (Event φ) η Unit).Emits (Event.Uses kind) := by
  refine (onLayer_emits _).attempt.bind ?_
  intro answer
  cases answer with
  | ok done => exact Action.emits_pure _
  | error cause => exact note_emits c _

/-! ## The calls -/

section

variable [UserMemory μ] [FileLayer ν φ]

/-- An opening uses memory only to read the name.

The copy comes first, and what follows works on the layer and on the table. -/
theorem openFile_memoryCalls (c : Conditions) (path : UserAddr) (flags : OpenFlags) (mode : UInt32)
    (k : Kernel μ ν φ) :
    ∀ call ∈ Event.memoryCalls (openFile c path flags mode k).events,
      call ∈ (Copy.inString c path (nameMax + 1) k.memory).events := by
  unfold openFile
  cases flags.accessMode with
  | error e => exact nofun
  | ok accessMode =>
    rw [Action.ofExcept_ok, pure_bind, Action.memoryCalls_bind_silent]
    · simp [Outcome.embed]
    -- Whatever becomes of the name, it is not looked at again.
    intro name
    split
    · exact (note_emits c _).bind fun _ => Action.emits_refuse _
    · refine ((onLayer_emits _).reporting fun cause => note_emits c _).bind fun file => ?_
      refine (onTable_emits _).attempt.bind ?_
      intro answer
      cases answer with
      | ok fd => exact Action.emits_pure _
      | error refusal =>
        refine (note_emits c _).bind fun _ => ?_
        exact (discard_emits c _ _).bind fun _ => Action.emits_refuse _

/-- The reads of an opening are inside one page at a time.

It follows from what a copy of a string does, and says nothing about how the name ends. -/
theorem openFile_chunks (c : Conditions) (path : UserAddr) (flags : OpenFlags) (mode : UInt32)
    (k : Kernel μ ν φ) :
    ∀ call ∈ Event.memoryCalls (openFile c path flags mode k).events, Copy.Chunk call :=
  fun call used => Copy.inString_emits c path _ _ call (openFile_memoryCalls c _ _ _ k call used)

omit [UserMemory μ] in
/-- A closing does not use memory. -/
theorem closeFile_emits (c : Conditions) (raw : Int32) :
    (closeFile c raw : Action (Kernel μ ν φ) (Event φ) Errno Unit).Emits Event.Silent := by
  unfold closeFile
  split
  · exact Action.emits_refuse _
  · refine (onTable_emits _).mapReason.bind fun file => ?_
    exact (onLayer_emits _).reporting fun cause => note_emits c _

/-- Telling the directory uses memory at most once, to write in user space.

It is used if there is something to copy and a place for it, and this is what `Copy.CopiesOut` tells
apart. -/
theorem currentDirectory_calls (c : Conditions) (dst : UserAddr) (room : Nat) (k : Kernel μ ν φ) :
    Event.memoryCalls (currentDirectory c dst room k).events = [] ∨
      ∃ bytes answer, Event.memoryCalls (currentDirectory c dst room k).events =
        [.copyOut bytes dst answer] ∧ (MemoryCall.copyOut bytes dst answer).Confined := by
  have outcome := locating c dst room k
  generalize currentDirectory c dst room k = o at outcome
  cases outcome with
  | noBuffer short => exact .inl rfl
  | lookupFailed enough answer => exact .inl (by simp)
  | @located buffer count layer copied memory calls enough answer copy =>
    -- What the call did to the file layer does not show, so the uses are those of the copy.
    have used : Event.memoryCalls
        (.layer (.currentDirectory pathMax (.ok (buffer.toList, count))) ::
          (calls.map .memory ++ reported c copied (.copyOutFailed dst)) : List (Event φ)) =
        calls := by
      simp
    rw [used]
    cases Copy.copiesOut_of_eq copy with
    | nothing | outside => exact .inl rfl
    | asked filled inside =>
      exact .inr ⟨_, _, rfl, List.length_pos_iff.mpr filled, inside⟩

omit [UserMemory μ] in
/-- A shutdown does not use memory. -/
theorem closeAll_emits (c : Conditions) :
    (closeAll c : Action (Kernel μ ν φ) (Event φ) Empty Nat).Emits Event.Silent := by
  -- Induction on the files: each is handed to the layer, and the layer uses no memory.
  have each (live : List (Fd × φ)) :
      (discardEach c live : Action (Kernel μ ν φ) (Event φ) Empty Unit).Emits Event.Silent := by
    induction live with
    | nil => exact Action.emits_pure _
    | cons entry rest ih => exact (discard_emits c _ _).bind fun _ => ih
  refine (onTable_emits _).bind fun live => ?_
  exact (each live).bind fun _ => Action.emits_pure _

/-! ## Calls from a context -/

/-- The uses of user memory that a call of a given number may make.

The three limits together say for every number what its call may do; for all but two numbers, it is
nothing. -/
structure CallLimit (number : UInt32) (calls : List MemoryCall) : Prop where
  /-- An opening reads, and inside one page at a time. -/
  opening : number = openNumber → ∀ call ∈ calls, call.isCopyIn = true ∧ call.InOnePage
  /-- Telling the directory writes, and at most once. -/
  locating : number = directoryNumber →
    calls = [] ∨ ∃ bytes dst answer, calls = [.copyOut bytes dst answer]
  /-- No other call uses memory. -/
  other : number ≠ openNumber → number ≠ directoryNumber → calls = []

/-- Uses of user memory that stay in user space and within the limit of a call.

A range in user space avoids null and ends below the limit of user space, in unbounded numbers. -/
structure Within (number : UInt32) (calls : List MemoryCall) : Prop where
  confined : ∀ call ∈ calls, call.Confined
  limit : CallLimit number calls

omit [UserMemory μ] [FileLayer ν φ] in
theorem Within.nil (number : UInt32) : Within number [] where
  confined := nofun
  limit := ⟨nofun, fun _ => .inl rfl, fun _ _ => rfl⟩

variable [TrapContext τ]

/-- The call for the directory stays within its limit, with its arguments from a context. -/
theorem directoryCall_within (c : Conditions) (ctx : τ) (k : Kernel μ ν φ) :
    Within directoryNumber (Event.memoryCalls (directoryCall c ctx k).events) := by
  rw [directoryCall_eq]
  refine Action.memoryCalls_bind_of_silent (Action.emits_ofChecked _) (.nil _) ?_ k
  intro dst k
  refine Action.memoryCalls_bind_of_silent (Action.emits_ofChecked _) (.nil _) ?_ k
  intro room k
  rw [Action.memoryCalls_bind_silent fun _ => Action.emits_pure _]
  -- Both arguments came from registers, so the uses are those of the direct call.
  rcases currentDirectory_calls c (.ofRegister dst) room.toNat k with
    none | ⟨bytes, answer, one, confined⟩
  · rw [none]
    exact .nil _
  · rw [one]
    refine ⟨?_, nofun, fun _ => .inr ⟨_, _, _, rfl⟩, fun _ other => absurd rfl other⟩
    intro call used
    rw [List.mem_singleton] at used
    exact used ▸ confined

/-- An opening stays within its limit, with its arguments from a context. -/
theorem openCall_within (c : Conditions) (ctx : τ) (k : Kernel μ ν φ) :
    Within openNumber (Event.memoryCalls (openCall c ctx k).events) := by
  rw [openCall_eq]
  refine Action.memoryCalls_bind_of_silent (Action.emits_ofChecked _) (.nil _) ?_ k
  intro path k
  refine Action.memoryCalls_bind_of_silent (Action.emits_ofChecked _) (.nil _) ?_ k
  intro flags k
  refine Action.memoryCalls_bind_of_silent (Action.emits_ofChecked _) (.nil _) ?_ k
  intro mode k
  rw [Action.memoryCalls_bind_silent fun _ => Action.emits_pure _]
  -- The arguments came from registers, so the reads are those of the direct call.
  have chunks := openFile_chunks c (.ofRegister path) ⟨flags⟩ mode k
  refine ⟨fun call used => (chunks call used).2.1, ?_, nofun, fun other => absurd rfl other⟩
  intro _ call used
  obtain ⟨isRead, -, inOnePage⟩ := chunks call used
  exact ⟨isRead, inOnePage⟩

theorem closeCall_emits (c : Conditions) (ctx : τ) :
    (closeCall c ctx : Action (Kernel μ ν φ) (Event φ) Errno Value).Emits Event.Silent := by
  rw [closeCall_eq]
  refine (Action.emits_ofChecked _).bind fun fd => ?_
  exact (closeFile_emits c _).bind fun _ => Action.emits_pure _

/-- The call of a number uses memory within the limit of the number.

The context is any one that has argument registers, a frame in particular. -/
theorem route_within (c : Conditions) (number : UInt32) (ctx : τ) (k : Kernel μ ν φ) :
    Within number (Event.memoryCalls (route c number ctx k).events) := by
  unfold route
  -- The numbers in the order in which the code compares them.
  split
  case isTrue isDirectory => exact isDirectory ▸ directoryCall_within c ctx k
  case isFalse =>
    split
    case isTrue isOpen => exact isOpen ▸ openCall_within c ctx k
    case isFalse =>
      split
      case isTrue =>
        rw [Event.memoryCalls_eq_nil (closeCall_emits c ctx k)]
        exact .nil number
      case isFalse =>
        have unknown : (do
            note c (.unknownCall number)
            .refuse .enosys : Action (Kernel μ ν φ) (Event φ) Errno Value).Emits Event.Silent :=
          (note_emits c _).bind fun _ => Action.emits_refuse _
        rw [Event.memoryCalls_eq_nil (unknown k)]
        exact .nil number

omit [UserMemory μ] [FileLayer ν φ] in
theorem noteEntry_emits (c : Conditions) (number : UInt32) (ctx : τ) :
    (noteEntry c number ctx : Action (Kernel μ ν φ) (Event φ) η Unit).Emits Event.Silent := by
  unfold noteEntry
  split
  · refine (Action.emits_ofChecked _).bind fun a0 => ?_
    refine (Action.emits_ofChecked _).bind fun a1 => ?_
    refine (Action.emits_ofChecked _).bind fun a2 => ?_
    exact (Action.emits_ofChecked _).bind fun a3 => note_emits c _
  · exact Action.emits_pure _

/-- **A dispatch uses memory within the limit of its call.**

It is the limit of the number that the context holds before the call. -/
theorem dispatch_within (c : Conditions) (ctx : τ) (k : Kernel μ ν φ) :
    Within (TrapContext.callNumber ctx) (Event.memoryCalls (dispatch c ctx k).events) := by
  -- The reports before and after the call use no memory.
  refine Action.memoryCalls_bind_of_silent (noteEntry_emits c _ ctx) (.nil _) ?_ k
  intro _ k
  rw [Action.memoryCalls_bind_silent, Action.events_attempt]
  · exact route_within c _ ctx k
  · intro ending
    exact (note_emits c _).bind fun _ => Action.emits_pure _

end

end Kernel

/-! ## Operations -/

section

variable [UserMemory μ] [FileLayer ν φ] [TrapContext τ]

open Kernel

/-- Everything that can lead to a use of user memory.

Requests to a kernel are only a part of it. The copies and the reader of arguments can be used on
their own, with any address, and contexts other than frames can be dispatched. -/
inductive Operation (τ : Type) where
  | request (r : Request)
  | dispatch (ctx : τ)
  | copyInString (src : UserAddr) (bound : Nat)
  | copyInBytes (src : UserAddr) (len : Nat)
  | copyOutBytes (bytes : List UInt8) (dst : UserAddr)
  /-- Read an argument, at any position. -/
  | readArgument (ctx : τ) (position : Nat) (kind : ArgumentKind)

namespace Operation

/-- Performs an operation, whatever comes of it.

What it returns does not matter for the uses that it makes. -/
def perform (c : Conditions) : Operation τ → Action (Kernel μ ν φ) (Event φ) Empty Unit
  | request r => do let _ ← r.perform c
  | dispatch ctx => do let _ ← Kernel.dispatch c ctx
  | copyInString src bound => do let _ ← (onMemory (Copy.inString c src bound)).attempt
  | copyInBytes src len => do let _ ← (onMemory (Copy.inBytes src len)).attempt
  | copyOutBytes bytes dst => do let _ ← (onMemory (Copy.outBytes bytes dst)).attempt
  | readArgument ctx position kind => do
    let reading := (ArgumentReader.read ctx kind).zoom (fun memory : μ => ⟨memory, position⟩)
      (fun reader _ => reader.memory) id
    let _ ← (onMemory reading).attempt

/-- The limit on the uses of memory by an operation that makes a system call.

A trap has a limit if it asks for a system call, and makes no use of memory otherwise. -/
def Limit : Operation τ → List MemoryCall → Prop
  | dispatch ctx, calls => CallLimit (TrapContext.callNumber ctx) calls
  | request (.dispatch frame), calls => CallLimit frame.v0 calls
  | request (.trap frame), calls =>
    (Cause.ofRegister frame.cause = .syscall → CallLimit frame.v0 calls) ∧
      (Cause.ofRegister frame.cause ≠ .syscall → calls = [])
  | _, _ => True

end Operation

namespace Request

theorem dispatch_within (c : Conditions) (frame : TrapFrame) (k : Kernel μ ν φ) :
    Within frame.v0 (Event.memoryCalls ((dispatch frame).perform c k).events) := by
  unfold perform
  rw [Action.memoryCalls_bind_silent fun _ => Action.emits_pure _]
  exact Kernel.dispatch_within c frame k

/-- A trap uses memory if it asks for a system call, and then as the dispatch does.

The trap handler itself does not look at memory. -/
theorem trap_within (c : Conditions) (frame : TrapFrame) (k : Kernel μ ν φ) :
    (Cause.ofRegister frame.cause = .syscall →
      Within frame.v0 (Event.memoryCalls ((trap frame).perform c k).events)) ∧
    (Cause.ofRegister frame.cause ≠ .syscall →
      Event.memoryCalls ((trap frame).perform c k).events = []) := by
  constructor
  · intro syscall
    rw [(trap_mirrors_dispatch c syscall k).memory]
    exact dispatch_within c frame k
  · intro other
    have noCall : (trap frame).direct? = none := if_neg other
    exact (perform_idle c noCall nofun k).memory

/-- The uses of user memory by a request lie in user space.

Every use is in user space, whatever the request asks for; the limits come on top of that. -/
theorem perform_confined (c : Conditions) (r : Request) (k : Kernel μ ν φ) :
    ∀ call ∈ Event.memoryCalls (r.perform c k).events, call.Confined := by
  -- One case for each request; turning a refusal into a reply does not change the uses.
  cases r with
  | openFile path flags mode =>
    unfold perform
    rw [Action.memoryCalls_bind_silent fun _ => Action.emits_pure _, Action.events_attempt]
    intro call used
    exact (openFile_chunks c path flags mode k call used).2.1
  | closeFile raw =>
    unfold perform
    rw [Action.memoryCalls_bind_silent fun _ => Action.emits_pure _, Action.events_attempt,
      Event.memoryCalls_eq_nil (closeFile_emits c raw k)]
    exact nofun
  | currentDirectory dst room =>
    unfold perform
    rw [Action.memoryCalls_bind_silent fun _ => Action.emits_pure _, Action.events_attempt]
    rcases currentDirectory_calls c dst room k with none | ⟨bytes, answer, one, confined⟩
    · rw [none]
      exact nofun
    · rw [one]
      intro call used
      rw [List.mem_singleton] at used
      exact used ▸ confined
  | dispatch frame => exact (dispatch_within c frame k).confined
  | trap frame =>
    by_cases syscall : Cause.ofRegister frame.cause = .syscall
    · exact ((trap_within c frame k).1 syscall).confined
    · rw [(trap_within c frame k).2 syscall]
      exact nofun
  | closeAll =>
    unfold perform
    rw [Action.memoryCalls_bind_silent fun _ => Action.emits_pure _,
      Event.memoryCalls_eq_nil (closeAll_emits c k)]
    exact nofun

end Request

namespace Operation

omit [UserMemory μ] [FileLayer ν φ] in
theorem memoryCalls_attempt {x : Action μ MemoryCall Errno α} {kind : MemoryCall → Prop}
    (emits : x.Emits kind) (k : Kernel μ ν φ) :
    ∀ call ∈ Event.memoryCalls ((do
      let _ ← (onMemory x).attempt : Action (Kernel μ ν φ) (Event φ) Empty Unit) k).events,
      kind call := by
  rw [Action.memoryCalls_bind_silent fun _ => Action.emits_pure _, Action.events_attempt]
  exact Event.forall_memoryCalls (onMemory_emits emits k)

/-- **One operation is confined**: it uses memory in user space, within its limit.

The kernel is arbitrary here. No invariant is needed, because the checks of addresses do not depend
on the state. -/
theorem perform_confined (c : Conditions) (operation : Operation τ) (k : Kernel μ ν φ) :
    (∀ call ∈ Event.memoryCalls (operation.perform c k).events, call.Confined) ∧
      operation.Limit (Event.memoryCalls (operation.perform c k).events) := by
  cases operation with
  | request r =>
    have same : Event.memoryCalls ((request r : Operation τ).perform c k).events =
        Event.memoryCalls (r.perform c k).events :=
      Action.memoryCalls_bind_silent (fun _ => Action.emits_pure _) k
    rw [same]
    refine ⟨r.perform_confined c k, ?_⟩
    cases r with
    | dispatch frame => exact (Request.dispatch_within c frame k).limit
    | trap frame =>
      obtain ⟨onSyscall, onOther⟩ := Request.trap_within c frame k
      exact ⟨fun syscall => (onSyscall syscall).limit, onOther⟩
    | _ => trivial
  | dispatch ctx =>
    unfold perform
    rw [Action.memoryCalls_bind_silent fun _ => Action.emits_pure _]
    have within := Kernel.dispatch_within c ctx k
    exact ⟨within.confined, within.limit⟩
  | copyInString src bound =>
    have confined : (Copy.inString c src bound : Action μ MemoryCall Errno KernelString).Emits
        MemoryCall.Confined := (Copy.inString_emits c src bound).mono fun _ chunk => chunk.2.1
    exact ⟨memoryCalls_attempt confined k, trivial⟩
  | copyInBytes src len => exact ⟨memoryCalls_attempt (Copy.inBytes_emits src len) k, trivial⟩
  | copyOutBytes bytes dst =>
    exact ⟨memoryCalls_attempt (Copy.outBytes_emits bytes dst) k, trivial⟩
  | readArgument ctx position kind =>
    exact ⟨memoryCalls_attempt (ArgumentReader.read_emits ctx kind).zoom k, trivial⟩

/-- **Confinement**: in any sequence of operations, every use of user memory is for at least one
byte, avoids the null address and ends inside user space, and system calls keep to their limits.

Operations of all kinds can be mixed in a sequence, each under its own conditions. -/
theorem session_confined (k : Kernel μ ν φ) (steps : List (Conditions × Operation τ))
    {x : Exchange (Kernel μ ν φ) (Event φ) (Operation τ) Unit}
    (made : x ∈ Service.session perform k steps) :
    (∀ call ∈ Event.memoryCalls x.outcome.events, call.Confined) ∧
      x.request.Limit (Event.memoryCalls x.outcome.events) := by
  -- The kernel that an exchange meets is the one its predecessors left; one operation is confined
  -- from every kernel.
  obtain ⟨j, at_j⟩ := List.mem_iff_getElem?.mp made
  obtain ⟨answered, -⟩ := Service.outcome_of_getElem? at_j
  rw [answered]
  exact perform_confined x.conditions x.request _

end Operation

end

/-- A system call that opens a file whose name ends with its page: one read of two bytes. -/
theorem Operation.session_confined_open :
    let k : Kernel RegionMemory FlatLayer Nat :=
      .initial ⟨[⟨0x400FFE, [97, 0], false, none⟩]⟩ { FlatLayer.empty [] with names := [[97]] }
    let c : Conditions := ⟨.off, .none⟩
    let step : Operation TrapFrame :=
      .dispatch { TrapFrame.zero with v0 := Kernel.openNumber, a0 := 0x400FFE }
    let calls := Event.memoryCalls (step.perform c k).events
    calls.map (fun call => (call.addr.toNat, call.length)) = [(0x400FFE, 2)] ∧
      ∀ call ∈ calls, call.Confined ∧ call.InOnePage := by
  intro k c step calls
  obtain ⟨confined, limit⟩ :=
    session_confined k [(c, step)] (x := ⟨c, step, step.perform c k⟩) List.mem_cons_self
  refine ⟨by decide +kernel, ?_⟩
  intro call used
  exact ⟨confined call used, (limit.opening rfl call used).2⟩

end SyscallGate
