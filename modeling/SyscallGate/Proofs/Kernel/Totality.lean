import SyscallGate.Proofs.Call.Sequence
import SyscallGate.Proofs.Kernel.DirectCalls
import SyscallGate.Proofs.Kernel.Turnover
import SyscallGate.Proofs.Memory.Rounds

/-!
# Nothing stops the kernel

Whatever a program asks for, and whatever user memory and the file layer answer, the kernel gives an
answer: no index is out of bounds, no arithmetic overflows, and no buffer is filled beyond what was
reserved. What this rests on is a table that fits, which every session keeps.

## Main definitions

- `NeverPanics`: no request, no copy and no sequence of argument reads panics.

## Main results

- `Request.perform_returns`: every request is answered, provided that the table fits.
- `Kernel.never_panics`: nothing panics after any session.
-/

namespace SyscallGate

variable {μ ν φ α : Type}

/-- The dispatch of a call that is answered returns the frame with the answer.

An answer is a value or a refusal. In both cases the frame is completed, and only a panic would keep
it from that. -/
theorem Carries.result_eq {frame : TrapFrame} {wrap : α → Value}
    {direct : Outcome (Kernel μ ν φ) (Event φ) Errno α}
    {o : Outcome (Kernel μ ν φ) (Event φ) Empty TrapFrame} {answer : Except Errno α}
    (h : Carries frame wrap direct o) (ended : direct.result = answer.mapError .refused) :
    o.result = .ok (TrapContext.complete frame (answer.map wrap)) := by
  rw [h.result]
  rcases direct with ⟨result, k, events⟩
  cases ended
  cases answer <;> rfl

section

variable [UserMemory μ] [FileLayer ν φ] {k : Kernel μ ν φ}

namespace Kernel

/-! ## The calls -/

/-- Of the six outcomes of an opening, one passes on how the copy of the name ended, and the copy
never panics. -/
theorem openFile_returns (c : Conditions) (path : UserAddr) (flags : OpenFlags) (mode : UInt32)
    (fits : k.files.Fits) : (openFile c path flags mode k).Returns := by
  have outcome := opening c path flags mode k fits
  generalize openFile c path flags mode k = o at outcome
  cases outcome with
  | badMode | nameTooLong | layerRefused | undone => exact .of_refused rfl
  | opened => exact .of_ok rfl
  | @nameHalted halt memory calls good copy =>
    -- A copy that does not give a name refuses.
    obtain ⟨answer, ended⟩ := Copy.inString_returns c path (nameMax + 1) k.memory
    rw [copy] at ended
    cases answer with
    | error e =>
      cases ended
      exact .of_refused rfl
    | ok name => cases ended

omit [UserMemory μ] in
/-- A closing is refused, or it returns what the layer answers. -/
theorem closeFile_returns (c : Conditions) (raw : Int32) (fits : k.files.Fits) :
    (closeFile c raw k).Returns := by
  have outcome := closing c raw k fits
  generalize closeFile c raw k = o at outcome
  cases outcome with
  | badDescriptor => exact .of_refused rfl
  | closed => exact ⟨_, rfl⟩

/-- The lengths that the layer reports do not matter: both cuts of the buffer stay inside it, as
`Kernel.locating` says. -/
theorem currentDirectory_returns (c : Conditions) (dst : UserAddr) (room : Nat)
    (k : Kernel μ ν φ) : (currentDirectory c dst room k).Returns := by
  have outcome := locating c dst room k
  generalize currentDirectory c dst room k = o at outcome
  cases outcome with
  | noBuffer | lookupFailed => exact .of_refused rfl
  | located => exact ⟨_, rfl⟩

/-- Every dispatch completes its frame, with an answer of the call or a refusal.

Each call returns, and a dispatch carries its ending into the frame. -/
theorem dispatch_completes (c : Conditions) (frame : TrapFrame) (fits : k.files.Fits) :
    ∃ ending : Completion,
      (dispatch c frame k).result = .ok (TrapContext.complete frame ending) := by
  rcases frame.number_cases with opening | closing | locating | unknown
  · obtain ⟨answer, ended⟩ := openFile_returns c (.ofRegister frame.a0) ⟨frame.a1⟩ frame.a2 fits
    exact ⟨_, (dispatch_open c opening k).result_eq ended⟩
  · obtain ⟨answer, ended⟩ := closeFile_returns c frame.a0.toInt32 fits
    exact ⟨_, (dispatch_close c closing k).result_eq ended⟩
  · obtain ⟨answer, ended⟩ := currentDirectory_returns c (.ofRegister frame.a0) frame.a1.toNat k
    exact ⟨_, (dispatch_directory c locating k).result_eq ended⟩
  · exact ⟨.error .enosys, (dispatch_unknown c unknown k).result⟩

/-- A trap is dispatched or reported, and gives a frame back either way. -/
theorem handleTrap_returns (c : Conditions) (frame : TrapFrame) (fits : k.files.Fits) :
    (handleTrap c frame k).Returns := by
  by_cases syscall : Cause.ofRegister frame.cause = .syscall
  · obtain ⟨ending, completed⟩ := dispatch_completes c frame fits
    rw [handleTrap_syscall c syscall, completed]
    exact .of_ok rfl
  · rw [handleTrap_other c syscall]
    exact .of_ok rfl

end Kernel

/-- **Every request is answered**, provided that the table fits. -/
theorem Request.perform_returns (c : Conditions) (request : Request) (fits : k.files.Fits) :
    (request.perform c k).Returns := by
  have done {β γ : Type} {o : Outcome (Kernel μ ν φ) (Event φ) Empty β} (returns : o.Returns)
      (reply : β → γ) : (o.andThen fun b => pure (reply b)).Returns :=
    returns.andThen fun _ _ => .of_ok rfl
  -- One case for each kind of request; an answer is put into a reply, which cannot fail.
  cases request with
  | openFile path flags mode =>
    exact done (Kernel.openFile_returns c path flags mode fits).attempted _
  | closeFile raw => exact done (Kernel.closeFile_returns c raw fits).attempted _
  | currentDirectory dst room =>
    exact done (Kernel.currentDirectory_returns c dst room k).attempted _
  | dispatch frame =>
    obtain ⟨ending, completed⟩ := Kernel.dispatch_completes c frame fits
    exact done (.of_ok completed) _
  | trap frame => exact done (Kernel.handleTrap_returns c frame fits) _
  | closeAll =>
    obtain ⟨layer, events, closedAll, -⟩ := Kernel.closeAll_cases c k fits
    refine done ?_ _
    rw [closedAll]
    exact .of_ok rfl

/-! ## Everything that could panic -/

/-- Nothing that a program or the layers below do makes the kernel panic.

A panic is any of the ways in which an execution can stop on the spot: an index out of bounds, an
overflow, a buffer filled beyond its reservation, a missing register. The first fields are about
what programs can start, and the last four about the loop of a string copy, pass by pass. -/
structure NeverPanics (μ ν φ : Type) [UserMemory μ] [FileLayer ν φ] : Prop where
  /-- Every request is answered, in every state that a session can leave. -/
  requests (memory : μ) (layer : ν) (steps : List (Conditions × Request)) (c : Conditions)
      (request : Request) :
    ∃ reply, (request.perform c
      ((Kernel.initial memory layer : Kernel μ ν φ).afterSession steps)).result = .ok reply
  copiesString (c : Conditions) (src : UserAddr) (bound : Nat) (m : μ) (cause : Panic) :
    (Copy.inString c src bound m).result ≠ .error (.panicked cause)
  copiesIn (src : UserAddr) (len : Nat) (m : μ) (cause : Panic) :
    (Copy.inBytes src len m).result ≠ .error (.panicked cause)
  copiesOut (bytes : List UInt8) (dst : UserAddr) (m : μ) (cause : Panic) :
    (Copy.outBytes bytes dst m).result ≠ .error (.panicked cause)
  /-- Any number of reads of arguments in a row, wherever the stack is: a read that finds no slot in
  user space does not move on, so the position of the next one stays small. -/
  reads {τ : Type} [TrapContext τ] {ctx : τ} (registers : TrapContext.HasRegisters ctx)
      (kinds : List ArgumentKind) (m : μ) :
    ∃ answers, (ArgumentReader.readEach ctx kinds (.start m)).result = .ok answers
  registers (frame : TrapFrame) : TrapContext.HasRegisters frame
  /-- Such reads do not ask for an argument register beyond the first four. -/
  asksRegisters {τ τ' : Type} [TrapContext τ] [TrapContext τ'] {ctx : τ} {ctx' : τ'}
      (same : ArgumentReader.SameArguments ctx ctx') (kinds : List ArgumentKind)
      (reader : ArgumentReader μ) :
    ArgumentReader.readEach ctx kinds reader = ArgumentReader.readEach ctx' kinds reader
  /-- What holds whenever a round of a string copy begins. -/
  rounds {src : UserAddr} {bound : Nat} {m : μ} {calls : List MemoryCall} {r : Round μ}
      (run : Round.Reaches bound ⟨src, ⟨[], bound + 1⟩, m⟩ calls r) :
    Round.Sound bound calls.length r ∧ Round.ChoosesChunk bound r
  /-- These rounds make up the loop. -/
  loop {src : UserAddr} {bound : Nat} {m : μ} {calls : List MemoryCall} {r : Round μ}
      (run : Round.Reaches bound ⟨src, ⟨[], bound + 1⟩, m⟩ calls r) :
    Copy.gather bound src ⟨[], bound + 1⟩ m = (r.loop bound).after calls ∧
      ((∃ call r', Round.Next bound r call r') ∨ (r.loop bound).events.length ≤ 1)
  /-- The loop ends: a string copy makes no more reads than the bound has bytes. -/
  ends (c : Conditions) (src : UserAddr) (bound : Nat) (m : μ) :
    (Copy.inString c src bound m).events.length ≤ bound
  /-- A copied string and its closing mark fit into what was reserved. -/
  fits {c : Conditions} {src : UserAddr} {bound : Nat} {m : μ} {s : KernelString}
      (copied : (Copy.inString c src bound m).result = .ok s) : s.text.withNul.length ≤ bound + 1

/-- **Nothing stops the kernel**, whatever a program asks for and whatever user memory and the file
layer answer. -/
theorem Kernel.never_panics : NeverPanics μ ν φ where
  requests memory layer steps c request :=
    (request.perform_returns c (Kernel.afterSession_fits Table.fits_empty steps)).exists_ok
  copiesString c src bound m :=
    Outcome.returns_iff_not_panicked.mp (Copy.inString_returns c src bound m)
  copiesIn src len m := Outcome.returns_iff_not_panicked.mp (Copy.inBytes_returns src len m)
  copiesOut bytes dst m := Outcome.returns_iff_not_panicked.mp (Copy.outBytes_returns bytes dst m)
  reads registers kinds m := (ArgumentReader.readEach_returns registers kinds m).exists_ok
  registers := TrapFrame.hasRegisters
  asksRegisters same kinds reader := by rw [ArgumentReader.readEach_congr same]
  rounds run := ⟨Round.reaches_sound run, (Round.reaches_sound run).choosesChunk⟩
  loop run := ⟨run.loop_eq, Round.next_or_ends _⟩
  ends := Copy.inString_length_events_le
  fits := Copy.inString_length_le

end

end SyscallGate
