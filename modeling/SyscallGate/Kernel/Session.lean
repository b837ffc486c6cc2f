import SyscallGate.Kernel.Shutdown
import SyscallGate.Kernel.Trap
import SyscallGate.Session

/-!
# Requests to a kernel

- `Request` is what a kernel can be asked for, and `Reply` what it answers.
- `Request.perform` makes one request.
- `Kernel.session` makes a sequence of them; `Kernel.afterSession` is the kernel that remains, and
    `Kernel.history` is what an observer saw.
-/

namespace SyscallGate

/-- What a kernel can be asked for.

The first three are the calls themselves, the next two come with a saved frame, and the last one is
the shutdown. -/
inductive Request where
  | openFile (path : UserAddr) (flags : OpenFlags) (mode : UInt32)
  | closeFile (fd : Int32)
  | currentDirectory (dst : UserAddr) (room : Nat)
  | dispatch (frame : TrapFrame)
  | trap (frame : TrapFrame)
  | closeAll

/-- What a kernel answers.

Each kind of request has its kind of reply, and a reply holds the refusal if there was one. -/
inductive Reply where
  | opened (answer : Except Errno Fd)
  /-- Whether the file closed in good order. -/
  | closed (answer : Except Errno Unit)
  /-- The number of bytes of the working directory that were copied. -/
  | located (answer : Except Errno Nat)
  | dispatched (frame : TrapFrame)
  | trapped (frame : TrapFrame) (disposition : Disposition)
  /-- The number of files that were open. -/
  | closedAll (count : Nat)

variable {μ ν φ : Type} [UserMemory μ] [FileLayer ν φ]

/-- Makes a request.

Refusals of the calls are caught here, so no request is refused. A dispatch and a trap catch them
already and write them into the frame. -/
def Request.perform (c : Conditions) : Request → Action (Kernel μ ν φ) (Event φ) Empty Reply
  | openFile path flags mode => do return .opened (← (Kernel.openFile c path flags mode).attempt)
  | closeFile fd => do return .closed (← (Kernel.closeFile c fd).attempt)
  | currentDirectory dst room => do
    return .located (← (Kernel.currentDirectory c dst room).attempt)
  | dispatch frame => do return .dispatched (← Kernel.dispatch c frame)
  | trap frame => do
    let (frame, disposition) ← Kernel.handleTrap c frame
    return .trapped frame disposition
  | closeAll => do return .closedAll (← Kernel.closeAll c)

/-- One request to a kernel, with how it ended. -/
abbrev Kernel.Exchange (μ ν φ : Type) :=
  SyscallGate.Exchange (Kernel μ ν φ) (Event φ) Request Reply

namespace Kernel

/-- Makes requests one after the other, and lists the exchanges. -/
abbrev session (k : Kernel μ ν φ) (steps : List (Conditions × Request)) :
    List (Exchange μ ν φ) :=
  Service.session Request.perform k steps

/-- The kernel after requests were made one after the other. -/
abbrev afterSession (k : Kernel μ ν φ) (steps : List (Conditions × Request)) : Kernel μ ν φ :=
  Service.after Request.perform k steps

/-- What an observer sees of a session, first event first. -/
abbrev history (k : Kernel μ ν φ) (steps : List (Conditions × Request)) : List (Event φ) :=
  Service.history Request.perform k steps

end Kernel

end SyscallGate
