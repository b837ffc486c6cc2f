import SyscallGate.Call.Arguments
import SyscallGate.Kernel.FileCalls

/-!
# Dispatching system calls

From the number and the arguments in a trap context to the call, and from its ending back into the
context.

- `Kernel.route` reads the arguments of a call and makes it.
- `Kernel.dispatch` does so between two trace reports, and completes the context.

The two trace reports are an option of the build, which is off unless asked for. Here it is on. A
build without it lacks the two lines in the log and does everything else alike, for no other step
depends on them.
-/

namespace SyscallGate.Kernel

variable {μ ν φ τ : Type} [UserMemory μ] [FileLayer ν φ] [TrapContext τ]

/-! ## Call numbers -/

def openNumber : UInt32 := 45

def closeNumber : UInt32 := 49

def directoryNumber : UInt32 := 76

/-! ## Arguments and calls -/

/-- Reads arguments from the start, over the user memory.

The reader is made for this purpose and given up afterwards. Only the memory is kept. -/
def readArguments {η α : Type} (x : Action (ArgumentReader μ) MemoryCall η α) :
    Action (Kernel μ ν φ) (Event φ) η α :=
  onMemory (x.zoom .start (fun reader _ => reader.memory) id)

/-- Opens a file: address of the name, flags, mode.

All arguments are read before the call is made, in the order of their slots. All of them are in
registers, so none of them costs a use of memory. -/
def openCall (c : Conditions) (ctx : τ) : Action (Kernel μ ν φ) (Event φ) Errno Value := do
  let (path, flags, mode) ← readArguments do
    let path ← ArgumentReader.userAddr ctx
    let flags ← ArgumentReader.word ctx
    let mode ← ArgumentReader.word ctx
    return (path, OpenFlags.mk flags, mode)
  let fd ← openFile c path flags mode
  return .ofFd fd

/-- Closes a descriptor: its number.

The number is signed, so large words are negative numbers and no descriptors. -/
def closeCall (c : Conditions) (ctx : τ) : Action (Kernel μ ν φ) (Event φ) Errno Value := do
  let fd ← readArguments (ArgumentReader.int ctx)
  closeFile c fd
  return .ofUnit

/-- Tells the working directory: address and size of a buffer.

The size is a word without a sign, so a program that means a negative one tells a large one. -/
def directoryCall (c : Conditions) (ctx : τ) : Action (Kernel μ ν φ) (Event φ) Errno Value := do
  let (dst, room) ← readArguments do
    let dst ← ArgumentReader.userAddr ctx
    let room ← ArgumentReader.word ctx
    return (dst, room.toNat)
  let count ← currentDirectory c dst room
  return .ofLength count

/-- Makes the call of a given number, with the arguments in the context.

The numbers are compared one by one. A number that belongs to no call is reported, and refused
without a look at the arguments. -/
def route (c : Conditions) (number : UInt32) (ctx : τ) :
    Action (Kernel μ ν φ) (Event φ) Errno Value :=
  if number = directoryNumber then directoryCall c ctx
  else if number = openNumber then openCall c ctx
  else if number = closeNumber then closeCall c ctx
  else do
    note c (.unknownCall number)
    .refuse .enosys

/-- Reports the start of a call, as a build with call traces does.

The argument registers are read for the report only, and only if it is recorded. -/
def noteEntry {η : Type} (c : Conditions) (number : UInt32) (ctx : τ) :
    Action (Kernel μ ν φ) (Event φ) η Unit :=
  if c.log.admits .trace then do
    let a0 ← .ofChecked (TrapContext.argument ctx 0)
    let a1 ← .ofChecked (TrapContext.argument ctx 1)
    let a2 ← .ofChecked (TrapContext.argument ctx 2)
    let a3 ← .ofChecked (TrapContext.argument ctx 3)
    note c (.callEntered number a0 a1 a2 a3)
  else
    return ()

/-- Makes the call that a context asks for, and completes the context.

The reports before and after the call are those of a build with call traces. -/
def dispatch (c : Conditions) (ctx : τ) : Action (Kernel μ ν φ) (Event φ) Empty τ := do
  let number := TrapContext.callNumber ctx
  -- The ending is a value from here on, so that the context is completed for a refusal as well.
  noteEntry c number ctx
  let ending ← (route c number ctx).attempt
  note c (.callLeft number ending)
  return TrapContext.complete ctx ending

end SyscallGate.Kernel
