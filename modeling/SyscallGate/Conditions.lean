import SyscallGate.Action
import SyscallGate.Log.Level

/-!
# Conditions of a call

What surrounds a call without being its argument: which log levels are recorded, and whether kernel
memory is short while the call runs.

- `Conditions.note` shows an event that reports something, if its level is recorded.
-/

namespace SyscallGate

/-- Which allocations fail for want of kernel memory.

The two kinds of storage are told apart because different calls need them. A shortage lasts for the
whole call. -/
structure Shortage where
  /-- No buffer can be reserved. -/
  buffers : Bool
  /-- The descriptor table cannot grow. -/
  slots : Bool
  deriving DecidableEq, Repr

def Shortage.none : Shortage := ⟨false, false⟩

/-- The surroundings of a call.

They may differ from call to call, and no call changes them. -/
structure Conditions where
  log : Log.Filter
  shortage : Shortage
  deriving DecidableEq, Repr

namespace Conditions

variable {σ ε η : Type}

/-- Shows an event of the given level, if the level is recorded.

An event that is not recorded leaves no trace of any kind. -/
def note (c : Conditions) (level : Log.Level) (event : ε) : Action σ ε η Unit :=
  if c.log.admits level then .emit event else pure ()

@[simp] theorem note_apply (c : Conditions) (level : Log.Level) (event : ε) (s : σ) :
    (c.note level event : Action σ ε η Unit) s =
      ⟨.ok (), s, if c.log.admits level then [event] else []⟩ := by
  unfold note
  split <;> rfl

end Conditions

end SyscallGate
