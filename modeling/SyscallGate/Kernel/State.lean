import SyscallGate.Files.FileLayer
import SyscallGate.Kernel.Notice
import SyscallGate.Memory.UserMemory

/-!
# The kernel's state

A kernel holds the user memory, the file layer and the descriptor table. Its events are the uses of
the first two and the reports it makes, in one order.

- `Kernel.boot` starts a kernel with an empty table.
- `onMemory`, `onLayer` and `onTable` run an action on one component.
- `Kernel.discard` closes a file for which nobody waits.
-/

namespace SyscallGate

/-- A kernel over a user memory and a file layer.

The three components do not know of each other. What a call does with them is in the modules of the
calls. -/
structure Kernel (μ ν φ : Type) where
  memory : μ
  layer : ν
  /-- The open files of the program, by descriptor. -/
  files : Table φ

/-- What an observer of the kernel sees.

The events are in the order in which they happened, across the components. -/
inductive Event (φ : Type) where
  | memory (call : MemoryCall)
  | layer (call : FileCall φ)
  | notice (report : Notice)

namespace Kernel

variable {μ ν φ η α : Type}

/-- Runs an action on the user memory. -/
def onMemory (x : Action μ MemoryCall η α) : Action (Kernel μ ν φ) (Event φ) η α :=
  x.zoom (·.memory) (fun memory kernel => { kernel with memory }) .memory

def onLayer (x : Action ν (FileCall φ) η α) : Action (Kernel μ ν φ) (Event φ) η α :=
  x.zoom (·.layer) (fun layer kernel => { kernel with layer }) .layer

def onTable (x : Action (Table φ) Table.Notice η α) : Action (Kernel μ ν φ) (Event φ) η α :=
  x.zoom (·.files) (fun files kernel => { kernel with files }) fun change => .notice (.table change)

/-- Reports something, if its level is recorded.

The report is one event if it is recorded, and no event at all if it is not. -/
def note (c : Conditions) (report : Notice) : Action (Kernel μ ν φ) (Event φ) η Unit :=
  c.note report.level (.notice report)

@[simp] theorem onMemory_apply (x : Action μ MemoryCall η α) (k : Kernel μ ν φ) :
    onMemory x k = (x k.memory).embed (fun memory => { k with memory }) .memory := rfl

@[simp] theorem onLayer_apply (x : Action ν (FileCall φ) η α) (k : Kernel μ ν φ) :
    onLayer x k = (x k.layer).embed (fun layer => { k with layer }) .layer := rfl

@[simp] theorem onTable_apply (x : Action (Table φ) Table.Notice η α) (k : Kernel μ ν φ) :
    onTable x k =
      (x k.files).embed (fun files => { k with files })
        fun change => .notice (.table change) := rfl

@[simp] theorem note_apply (c : Conditions) (report : Notice) (k : Kernel μ ν φ) :
    (note c report : Action (Kernel μ ν φ) (Event φ) η Unit) k =
      ⟨.ok (), k, if c.log.admits report.level then [Event.notice report] else []⟩ := by
  unfold note
  exact c.note_apply report.level (Event.notice report) k

/-- Hands a file back to the layer. A failure is reported, not returned.

This is for files that no program can reach: a file that got no descriptor, and all files at
shutdown. -/
def discard [FileLayer ν φ] (c : Conditions) (file : φ) (report : Errno → Notice) :
    Action (Kernel μ ν φ) (Event φ) η Unit := do
  match ← (onLayer (FileLayer.release file)).attempt with
  | .ok () => return ()
  | .error cause => note c (report cause)

/-- A kernel that has just been set up.

No descriptor is in use, and no storage is reserved for slots. -/
def initial (memory : μ) (layer : ν) : Kernel μ ν φ := ⟨memory, layer, .empty⟩

/-- Starts a kernel.

Nothing is asked of the memory or of the file layer, and the only event is the report that the table
is ready. -/
def boot (c : Conditions) (memory : μ) (layer : ν) : Outcome (Kernel μ ν φ) (Event φ) η Unit :=
  note c .ready (initial memory layer)

end Kernel

end SyscallGate
