import SyscallGate.Kernel.State

/-!
# Views of what an observer saw

The events of a kernel mix reports with the uses of its two collaborators. Each collaborator has a
view of its own: `Event.memoryCalls` and `Event.fileCalls`. From the uses of the file layer,
`Event.filesOpened` lists the files that the layer handed out, and `Event.filesClosed` the files
that were handed back to it, whatever it answered.

Every view turns appended events into appended views, so the view of a call is computed from the
views of its parts.
-/

namespace SyscallGate

/-- The file that a use of the file layer handed out.

A use that failed handed out nothing, so the answer is part of the view. -/
def FileCall.opened? {φ : Type} : FileCall φ → Option φ
  | .openFile _ _ _ answer => answer.toOption
  | .closeFile .. => none
  | .currentDirectory .. => none

/-- The file that a use of the file layer handed back.

The layer has the file back whatever it answers, so the answer does not matter. -/
def FileCall.closed? {φ : Type} : FileCall φ → Option φ
  | .openFile .. => none
  | .closeFile file _ => some file
  | .currentDirectory .. => none

namespace Event

variable {φ : Type}

/-- The uses of user memory among events.

They come in the order in which they were made, with the answers. -/
def memoryCalls (events : List (Event φ)) : List MemoryCall :=
  events.filterMap fun
    | .memory call => some call
    | _ => none

/-- The uses of the file layer among events. -/
def fileCalls (events : List (Event φ)) : List (FileCall φ) :=
  events.filterMap fun
    | .layer call => some call
    | _ => none

/-- The files that the file layer handed out, in order. -/
def filesOpened (events : List (Event φ)) : List φ := (fileCalls events).filterMap FileCall.opened?

/-- The files that were handed back to the file layer, in order. -/
def filesClosed (events : List (Event φ)) : List φ := (fileCalls events).filterMap FileCall.closed?

variable {events rest : List (Event φ)}

/-! ## Uses of user memory -/

@[simp] theorem memoryCalls_nil : memoryCalls ([] : List (Event φ)) = [] := rfl

@[simp] theorem memoryCalls_append :
    memoryCalls (events ++ rest) = memoryCalls events ++ memoryCalls rest :=
  List.filterMap_append

@[simp] theorem memoryCalls_layer (call : FileCall φ) :
    memoryCalls (.layer call :: rest) = memoryCalls rest := rfl

@[simp] theorem memoryCalls_notice (report : SyscallGate.Notice) :
    memoryCalls (.notice report :: rest) = memoryCalls rest := rfl

@[simp] theorem memoryCalls_map_memory (calls : List MemoryCall) :
    memoryCalls (calls.map .memory : List (Event φ)) = calls := by
  rw [memoryCalls, List.filterMap_map]
  exact List.filterMap_some

@[simp] theorem memoryCalls_map_notice {α : Type} (report : α → SyscallGate.Notice) (l : List α) :
    memoryCalls (l.map fun a => (.notice (report a) : Event φ)) = [] := by
  rw [memoryCalls, List.filterMap_map]
  exact List.filterMap_eq_nil_iff.mpr fun _ _ => rfl

/-! ## Uses of the file layer -/

@[simp] theorem fileCalls_nil : fileCalls ([] : List (Event φ)) = [] := rfl

@[simp] theorem fileCalls_append :
    fileCalls (events ++ rest) = fileCalls events ++ fileCalls rest :=
  List.filterMap_append

@[simp] theorem fileCalls_layer (call : FileCall φ) :
    fileCalls (.layer call :: rest) = call :: fileCalls rest := rfl

@[simp] theorem fileCalls_notice (report : SyscallGate.Notice) :
    fileCalls (.notice report :: rest) = fileCalls rest := rfl

@[simp] theorem fileCalls_map_memory (calls : List MemoryCall) :
    fileCalls (calls.map .memory : List (Event φ)) = [] := by
  rw [fileCalls, List.filterMap_map]
  exact List.filterMap_eq_nil_iff.mpr fun _ _ => rfl

@[simp] theorem fileCalls_map_notice {α : Type} (report : α → SyscallGate.Notice) (l : List α) :
    fileCalls (l.map fun a => (.notice (report a) : Event φ)) = [] := by
  rw [fileCalls, List.filterMap_map]
  exact List.filterMap_eq_nil_iff.mpr fun _ _ => rfl

/-! ## Files handed out and handed back -/

@[simp] theorem filesOpened_append :
    filesOpened (events ++ rest) = filesOpened events ++ filesOpened rest := by
  simp only [filesOpened, fileCalls_append, List.filterMap_append]

@[simp] theorem filesClosed_append :
    filesClosed (events ++ rest) = filesClosed events ++ filesClosed rest := by
  simp only [filesClosed, fileCalls_append, List.filterMap_append]

end Event

end SyscallGate
