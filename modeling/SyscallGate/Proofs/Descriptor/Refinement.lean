import SyscallGate.Proofs.Descriptor.Operations
import SyscallGate.Session

/-!
# The table refines a finite map

A session with a descriptor table gives the answers of a finite map with lowest-free allocation.

## Main definitions

- `Table.Request`, `Table.Reply`, `Table.Request.perform`: what a table can be asked for.
- `FdMap.Step`: how a finite map answers one request. It mentions neither slots nor storage; only
  where slots are short may it refuse an allocation for want of memory.
- `FdMap.Run`: a finite map answers the exchanges of a whole session.

## Main results

- `Table.Request.perform_step`: one request of a table is a step of its map.
- `Table.session_refines_map`: a session with a new table is a run of the empty map.
-/

namespace SyscallGate

namespace Table

/-! ## Requests to a table -/

/-- What a table can be asked for.

These are the operations of a table and the questions that can be asked of it, so a session is any
use that can be made of one. -/
inductive Request (φ : Type) where
  | allocate (file : φ)
  | deallocate (raw : Int32)
  | contains (raw : Int32)
  | liveCount
  | isEmpty
  | drain
  | labelled
  | labelledLines

/-- What a table answers.

A file that is refused or taken out is part of the reply. -/
inductive Reply (φ : Type) where
  | allocated (answer : Except (Error × φ) Fd)
  | deallocated (answer : Except Error φ)
  | truth (answer : Bool)
  | count (answer : Nat)
  | drained (entries : List (Fd × φ))
  | shown (text : String)

variable {φ : Type}

def Request.perform (c : Conditions) : Request φ → Action (Table φ) Notice Empty (Reply φ)
  | allocate file => do return .allocated (← (Table.allocate c file).attempt)
  | deallocate raw => do return .deallocated (← (Table.deallocate c raw).attempt)
  | contains raw => do return .truth ((← .read).contains raw)
  | liveCount => do return .count (← .read).liveCount
  | isEmpty => do return .truth (← .read).isEmpty
  | drain => do return .drained (← Table.drain)
  | labelled => do return .shown (← .ofChecked (← .read).labelled)
  | labelledLines => do return .shown (← .ofChecked (← .read).labelledLines)

end Table

/-! ## The abstract machine -/

namespace FdMap

variable {φ : Type}

/-- A list of descriptors between braces.

It is written from the descriptors alone, as the map knows them. -/
def braces (fds : List Fd) : String :=
  "\x7b" ++ String.intercalate ", " (fds.map Fd.labelled) ++ "\x7d"

/-- A list of descriptors between braces, with a line for each brace, label and number. -/
def bracedLines (fds : List Fd) : String :=
  if fds.isEmpty then
    "\x7b\x7d"
  else
    String.intercalate "\n" (["\x7b"] ++
      fds.flatMap (fun fd => ["    Fd(", "        " ++ fd.text ++ ",", "    ),"]) ++ ["\x7d"])

/-- How a finite map answers a request, and the map that remains. `short` tells whether slots are
short when the request is made.

Each rule is the specification of one request. There are no slots here, and no storage; the only
trace of them is that an allocation may be refused where slots are short. -/
inductive Step (short : Bool) (m : FdMap φ) :
    Table.Request φ → Table.Reply φ → FdMap φ → Prop where
  | allocate {file : φ} {fd : Fd} (lowest : m.LowestFree fd) :
      Step short m (.allocate file) (.allocated (.ok fd)) (m.insert fd file)
  /-- All descriptors are in use: the file comes back. -/
  | exhausted {file : φ} (full : m.Full) :
      Step short m (.allocate file) (.allocated (.error (.exhausted, file))) m
  /-- Slots are short: the file may come back. -/
  | outOfMemory {file : φ} (notFull : ¬ m.Full) (isShort : short = true) :
      Step short m (.allocate file) (.allocated (.error (.outOfMemory, file))) m
  /-- The number names a file, which is given out. -/
  | deallocate {raw : Int32} {fd : Fd} {file : φ} (named : (fd.number : Int) = raw.toInt)
      (live : m fd = some file) :
      Step short m (.deallocate raw) (.deallocated (.ok file)) (m.erase fd)
  | badHandle {raw : Int32} (dead : ∀ fd : Fd, (fd.number : Int) = raw.toInt → m fd = none) :
      Step short m (.deallocate raw) (.deallocated (.error .badHandle)) m
  | contains {raw : Int32} {answer : Bool}
      (exact : answer = true ↔ ∃ fd : Fd, (fd.number : Int) = raw.toInt ∧ m fd ≠ none) :
      Step short m (.contains raw) (.truth answer) m
  | liveCount : Step short m .liveCount (.count {fd | m fd ≠ none}.ncard) m
  | isEmpty {answer : Bool} (exact : answer = true ↔ ∀ fd, m fd = none) :
      Step short m .isEmpty (.truth answer) m
  | drain {l : List (Fd × φ)} (lists : m.Lists l) : Step short m .drain (.drained l) empty
  | labelled {l : List (Fd × φ)} (lists : m.Lists l) :
      Step short m .labelled (.shown (braces (l.map (·.1)))) m
  | labelledLines {l : List (Fd × φ)} (lists : m.Lists l) :
      Step short m .labelledLines (.shown (bracedLines (l.map (·.1)))) m

/-- Where slots are not short, a map leaves no choice: answer and next map are determined.

So a run of the map says exactly what a table has to answer, but for the refusals in a shortage. -/
theorem Step.unique {m next next' : FdMap φ} {request : Table.Request φ}
    {reply reply' : Table.Reply φ} (h : Step false m request reply next)
    (h' : Step false m request reply' next') : reply = reply' ∧ next = next' := by
  -- One case for each way to answer; the answers to an allocation and to a deallocation
  -- exclude each other by their conditions.
  cases h with
  | allocate lowest =>
    cases h' with
    | allocate lowest' =>
      cases lowest.unique lowest'
      exact ⟨rfl, rfl⟩
    | exhausted full => exact absurd full lowest.not_full
    | outOfMemory _ short => cases short
  | exhausted full =>
    cases h' with
    | allocate lowest' => exact absurd full lowest'.not_full
    | exhausted => exact ⟨rfl, rfl⟩
    | outOfMemory notFull _ => exact absurd full notFull
  | outOfMemory _ short => cases short
  | deallocate named live =>
    cases h' with
    | deallocate named' live' =>
      cases Fd.ext_number (Int.ofNat_inj.mp (named.trans named'.symm))
      cases live.symm.trans live'
      exact ⟨rfl, rfl⟩
    | badHandle dead =>
      rw [dead _ named] at live
      cases live
  | badHandle dead =>
    cases h' with
    | deallocate named live =>
      rw [dead _ named] at live
      cases live
    | badHandle => exact ⟨rfl, rfl⟩
  | contains exact' =>
    cases h' with
    | contains exact'' =>
      exact ⟨congrArg _ (Bool.eq_iff_iff.mpr (exact'.trans exact''.symm)), rfl⟩
  | liveCount =>
    cases h' with
    | liveCount => exact ⟨rfl, rfl⟩
  | isEmpty exact' =>
    cases h' with
    | isEmpty exact'' =>
      exact ⟨congrArg _ (Bool.eq_iff_iff.mpr (exact'.trans exact''.symm)), rfl⟩
  | drain lists =>
    cases h' with
    | drain lists' =>
      cases lists.unique lists'
      exact ⟨rfl, rfl⟩
  | labelled lists =>
    cases h' with
    | labelled lists' =>
      cases lists.unique lists'
      exact ⟨rfl, rfl⟩
  | labelledLines lists =>
    cases h' with
    | labelledLines lists' =>
      cases lists.unique lists'
      exact ⟨rfl, rfl⟩

/-- A finite map answers every exchange of a session, and another map remains.

The answers are those of the session, so the map has to agree with every single one of them. In
between it is the maps that are handed on, not the tables. -/
inductive Run : FdMap φ → List (Exchange (Table φ) Table.Notice (Table.Request φ) (Table.Reply φ)) →
    FdMap φ → Prop where
  | nil (m : FdMap φ) : Run m [] m
  | cons {m next final : FdMap φ} {reply : Table.Reply φ}
      {x : Exchange (Table φ) Table.Notice (Table.Request φ) (Table.Reply φ)}
      {rest : List (Exchange (Table φ) Table.Notice (Table.Request φ) (Table.Reply φ))}
      (answered : x.outcome.result = .ok reply)
      (step : Step x.conditions.shortage.slots m x.request reply next) (run : Run next rest final) :
      Run m (x :: rest) final

end FdMap

/-! ## Simulation -/

namespace Table

variable {φ : Type} {t : Table φ}

/-- A number is in use if its descriptor is bound. -/
theorem contains_iff (raw : Int32) :
    t.contains raw = true ↔ ∃ fd : Fd, (fd.number : Int) = raw.toInt ∧ t.get? fd ≠ none := by
  unfold contains
  cases named : Fd.ofInt32? raw with
  | none =>
    constructor
    · intro h
      cases h
    · rintro ⟨fd, same, -⟩
      exact absurd same (Fd.ofInt32?_eq_none_iff.mp named fd)
  | some fd =>
    simp only [← Fd.ofInt32?_eq_some_iff, named, Option.some.injEq, exists_eq_left',
      Option.isSome_iff_ne_none]

/-- The bindings of a table that fits can be listed; their number is the number of live slots.

The count goes over slots, and the number of the right side is a cardinality. -/
theorem liveCount_eq (fits : t.Fits) : t.liveCount = {fd | t.get? fd ≠ none}.ncard := by
  -- The entries list the map and the files at once, so the two counts meet there.
  obtain ⟨l, -, lists, files⟩ := entries_eq fits
  rw [← length_held, ← files, List.length_map, lists.length_eq]

/-- A table is empty if no descriptor is bound. -/
theorem isEmpty_iff (fits : t.Fits) : t.isEmpty = true ↔ ∀ fd, t.get? fd = none := by
  obtain ⟨l, -, lists, files⟩ := entries_eq fits
  -- Again through the entries: the table is empty exactly if there are none.
  have noEntry : t.isEmpty = true ↔ l = [] := by
    rw [isEmpty, beq_iff_eq, ← length_held, ← files, List.length_map, List.length_eq_zero_iff]
  rw [noEntry]
  constructor
  · rintro rfl fd
    refine Option.eq_none_iff_forall_ne_some.mpr ?_
    intro file held
    exact List.not_mem_nil ((lists.mem_iff fd file).mpr held)
  · intro dead
    refine List.eq_nil_iff_forall_not_mem.mpr ?_
    rintro ⟨fd, file⟩ inList
    have held := (lists.mem_iff fd file).mp inList
    rw [dead fd] at held
    cases held

/-- **One request is one step**: what a table answers, its map answers, and afterwards the table
stands for the map that remains.

This is the simulation step. It needs that the table fits, and gives it back. -/
theorem Request.perform_step (c : Conditions) (request : Request φ) (fits : t.Fits) :
    ∃ reply, (request.perform c t).result = .ok reply ∧
      FdMap.Step c.shortage.slots t.get? request reply (request.perform c t).state.get? ∧
      (request.perform c t).state.Fits := by
  -- One case for each request. Only `allocate` and `deallocate` change the table, and there the
  -- outcome lemma gives the map that remains.
  cases request with
  | allocate file =>
    have outcome := allocates c file fits
    simp only [perform, Action.bind_apply, Action.attempt_apply]
    generalize Table.allocate c file t = o at outcome
    cases outcome with
    | granted grants =>
      refine ⟨_, rfl, ?_, grants.fits⟩
      have step : FdMap.Step c.shortage.slots t.get? (.allocate file) _ _ :=
        .allocate grants.lowest
      rw [← grants.view] at step
      exact step
    | refused lacks =>
      cases lacks.refuses with
      | exhausted full => exact ⟨_, rfl, .exhausted full, fits⟩
      | outOfMemory notFull short => exact ⟨_, rfl, .outOfMemory notFull short, fits⟩
  | deallocate raw =>
    have outcome := deallocates c raw fits
    simp only [perform, Action.bind_apply, Action.attempt_apply]
    generalize Table.deallocate c raw t = o at outcome
    cases outcome with
    | released releases =>
      refine ⟨_, rfl, ?_, releases.fits⟩
      have step : FdMap.Step c.shortage.slots t.get? (.deallocate raw) _ _ :=
        .deallocate (Fd.ofInt32?_eq_some_iff.mp releases.named) releases.live
      rw [← releases.view] at step
      exact step
    | refused dead =>
      refine ⟨_, rfl, .badHandle ?_, fits⟩
      intro fd same
      exact dead fd (Fd.ofInt32?_eq_some_iff.mpr same)
  | contains raw => exact ⟨_, rfl, .contains (contains_iff raw), fits⟩
  | liveCount =>
    refine ⟨_, rfl, ?_, fits⟩
    rw [liveCount_eq fits]
    exact .liveCount
  | isEmpty => exact ⟨_, rfl, .isEmpty (isEmpty_iff fits), fits⟩
  | drain =>
    obtain ⟨l, drained, lists, -⟩ := @drain_eq φ Empty t fits
    simp only [perform, Action.bind_apply, drained]
    exact ⟨_, rfl, .drain lists, fits_empty⟩
  | labelled =>
    obtain ⟨l, entries, lists, -⟩ := entries_eq fits
    have text : t.labelled = .ok (FdMap.braces (l.map (·.1))) := by
      rw [Table.labelled, entries, FdMap.braces, List.map_map]
      rfl
    simp only [perform, Action.bind_apply, Action.read_apply, Outcome.andThen_ok, text]
    exact ⟨_, rfl, .labelled lists, fits⟩
  | labelledLines =>
    obtain ⟨l, entries, lists, -⟩ := entries_eq fits
    have text : t.labelledLines = .ok (FdMap.bracedLines (l.map (·.1))) := by
      rw [Table.labelledLines, entries, FdMap.bracedLines, List.isEmpty_map, List.flatMap_map]
      simp only [bind, Except.bind]
      split <;> rfl
    simp only [perform, Action.bind_apply, Action.read_apply, Outcome.andThen_ok, text]
    exact ⟨_, rfl, .labelledLines lists, fits⟩

/-- A request keeps the invariant of the table. -/
theorem Request.perform_fits (c : Conditions) (request : Request φ) (fits : t.Fits) :
    (request.perform c t).state.Fits := by
  obtain ⟨_, -, -, fits'⟩ := request.perform_step c fits
  exact fits'

/-- A session with any table that fits is a run of its map.

The map of a step is that of the table in between, and the next exchange begins with it. -/
theorem run_of_fits (fits : t.Fits) (steps : List (Conditions × Request φ)) :
    FdMap.Run t.get? (Service.session Request.perform t steps)
      (Service.after Request.perform t steps).get? := by
  -- Induction on the requests that are left; `Fits` is what one request hands to the next.
  induction steps generalizing t with
  | nil => exact .nil _
  | cons step rest ih =>
    obtain ⟨c, request⟩ := step
    obtain ⟨reply, answered, step, fits'⟩ := request.perform_step c fits
    exact .cons answered step (ih fits')

/-- **Refinement**: whatever a new table is asked for, in any order and with any files, numbers and
shortages, it answers as the empty finite map does, and afterwards stands for the map that
remains.

The conditions can be different for each request. Only the shortage matters to the map, and what is
logged matters to nothing. -/
theorem session_refines_map (steps : List (Conditions × Request φ)) :
    FdMap.Run FdMap.empty (Service.session Request.perform (empty : Table φ) steps)
      (Service.after Request.perform (empty : Table φ) steps).get? :=
  run_of_fits fits_empty steps

end Table

end SyscallGate
