import Mathlib.Data.Finset.Basic
import SyscallGate.Proofs.Descriptor.Refinement
import SyscallGate.Proofs.Reports
import SyscallGate.Proofs.Text.Numerals

/-!
# Replaying the records of a table

The records of a descriptor table tell which descriptors are in use. A reader who knows nothing but
their texts adds a descriptor for each one that was allocated and removes it for each one that was
released. Nothing is added that is there already, nothing is removed that is not there, and after
every request the reader has the descriptors in use.

The reader looks at all records of a session and picks out those of the table, so what is shown here
serves for a table on its own and for a table inside a kernel.

## Main definitions

- `Table.replay`: reads records, from given descriptors on.
- `FdMap.Changes`: what one request may do to a map, with the notice of it.
- `Service.TellsChanges`: the records of one request are those of the change that it made.
- `Service.Replays`: the records of a session can be replayed after every request.

## Main results

- `Table.Notice.ofText?_text`: the text of a notice tells the change.
- `FdMap.Changes.replay_eq`: to read the record of a change is to make it.
- `Service.replays`: if each request tells its change, then sessions can be replayed.
-/

namespace SyscallGate

variable {σ ε ι α φ : Type}

/-- Whether a record comes from a descriptor table.

The reader goes by the target that every record carries, so the records of the kernel and of the
file layer do not disturb it, whatever their texts are. -/
def Log.Record.ofTable (record : Log.Record) : Bool := record.target = Log.Target.table.path

/-! ## Descriptors in use -/

namespace Fd

/-- All descriptors, lowest first.

There are as many of them as slots, so a reader can try all of them. -/
def all : List Fd :=
  (List.finRange slotCount).map fun slot : Fin slotCount =>
    ⟨slot.val + 3, Nat.le_add_left 3 slot.val,
      Nat.le_of_lt_succ (Nat.add_lt_add_right slot.isLt 3)⟩

theorem mem_all (fd : Fd) : fd ∈ all := by
  refine List.mem_map.mpr ⟨⟨fd.slot, fd.slot_lt⟩, List.mem_finRange _, ?_⟩
  exact ext_number (Nat.sub_add_cancel fd.lower)

end Fd

namespace FdMap

/-- The descriptors that are bound.

This is what the reader keeps: which descriptors are bound, and not to which files, since the
records do not name files. -/
def live (m : FdMap φ) : Finset Fd := Fd.all.toFinset.filter fun fd => (m fd).isSome = true

@[simp] theorem mem_live {m : FdMap φ} {fd : Fd} : fd ∈ m.live ↔ (m fd).isSome = true := by
  simp [live, Fd.mem_all]

@[simp] theorem live_empty : (empty : FdMap φ).live = ∅ := by
  ext fd
  simp [empty]

@[simp] theorem live_insert (m : FdMap φ) (fd : Fd) (file : φ) :
    (m.insert fd file).live = Insert.insert fd m.live := by
  ext other
  by_cases same : other = fd
  · subst same
    simp
  · simp [same, insert_of_ne]

@[simp] theorem live_erase (m : FdMap φ) (fd : Fd) : (m.erase fd).live = m.live.erase fd := by
  ext other
  by_cases same : other = fd
  · subst same
    simp
  · simp [same, erase_of_ne]

/-- What one request may do to a map, with the notice of it: nothing, or bind a free descriptor, or
free a bound one.

Only a free descriptor is bound and only a bound one is freed, so each change does change the map
and can be told from its result. -/
inductive Changes (m : FdMap φ) : FdMap φ → List Table.Notice → Prop where
  | unchanged : Changes m m []
  | allocated {fd : Fd} (file : φ) (free : m fd = none) :
      Changes m (m.insert fd file) [.allocated fd]
  | released {fd : Fd} (bound : (m fd).isSome = true) : Changes m (m.erase fd) [.released fd]

end FdMap

namespace Table

/-- The descriptors in use.

It is a finite set, so the reader and the table can be compared as a whole. -/
def live (t : Table φ) : Finset Fd := FdMap.live t.get?

/-! ## Reading a text -/

namespace Notice

/-- The notices that a table can give.

There are two for each descriptor, and no two of them have the same text. -/
def all : List Notice := Fd.all.flatMap fun fd => [.allocated fd, .released fd]

theorem mem_all (change : Notice) : change ∈ all := by
  cases change with
  | allocated fd => exact List.mem_flatMap.mpr ⟨fd, fd.mem_all, List.mem_cons_self⟩
  | released fd =>
    exact List.mem_flatMap.mpr ⟨fd, fd.mem_all, List.mem_cons_of_mem _ List.mem_cons_self⟩

/-- The notice with a given text.

The reader knows the texts that a table can write, and looks up the one that it sees. -/
def ofText? (text : String) : Option Notice := all.find? fun change => change.text == text

/-- Different changes have different texts. The number at the end tells the descriptors apart, and
the verb before it tells the two kinds of changes apart. -/
theorem text_injective {change change' : Notice} (same : change.text = change'.text) :
    change = change' := by
  -- A numeral can be read back, so the descriptor of a text is known by its last characters.
  have number {fd fd' : Fd} (same : fd.text = fd'.text) : fd = fd' := by
    have chars : fd.number.repr.toList ++ [] = fd'.number.repr.toList ++ [] :=
      congrArg (fun text => text.toList ++ []) same
    exact Fd.ext_number (repr_append_inj (by decide) (by decide) chars).1
  -- The fifth character tells the two kinds of texts apart.
  have differ (fd fd' : Fd) : "fd: allocated " ++ fd.text ≠ "fd: released " ++ fd'.text := by
    intro same
    have heads := congrArg (fun text => text.toList.take 5) same
    simp only [String.toList_append] at heads
    rw [List.take_append_of_le_length (by decide), List.take_append_of_le_length (by decide)]
      at heads
    exact absurd heads (by decide)
  -- Texts of one kind differ in the numeral only, and those of two kinds differ already before it.
  unfold text at same
  cases change with
  | allocated fd =>
    cases change' with
    | allocated fd' => rw [number ((String.append_right_inj _).mp same)]
    | released fd' => exact absurd same (differ fd fd')
  | released fd =>
    cases change' with
    | allocated fd' => exact absurd same.symm (differ fd' fd)
    | released fd' => rw [number ((String.append_right_inj _).mp same)]

/-- **The text of a notice tells the change.**

The lookup finds some notice with this text, and there is no other one. -/
@[simp] theorem ofText?_text (change : Notice) : ofText? change.text = some change := by
  have found : (ofText? change.text).isSome = true :=
    List.find?_isSome.mpr ⟨change, change.mem_all, beq_self_eq_true _⟩
  obtain ⟨change', isFound⟩ := Option.isSome_iff_exists.mp found
  have same := List.find?_some
    (show all.find? (fun other => other.text == change.text) = some change' from isFound)
  exact isFound.trans (congrArg some (text_injective (beq_iff_eq.mp same)))

end Notice

/-! ## Replaying records -/

/-- The descriptors in use after a change, if the change is possible.

A descriptor that is in use already cannot be allocated, and one that is not in use cannot be
released. The reader stops at such a record, and does not repair what it has. -/
def Notice.apply (live : Finset Fd) : Notice → Option (Finset Fd)
  | allocated fd => if fd ∈ live then none else some (insert fd live)
  | released fd => if fd ∈ live then some (live.erase fd) else none

/-- Reads one record of a table: a text that tells no change, or an impossible one, stops the
reader. -/
def readRecord (live : Finset Fd) (record : Log.Record) : Option (Finset Fd) :=
  (Notice.ofText? record.text).bind (Notice.apply live)

/-- The record of a notice is read as the change of which it is the notice. -/
@[simp] theorem readRecord_record (live : Finset Fd) (change : Notice) :
    readRecord live change.record = Notice.apply live change := by
  show (Notice.ofText? change.text).bind (Notice.apply live) = _
  rw [Notice.ofText?_text]
  rfl

/-- A change is recorded at the level of traces.

All changes of a table are noted at this level, and the conditions under which a session is replayed
ask for it. -/
theorem noted_of_trace {c : Conditions} (detailed : c.log = .upTo .trace) (change : Notice) :
    noted c change = [change] := by
  rw [noted, detailed]
  rfl

/-- The records of a table among others.

Their order is kept, which matters, since a descriptor may be released and allocated again. -/
def recordsOf (records : List Log.Record) : List Log.Record := records.filter Log.Record.ofTable

/-- Reads the records of a table, in order, from given descriptors on.

The reader goes through all records and skips those that are not of the table. One record that
cannot be read ends the replay. -/
def replay (live : Finset Fd) (records : List Log.Record) : Option (Finset Fd) :=
  (recordsOf records).foldlM readRecord live

/-- To read two pieces of a log one after the other is to read them as one. -/
theorem replay_append (live : Finset Fd) (first later : List Log.Record) :
    replay live (first ++ later) = (replay live first).bind fun live => replay live later := by
  simp only [replay, recordsOf, List.filter_append, List.foldlM_append]
  rfl

/-- All records of changes are of the table, so none of them is skipped. -/
@[simp] theorem recordsOf_map_record (changes : List Notice) :
    recordsOf (changes.map Notice.record) = changes.map Notice.record := by
  apply List.filter_eq_self.mpr
  intro record mem
  obtain ⟨change, _, rfl⟩ := List.mem_map.mp mem
  exact decide_eq_true rfl

end Table

/-- **To read the record of a change is to make it.**

The descriptors with which the reader starts are those of the map before the change. What is read
may be mixed with other records, as long as those of the table are those of the change. -/
theorem FdMap.Changes.replay_eq {m m' : FdMap φ} {changes : List Table.Notice}
    (changed : m.Changes m' changes) {records : List Log.Record}
    (told : Table.recordsOf records = changes.map Table.Notice.record) :
    Table.replay m.live records = some m'.live := by
  unfold Table.replay
  rw [told]
  cases changed with
  | unchanged => rfl
  | @allocated fd file free =>
    -- The descriptor is free, so the reader does not have it and may add it.
    simp [Table.Notice.apply, free]
  | @released fd bound =>
    -- The descriptor is bound, so the reader has it and may remove it.
    simp [Table.Notice.apply, bound]

/-! ## Sessions -/

namespace Service

section

variable (record? : ε → Option Log.Record) (table : σ → Table φ)

/-- The records of one request are those of the change that it made to a table.

There are one or none of them, as `FdMap.Changes` says. What other records the request leaves is not
limited. -/
def TellsChanges (s : σ) (o : Outcome σ ε Empty α) : Prop :=
  ∃ changes : List Table.Notice, FdMap.Changes (table s).get? (table o.state).get? changes ∧
    Table.recordsOf (o.events.filterMap record?) = changes.map Table.Notice.record

/-- A request gives up all descriptors of a table and leaves no record of it.

This is what a drain does, and a shutdown. The records do not show it, so a reader has to learn of
it in another way. -/
structure EmptiesSilently (o : Outcome σ ε Empty α) : Prop where
  empty : table o.state = .empty
  silent : Table.recordsOf (o.events.filterMap record?) = []

/-- The records of a session tell which descriptors of a table are in use.

The steps of the session are numbered, and every statement is about the request with one number and
the state that the requests before it have left. -/
structure Replays (serve : Service σ ε ι α) (s : σ) (steps : List (Conditions × ι)) : Prop where
  /-- Each request gives one record of the table if it changed it, and none if it did not. -/
  tells : ∀ j x, (serve.session s steps)[j]? = some x →
    TellsChanges record? table (serve.after s (steps.take j)) x.outcome
  /-- A request leaves no record of the table exactly if the table did not change, and never leaves
  more than one. -/
  once : ∀ j x, (serve.session s steps)[j]? = some x →
    (Table.recordsOf (x.outcome.events.filterMap record?) = [] ↔
        (table x.outcome.state).get? = (table (serve.after s (steps.take j))).get?) ∧
      (Table.recordsOf (x.outcome.events.filterMap record?)).length ≤ 1
  /-- After every request the reader has the descriptors in use. -/
  replay : ∀ j ≤ steps.length,
    Table.replay ∅ (records record? ((serve.session s steps).take j)) =
      some (table (serve.after s (steps.take j))).live

end

variable {serve : Service σ ε ι α} {record? : ε → Option Log.Record} {table : σ → Table φ}
  {s : σ} {steps : List (Conditions × ι)}

/-- A request leaves a record of the table exactly if it changed it, and then it leaves one.

That the table changed means that its map did: the storage that is reserved for it may grow without
a record. -/
theorem TellsChanges.once {o : Outcome σ ε Empty α} (tells : TellsChanges record? table s o) :
    (Table.recordsOf (o.events.filterMap record?) = [] ↔
        (table o.state).get? = (table s).get?) ∧
      (Table.recordsOf (o.events.filterMap record?)).length ≤ 1 := by
  obtain ⟨changes, changed, told⟩ := tells
  -- What was told is the change itself, so the cases are those of the change.
  rw [told]
  generalize (table o.state).get? = after at changed
  cases changed with
  | unchanged => simp
  | @allocated fd file free =>
    -- A descriptor that was free is bound now.
    have differ : FdMap.insert (table s).get? fd file ≠ (table s).get? := by
      intro same
      have bound := congrFun same fd
      rw [FdMap.insert_self, free] at bound
      cases bound
    simp [differ]
  | @released fd bound =>
    -- A descriptor that was bound is free now.
    have differ : FdMap.erase (table s).get? fd ≠ (table s).get? := by
      intro same
      rw [← same, FdMap.erase_self] at bound
      cases bound
    simp [differ]

/-- A reader who starts with the descriptors in use can follow a session from any state.

The statement is about every number of requests from the start of the session, so the reader is
right in between as well. -/
theorem replay_take
    (tells : ∀ j x, (serve.session s steps)[j]? = some x →
      TellsChanges record? table (serve.after s (steps.take j)) x.outcome)
    (j : Nat) :
    Table.replay (table s).live (records record? ((serve.session s steps).take j)) =
      some (table (serve.after s (steps.take j))).live := by
  -- Induction on the requests. The first one leaves the descriptors with which the reader goes on.
  induction steps generalizing s j with
  | nil =>
    rw [session, List.take_nil, List.take_nil]
    rfl
  | cons step rest ih =>
    obtain ⟨c, request⟩ := step
    cases j with
    -- No request was made, and no record was read.
    | zero => rfl
    | succ j =>
      -- The records of the first request lead to its state, and the rest is a session from there.
      obtain ⟨changes, changed, told⟩ := tells 0 _ rfl
      have first : Table.replay (table s).live ((serve c request s).events.filterMap record?) =
          some (table (serve c request s).state).live :=
        changed.replay_eq told
      have later := ih (fun j x h => tells (j + 1) x h) j
      rw [session, List.take_succ_cons, List.take_succ_cons, records_cons, Table.replay_append,
        first]
      exact later

/-- **Sessions can be replayed** if each request tells its change.

Each request has to tell its change in the states in which a session can be, and under the
conditions that are asked of it. The session starts with nothing in use. -/
theorem replays (holds : σ → Prop) (admissible : Conditions × ι → Prop)
    (keeps : ∀ c request s, holds s → holds (serve c request s).state)
    (each : ∀ c request s, holds s → admissible (c, request) →
      TellsChanges record? table s (serve c request s))
    (start : holds s) (empty : (table s).get? = FdMap.empty)
    (all : ∀ step ∈ steps, admissible step) : Replays record? table serve s steps := by
  have tells : ∀ j x, (serve.session s steps)[j]? = some x →
      TellsChanges record? table (serve.after s (steps.take j)) x.outcome :=
    fun j x h =>
      forall_exchange holds admissible (fun s x => TellsChanges record? table s x.outcome) keeps
        each start all h
  -- Record by record the session tells its changes, and so the reader can follow it from nothing.
  refine ⟨tells, fun j x h => (tells j x h).once, fun j _ => ?_⟩
  have read := replay_take tells j
  rwa [Table.live, empty, FdMap.live_empty] at read

end Service

end SyscallGate
