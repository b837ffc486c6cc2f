import Mathlib.Data.Multiset.AddSub
import SyscallGate.Files.FlatLayer
import SyscallGate.Memory.Regions
import SyscallGate.Proofs.Kernel.Turnover

/-!
# Conservation of files

The files that the layer handed out are those that the table holds, together with those that were
handed back: over a whole session, in any order and whatever fails on the way. If the layer never
hands out a file twice, the table and the layer agree on the open files.

## Main definitions

- `Accounts`: what a table, the files opened and the files closed say about one another.

## Main results

- `Request.perform_balance`: one request keeps the balance.
- `Kernel.files_conserved`: so does every session.
-/

namespace SyscallGate

variable {μ ν φ : Type}

/-! ## The files of a table -/

namespace Table

variable {t : Table φ}

/-- The files in the table are those that a descriptor names.

A table has slots, and the files in it are listed by slot. That the table fits is what makes each
slot a descriptor. -/
theorem mem_held_iff (fits : t.Fits) {file : φ} :
    file ∈ t.held ↔ ∃ fd, t.get? fd = some file := by
  obtain ⟨l, -, lists, files⟩ := entries_eq fits
  rw [← files, List.mem_map]
  constructor
  · rintro ⟨⟨fd, file⟩, listed, rfl⟩
    exact ⟨fd, (lists.mem_iff fd file).mp listed⟩
  · rintro ⟨fd, named⟩
    exact ⟨(fd, file), (lists.mem_iff fd file).mpr named, rfl⟩

/-- If no file is in the table twice, no two descriptors name the same file.

The list of files follows the list of entries, so the same file at two descriptors would be in it
twice. -/
theorem fd_unique_of_nodup (fits : t.Fits) (once : t.held.Nodup) {fd fd' : Fd} {file : φ}
    (named : t.get? fd = some file) (named' : t.get? fd' = some file) : fd = fd' := by
  obtain ⟨l, -, lists, files⟩ := entries_eq fits
  rw [← files] at once
  have listed := (lists.mem_iff fd file).mpr named
  have listed' := (lists.mem_iff fd' file).mpr named'
  -- The files are the second components of the entries, and they do not repeat.
  exact congrArg Prod.fst (List.inj_on_of_nodup_map once listed listed' rfl)

end Table

/-! ## The accounts -/

/-- A table accounts for the files that were opened and closed.

This is the balance for those who know that no file was opened twice: then one can speak of files,
and need not count them. -/
structure Accounts (t : Table φ) (opened closed : List φ) : Prop where
  closed_once : closed.Nodup
  closed_opened : ∀ file ∈ closed, file ∈ opened
  /-- What a descriptor names is open. -/
  named_open : ∀ fd file, t.get? fd = some file → file ∈ opened ∧ file ∉ closed
  /-- What is open has a descriptor. -/
  open_named : ∀ file ∈ opened, file ∉ closed → ∃ fd, t.get? fd = some file
  named_once : ∀ fd fd' file, t.get? fd = some file → t.get? fd' = some file → fd = fd'
  /-- There are as many open files as descriptors in use. -/
  open_count : {file | file ∈ opened ∧ file ∉ closed}.ncard = t.liveCount

/-- If no file was opened twice, a balance is an account.

Multisets without repetition are sets, so the equation becomes a statement about membership. -/
theorem Accounts.of_balance {t : Table φ} {opened closed : List φ} (fits : t.Fits)
    (balance : (opened : Multiset φ) = t.held + closed) (fresh : opened.Nodup) :
    Accounts t opened closed := by
  have perm : opened.Perm (t.held ++ closed) := Multiset.coe_eq_coe.mp balance
  obtain ⟨heldOnce, closedOnce, apart⟩ := List.nodup_append.mp (perm.nodup_iff.mp fresh)
  have mem (file : φ) : file ∈ opened ↔ file ∈ t.held ∨ file ∈ closed :=
    perm.mem_iff.trans List.mem_append
  -- The open files are those in the table, since none of these was closed.
  have stillOpen : {file | file ∈ opened ∧ file ∉ closed} = {file | file ∈ t.held} := by
    ext file
    simp only [Set.mem_ofPred_eq, mem]
    constructor
    · rintro ⟨held | given, kept⟩
      · exact held
      · exact absurd given kept
    · intro held
      exact ⟨.inl held, fun given => apart file held file given rfl⟩
  exact
    { closed_once := closedOnce
      closed_opened := fun file given => (mem file).mpr (.inr given)
      named_open := by
        intro fd file named
        have held := (Table.mem_held_iff fits).mpr ⟨fd, named⟩
        exact ⟨(mem file).mpr (.inl held), fun given => apart file held file given rfl⟩
      open_named := by
        intro file wasOpened kept
        have held := ((mem file).mp wasOpened).resolve_right kept
        exact (Table.mem_held_iff fits).mp held
      named_once := fun fd fd' file named named' =>
        Table.fd_unique_of_nodup fits heldOnce named named'
      open_count := by
        classical
        rw [stillOpen, ← List.coe_toFinset, Set.ncard_coe_finset,
          List.toFinset_card_of_nodup heldOnce, Table.length_held] }

/-! ## The balance -/

/-- Balances are put together in the middle: what the first one leaves is what the second one begins
with. -/
theorem balance_trans {opened opened' held held' held'' closed closed' : Multiset φ}
    (first : opened + held = held' + closed) (later : opened' + held' = held'' + closed') :
    opened + opened' + held = held'' + (closed + closed') :=
  calc
    opened + opened' + held = opened' + (opened + held) := by
      rw [add_comm opened, add_assoc]
    _ = opened' + held' + closed := by
      rw [first, add_assoc]
    _ = held'' + (closed + closed') := by
      rw [later, add_assoc, add_comm closed']

section

variable [UserMemory μ] [FileLayer ν φ] {k : Kernel μ ν φ}

/-- **One request keeps the balance**: the files before it and those it opened are the files after
it and those it closed.

A file in passing is opened and closed, so it stands on both sides. A shutdown moves all files of
the table at once. -/
theorem Request.perform_balance (c : Conditions) (request : Request) (fits : k.files.Fits) :
    (Event.filesOpened (request.perform c k).events : Multiset φ) + k.files.held =
      (request.perform c k).state.files.held + Event.filesClosed (request.perform c k).events := by
  have turnover := request.perform_turnover c fits
  generalize request.perform c k = o at turnover
  -- Each case of a turnover moves a file from the left to the right, or none at all.
  cases turnover with
  | unchanged passing _ _ same opened closed => rw [same, opened, closed, add_comm]
  | refused _ _ same silent =>
    rw [same, Event.filesOpened, Event.filesClosed, silent]
    exact add_comm _ _
  | opened _ grants opened closed =>
    rw [opened, closed, Multiset.coe_add, Multiset.coe_add, List.append_nil]
    exact Multiset.coe_eq_coe.mpr grants.files.symm
  | @closed raw fd file _ releases opened closed =>
    rw [opened, closed, Multiset.coe_add, Multiset.coe_add]
    exact Multiset.coe_eq_coe.mpr (releases.files.trans (List.perm_append_singleton file _).symm)
  | drained _ empty opened closed =>
    rw [empty, opened, closed]
    rfl

namespace Kernel

/-- A session keeps the balance, because each of its requests does.

The equation begins with the files that the kernel holds, so that it can be proved for any kernel
and used for a new one. -/
theorem session_balance (fits : k.files.Fits) (steps : List (Conditions × Request)) :
    (Event.filesOpened (k.history steps) : Multiset φ) + k.files.held =
      (k.afterSession steps).files.held + Event.filesClosed (k.history steps) := by
  -- Induction on the requests that are left. The balance of the first one and that of the rest
  -- meet in the files of the kernel between them.
  induction steps generalizing k with
  | nil => exact add_comm _ _
  | cons step rest ih =>
    obtain ⟨c, request⟩ := step
    have first := request.perform_balance c fits
    have later := ih (request.perform_fits c fits)
    simp only [history, Service.history_cons, Event.filesOpened_append, Event.filesClosed_append,
      ← Multiset.coe_add]
    exact balance_trans first later

/-- **Conservation of files**: after any session with a new kernel, the files that the layer opened
are those in the table, together with those passed back to be closed. If the layer opened no file
twice, the table accounts for all of them.

The equation is one between multisets. A layer that hands the same file out twice makes the table
hold it twice, and has to get it back twice. -/
theorem files_conserved (memory : μ) (layer : ν) (steps : List (Conditions × Request)) :
    let start : Kernel μ ν φ := initial memory layer
    let k := start.afterSession steps
    let opened := Event.filesOpened (start.history steps)
    let closed := Event.filesClosed (start.history steps)
    (opened : Multiset φ) = k.files.held + closed ∧
      (opened.Nodup → Accounts k.files opened closed) := by
  intro start k opened closed
  have fits : start.files.Fits := Table.fits_empty
  have balance : (opened : Multiset φ) = k.files.held + closed := by
    -- A new kernel holds no files, so the balance starts from nothing.
    have whole := session_balance fits steps
    rwa [show start.files.held = [] from rfl, Multiset.coe_nil, add_zero] at whole
  exact ⟨balance, .of_balance (afterSession_fits fits steps) balance⟩

/-- The first file finds no room in the table, and no file closes in good order: the third file is
the only one that stays open. -/
theorem files_conserved_despite_failures :
    let start : Kernel RegionMemory FlatLayer Nat :=
      initial ⟨[⟨0x400FFE, [97, 0], false, none⟩]⟩
        { FlatLayer.empty [] with names := [[97]], closeFault := some .ebusy }
    let steps : List (Conditions × Request) :=
      [(⟨.off, ⟨false, true⟩⟩, .openFile ⟨0x400FFE⟩ ⟨0⟩ 0),
        (⟨.off, .none⟩, .openFile ⟨0x400FFE⟩ ⟨0⟩ 0), (⟨.off, .none⟩, .openFile ⟨0x400FFE⟩ ⟨0⟩ 0),
        (⟨.off, .none⟩, .closeFile 3)]
    Event.filesOpened (start.history steps) = [1, 2, 3] ∧
      Event.filesClosed (start.history steps) = [1, 2] ∧
      Accounts (start.afterSession steps).files (Event.filesOpened (start.history steps))
        (Event.filesClosed (start.history steps)) :=
  ⟨by decide +kernel, by decide +kernel, (files_conserved _ _ _).2 (by decide +kernel)⟩

end Kernel

end

end SyscallGate
