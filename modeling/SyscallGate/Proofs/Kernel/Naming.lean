import SyscallGate.Files.FlatLayer
import SyscallGate.Memory.Regions
import SyscallGate.Proofs.Kernel.Turnover

/-!
# What a descriptor names

In a session with a new kernel, a descriptor names the file that was opened when the descriptor was
last handed out, for as long as it is not given back. Between the two it is not handed out again,
and afterwards it names nothing.

## Main definitions

- `Exchange.Opens`, `Exchange.Frees`: exchanges that hand out a descriptor, or give it back.
- `Untouched`: no exchange between two positions hands out or gives back a descriptor.

## Main results

- `Kernel.opened_of_named`: what a descriptor names was opened with it.
- `Kernel.unnamed_until_opened`: a free descriptor stays free until it is handed out.
- `Kernel.descriptors_name_their_files`: what that means for the calls of a program.
-/

namespace SyscallGate

variable {μ ν φ : Type}

/-! ## Handing out and giving back -/

namespace Request

/-- A request that gives a descriptor back: it closes that descriptor, or all of them.

A shutdown frees every descriptor. A closing frees the one that it names, and it does so in a trap
or a dispatch as well as by a direct call. -/
def Frees (request : Request) (fd : Fd) : Prop :=
  request = .closeAll ∨ ∃ raw, request.closes? = some raw ∧ Fd.ofInt32? raw = some fd

end Request

namespace Kernel.Exchange

/-- An exchange that opens a file and returns a given descriptor.

The descriptor is the one that the program is told. A request that opens a file and fails is not
meant. -/
def Opens (x : Kernel.Exchange μ ν φ) (fd : Fd) : Prop :=
  x.request.opens = true ∧ x.outcome.Answers (.ok fd.toUInt32)

/-- An exchange that gives a descriptor back, whether or not it names a file.

A closing that is refused frees its descriptor too, which was free then. So this can be read off the
request. -/
def Frees (x : Kernel.Exchange μ ν φ) (fd : Fd) : Prop := x.request.Frees fd

end Kernel.Exchange

/-- No exchange strictly between two positions hands out a descriptor or gives it back.

Positions count the exchanges of a session from zero, and an exchange at one of the two positions is
not meant. -/
def Untouched (exchanges : List (Kernel.Exchange μ ν φ)) (fd : Fd) (i j : Nat) : Prop :=
  ∀ between x, i < between → between < j → exchanges[between]? = some x →
    ¬ x.Opens fd ∧ ¬ x.Frees fd

/-! ## One request and one descriptor -/

namespace Turnover

variable {k : Kernel μ ν φ} {request : Request}
  {o : Outcome (Kernel μ ν φ) (Event φ) Empty Reply} {fd : Fd}

theorem fd_eq_of_answers {fd' : Fd} (told : o.Answers (.ok fd.toUInt32))
    (told' : o.Answers (.ok fd'.toUInt32)) : fd = fd' := by
  have same := told.symm.trans told'
  exact Fd.toUInt32_injective (Except.ok.inj (Except.ok.inj same))

/-- What a descriptor names after a request, it was given by the request, or it named it before and
the request had nothing to do with it. -/
theorem named_cases (turnover : Turnover request k o) {file : φ}
    (named : o.state.files.get? fd = some file) :
    (request.opens = true ∧ o.Answers (.ok fd.toUInt32) ∧ Event.filesOpened o.events = [file]) ∨
      (k.files.get? fd = some file ∧ ¬ (request.opens = true ∧ o.Answers (.ok fd.toUInt32)) ∧
        ¬ request.Frees fd) := by
  -- Only `opened` binds a descriptor, and only `closed` and `drained` unbind one. What is left to
  -- show is that a binding that stays was not asked to go.
  cases turnover with
  | unchanged passing asks noShutdown same opened closed noFd =>
    -- The table is the same, and neither did the request ask for a descriptor to go.
    refine .inr ⟨same ▸ named, ?_, ?_⟩
    · rintro ⟨opens, told⟩
      exact noFd opens fd told
    · rintro (shutdown | ⟨raw, closes, -⟩)
      · exact noShutdown shutdown
      · rw [asks] at closes
        cases closes
  | refused asks dead same silent told =>
    -- The number named nothing, so it is not the number of a descriptor that names a file.
    have before : k.files.get? fd = some file := same ▸ named
    refine .inr ⟨before, ?_, ?_⟩
    · rintro ⟨opens, -⟩
      rw [Request.closes?_of_opens opens] at asks
      cases asks
    · rintro (rfl | ⟨raw, closes, isFd⟩)
      · cases asks
      · cases asks.symm.trans closes
        rw [dead fd isFd] at before
        cases before
  | @opened fd' file' asks grants opened closed told =>
    -- One descriptor was bound. Any other one names what it named.
    rw [grants.view] at named
    by_cases same : fd = fd'
    · subst same
      rw [FdMap.insert_self] at named
      cases named
      exact .inl ⟨asks, told, opened⟩
    · rw [FdMap.insert_of_ne same] at named
      refine .inr ⟨named, ?_, ?_⟩
      · rintro ⟨-, told'⟩
        exact same (fd_eq_of_answers told' told)
      · rintro (rfl | ⟨raw, closes, -⟩)
        · cases asks
        · rw [Request.closes?_of_opens asks] at closes
          cases closes
  | @closed raw fd' file' asks releases opened closed =>
    -- One descriptor was unbound. Any other one names what it named.
    rw [releases.view] at named
    by_cases same : fd = fd'
    · subst same
      rw [FdMap.erase_self] at named
      cases named
    · rw [FdMap.erase_of_ne same] at named
      refine .inr ⟨named, ?_, ?_⟩
      · rintro ⟨opens, -⟩
        rw [Request.closes?_of_opens opens] at asks
        cases asks
      · rintro (rfl | ⟨raw', closes, isFd⟩)
        · cases asks
        · cases asks.symm.trans closes
          exact same (Option.some.inj (isFd.symm.trans releases.named))
  | drained asks empty =>
    -- Nothing is bound behind a shutdown.
    rw [empty, Table.get?_empty] at named
    cases named

/-- A free descriptor stays free unless the request hands it out. -/
theorem unnamed (turnover : Turnover request k o) (free : k.files.get? fd = none)
    (notOpened : ¬ (request.opens = true ∧ o.Answers (.ok fd.toUInt32))) :
    o.state.files.get? fd = none := by
  -- If it named a file afterwards, the request would have handed it out.
  cases after : o.state.files.get? fd with
  | none => rfl
  | some file =>
    rcases turnover.named_cases after with ⟨opens, told, -⟩ | ⟨before, -, -⟩
    · exact absurd ⟨opens, told⟩ notOpened
    · rw [free] at before
      cases before

/-- A descriptor that is handed out was free.

Only an opening that tells it hands a descriptor out, and it is the lowest free one. -/
theorem free_of_opens (turnover : Turnover request k o) (opens : request.opens = true)
    (told : o.Answers (.ok fd.toUInt32)) : k.files.get? fd = none := by
  cases turnover with
  | unchanged passing asks noShutdown same opened closed noFd => exact absurd told (noFd opens fd)
  | opened asks grants opened closed told' =>
    cases fd_eq_of_answers told told'
    exact grants.lowest.free
  | refused asks | closed asks =>
    rw [Request.closes?_of_opens opens] at asks
    cases asks
  | drained asks =>
    subst asks
    cases opens

/-- If closing a descriptor has the layer close a file, the descriptor named the file, and is free
afterwards.

The answer of the layer makes no difference: the descriptor is free before the layer is asked. -/
theorem named_of_closed (turnover : Turnover request k o) {raw : Int32} {file : φ}
    (closes : request.closes? = some raw) (given : file ∈ Event.filesClosed o.events) :
    Event.filesClosed o.events = [file] ∧ ∃ fd, Fd.ofInt32? raw = some fd ∧
      k.files.get? fd = some file ∧ o.state.files.get? fd = none := by
  -- A request that closes a given descriptor is refused or closes it; the other cases do not apply.
  cases turnover with
  | unchanged passing asks =>
    rw [asks] at closes
    cases closes
  | refused asks dead same silent =>
    rw [Event.filesClosed, silent] at given
    cases given
  | opened asks =>
    rw [Request.closes?_of_opens asks] at closes
    cases closes
  | @closed raw' fd file' asks releases opened closed =>
    cases asks.symm.trans closes
    rw [closed, List.mem_singleton] at given
    subst given
    refine ⟨closed, fd, releases.named, releases.live, ?_⟩
    rw [releases.view, FdMap.erase_self]
  | drained asks =>
    subst asks
    cases closes

/-- To close a free descriptor is refused, and the layer is not asked.

With `named_of_closed` this is the whole effect of a closing on the layer: it is asked if the
descriptor names a file, and not otherwise. -/
theorem refused_of_free (turnover : Turnover request k o) {raw : Int32}
    (closes : request.closes? = some raw) (isFd : Fd.ofInt32? raw = some fd)
    (free : k.files.get? fd = none) :
    o.Answers (.error Errno.ebadf.code) ∧ Event.fileCalls o.events = [] := by
  cases turnover with
  | unchanged passing asks =>
    rw [asks] at closes
    cases closes
  | refused asks dead same silent told => exact ⟨told, silent⟩
  | opened asks =>
    rw [Request.closes?_of_opens asks] at closes
    cases closes
  | closed asks releases =>
    cases asks.symm.trans closes
    cases isFd.symm.trans releases.named
    rw [releases.live] at free
    cases free
  | drained asks =>
    subst asks
    cases closes

/-- A descriptor that is given back is free afterwards, whether or not it named a file.

If it named a file afterwards, the request would have opened the file or kept it, and neither does a
request that frees. -/
theorem free_of_frees (turnover : Turnover request k o) (frees : request.Frees fd) :
    o.state.files.get? fd = none := by
  cases after : o.state.files.get? fd with
  | none => rfl
  | some file =>
    rcases turnover.named_cases after with ⟨opens, -, -⟩ | ⟨-, -, keeps⟩
    · -- A request that frees does not open.
      rcases frees with rfl | ⟨raw, closes, -⟩
      · cases opens
      · rw [Request.closes?_of_opens opens] at closes
        cases closes
    · -- A request that frees does not keep.
      exact absurd frees keeps

end Turnover

/-! ## Sessions -/

/-- One more exchange that does not touch the descriptor makes the stretch longer. -/
theorem Untouched.succ {exchanges : List (Kernel.Exchange μ ν φ)} {fd : Fd} {i j : Nat}
    (h : Untouched exchanges fd i j)
    (last : ∀ x, exchanges[j]? = some x → ¬ x.Opens fd ∧ ¬ x.Frees fd) :
    Untouched exchanges fd i (j + 1) := by
  intro between x after before at_between
  rcases Nat.lt_succ_iff_lt_or_eq.mp before with earlier | rfl
  · exact h between x after earlier at_between
  · exact last x at_between

namespace Kernel

variable [UserMemory μ] [FileLayer ν φ] {k : Kernel μ ν φ} {steps : List (Conditions × Request)}
  {i j : Nat} {fd : Fd}

/-- **What a descriptor names was opened with it**, and the descriptor was not touched since.

This is read backwards, from a name to the opening behind it. Other descriptors play no part, since
each request touches the given one or leaves it alone. -/
theorem opened_of_named (new : k.files = .empty) {file : φ}
    (named : (k.afterSession (steps.take j)).files.get? fd = some file) :
    ∃ i < j, ∃ x, (k.session steps)[i]? = some x ∧ x.Opens fd ∧
      Event.filesOpened x.outcome.events = [file] ∧ Untouched (k.session steps) fd i j := by
  have fits : k.files.Fits := new ▸ Table.fits_empty
  -- Induction on the number of exchanges made. The last one either handed out the descriptor, or
  -- left it as it was, and then the exchange that handed it out is an earlier one.
  induction j with
  | zero =>
    rw [List.take_zero] at named
    change k.files.get? fd = some file at named
    rw [new, Table.get?_empty] at named
    cases named
  | succ j ih =>
    cases at_j : (k.session steps)[j]? with
    | none =>
      -- The session is over before: nothing happens any more.
      have ended : steps.length ≤ j := by
        simpa using at_j
      rw [List.take_of_length_le (Nat.le_succ_of_le ended),
        ← List.take_of_length_le ended] at named
      obtain ⟨i, before, x, at_i, opens, opened, untouched⟩ := ih named
      refine ⟨i, Nat.lt_succ_of_lt before, x, at_i, opens, opened, untouched.succ ?_⟩
      intro y at_j'
      rw [at_j] at at_j'
      cases at_j'
    | some x =>
      -- One more exchange: it gave the descriptor its file, or the file was there before.
      obtain ⟨turnover, left⟩ := exchange_turnover fits at_j
      rw [left] at named
      rcases turnover.named_cases named with ⟨opens, told, opened⟩ | ⟨before, notOpened, notFreed⟩
      · refine ⟨j, Nat.lt_succ_self j, x, at_j, ⟨opens, told⟩, opened, ?_⟩
        intro between y after beforeNext
        omega
      · obtain ⟨i, earlier, y, at_i, opens, opened, untouched⟩ := ih before
        refine ⟨i, Nat.lt_succ_of_lt earlier, y, at_i, opens, opened, untouched.succ ?_⟩
        intro x' at_j'
        cases at_j.symm.trans at_j'
        exact ⟨notOpened, notFreed⟩

/-- **A free descriptor stays free** until an exchange hands it out.

Requests that fail, and closings of other descriptors, do not change that. -/
theorem unnamed_until_opened (fits : k.files.Fits) (order : i ≤ j)
    (free : (k.afterSession (steps.take i)).files.get? fd = none)
    (never : ∀ between x, i ≤ between → between < j → (k.session steps)[between]? = some x →
      ¬ x.Opens fd) :
    (k.afterSession (steps.take j)).files.get? fd = none := by
  -- Induction on the exchanges since the descriptor was found free.
  induction j, order using Nat.le_induction with
  | base => exact free
  | succ j order ih =>
    have before := ih fun between x after earlier =>
      never between x after (Nat.lt_succ_of_lt earlier)
    cases at_j : (k.session steps)[j]? with
    | none =>
      have ended : steps.length ≤ j := by
        simpa using at_j
      rwa [List.take_of_length_le (Nat.le_succ_of_le ended),
        ← List.take_of_length_le ended]
    | some x =>
      obtain ⟨turnover, left⟩ := exchange_turnover fits at_j
      rw [left]
      exact turnover.unnamed before (never j x order (Nat.lt_succ_self j) at_j)

/-- In a session, descriptors name the files that were opened with them.

Sessions are lists of exchanges, so "the last time" and "since" are positions in the list. -/
structure NamesFaithfully (k : Kernel μ ν φ) (steps : List (Conditions × Request)) : Prop where
  /-- When closing a descriptor has the layer close a file, the file was opened when the descriptor
  was last handed out, and the descriptor has not been touched since. -/
  closed_file : ∀ (j : Nat) (x : Exchange μ ν φ) (raw : Int32) (file : φ),
    (k.session steps)[j]? = some x → x.request.closes? = some raw →
    file ∈ Event.filesClosed x.outcome.events →
    Event.filesClosed x.outcome.events = [file] ∧
      ∃ fd, Fd.ofInt32? raw = some fd ∧ ∃ i < j, ∃ y, (k.session steps)[i]? = some y ∧
        y.Opens fd ∧ Event.filesOpened y.outcome.events = [file] ∧
        Untouched (k.session steps) fd i j
  /-- After a descriptor was given back, and until it is handed out again, to close it is refused,
  and the layer is not asked. -/
  closed_refused : ∀ (i j : Nat) (y x : Exchange μ ν φ) (raw : Int32) (fd : Fd), i < j →
    (k.session steps)[i]? = some y → y.Frees fd →
    (k.session steps)[j]? = some x → x.request.closes? = some raw → Fd.ofInt32? raw = some fd →
    (∀ between z, i < between → between < j → (k.session steps)[between]? = some z → ¬ z.Opens fd) →
    x.outcome.Answers (.error Errno.ebadf.code) ∧ Event.fileCalls x.outcome.events = []
  /-- A descriptor that is handed out names nothing before. -/
  opened_free : ∀ (j : Nat) (x : Exchange μ ν φ) (fd : Fd), (k.session steps)[j]? = some x →
    x.Opens fd → (k.afterSession (steps.take j)).files.get? fd = none

/-- **Descriptors name their files**: in every session with a new kernel, a descriptor names the
file of the opening that returned it, until it is given back.

The proof goes from the closing back to the opening. That the session begins with a new kernel is
what makes every name come from an opening. -/
theorem descriptors_name_their_files (memory : μ) (layer : ν)
    (steps : List (Conditions × Request)) :
    (initial memory layer : Kernel μ ν φ).NamesFaithfully steps where
  closed_file := by
    intro j x raw file at_j closes given
    obtain ⟨turnover, -⟩ := exchange_turnover Table.fits_empty at_j
    obtain ⟨one, fd, isFd, named, -⟩ := turnover.named_of_closed closes given
    exact ⟨one, fd, isFd, opened_of_named rfl named⟩
  closed_refused := by
    intro i j y x raw fd order at_i frees at_j closes isFd never
    obtain ⟨givenBack, left⟩ := exchange_turnover Table.fits_empty at_i
    -- From the exchange that gave it back on, the descriptor is free until the closing.
    have free := givenBack.free_of_frees frees
    rw [← left] at free
    obtain ⟨turnover, -⟩ := exchange_turnover Table.fits_empty at_j
    exact turnover.refused_of_free closes isFd
      (unnamed_until_opened Table.fits_empty order free never)
  opened_free := by
    rintro j x fd at_j ⟨opens, told⟩
    obtain ⟨turnover, -⟩ := exchange_turnover Table.fits_empty at_j
    exact turnover.free_of_opens opens told

/-- A program opens a file, closes it by a system call, and opens another one, which gets the same
descriptor: to close the descriptor now closes the second file. -/
theorem descriptors_name_their_files_reused :
    let start : Kernel RegionMemory FlatLayer Nat :=
      initial ⟨[⟨0x400FFE, [97, 0], false, none⟩]⟩ { FlatLayer.empty [] with names := [[97]] }
    let steps : List (Conditions × Request) :=
      [(⟨.off, .none⟩, .openFile ⟨0x400FFE⟩ ⟨0⟩ 0),
        (⟨.off, .none⟩, .dispatch { TrapFrame.zero with v0 := closeNumber, a0 := 3 }),
        (⟨.off, .none⟩, .openFile ⟨0x400FFE⟩ ⟨0⟩ 0), (⟨.off, .none⟩, .closeFile 3)]
    ∃ i < 3, ∃ y, (start.session steps)[i]? = some y ∧ y.Opens .first ∧
      Event.filesOpened y.outcome.events = [2] ∧ Untouched (start.session steps) .first i 3 := by
  intro start steps
  have at_3 : (start.session steps)[3]? = some _ := rfl
  obtain ⟨-, fd, isFd, opened⟩ := (descriptors_name_their_files _ _ steps).closed_file 3 _ 3 2 at_3
    (by decide +kernel) (by decide +kernel)
  cases isFd
  exact opened

end Kernel

end SyscallGate
