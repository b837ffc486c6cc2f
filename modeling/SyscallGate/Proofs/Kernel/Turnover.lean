import SyscallGate.Proofs.Kernel.Routing

/-!
# What a request does to the open files

Each request opens at most one file and, a shutdown apart, closes at most one. `Turnover` lists what
can happen to the table and to the file layer, together with what the program is told about it.

## Main definitions

- `Request.opens`, `Request.closes?`: the requests that come down to an opening or a closing.
- `Turnover`: the files that a request moves, case by case.

## Main results

- `Request.perform_turnover`: there are no other cases, provided that the table fits.
- `Request.perform_fits`: every request leaves a table that fits.
-/

namespace SyscallGate

variable {μ ν φ : Type}

namespace Request

/-- Whether a request comes down to opening a file.

A dispatch and a trap count by the direct call that they come down to, so most results need not tell
the ways of asking apart. -/
def opens (request : Request) : Bool :=
  match request.direct? with
  | some (.openFile ..) => true
  | _ => false

/-- The number of the descriptor that a request comes down to closing.

The number may be any number, in use or not. A request that opens has none. -/
def closes? (request : Request) : Option Int32 :=
  match request.direct? with
  | some (.closeFile raw) => some raw
  | _ => none

end Request

/-- The request is answered with a given word or error code.

It is how a program sees an answer, which is one word and the flag, whatever the request was. -/
def Outcome.Answers (o : Outcome (Kernel μ ν φ) (Event φ) Empty Reply)
    (answer : Except UInt32 UInt32) : Prop :=
  o.result.map Reply.answer = .ok answer

/-- What a request can do to the open files.

There are five cases, by what becomes of the table: it is the same, a closing is refused, a
descriptor is bound, a descriptor is unbound, or the table is emptied. Each of them says which files
the layer handed out and got back. -/
inductive Turnover (request : Request) (k : Kernel μ ν φ) :
    Outcome (Kernel μ ν φ) (Event φ) Empty Reply → Prop where
  /-- No file moves, except one that is opened and closed again within the request. -/
  | unchanged {o : Outcome (Kernel μ ν φ) (Event φ) Empty Reply} (passing : Option φ)
      (asks : request.closes? = none) (noShutdown : request ≠ .closeAll)
      (same : o.state.files = k.files) (opened : Event.filesOpened o.events = passing.toList)
      (closed : Event.filesClosed o.events = passing.toList)
      (noFd : request.opens = true → ∀ fd : Fd, ¬ o.Answers (.ok fd.toUInt32)) :
      Turnover request k o
  /-- A number that names no open file is to be closed: the layer is not asked. -/
  | refused {o : Outcome (Kernel μ ν φ) (Event φ) Empty Reply} {raw : Int32}
      (asks : request.closes? = some raw)
      (dead : ∀ fd, Fd.ofInt32? raw = some fd → k.files.get? fd = none)
      (same : o.state.files = k.files) (silent : Event.fileCalls o.events = [])
      (told : o.Answers (.error Errno.ebadf.code)) : Turnover request k o
  /-- A file is opened and gets the descriptor that the program is told. -/
  | opened {o : Outcome (Kernel μ ν φ) (Event φ) Empty Reply} {fd : Fd} {file : φ}
      (asks : request.opens = true) (grants : k.files.Grants fd file o.state.files)
      (opened : Event.filesOpened o.events = [file]) (closed : Event.filesClosed o.events = [])
      (told : o.Answers (.ok fd.toUInt32)) : Turnover request k o
  | closed {o : Outcome (Kernel μ ν φ) (Event φ) Empty Reply} {raw : Int32} {fd : Fd} {file : φ}
      (asks : request.closes? = some raw)
      (releases : k.files.Releases raw fd file o.state.files)
      (opened : Event.filesOpened o.events = []) (closed : Event.filesClosed o.events = [file]) :
      Turnover request k o
  | drained {o : Outcome (Kernel μ ν φ) (Event φ) Empty Reply} (asks : request = .closeAll)
      (empty : o.state.files = .empty) (opened : Event.filesOpened o.events = [])
      (closed : Event.filesClosed o.events = k.files.held) : Turnover request k o

namespace Request

variable {request direct : Request}

/-! ## The requests by what they ask for -/

/-- What opens does not close, since the two are told by different direct calls. -/
theorem closes?_of_opens (h : request.opens = true) : request.closes? = none := by
  unfold opens at h
  unfold closes?
  split at h
  case h_1 path flags mode asks => rw [asks]
  case h_2 => cases h

/-- The files that a request moves are those that its direct call moves.

Reports are the only difference between the two, and no case of a turnover speaks of reports. -/
theorem turnover_of_mirrors {k : Kernel μ ν φ}
    {o o' : Outcome (Kernel μ ν φ) (Event φ) Empty Reply} (asks : request.direct? = some direct)
    (mirrors : Mirrors o o') (turnover : Turnover direct k o) : Turnover request k o' := by
  have again := direct?_of_direct asks
  have sameOpens : request.opens = direct.opens := by
    simp only [opens, asks, again]
  have sameCloses : request.closes? = direct.closes? := by
    simp only [closes?, asks, again]
  have noShutdown : request ≠ .closeAll := by
    rintro rfl
    cases asks
  have files : o'.state.files = o.state.files := congrArg Kernel.files mirrors.state
  have opened : Event.filesOpened o'.events = Event.filesOpened o.events :=
    congrArg (List.filterMap FileCall.opened?) mirrors.files
  have closed : Event.filesClosed o'.events = Event.filesClosed o.events :=
    congrArg (List.filterMap FileCall.closed?) mirrors.files
  have answers {answer : Except UInt32 UInt32} : o'.Answers answer ↔ o.Answers answer := by
    unfold Outcome.Answers
    rw [mirrors.answer]
  -- All that a case speaks of is the same on both sides: requests, table, files and answer.
  cases turnover with
  | unchanged passing asked _ same openedOne closedOne noFd =>
    -- The requests ask for the same, so the same descriptor is told or none.
    refine .unchanged passing (sameCloses.trans asked) noShutdown (files.trans same)
      (opened.trans openedOne) (closed.trans closedOne) ?_
    intro opening fd told
    exact noFd (sameOpens ▸ opening) fd (answers.mp told)
  | refused asked dead same silent told =>
    exact .refused (sameCloses.trans asked) dead (files.trans same) (mirrors.files.trans silent)
      (answers.mpr told)
  | opened asked grants openedOne closedNone told =>
    exact .opened (sameOpens.trans asked) (files.symm ▸ grants) (opened.trans openedOne)
      (closed.trans closedNone) (answers.mpr told)
  | closed asked releases openedNone closedOne =>
    exact .closed (sameCloses.trans asked) (files.symm ▸ releases) (opened.trans openedNone)
      (closed.trans closedOne)
  | drained asked =>
    -- A shutdown is not a direct call.
    rw [asked] at again
    cases again

/-! ## The direct calls -/

variable [UserMemory μ] [FileLayer ν φ] {k : Kernel μ ν φ}

omit [UserMemory μ] [FileLayer ν φ] in
/-- An opening that fails has turned nothing over, except for one file in passing. -/
theorem openFile_unchanged {path : UserAddr} {flags : OpenFlags} {mode : UInt32} {halt : Halt Errno}
    {k' : Kernel μ ν φ} {events : List (Event φ)} (passing : Option φ) (same : k'.files = k.files)
    (opened : Event.filesOpened events = passing.toList)
    (closed : Event.filesClosed events = passing.toList) :
    Turnover (.openFile path flags mode) k
      ((⟨.error halt, k', events⟩ : Outcome _ _ Errno Fd).attempted.andThen fun answer =>
        pure (.opened answer)) := by
  -- Either way no descriptor is told: the answer is an error, or there is none.
  cases halt with
  | refused e =>
    refine .unchanged passing rfl (by rintro ⟨⟩) same ?_ ?_ ?_
    · simpa using opened
    · simpa using closed
    · rintro - fd ⟨⟩
  | panicked cause =>
    refine .unchanged passing rfl (by rintro ⟨⟩) same opened closed ?_
    rintro - fd ⟨⟩

/-- The turnover of an opening is where its file is afterwards. -/
theorem openFile_turnover (c : Conditions) (path : UserAddr) (flags : OpenFlags) (mode : UInt32)
    (fits : k.files.Fits) :
    Turnover (.openFile path flags mode) k ((openFile path flags mode).perform c k) := by
  have placement := (Kernel.opening c path flags mode k fits).placement
  simp only [perform, Action.bind_apply, Action.attempt_apply]
  generalize Kernel.openFile c path flags mode k = o at placement
  obtain ⟨result, k', events⟩ := o
  -- A file that is handed back is the one file in passing.
  cases placement with
  | noFile failed same opened closed =>
    cases failed
    exact openFile_unchanged none same opened closed
  | inTable file told grants _ opened closed =>
    cases told
    exact .opened rfl grants (by simpa using opened) (by simpa using closed) rfl
  | @handedBack file cause same _ back opened closed =>
    cases back.refused
    exact openFile_unchanged (some file) same opened closed

/-- A closing is refused, or it unbinds the descriptor that the number names. -/
theorem closeFile_turnover (c : Conditions) (raw : Int32) (fits : k.files.Fits) :
    Turnover (.closeFile raw) k ((closeFile raw).perform c k) := by
  have outcome := Kernel.closing c raw k fits
  simp only [perform, Action.bind_apply, Action.attempt_apply]
  generalize Kernel.closeFile c raw k = o at outcome
  cases outcome with
  | badDescriptor dead => exact .refused rfl dead rfl rfl rfl
  | @closed fd file files answer layer releases answered =>
    -- The table gave up the file, whatever the layer answers to it.
    cases answer with
    | ok done =>
      refine .closed rfl releases ?_ ?_
      · simp [Event.filesOpened, FileCall.opened?, Kernel.reported]
      · simp [Event.filesClosed, FileCall.closed?, Kernel.reported]
    | error e =>
      refine .closed rfl releases ?_ ?_
      · simp [Event.filesOpened, FileCall.opened?]
      · simp [Event.filesClosed, FileCall.closed?]

omit [UserMemory μ] [FileLayer ν φ] in
/-- A request that uses neither the table nor a file leaves everything as it is. -/
theorem currentDirectory_unchanged {dst : UserAddr} {room : Nat} {result : Except (Halt Errno) Nat}
    {k' : Kernel μ ν φ} {events : List (Event φ)} (same : k'.files = k.files)
    (opened : Event.filesOpened events = []) (closed : Event.filesClosed events = []) :
    Turnover (.currentDirectory dst room) k
      ((⟨result, k', events⟩ : Outcome _ _ Errno Nat).attempted.andThen fun answer =>
        pure (.located answer)) := by
  -- The ending of the call does not show in its state and its events.
  obtain ⟨result', ended⟩ : ∃ result',
      (⟨result, k', events⟩ : Outcome _ _ Errno Nat).attempted.andThen (fun answer =>
        (pure (.located answer) : Action (Kernel μ ν φ) (Event φ) Empty Reply)) =
        ⟨result', k', events⟩ := by
    rcases result with (e | cause) | count
    · exact ⟨_, by simp; rfl⟩
    · exact ⟨_, rfl⟩
    · exact ⟨_, by simp; rfl⟩
  rw [ended]
  refine .unchanged none rfl (by rintro ⟨⟩) same opened closed ?_
  rintro ⟨⟩

/-- To tell the working directory, the layer is asked for no file. -/
theorem currentDirectory_turnover (c : Conditions) (dst : UserAddr) (room : Nat) :
    Turnover (.currentDirectory dst room) k ((currentDirectory dst room).perform c k) := by
  have outcome := Kernel.locating c dst room k
  simp only [perform, Action.bind_apply, Action.attempt_apply]
  generalize Kernel.currentDirectory c dst room k = o at outcome
  cases outcome with
  | noBuffer short => exact currentDirectory_unchanged rfl rfl rfl
  | lookupFailed enough answer =>
    refine currentDirectory_unchanged rfl ?_ ?_
    · simp [Event.filesOpened, FileCall.opened?]
    · simp [Event.filesClosed, FileCall.closed?]
  | located enough answer copy =>
    refine currentDirectory_unchanged rfl ?_ ?_
    · simp [Event.filesOpened, FileCall.opened?]
    · simp [Event.filesClosed, FileCall.closed?]

/-- A shutdown empties the table and hands every file back. -/
theorem closeAll_turnover (c : Conditions) (fits : k.files.Fits) :
    Turnover .closeAll k (closeAll.perform c k) := by
  obtain ⟨layer, events, closedAll, -, noneOpened, allClosed⟩ := Kernel.closeAll_cases c k fits
  simp only [perform, Action.bind_apply, closedAll, Outcome.andThen_ok, Action.pure_apply,
    Outcome.after_mk, List.append_nil]
  exact .drained rfl rfl noneOpened allClosed

/-! ## All requests -/

/-- **What a request does to the open files**, whatever memory and file layer answer.

This is what results about sessions rest on: they never look at a call again, but only at these five
cases. -/
theorem perform_turnover (c : Conditions) (request : Request) (fits : k.files.Fits) :
    Turnover request k (request.perform c k) := by
  -- Requests that come down to a call are settled by the call; a shutdown stands alone, and all
  -- others are idle.
  cases asks : request.direct? with
  | none =>
    -- The request comes down to no call: a shutdown, or nothing at all.
    by_cases shutdown : request = .closeAll
    · subst shutdown
      exact closeAll_turnover c fits
    · have idle := perform_idle c asks shutdown k
      refine .unchanged none ?_ shutdown (congrArg Kernel.files idle.state) ?_ ?_ ?_
      · simp only [closes?, asks]
      · simp [Event.filesOpened, idle.files]
      · simp [Event.filesClosed, idle.files]
      · simp [opens, asks]
  | some direct =>
    have mirrors := perform_mirrors c asks k
    refine turnover_of_mirrors asks mirrors ?_
    rcases direct?_cases asks with ⟨path, flags, mode, rfl⟩ | ⟨raw, rfl⟩ | ⟨dst, room, rfl⟩
    · exact openFile_turnover c path flags mode fits
    · exact closeFile_turnover c raw fits
    · exact currentDirectory_turnover c dst room

/-- Every request leaves a table that fits.

It is what every other result about requests asks of the table. -/
theorem perform_fits (c : Conditions) (request : Request) (fits : k.files.Fits) :
    (request.perform c k).state.files.Fits := by
  have turnover := request.perform_turnover c fits
  generalize request.perform c k = o at turnover
  cases turnover with
  | unchanged _ _ _ same | refused _ _ same => exact same ▸ fits
  | opened _ grants => exact grants.fits
  | closed _ releases => exact releases.fits
  | drained _ empty => exact empty ▸ Table.fits_empty

end Request

namespace Kernel

variable [UserMemory μ] [FileLayer ν φ] {k : Kernel μ ν φ}

/-- Every session leaves a table that fits.

A new kernel has a table that fits, so this holds of every kernel that a session reaches. -/
theorem afterSession_fits (fits : k.files.Fits) (steps : List (Conditions × Request)) :
    (k.afterSession steps).files.Fits :=
  Service.after_induction (fun k : Kernel μ ν φ => k.files.Fits)
    (fun c request _ fits => request.perform_fits c fits) fits steps

/-- An exchange of a session is a turnover of the kernel that the requests before it left.

The invariant has to hold at the beginning only, since requests keep it. -/
theorem exchange_turnover (fits : k.files.Fits) {steps : List (Conditions × Request)} {j : Nat}
    {x : Kernel.Exchange μ ν φ} (at_j : (k.session steps)[j]? = some x) :
    Turnover x.request (k.afterSession (steps.take j)) x.outcome ∧
      k.afterSession (steps.take (j + 1)) = x.outcome.state := by
  obtain ⟨answered, left⟩ := Service.outcome_of_getElem? at_j
  refine ⟨?_, left⟩
  rw [answered]
  exact x.request.perform_turnover x.conditions (afterSession_fits fits _)

end Kernel

end SyscallGate
