import SyscallGate.Files.FlatLayer
import SyscallGate.Memory.Regions
import SyscallGate.Proofs.Kernel.Logging
import SyscallGate.Proofs.Kernel.Turnover

/-!
# Shutting down

A shutdown does what closing every descriptor in use does, one after the other and the lowest first:
the file layer is asked to close the same files in the same order, however often it fails, and no
descriptor is in use afterwards. The kernel that remains is a new one, so its next descriptors are
the first ones again.

## Main definitions

- `Kernel.ClosedFile.request`: the request that closes one file.
- `Kernel.NothingOpen`: the answers of a kernel in which no descriptor is in use.

## Main results

- `Kernel.ClosesEach.singly`: the effects of closing descriptors one after the other.
- `Kernel.session_descriptors`: which descriptors a session of openings hands out.
- `Kernel.closeAll_agrees`: a shutdown agrees with closing every descriptor.
-/

namespace SyscallGate

variable {μ ν φ : Type}

/-! ## Descriptors as arguments -/

namespace Fd

/-- The descriptor as an argument of a call.

A program passes it as a signed number. It is at most 127, so no sign gets lost on the way. -/
def toInt32 (fd : Fd) : Int32 := fd.toUInt32.toInt32

theorem ofInt32?_toInt32 (fd : Fd) : ofInt32? fd.toInt32 = some fd := by
  have upper := fd.upper
  rw [ofInt32?_eq_some_iff, toInt32, toInt_toInt32, toNat_toUInt32, if_pos (by omega)]

end Fd

/-! ## Closing descriptors one after the other -/

namespace Kernel

namespace ClosedFile

/-- The request that closes the file. -/
def request (x : ClosedFile φ) : Request := .closeFile x.fd.toInt32

/-- The line about the file in the log of a shutdown, if it did not close in good order. -/
def line? (x : ClosedFile φ) : Option Log.Record :=
  match x.answer with
  | .ok _ => none
  | .error e => some ⟨.warn, Log.Target.kernel.path,
      "syscall: releasing fd " ++ x.fd.text ++ " failed: " ++ e.describe⟩

end ClosedFile

/-- A shutdown logs a line for each file that did not close in good order, and no other line.

These are the lines of a log that records warnings at least; at any other level a shutdown logs
nothing. -/
theorem records_atShutdown {c : Conditions} (admitted : c.log.admits .warn = true)
    (closed : List (ClosedFile φ)) :
    (closed.flatMap (ClosedFile.atShutdown c)).filterMap Event.record? =
      closed.filterMap ClosedFile.line? := by
  induction closed with
  | nil => rfl
  | cons x later ih =>
    rw [List.flatMap_cons, List.filterMap_append, ih]
    rcases x with ⟨fd, file, e | done⟩
    · -- A failed closing is reported as a warning, and warnings are recorded.
      have shown : c.log.admits (Notice.shutdownFailed fd e).level = true := admitted
      simp only [ClosedFile.atShutdown, reported, noted, if_pos shown]
      rfl
    · rfl

variable [UserMemory μ] [FileLayer ν φ]

theorem perform_closeFile (c : Conditions) (raw : Int32) (k : Kernel μ ν φ) :
    ((Request.closeFile raw).perform c k).state = (closeFile c raw k).state ∧
      ((Request.closeFile raw).perform c k).events = (closeFile c raw k).events := by
  simp only [Request.perform, Action.bind_apply, Action.attempt_apply]
  rw [Action.andThen_pure]
  exact ⟨Outcome.attempted_state _, Outcome.attempted_events _⟩

/-- Closing a descriptor in use takes its binding away and asks the layer once.

The descriptor is passed as a number and read back from it. The request makes the direct call and
turns its ending into a reply, so `Kernel.closing` says what it does. -/
theorem perform_request (c : Conditions) {k : Kernel μ ν φ} (fits : k.files.Fits)
    {x : ClosedFile φ} {next : ν} (live : k.files.get? x.fd = some x.file)
    (answered : FileLayer.closeFile x.file k.layer = (x.answer, next)) :
    ∃ files : Table φ, files.Fits ∧ files.get? = FdMap.erase k.files.get? x.fd ∧
      (x.request.perform c k).state = ⟨k.memory, next, files⟩ ∧
      Event.fileCalls (x.request.perform c k).events = [x.call] := by
  have named := x.fd.ofInt32?_toInt32
  have outcome := closing c x.fd.toInt32 k fits
  obtain ⟨state, events⟩ := perform_closeFile c x.fd.toInt32 k
  rw [ClosedFile.request, state, events]
  generalize closeFile c x.fd.toInt32 k = o at outcome
  cases outcome with
  -- The number names the descriptor, and the descriptor is in use.
  | badDescriptor dead => cases live.symm.trans (dead x.fd named)
  | @closed fd file files answer layer releases answered' =>
    -- The outcome speaks of a descriptor, a file and an answer of its own, which are these.
    cases named.symm.trans releases.named
    cases live.symm.trans releases.live
    cases answered.symm.trans answered'
    exact ⟨files, releases.fits, releases.view, rfl, by simp [ClosedFile.call]⟩

/-- **Closing descriptors one after the other**: if these are the descriptors in use, lowest first,
the layer is asked to close each of their files, and no descriptor is in use afterwards.

A shutdown takes the table away first and then goes through the files. Here the table loses one
descriptor at a time, and it is the list of what is in use that shows which one is next. -/
theorem ClosesEach.singly {k : Kernel μ ν φ} {final : ν} {closed : List (ClosedFile φ)}
    (each : ClosesEach k.layer closed final) {singly : List (Conditions × Request)}
    (asks : singly.map (·.2) = closed.map ClosedFile.request) (fits : k.files.Fits)
    (lists : FdMap.Lists k.files.get? (closed.map ClosedFile.entry)) :
    Event.fileCalls (k.history singly) = closed.map ClosedFile.call ∧
      (k.afterSession singly).memory = k.memory ∧ (k.afterSession singly).layer = final ∧
      (k.afterSession singly).files.get? = FdMap.empty := by
  -- Induction on the files that are left. The first one is that of the lowest descriptor in use.
  generalize start : k.layer = layer at each
  induction each generalizing k singly with
  | nil layer =>
    -- Nothing is in use, so there is nothing to ask for.
    obtain rfl : singly = [] := List.map_eq_nil_iff.mp asks
    exact ⟨rfl, rfl, start, lists.eq_empty⟩
  | @cons layer next final x later answered rest ih =>
    -- The conditions of each request are its own, so the requests are told from the files only.
    obtain ⟨⟨c, request⟩, others, rfl, rfl, asksRest⟩ := List.map_eq_cons_iff.mp asks
    have live := (lists.mem_iff x.fd x.file).mp List.mem_cons_self
    obtain ⟨files, fitsAfter, view, state, calls⟩ :=
      perform_request c fits live (start ▸ answered)
    -- The layer and the table have moved on together; the list has lost its head.
    have fewer : FdMap.Lists files.get? (later.map ClosedFile.entry) := view ▸ lists.erase_head
    have others := @ih ⟨k.memory, next, files⟩ others asksRest fitsAfter fewer rfl
    rw [afterSession, Service.after, history, Service.history_cons, state, Event.fileCalls_append,
      calls, others.1]
    exact ⟨rfl, others.2⟩

/-! ## Descriptors in ascending order -/

/-- The descriptor that an exchange tells the program, if it tells one.

The answer of a call is one word. It is a descriptor if it is one of the numbers that name one, so
other answers, such as the length of a path, can look like descriptors too. Among openings there are
none of these. -/
def Exchange.descriptor? (x : Exchange μ ν φ) : Option Fd :=
  match x.outcome.result.map Reply.answer with
  | .ok (.ok w) => Fd.ofNat? w.toNat
  | _ => none

omit [UserMemory μ] [FileLayer ν φ] in
theorem Exchange.descriptor?_eq_some_iff {x : Exchange μ ν φ} {fd : Fd} :
    x.descriptor? = some fd ↔ x.outcome.Answers (.ok fd.toUInt32) := by
  unfold descriptor? Outcome.Answers
  -- A word names a descriptor exactly if it is the number of the descriptor.
  split
  case h_1 w told =>
    rw [told, Fd.ofNat?_eq_some_iff, Except.ok.injEq, Except.ok.injEq, ← UInt32.toNat_inj,
      fd.toNat_toUInt32]
    exact eq_comm
  case h_2 other => exact ⟨nofun, fun told => absurd told (other _)⟩

omit [UserMemory μ] [FileLayer ν φ] in
/-- A request that opens tells the next descriptor, or it leaves the table as it is.

What an opening does to the table is one of the cases of `Turnover`. Those in which a descriptor is
taken back cannot be the case of an opening. -/
theorem descriptor?_of_turnover {k : Kernel μ ν φ} {x : Exchange μ ν φ} {n : Nat}
    (turnover : Turnover x.request k x.outcome) (opens : x.request.opens = true)
    (first : FdMap.FirstBound k.files.get? n) :
    (x.descriptor? = none ∧ x.outcome.state.files = k.files) ∨
      ∃ fd, x.descriptor? = some fd ∧ fd.number = 3 + n ∧
        FdMap.FirstBound x.outcome.state.files.get? (n + 1) := by
  have noClosing := Request.closes?_of_opens opens
  generalize asked : x.request = request, ended : x.outcome = o at turnover
  cases turnover with
  -- No file came into the table, so no descriptor is told.
  | unchanged passing asks _ same _ _ noFd =>
    refine .inl ⟨Option.eq_none_iff_forall_ne_some.mpr fun fd told => ?_, same⟩
    exact noFd (asked ▸ opens) fd (ended ▸ Exchange.descriptor?_eq_some_iff.mp told)
  -- The lowest free descriptor is the one behind the first `n`.
  | @opened fd file asks grants _ _ told =>
    refine .inr ⟨fd, Exchange.descriptor?_eq_some_iff.mpr (ended ▸ told),
      first.number_eq grants.lowest, ?_⟩
    rw [grants.view]
    exact first.insert grants.lowest
  -- The table changes otherwise by closing only, and by a shutdown.
  | refused asks | closed asks => cases (asked ▸ noClosing).symm.trans asks
  | drained asks =>
    rw [asked, asks] at opens
    cases opens

/-- **The descriptors that a session of openings hands out** are the next ones, in ascending order,
and the ones in use are the first ones all the time.

An opening that fails, for whatever reason, tells nothing and leaves the next number to the one
after it. So the numbers have no gaps. -/
theorem session_descriptors {k : Kernel μ ν φ} {n : Nat} (fits : k.files.Fits)
    (first : FdMap.FirstBound k.files.get? n) (opening : List (Conditions × Request))
    (only : ∀ step ∈ opening, step.2.opens = true) :
    let told := (k.session opening).filterMap Exchange.descriptor?
    told.map Fd.number = List.range' (3 + n) told.length ∧
      FdMap.FirstBound (k.afterSession opening).files.get? (n + told.length) := by
  -- Induction on the requests; each tells the next descriptor, or it changes nothing.
  induction opening generalizing k n with
  | nil => exact ⟨rfl, first⟩
  | cons step rest ih =>
    obtain ⟨c, request⟩ := step
    obtain ⟨opens, onlyRest⟩ := List.forall_mem_cons.mp only
    -- What the first request turns over decides whether it is counted.
    let x : Exchange μ ν φ := ⟨c, request, request.perform c k⟩
    have turnover : Turnover x.request k x.outcome := request.perform_turnover c fits
    have fitsAfter := request.perform_fits c fits
    rw [session, Service.session, afterSession, Service.after]
    rcases descriptor?_of_turnover turnover opens first with
      ⟨untold, same⟩ | ⟨fd, tells, number, firstAfter⟩
    · -- The first request tells nothing, and the table is as it was.
      rw [List.filterMap_cons_none untold]
      exact ih fitsAfter (same ▸ first) onlyRest
    · -- The first request tells number `3 + n`, and the others go on from the next one.
      obtain ⟨ascending, firstLater⟩ := ih fitsAfter firstAfter onlyRest
      rw [List.filterMap_cons_some tells]
      refine ⟨?_, ?_⟩
      · rw [List.map_cons, List.length_cons, List.range'_succ, number, ascending]
        rfl
      · rw [List.length_cons, Nat.add_comm _ 1, ← Nat.add_assoc]
        exact firstLater

/-- An opening that tells a descriptor tells the next one, and if the layer opens a file, there is
one to tell, unless slots are short or all descriptors are in use.

The layer may refuse the file, or the name may. That is why the second part asks for a file that was
opened, and not for a request of a certain kind. -/
theorem openFile_next {k : Kernel μ ν φ} {n : Nat} (fits : k.files.Fits)
    (first : FdMap.FirstBound k.files.get? n) (c : Conditions) (path : UserAddr) (flags : OpenFlags)
    (mode : UInt32) :
    let o := openFile c path flags mode k
    (∀ fd, o.result = .ok fd → fd.number = 3 + n) ∧
      (Event.filesOpened o.events ≠ [] → c.shortage.slots = false → n < Fd.slotCount →
        ∃ fd, o.result = .ok fd) := by
  intro o
  -- Where the file that the layer opened went, if there is one.
  have placed := (opening c path flags mode k fits).placement
  cases placed with
  | noFile failed _ opened =>
    -- The call failed before there was a file.
    refine ⟨fun fd told => ?_, fun someFile => absurd opened someFile⟩
    cases failed.symm.trans told
  | inTable file told grants =>
    -- The file is in the table, under the lowest free descriptor.
    refine ⟨fun fd told' => ?_, fun _ _ _ => ⟨_, told⟩⟩
    cases told.symm.trans told'
    exact first.number_eq grants.lowest
  | handedBack _ lacks back =>
    -- The table refused the file. With enough storage, and a descriptor to spare, it has no reason
    -- to.
    refine ⟨fun fd told => ?_, fun _ enough few => ?_⟩
    · cases back.refused.symm.trans told
    · cases lacks.refuses with
      | exhausted full => exact absurd full (first.not_full few)
      | outOfMemory _ short => cases short.symm.trans enough

/-! ## The shutdown -/

/-- The answers of a kernel in which no descriptor is in use.

The table behind it is empty, with its storage given up. Nothing in these answers depends on the
memory or on the layer, nor on what the kernel did before. -/
structure NothingOpen (k : Kernel μ ν φ) : Prop where
  shutdown (c : Conditions) : closeAll c k = ⟨.ok 0, k, []⟩
  closing (c : Conditions) (raw : Int32) : closeFile c raw k = ⟨.error (.refused .ebadf), k, []⟩
  /-- Openings, made in whatever way, tell the descriptors from the first one on. -/
  ascending (opening : List (Conditions × Request))
    (only : ∀ step ∈ opening, step.2.opens = true) :
    let told := (k.session opening).filterMap Exchange.descriptor?
    told.map Fd.number = List.range' 3 told.length
  /-- So does another opening after them, and it fails for want of a descriptor only if slots are
  short or all descriptors are in use. -/
  next (opening : List (Conditions × Request)) (only : ∀ step ∈ opening, step.2.opens = true)
    (c : Conditions) (path : UserAddr) (flags : OpenFlags) (mode : UInt32) :
    let told := (k.session opening).filterMap Exchange.descriptor?
    let o := openFile c path flags mode (k.afterSession opening)
    (∀ fd, o.result = .ok fd → fd.number = 3 + told.length) ∧
      (Event.filesOpened o.events ≠ [] → c.shortage.slots = false → told.length < Fd.slotCount →
        ∃ fd, o.result = .ok fd)

theorem initial_nothingOpen (memory : μ) (layer : ν) :
    NothingOpen (initial memory layer : Kernel μ ν φ) := by
  have fits : (initial memory layer : Kernel μ ν φ).files.Fits := Table.fits_empty
  have first : FdMap.FirstBound (initial memory layer : Kernel μ ν φ).files.get? 0 :=
    FdMap.firstBound_empty
  -- A shutdown of an empty table runs through no file at all.
  refine ⟨fun c => rfl, ?_, ?_, ?_⟩
  · intro c raw
    have outcome := Kernel.closing c raw (initial memory layer) fits
    generalize closeFile c raw (initial memory layer) = o at outcome
    -- No descriptor is in use, so every number is refused.
    cases outcome with
    | badDescriptor => rfl
    | closed releases => cases releases.live
  · intro opening only
    exact (session_descriptors fits first opening only).1
  · -- The openings before leave the first descriptors in use; the next one goes behind them.
    intro opening only c path flags mode told
    have later := (session_descriptors fits first opening only).2
    rw [Nat.zero_add] at later
    exact openFile_next (afterSession_fits fits opening) later c path flags mode

/-- **A shutdown agrees with closing every descriptor**, in any state that a session with a new
kernel reaches: it returns how many descriptors are in use, and the layer is asked to close the same
files in the same order, whatever it answers. The kernel that it leaves is a new one. Its warnings
are one line for each file that did not close in good order. -/
theorem closeAll_agrees (memory : μ) (layer : ν) (steps : List (Conditions × Request))
    (c : Conditions) :
    let k : Kernel μ ν φ := (initial memory layer).afterSession steps
    let shutdown := closeAll c k
    (∃ (closed : List (ClosedFile φ)) (final : ν),
      FdMap.Lists k.files.get? (closed.map ClosedFile.entry) ∧
      ClosesEach k.layer closed final ∧
      shutdown.result = .ok closed.length ∧ shutdown.state = initial k.memory final ∧
      Event.fileCalls shutdown.events = closed.map ClosedFile.call ∧
      (c.log.admits .warn = true →
        shutdown.events.filterMap Event.record? = closed.filterMap ClosedFile.line?) ∧
      ∀ singly : List (Conditions × Request),
        singly.map (·.2) = closed.map ClosedFile.request →
        Event.fileCalls (k.history singly) = Event.fileCalls shutdown.events ∧
          (k.afterSession singly).memory = shutdown.state.memory ∧
          (k.afterSession singly).layer = shutdown.state.layer ∧
          (k.afterSession singly).files.get? = shutdown.state.files.get?) ∧
    NothingOpen shutdown.state := by
  intro k shutdown
  have fits : k.files.Fits := afterSession_fits Table.fits_empty steps
  obtain ⟨closed, final, lists, -, each, ended⟩ := closeAll_eq c k fits
  have state : shutdown.state = initial k.memory final := congrArg Outcome.state ended
  have events : shutdown.events = closed.flatMap (ClosedFile.atShutdown c) :=
    congrArg Outcome.events ended
  have calls : Event.fileCalls shutdown.events = closed.map ClosedFile.call := by
    rw [events, fileCalls_atShutdown]
  refine ⟨⟨closed, final, lists, each, congrArg Outcome.result ended, state, calls, ?_, ?_⟩, ?_⟩
  · -- The lines of the log are those of the failed closings.
    intro admitted
    rw [events, records_atShutdown admitted]
  · -- One after the other, the requests make the same uses of the layer.
    intro singly asks
    rw [calls, state]
    exact each.singly asks fits lists
  · -- What is left is a new kernel, whatever the layer has become.
    rw [state]
    exact initial_nothingOpen k.memory final

/-- Of three files, the second one is closed. At the shutdown the layer fails twice, and there is a
line for each of descriptors 3 and 5. Closing these two makes the same uses of the layer. The next
file that is opened gets descriptor 3. -/
theorem closeAll_agrees_around_hole :
    let start : Kernel RegionMemory FlatLayer Nat :=
      initial ⟨[⟨0x400FFE, [97, 0], false, none⟩]⟩
        { FlatLayer.empty [] with names := [[97]], closeFault := some .ebusy }
    let c : Conditions := ⟨.upTo .warn, .none⟩
    let opening : Conditions × Request := (c, .openFile ⟨0x400FFE⟩ ⟨0⟩ 0)
    let k := start.afterSession [opening, opening, opening, (c, .closeFile 4)]
    let shutdown := closeAll c k
    let again := openFile c ⟨0x400FFE⟩ ⟨0⟩ 0 shutdown.state
    shutdown.result = .ok 2 ∧
      ((shutdown.events.filterMap Event.record?).map fun line => line.text) =
        ["syscall: releasing fd 3 failed: Device or resource busy (27)",
          "syscall: releasing fd 5 failed: Device or resource busy (27)"] ∧
      Event.fileCalls (k.history [(c, .closeFile 3), (c, .closeFile 5)]) =
        Event.fileCalls shutdown.events ∧
      closeAll c shutdown.state = ⟨.ok 0, shutdown.state, []⟩ ∧
      ∃ fd, again.result = .ok fd ∧ fd.number = 3 := by
  intro start c opening k shutdown again
  -- The theorem speaks of a list of closed files; what is in use, computed, tells which ones.
  obtain ⟨⟨closed, final, lists, -, result, -, -, -, agrees⟩, nothingOpen⟩ :=
    closeAll_agrees start.memory start.layer [opening, opening, opening, (c, .closeFile 4)] c
  have fits : k.files.Fits := afterSession_fits Table.fits_empty _
  obtain ⟨live, named, listsLive, -⟩ := Table.entries_eq fits
  have entries : k.files.entries =
      .ok [(⟨3, by decide, by decide⟩, 1), (⟨5, by decide, by decide⟩, 3)] := by
    decide +kernel
  -- Both lists name what is in use, in ascending order, so they are the same.
  cases named.symm.trans entries
  have same := lists.unique listsLive
  have asks : [Request.closeFile 3, .closeFile 5] = closed.map ClosedFile.request := by
    have requests := congrArg (List.map fun entry => Request.closeFile entry.1.toInt32) same
    rw [List.map_map] at requests
    exact requests.symm
  have two : closed.length = 2 := by simpa using congrArg List.length same
  obtain ⟨tells, succeeds⟩ := nothingOpen.next [] (List.forall_mem_nil _) c ⟨0x400FFE⟩ ⟨0⟩ 0
  obtain ⟨fd, told⟩ := succeeds (by decide +kernel) rfl (by decide)
  exact ⟨two ▸ result, by decide +kernel, (agrees [(c, .closeFile 3), (c, .closeFile 5)] asks).1,
    nothingOpen.shutdown c, fd, told, tells fd told⟩

end Kernel

end SyscallGate
