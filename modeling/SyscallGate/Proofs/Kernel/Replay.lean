import SyscallGate.Files.FlatLayer
import SyscallGate.Memory.Regions
import SyscallGate.Proofs.Kernel.Records

/-!
# Replaying the records of a kernel

At the level of traces the log of a kernel tells which descriptors are in use: a reader who picks
out the records of the descriptor table knows them after every request, whatever the requests are
and whatever fails. Only a shutdown is silent. The same holds of a table on its own, where only a
drain is silent.

## Main results

- `Table.Request.perform_tells`, `Request.perform_tells`: one request tells its change.
- `Kernel.descriptors_replayed`: the records of a session can be replayed after every request.
-/

namespace SyscallGate

variable {μ ν φ : Type}

/-! ## Requests to a table -/

namespace Table

variable {t : Table φ}

/-- Every change of a table has a record of the table, so a reader of these records misses none. -/
theorem recordsOf_filterMap_record? (changes : List Notice) :
    recordsOf (changes.filterMap Notice.record?) = changes.map Notice.record := by
  show recordsOf (changes.filterMap fun change => some change.record) = _
  rw [List.filterMap_eq_map', recordsOf_map_record]

/-- **A request to a table tells its change**, unless it is a drain.

The change is the one that the view undergoes: a binding is added or taken away, or nothing happens.
A request that is refused, or that only looks at the table, tells nothing. -/
theorem Request.perform_tells {c : Conditions} (detailed : c.log = .upTo .trace)
    {request : Request φ} (noDrain : request ≠ .drain) (fits : t.Fits) :
    Service.TellsChanges Notice.record? id t (request.perform c t) := by
  cases request with
  | allocate file =>
    have outcome := allocates c file fits
    simp only [perform, Action.bind_apply, Action.attempt_apply]
    generalize Table.allocate c file t = o at outcome
    cases outcome with
    | @granted fd after grants =>
      -- The lowest free descriptor came into use, and this is what is recorded.
      have changed := FdMap.Changes.allocated file grants.lowest.free
      rw [← grants.view] at changed
      refine ⟨_, changed, ?_⟩
      rw [noted_of_trace detailed]
      exact recordsOf_filterMap_record? [.allocated fd]
    -- Nothing is recorded of a refusal.
    | refused lacks => exact ⟨[], .unchanged, rfl⟩
  | deallocate raw =>
    have outcome := deallocates c raw fits
    simp only [perform, Action.bind_apply, Action.attempt_apply]
    generalize Table.deallocate c raw t = o at outcome
    cases outcome with
    | @released fd file after releases =>
      -- The descriptor went out of use, and this is what is recorded.
      have changed := FdMap.Changes.released (Option.isSome_of_eq_some releases.live)
      rw [← releases.view] at changed
      refine ⟨_, changed, ?_⟩
      rw [noted_of_trace detailed]
      exact recordsOf_filterMap_record? [.released fd]
    -- A number that names nothing is refused without a record.
    | refused dead => exact ⟨[], .unchanged, rfl⟩
  | contains | liveCount | isEmpty => exact ⟨[], .unchanged, rfl⟩
  | drain => exact absurd rfl noDrain
  | labelled =>
    -- A text is made of the table, or cannot be made; the table stays.
    simp only [perform, Action.bind_apply, Action.read_apply, Outcome.andThen_ok]
    cases t.labelled <;> exact ⟨[], .unchanged, rfl⟩
  | labelledLines =>
    simp only [perform, Action.bind_apply, Action.read_apply, Outcome.andThen_ok]
    cases t.labelledLines <;> exact ⟨[], .unchanged, rfl⟩

end Table

/-! ## Requests to a kernel -/

/-- A reader of the records of the table is after nothing that the calls report.

The reports of the calls and of the dispatcher have other targets. -/
theorem passesOver_ofTable : PassesOver Log.Record.ofTable where
  parts _ notTable _ := decide_eq_false fun same => notTable (Log.Target.path_injective same)
  unknown _ := rfl

variable {k : Kernel μ ν φ}

open Kernel

/-- What a reader of the table sees of changes are the records of the changes.

The events of a request may be more than those of its call, as long as the reader sees the same in
both. -/
theorem Kernel.ShowsChanges.tells {o : Outcome (Kernel μ ν φ) (Event φ) Empty Reply}
    {inner : List (Event φ)} (shows : ShowsChanges k.files o.state.files inner)
    (same : Event.picked Log.Record.ofTable o.events = Event.picked Log.Record.ofTable inner) :
    Service.TellsChanges Event.record? files k o := by
  obtain ⟨changes, changed, shown⟩ := shows
  refine ⟨changes, changed, ?_⟩
  rw [← Table.recordsOf_map_record]
  exact same.trans (shown _ passesOver_ofTable)

variable [UserMemory μ] [FileLayer ν φ]

/-- **A request to a kernel tells its change** of the table, unless it is a shutdown.

A request by a direct call shows its change at once. A request by a frame shows what the dispatch
shows between its two reports. -/
theorem Request.perform_tells {c : Conditions} (detailed : c.log = .upTo .trace)
    {request : Request} (noShutdown : request ≠ .closeAll) (fits : k.files.Fits) :
    Service.TellsChanges Event.record? files k (request.perform c k) := by
  rcases request.calls_cases with noCall | ⟨frame, asks⟩
  · exact (perform_shows detailed noCall noShutdown fits).tells rfl
  · obtain ⟨answer, inner, bracketed⟩ := dispatch_bracketed detailed frame fits
    have asked : frame ∈ request.calls := asks ▸ List.mem_singleton_self frame
    rw [perform_of_mem_calls asked]
    refine bracketed.shows.tells ?_
    -- The reports on the beginning and the end of the call are none of the table.
    have entry : (Kernel.entry frame).record.ofTable = false := rfl
    have exit : (Kernel.exit frame answer).record.ofTable = false := rfl
    simp [bracketed.events, entry, exit]

/-- A shutdown is silent.

The table is emptied and nothing tells of it, so whoever replays records has to begin anew. -/
theorem Request.perform_closeAll_emptiesSilently (c : Conditions) (fits : k.files.Fits) :
    Service.EmptiesSilently Event.record? files (closeAll.perform c k) := by
  obtain ⟨empty, silent⟩ := perform_closeAll_silent c fits
  exact ⟨empty, silent _ passesOver_ofTable⟩

/-! ## Sessions -/

omit [UserMemory μ] [FileLayer ν φ] in
/-- The records of a session with a new table can be replayed, if nothing is drained.

The table fits all the time, and this is what makes each request tell its change. -/
theorem Table.replays {steps : List (Shortage × Table.Request φ)}
    (noDrain : ∀ step ∈ steps, step.2 ≠ .drain) :
    Service.Replays Table.Notice.record? id Table.Request.perform Table.empty
      (Service.under (.upTo .trace) steps) := by
  -- What a request keeps, what it tells, how the session begins, and what is asked of its requests.
  apply Service.replays Table.Fits fun step => step.1.log = .upTo .trace ∧ step.2 ≠ .drain
  · exact fun c request t fits => request.perform_fits c fits
  · exact fun c request t fits admissible =>
      request.perform_tells admissible.1 admissible.2 fits
  · exact fits_empty
  · exact get?_empty
  · intro step mem
    obtain ⟨_, asked, rfl⟩ := List.mem_map.mp mem
    exact ⟨rfl, noDrain _ asked⟩

/-- The records of a session with a new kernel can be replayed, if it is not shut down.

What holds of the table on its own holds of the table in a kernel, whose records are found among
those of everything else. -/
theorem Kernel.replays (memory : μ) (layer : ν) {steps : List (Shortage × Request)}
    (noShutdown : ∀ step ∈ steps, step.2 ≠ .closeAll) :
    Service.Replays Event.record? files Request.perform (initial memory layer : Kernel μ ν φ)
      (Service.under (.upTo .trace) steps) := by
  -- The same five parts, for the table of the kernel.
  apply Service.replays (fun k : Kernel μ ν φ => k.files.Fits)
    fun step => step.1.log = .upTo .trace ∧ step.2 ≠ .closeAll
  · exact fun c request k fits => request.perform_fits c fits
  · exact fun c request k fits admissible =>
      request.perform_tells admissible.1 admissible.2 fits
  · exact Table.fits_empty
  · exact Table.get?_empty
  · intro step mem
    obtain ⟨_, asked, rfl⟩ := List.mem_map.mp mem
    exact ⟨rfl, noShutdown _ asked⟩

/-- **The records of the table tell which descriptors are in use**: they can be replayed after every
request to a new kernel that is not shut down, and to a new table that is not drained. A shutdown
and a drain empty the table without a record of it, in whatever state they find it.

The level has to be that of traces, since no other level records changes of the table. -/
theorem Kernel.descriptors_replayed :
    (∀ (memory : μ) (layer : ν) (steps : List (Shortage × Request)),
      (∀ step ∈ steps, step.2 ≠ .closeAll) →
        Service.Replays Event.record? files Request.perform (initial memory layer : Kernel μ ν φ)
          (Service.under (.upTo .trace) steps)) ∧
    (∀ steps : List (Shortage × Table.Request φ), (∀ step ∈ steps, step.2 ≠ .drain) →
      Service.Replays Table.Notice.record? id Table.Request.perform Table.empty
        (Service.under (.upTo .trace) steps)) ∧
    (∀ (memory : μ) (layer : ν) (earlier : List (Conditions × Request)) (c : Conditions),
      Service.EmptiesSilently Event.record? files
        (Request.closeAll.perform c
          ((initial memory layer : Kernel μ ν φ).afterSession earlier))) ∧
    ∀ (earlier : List (Conditions × Table.Request φ)) (c : Conditions),
      Service.EmptiesSilently Table.Notice.record? id
        (Table.Request.drain.perform c (Service.after Table.Request.perform .empty earlier)) := by
  refine ⟨fun memory layer steps => replays memory layer, fun steps => Table.replays, ?_, ?_⟩
  · -- A shutdown of a kernel, after whatever it did before.
    intro memory layer earlier c
    exact Request.perform_closeAll_emptiesSilently c (afterSession_fits Table.fits_empty earlier)
  · -- A drain of a table, which fits after whatever it did before.
    intro earlier c
    have fits : (Service.after Table.Request.perform (.empty : Table φ) earlier).Fits :=
      Service.after_induction Table.Fits (fun c request t fits => request.perform_fits c fits)
        Table.fits_empty earlier
    obtain ⟨entries, drained, -⟩ := @Table.drain_eq φ Empty _ fits
    simp only [Table.Request.perform, Action.bind_apply, drained]
    exact ⟨rfl, rfl⟩

/-- A file is opened for which there is no descriptor, and then two files for which there are, one
of them by a dispatch. Closing the first of these fails, and its descriptor is released all the
same. The table on its own hands out one descriptor and is asked for one that is not in use. -/
theorem Kernel.descriptors_replayed_failing :
    let k : Kernel RegionMemory FlatLayer Nat :=
      initial ⟨[⟨0x400FFE, [97, 0], false, none⟩]⟩
        { FlatLayer.empty [] with names := [[97]], closeFault := some .ebusy }
    let opening : Request := .openFile ⟨0x400FFE⟩ ⟨0⟩ 0
    let steps : List (Shortage × Request) :=
      [(⟨false, true⟩, opening), (.none, opening),
        (.none, .dispatch { TrapFrame.zero with v0 := 45, a0 := 0x400FFE }), (.none, .closeFile 3)]
    let requests := Service.under (.upTo .trace) steps
    let own : List (Shortage × Table.Request Nat) :=
      [(.none, .allocate 7), (.none, .deallocate 5)]
    (∀ step ∈ steps, step.2 ≠ .closeAll) ∧ (∀ step ∈ own, step.2 ≠ .drain) ∧
      Service.Replays Event.record? files Request.perform k requests ∧
      Service.Replays Table.Notice.record? id Table.Request.perform Table.empty
        (Service.under (.upTo .trace) own) ∧
      (Table.recordsOf (Service.records Event.record? (k.session requests))).map (·.text) =
        ["fd: allocated 3", "fd: allocated 4", "fd: released 3"] := by
  intro k opening steps requests own
  -- Neither list has a request that is left out.
  have noShutdown : ∀ step ∈ steps, step.2 ≠ .closeAll := by simp [steps, opening]
  have noDrain : ∀ step ∈ own, step.2 ≠ .drain := by simp [own]
  have kernels : Service.Replays Event.record? files Request.perform k requests :=
    descriptors_replayed.1 _ _ steps noShutdown
  have tables := (@descriptors_replayed RegionMemory FlatLayer Nat _ _).2.1 own noDrain
  exact ⟨noShutdown, noDrain, kernels, tables, by decide +kernel⟩

end SyscallGate
