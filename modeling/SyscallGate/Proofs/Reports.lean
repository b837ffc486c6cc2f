import SyscallGate.Log.Logger
import SyscallGate.Proofs.Emits
import SyscallGate.Session

/-!
# Reports and filters

Some events of a computation are reports. Under a filter that records less, a computation does the
same as before and shows fewer of them. `Action.Filters` says so of two actions, and the lemmas
follow the operations on actions, as they do for the kinds of events.

## Main definitions

- `Action.Filters`: an action does what another one does, and shows some of its events.
- `Conditions.Quieter`: conditions that differ from others in that they record less.
- `Service.SameButReports`: two runs of the same requests that differ in their reports only.
- `Log.Logger.takeAll`: the logger after it took a number of records.

## Main results

- `Service.session_filters`: if a filter acts on every request as it should, it does so on sessions.
- `Log.Logger.takeAll_eq`: a logger writes the records that its filter admits, in order.
-/

namespace SyscallGate

variable {σ τ ε δ ι η θ α β : Type}

/-- The computation without those of its events that are not kept.

Result and state stay as they are, so this is how a computation looks to someone who is shown less
of it. -/
def Outcome.keeping (keep : ε → Bool) (o : Outcome σ ε η α) : Outcome σ ε η α :=
  ⟨o.result, o.state, o.events.filter keep⟩

namespace Action

variable {keep : ε → Bool}

/-! ## Actions of which some events are shown -/

/-- From every state, the first action does what the second one does, and shows those events of it
that are kept.

Which events are kept is decided event by event, and not by what comes before. -/
def Filters (keep : ε → Bool) (x y : Action σ ε η α) : Prop :=
  ∀ s, x s = (y s).keeping keep

/-- An action all of whose events are kept.

Then nothing is left out, so the action is its own filtered form. This settles all actions that show
nothing. -/
theorem Emits.filters {x : Action σ ε η α} (kept : x.Emits fun e => keep e = true) :
    Filters keep x x := by
  intro s
  have same : (x s).events.filter keep = (x s).events := List.filter_eq_self.mpr (kept s)
  rw [Outcome.keeping, same]

/-- A value shows nothing. -/
theorem filters_pure (a : α) : Filters keep (pure a : Action σ ε η α) (pure a) :=
  (emits_pure a).filters

/-- A look at the state shows nothing. -/
theorem filters_read : Filters keep (read : Action σ ε η σ) read :=
  emits_read.filters

/-- A new state is not shown. -/
theorem filters_write (s : σ) : Filters keep (write s : Action σ ε η Unit) (write s) :=
  (emits_of_events_eq_nil fun _ => rfl).filters

/-- A refusal shows nothing by itself. Its report, where there is one, is another action. -/
theorem filters_refuse (reason : η) :
    Filters keep (refuse reason : Action σ ε η α) (refuse reason) :=
  (emits_refuse reason).filters

/-- A computation with checks shows nothing, and a panic of it is the same under every filter. -/
theorem filters_ofChecked (answer : Checked α) :
    Filters keep (ofChecked answer : Action σ ε η α) (ofChecked answer) :=
  (emits_ofChecked answer).filters

/-- An answer from elsewhere is a value or a refusal. -/
theorem filters_ofExcept (answer : Except η α) :
    Filters keep (ofExcept answer : Action σ ε η α) (ofExcept answer) := by
  cases answer with
  | ok a => exact filters_pure a
  | error reason => exact filters_refuse reason

/-- The reports of a sequence are those of its two parts.

The second parts need to match for every value of the first ones, and this is enough as the first
parts end with the same value. -/
theorem Filters.bind {x y : Action σ ε η α} {f g : α → Action σ ε η β} (first : Filters keep x y)
    (next : ∀ a, Filters keep (f a) (g a)) : Filters keep (x >>= f) (y >>= g) := by
  intro s
  rw [bind_apply, bind_apply, first s]
  -- Both first parts end in the same way, so the second parts start from the same state.
  -- The first part ended the action, and what it showed is all.
  rcases y s with ⟨halt | a, s', events⟩
  · rfl
  · -- What is kept of the two parts together is what is kept of the one and then of the other.
    simp only [Outcome.keeping, Outcome.andThen_ok, next a s', Outcome.after, List.filter_append]

/-- To compute with a value shows nothing. -/
theorem Filters.map {x y : Action σ ε η α} (h : Filters keep x y) (f : α → β) :
    Filters keep (do return f (← x)) (do return f (← y)) :=
  h.bind fun a => filters_pure (f a)

/-- To turn a refusal into a value changes neither the events nor which of them are kept. -/
theorem Filters.attempt {x y : Action σ ε η α} (h : Filters keep x y) :
    Filters keep (x.attempt : Action σ ε θ (Except η α)) y.attempt := by
  intro s
  rw [attempt_apply, attempt_apply, h s]
  rcases y s with ⟨(reason | cause) | a, s', events⟩ <;> rfl

/-- A report that is made when an action is refused may itself be left out. The refusal stays. -/
theorem Filters.reporting {x y : Action σ ε η α} {report report' : η → Action σ ε η Unit}
    (h : Filters keep x y) (reports : ∀ reason, Filters keep (report reason) (report' reason)) :
    Filters keep (x.reporting report) (y.reporting report') := by
  refine h.attempt.bind ?_
  intro answer
  cases answer with
  | ok a => exact filters_pure a
  | error reason => exact (reports reason).bind fun _ => filters_refuse reason

/-- The reason of a refusal may be given another name, since reasons are not shown. -/
theorem Filters.mapReason {f : η → θ} {x y : Action σ ε η α} (h : Filters keep x y) :
    Filters keep (x.mapReason f) (y.mapReason f) := by
  refine h.attempt.bind ?_
  intro answer
  cases answer with
  | ok a => exact filters_pure a
  | error reason => exact filters_refuse (f reason)

/-- Inside a larger state, an event is kept if what it wraps is.

The filter inside is the one outside, seen through the wrapping. -/
theorem Filters.zoom {component : σ → τ} {replace : τ → σ → σ} {wrap : δ → ε}
    {x y : Action τ δ η α} (h : Filters (fun e => keep (wrap e)) x y) :
    Filters keep (x.zoom component replace wrap) (y.zoom component replace wrap) := by
  intro s
  rw [zoom_apply, zoom_apply, h (component s)]
  simp only [Outcome.keeping, Outcome.embed, List.filter_map, Function.comp_def]

/-- Both actions take the same branch, since the condition does not depend on the filter. -/
theorem Filters.ite {p : Prop} [Decidable p] {x x' y y' : Action σ ε η α} (h : Filters keep x y)
    (h' : Filters keep x' y') : Filters keep (if p then x else x') (if p then y else y') := by
  split
  · exact h
  · exact h'

end Action

/-! ## Conditions that record less -/

/-- The first conditions record no more than the second ones, and are otherwise the same.

The shortages have to be the same, since they decide whether storage can be had, and with it the
result of a request. -/
structure Conditions.Quieter (c c' : Conditions) : Prop where
  log : c.log.rank ≤ c'.log.rank
  shortage : c.shortage = c'.shortage

/-- What is recorded under a filter is recorded under every filter of higher rank.

Filters are ordered by the levels that they admit. -/
theorem Log.Filter.admits_mono {f g : Filter} (less : f.rank ≤ g.rank) {level : Level}
    (admitted : f.admits level = true) : g.admits level = true := by
  unfold admits at admitted ⊢
  rw [decide_eq_true_eq] at admitted ⊢
  exact Nat.le_trans admitted less

/-- Whether an event is shown under a filter: what is no report always is.

Calls to the memory and to the files are events too, and these are not subject to the filter. -/
def Log.Filter.shows (f : Filter) : Option Record → Bool
  | none => true
  | some record => f.admits record.level

@[simp] theorem Log.Filter.shows_none (f : Filter) : f.shows none = true := rfl

@[simp] theorem Log.Filter.shows_some (f : Filter) (record : Record) :
    f.shows (some record) = f.admits record.level := rfl

/-- A report is shown under the conditions that record it, or not at all.

The first two conditions may drop the report, and the last ones show it. If it is dropped only by
the first ones, then the filter leaves it out. -/
theorem Conditions.Quieter.note_filters {c c' : Conditions} (quieter : c.Quieter c')
    {keep : ε → Bool} {level : Log.Level} {e : ε} (decides : keep e = c.log.admits level) :
    Action.Filters keep (c.note level e : Action σ ε η Unit) (c'.note level e) := by
  intro s
  rw [note_apply, note_apply, Outcome.keeping]
  cases admitted : c.log.admits level with
  | true =>
    -- Both show the report, and it is kept.
    have louder := Log.Filter.admits_mono quieter.log admitted
    simp [louder, decides, admitted]
  | false =>
    -- The quieter conditions drop the report, whether or not the others show it.
    rw [admitted] at decides
    cases c'.log.admits level <;> simp [decides]

/-! ## What reaches the console -/

namespace Log

/-- The console after the lines of records were written to it.

Each record is one line. -/
def Console.writeEach (c : Console) (records : List Record) : Console :=
  records.foldl (fun c record => c.writeLine record.line) c

/-- The logger after it took records, one after the other.

It keeps its filter, and the console may fail at any line. -/
def Logger.takeAll (l : Logger) (records : List Record) : Logger :=
  records.foldl Logger.log l

/-- **A logger writes the records that its filter admits**, in order.

What the console holds at the end does not depend on records below the filter. -/
theorem Logger.takeAll_eq (l : Logger) (records : List Record) :
    l.takeAll records =
      ⟨l.filter,
        l.console.writeEach (records.filter fun record => l.filter.admits record.level)⟩ := by
  -- Induction on the records. A record that is not admitted leaves the logger as it is.
  induction records generalizing l with
  | nil => rfl
  | cons record rest ih =>
    rw [takeAll, List.foldl_cons, ← takeAll, ih]
    cases admitted : l.filter.admits record.level <;>
      simp [log, enabled, admitted, Console.writeEach]

end Log

/-! ## Sessions under two filters -/

namespace Service

/-- Requests with their shortages, all made under one filter.

This is what one run is given. Another run is given the same requests and shortages under another
filter. -/
def under (f : Log.Filter) (steps : List (Shortage × ι)) : List (Conditions × ι) :=
  steps.map fun step => (⟨f, step.1⟩, step.2)

variable {serve : Service σ ε ι α} {record? : ε → Option Log.Record}

/-- The records in what an observer saw.

All requests are taken together, in the order in which they were made. -/
def records (record? : ε → Option Log.Record) (exchanges : List (Exchange σ ε ι α)) :
    List Log.Record :=
  (exchanges.flatMap fun x => x.outcome.events).filterMap record?

/-- The records of a session are those of its first request and those of the rest. -/
theorem records_cons (x : Exchange σ ε ι α) (rest : List (Exchange σ ε ι α)) :
    records record? (x :: rest) = x.outcome.events.filterMap record? ++ records record? rest := by
  rw [records, List.flatMap_cons, List.filterMap_append, records]

/-- On every request, a filter decides what is shown and nothing else.

It is asked of one request only, in any state. What it means for sessions follows by induction. -/
def FiltersEach (serve : Service σ ε ι α) (record? : ε → Option Log.Record) : Prop :=
  ∀ ⦃c c' : Conditions⦄, c.Quieter c' → ∀ request,
    Action.Filters (fun e => c.log.shows (record? e)) (serve c request) (serve c' request)

/-- The exchange as it is under a filter.

The filter is put into the conditions as well, so that exchanges of two sessions can be compared as
a whole. -/
def shownUnder (record? : ε → Option Log.Record) (f : Log.Filter) (x : Exchange σ ε ι α) :
    Exchange σ ε ι α :=
  ⟨⟨f, x.conditions.shortage⟩, x.request, x.outcome.keeping fun e => f.shows (record? e)⟩

/-- **A session under a filter** is the session under any filter of higher rank, less the reports
that the filter does not admit.

The state after each request is the same, so the requests after it are made in the same state under
both filters. -/
theorem session_filters (each : FiltersEach serve record?) {f g : Log.Filter}
    (less : f.rank ≤ g.rank) (s : σ) (steps : List (Shortage × ι)) :
    serve.session s (under f steps) =
      (serve.session s (under g steps)).map (shownUnder record? f) := by
  -- Induction on the requests; the first one leaves the same state under both filters.
  induction steps generalizing s with
  | nil => rfl
  | cons step rest ih =>
    obtain ⟨shortage, request⟩ := step
    have quieter : Conditions.Quieter ⟨f, shortage⟩ ⟨g, shortage⟩ := ⟨less, rfl⟩
    have first := each quieter request s
    simp only [under, List.map_cons, session, first, shownUnder]
    exact congrArg _ (ih (serve ⟨g, shortage⟩ request s).state)

/-- Two runs of the same requests, of which the first one shows the reports of the second one that a
filter admits. There is no other difference.

It is said of the results, of the states after every request, of the calls that were made, of the
records, and of what the logger of either run writes to its console. -/
structure SameButReports (record? : ε → Option Log.Record) (f g : Log.Filter)
    (quiet verbose : List (Exchange σ ε ι α)) : Prop where
  results : quiet.map (·.outcome.result) = verbose.map (·.outcome.result)
  states : quiet.map (·.outcome.state) = verbose.map (·.outcome.state)
  /-- The events that are no reports are the same, and in the same order. -/
  others : quiet.map (fun x => x.outcome.events.filter fun e => (record? e).isNone) =
    verbose.map fun x => x.outcome.events.filter fun e => (record? e).isNone
  lines : records record? quiet =
    (records record? verbose).filter fun record => f.admits record.level
  /-- Every record of the second run is written by the logger that is installed with its filter. -/
  console : ∀ console : Log.Console,
    (Log.Logger.mk g console).takeAll (records record? verbose) =
      ⟨g, console.writeEach (records record? verbose)⟩
  /-- Of these, the logger of the first run writes those that its filter admits. -/
  consoleLess : ∀ console : Log.Console,
    (Log.Logger.mk f console).takeAll (records record? quiet) =
      ⟨f, console.writeEach
        ((records record? verbose).filter fun record => f.admits record.level)⟩
  off : f = .off → records record? quiet = []

/-- The records of a session under a filter are those that the filter admits.

Events that are no records are not looked at here: a filter always shows them. -/
theorem records_shownUnder (f : Log.Filter) (exchanges : List (Exchange σ ε ι α)) :
    records record? (exchanges.map (shownUnder record? f)) =
      (records record? exchanges).filter fun record => f.admits record.level := by
  -- An event that is no report leaves no record on either side.
  -- Event by event: a record stays if it is admitted.
  have each (events : List ε) :
      (events.filter fun e => f.shows (record? e)).filterMap record? =
        (events.filterMap record?).filter fun record => f.admits record.level := by
    induction events with
    | nil => rfl
    | cons e rest ih =>
      cases isRecord : record? e with
      | none => simp [isRecord, ih]
      | some record => cases admitted : f.admits record.level <;> simp [isRecord, admitted, ih]
  simp only [records, List.flatMap_map, shownUnder, Outcome.keeping, List.filterMap_flatMap, each,
    List.filter_flatMap]

/-- **Sessions under two filters** are the same but for the reports.

The first filter may be equal to the second one, and it may be off, and then no record is left. -/
theorem sameButReports (each : FiltersEach serve record?) {f g : Log.Filter}
    (less : f.rank ≤ g.rank) (s : σ) (steps : List (Shortage × ι)) :
    SameButReports record? f g (serve.session s (under f steps))
      (serve.session s (under g steps)) := by
  have lines {f : Log.Filter} (less : f.rank ≤ g.rank) :
      records record? (serve.session s (under f steps)) =
        (records record? (serve.session s (under g steps))).filter
          fun record => f.admits record.level := by
    rw [session_filters each less s steps, records_shownUnder]
  -- Under its own filter a session shows what it shows.
  have all := lines (Nat.le_refl g.rank)
  -- Results, states, calls, records, the two consoles, and the filter that is off.
  refine ⟨?_, ?_, ?_, lines less, ?_, ?_, ?_⟩
  · rw [session_filters each less s steps, List.map_map]
    rfl
  · rw [session_filters each less s steps, List.map_map]
    rfl
  · rw [session_filters each less s steps, List.map_map]
    refine List.map_congr_left fun x _ => ?_
    simp only [Function.comp_apply, shownUnder, Outcome.keeping, List.filter_filter]
    refine List.filter_congr fun e _ => ?_
    cases record? e <;> rfl
  · -- The second session holds no record that its own filter does not admit, so all of them are
    -- written.
    intro console
    rw [Log.Logger.takeAll_eq, ← all]
  · -- What the first session holds was filtered once, and filtering it again changes nothing.
    intro console
    rw [Log.Logger.takeAll_eq, lines less, List.filter_filter]
    simp only [Bool.and_self]
  · -- The filter that is off admits no level.
    rintro rfl
    rw [lines less, List.filter_eq_nil_iff]
    simp

end Service

end SyscallGate
