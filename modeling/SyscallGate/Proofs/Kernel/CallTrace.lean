import SyscallGate.Files.FlatLayer
import SyscallGate.Memory.Regions
import SyscallGate.Proofs.Kernel.Records
import SyscallGate.Proofs.Kernel.Registers

/-!
# The trace of system calls

At the level of traces every system call is told by two records. The first record of a call tells
its number and its arguments, the last one its number and its ending; between them stand the records
of what the call does. The ending that is told is the one that is written into the frame, so a
reader of the log knows the registers with which the program goes on.

## Main definitions

- `Log.Record.tracesCall`: the records that tell the beginnings and the ends of calls.
- `CallRecordsTell`: what a reader knows from such a record.
- `CallTrace`: the records of one call, and the frame with which the program goes on.
- `Kernel.TracesRequest`: what is recorded of one request.

## Main results

- `Completion.labelled_eq_word_iff`, `Completion.labelled_eq_error_iff`: what the text of an ending
  tells.
- `CallTrace.of_bracketed`: a dispatch leaves the trace of its call.
- `Kernel.calls_traced`: the trace of a run.
-/

namespace SyscallGate

/-! ## Records of calls -/

/-- Whether a record tells the beginning or the end of a system call. The dispatcher reports nothing
else at the level of traces.

An unknown number is reported by the dispatcher too, but not as a detail of a trace. -/
def Log.Record.tracesCall (record : Log.Record) : Bool :=
  record.level = .trace && record.target = Log.Target.dispatcher.path

theorem passesOver_tracesCall : PassesOver Log.Record.tracesCall where
  -- Reports of other parts have another target. An unknown number is reported at another level.
  parts n _ notDispatcher := by
    have other : n.target.path ≠ Log.Target.dispatcher.path :=
      fun same => notDispatcher (Log.Target.path_injective same)
    simp [Log.Record.tracesCall, Notice.record, other]
  unknown _ := rfl

/-- A change of the table is no beginning and no end of a call.

The table reports at the level of traces as well, under a target of its own. -/
theorem filter_tracesCall_map_record (changes : List Table.Notice) :
    (changes.map Table.Notice.record).filter Log.Record.tracesCall = [] := by
  have other : Log.Target.table.path ≠ Log.Target.dispatcher.path := by decide
  simp [Log.Record.tracesCall, Table.Notice.record, other]

/-! ## Texts of endings -/

namespace Notice

/-- The text of a record on the end of a call, with the text of an ending.

The ending is the last part of the text and may be long, so it is split off as a text of its own. -/
def leftText (number : UInt32) (ending : String) : String :=
  "syscall: " ++ toString number.toNat ++ " -> " ++ ending

theorem text_callLeft (number : UInt32) (ending : Completion) :
    (callLeft number ending).text = leftText number ending.labelled := by
  unfold text leftText
  rfl

theorem leftText_inj {number : UInt32} {ending ending' : String} :
    leftText number ending = leftText number ending' ↔ ending = ending' :=
  String.append_right_inj _

/-- The record on the beginning of a call tells its number and its arguments.

The numbers are printed without padding. That they can be told apart nonetheless is due to the
characters between them, none of which is a digit. -/
theorem callEntered_inj {number a0 a1 a2 a3 number' b0 b1 b2 b3 : UInt32}
    (same : (callEntered number a0 a1 a2 a3).record = (callEntered number' b0 b1 b2 b3).record) :
    number = number' ∧ a0 = b0 ∧ a1 = b1 ∧ a2 = b2 ∧ a3 = b3 := by
  have texts := congrArg (fun record => record.text.toList) same
  unfold record text at texts
  simp only [List.map_cons, List.map_nil, String.intercalate_cons_cons,
    String.intercalate_singleton, String.toList_append, List.append_assoc] at texts
  -- The numerals are read one after the other; a comma or the bracket stops each of them.
  obtain ⟨numbers, behind⟩ := repr_append_inj (by simp [Stops]) (by simp [Stops])
    (List.append_cancel_left texts)
  obtain ⟨first, behind⟩ := Hex.plain_append_inj (by simp [Stops, Hex.isDigit])
    (by simp [Stops, Hex.isDigit]) (List.append_cancel_left behind)
  obtain ⟨second, behind⟩ := Hex.plain_append_inj (by simp [Stops, Hex.isDigit])
    (by simp [Stops, Hex.isDigit]) (List.append_cancel_left behind)
  obtain ⟨third, behind⟩ := Hex.plain_append_inj (by simp [Stops, Hex.isDigit])
    (by simp [Stops, Hex.isDigit]) (List.append_cancel_left behind)
  obtain ⟨fourth, -⟩ := Hex.plain_append_inj (by simp [Stops, Hex.isDigit])
    (by simp [Stops, Hex.isDigit]) (List.append_cancel_left behind)
  simp only [← UInt32.toNat_inj]
  exact ⟨numbers, first, second, third, fourth⟩

/-- The record on the end of a call tells its number and the text of its ending.

Behind the number of the call the text of the ending fills the rest of the line, so nothing has to
be said about its form here. -/
theorem callLeft_inj {number number' : UInt32} {ending ending' : Completion}
    (same : (callLeft number ending).record = (callLeft number' ending').record) :
    number = number' ∧ ending.labelled = ending'.labelled := by
  have texts := congrArg (fun record => record.text.toList) same
  unfold record text at texts
  simp only [String.toList_append, List.append_assoc] at texts
  -- The number stops at the space before the arrow.
  obtain ⟨numbers, behind⟩ := repr_append_inj (by simp [Stops]) (by simp [Stops])
    (List.append_cancel_left texts)
  exact ⟨UInt32.toNat_inj.mp numbers, String.toList_inj.mp (List.append_cancel_left behind)⟩

/-- The beginning of a call and the end of a call do not look alike.

A reader of one record knows which of the two it is, without any record before it. -/
theorem callEntered_ne_callLeft {number a0 a1 a2 a3 number' : UInt32} {ending : Completion} :
    (callEntered number a0 a1 a2 a3).record ≠ (callLeft number' ending).record := by
  intro same
  have texts := congrArg (fun record => record.text.toList) same
  unfold record text at texts
  simp only [String.toList_append, List.append_assoc] at texts
  -- Behind the number stands a bracket in the one, and an arrow in the other.
  obtain ⟨-, behind⟩ := repr_append_inj (by simp [Stops]) (by simp [Stops])
    (List.append_cancel_left texts)
  simp at behind

end Notice

namespace Completion

variable {answer : Except Errno UInt32}

/-- The text of an ending shows a word exactly if the call returned it.

The number of the text need not be a machine word. If it is none, no call returns it, and no text of
an ending shows it. -/
theorem labelled_eq_word_iff {n : Nat} :
    labelled (answer.map .word) = "Ok(Word(" ++ toString n ++ "))" ↔
      ∃ w, answer = .ok w ∧ w.toNat = n := by
  cases answer with
  | ok w =>
    -- Both texts begin alike, and end with brackets, at which the numeral stops.
    show "Ok(" ++ ("Word(" ++ w.toNat.repr ++ ")") ++ ")" = "Ok(Word(" ++ n.repr ++ "))" ↔ _
    constructor
    · intro same
      simp only [← String.toList_inj, String.toList_append, List.append_assoc] at same
      have numerals := @List.append_cancel_left _ "Ok(Word(".toList _ _ same
      exact ⟨w, rfl, (repr_append_inj (by decide) (by decide) numerals).1⟩
    · intro ⟨_, returned, same⟩
      cases returned
      simp [← String.toList_inj, same]
  | error e =>
    -- A text that begins with an error does not begin with a word.
    show "Err(" ++ e.name ++ ")" = "Ok(Word(" ++ n.repr ++ "))" ↔ _
    simp [← String.toList_inj]

/-- The text of an ending shows an error exactly if the call failed with it.

The names of the errors differ, so the name in the brackets is that of the error. -/
theorem labelled_eq_error_iff {e : Errno} :
    labelled (answer.map .word) = "Err(" ++ e.name ++ ")" ↔ answer = .error e := by
  cases answer with
  | ok w =>
    -- A text that begins with a word does not begin with an error.
    show "Ok(" ++ ("Word(" ++ w.toNat.repr ++ ")") ++ ")" = "Err(" ++ e.name ++ ")" ↔ _
    simp [← String.toList_inj]
  | error e' =>
    -- The two names stand between the same texts.
    show "Err(" ++ e'.name ++ ")" = "Err(" ++ e.name ++ ")" ↔ _
    rw [String.append_left_inj, String.append_right_inj]
    constructor
    · intro same
      rw [Errno.name_injective same]
    · intro failed
      cases failed
      rfl

/-- The text of an ending tells the answer of the call.

Of two equal texts, the second one says what the answer of the second call is, and then the first
one says the same of the first call. -/
theorem labelled_inj {answer' : Except Errno UInt32}
    (same : labelled (answer.map .word) = labelled (answer'.map .word)) : answer = answer' := by
  cases answer' with
  | ok w =>
    -- The answer is a word, which the text shows.
    rw [labelled_eq_word_iff.mpr ⟨w, rfl, rfl⟩] at same
    obtain ⟨w', returned, same⟩ := labelled_eq_word_iff.mp same
    rw [returned, UInt32.toNat_inj.mp same]
  | error e =>
    -- The answer is an error, which the text shows.
    rw [labelled_eq_error_iff.mpr rfl] at same
    exact labelled_eq_error_iff.mp same

end Completion

/-! ## The trace of one call -/

/-- The records that tell a call: one on its beginning and one on its end. -/
def callRecords (call : TrapFrame × Except Errno UInt32) : List Log.Record :=
  [(Kernel.entry call.1).record, (Kernel.exit call.1 call.2).record]

/-- What a reader knows from a record on the beginning or the end of a call.

The other registers are not told. Neither are the arguments of a call beyond the fourth, which are
on the stack. -/
structure CallRecordsTell : Prop where
  entry {frame frame' : TrapFrame}
      (same : (Kernel.entry frame).record = (Kernel.entry frame').record) :
    frame.v0 = frame'.v0 ∧ frame.a0 = frame'.a0 ∧ frame.a1 = frame'.a1 ∧ frame.a2 = frame'.a2 ∧
      frame.a3 = frame'.a3
  exit {frame frame' : TrapFrame} {answer answer' : Except Errno UInt32}
      (same : (Kernel.exit frame answer).record = (Kernel.exit frame' answer').record) :
    frame.v0 = frame'.v0 ∧ answer = answer'
  apart (frame frame' : TrapFrame) (answer : Except Errno UInt32) :
    (Kernel.entry frame).record ≠ (Kernel.exit frame' answer).record

/-- **The records on a call tell** its number, its arguments and its answer. -/
theorem callRecordsTell : CallRecordsTell where
  entry same := Notice.callEntered_inj same
  exit same := by
    obtain ⟨numbers, endings⟩ := Notice.callLeft_inj same
    exact ⟨numbers, Completion.labelled_inj endings⟩
  apart _ _ _ := Notice.callEntered_ne_callLeft

/-- The trace of a call that returned a word or failed with an error: its records, and the frame
with which the program goes on.

The registers and the record tell the same, in both directions: a text that shows a word is there
exactly if the word is in the result register and the flag is clear. -/
structure CallTrace (frame : TrapFrame) (answer : Except Errno UInt32) (inner : List Log.Record)
    (after : TrapFrame) (records : List Log.Record) : Prop where
  /-- The first record tells the number and the arguments, the last one number and answer. -/
  shape : records =
    (Kernel.entry frame).record :: (inner ++ [(Kernel.exit frame answer).record])
  /-- Between them no call begins or ends. -/
  inside : ∀ record ∈ inner, record.tracesCall = false
  completed : after = TrapContext.complete frame (answer.map .word)
  word (n : Nat) :
    (Kernel.exit frame answer).record.text =
        Notice.leftText frame.v0 ("Ok(Word(" ++ toString n ++ "))") ↔
      after.v0.toNat = n ∧ after.a3 = 0
  error (e : Errno) :
    (Kernel.exit frame answer).record.text = Notice.leftText frame.v0 ("Err(" ++ e.name ++ ")") ↔
      after.v0 = e.code ∧ after.a3 = 1

/-- Of the records of a call, two tell a beginning or an end.

The first record and the last one do, and those between them are excluded. -/
theorem CallTrace.filter_tracesCall {frame after : TrapFrame} {answer : Except Errno UInt32}
    {inner records : List Log.Record} (trace : CallTrace frame answer inner after records) :
    records.filter Log.Record.tracesCall = callRecords (frame, answer) := by
  have nothing : inner.filter Log.Record.tracesCall = [] := by
    simpa using trace.inside
  rw [trace.shape, List.filter_cons_of_pos rfl, List.filter_append, nothing]
  rfl

/-- The registers tell how a call ended: the flag whether it returned a word, and the result which
one, or with which error it failed. -/
theorem TrapFrame.complete_word_iff {frame : TrapFrame} {answer : Except Errno UInt32} {n : Nat} :
    let after : TrapFrame := TrapContext.complete frame (answer.map .word)
    after.v0.toNat = n ∧ after.a3 = 0 ↔ ∃ w, answer = .ok w ∧ w.toNat = n := by
  cases answer with
  | ok w => simp [Except.map, frame.complete_word, TrapFrame.returning]
  | error e => simp [Except.map, frame.complete_error, TrapFrame.returning]

/-- An error is told by its number, and no two errors have the same one. -/
theorem TrapFrame.complete_error_iff {frame : TrapFrame} {answer : Except Errno UInt32}
    {e : Errno} :
    let after : TrapFrame := TrapContext.complete frame (answer.map .word)
    after.v0 = e.code ∧ after.a3 = 1 ↔ answer = .error e := by
  cases answer with
  | ok w => simp [Except.map, frame.complete_word, TrapFrame.returning]
  | error e' =>
    -- The registers hold the number of the error, from which the error is known.
    have codes : e'.code = e.code ↔ e' = e := ⟨Errno.code_injective, congrArg Errno.code⟩
    simp [Except.map, frame.complete_error, TrapFrame.returning, codes]

section

variable {μ ν φ : Type} {k : Kernel μ ν φ}

open Kernel

/-- **A dispatch leaves the trace of its call.**

What `Bracketed` says of the events is said here of the records. Between the reports stand the
records of the changes of the table, and none of these tells a call. -/
theorem CallTrace.of_bracketed {frame : TrapFrame} {answer : Except Errno UInt32}
    {inner : List (Event φ)} {o : Outcome (Kernel μ ν φ) (Event φ) Empty TrapFrame}
    (bracketed : Bracketed frame k answer inner o) :
    CallTrace frame answer (inner.filterMap Event.record?)
      (TrapContext.complete frame (answer.map .word)) (o.events.filterMap Event.record?) where
  shape := by
    rw [bracketed.events]
    show (entry frame).record :: (inner ++ _).filterMap Event.record? = _
    -- Each of the two reports is read as one record.
    rw [List.filterMap_append]
    rfl
  inside := by
    obtain ⟨changes, -, shown⟩ := bracketed.shows
    -- Only changes of the table are shown between the reports.
    have nothing := shown _ passesOver_tracesCall
    rw [filter_tracesCall_map_record] at nothing
    intro record mem
    simpa using List.filter_eq_nil_iff.mp nothing record mem
  completed := rfl
  word n := by
    show (Notice.callLeft frame.v0 (answer.map .word)).text = _ ↔ _
    -- The text shows the word, and so do the registers, under the same condition.
    rw [Notice.text_callLeft, Notice.leftText_inj, Completion.labelled_eq_word_iff]
    exact TrapFrame.complete_word_iff.symm
  error e := by
    show (Notice.callLeft frame.v0 (answer.map .word)).text = _ ↔ _
    rw [Notice.text_callLeft, Notice.leftText_inj, Completion.labelled_eq_error_iff]
    exact TrapFrame.complete_error_iff.symm

/-! ## The trace of a run -/

namespace Kernel

/-- What is recorded of one request.

A request asks for one call at most, and for that one the whole list of its records is given. What a
request without a call records otherwise does not matter here. -/
structure TracesRequest (k : Kernel μ ν φ) (x : Exchange μ ν φ) : Prop where
  call (frame : TrapFrame) (asks : frame ∈ x.request.calls) :
    ∃ answer inner after, x.outcome.result = .ok (x.request.resumed after) ∧
      CallTrace frame answer inner after (x.outcome.events.filterMap Event.record?)
  /-- Without a call, none begins and none ends. -/
  silent (noCall : x.request.calls = []) :
    (x.outcome.events.filterMap Event.record?).filter Log.Record.tracesCall = []
  /-- A trap that asks for no call does nothing but warn. -/
  warned (frame : TrapFrame) (isTrap : x.request = .trap frame) (noCall : x.request.calls = []) :
    ∃ report : Notice, report.level = .warn ∧ report.target = .trap ∧
      x.outcome = ⟨.ok (.trapped frame (.unhandled (Cause.ofRegister frame.cause))), k,
        [.notice report]⟩

/-- A request leaves the records of the calls for which it asks, each with some answer.

The list is empty or has one element, but a run needs the lists of its requests put together. -/
theorem TracesRequest.filter_tracesCall {x : Exchange μ ν φ} (traced : TracesRequest k x) :
    ∃ calls : List (TrapFrame × Except Errno UInt32), calls.map Prod.fst = x.request.calls ∧
      (x.outcome.events.filterMap Event.record?).filter Log.Record.tracesCall =
        calls.flatMap callRecords := by
  rcases x.request.calls_cases with noCall | ⟨frame, asks⟩
  · -- Without a call, no record tells one.
    exact ⟨[], noCall.symm, traced.silent noCall⟩
  · -- One call, of which two records tell.
    obtain ⟨answer, inner, after, -, trace⟩ := traced.call frame (asks ▸ List.mem_singleton_self _)
    refine ⟨[(frame, answer)], asks.symm, ?_⟩
    rw [trace.filter_tracesCall, List.flatMap_singleton]

variable [UserMemory μ] [FileLayer ν φ]

/-- **One request is traced**, provided that the table fits.

All levels are recorded, as `detailed` says, or the two records of a call might be missing. -/
theorem tracesRequest {c : Conditions} (detailed : c.log = .upTo .trace) (request : Request)
    (fits : k.files.Fits) : TracesRequest k ⟨c, request, request.perform c k⟩ where
  call frame asks := by
    obtain ⟨answer, inner, bracketed⟩ := dispatch_bracketed detailed frame fits
    -- What the request does is the dispatch of the frame.
    rw [Request.perform_of_mem_calls asks, bracketed.completed]
    exact ⟨_, _, _, rfl, .of_bracketed bracketed⟩
  silent noCall := by
    -- A shutdown shows nothing of the table; any other request shows how it changed it.
    by_cases shutdown : request = .closeAll
    · subst shutdown
      exact (Request.perform_closeAll_silent c fits).2 _ passesOver_tracesCall
    · obtain ⟨changes, -, shown⟩ := Request.perform_shows detailed noCall shutdown fits
      rw [← filter_tracesCall_map_record changes]
      exact shown _ passesOver_tracesCall
  warned frame isTrap noCall := by
    cases isTrap
    -- The warning passes the filter that lets everything through.
    rw [Request.perform_trap_of_calls_eq_nil noCall, noted_of_admits]
    · exact ⟨_, rfl, rfl, rfl⟩
    · rw [detailed]
      rfl

/-- Over a run, the beginnings and ends of the calls alternate.

The calls are those for which the requests ask, in their order, and each of them leaves its two
records next to each other among those that tell calls. -/
theorem calls_alternate (fits : k.files.Fits) (steps : List (Shortage × Request)) :
    ∃ calls : List (TrapFrame × Except Errno UInt32),
      calls.map Prod.fst = steps.flatMap (fun step => step.2.calls) ∧
      (Service.records Event.record? (k.session (Service.under (.upTo .trace) steps))).filter
        Log.Record.tracesCall = calls.flatMap callRecords := by
  -- Induction on the requests. The records of the first one stand before those of the others.
  induction steps generalizing k with
  | nil => exact ⟨[], rfl, rfl⟩
  | cons step rest ih =>
    obtain ⟨shortage, request⟩ := step
    obtain ⟨first, frames, records⟩ :=
      (@tracesRequest _ _ _ k _ _ ⟨.upTo .trace, shortage⟩ rfl request fits).filter_tracesCall
    obtain ⟨later, frames', records'⟩ :=
      ih (Request.perform_fits ⟨.upTo .trace, shortage⟩ request fits)
    refine ⟨first ++ later, ?_, ?_⟩
    · -- The calls of the first request are followed by those of the others.
      rw [List.map_append, frames, frames', List.flatMap_cons]
    · -- So are the records.
      rw [List.flatMap_append, ← records, ← records', ← List.filter_append]
      exact congrArg (List.filter _) (Service.records_cons ..)

/-- **The trace of a run tells its calls**: each call is told by a first and a last record, from
which number, arguments and answer can be read, and the two kinds of records alternate over the run.
The run may begin in any state with a table that fits, as every session leaves it
(`afterSession_fits`). -/
theorem calls_traced (k : Kernel μ ν φ) (fits : k.files.Fits) (steps : List (Shortage × Request)) :
    let requests := Service.under (.upTo .trace) steps
    (∀ j x, (k.session requests)[j]? = some x →
      TracesRequest (k.afterSession (requests.take j)) x) ∧
    (∃ calls : List (TrapFrame × Except Errno UInt32),
      calls.map Prod.fst = steps.flatMap (fun step => step.2.calls) ∧
      (Service.records Event.record? (k.session requests)).filter Log.Record.tracesCall =
        calls.flatMap callRecords) ∧
    CallRecordsTell := by
  intro requests
  refine ⟨fun j x isExchange => ?_, calls_alternate fits steps, callRecordsTell⟩
  apply Service.forall_exchange (fun k => k.files.Fits) (fun step => step.1.log = .upTo .trace)
    TracesRequest _ _ fits _ isExchange
  · -- What carries the induction is that the table fits, and what is asked of each request is the
    -- level.
    exact fun c request k fits => request.perform_fits c fits
  · exact fun c request k fits detailed => tracesRequest detailed request fits
  · intro step mem
    obtain ⟨_, _, rfl⟩ := List.mem_map.mp mem
    rfl

end Kernel

end

/-- A trap asks for an opening, and there is no descriptor for the file. Then come a trap that asks
for no call, an opening without a frame, and a dispatch of a number that has no meaning. -/
theorem Kernel.calls_traced_refused :
    let k : Kernel RegionMemory FlatLayer Nat :=
      initial ⟨[⟨0x400FFE, [97, 0], false, none⟩]⟩
        { FlatLayer.empty [] with names := [[97]] }
    let opening : TrapFrame := { TrapFrame.zero with cause := 0x20, v0 := 45, a0 := 0x400FFE }
    let unknown : TrapFrame := { TrapFrame.zero with v0 := 7, a3 := 255 }
    let steps : List (Shortage × Request) :=
      [(⟨false, true⟩, .trap opening), (.none, .trap { TrapFrame.zero with cause := 0x24 }),
        (.none, .openFile ⟨0x400FFE⟩ ⟨0⟩ 0), (.none, .dispatch unknown)]
    let requests := Service.under (.upTo .trace) steps
    let records := Service.records Event.record? (k.session requests)
    k.files.Fits ∧
      (∃ calls : List (TrapFrame × Except Errno UInt32), calls.map Prod.fst = [opening, unknown] ∧
        records.filter Log.Record.tracesCall = calls.flatMap callRecords) ∧
      (records.filter Log.Record.tracesCall).map (·.text) =
        ["syscall: 45 (0x400ffe, 0x0, 0x0, 0x0)", "syscall: 45 -> Err(Enomem)",
          "syscall: 7 (0x0, 0x0, 0x0, 0xff)", "syscall: 7 -> Err(Enosys)"] ∧
      records.length = 8 := by
  intro k opening unknown steps requests records
  -- Two of the four requests ask for a call with a frame.
  have asked : steps.flatMap (fun step => step.2.calls) = [opening, unknown] := by decide +kernel
  have traced := (calls_traced k Table.fits_empty steps).2.1
  rw [asked] at traced
  exact ⟨Table.fits_empty, traced, by decide +kernel, by decide +kernel⟩

end SyscallGate
