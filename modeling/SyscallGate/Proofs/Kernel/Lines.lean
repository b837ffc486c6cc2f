import SyscallGate.Files.FlatLayer
import SyscallGate.Memory.Regions
import SyscallGate.Proofs.Kernel.Logging
import SyscallGate.Proofs.Text.Quoted

/-!
# Log lines

Every report of the kernel is one line: no text in it, and no name that a program chose, holds a
control character. So a console shows exactly one line for each record that it took. A line that
quotes a name can be traced back to that name, even if the name looks like an escape, a closing
quote or the rest of a report.

## Main definitions

- `Unbroken`: a text without control characters.
- `Log.LineByLine`: a console shows records line by line.
- `Notice.quotedName?`: the name that a report quotes.

## Main results

- `Notice.unbroken_line`: every report is one line.
- `Notice.name_eq_of_line`: a line determines the name that it quotes.
- `Kernel.names_stay_in_line`: names in log lines, for all names and all sessions.
-/

namespace SyscallGate

/-! ## Texts without control characters -/

/-- A text without control characters.

Control characters are those below the space, among them the line end, and the delete character. A
text without them stays on its line. -/
def Unbroken (text : String) : Prop := ∀ c ∈ text.toList, ¬ AsciiControl c

@[simp] theorem unbroken_append {a b : String} : Unbroken (a ++ b) ↔ Unbroken a ∧ Unbroken b := by
  simp only [Unbroken, String.toList_append, List.forall_mem_append]

theorem unbroken_ofList {chars : List Char} (printed : ∀ c ∈ chars, ¬ AsciiControl c) :
    Unbroken (String.ofList chars) := by
  rwa [Unbroken, String.toList_ofList]

/-- A text that is given by its characters is unbroken by computation, as a literal is.

The hypothesis is stated as a Boolean so that it is decided character by character, without a search
through all characters. -/
theorem unbroken_literal {chars : List Char}
    (printed : chars.all (fun c => !decide (AsciiControl c)) = true) :
    Unbroken (String.ofList chars) :=
  unbroken_ofList (not_asciiControl_of_all printed)

/-- The digits of a number are letters and figures, in every base up to 16. -/
theorem not_asciiControl_of_mem_toDigits {base : Nat} (two : 1 < base) (sixteen : base ≤ 16)
    (n : Nat) : ∀ c ∈ Nat.toDigits base n, ¬ AsciiControl c :=
  forall_mem_toDigits (fun c => ¬ AsciiControl c) two
    (fun d small => not_asciiControl_digitChar d (Nat.lt_of_lt_of_le small sixteen)) n

@[simp] theorem unbroken_repr (n : Nat) : Unbroken n.repr := by
  rw [Unbroken, Nat.toList_repr]
  exact not_asciiControl_of_mem_toDigits (by decide) (by decide) n

/-- A plain hexadecimal number is a mark and its digits, and a wide one has zeros between them. -/
@[simp] theorem unbroken_plain (n : Nat) : Unbroken (Hex.plain n) := by
  apply unbroken_append.mpr
  constructor
  · exact unbroken_literal (by decide)
  · exact unbroken_ofList (not_asciiControl_of_mem_toDigits (by decide) (by decide) n)

@[simp] theorem unbroken_wide (n : Nat) : Unbroken (Hex.wide n) := by
  apply unbroken_append.mpr
  constructor
  · exact unbroken_literal (by decide)
  · apply unbroken_ofList
    -- Padding is made of zeros, and what follows are digits.
    intro c mem
    rcases List.mem_append.mp mem with padding | digit
    · rw [(List.mem_replicate.mp padding).2]
      decide
    · exact not_asciiControl_of_mem_toDigits (by decide) (by decide) n c digit

/-- A quoted name is unbroken whatever its bytes are: the bytes that are control characters stand
there as escapes. -/
@[simp] theorem KernelString.unbroken_quoted (s : KernelString) : Unbroken s.quoted :=
  unbroken_ofList fun _ => KernelString.not_asciiControl_of_mem_quotedChars

@[simp] theorem Fd.unbroken_text (fd : Fd) : Unbroken fd.text := unbroken_repr fd.number

@[simp] theorem UserAddr.unbroken_text (a : UserAddr) : Unbroken a.text := unbroken_wide a.toNat

@[simp] theorem Errno.unbroken_name (e : Errno) : Unbroken e.name := by
  cases e <;> exact unbroken_literal (by decide)

@[simp] theorem Errno.unbroken_text (e : Errno) : Unbroken e.text := by
  cases e <;> exact unbroken_literal (by decide)

@[simp] theorem Errno.unbroken_describe (e : Errno) : Unbroken e.describe := by
  simp only [describe, Nat.toString_eq_repr, unbroken_append, unbroken_text, unbroken_repr,
    true_and, and_true]
  exact ⟨unbroken_literal (by decide), unbroken_literal (by decide)⟩

@[simp] theorem Table.Error.unbroken_message (e : Table.Error) : Unbroken e.message := by
  cases e <;> exact unbroken_literal (by decide)

@[simp] theorem Cause.unbroken_name (cause : Cause) : Unbroken cause.name := by
  cases cause <;> exact unbroken_literal (by decide)

@[simp] theorem Value.unbroken_labelled (v : Value) : Unbroken v.labelled := by
  unfold labelled
  cases v <;>
    simp only [Nat.toString_eq_repr, unbroken_append, unbroken_repr, and_true] <;>
    exact ⟨unbroken_literal (by decide), unbroken_literal (by decide)⟩

@[simp] theorem Completion.unbroken_labelled (ending : Completion) : Unbroken ending.labelled := by
  unfold labelled
  cases ending <;>
    simp only [unbroken_append, Errno.unbroken_name, Value.unbroken_labelled, and_true] <;>
    exact ⟨unbroken_literal (by decide), unbroken_literal (by decide)⟩

@[simp] theorem Table.Notice.unbroken_text (change : Table.Notice) : Unbroken change.text := by
  unfold text
  cases change <;>
    simp only [unbroken_append, Fd.unbroken_text, and_true] <;>
    exact unbroken_literal (by decide)

/-- Every text of a report is made of numbers, names and texts without control characters. -/
theorem Notice.unbroken_text (n : Notice) : Unbroken n.text := by
  unfold text
  cases n with
  -- The report of the table has a text of its own.
  | table change => exact change.unbroken_text
  | callEntered number a0 a1 a2 a3 =>
    -- The four arguments stand between commas; the intercalation is taken apart first.
    simp only [Nat.toString_eq_repr, List.map_cons, List.map_nil, String.intercalate_cons_cons,
      String.intercalate_singleton, unbroken_append, unbroken_repr, unbroken_plain, and_true,
      true_and]
    and_intros <;> exact unbroken_literal (by decide)
  | _ =>
    -- All other reports are literals with numbers, names and texts in between. Appending splits
    -- them into these parts, and the literals remain.
    simp only [Nat.toString_eq_repr, unbroken_append, unbroken_repr, unbroken_wide,
      Fd.unbroken_text, UserAddr.unbroken_text, Errno.unbroken_describe,
      Table.Error.unbroken_message, Cause.unbroken_name, Completion.unbroken_labelled,
      KernelString.unbroken_quoted, and_true]
    and_intros <;> exact unbroken_literal (by decide)

/-- The name of a level, in brackets, padded with spaces to one width. -/
theorem Log.Level.unbroken_column (level : Log.Level) : Unbroken level.column := by
  apply unbroken_append.mpr
  constructor
  · cases level <;> exact unbroken_literal (by decide)
  · apply unbroken_ofList
    intro c padding
    rw [(List.mem_replicate.mp padding).2]
    decide

theorem Log.Target.unbroken_path (target : Log.Target) : Unbroken target.path := by
  cases target <;> exact unbroken_literal (by decide)

/-- **Every report is one line.**

It is made of the level, the target and the text, with a literal between any two of them. -/
theorem Notice.unbroken_line (n : Notice) : Unbroken n.record.line := by
  have column : Unbroken n.record.level.column := n.record.level.unbroken_column
  have path : Unbroken n.record.target := n.target.unbroken_path
  have text : Unbroken n.record.text := n.unbroken_text
  simp only [Log.Record.line, unbroken_append, column, path, text, and_true]
  and_intros <;> exact unbroken_literal (by decide)

/-! ## Lines of a console -/

namespace Log

/-- A line determines the level of its record, which is told by its second character.

The second character suffices: the names of the five levels begin with different letters. The target
and the text need not be looked at, nor could they lead to another level. -/
theorem Record.level_eq_of_line {r r' : Record} (same : r.line = r'.line) : r.level = r'.level := by
  -- The five levels have different initials, and a column is never empty.
  have initials : ∀ level level' : Level,
      level.column.toList.head? = level'.column.toList.head? → level = level' := by
    intro level level'
    cases level <;> cases level' <;> decide +kernel
  have filled (level : Level) : level.column.toList ≠ [] := by
    cases level <;> decide +kernel
  have chars := congrArg String.toList same
  simp only [line, String.toList_append, List.append_assoc] at chars
  -- Both lines begin with the columns, so the first characters behind the bracket agree.
  apply initials
  rw [← List.head?_append_of_ne_nil _ (filled r.level), List.append_cancel_left chars,
    List.head?_append_of_ne_nil _ (filled r'.level)]

/-- A console shows records line by line: what a logger with a working console writes of them, cut
at the line ends, are the lines of the records that it admits.

The filter and what the console showed before are arbitrary. What is cut at the line ends is what
these records added. -/
structure LineByLine (records : List Record) : Prop where
  unbroken : ∀ record ∈ records, Unbroken record.line
  /-- Behind the last line end there is nothing. -/
  shown : ∀ (f : Filter) (console : Console), console.failing = false →
    ∃ text : String,
      ((Logger.mk f console).takeAll records).console.written = console.written ++ text ∧
        text.toList.splitOn '\n' =
          (records.filter fun record => f.admits record.level).map (·.line.toList) ++ [[]]

/-- The text of records, each on its line. -/
def Record.linesOf (records : List Record) : List Char :=
  records.flatMap fun record => record.line.toList ++ ['\n']

theorem Console.written_writeEach {console : Console} (working : console.failing = false)
    (records : List Record) :
    (console.writeEach records).written =
      console.written ++ String.ofList (Record.linesOf records) := by
  induction records generalizing console with
  -- Nothing is written of no records.
  | nil => exact String.append_empty.symm
  | cons record rest ih =>
    -- A console that works appends the line and a line end.
    have line : console.writeLine record.line =
        ⟨console.failing, console.written ++ record.line ++ "\n"⟩ :=
      if_neg (by simp [working])
    have later := @ih ⟨console.failing, console.written ++ record.line ++ "\n"⟩ working
    show ((console.writeLine record.line).writeEach rest).written = _
    rw [line, later]
    simp [Record.linesOf, ← String.toList_inj]

/-- What records without control characters add to a console falls apart at the line ends into their
lines. A line end within a line would cut it in two. -/
theorem Record.splitOn_linesOf {records : List Record}
    (unbroken : ∀ record ∈ records, Unbroken record.line) :
    (linesOf records).splitOn '\n' = records.map (·.line.toList) ++ [[]] := by
  induction records with
  | nil => rfl
  | cons record rest ih =>
    obtain ⟨first, others⟩ := List.forall_mem_cons.mp unbroken
    -- A line end is a control character, so the only one is behind the line.
    have inLine : '\n' ∉ record.line.toList := fun lineEnd => first _ lineEnd (by decide)
    rw [linesOf, List.flatMap_cons, List.append_assoc, List.singleton_append,
      List.splitOn_append_cons_self_of_not_mem inLine]
    show _ :: (linesOf rest).splitOn '\n' = _
    rw [ih others]
    rfl

/-- **Records without control characters are shown line by line.** -/
theorem lineByLine_of_unbroken {records : List Record}
    (unbroken : ∀ record ∈ records, Unbroken record.line) : LineByLine records := by
  refine ⟨unbroken, fun f console working => ?_⟩
  -- What the filter leaves are records of the same list.
  have admitted : ∀ record ∈ records.filter fun record => f.admits record.level,
      Unbroken record.line :=
    fun record mem => unbroken record (List.mem_filter.mp mem).1
  refine ⟨String.ofList (Record.linesOf (records.filter fun record => f.admits record.level)),
    ?_, ?_⟩
  · -- What the logger writes are the records that it admits, each on its line.
    rw [Logger.takeAll_eq]
    exact Console.written_writeEach working _
  · -- Cut at the line ends, this gives the lines back.
    rw [String.toList_ofList]
    exact Record.splitOn_linesOf admitted

end Log

/-! ## Lines that quote a name -/

namespace Notice

/-- The name that a report quotes.

These are the reports on a failed opening: of the layer, of the table, and of the layer again when
the file is handed back. -/
def quotedName? : Notice → Option KernelString
  | openFailed name _ | noDescriptor name _ | undoFailed name _ => some name
  | _ => none

/-- What stands before the name in a report that quotes one.

Two of these reports are details and one is a warning, so the level tells which text it is. -/
def lead : Log.Level → String
  | .warn => "open: releasing "
  | _ => "open: "

/-- In a report that quotes a name, the name follows a text that the level determines, and something
else than a dot follows the name.

A dot behind the closing quote would be the mark of a name that was cut. That none follows is what
makes the end of the name visible. -/
theorem text_of_quotedName? {n : Notice} {name : KernelString}
    (quotes : n.quotedName? = some name) :
    n.target = .fileCalls ∧ ∃ rest : List Char, rest.head? ≠ some '.' ∧
      n.text.toList = (lead n.level).toList ++ (name.quotedChars ++ rest) := by
  cases n with
  | openFailed name' cause =>
    -- The layer refused to open the name.
    cases quotes
    refine ⟨rfl, (": " ++ cause.describe).toList, by simp, ?_⟩
    unfold text lead level
    simp only [String.toList_append, KernelString.quoted, String.toList_ofList, List.append_assoc]
  | noDescriptor name' cause =>
    -- There was no descriptor for the file.
    cases quotes
    refine ⟨rfl, (": no descriptor: " ++ cause.message).toList, by simp, ?_⟩
    unfold text lead level
    simp only [String.toList_append, KernelString.quoted, String.toList_ofList, List.append_assoc]
  | undoFailed name' cause =>
    -- The file was handed back, and the layer failed to close it.
    cases quotes
    refine ⟨rfl, (" failed: " ++ cause.describe).toList, by simp, ?_⟩
    unfold text lead level
    simp only [String.toList_append, KernelString.quoted, String.toList_ofList, List.append_assoc]
  -- No other report quotes a name.
  | _ => cases quotes

/-- **A line determines the name that it quotes.**

The level of the record gives the text before the name, and the quoted form gives the name itself,
whatever follows it. So a name cannot be chosen so that its line looks like that of another name. -/
theorem name_eq_of_line {n n' : Notice} {name name' : KernelString}
    (quotes : n.quotedName? = some name) (quotes' : n'.quotedName? = some name')
    (same : n.record.line = n'.record.line) : name = name' := by
  obtain ⟨target, rest, noDot, shape⟩ := text_of_quotedName? quotes
  obtain ⟨target', rest', noDot', shape'⟩ := text_of_quotedName? quotes'
  -- The level is told by the line, and the target is the same for all reports that quote names.
  -- What remains of the line is the text.
  have level : n.level = n'.level := Log.Record.level_eq_of_line same
  have text : n.text = n'.text := by
    unfold Log.Record.line record at same
    rw [level, target, target'] at same
    exact String.append_right_inj _ |>.mp same
  -- Both texts begin with the same lead, and then with a quoted name.
  rw [text, shape', level] at shape
  exact (KernelString.quotedChars_append_inj noDot' noDot (List.append_cancel_left shape)).1.symm

end Notice

/-! ## Sessions -/

variable {μ ν φ : Type}

/-- Whatever a session records is a report of the kernel. -/
theorem Event.unbroken_records (exchanges : List (Kernel.Exchange μ ν φ)) :
    ∀ record ∈ Service.records Event.record? exchanges, Unbroken record.line := by
  intro record mem
  obtain ⟨e, _, isRecord⟩ := List.mem_filterMap.mp mem
  cases e with
  -- A use of memory or of the layer is not recorded.
  | memory | layer => cases isRecord
  | notice report =>
    cases isRecord
    exact report.unbroken_line

/-- **Names stay in their line**: the form of a name in log lines holds no control character and
determines the name, and a line determines the name that it quotes. Whatever is asked of a kernel,
its records are shown line by line, those of failed openings included. -/
theorem Kernel.names_stay_in_line [UserMemory μ] [FileLayer ν φ] (k : Kernel μ ν φ)
    (steps : List (Conditions × Request)) :
    (∀ s : KernelString, Unbroken s.quoted) ∧
      (∀ s s' : KernelString, s.quoted = s'.quoted →
        s.bytes = s'.bytes ∧ s.truncated = s'.truncated) ∧
      (∀ (n n' : Notice) (s s' : KernelString), n.quotedName? = some s →
        n'.quotedName? = some s' → n.record.line = n'.record.line →
          s.bytes = s'.bytes ∧ s.truncated = s'.truncated) ∧
      Log.LineByLine (Service.records Event.record? (k.session steps)) := by
  -- The form of a name, the form determines it, a line determines it, and a session shows line by
  -- line.
  refine ⟨KernelString.unbroken_quoted, ?_, ?_, ?_⟩
  · intro s s' same
    cases KernelString.quoted_injective same
    exact ⟨rfl, rfl⟩
  · intro n n' s s' quotes quotes' same
    cases Notice.name_eq_of_line quotes quotes' same
    exact ⟨rfl, rfl⟩
  · exact Log.lineByLine_of_unbroken (Event.unbroken_records _)

/-- A program opens a file whose name is a quote, a line end and the beginning of a warning. The
console shows one line for it, and then an empty one. -/
theorem Kernel.names_stay_in_line_forged :
    let k : Kernel RegionMemory FlatLayer Nat :=
      initial ⟨[⟨0x400FF7, [34, 10, 91, 87, 65, 82, 78, 0xFF, 0], false, none⟩]⟩
        (FlatLayer.empty [])
    let steps : List (Conditions × Request) :=
      [(⟨.upTo .debug, .none⟩, .openFile ⟨0x400FF7⟩ ⟨0⟩ 0)]
    let records := Service.records Event.record? (k.session steps)
    (∀ record ∈ records, Unbroken record.line) ∧
      ∃ text : String,
        ((Log.Logger.mk (.upTo .debug) .empty).takeAll records).console.written = "" ++ text ∧
          text.toList.splitOn '\n' =
            [("[DEBUG] pantheros_syscall::syscall::fs: open: \"\\\"\\n[WARN\\xff\": " ++
              "No such file or directory (19)").toList, []] := by
  intro k steps records
  -- The last part of the theorem is the one about sessions; here it is about this one.
  have lines := (names_stay_in_line k steps).2.2.2
  have shown := lines.shown (.upTo .debug) .empty rfl
  -- One record is admitted, and its line holds the escaped name.
  have all : (records.filter fun record => (Log.Filter.upTo .debug).admits record.level).map
      (·.line.toList) = [("[DEBUG] pantheros_syscall::syscall::fs: open: \"\\\"\\n[WARN\\xff\": " ++
        "No such file or directory (19)").toList] := by decide +kernel
  rw [all] at shown
  exact ⟨lines.unbroken, shown⟩

end SyscallGate
