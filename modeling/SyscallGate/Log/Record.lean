import SyscallGate.Log.Level

/-!
# Log records

A record has a level, a target that names the part of the kernel it comes from, and a text.
`Record.line` is the form in which it reaches the console.
-/

namespace SyscallGate.Log

/-- One report of the kernel.

The line end is not part of the text, and is added by the console. -/
structure Record where
  level : Level
  target : String
  text : String
  deriving DecidableEq, Repr

/-- The level, left-aligned in a field of five columns. -/
def Level.column (level : Level) : String :=
  level.name ++ String.ofList (List.replicate (5 - level.name.length) ' ')

/-- The record as one line, without the line end.

The level has a fixed width, so the targets of all lines begin at the same column. -/
def Record.line (r : Record) : String :=
  "[" ++ r.level.column ++ "] " ++ r.target ++ ": " ++ r.text

end SyscallGate.Log
