import SyscallGate.Log.Record

/-!
# The kernel logger

One logger serves the whole kernel. It is installed once, with a console and a filter; the filter
may be changed later, the logger itself may not be replaced.

- `Logger.install` installs the logger, unless one is installed already.
- `Logger.log` writes the records that the filter admits; a console that fails writes nothing.
-/

namespace SyscallGate.Log

/-- Where log lines go.

The text is all that was ever written, and writing can fail without notice to the kernel. -/
structure Console where
  /-- Whether every write fails at present. -/
  failing : Bool
  written : String
  deriving DecidableEq, Repr

namespace Console

/-- A console that works and holds no text. -/
def empty : Console := ⟨false, ""⟩

/-- Writes a line, unless writing fails. -/
def writeLine (c : Console) (line : String) : Console :=
  if c.failing then c else { c with written := c.written ++ line ++ "\n" }

end Console

/-- The logger: what it records, and where to. -/
structure Logger where
  filter : Filter
  console : Console
  deriving DecidableEq, Repr

/-- The only way in which an installation fails: a logger is installed already. -/
inductive InstallError where
  | alreadyInstalled
  deriving DecidableEq, Repr

def InstallError.message : InstallError → String
  | alreadyInstalled =>
    "attempted to set a logger after the logging system was already initialized"

namespace Logger

/-- Installs a logger where `current` is the one in place; the one in place stays.

The second attempt is refused, and changes nothing about the logger in place. -/
def install (current : Option Logger) (console : Console) (filter : Filter) :
    Except InstallError Logger :=
  match current with
  | none => .ok ⟨filter, console⟩
  | some _ => .error .alreadyInstalled

/-- Whether a record of this level is written. -/
def enabled (l : Logger) (level : Level) : Bool := l.filter.admits level

def setFilter (l : Logger) (filter : Filter) : Logger := { l with filter }

/-- Takes a record: writes its line if the filter admits it, and drops it otherwise.

A record that is dropped leaves no trace in the logger. -/
def log (l : Logger) (r : Record) : Logger :=
  if l.enabled r.level then { l with console := l.console.writeLine r.line } else l

/-- Hands over pending text. Lines are written at once, so none is ever pending. -/
def flush (l : Logger) : Logger := l

end Logger

end SyscallGate.Log
