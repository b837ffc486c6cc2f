/-!
# Log levels

- `Level` ranks a record from `error`, the most urgent, to `trace`.
- `Filter` is the largest rank that is still recorded; `off` records nothing.
- `Filter.admits` decides whether a record of a given level passes.
-/

namespace SyscallGate.Log

/-- How urgent a record is.

The order is that of urgency, with the most urgent one first. -/
inductive Level where
  | error
  | warn
  | info
  | debug
  | trace
  deriving DecidableEq, Repr

/-- The position of a level, from 1 for the most urgent. -/
def Level.rank : Level → Nat
  | error => 1
  | warn => 2
  | info => 3
  | debug => 4
  | trace => 5

def Level.name : Level → String
  | error => "ERROR"
  | warn => "WARN"
  | info => "INFO"
  | debug => "DEBUG"
  | trace => "TRACE"

/-- Which levels are recorded: none, or all up to the given one.

There is no way to record a level without those that are more urgent. -/
inductive Filter where
  | off
  /-- Records at this level and more urgent ones. -/
  | upTo (level : Level)
  deriving DecidableEq, Repr

namespace Filter

/-- The rank of the least urgent level recorded; 0 when there is none. -/
def rank : Filter → Nat
  | off => 0
  | upTo level => level.rank

def name : Filter → String
  | off => "OFF"
  | upTo level => level.name

/-- Whether a record of this level passes.

A filter that is off admits none, since every level has a rank above 0. -/
def admits (f : Filter) (level : Level) : Bool :=
  level.rank ≤ f.rank

@[simp] theorem admits_off (level : Level) : off.admits level = false := by
  cases level <;> rfl

end Filter

end SyscallGate.Log
