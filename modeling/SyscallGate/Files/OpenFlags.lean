import SyscallGate.Errno
import SyscallGate.Text.Hex

/-!
# Open flags

The word of flags with which a file is opened. Seven of its bits have a meaning here; the others
are kept as they are and passed on.

- `OpenFlags.accessMode` reads the two lowest bits as one number; the value 3 is refused.
- The operations on sets of flags act on all 32 bits, except that `complement` and `truncated`
    leave known bits only.
-/

namespace SyscallGate

/-- A word of open flags.

Any word will do: what its bits mean is for the file layer to say, apart from the access mode. -/
structure OpenFlags where
  bits : UInt32
  deriving DecidableEq, Repr

/-- What an open file may be used for. -/
inductive AccessMode where
  | readOnly
  | writeOnly
  | readWrite
  deriving DecidableEq, Repr

def AccessMode.name : AccessMode → String
  | readOnly => "ReadOnly"
  | writeOnly => "WriteOnly"
  | readWrite => "ReadWrite"

namespace OpenFlags

/-! ## The known bits -/

def writeOnly : OpenFlags := ⟨1⟩

def readWrite : OpenFlags := ⟨2⟩

/-- Create the file if no file has the name. -/
def create : OpenFlags := ⟨4⟩

/-- Together with `create`: refuse a name that exists. -/
def exclusive : OpenFlags := ⟨8⟩

/-- Cut the file to length zero. -/
def truncate : OpenFlags := ⟨16⟩

/-- Write at the end only. -/
def append : OpenFlags := ⟨32⟩

/-- Do not make a terminal the controlling one. -/
def noControl : OpenFlags := ⟨64⟩

/-- The known flags with their names, lowest bit first. -/
def known : List (String × OpenFlags) :=
  [("O_WRONLY", writeOnly), ("O_RDWR", readWrite), ("O_CREAT", create), ("O_EXCL", exclusive),
    ("O_TRUNC", truncate), ("O_APPEND", append), ("O_NOCTTY", noControl)]

/-- The bits that hold the access mode. -/
def accessMask : UInt32 := 3

/-- The union of the known flags. -/
def knownMask : UInt32 := 0x7f

/-! ## Access mode -/

/-- The access mode; both low bits together name none.

An opening looks at it before it does anything else, so a word with both bits is refused without a
use of memory. -/
def accessMode (f : OpenFlags) : Except Errno AccessMode :=
  let mode := f.bits &&& accessMask
  if mode = 0 then .ok .readOnly
  else if mode = 1 then .ok .writeOnly
  else if mode = 2 then .ok .readWrite
  else .error .einval

/-! ## Sets of flags -/

def isEmpty (f : OpenFlags) : Bool := f.bits == 0

/-- Whether every bit of `g` is set in `f`. -/
def contains (f g : OpenFlags) : Bool := f.bits &&& g.bits == g.bits

def isAll (f : OpenFlags) : Bool := f.contains ⟨knownMask⟩

def intersects (f g : OpenFlags) : Bool := f.bits &&& g.bits != 0

def union (f g : OpenFlags) : OpenFlags := ⟨f.bits ||| g.bits⟩

def inter (f g : OpenFlags) : OpenFlags := ⟨f.bits &&& g.bits⟩

def diff (f g : OpenFlags) : OpenFlags := ⟨f.bits &&& ~~~g.bits⟩

def symmDiff (f g : OpenFlags) : OpenFlags := ⟨f.bits ^^^ g.bits⟩

/-- The flags without unknown bits. -/
def truncated (f : OpenFlags) : OpenFlags := ⟨f.bits &&& knownMask⟩

/-- The known bits that are not set. -/
def complement (f : OpenFlags) : OpenFlags := truncated ⟨~~~f.bits⟩

/-- A word as flags, provided that it has no unknown bit.

A word from a program is taken as it is, with `OpenFlags.mk`. -/
def ofBits? (bits : UInt32) : Option OpenFlags :=
  if bits &&& ~~~knownMask = 0 then some ⟨bits⟩ else none

/-! ## Text -/

/-- The names of the known flags that are set, lowest bit first. -/
def names (f : OpenFlags) : List String :=
  (known.filter fun flag => f.contains flag.2).map (·.1)

/-- The flags with the name of their kind: the known ones by name, then the unknown bits as one
number. -/
def labelled (f : OpenFlags) : String :=
  let unknown := f.bits &&& ~~~knownMask
  let rest := if unknown = 0 then [] else [Hex.plain unknown.toNat]
  let parts := if f.isEmpty then [Hex.plain 0] else f.names ++ rest
  "OpenFlags(" ++ String.intercalate " | " parts ++ ")"

end OpenFlags

end SyscallGate
