/-!
# Error numbers

The closed set of answers a system call can fail with.

- `Errno.code` is the number that reaches the user program.
- `Errno.name` is the symbolic name, as it stands in traces.
- `Errno.text` is the sentence for a reader, and `Errno.describe` joins text and code.

The codes are distinct (`code_injective`), so a number seen in a register names one error.
-/

namespace SyscallGate

/-- Why a system call failed. `Errno.text` says what each one means.

The order is that of the codes, with gaps where a code has no meaning here. -/
inductive Errno where
  | enosys
  | enomem
  | eagain
  | eintr
  | efault
  | enametoolong
  | einval
  | eperm
  | eacces
  | enotdir
  | eisdir
  | enoent
  | eloop
  | enotempty
  | eexist
  | emlink
  | exdev
  | enodev
  | enxio
  | ebusy
  | emfile
  | enfile
  | ebadf
  deriving DecidableEq, Repr

namespace Errno

def all : List Errno :=
  [enosys, enomem, eagain, eintr, efault, enametoolong, einval, eperm, eacces, enotdir, eisdir,
    enoent, eloop, enotempty, eexist, emlink, exdev, enodev, enxio, ebusy, emfile, enfile, ebadf]

/-- The number that user programs see.

No error has the number 0. -/
def code : Errno → UInt32
  | enosys => 1
  | enomem => 3
  | eagain => 4
  | eintr => 5
  | efault => 6
  | enametoolong => 7
  | einval => 8
  | eperm => 9
  | eacces => 10
  | enotdir => 17
  | eisdir => 18
  | enoent => 19
  | eloop => 20
  | enotempty => 21
  | eexist => 22
  | emlink => 23
  | exdev => 24
  | enodev => 25
  | enxio => 26
  | ebusy => 27
  | emfile => 28
  | enfile => 29
  | ebadf => 30

def name : Errno → String
  | enosys => "Enosys"
  | enomem => "Enomem"
  | eagain => "Eagain"
  | eintr => "Eintr"
  | efault => "Efault"
  | enametoolong => "Enametoolong"
  | einval => "Einval"
  | eperm => "Eperm"
  | eacces => "Eacces"
  | enotdir => "Enotdir"
  | eisdir => "Eisdir"
  | enoent => "Enoent"
  | eloop => "Eloop"
  | enotempty => "Enotempty"
  | eexist => "Eexist"
  | emlink => "Emlink"
  | exdev => "Exdev"
  | enodev => "Enodev"
  | enxio => "Enxio"
  | ebusy => "Ebusy"
  | emfile => "Emfile"
  | enfile => "Enfile"
  | ebadf => "Ebadf"

/-- The sentence that describes the error to a reader. -/
def text : Errno → String
  | enosys => "Function not implemented"
  | enomem => "Out of memory"
  | eagain => "Operation would block"
  | eintr => "Interrupted system call"
  | efault => "Bad memory reference"
  | enametoolong => "String too long"
  | einval => "Invalid argument"
  | eperm => "Operation not permitted"
  | eacces => "Permission denied"
  | enotdir => "Not a directory"
  | eisdir => "Is a directory"
  | enoent => "No such file or directory"
  | eloop => "Too many levels of symbolic links"
  | enotempty => "Directory not empty"
  | eexist => "File or object exists"
  | emlink => "Too many hard links"
  | exdev => "Cross-device link"
  | enodev => "No such device"
  | enxio => "Device not available"
  | ebusy => "Device or resource busy"
  | emfile => "Too many open files"
  | enfile => "Too many open files in system"
  | ebadf => "Bad file number"

/-- Text and code together, such as `Bad file number (30)`. -/
def describe (e : Errno) : String :=
  e.text ++ " (" ++ toString e.code.toNat ++ ")"

def ofName? (s : String) : Option Errno :=
  all.find? fun e => e.name == s

/-- The error of a given code.

Codes that are not in use name no error. -/
def ofCode? (code : UInt32) : Option Errno :=
  all.find? fun e => e.code == code

/-- The list of errors is complete. -/
theorem mem_all (e : Errno) : e ∈ all := by
  cases e <;> decide

@[simp] theorem ofCode?_code (e : Errno) : ofCode? e.code = some e := by
  cases e <;> decide

@[simp] theorem ofName?_name (e : Errno) : ofName? e.name = some e := by
  cases e <;> decide

/-- A code names at most one error.

So a program can tell the errors apart by the number that it gets. -/
theorem code_injective {e e' : Errno} (h : e.code = e'.code) : e = e' := by
  have := congrArg ofCode? h
  simpa using this

theorem name_injective {e e' : Errno} (h : e.name = e'.name) : e = e' := by
  have := congrArg ofName? h
  simpa using this

end Errno

end SyscallGate
