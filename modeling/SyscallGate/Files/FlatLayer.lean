import SyscallGate.Files.FileLayer

/-!
# A flat file layer

A file layer without directories: a set of names, each of them a file. Open files are told apart by
numbers that are never used twice.

- Opening a name that does not exist creates it if asked to, and fails otherwise.
- Each operation can be made to fail, and the report on the working directory can be made to lie.
-/

namespace SyscallGate

/-- A file layer that knows names only.

It is used in concrete runs, where every answer has to be computed. -/
structure FlatLayer where
  names : List (List UInt8)
  directory : List UInt8
  /-- What is reported as the number of bytes written, in place of the truth. -/
  reported : Option UInt64
  openFault : Option Errno
  closeFault : Option Errno
  directoryFault : Option Errno
  nextId : Nat
  /-- The open files with their names, in the order of opening. -/
  live : List (Nat × List UInt8)
  deriving DecidableEq, Repr

namespace FlatLayer

/-- A layer with given working directory, without names and open files, in which nothing fails. -/
def empty (directory : List UInt8) : FlatLayer where
  names := []
  directory := directory
  reported := none
  openFault := none
  closeFault := none
  directoryFault := none
  nextId := 1
  live := []

/-- The layer with one more open file. -/
def enter (l : FlatLayer) (name : List UInt8) : FlatLayer :=
  { l with nextId := l.nextId + 1, live := l.live ++ [(l.nextId, name)] }

/-- Opens a name with flags: it has to exist, or is created if the flags ask for it. A name that has
to be new must not exist. -/
def openName (l : FlatLayer) (name : List UInt8) (flags : OpenFlags) :
    Except Errno Nat × FlatLayer :=
  match l.openFault with
  | some e => (.error e, l)
  | none =>
    if name ∈ l.names then
      if flags.contains .create ∧ flags.contains .exclusive then
        (.error .eexist, l)
      else
        (.ok l.nextId, l.enter name)
    else if flags.contains .create then
      (.ok l.nextId, { l with names := l.names ++ [name] }.enter name)
    else
      (.error .enoent, l)

/-- Closes an open file. It is gone even when the answer is an error.

A fault is an answer only, and does not keep the file open. -/
def closeId (l : FlatLayer) (id : Nat) : Except Errno Unit × FlatLayer :=
  (l.closeFault.elim (.ok ()) .error, { l with live := l.live.filter fun file => file.1 ≠ id })

/-- A buffer with the beginning of the working directory at its start. -/
def fillBuffer (l : FlatLayer) {n : Nat} (buffer : Vector UInt8 n) : Vector UInt8 n :=
  ⟨(l.directory.take n ++ buffer.toList.drop (l.directory.take n).length).toArray, by
    simp only [List.size_toArray, List.length_append, List.length_take, List.length_drop,
      Vector.length_toList]
    omega⟩

/-- Tells the working directory. -/
def tellDirectory (l : FlatLayer) {n : Nat} (buffer : Vector UInt8 n) :
    Except Errno (Vector UInt8 n × UInt64) :=
  match l.directoryFault with
  | some e => .error e
  | none =>
    .ok (l.fillBuffer buffer, l.reported.getD (UInt64.ofNat (min l.directory.length n)))

instance : FileLayer FlatLayer Nat where
  openFile path flags _ l := l.openName path.bytes flags
  closeFile id l := l.closeId id
  currentDirectory buffer l := (l.tellDirectory buffer, l)

end FlatLayer

end SyscallGate
