import SyscallGate.Trap.Context

/-!
# Trap frames

The registers of a program as the trap entry saves them.

- `TrapFrame` holds 37 words; `Register` names them, and `TrapFrame.get` and `TrapFrame.set` access
    a frame by name.
- As a trap context, the frame has the call number in `v0` and the arguments in `a0` to `a3`. A
    result goes to `v0`, or to `v0` and `v1` with the high word first; an error goes to `v0`. The
    register `a3` tells the two apart: 0 for a result, 1 for an error.
-/

namespace SyscallGate

/-! ## Registers -/

/-- The saved registers of a program.

The order is that in which they lie in memory. -/
structure TrapFrame where
  vaddr : UInt32
  status : UInt32
  cause : UInt32
  lo : UInt32
  hi : UInt32
  ra : UInt32
  asmTemp : UInt32
  v0 : UInt32
  v1 : UInt32
  a0 : UInt32
  a1 : UInt32
  a2 : UInt32
  a3 : UInt32
  t : Vector UInt32 8
  s : Vector UInt32 8
  t8 : UInt32
  t9 : UInt32
  k0 : UInt32
  k1 : UInt32
  gp : UInt32
  sp : UInt32
  s8 : UInt32
  epc : UInt32
  deriving DecidableEq, Repr

/-- The names of the registers, with those of a bank by their number. -/
inductive Register where
  | vaddr | status | cause | lo | hi | ra | asmTemp | v0 | v1 | a0 | a1 | a2 | a3
  | t (i : Fin 8)
  | s (i : Fin 8)
  | t8 | t9 | k0 | k1 | gp | sp | s8 | epc
  deriving DecidableEq, Repr

namespace Register

def all : List Register :=
  [vaddr, status, cause, lo, hi, ra, asmTemp, v0, v1, a0, a1, a2, a3] ++
    (List.finRange 8).map t ++ (List.finRange 8).map s ++ [t8, t9, k0, k1, gp, sp, s8, epc]

def name : Register → String
  | vaddr => "vaddr"
  | status => "status"
  | cause => "cause"
  | lo => "lo"
  | hi => "hi"
  | ra => "ra"
  | asmTemp => "at"
  | v0 => "v0"
  | v1 => "v1"
  | a0 => "a0"
  | a1 => "a1"
  | a2 => "a2"
  | a3 => "a3"
  | t i => "t" ++ toString i.val
  | s i => "s" ++ toString i.val
  | t8 => "t8"
  | t9 => "t9"
  | k0 => "k0"
  | k1 => "k1"
  | gp => "gp"
  | sp => "sp"
  | s8 => "s8"
  | epc => "epc"

def ofName? (n : String) : Option Register :=
  all.find? fun r => r.name == n

end Register

namespace TrapFrame

def byteCount : Nat := 4 * Register.all.length

def instructionWidth : UInt32 := 4

def zero : TrapFrame where
  vaddr := 0
  status := 0
  cause := 0
  lo := 0
  hi := 0
  ra := 0
  asmTemp := 0
  v0 := 0
  v1 := 0
  a0 := 0
  a1 := 0
  a2 := 0
  a3 := 0
  t := .replicate 8 0
  s := .replicate 8 0
  t8 := 0
  t9 := 0
  k0 := 0
  k1 := 0
  gp := 0
  sp := 0
  s8 := 0
  epc := 0

/-- The word in a register.

Every word of the frame has a name, so a frame is known by its words. -/
def get (f : TrapFrame) : Register → UInt32
  | .vaddr => f.vaddr
  | .status => f.status
  | .cause => f.cause
  | .lo => f.lo
  | .hi => f.hi
  | .ra => f.ra
  | .asmTemp => f.asmTemp
  | .v0 => f.v0
  | .v1 => f.v1
  | .a0 => f.a0
  | .a1 => f.a1
  | .a2 => f.a2
  | .a3 => f.a3
  | .t i => f.t[i]
  | .s i => f.s[i]
  | .t8 => f.t8
  | .t9 => f.t9
  | .k0 => f.k0
  | .k1 => f.k1
  | .gp => f.gp
  | .sp => f.sp
  | .s8 => f.s8
  | .epc => f.epc

/-- The frame with another word in a register.

The other words stay as they are. -/
def set (f : TrapFrame) (r : Register) (w : UInt32) : TrapFrame :=
  match r with
  | .vaddr => { f with vaddr := w }
  | .status => { f with status := w }
  | .cause => { f with cause := w }
  | .lo => { f with lo := w }
  | .hi => { f with hi := w }
  | .ra => { f with ra := w }
  | .asmTemp => { f with asmTemp := w }
  | .v0 => { f with v0 := w }
  | .v1 => { f with v1 := w }
  | .a0 => { f with a0 := w }
  | .a1 => { f with a1 := w }
  | .a2 => { f with a2 := w }
  | .a3 => { f with a3 := w }
  | .t i => { f with t := f.t.set i w }
  | .s i => { f with s := f.s.set i w }
  | .t8 => { f with t8 := w }
  | .t9 => { f with t9 := w }
  | .k0 => { f with k0 := w }
  | .k1 => { f with k1 := w }
  | .gp => { f with gp := w }
  | .sp => { f with sp := w }
  | .s8 => { f with s8 := w }
  | .epc => { f with epc := w }

/-! ## The frame as a trap context -/

/-- An argument register, by its position. -/
def argument (f : TrapFrame) : Nat → Checked UInt32
  | 0 => .ok f.a0
  | 1 => .ok f.a1
  | 2 => .ok f.a2
  | 3 => .ok f.a3
  | index => .error (.argumentRegister index)

/-- Writes a result; a pair has its high word in `v0`.

The flag in `a3` is cleared, which tells the program that `v0` is a result. -/
def setReturn (value : Value) (f : TrapFrame) : TrapFrame :=
  match value with
  | .word w => { f with v0 := w, a3 := 0 }
  | .pair p => { f with v0 := (p >>> 32).toUInt32, v1 := p.toUInt32, a3 := 0 }

/-- Writes an error.

Only `v0` and the flag change. What was in `v1` stays there. -/
def setError (e : Errno) (f : TrapFrame) : TrapFrame :=
  { f with v0 := e.code, a3 := 1 }

/-- Moves on to the next instruction.

The sum wraps around at 32 bits, as the program counter does. -/
def advance (f : TrapFrame) : TrapFrame :=
  { f with epc := f.epc + instructionWidth }

instance : TrapContext TrapFrame where
  callNumber f := f.v0
  argument := argument
  stackPointer f := .ofRegister f.sp
  setReturn := setReturn
  setError := setError
  advance := advance

/-! ## Text -/

/-- The words of a bank of registers, between brackets. -/
def bankText (bank : Vector UInt32 8) : String :=
  "[" ++ String.intercalate ", " (bank.toList.map fun w => toString w.toNat) ++ "]"

def labelled (f : TrapFrame) : String :=
  let single (r : Register) : String := r.name ++ ": " ++ toString (f.get r).toNat
  let fields :=
    [.vaddr, .status, .cause, .lo, .hi, .ra, .asmTemp, .v0, .v1, .a0, .a1, .a2, .a3].map single ++
    ["t: " ++ bankText f.t, "s: " ++ bankText f.s] ++
    [.t8, .t9, .k0, .k1, .gp, .sp, .s8, .epc].map single
  "TrapFrame \x7b " ++ String.intercalate ", " fields ++ " \x7d"

end TrapFrame

end SyscallGate
