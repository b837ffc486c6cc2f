/-!
# Trap causes

Why the processor left user mode. Bits 2 to 6 of the cause register hold the exception number; the
other bits say nothing about it.
-/

namespace SyscallGate

/-- Why the processor left user mode.

Numbers above 12 have no meaning here, and are not told apart. -/
inductive Cause where
  | interrupt
  /-- A write to a page that is mapped for reading only. -/
  | tlbModify
  /-- No mapping for a read or an instruction fetch. -/
  | tlbLoad
  /-- No mapping for a write. -/
  | tlbStore
  /-- A misaligned or forbidden read. -/
  | addressLoad
  /-- A misaligned or forbidden write. -/
  | addressStore
  /-- A bus error on an instruction fetch. -/
  | busInstruction
  /-- A bus error on a data access. -/
  | busData
  | syscall
  | breakpoint
  | reservedInstruction
  | coprocessorUnusable
  | overflow
  | other
  deriving DecidableEq, Repr

namespace Cause

/-- The exception number in a cause register.

The register holds more than that, so two registers with the same number have the same cause. -/
def exceptionNumber (register : UInt32) : Nat := register.toNat / 4 % 32

/-- The cause of a given exception number. -/
def ofExceptionNumber : Nat → Cause
  | 0 => interrupt
  | 1 => tlbModify
  | 2 => tlbLoad
  | 3 => tlbStore
  | 4 => addressLoad
  | 5 => addressStore
  | 6 => busInstruction
  | 7 => busData
  | 8 => syscall
  | 9 => breakpoint
  | 10 => reservedInstruction
  | 11 => coprocessorUnusable
  | 12 => overflow
  | _ => other

/-- The cause that a cause register reports. -/
def ofRegister (register : UInt32) : Cause := ofExceptionNumber (exceptionNumber register)

/-- The number of the cause; 255 where the exception number has no meaning. -/
def code : Cause → Nat
  | interrupt => 0
  | tlbModify => 1
  | tlbLoad => 2
  | tlbStore => 3
  | addressLoad => 4
  | addressStore => 5
  | busInstruction => 6
  | busData => 7
  | syscall => 8
  | breakpoint => 9
  | reservedInstruction => 10
  | coprocessorUnusable => 11
  | overflow => 12
  | other => 255

def name : Cause → String
  | interrupt => "Interrupt"
  | tlbModify => "TlbModify"
  | tlbLoad => "TlbLoad"
  | tlbStore => "TlbStore"
  | addressLoad => "AddressLoad"
  | addressStore => "AddressStore"
  | busInstruction => "BusInstruction"
  | busData => "BusData"
  | syscall => "Syscall"
  | breakpoint => "Breakpoint"
  | reservedInstruction => "ReservedInstruction"
  | coprocessorUnusable => "CoprocessorUnusable"
  | overflow => "Overflow"
  | other => "Other"

end Cause

end SyscallGate
