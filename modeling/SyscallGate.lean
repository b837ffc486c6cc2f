import SyscallGate.Errno
import SyscallGate.Checked
import SyscallGate.Action
import SyscallGate.Conditions
import SyscallGate.Session
import SyscallGate.Text.Hex
import SyscallGate.Text.Utf8
import SyscallGate.Text.Terminated
import SyscallGate.Text.Quoted
import SyscallGate.Log.Level
import SyscallGate.Log.Record
import SyscallGate.Log.Target
import SyscallGate.Log.Logger
import SyscallGate.Memory.Address
import SyscallGate.Memory.Range
import SyscallGate.Memory.UserMemory
import SyscallGate.Memory.Buffer
import SyscallGate.Memory.KernelString
import SyscallGate.Memory.Copy
import SyscallGate.Files.OpenFlags
import SyscallGate.Files.FileLayer
import SyscallGate.Descriptor.Fd
import SyscallGate.Descriptor.Table
import SyscallGate.Trap.Cause
import SyscallGate.Trap.Context
import SyscallGate.Trap.Frame
import SyscallGate.Call.Value
import SyscallGate.Call.Arguments
import SyscallGate.Kernel.Notice
import SyscallGate.Kernel.State
import SyscallGate.Kernel.FileCalls
import SyscallGate.Kernel.Dispatch
import SyscallGate.Kernel.Trap
import SyscallGate.Kernel.Shutdown
import SyscallGate.Kernel.Session
import SyscallGate.Memory.Regions
import SyscallGate.Files.FlatLayer
import SyscallGate.Proofs.Emits
import SyscallGate.Proofs.Returns
import SyscallGate.Proofs.Reports
import SyscallGate.Proofs.Memory.Range
import SyscallGate.Proofs.Memory.Copying
import SyscallGate.Proofs.Memory.Gathering
import SyscallGate.Proofs.Memory.Strings
import SyscallGate.Proofs.Memory.Rounds
import SyscallGate.Proofs.Memory.Delivery
import SyscallGate.Proofs.Memory.Sweep
import SyscallGate.Proofs.Memory.Bounds
import SyscallGate.Proofs.Memory.RoundTrip
import SyscallGate.Proofs.Memory.Splitting
import SyscallGate.Proofs.Text.Quoted
import SyscallGate.Proofs.Text.Numerals
import SyscallGate.Proofs.Call.Arguments
import SyscallGate.Proofs.Call.Layout
import SyscallGate.Proofs.Call.Sequence
import SyscallGate.Proofs.Call.Pairs
import SyscallGate.Proofs.Descriptor.Map
import SyscallGate.Proofs.Descriptor.Operations
import SyscallGate.Proofs.Descriptor.Refinement
import SyscallGate.Proofs.Descriptor.Growth
import SyscallGate.Proofs.Descriptor.Replay
import SyscallGate.Proofs.Kernel.Events
import SyscallGate.Proofs.Kernel.FileCalls
import SyscallGate.Proofs.Kernel.Routing
import SyscallGate.Proofs.Kernel.Turnover
import SyscallGate.Proofs.Kernel.Conservation
import SyscallGate.Proofs.Kernel.Naming
import SyscallGate.Proofs.Kernel.Confinement
import SyscallGate.Proofs.Kernel.DirectCalls
import SyscallGate.Proofs.Kernel.Totality
import SyscallGate.Proofs.Kernel.Registers
import SyscallGate.Proofs.Kernel.Logging
import SyscallGate.Proofs.Kernel.Lines
import SyscallGate.Proofs.Kernel.Records
import SyscallGate.Proofs.Kernel.CallTrace
import SyscallGate.Proofs.Kernel.Replay
import SyscallGate.Proofs.Kernel.Shutdown
import SyscallGate.Proofs.Kernel.Opening
import SyscallGate.Proofs.Kernel.FailedOpening
import SyscallGate.Proofs.Kernel.Closing
import SyscallGate.Proofs.Kernel.Directory
