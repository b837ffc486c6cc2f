import SyscallGate.Files.FlatLayer
import SyscallGate.Proofs.Kernel.FileCalls
import SyscallGate.Proofs.Memory.Gathering
import SyscallGate.Proofs.Memory.Strings

/-!
# Telling the working directory

The layer is asked to write the working directory into a zeroed buffer, and to report how much it
wrote. The path is what stands before the first zero byte among the bytes that it reports; a report
beyond the end of the buffer is cut. A program gets the path, or as much of it as it has room for,
and nothing else: no closing mark, and no byte that the layer left or wrote behind the path. This
does not depend on what the layer writes and reports.

## Main definitions

- `Kernel.PathTold`: the layer was asked, and tells a path.
- `Kernel.Telling`: what telling the working directory can do.
- `Kernel.DeliversPath`: a program gets bytes of the path, and nothing else.

## Main results

- `Kernel.currentDirectory_delivers`: this is what happens, whatever the layer answers.
-/

namespace SyscallGate.Kernel

variable {μ ν φ : Type} [FileLayer ν φ]

/-- There is kernel memory for the longest path, and the layer tells a path.

The buffer that the layer is asked to fill is zeroed, so what it leaves alone ends the path. The
report is a number of 64 bits that nothing bounds, and the path is what it makes of the buffer. -/
inductive PathTold (c : Conditions) (k : Kernel μ ν φ) : List UInt8 → FileCall φ → ν → Prop where
  | intro {buffer : Vector UInt8 pathMax} {count : UInt64} {layer : ν}
      (granted : Buffer.CanReserve c (pathMax + 1))
      (answer : FileLayer.currentDirectory (Vector.replicate pathMax 0) k.layer =
        (.ok (buffer, count), layer)) :
      PathTold c k (pathIn buffer.toList count)
        (.currentDirectory pathMax (.ok (buffer.toList, count))) layer

variable {c : Conditions} {dst : UserAddr} {room : Nat} {k : Kernel μ ν φ}

/-- A path has no zero byte.

The first zero byte ends it, at the latest. -/
theorem PathTold.zero_notMem {path : List UInt8} {lookup : FileCall φ} {layer : ν}
    (told : PathTold c k path lookup layer) : 0 ∉ path := by
  cases told with
  | intro => exact Copy.zero_notMem_takeWhile _

variable [UserMemory μ]

/-- What telling the working directory can do: the answer, the kernel afterwards, and the uses of
the layer and of memory.

The endings are in the order in which an execution meets them. In each of them it is settled what
the layer was asked and how memory was used, so nothing happens besides. -/
inductive Telling (c : Conditions) (dst : UserAddr) (room : Nat) (k : Kernel μ ν φ) :
    Except Errno Nat → Kernel μ ν φ → List (FileCall φ) → List MemoryCall → Prop where
  | noBuffer (denied : ¬ Buffer.CanReserve c (pathMax + 1)) :
      Telling c dst room k (.error .enomem) k [] []
  | lookupFailed {e : Errno} {layer : ν} (granted : Buffer.CanReserve c (pathMax + 1))
      (answer : FileLayer.currentDirectory (Vector.replicate pathMax 0) k.layer =
        (.error e, layer)) :
      Telling c dst room k (.error e) { k with layer } [.currentDirectory pathMax (.error e)] []
  /-- Nothing is to be copied, so it does not matter where to. -/
  | nothing {path : List UInt8} {lookup : FileCall φ} {layer : ν}
      (told : PathTold c k path lookup layer) (none : min path.length room = 0) :
      Telling c dst room k (.ok 0) { k with layer } [lookup] []
  | outside {path : List UInt8} {lookup : FileCall φ} {layer : ν}
      (told : PathTold c k path lookup layer) (some : 0 < min path.length room)
      (outside : ¬ InUserSpace dst (min path.length room)) :
      Telling c dst room k (.error .efault) { k with layer } [lookup] []
  | asked {path : List UInt8} {lookup : FileCall φ} {layer : ν} {answer : Except Errno Unit}
      {memory : μ} (told : PathTold c k path lookup layer) (some : 0 < min path.length room)
      (inside : InUserSpace dst (min path.length room))
      (stored : UserMemory.copyOut (path.take room) dst k.memory = (answer, memory)) :
      Telling c dst room k (answer.map fun _ => min path.length room) { k with memory, layer }
        [lookup] [.copyOut (path.take room) dst answer]

/-- A program that asks for the working directory gets bytes of the path, and nothing else.

Memories that store what is written to them are told by their bytes. For these the copy is an
overlay of the bytes at one place, which says of every other address that it keeps its byte. -/
structure DeliversPath (c : Conditions) (dst : UserAddr) (room : Nat) (k : Kernel μ ν φ)
    (o : Outcome (Kernel μ ν φ) (Event φ) Errno Nat) : Prop where
  telling : ∃ answer, o.result = answer.mapError .refused ∧
    Telling c dst room k answer o.state (Event.fileCalls o.events) (Event.memoryCalls o.events)
  /-- What reaches memory is the beginning of the path. -/
  onlyPath : ∀ call ∈ Event.memoryCalls o.events, ∃ path lookup layer answer,
    PathTold c k path lookup layer ∧ 0 ∉ path ∧ call = .copyOut (path.take room) dst answer
  /-- If it is accepted, it is all that changes. -/
  inPlace : ∀ byteAt : μ → Nat → UInt8, UserMemory.Stores byteAt → ∀ count, o.result = .ok count →
    ∃ path lookup layer, PathTold c k path lookup layer ∧ count = min path.length room ∧
      byteAt o.state.memory = overlay (byteAt k.memory) dst.toNat (path.take room)

/-- Every locating tells the working directory.

The outcome names the three branches of the call. The last of them is told apart further by what the
copy to the program does. -/
theorem Locating.telling {o : Outcome (Kernel μ ν φ) (Event φ) Errno Nat}
    (outcome : Locating c dst room k o) :
    ∃ answer, o.result = answer.mapError .refused ∧
      Telling c dst room k answer o.state (Event.fileCalls o.events)
        (Event.memoryCalls o.events) := by
  have small : pathMax + 1 ≤ Buffer.reservationLimit := by decide
  cases outcome with
  | noBuffer short =>
    -- With so small a buffer, only a shortage denies it.
    exact ⟨.error .enomem, rfl, .noBuffer fun granted => by cases granted.1.symm.trans short⟩
  | @lookupFailed e layer enough answer =>
    refine ⟨.error e, rfl, ?_⟩
    simpa using Telling.lookupFailed ⟨enough, small⟩ answer
  | @located buffer count layer copied memory calls enough answer copy =>
    -- The path is what the answer of the layer makes of the buffer.
    have told := PathTold.intro ⟨enough, small⟩ answer
    have cut : ((pathIn buffer.toList count).take room).length =
        min (pathIn buffer.toList count).length room := by
      rw [List.length_take, Nat.min_comm]
    -- The uses of the layer and of memory are read off the events, and reports do not count.
    simp only [Event.fileCalls_layer, Event.fileCalls_append, Event.fileCalls_map_memory,
      fileCalls_reported, Event.memoryCalls_layer, Event.memoryCalls_append,
      Event.memoryCalls_map_memory, memoryCalls_reported, List.append_nil]
    refine ⟨_, rfl, ?_⟩
    cases Copy.copiesOut_of_eq copy with
    | nothing empty =>
      -- There is nothing to copy: no room, or an empty path.
      rw [empty, List.length_nil] at cut
      rw [← cut]
      exact .nothing told cut.symm
    | outside filled outside =>
      -- The destination does not lie in user space.
      rw [cut] at outside
      exact .outside told (cut ▸ List.length_pos_iff.mpr filled) outside
    | asked filled inside stored =>
      -- The memory is asked, and its answer is the answer of the call.
      rw [cut] at inside
      exact .asked told (cut ▸ List.length_pos_iff.mpr filled) inside stored

/-- There is one way in which memory is used, and then it is given the beginning of the path. -/
theorem Telling.onlyPath {answer : Except Errno Nat} {after : Kernel μ ν φ}
    {fileCalls : List (FileCall φ)} {calls : List MemoryCall}
    (telling : Telling c dst room k answer after fileCalls calls) :
    ∀ call ∈ calls, ∃ path lookup layer answer,
      PathTold c k path lookup layer ∧ 0 ∉ path ∧ call = .copyOut (path.take room) dst answer := by
  cases telling with
  -- Memory was not used at all.
  | noBuffer | lookupFailed | nothing | outside => exact nofun
  | asked told =>
    intro call used
    exact ⟨_, _, _, _, told, told.zero_notMem, List.mem_singleton.mp used⟩

/-- If telling the working directory succeeds, the path is in place.

A success means that the copy was accepted, or that there was nothing to copy. -/
theorem Locating.inPlace {o : Outcome (Kernel μ ν φ) (Event φ) Errno Nat}
    (outcome : Locating c dst room k o) {byteAt : μ → Nat → UInt8}
    (stores : UserMemory.Stores byteAt) {count : Nat} (ended : o.result = .ok count) :
    ∃ path lookup layer, PathTold c k path lookup layer ∧ count = min path.length room ∧
      byteAt o.state.memory = overlay (byteAt k.memory) dst.toNat (path.take room) := by
  cases outcome with
  -- These two refuse.
  | noBuffer => cases ended
  | lookupFailed => cases ended
  | @located buffer reported layer copied memory calls enough answer copy =>
    cases copied with
    -- A copy that fails makes the call fail.
    | error e => cases ended
    | ok =>
      cases ended
      exact ⟨_, _, _, .intro ⟨enough, by decide⟩ answer, rfl,
        (Copy.copiesOut_of_eq copy).byteAt_eq stores⟩

/-- **Only the path is delivered**, whatever the layer writes and reports.

In particular, neither a report beyond the buffer nor bytes behind the path get through to the
program, and a layer that fails leaves its memory alone. -/
theorem currentDirectory_delivers (c : Conditions) (dst : UserAddr) (room : Nat)
    (k : Kernel μ ν φ) : DeliversPath c dst room k (currentDirectory c dst room k) := by
  have outcome := locating c dst room k
  obtain ⟨answer, result, telling⟩ := outcome.telling
  exact ⟨⟨answer, result, telling⟩, telling.onlyPath,
    fun _ stores _ ended => outcome.inPlace stores ended⟩

/-- The layer writes four bytes with a zero byte among them, and reports 5000. Two bytes arrive. -/
theorem currentDirectory_delivers_despite_report :
    let m : PagedMemory := ⟨fun page => page == 0x400, fun _ => 7⟩
    let layer : FlatLayer := { FlatLayer.empty [47, 97, 0, 98] with reported := some 5000 }
    let dst : UserAddr := ⟨0x400010⟩
    let o := currentDirectory ⟨.off, .none⟩ dst 64 (initial m layer)
    UserMemory.Stores PagedMemory.byte ∧ o.result = .ok 2 ∧
      o.state.memory.byte = overlay m.byte dst.toNat [47, 97] := by
  intro m layer dst o
  have delivers : DeliversPath ⟨.off, .none⟩ dst 64 (initial m layer) o :=
    currentDirectory_delivers _ _ _ _
  -- The answer, computed; the theorem then says where the bytes are.
  have told : o.result = .ok 2 := by decide +kernel
  obtain ⟨path, _, _, pathTold, -, inPlace⟩ :=
    delivers.inPlace PagedMemory.byte PagedMemory.stores 2 told
  -- The path that was told is the one that the layer wrote, up to the zero byte.
  have short : path.take 64 = [47, 97] := by
    cases pathTold with
    | intro _ answer =>
      cases answer
      decide +kernel
  rw [short] at inPlace
  exact ⟨PagedMemory.stores, told, inPlace⟩

end SyscallGate.Kernel
