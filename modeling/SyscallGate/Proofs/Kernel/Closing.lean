import SyscallGate.Files.FlatLayer
import SyscallGate.Memory.Regions
import SyscallGate.Proofs.Kernel.Totality

/-!
# Closing a number

Any word can be closed, and few words are descriptors in use. A word that is not is refused, and
nothing happens. A descriptor in use is free afterwards, whatever the layer answers when it gets the
file back; that answer is returned as it is. Numbers are compared before they are cut to the size of
a descriptor, so a number that differs from a descriptor by a multiple of 256 is not that
descriptor.

## Main definitions

- `Kernel.ClosesNumber`: the effects of closing a number.

## Main results

- `Kernel.close_outcome`: these are the effects, called directly or by a dispatch, in any state that
  a session reaches.
-/

namespace SyscallGate

variable {μ ν φ : Type}

namespace Kernel

variable [FileLayer ν φ]

/-- The effects of closing a number: what is answered, the kernel afterwards, and the events.

The number is an integer, so that the signed numbers of a direct call and the words of a dispatch
have the same clauses. The two cases exclude each other and leave nothing out. -/
structure ClosesNumber (n : Int) (k : Kernel μ ν φ) (answer : Except Errno Unit)
    (after : Kernel μ ν φ) (events : List (Event φ)) : Prop where
  /-- A number outside the range of descriptors, or of a free one, is refused. -/
  dead : (n < 3 ∨ 127 < n ∨ ∃ fd : Fd, (fd.number : Int) = n ∧ k.files.get? fd = none) →
    answer = .error .ebadf ∧ Event.fileCalls events = [] ∧ after = k
  /-- A descriptor in use gives its file back to the layer, and is free. -/
  live : ∀ (fd : Fd) (file : φ), (fd.number : Int) = n → k.files.get? fd = some file →
    FileLayer.closeFile file k.layer = (answer, after.layer) ∧
      Event.fileCalls events = [.closeFile file answer] ∧
      after.files.get? fd = none ∧
      ∀ other, other ≠ fd → after.files.get? other = k.files.get? other
  unused : Event.memoryCalls events = []
  memory : after.memory = k.memory

variable {c : Conditions} {raw : Int32} {k after : Kernel μ ν φ} {answer : Except Errno Unit}
  {events : List (Event φ)}

/-- Every closing has the effects of closing the number.

The outcome speaks of the descriptor that the number names, if there is one. Here it is put in terms
of the number. -/
theorem Closing.closesNumber {o : Outcome (Kernel μ ν φ) (Event φ) Errno Unit}
    (outcome : Closing c raw k o) : ∃ answer, o.result = answer.mapError .refused ∧
      ClosesNumber raw.toInt k answer o.state o.events := by
  cases outcome with
  | badDescriptor dead =>
    refine ⟨.error .ebadf, rfl, fun _ => ⟨rfl, rfl, rfl⟩, ?_, rfl, rfl⟩
    -- A descriptor with this number would be in use, against the assumption.
    intro fd file same live
    cases (dead fd (Fd.ofInt32?_eq_some_iff.mpr same)).symm.trans live
  | @closed fd file files answer layer releases answered =>
    have number := Fd.ofInt32?_eq_some_iff.mp releases.named
    -- No two descriptors have the same number.
    have unique {other : Fd} (same : (other.number : Int) = raw.toInt) : fd = other :=
      Fd.ext_number (Int.natCast_inj.mp (number.trans same.symm))
    refine ⟨answer, rfl, ?_, ?_, by simp, rfl⟩
    · -- The number is in the range, and its descriptor is in use.
      have lower := fd.lower
      have upper := fd.upper
      rintro (below | above | ⟨other, same, free⟩)
      · omega
      · omega
      · cases unique same
        cases releases.live.symm.trans free
    · -- The file that the descriptor names is the one that was handed back.
      intro other file' same live
      cases unique same
      cases releases.live.symm.trans live
      refine ⟨answered, by simp, ?_, ?_⟩
      · rw [releases.view, FdMap.erase_self]
      · intro other different
        rw [releases.view, FdMap.erase_of_ne different]

/-- A word closes what it closes as a signed number: the two numbers are the same, or neither of
them is a descriptor.

A word of 2^31 or more is negative as a signed number and beyond all descriptors as a word, so it is
dead in both views. -/
theorem ClosesNumber.of_toInt32 {w : UInt32}
    (h : ClosesNumber w.toInt32.toInt k answer after events) :
    ClosesNumber w.toNat k answer after events := by
  have signed := toInt_toInt32 w
  have small := w.toNat_lt
  by_cases positive : w.toNat < 0x80000000
  · -- The sign is clear, and the numbers are the same.
    rw [if_pos positive] at signed
    rwa [signed] at h
  · rw [if_neg positive] at signed
    -- The signed number is negative, and the word is above 127.
    refine ⟨fun _ => h.dead (.inl (by omega)), ?_, h.unused, h.memory⟩
    intro fd file same
    have upper := fd.upper
    omega

variable [UserMemory μ]

/-- **Closing a number**, in any state that a session with a new kernel reaches: a number that is no
descriptor in use is refused and nothing happens; otherwise the descriptor is free, its file goes
back to the layer, and the answer of the layer is returned. By a dispatch, the number is the word in
the first argument register.

The direct call has a signed number as its argument, as a program passes one. A word of the register
is compared as it is, in all 32 bits. -/
theorem close_outcome (memory : μ) (layer : ν) (steps : List (Conditions × Request))
    (c : Conditions) :
    let k : Kernel μ ν φ := (initial memory layer).afterSession steps
    (∀ raw : Int32, ∃ answer, (closeFile c raw k).result = answer.mapError .refused ∧
      ClosesNumber raw.toInt k answer (closeFile c raw k).state (closeFile c raw k).events) ∧
    ∀ frame : TrapFrame, frame.v0 = closeNumber → ∃ answer,
      (dispatch c frame k).result =
          .ok (TrapContext.complete frame (answer.map fun _ => .ofUnit)) ∧
        ClosesNumber frame.a0.toNat k answer (dispatch c frame k).state
          (dispatch c frame k).events := by
  intro k
  have fits : k.files.Fits := afterSession_fits Table.fits_empty steps
  -- First the direct call, and then a dispatch with what it carries out.
  have direct (raw : Int32) := (closing c raw k fits).closesNumber
  refine ⟨direct, ?_⟩
  intro frame number
  obtain ⟨answer, ended, closes⟩ := direct frame.a0.toInt32
  have carries := dispatch_close c number k
  refine ⟨answer, carries.result_eq ended, ?_⟩
  -- A dispatch adds reports and nothing else.
  rw [carries.state]
  refine ClosesNumber.of_toInt32 ⟨?_, ?_, ?_, closes.memory⟩
  · rw [carries.files]
    exact closes.dead
  · rw [carries.files]
    exact closes.live
  · rw [carries.memory]
    exact closes.unused

/-- With descriptor 3 in use, 259 is refused, also by a dispatch. Then 3 is closed; the layer
answers with an error, and the descriptor is free all the same. -/
theorem close_outcome_despite_fault :
    let start : Kernel RegionMemory FlatLayer Nat :=
      initial ⟨[⟨0x400FFE, [97, 0], false, none⟩]⟩
        { FlatLayer.empty [] with names := [[97]], closeFault := some .ebusy }
    let k := start.afterSession [(⟨.off, .none⟩, .openFile ⟨0x400FFE⟩ ⟨0⟩ 0)]
    let c : Conditions := ⟨.off, .none⟩
    k.files.get? .first = some 1 ∧
      (closeFile c 259 k).result = .error (.refused .ebadf) ∧
      (dispatch c { TrapFrame.zero with v0 := closeNumber, a0 := 259 } k).state = k ∧
      (closeFile c 3 k).result = .error (.refused .ebusy) ∧
      (closeFile c 3 k).state.files.get? .first = none := by
  intro start k c
  have live : k.files.get? .first = some 1 := by decide +kernel
  obtain ⟨direct, dispatched⟩ :=
    close_outcome start.memory start.layer [(⟨.off, .none⟩, .openFile ⟨0x400FFE⟩ ⟨0⟩ 0)] c
  -- The theorem at 259 and at 3: the first number is too large, the second one is in use.
  obtain ⟨_, refused, wide⟩ := direct 259
  obtain ⟨_, -, wideWord⟩ :=
    dispatched { TrapFrame.zero with v0 := closeNumber, a0 := 259 } rfl
  obtain ⟨_, -, closes⟩ := direct 3
  obtain ⟨rfl, -, -⟩ := wide.dead (.inr (.inl (by decide)))
  obtain ⟨-, -, free, -⟩ := closes.live .first 1 rfl live
  exact ⟨live, refused, (wideWord.dead (.inr (.inl (by decide)))).2.2, by decide +kernel, free⟩

end Kernel

end SyscallGate
