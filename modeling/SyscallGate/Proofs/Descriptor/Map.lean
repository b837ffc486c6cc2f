import Mathlib.Data.List.Range
import Mathlib.Data.Set.Card
import Mathlib.Logic.Function.Basic
import SyscallGate.Descriptor.Fd

/-!
# Finite maps from descriptors

The map that a descriptor table stands for. It knows nothing of slots: a descriptor is bound to a
file or it is not.

- `FdMap.LowestFree` is the descriptor that an allocation must hand out.
- `FdMap.Lists` says that a list holds exactly the bindings of a map, lowest descriptor first.
- `FdMap.FirstBound` says that the bound descriptors are the first ones.
- `Fd.ofInt32?_eq_some_iff` reads a descriptor from an argument by its number alone.
-/

namespace SyscallGate

namespace Fd

/-- A number names the descriptor with this number, if there is one. -/
theorem ofNat?_eq_some_iff {n : Nat} {fd : Fd} : ofNat? n = some fd ↔ fd.number = n := by
  unfold ofNat?
  split
  case isTrue inRange =>
    constructor
    · intro h
      cases h
      rfl
    · intro h
      exact congrArg some (ext_number h.symm)
  case isFalse outside =>
    constructor
    · intro h
      cases h
    · intro h
      have := fd.lower
      have := fd.upper
      exact absurd ⟨by omega, by omega⟩ outside

/-- An argument names the descriptor of the same number.

A negative number names none. The comparison is one of integers, so that no number is cut to fewer
bits before. -/
theorem ofInt32?_eq_some_iff {raw : Int32} {fd : Fd} :
    ofInt32? raw = some fd ↔ (fd.number : Int) = raw.toInt := by
  unfold ofInt32?
  split
  case isTrue negative =>
    constructor
    · intro h
      cases h
    · intro h
      omega
  case isFalse natural =>
    rw [ofNat?_eq_some_iff]
    omega

/-- A number names no descriptor if none has this number. -/
theorem ofInt32?_eq_none_iff {raw : Int32} :
    ofInt32? raw = none ↔ ∀ fd : Fd, (fd.number : Int) ≠ raw.toInt := by
  constructor
  · intro h fd same
    rw [ofInt32?_eq_some_iff.mpr same] at h
    cases h
  · intro h
    cases named : ofInt32? raw with
    | none => rfl
    | some fd => exact absurd (ofInt32?_eq_some_iff.mp named) (h fd)

/-- Every slot of a full table has a descriptor. -/
theorem exists_slot_eq {slot : Nat} (inTable : slot < slotCount) : ∃ fd : Fd, fd.slot = slot := by
  rw [slotCount_eq] at inTable
  -- The standard streams come before the table.
  refine ⟨⟨slot + 3, by omega, by omega⟩, ?_⟩
  simp only [Fd.slot]
  omega

/-- Slots are in the order of the numbers. -/
theorem slot_lt_slot_iff {a b : Fd} : a.slot < b.slot ↔ a.number < b.number := by
  have := a.lower
  have := b.lower
  unfold slot
  omega

/-- The largest descriptor fits a register, so nothing is cut off. -/
theorem toNat_toUInt32 (fd : Fd) : fd.toUInt32.toNat = fd.number := by
  have upper := fd.upper
  rw [toUInt32, UInt32.toNat_ofNat']
  omega

/-- A register tells descriptors apart. -/
theorem toUInt32_injective {a b : Fd} (h : a.toUInt32 = b.toUInt32) : a = b := by
  apply ext_number
  rw [← a.toNat_toUInt32, h, b.toNat_toUInt32]

end Fd

/-- A finite map from descriptors to files.

This is what a table stands for, and all that results about calls say of a table. -/
abbrev FdMap (φ : Type) := Fd → Option φ

namespace FdMap

variable {φ : Type}

def empty : FdMap φ := fun _ => none

/-- The map in which a descriptor is bound to a file. -/
def insert (m : FdMap φ) (fd : Fd) (file : φ) : FdMap φ := Function.update m fd (some file)

/-- The map in which a descriptor is not bound. -/
def erase (m : FdMap φ) (fd : Fd) : FdMap φ := Function.update m fd none

/-- The descriptor is the lowest one that is not bound.

There is at most one. A full map has none. -/
structure LowestFree (m : FdMap φ) (fd : Fd) : Prop where
  free : m fd = none
  lowest : ∀ lower : Fd, lower.number < fd.number → m lower ≠ none

/-- Every descriptor is bound. -/
def Full (m : FdMap φ) : Prop := ∀ fd, m fd ≠ none

/-- The list holds exactly the bindings of the map, lowest descriptor first.

The order makes the list unique, so two ways of computing it can be compared. -/
structure Lists (m : FdMap φ) (l : List (Fd × φ)) : Prop where
  ascending : l.Pairwise fun a b => a.1.number < b.1.number
  mem_iff : ∀ fd file, (fd, file) ∈ l ↔ m fd = some file

@[simp] theorem insert_self (m : FdMap φ) (fd : Fd) (file : φ) :
    m.insert fd file fd = some file :=
  Function.update_self ..

theorem insert_of_ne {m : FdMap φ} {fd other : Fd} {file : φ} (h : other ≠ fd) :
    m.insert fd file other = m other :=
  Function.update_of_ne h ..

@[simp] theorem erase_self (m : FdMap φ) (fd : Fd) : m.erase fd fd = none :=
  Function.update_self ..

theorem erase_of_ne {m : FdMap φ} {fd other : Fd} (h : other ≠ fd) :
    m.erase fd other = m other :=
  Function.update_of_ne h ..

theorem LowestFree.unique {m : FdMap φ} {a b : Fd} (ha : m.LowestFree a) (hb : m.LowestFree b) :
    a = b := by
  apply Fd.ext_number
  -- If they differ, the lower one is both free and bound.
  rcases Nat.lt_trichotomy a.number b.number with below | same | above
  · exact absurd ha.free (hb.lowest a below)
  · exact same
  · exact absurd hb.free (ha.lowest b above)

/-- Where there is a lowest free descriptor, some descriptor is free. -/
theorem LowestFree.not_full {m : FdMap φ} {fd : Fd} (h : m.LowestFree fd) : ¬ m.Full :=
  fun full => full fd h.free

/-- No descriptor is listed twice, since the list ascends. -/
theorem Lists.nodup_fst {m : FdMap φ} {l : List (Fd × φ)} (h : m.Lists l) :
    (l.map Prod.fst).Nodup := by
  rw [List.Nodup, List.pairwise_map]
  refine h.ascending.imp ?_
  intro a b below same
  rw [same] at below
  exact Nat.lt_irrefl _ below

/-- There is one list of the bindings of a map.

This is why an observer who knows the map knows in which order a shutdown closes its files. -/
theorem Lists.unique {m : FdMap φ} {l l' : List (Fd × φ)} (h : m.Lists l) (h' : m.Lists l') :
    l = l' := by
  -- Both lists hold the same pairs, and only one order of them ascends.
  have samePairs : l.Perm l' := by
    rw [List.perm_ext_iff_of_nodup (List.Nodup.of_map _ h.nodup_fst)
      (List.Nodup.of_map _ h'.nodup_fst)]
    rintro ⟨fd, file⟩
    rw [h.mem_iff, h'.mem_iff]
  refine samePairs.eq_of_pairwise ?_ h.ascending h'.ascending
  intro a b _ _ below above
  exact absurd below (Nat.lt_asymm above)

/-- The number of bindings is the length of any list of them.

The left side is a cardinality, which no order of the bindings enters. -/
theorem Lists.length_eq {m : FdMap φ} {l : List (Fd × φ)} (h : m.Lists l) :
    l.length = {fd | m fd ≠ none}.ncard := by
  -- The bound descriptors are the first components, and those do not repeat.
  have bound : {fd | m fd ≠ none} = ((l.map Prod.fst).toFinset : Set Fd) := by
    ext fd
    simp only [Set.mem_ofPred_eq, List.coe_toFinset, List.mem_map, Prod.exists,
      exists_and_right, exists_eq_right]
    constructor
    · intro live
      obtain ⟨file, held⟩ := Option.ne_none_iff_exists'.mp live
      exact ⟨file, (h.mem_iff fd file).mpr held⟩
    · rintro ⟨file, inList⟩ dead
      rw [(h.mem_iff fd file).mp inList] at dead
      cases dead
  rw [bound, Set.ncard_coe_finset, List.toFinset_card_of_nodup h.nodup_fst, List.length_map]

/-! ## Bindings that are taken away, lowest first -/

variable {m : FdMap φ} {fd : Fd} {file : φ} {n : Nat}

/-- A map whose bindings are listed by the empty list is empty. -/
theorem Lists.eq_empty (lists : m.Lists []) : m = empty := by
  funext fd
  refine Option.eq_none_iff_forall_ne_some.mpr fun file bound => ?_
  cases (lists.mem_iff fd file).mpr bound

/-- Without the head of the list, the map is the one without its descriptor. -/
theorem Lists.erase_head {rest : List (Fd × φ)} (lists : m.Lists ((fd, file) :: rest)) :
    (m.erase fd).Lists rest := by
  obtain ⟨below, ascending⟩ := List.pairwise_cons.mp lists.ascending
  refine ⟨ascending, fun other file' => ?_⟩
  by_cases same : other = fd
  · -- The descriptor itself is not listed again, and not bound any more.
    subst same
    rw [erase_self]
    exact ⟨fun inRest => absurd (below _ inRest) (Nat.lt_irrefl _), nofun⟩
  · -- Any other binding is in the rest if it was in the list.
    rw [erase_of_ne same, ← lists.mem_iff, List.mem_cons]
    exact ⟨.inr, fun inList => inList.resolve_left fun head => same (Prod.mk.inj head).1⟩

/-! ## The first descriptors -/

/-- The bound descriptors are the first `n` ones.

Since there are finitely many descriptors, the map is full if `n` is their number. -/
def FirstBound (m : FdMap φ) (n : Nat) : Prop := ∀ fd : Fd, m fd = none ↔ 3 + n ≤ fd.number

/-- In the empty map, the first descriptor is the next one. -/
theorem firstBound_empty : (empty : FdMap φ).FirstBound 0 :=
  fun fd => ⟨fun _ => fd.lower, fun _ => rfl⟩

/-- The lowest free descriptor is the next one. -/
theorem FirstBound.number_eq (first : m.FirstBound n) (lowest : m.LowestFree fd) :
    fd.number = 3 + n := by
  have behind := (first fd).mp lowest.free
  have upper := fd.upper
  rcases Nat.lt_or_eq_of_le behind with further | same
  · -- Otherwise the next one is lower, and free.
    let next : Fd := ⟨3 + n, by omega, by omega⟩
    exact absurd ((first next).mpr (Nat.le_refl _)) (lowest.lowest next further)
  · exact same.symm

/-- To bind the lowest free descriptor makes one more of them bound. -/
theorem FirstBound.insert (first : m.FirstBound n) (lowest : m.LowestFree fd) :
    (m.insert fd file).FirstBound (n + 1) := by
  have number := first.number_eq lowest
  intro other
  by_cases same : other = fd
  · subst same
    rw [insert_self]
    exact ⟨nofun, fun behind => by omega⟩
  · have different : other.number ≠ fd.number := fun h => same (Fd.ext_number h)
    rw [insert_of_ne same, first other]
    omega

/-- Fewer than all of them leave one that is free. -/
theorem FirstBound.not_full (first : m.FirstBound n) (few : n < Fd.slotCount) : ¬ m.Full := by
  intro full
  rw [Fd.slotCount_eq] at few
  exact full ⟨3 + n, by omega, by omega⟩ ((first _).mpr (Nat.le_refl _))

end FdMap

end SyscallGate
