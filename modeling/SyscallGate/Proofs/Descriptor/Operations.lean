import SyscallGate.Descriptor.Table
import SyscallGate.Proofs.Descriptor.Map

/-!
# Descriptor tables as maps

What each operation of the table does to the map that the table stands for, `Table.get?`, and to
the list of the files it holds, `Table.held`.

## Main definitions

- `Table.Fits` bounds the number of slots. Every operation keeps it, and inside it none stops.
- `Table.Lacks`: what a table lacks when it refuses a file.
- `Table.Allocates`, `Table.Deallocates`: all outcomes of the two operations.
- `Table.Places`: the slot in which an allocation puts its file.

## Main results

- `Table.allocates`, `Table.deallocates`: there are no other outcomes.
- `Table.allocate_refused_iff`: an allocation is refused exactly for what the table lacks.
- `Table.drain_eq`: a drain hands out the bindings of the map and leaves the empty table.
-/

namespace SyscallGate.Table

variable {φ η : Type} {t : Table φ} {c : Conditions}

/-- There is no slot without a descriptor.

It is the invariant of the table. A slot beyond the last descriptor would be one that no program
could name. -/
def Fits (t : Table φ) : Prop := t.slots.length ≤ Fd.slotCount

/-- The files in the table, lowest descriptor first.

They come in the order of the slots, which is the order of the descriptors. -/
def held (t : Table φ) : List φ := t.occupied.map (·.2)

/-- The notice of a change of the table, if it is recorded. -/
def noted (c : Conditions) (notice : Notice) : List Notice :=
  if c.log.admits .trace then [notice] else []

/-! ## The map of a table -/

/-- A new table stands for the empty map. -/
theorem get?_empty : (empty : Table φ).get? = FdMap.empty := rfl

theorem fits_empty : (empty : Table φ).Fits := Nat.zero_le _

@[simp] theorem held_empty : (empty : Table φ).held = [] := rfl

/-- A descriptor names what stands in its slot. -/
theorem get?_eq_some_iff {fd : Fd} {file : φ} :
    t.get? fd = some file ↔ t.slots[fd.slot]? = some (some file) := by
  unfold get?
  exact Option.join_eq_some_iff

/-- To replace the content of a slot changes the map at its owner only.

The slot has to exist: writing behind the end of the list would change nothing. -/
theorem get?_set {fd : Fd} (inside : fd.slot < t.slots.length) (content : Option φ) :
    (⟨t.slots.set fd.slot content, t.capacity⟩ : Table φ).get? =
      Function.update t.get? fd content := by
  funext other
  by_cases same : other = fd
  · subst same
    simp [get?, inside]
  · -- Two descriptors never share a slot.
    have elsewhere : fd.slot ≠ other.slot := fun h => same (Fd.slot_injective h.symm)
    rw [Function.update_of_ne same]
    simp [get?, elsewhere]

/-- A free slot at the end names no file, so the map is the same. -/
theorem get?_append_none (capacity : Nat) :
    (⟨t.slots ++ [none], capacity⟩ : Table φ).get? = t.get? := by
  funext fd
  unfold get?
  simp only [List.getElem?_append]
  split
  case isTrue => rfl
  case isFalse past =>
    -- Past the old slots there is at most the new one, which is free.
    rw [List.getElem?_eq_none (Nat.le_of_not_lt past)]
    cases fd.slot - t.slots.length <;> rfl

/-! ## The files of a table -/

/-- The files are the contents of the slots, without the numbers. -/
theorem held_eq : t.held = t.slots.filterMap id := by
  -- Induction on the slots; the number of the first one does not matter.
  have files (l : List (Option φ)) (first : Nat) :
      ((l.zipIdx first).filterMap fun entry =>
        entry.1.map fun file => (entry.2, file)).map (·.2) = l.filterMap id := by
    induction l generalizing first with
    | nil => rfl
    | cons content rest ih =>
      cases content with
      | none => simpa using ih (first + 1)
      | some file => simpa using ih (first + 1)
  exact files t.slots 0

/-- There are as many files as slots in use. -/
theorem length_held : t.held.length = t.liveCount := by
  rw [held_eq, liveCount, List.length_filterMap_eq_countP]
  rfl

/-- To replace the content of a slot exchanges its file. The list is compared up to order, since a
file may be anywhere in it. -/
theorem held_set {slot : Nat} {old : Option φ} (content : t.slots[slot]? = some old)
    (new : Option φ) (capacity : Nat) :
    ∃ rest, t.held.Perm (old.toList ++ rest) ∧
      (⟨t.slots.set slot new, capacity⟩ : Table φ).held.Perm (new.toList ++ rest) := by
  obtain ⟨inside, found⟩ := List.getElem?_eq_some_iff.mp content
  -- The slot splits the table, and what it holds may as well stand in front.
  have cut : t.slots = t.slots.take slot ++ old :: t.slots.drop (slot + 1) := by
    rw [← found, List.getElem_cons_drop, List.take_append_drop]
  have files (x : Option φ) :
      ((t.slots.take slot ++ x :: t.slots.drop (slot + 1)).filterMap id).Perm
        (x.toList ++ (t.slots.take slot ++ t.slots.drop (slot + 1)).filterMap id) := by
    have moved : (t.slots.take slot ++ x :: t.slots.drop (slot + 1)).Perm
        (x :: (t.slots.take slot ++ t.slots.drop (slot + 1))) := List.perm_middle
    refine (moved.filterMap id).trans ?_
    cases x <;> exact List.Perm.refl _
  have before := files old
  rw [← cut] at before
  refine ⟨(t.slots.take slot ++ t.slots.drop (slot + 1)).filterMap id, ?_, ?_⟩
  · rw [held_eq]
    exact before
  · rw [held_eq, List.set_eq_take_append_cons_drop, if_pos inside]
    exact files new

/-! ## The first free slot -/

/-- The first free slot is free, and all slots before it are in use. -/
theorem firstFree_eq_some {slot : Nat} (h : t.firstFree = some slot) :
    t.slots[slot]? = some none ∧ ∀ lower < slot, ∃ file, t.slots[lower]? = some (some file) := by
  obtain ⟨inside, free, below⟩ := List.findIdx?_eq_some_iff_getElem.mp h
  refine ⟨?_, ?_⟩
  · rw [List.getElem?_eq_getElem inside]
    exact congrArg some (Option.isNone_iff_eq_none.mp free)
  · intro lower less
    have full : t.slots[lower] ≠ none := by
      simpa using below lower less
    obtain ⟨file, content⟩ := Option.ne_none_iff_exists'.mp full
    exact ⟨file, by rw [List.getElem?_eq_getElem (Nat.lt_trans less inside), content]⟩

/-- If no slot is free, each of them holds a file. -/
theorem firstFree_eq_none (h : t.firstFree = none) {slot : Nat}
    (inside : slot < t.slots.length) : ∃ file, t.slots[slot]? = some (some file) := by
  have full := List.findIdx?_eq_none_iff.mp h _ (List.getElem_mem inside)
  obtain ⟨file, content⟩ := Option.isSome_iff_exists.mp (Option.isNone_eq_false_iff.mp full)
  exact ⟨file, by rw [List.getElem?_eq_getElem inside, content]⟩

/-- A free slot with full slots below it belongs to the lowest free descriptor. -/
theorem lowestFree_of_slots {fd : Fd} (free : t.get? fd = none)
    (full : ∀ lower < fd.slot, ∃ file, t.slots[lower]? = some (some file)) :
    FdMap.LowestFree t.get? fd where
  free := free
  lowest := by
    intro lower below
    obtain ⟨file, content⟩ := full lower.slot (Fd.slot_lt_slot_iff.mpr below)
    rw [get?_eq_some_iff.mpr content]
    exact Option.some_ne_none file

/-! ## Allocation -/

/-- What a table lacks when it refuses a file.

It says what is the case with the slots. What is to be seen of it in the map is `Refuses`. -/
inductive Lacks (c : Conditions) (t : Table φ) : Error → Prop where
  /-- Every descriptor is in use. -/
  | descriptor (full : FdMap.Full t.get?) : Lacks c t .exhausted
  /-- Every slot is in use, and there is no storage for the slot of the next descriptor. -/
  | storage (occupied : t.firstFree = none) (room : t.slots.length < Fd.slotCount)
      (stuck : t.grow? c = none) : Lacks c t .outOfMemory

/-- Why an allocation is refused, as far as the map of the table shows it.

An observer sees the map and the shortage, and neither the slots nor their storage. -/
inductive Refuses (c : Conditions) (t : Table φ) : Error → Prop where
  /-- There is no free descriptor. -/
  | exhausted (full : FdMap.Full t.get?) : Refuses c t .exhausted
  /-- There is one, but its slot needs storage, and slots are short. -/
  | outOfMemory (notFull : ¬ FdMap.Full t.get?) (short : c.shortage.slots = true) :
      Refuses c t .outOfMemory

/-- The lowest free descriptor was handed out, and names the file from then on.

The files are compared with those of the table before: there is one more. -/
structure Grants (t : Table φ) (fd : Fd) (file : φ) (after : Table φ) : Prop where
  /-- The descriptor was free, and every lower one was in use. -/
  lowest : FdMap.LowestFree t.get? fd
  view : after.get? = FdMap.insert t.get? fd file
  fits : after.Fits
  files : after.held.Perm (file :: t.held)

/-- The outcomes of an allocation.

A file that is refused is part of the refusal, so it does not get lost. -/
inductive Allocates (c : Conditions) (file : φ) (t : Table φ) :
    Outcome (Table φ) Notice (Error × φ) Fd → Prop where
  | granted {fd : Fd} {after : Table φ} (grants : Grants t fd file after)
      (enough : ∀ cause, ¬ Lacks c t cause) :
      Allocates c file t ⟨.ok fd, after, noted c (.allocated fd)⟩
  /-- The file is handed back, and nothing changes. -/
  | refused {cause : Error} (lacks : Lacks c t cause) :
      Allocates c file t ⟨.error (.refused (cause, file)), t, []⟩

/-- To put a file into an existing slot succeeds, and is noted. -/
theorem occupy_eq {fd : Fd} (file : φ) (inside : fd.slot < t.slots.length) :
    (occupy c fd.slot file : Action (Table φ) Notice η Fd) t =
      ⟨.ok fd, ⟨t.slots.set fd.slot (some file), t.capacity⟩, noted c (.allocated fd)⟩ := by
  simp [occupy, Checked.replaceAt_eq_ok inside, Fd.ofSlot_slot, noted]

/-- To fill a free slot below which all slots are full hands out its owner.

The slot has an owner because the table fits, and the owner is the lowest free descriptor because of
the slots below. -/
theorem grants_set {fd : Fd} {file : φ} (fits : t.Fits) (free : t.slots[fd.slot]? = some none)
    (full : ∀ lower < fd.slot, ∃ other, t.slots[lower]? = some (some other)) :
    Grants t fd file ⟨t.slots.set fd.slot (some file), t.capacity⟩ := by
  have inside := (List.getElem?_eq_some_iff.mp free).1
  have dead : t.get? fd = none := by
    simp [get?, free]
  obtain ⟨rest, before, after⟩ := held_set free (some file) t.capacity
  refine ⟨lowestFree_of_slots dead full, get?_set inside (some file), ?_, ?_⟩
  · simpa [Fits] using fits
  · exact after.trans (before.symm.cons file)

/-- A free slot at the end makes no difference to what is handed out.

So what is said of filling the new slot of a table that has grown is said of the table before. -/
theorem Grants.of_append_none {fd : Fd} {file : φ} {after : Table φ} {capacity : Nat}
    (h : Grants ⟨t.slots ++ [none], capacity⟩ fd file after) : Grants t fd file after := by
  have sameFiles : (⟨t.slots ++ [none], capacity⟩ : Table φ).held = t.held := by
    simp [held_eq]
  refine ⟨?_, ?_, h.fits, ?_⟩
  · simpa only [get?_append_none] using h.lowest
  · simpa only [get?_append_none] using h.view
  · simpa only [sameFiles] using h.files

/-- Growing adds a free slot at the end; it fails only when slots are short.

This is all that most results use of growth. What is reserved, and when, does not show here. -/
theorem grow?_cases (c : Conditions) (t : Table φ) :
    (∃ capacity, t.grow? c = some ⟨t.slots ++ [none], capacity⟩) ∨
      (t.grow? c = none ∧ c.shortage.slots = true) := by
  unfold grow?
  split
  · exact .inl ⟨_, rfl⟩
  · split
    case isTrue short => exact .inr ⟨rfl, short⟩
    case isFalse => exact .inl ⟨_, rfl⟩

/-- A descriptor without a slot is free.

It has no slot yet, and the next slot would be its own. -/
theorem get?_of_slot_eq {fd : Fd} (atEnd : fd.slot = t.slots.length) : t.get? fd = none := by
  simp [get?, atEnd]

/-- A table with room for another slot is not full.

The descriptor of that slot is free. -/
theorem not_full_of_room (room : t.slots.length < Fd.slotCount) : ¬ FdMap.Full t.get? := by
  intro full
  obtain ⟨fd, atEnd⟩ := Fd.exists_slot_eq room
  exact full fd (get?_of_slot_eq atEnd)

/-- With a free slot, a table lacks nothing. -/
theorem not_lacks_of_firstFree {fd : Fd} (found : t.firstFree = some fd.slot) (cause : Error) :
    ¬ Lacks c t cause := by
  rintro (full | occupied)
  · refine full fd ?_
    rw [get?, (firstFree_eq_some found).1]
    rfl
  · cases found.symm.trans occupied

/-- With storage for another slot, a table lacks nothing either. -/
theorem not_lacks_of_grow? {fd : Fd} (atEnd : fd.slot = t.slots.length) {larger : Table φ}
    (grown : t.grow? c = some larger) (cause : Error) : ¬ Lacks c t cause := by
  rintro (full | ⟨-, -, stuck⟩)
  · exact full fd (get?_of_slot_eq atEnd)
  · cases grown.symm.trans stuck

/-- What a table lacks shows in its map: the map is full, or it is not but slots are short.

The other direction does not hold: with slots short, the storage may still suffice. -/
theorem Lacks.refuses {cause : Error} (lacks : Lacks c t cause) : Refuses c t cause := by
  cases lacks with
  | descriptor full => exact .exhausted full
  | storage occupied room stuck =>
    refine .outOfMemory (not_full_of_room room) ?_
    rcases grow?_cases c t with ⟨capacity, grown⟩ | ⟨-, short⟩
    · cases grown.symm.trans stuck
    · exact short

/-- Where an allocation puts its file.

The two ways of getting a descriptor differ in the slot and in the storage, and a program cannot
tell them apart. -/
inductive Places (c : Conditions) (file : φ) (t : Table φ) :
    Outcome (Table φ) Notice (Error × φ) Fd → Prop where
  /-- The first free slot is filled. -/
  | reused {fd : Fd} (found : t.firstFree = some fd.slot) :
      Places c file t
        ⟨.ok fd, ⟨t.slots.set fd.slot (some file), t.capacity⟩, noted c (.allocated fd)⟩
  /-- No slot is free, and there is storage for one more. -/
  | added {fd : Fd} {capacity : Nat} (occupied : t.firstFree = none)
      (atEnd : fd.slot = t.slots.length)
      (grown : t.grow? c = some ⟨t.slots ++ [none], capacity⟩) :
      Places c file t
        ⟨.ok fd, ⟨t.slots ++ [some file], capacity⟩, noted c (.allocated fd)⟩
  | refused {cause : Error} (lacks : Lacks c t cause) :
      Places c file t ⟨.error (.refused (cause, file)), t, []⟩

/-- **Places of an allocation**: the first free slot, or a new slot at the end, or none.

The proof follows the code: first a free slot, then a new one, and the bound on the slots in
between. -/
theorem places (c : Conditions) (file : φ) (fits : t.Fits) :
    Places c file t (allocate c file t) := by
  unfold allocate
  simp only [Action.bind_apply, Action.read_apply, Outcome.andThen_ok, Outcome.after_nil]
  -- Which slot is taken depends on the first free one, as in the code.
  cases found : t.firstFree with
  | some slot =>
    have inside := (List.getElem?_eq_some_iff.mp (firstFree_eq_some found).1).1
    obtain ⟨fd, rfl⟩ := Fd.exists_slot_eq (Nat.lt_of_lt_of_le inside fits)
    simp only [occupy_eq file inside]
    exact .reused found
  | none =>
    by_cases room : t.slots.length < Fd.slotCount
    · obtain ⟨fd, atEnd⟩ := Fd.exists_slot_eq room
      rcases grow?_cases c t with ⟨capacity, grown⟩ | ⟨stuck, -⟩
      · -- There is storage: the table grows by a free slot, which is filled at once.
        have inside : fd.slot < (⟨t.slots ++ [none], capacity⟩ : Table φ).slots.length := by
          simp [atEnd]
        have placed : Places c file t _ := .added found atEnd grown
        simp only [if_pos room, grown, Action.bind_apply, Action.write_apply, Outcome.andThen_ok,
          Outcome.after_nil]
        rw [← atEnd, occupy_eq file inside]
        simpa [atEnd] using placed
      · -- There is none.
        simp only [if_pos room, stuck, Action.refuse_apply]
        exact .refused (.storage found room stuck)
    · simp only [if_neg room, Action.refuse_apply]
      -- Every descriptor has a slot, and that slot is full.
      refine .refused (.descriptor ?_)
      intro fd
      have inside : fd.slot < t.slots.length := by
        have := fd.slot_lt
        omega
      obtain ⟨other, content⟩ := firstFree_eq_none found inside
      rw [get?_eq_some_iff.mpr content]
      exact Option.some_ne_none other

/-- A new slot at the end of a table whose slots are all full is handed out with its file.

It is the first free slot of the larger table, so this is the case of `grants_set` in that table. -/
theorem grants_append {fd : Fd} {file : φ} {capacity : Nat} (occupied : t.firstFree = none)
    (atEnd : fd.slot = t.slots.length) :
    Grants t fd file ⟨t.slots ++ [some file], capacity⟩ := by
  -- The new slot is the first free one of the larger table.
  let larger : Table φ := ⟨t.slots ++ [none], capacity⟩
  have free : larger.slots[fd.slot]? = some none := by simp [larger, atEnd]
  have fullBelow (lower : Nat) (below : lower < fd.slot) :
      ∃ other, larger.slots[lower]? = some (some other) := by
    rw [atEnd] at below
    obtain ⟨other, content⟩ := firstFree_eq_none occupied below
    exact ⟨other, by rw [List.getElem?_append_left below, content]⟩
  have fits : larger.Fits := by
    have inTable := fd.slot_lt
    simp only [larger, Fits, List.length_append, List.length_singleton]
    omega
  have grants : Grants larger fd file _ := grants_set fits free fullBelow
  have filled : larger.slots.set fd.slot (some file) = t.slots ++ [some file] := by
    simp [larger, atEnd]
  rw [filled] at grants
  exact grants.of_append_none

/-- **Outcomes of an allocation**: it hands out the lowest free descriptor, or hands the file
back and changes nothing.

This is what callers use. It follows from where the file was put, and forgets it. -/
theorem allocates (c : Conditions) (file : φ) (fits : t.Fits) :
    Allocates c file t (allocate c file t) := by
  have placed := places c file fits
  generalize allocate c file t = o at placed
  cases placed with
  | reused found =>
    obtain ⟨free, full⟩ := firstFree_eq_some found
    exact .granted (grants_set fits free full) (not_lacks_of_firstFree found)
  | added occupied atEnd grown =>
    exact .granted (grants_append occupied atEnd) (not_lacks_of_grow? atEnd grown)
  | refused lacks => exact .refused lacks

/-- A table lacks one thing at most.

If every descriptor is in use, there is no room for another slot. -/
theorem Lacks.unique {cause cause' : Error} (lacks : Lacks c t cause) (lacks' : Lacks c t cause') :
    cause = cause' := by
  cases lacks with
  | descriptor full =>
    cases lacks' with
    | descriptor => rfl
    | storage _ room _ => exact absurd full (not_full_of_room room)
  | storage _ room _ =>
    cases lacks' with
    | descriptor full => exact absurd full (not_full_of_room room)
    | storage => rfl

/-- **An allocation is refused** exactly for what the table lacks.

The file in the refusal is the one that was to be put into the table. -/
theorem allocate_refused_iff (fits : t.Fits) (file : φ) {cause : Error} :
    (allocate c file t).result = .error (.refused (cause, file)) ↔ Lacks c t cause := by
  have outcome := allocates c file fits
  generalize allocate c file t = o at outcome
  cases outcome with
  | granted _ enough => exact ⟨nofun, fun lacks => absurd lacks (enough cause)⟩
  | refused lacks' =>
    constructor
    · rintro ⟨⟩
      exact lacks'
    · intro lacks
      rw [lacks.unique lacks']

/-! ## Deallocation -/

/-- The number named a file, which was given out; it names nothing from then on.

The table has one file less, and as many slots as before. -/
structure Releases (t : Table φ) (raw : Int32) (fd : Fd) (file : φ) (after : Table φ) : Prop where
  named : Fd.ofInt32? raw = some fd
  live : t.get? fd = some file
  view : after.get? = FdMap.erase t.get? fd
  fits : after.Fits
  files : t.held.Perm (file :: after.held)

/-- The outcomes of a deallocation.

A number that is refused changes nothing, whatever the reason is. -/
inductive Deallocates (c : Conditions) (raw : Int32) (t : Table φ) :
    Outcome (Table φ) Notice Error φ → Prop where
  | released {fd : Fd} {file : φ} {after : Table φ} (releases : Releases t raw fd file after) :
      Deallocates c raw t ⟨.ok file, after, noted c (.released fd)⟩
  /-- The number names no open file, and nothing changes. -/
  | refused (dead : ∀ fd, Fd.ofInt32? raw = some fd → t.get? fd = none) :
      Deallocates c raw t ⟨.error (.refused .badHandle), t, []⟩

/-- **Outcomes of a deallocation**: it gives out the file that the number names, or changes
nothing.

The number is looked up first, and the slot is emptied only if it holds a file. -/
theorem deallocates (c : Conditions) (raw : Int32) (fits : t.Fits) :
    Deallocates c raw t (deallocate c raw t) := by
  unfold deallocate
  -- A number outside the range of descriptors never reaches the slots.
  cases named : Fd.ofInt32? raw with
  | none =>
    refine .refused ?_
    intro fd h
    rw [named] at h
    cases h
  | some fd =>
    simp only [Action.bind_apply, Action.read_apply, Outcome.andThen_ok, Outcome.after_nil]
    cases live : t.get? fd with
    | none =>
      refine .refused ?_
      intro other h
      rw [named] at h
      cases h
      exact live
    | some file =>
      have content := get?_eq_some_iff.mp live
      have inside := (List.getElem?_eq_some_iff.mp content).1
      obtain ⟨rest, before, after⟩ := held_set content none t.capacity
      have releases : Releases t raw fd file ⟨t.slots.set fd.slot none, t.capacity⟩ :=
        { named := named
          live := live
          view := get?_set inside none
          fits := by simpa [Fits] using fits
          files := before.trans (after.symm.cons file) }
      simpa [noted] using Deallocates.released (c := c) releases

/-! ## Listing and draining -/

/-- A slot is occupied by a file if it holds the file. -/
theorem mem_occupied_iff {slot : Nat} {file : φ} :
    (slot, file) ∈ t.occupied ↔ t.slots[slot]? = some (some file) := by
  simp only [occupied, List.mem_filterMap, Prod.exists, List.mem_zipIdx_iff_getElem?,
    Option.map_eq_some_iff, Prod.mk.injEq]
  constructor
  · rintro ⟨content, place, found, file, rfl, rfl, rfl⟩
    exact found
  · intro found
    exact ⟨some file, slot, found, file, rfl, rfl, rfl⟩

/-- Occupied slots are listed in ascending order. -/
theorem occupied_ascending (t : Table φ) : t.occupied.Pairwise fun a b => a.1 < b.1 := by
  -- The slots are numbered in order, and leaving some out keeps the order.
  have numbered : t.slots.zipIdx.Pairwise fun a b => a.2 < b.2 := by
    rw [← List.pairwise_map, List.zipIdx_map_snd]
    exact List.pairwise_lt_range'
  refine List.Pairwise.filterMap _ ?_ numbered
  rintro ⟨a, i⟩ ⟨b, j⟩ below x hx y hy
  obtain ⟨_, -, rfl⟩ := Option.map_eq_some_iff.mp hx
  obtain ⟨_, -, rfl⟩ := Option.map_eq_some_iff.mp hy
  exact below

/-- Slots within the bound can be named by their descriptors, one after the other. -/
theorem mapM_ofSlot_eq_ok {pairs : List (Nat × φ)} (inside : ∀ p ∈ pairs, p.1 < Fd.slotCount) :
    ∃ l : List (Fd × φ),
      (pairs.mapM fun (slot, file) => return (← Fd.ofSlot slot, file) : Checked _) = .ok l ∧
        l.map (fun entry => (entry.1.slot, entry.2)) = pairs := by
  -- Induction on the slots that are left to name.
  induction pairs with
  | nil => exact ⟨[], rfl, rfl⟩
  | cons pair rest ih =>
    obtain ⟨slot, file⟩ := pair
    obtain ⟨l, named, back⟩ := ih fun p hp => inside p (List.mem_cons_of_mem _ hp)
    obtain ⟨fd, rfl⟩ : ∃ fd : Fd, fd.slot = slot :=
      Fd.exists_slot_eq (inside (slot, file) List.mem_cons_self)
    refine ⟨(fd, file) :: l, ?_, ?_⟩
    · rw [List.mapM_cons, named]
      simp only [Fd.ofSlot_slot]
      rfl
    · rw [List.map_cons, back]

/-- The entries of a table are the bindings of its map.

The descriptors are in the order of the slots, so the list ascends. -/
theorem entries_eq (fits : t.Fits) :
    ∃ l, t.entries = .ok l ∧ FdMap.Lists t.get? l ∧ l.map (·.2) = t.held := by
  -- Inside the bound every occupied slot has a descriptor, so no naming stops.
  have inside : ∀ p ∈ t.occupied, p.1 < Fd.slotCount := by
    rintro ⟨slot, file⟩ h
    have := (List.getElem?_eq_some_iff.mp (mem_occupied_iff.mp h)).1
    exact Nat.lt_of_lt_of_le this fits
  obtain ⟨l, named, back⟩ := mapM_ofSlot_eq_ok inside
  refine ⟨l, named, ⟨?_, ?_⟩, ?_⟩
  · -- The list ascends, because the slots do.
    have ascending := occupied_ascending t
    rw [← back, List.pairwise_map] at ascending
    exact ascending.imp Fd.slot_lt_slot_iff.mp
  · -- The pairs in it are the bindings.
    intro fd file
    rw [get?_eq_some_iff, ← mem_occupied_iff, ← back, List.mem_map]
    constructor
    · intro h
      exact ⟨(fd, file), h, rfl⟩
    · rintro ⟨⟨other, content⟩, h, same⟩
      obtain ⟨sameSlot, sameFile⟩ := Prod.mk.inj same
      rw [← Fd.slot_injective sameSlot, ← sameFile]
      exact h
  · rw [held, ← back, List.map_map]
    rfl

/-- **Outcome of a drain**: all bindings, lowest descriptor first, and the empty table.

The table that is left has no slots and no storage, as a new one. -/
theorem drain_eq (fits : t.Fits) :
    ∃ l, (drain : Action (Table φ) Notice η _) t = ⟨.ok l, empty, []⟩ ∧
      FdMap.Lists t.get? l ∧ l.map (·.2) = t.held := by
  obtain ⟨l, entries, lists, files⟩ := entries_eq fits
  refine ⟨l, ?_, lists, files⟩
  simp [drain, entries]

end SyscallGate.Table
