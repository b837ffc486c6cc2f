import SyscallGate.Proofs.Descriptor.Refinement

/-!
# When the table cannot grow

The slots of a table are never given up but by a drain, and a new one is made only when all others
are full. So the slots are those of the descriptors handed out since the last drain, in use or not,
and these are the first ones. Storage is reserved ahead, and what is reserved depends on nothing but
the number of slots. An allocation can fail for want of storage at few of these numbers only.

## Main definitions

- `Table.reservedFor`: the storage that a number of slots leads to.
- `Table.handedOut`: the descriptors handed out since the last drain, as a session shows them.
- `Table.Remembers`: what the slots tell about these descriptors.
- `Table.AllocatesAfter`: what an allocation answers, by the descriptors that were handed out.

## Main results

- `Table.after_remembers`: the slots of a table are those of the descriptors handed out.
- `Table.allocate_after_session`: when an allocation is refused, and for which reason.
-/

namespace SyscallGate.Table

variable {φ : Type} {t : Table φ} {c : Conditions} {given : Finset Fd}

/-! ## Reserved storage -/

/-- The number of slots for which storage is reserved once there are so many slots: one more slot
leads to a larger reservation if it finds the old one full.

The recursion follows the growth of a table from nothing on, slot by slot. It does not depend on the
conditions, since a table that cannot grow keeps its slots as well. -/
def reservedFor : Nat → Nat
  | 0 => 0
  | slots + 1 =>
    if slots < reservedFor slots then reservedFor slots
    else max firstReservation (2 * reservedFor slots)

/-- The numbers of slots, up to the number of descriptors, that fill what is reserved for them.

The reservation is doubled each time, from the first one on, and the last number is 64 since the
next one is beyond the number of descriptors. -/
theorem reservedFor_le_iff {slots : Nat} (few : slots ≤ Fd.slotCount) :
    reservedFor slots ≤ slots ↔ slots ∈ [0, 4, 8, 16, 32, 64] := by
  -- There are few numbers of slots, so all of them can be tried.
  have each : ∀ slots ≤ 125, reservedFor slots ≤ slots ↔ slots ∈ [0, 4, 8, 16, 32, 64] := by
    decide
  exact each slots few

/-- A table cannot grow if its reservation is used up and there is no storage for a larger one. A
shortage alone does no harm as long as there is room. -/
theorem grow?_eq_none_iff :
    t.grow? c = none ↔ t.capacity ≤ t.slots.length ∧ c.shortage.slots = true := by
  unfold grow?
  by_cases room : t.slots.length < t.capacity
  · simp only [if_pos room, reduceCtorEq, false_iff]
    omega
  · simp [if_neg room, Nat.not_lt.mp room]

/-- Growing goes on with the reservation that one slot more leads to.

So the reservation is always the one for the number of slots, and this is the invariant that
`Remembers` keeps. -/
theorem capacity_of_grow? {capacity : Nat} (reserved : t.capacity = reservedFor t.slots.length)
    (grown : t.grow? c = some ⟨t.slots ++ [none], capacity⟩) :
    capacity = reservedFor (t.slots.length + 1) := by
  rw [reservedFor, ← reserved]
  unfold grow? at grown
  by_cases room : t.slots.length < t.capacity
  · -- There is room for one more slot, and the reservation stays.
    rw [if_pos room] at grown ⊢
    cases grown
    rfl
  · -- The reservation is used up. What is reserved anew is as large as the definition says, unless
    -- there is no storage, and then the table has not grown.
    rw [if_neg room] at grown ⊢
    split at grown <;> cases grown
    rfl

/-! ## Descriptors handed out -/

/-- The descriptors handed out since the last drain, after one more exchange.

An allocation that succeeds adds its descriptor, and a drain forgets all of them. A deallocation
removes nothing: the slot stays, and its descriptor counts as handed out. -/
def handOut (given : Finset Fd) (x : Exchange (Table φ) Notice (Request φ) (Reply φ)) : Finset Fd :=
  match x.request, x.outcome.result with
  | .allocate _, .ok (.allocated (.ok fd)) => insert fd given
  | .drain, _ => ∅
  | _, _ => given

/-- The descriptors handed out since the last drain, as the exchanges of a session show them. Some
of them may have been taken back.

They are known from the requests and the answers alone, without a look into the table. -/
def handedOut (exchanges : List (Exchange (Table φ) Notice (Request φ) (Reply φ))) : Finset Fd :=
  exchanges.foldl handOut ∅

/-- What the slots of a table tell about the descriptors that were handed out.

The descriptors handed out are those whose slots exist, and the reservation is the one for that many
slots. How the slots are filled is left open. -/
structure Remembers (given : Finset Fd) (t : Table φ) : Prop where
  fits : t.Fits
  /-- Each of them has a slot, and there are no other slots. -/
  mem_iff : ∀ fd, fd ∈ given ↔ fd.slot < t.slots.length
  reserved : t.capacity = reservedFor t.slots.length

/-- A new table has handed out nothing and has no slots. -/
theorem remembers_empty : Remembers ∅ (empty : Table φ) := by
  refine ⟨fits_empty, ?_, rfl⟩
  intro fd
  simp [empty]

/-- There are as many slots as descriptors were handed out.

This is what ties the size of the table to what a client has seen. -/
theorem Remembers.card_eq (remembers : Remembers given t) : given.card = t.slots.length := by
  -- The slots of these descriptors are the numbers below the number of slots.
  have slots : given.image Fd.slot = Finset.range t.slots.length := by
    ext slot
    simp only [Finset.mem_image, Finset.mem_range, remembers.mem_iff]
    constructor
    · rintro ⟨fd, inside, rfl⟩
      exact inside
    · intro inside
      obtain ⟨fd, rfl⟩ := Fd.exists_slot_eq (Nat.lt_of_lt_of_le inside remembers.fits)
      exact ⟨fd, inside, rfl⟩
  rw [← Finset.card_range t.slots.length, ← slots,
    Finset.card_image_of_injective _ fun _ _ => Fd.slot_injective]

/-- To change the content of a slot makes no difference to what the slots tell.

This serves an allocation that takes a free slot, and a deallocation. -/
theorem Remembers.of_length_eq {slots : List (Option φ)} (remembers : Remembers given t)
    (same : slots.length = t.slots.length) : Remembers given ⟨slots, t.capacity⟩ := by
  refine ⟨?_, ?_, ?_⟩
  · -- There are no more slots than before.
    rw [Fits, same]
    exact remembers.fits
  · -- The slots that exist are the same.
    intro fd
    rw [remembers.mem_iff, same]
  · -- The reservation is for the same number of slots.
    rw [same]
    exact remembers.reserved

/-- A new slot at the end is the slot of one more descriptor.

The descriptor that is handed out is the one of the new slot, and what is reserved is what growing
has led to. -/
theorem Remembers.append {fd : Fd} {file : φ} {capacity : Nat} (remembers : Remembers given t)
    (atEnd : fd.slot = t.slots.length)
    (grown : t.grow? c = some ⟨t.slots ++ [none], capacity⟩) :
    Remembers (insert fd given) ⟨t.slots ++ [some file], capacity⟩ := by
  have longer : (t.slots ++ [some file]).length = t.slots.length + 1 := by simp
  refine ⟨?_, ?_, ?_⟩
  · -- A descriptor has that slot, so it is not beyond the last one.
    rw [Fits, longer, ← atEnd]
    exact fd.slot_lt
  · -- Only the new descriptor has the new slot, since slots tell descriptors apart.
    intro other
    have same : other = fd ↔ other.slot = fd.slot := ⟨congrArg _, Fd.slot_injective⟩
    rw [longer, Finset.mem_insert, remembers.mem_iff, same, atEnd]
    omega
  · rw [longer]
    exact capacity_of_grow? remembers.reserved grown

/-- A deallocation leaves every slot where it is.

At most one slot is emptied, and a descriptor that is refused leaves the table as it is. The
reservation stays as well. -/
theorem deallocate_state (c : Conditions) (raw : Int32) (t : Table φ) :
    ∃ slots, slots.length = t.slots.length ∧
      (deallocate c raw t).state = ⟨slots, t.capacity⟩ := by
  unfold deallocate
  cases Fd.ofInt32? raw with
  | none => exact ⟨t.slots, rfl, rfl⟩
  | some fd =>
    simp only [Action.bind_apply, Action.read_apply, Outcome.andThen_ok, Outcome.after_nil]
    cases t.get? fd with
    | none => exact ⟨t.slots, rfl, rfl⟩
    | some file => exact ⟨t.slots.set fd.slot none, List.length_set, by simp⟩

/-- **One request** leaves slots that tell of the descriptors handed out up to then.

The cases are the requests. Only an allocation and a drain change what was handed out, and only an
allocation that finds no free slot makes a new one. -/
theorem Request.perform_remembers (c : Conditions) (request : Request φ)
    (remembers : Remembers given t) :
    Remembers (handOut given ⟨c, request, request.perform c t⟩) (request.perform c t).state := by
  cases request with
  | allocate file =>
    have placed := places c file remembers.fits
    simp only [perform, Action.bind_apply, Action.attempt_apply]
    generalize Table.allocate c file t = o at placed
    cases placed with
    | @reused fd found =>
      -- A slot that was there is used again, and its descriptor was handed out before.
      have inside := (List.getElem?_eq_some_iff.mp (firstFree_eq_some found).1).1
      have known : insert fd given = given :=
        Finset.insert_eq_of_mem ((remembers.mem_iff fd).mpr inside)
      change Remembers (insert fd given) ⟨t.slots.set fd.slot (some file), t.capacity⟩
      rw [known]
      exact remembers.of_length_eq List.length_set
    -- All slots are full, and a new one is made at the end.
    | added occupied atEnd grown => exact remembers.append atEnd grown
    | refused lacks => exact remembers
  | deallocate raw =>
    -- The slots may differ in one content, which the invariant does not look at.
    obtain ⟨slots, same, left⟩ := deallocate_state c raw t
    have freed := remembers.of_length_eq same
    simp only [perform, Action.bind_apply, Action.attempt_apply]
    rw [← left] at freed
    generalize Table.deallocate c raw t = o at freed
    rcases o with ⟨(refusal | cause) | answer, after, changes⟩ <;> exact freed
  | drain =>
    -- A drain gives up all slots and forgets all descriptors.
    obtain ⟨l, drained, -⟩ := @drain_eq φ Empty t remembers.fits
    simp only [perform, Action.bind_apply, drained]
    exact remembers_empty
  -- The other requests only look at the table.
  | contains raw => exact remembers
  | liveCount => exact remembers
  | isEmpty => exact remembers
  | labelled =>
    simp only [perform, Action.bind_apply, Action.read_apply, Outcome.andThen_ok,
      Outcome.after_nil]
    cases t.labelled <;> exact remembers
  | labelledLines =>
    simp only [perform, Action.bind_apply, Action.read_apply, Outcome.andThen_ok,
      Outcome.after_nil]
    cases t.labelledLines <;> exact remembers

/-- **A session** leaves slots that tell of the descriptors handed out since its last drain.

The session starts with a new table, and any requests may follow, under any conditions. -/
theorem after_remembers (steps : List (Conditions × Request φ)) :
    Remembers (handedOut (Service.session Request.perform (empty : Table φ) steps))
      (Service.after Request.perform (empty : Table φ) steps) := by
  -- Induction on the requests that are left to make, from any table that tells of what was handed
  -- out before.
  have run {given : Finset Fd} {t : Table φ} (remembers : Remembers given t)
      (steps : List (Conditions × Request φ)) :
      Remembers ((Service.session Request.perform t steps).foldl handOut given)
        (Service.after Request.perform t steps) := by
    induction steps generalizing given t with
    | nil => exact remembers
    | cons step rest ih =>
      obtain ⟨c, request⟩ := step
      exact ih (request.perform_remembers c remembers)
  exact run remembers_empty steps

/-! ## Refused allocations -/

/-- Every descriptor that was handed out is in use.

Then no slot is free, and the next allocation needs a new slot. -/
def AllInUse (given : Finset Fd) (t : Table φ) : Prop := ∀ fd ∈ given, t.get? fd ≠ none

/-- The table has no free slot exactly if all descriptors that were handed out are in use. A
descriptor that was closed leaves its slot free. -/
theorem Remembers.firstFree_eq_none_iff (remembers : Remembers given t) :
    t.firstFree = none ↔ AllInUse given t := by
  constructor
  · -- Without a free slot every descriptor that has a slot is bound.
    intro occupied fd inGiven
    obtain ⟨file, content⟩ := firstFree_eq_none occupied ((remembers.mem_iff fd).mp inGiven)
    rw [get?_eq_some_iff.mpr content]
    exact Option.some_ne_none file
  · -- A free slot is the slot of a descriptor that was handed out and is not in use.
    intro inUse
    cases found : t.firstFree with
    | none => rfl
    | some slot =>
      have free := (firstFree_eq_some found).1
      have inside := (List.getElem?_eq_some_iff.mp free).1
      obtain ⟨fd, rfl⟩ := Fd.exists_slot_eq (Nat.lt_of_lt_of_le inside remembers.fits)
      refine absurd ?_ (inUse fd ((remembers.mem_iff fd).mpr inside))
      rw [get?, free]
      rfl

/-- A table lacks a descriptor if all were handed out and are in use.

A session can use up all of them only by handing out every one, since the lowest free slot is always
taken first. -/
theorem Remembers.lacks_exhausted_iff (remembers : Remembers given t) :
    Lacks c t .exhausted ↔ given.card = Fd.slotCount ∧ AllInUse given t := by
  have fits := remembers.fits
  constructor
  · -- If there were fewer slots than descriptors, the next one would be free.
    rintro ⟨full⟩
    refine ⟨?_, fun fd _ => full fd⟩
    by_contra fewer
    rw [remembers.card_eq] at fewer
    exact not_full_of_room (Nat.lt_of_le_of_ne fits fewer) full
  · -- Every descriptor has a slot if there are as many slots as descriptors, and all of them are in
    -- use.
    rintro ⟨all, inUse⟩
    rw [remembers.card_eq] at all
    refine .descriptor fun fd => inUse fd ((remembers.mem_iff fd).mpr ?_)
    rw [all]
    exact fd.slot_lt

/-- A table lacks storage if slots are short, the descriptors that were handed out are in use, and
their slots fill what is reserved.

The numbers are those at which the slots fill their reservation. At any other number there is room
for one more slot, shortage or not. -/
theorem Remembers.lacks_outOfMemory_iff (remembers : Remembers given t) :
    Lacks c t .outOfMemory ↔
      c.shortage.slots = true ∧ AllInUse given t ∧ given.card ∈ [0, 4, 8, 16, 32, 64] := by
  have filled := reservedFor_le_iff remembers.fits
  rw [← remembers.reserved, ← remembers.card_eq] at filled
  rw [← remembers.firstFree_eq_none_iff, ← filled, remembers.card_eq]
  constructor
  · rintro (_ | ⟨occupied, -, stuck⟩)
    obtain ⟨full, short⟩ := grow?_eq_none_iff.mp stuck
    exact ⟨short, occupied, full⟩
  · rintro ⟨short, occupied, full⟩
    refine .storage occupied ?_ (grow?_eq_none_iff.mpr ⟨full, short⟩)
    -- The largest reservation is for more slots than there are descriptors.
    rw [remembers.card_eq] at filled
    have number := filled.mp full
    rw [Fd.slotCount_eq]
    simp only [List.mem_cons, List.not_mem_nil, or_false] at number
    omega

/-- Under any conditions an allocation hands out the same descriptor, if it hands out one.

So a shortage of storage can do no more than refuse an allocation: it never changes which descriptor
is handed out. -/
theorem allocate_result_eq (fits : t.Fits) (file : φ) (descriptor : ¬ Lacks c t .exhausted)
    (storage : ¬ Lacks c t .outOfMemory) (c' : Conditions) (enough : c'.shortage.slots = false) :
    ∃ fd, (allocate c file t).result = .ok fd ∧ (allocate c' file t).result = .ok fd := by
  have outcome := allocates c file fits
  have outcome' := allocates c' file fits
  generalize allocate c file t = o at outcome
  generalize allocate c' file t = o' at outcome'
  cases outcome with
  | refused lacks =>
    -- The refusal is one of the two that are excluded.
    cases lacks with
    | descriptor full => exact absurd (.descriptor full) descriptor
    | storage occupied room stuck => exact absurd (.storage occupied room stuck) storage
  | @granted fd after grants =>
    -- Both grants hand out the lowest free descriptor of the same table, and there is only one.
    cases outcome' with
    | refused lacks =>
      cases lacks.refuses with
      | exhausted full => exact absurd (.descriptor full) descriptor
      | outOfMemory _ short => cases enough.symm.trans short
    | granted grants' =>
      cases grants.lowest.unique grants'.lowest
      exact ⟨fd, rfl, rfl⟩

/-- What an allocation answers after a session in which these descriptors were handed out.

All of it is said by the descriptors that were handed out, their number and whether they are in use,
as a client can know it. -/
structure AllocatesAfter (given : Finset Fd) (c : Conditions) (file : φ) (t : Table φ) : Prop where
  /-- The descriptors are the first ones. -/
  first : ∀ fd : Fd, fd ∈ given ↔ fd.number ≤ given.card + 2
  slots : t.slots.length = given.card
  few : given.card ≤ 125
  exhausted_iff : (allocate c file t).result = .error (.refused (.exhausted, file)) ↔
    given.card = 125 ∧ AllInUse given t
  outOfMemory_iff : (allocate c file t).result = .error (.refused (.outOfMemory, file)) ↔
    c.shortage.slots = true ∧ AllInUse given t ∧ given.card ∈ [0, 4, 8, 16, 32, 64]
  /-- Otherwise a shortage makes no difference. -/
  otherwise : ¬ (given.card = 125 ∧ AllInUse given t) →
    ¬ (c.shortage.slots = true ∧ AllInUse given t ∧ given.card ∈ [0, 4, 8, 16, 32, 64]) →
    ∃ fd, (allocate c file t).result = .ok fd ∧
      ∀ c' : Conditions, c'.shortage.slots = false → (allocate c' file t).result = .ok fd

/-- **When the table cannot grow**: after any session with a new table, an allocation is refused if
all descriptors were handed out since the last drain and are in use, or if slots are short, those
that were handed out are in use, and there are 0, 4, 8, 16, 32 or 64 of them.

In all other cases the allocation succeeds, and a shortage makes no difference to the descriptor
that is handed out. -/
theorem allocate_after_session (steps : List (Conditions × Request φ)) (c : Conditions) (file : φ) :
    AllocatesAfter (handedOut (Service.session Request.perform (empty : Table φ) steps)) c file
      (Service.after Request.perform (empty : Table φ) steps) := by
  have remembers := after_remembers steps
  have fits := remembers.fits
  have count := remembers.card_eq
  refine ⟨?_, count.symm, count ▸ fits, ?_, ?_, ?_⟩
  · -- The slots are numbered from 0 on, and the descriptors from 3 on.
    intro fd
    have lower := fd.lower
    rw [remembers.mem_iff, count, Fd.slot]
    omega
  · rw [allocate_refused_iff fits, remembers.lacks_exhausted_iff, Fd.slotCount_eq]
  · rw [allocate_refused_iff fits, remembers.lacks_outOfMemory_iff]
  · -- Neither refusal applies, so the answer is the one under conditions without a shortage.
    intro descriptor storage
    rw [← Fd.slotCount_eq, ← remembers.lacks_exhausted_iff (c := c)] at descriptor
    rw [← remembers.lacks_outOfMemory_iff] at storage
    obtain ⟨fd, told, -⟩ := allocate_result_eq fits file descriptor storage ⟨.off, .none⟩ rfl
    refine ⟨fd, told, ?_⟩
    intro c' enough
    obtain ⟨fd', told', same⟩ := allocate_result_eq fits file descriptor storage c' enough
    cases told.symm.trans told'
    exact same

end SyscallGate.Table
