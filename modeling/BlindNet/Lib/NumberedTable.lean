import BlindNet.Lib.SlotTable

/-!
# Numbered tables

Entries in slots, each under a number: the one its owner chose, or the next value of a
counter that is asked for with zero. The numbers tell the entries apart as long as
every number is new when it is given; then removing by the number of the entry that was
added last undoes the addition.
-/

namespace NumberedTable

set_option autoImplicit false

open SlotTable

variable {Entry : Type} {capacity : Nat}

/-- How an entry carries its number. -/
structure Numbering (Entry : Type) where
  idOf : Entry → UInt32
  withId : UInt32 → Entry → Entry
  id_with : ∀ id entry, idOf (withId id entry) = id

structure Table (Entry : Type) (capacity : Nat) where
  slots : Slots Entry capacity
  nextId : UInt32

inductive Op (Entry : Type) where
  | keep
  | clear
  | add (entry : Entry)
  | remove (id : UInt32)
  | release (old : Entry → Bool)

/-- Distinct numbers, none of them zero. -/
structure WellNumbered (idOf : Entry → UInt32) (slots : Slots Entry capacity) : Prop where
  keyed : ∃ table : Keyed Entry idOf capacity, table.slots = slots
  nonzero : ∀ index entry, slots.get index = some entry → idOf entry ≠ 0

section Operations

variable (numbering : Numbering Entry)

/-- The number an entry is given. -/
def Table.assigned (table : Table Entry capacity) (entry : Entry) : UInt32 :=
  if numbering.idOf entry = 0 then table.nextId else numbering.idOf entry

def Table.add (table : Table Entry capacity) (entry : Entry) : Table Entry capacity :=
  match findEmpty table.slots with
  | none => table
  | some index =>
      ⟨table.slots.set index (some (numbering.withId (table.assigned numbering entry) entry)),
        if numbering.idOf entry = 0 then table.nextId + 1 else table.nextId⟩

def Table.remove (table : Table Entry capacity) (id : UInt32) : Table Entry capacity :=
  match findEntry (fun entry => numbering.idOf entry == id) table.slots with
  | none => table
  | some (index, _) => { table with slots := table.slots.set index none }

def Table.apply (table : Table Entry capacity) : Op Entry → Table Entry capacity
  | .keep => table
  | .clear => ⟨List.Vector.replicate capacity none, 1⟩
  | .add entry => table.add numbering entry
  | .remove id => table.remove numbering id
  | .release old => { table with slots := release old table.slots }

/-- The number the entry is given is not zero and not in use. -/
def Table.Fresh (table : Table Entry capacity) (entry : Entry) : Prop :=
  table.assigned numbering entry ≠ 0 ∧
    ∀ slot other, table.slots.get slot = some other →
      numbering.idOf other ≠ table.assigned numbering entry

def Table.FreshOp (table : Table Entry capacity) : Op Entry → Prop
  | .add entry => table.Fresh numbering entry
  | _ => True

end Operations

variable {numbering : Numbering Entry} {table : Table Entry capacity}

theorem Table.fresh_iff {entry : Entry} :
    table.Fresh numbering entry ↔ table.assigned numbering entry ≠ 0 ∧
      ∀ slot, (table.slots.get slot).all
        (fun other => numbering.idOf other != table.assigned numbering entry) = true := by
  simp only [Table.Fresh, Option.all_eq_true, bne_iff_ne]

theorem empty_well_numbered (idOf : Entry → UInt32) :
    WellNumbered idOf (List.Vector.replicate capacity none) where
  keyed := ⟨Keyed.empty, rfl⟩
  nonzero := by
    intro index entry held
    rw [List.Vector.get_replicate] at held
    cases held

theorem WellNumbered.cleared {idOf : Entry → UInt32} {slots : Slots Entry capacity}
    (well : WellNumbered idOf slots) (index : Fin capacity) :
    WellNumbered idOf (slots.set index none) where
  keyed := by
    obtain ⟨keyed, rfl⟩ := well.keyed
    exact ⟨keyed.clear index, rfl⟩
  nonzero := by
    intro slot entry held
    exact well.nonzero slot entry (cleared_held held)

theorem WellNumbered.released {idOf : Entry → UInt32} {slots : Slots Entry capacity}
    (well : WellNumbered idOf slots) (old : Entry → Bool) :
    WellNumbered idOf (release old slots) where
  keyed := by
    obtain ⟨keyed, rfl⟩ := well.keyed
    exact ⟨keyed.expire old, rfl⟩
  nonzero := by
    intro slot entry held
    rw [release_get] at held
    exact well.nonzero slot entry (Option.filter_eq_some_iff.mp held).1

theorem add_full (full : findEmpty table.slots = none) (entry : Entry) :
    table.add numbering entry = table := by
  simp only [Table.add, full]

theorem add_free {index : Fin capacity} (free : findEmpty table.slots = some index)
    (entry : Entry) :
    table.add numbering entry =
      ⟨table.slots.set index (some (numbering.withId (table.assigned numbering entry) entry)),
        if numbering.idOf entry = 0 then table.nextId + 1 else table.nextId⟩ := by
  simp only [Table.add, free]

theorem remove_missing {id : UInt32}
    (missing : findEntry (fun entry => numbering.idOf entry == id) table.slots = none) :
    table.remove numbering id = table := by
  simp only [Table.remove, missing]

theorem remove_found {id : UInt32} {index : Fin capacity} {entry : Entry}
    (found : findEntry (fun entry => numbering.idOf entry == id) table.slots =
      some (index, entry)) :
    table.remove numbering id = { table with slots := table.slots.set index none } := by
  simp only [Table.remove, found]

theorem add_slots {index : Fin capacity} (free : findEmpty table.slots = some index)
    (entry : Entry) :
    (table.add numbering entry).slots = table.slots.set index
      (some (numbering.withId (table.assigned numbering entry) entry)) := by
  rw [add_free free]

/-- An addition keeps the numbers apart exactly when its number is fresh. -/
theorem add_well_numbered_iff (well : WellNumbered numbering.idOf table.slots)
    {index : Fin capacity} (free : findEmpty table.slots = some index) (entry : Entry) :
    WellNumbered numbering.idOf (table.add numbering entry).slots ↔
      table.Fresh numbering entry := by
  rw [add_slots free]
  have vacant := find_empty_some free
  constructor
  · intro added
    have stored := List.Vector.get_set_same table.slots index
      (some (numbering.withId (table.assigned numbering entry) entry))
    have positive := added.nonzero index _ stored
    rw [numbering.id_with] at positive
    apply And.intro positive
    intro slot other held same
    have elsewhere : slot ≠ index := by
      rintro rfl
      rw [vacant] at held
      cases held
    obtain ⟨keyed, slots⟩ := added.keyed
    apply elsewhere
    apply keyed.distinct slot index other _
    · rw [slots]
      exact set_held_iff.mpr (Or.inr ⟨elsewhere, held⟩)
    · rw [slots]
      exact stored
    · rw [numbering.id_with]
      exact same
  · intro fresh
    obtain ⟨keyed, slots⟩ := well.keyed
    have new : ∀ slot other, keyed.slots.get slot = some other →
        numbering.idOf other ≠
          numbering.idOf (numbering.withId (table.assigned numbering entry) entry) := by
      intro slot other held
      rw [numbering.id_with]
      rw [slots] at held
      exact fresh.2 slot other held
    apply WellNumbered.mk
    · use keyed.place index _ new
      rw [← slots]
      rfl
    · intro slot other held
      rcases set_held_iff.mp held with ⟨_, rfl⟩ | ⟨_, before⟩
      · rw [numbering.id_with]
        exact fresh.1
      · exact well.nonzero slot other before

theorem apply_well_numbered {op : Op Entry} (fresh : table.FreshOp numbering op)
    (well : WellNumbered numbering.idOf table.slots) :
    WellNumbered numbering.idOf (table.apply numbering op).slots := by
  cases op with
  | keep => exact well
  | clear => exact empty_well_numbered numbering.idOf
  | add entry =>
      cases free : findEmpty table.slots with
      | none =>
          simp only [Table.apply, add_full free]
          exact well
      | some index => exact (add_well_numbered_iff well free entry).mpr fresh
  | remove id =>
      simp only [Table.apply, Table.remove]
      split
      next => exact well
      next index _ _ => exact well.cleared index
  | release old => exact well.released old

theorem find_added (well : WellNumbered numbering.idOf table.slots) {index : Fin capacity}
    (free : findEmpty table.slots = some index) {entry : Entry}
    (fresh : table.Fresh numbering entry) :
    findEntry (fun other => numbering.idOf other == table.assigned numbering entry)
        (table.add numbering entry).slots =
      some (index, numbering.withId (table.assigned numbering entry) entry) := by
  obtain ⟨keyed, slots⟩ := ((add_well_numbered_iff well free entry).mpr fresh).keyed
  rw [← slots]
  apply keyed.find_held
  · intro other
    exact beq_iff_eq
  · rw [slots, add_slots free]
    exact List.Vector.get_set_same _ _ _
  · exact numbering.id_with _ _

theorem set_then_clear {slots : Slots Entry capacity} {index : Fin capacity}
    (vacant : slots.get index = none) (entry : Entry) :
    (slots.set index (some entry)).set index none = slots := by
  apply List.Vector.ext
  intro slot
  by_cases isIndex : slot = index
  · rw [isIndex, List.Vector.get_set_same, vacant]
  · rw [List.Vector.get_set_of_ne (Ne.symm isIndex), List.Vector.get_set_of_ne (Ne.symm isIndex)]

/-- Removing the fresh number undoes the addition. -/
theorem remove_added (well : WellNumbered numbering.idOf table.slots) {index : Fin capacity}
    (free : findEmpty table.slots = some index) {entry : Entry}
    (fresh : table.Fresh numbering entry) :
    ((table.add numbering entry).remove numbering (table.assigned numbering entry)).slots =
      table.slots := by
  rw [remove_found (find_added well free fresh), add_free free]
  exact set_then_clear (find_empty_some free) _

/-! ## Programs that keep a numbered table -/

/-- A program with operations to add and to remove, and the table that it keeps. Additions
may complete an entry first. -/
structure Store (State Entry Err : Type) (capacity : Nat) where
  view : State → Table Entry capacity
  ready : State → Prop
  prepare : State → Entry → Entry
  add : State → Entry → Except Err UInt32 × State
  remove : State → UInt32 → Bool × State

variable {State Err : Type}

structure Store.Lawful (store : Store State Entry Err capacity) (numbering : Numbering Entry) :
    Prop where
  same_id : ∀ state entry, numbering.idOf (store.prepare state entry) = numbering.idOf entry
  added : ∀ state entry id, (store.add state entry).1 = .ok id →
    (∃ index, findEmpty (store.view state).slots = some index) ∧
      id = (store.view state).assigned numbering (store.prepare state entry) ∧
      store.view (store.add state entry).2 =
        (store.view state).add numbering (store.prepare state entry) ∧
      store.ready (store.add state entry).2
  removed : ∀ state id found, store.ready state → id ≠ 0 →
    findEntry (fun entry => numbering.idOf entry == id) (store.view state).slots = some found →
    (store.remove state id).1 = true ∧
      store.view (store.remove state id).2 = (store.view state).remove numbering id

theorem Store.Lawful.prepared_fresh {store : Store State Entry Err capacity}
    (lawful : store.Lawful numbering) {state : State} {entry : Entry}
    (fresh : (store.view state).Fresh numbering entry) :
    (store.view state).Fresh numbering (store.prepare state entry) := by
  simpa only [Table.Fresh, Table.assigned, lawful.same_id] using fresh

theorem Store.Lawful.removes_added {store : Store State Entry Err capacity}
    (lawful : store.Lawful numbering) {state : State}
    (well : WellNumbered numbering.idOf (store.view state).slots) {entry : Entry}
    (fresh : (store.view state).Fresh numbering entry) {id : UInt32}
    (accepted : (store.add state entry).1 = .ok id) :
    (store.remove (store.add state entry).2 id).1 = true ∧
      (store.view (store.remove (store.add state entry).2 id).2).slots =
        (store.view state).slots := by
  obtain ⟨⟨index, free⟩, rfl, view, ready⟩ := lawful.added state entry id accepted
  have prepared := lawful.prepared_fresh fresh
  have found := find_added well free prepared
  rw [← view] at found
  obtain ⟨removed, after⟩ := lawful.removed _ _ _ ready prepared.1 found
  apply And.intro removed
  rw [after, view]
  exact remove_added well free prepared

end NumberedTable
