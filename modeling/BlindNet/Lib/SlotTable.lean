import Mathlib.Data.Vector.Basic
import Mathlib.Data.Fintype.Card
import Mathlib.Data.List.FinRange

/-!
# Tables of slots

A fixed number of slots, each free or in use. Searches visit the slots in order:
the first entry that matches, the first free slot, the entry used least recently,
the matching entry of the highest priority. A keyed table never holds two entries
with the same key.
-/

namespace SlotTable

set_option autoImplicit false

variable {Entry Key : Type} {capacity : Nat}

abbrev Slots (Entry : Type) (capacity : Nat) : Type := List.Vector (Option Entry) capacity

def findEntry (matching : Entry → Bool) (slots : Slots Entry capacity) :
    Option (Fin capacity × Entry) :=
  (List.finRange capacity).findSome? fun index =>
    ((slots.get index).filter matching).map fun entry => (index, entry)

def findEmpty (slots : Slots Entry capacity) : Option (Fin capacity) :=
  (List.finRange capacity).find? fun index => (slots.get index).isNone

/-- The first entry with the least age. An entry of the greatest age is never chosen. -/
def findLru (age : Entry → UInt32) (slots : Slots Entry capacity) : Option (Fin capacity) :=
  ((List.finRange capacity).foldl
    (fun chosen index =>
      match slots.get index with
      | none => chosen
      | some entry => if age entry < chosen.2 then (some index, age entry) else chosen)
    (none, 0xFFFFFFFF)).1

/-- A free slot, or the slot of an entry to evict, and which of the two it is. -/
def claim (evict : Bool) (age : Entry → UInt32) (slots : Slots Entry capacity) :
    Option (Fin capacity × Bool) :=
  match findEmpty slots with
  | some index => some (index, false)
  | none => if evict then (findLru age slots).map fun index => (index, true) else none

/-- The last of the matching entries with the highest priority. -/
def bestMatch (matching : Entry → Bool) (priority : Entry → UInt16)
    (slots : Slots Entry capacity) : Option Entry :=
  slots.toList.foldl
    (fun best slot =>
      match slot with
      | none => best
      | some entry =>
          if matching entry && best.all (fun other => priority other ≤ priority entry) then
            some entry
          else
            best)
    none

def release (old : Entry → Bool) (slots : Slots Entry capacity) : Slots Entry capacity :=
  slots.map fun slot => slot.filter fun entry => !old entry

theorem find_entry_some {matching : Entry → Bool} {slots : Slots Entry capacity}
    {index : Fin capacity} {entry : Entry}
    (found : findEntry matching slots = some (index, entry)) :
    slots.get index = some entry ∧ matching entry = true := by
  rcases List.exists_of_findSome?_eq_some found with ⟨slot, _, read⟩
  rcases Option.map_eq_some_iff.mp read with ⟨other, held, same⟩
  cases same
  exact Option.filter_eq_some_iff.mp held

theorem find_entry_none {matching : Entry → Bool} {slots : Slots Entry capacity}
    (missing : findEntry matching slots = none) {index : Fin capacity} {entry : Entry}
    (held : slots.get index = some entry) : matching entry = false := by
  have unmatched := List.findSome?_eq_none_iff.mp missing index (List.mem_finRange index)
  rw [held, Option.map_eq_none_iff] at unmatched
  by_contra matches_
  rw [Option.filter_some, if_pos (by simpa using matches_)] at unmatched
  cases unmatched

theorem find_empty_some {slots : Slots Entry capacity} {index : Fin capacity}
    (found : findEmpty slots = some index) : slots.get index = none := by
  unfold findEmpty at found
  have stopped := List.find?_some found
  exact Option.isNone_iff_eq_none.mp stopped

theorem find_empty_none {slots : Slots Entry capacity} (full : findEmpty slots = none)
    (index : Fin capacity) : ∃ entry, slots.get index = some entry := by
  have used := List.find?_eq_none.mp full index (List.mem_finRange index)
  cases held : slots.get index with
  | none =>
      rw [held] at used
      exact absurd rfl used
  | some entry => exact ⟨entry, rfl⟩

theorem release_get (old : Entry → Bool) (slots : Slots Entry capacity) (index : Fin capacity) :
    (release old slots).get index = (slots.get index).filter fun entry => !old entry :=
  List.Vector.get_map slots _ index

theorem cleared_held {slots : Slots Entry capacity} {index slot : Fin capacity} {entry : Entry}
    (held : (slots.set index none).get slot = some entry) : slots.get slot = some entry := by
  by_cases isIndex : slot = index
  · rw [isIndex, List.Vector.get_set_same] at held
    cases held
  · rwa [List.Vector.get_set_of_ne (Ne.symm isIndex)] at held

theorem set_held_iff {slots : Slots Entry capacity} {index slot : Fin capacity}
    {entry other : Entry} :
    (slots.set index (some entry)).get slot = some other ↔
      (slot = index ∧ other = entry) ∨ (slot ≠ index ∧ slots.get slot = some other) := by
  by_cases isIndex : slot = index
  · rw [isIndex, List.Vector.get_set_same, Option.some.injEq]
    simp [eq_comm]
  · rw [List.Vector.get_set_of_ne (Ne.symm isIndex)]
    simp [isIndex]

/-! ## Keyed tables -/

structure Keyed (Entry : Type) {Key : Type} (keyOf : Entry → Key) (capacity : Nat) where
  slots : Slots Entry capacity
  distinct : ∀ first second entry other, slots.get first = some entry →
    slots.get second = some other → keyOf entry = keyOf other → first = second

namespace Keyed

variable {keyOf : Entry → Key}

def empty : Keyed Entry keyOf capacity where
  slots := List.Vector.replicate capacity none
  distinct := by
    intro first second entry other held
    rw [List.Vector.get_replicate] at held
    cases held

/-- Rewrites one slot without touching its key. -/
def modify (table : Keyed Entry keyOf capacity) (index : Fin capacity) (change : Entry → Entry)
    (keeps : ∀ entry, keyOf (change entry) = keyOf entry) : Keyed Entry keyOf capacity where
  slots := table.slots.set index ((table.slots.get index).map change)
  distinct := by
    -- every slot still has the key it had
    have same : ∀ slot entry,
        (table.slots.set index ((table.slots.get index).map change)).get slot = some entry →
          ∃ old, table.slots.get slot = some old ∧ keyOf old = keyOf entry := by
      intro slot entry held
      by_cases isIndex : slot = index
      · subst isIndex
        rw [List.Vector.get_set_same] at held
        rcases Option.map_eq_some_iff.mp held with ⟨old, was, rfl⟩
        exact ⟨old, was, (keeps old).symm⟩
      · rw [List.Vector.get_set_of_ne (Ne.symm isIndex)] at held
        exact ⟨entry, held, rfl⟩
    intro first second entry other heldFirst heldSecond sameKey
    rcases same first entry heldFirst with ⟨old, wasFirst, keyFirst⟩
    rcases same second other heldSecond with ⟨oldOther, wasSecond, keySecond⟩
    exact table.distinct first second old oldOther wasFirst wasSecond
      (keyFirst.trans (sameKey.trans keySecond.symm))

def clear (table : Keyed Entry keyOf capacity) (index : Fin capacity) :
    Keyed Entry keyOf capacity where
  slots := table.slots.set index none
  distinct := by
    intro first second entry other heldFirst heldSecond
    exact table.distinct first second entry other (cleared_held heldFirst)
      (cleared_held heldSecond)

def place (table : Keyed Entry keyOf capacity) (index : Fin capacity) (entry : Entry)
    (fresh : ∀ slot other, table.slots.get slot = some other → keyOf other ≠ keyOf entry) :
    Keyed Entry keyOf capacity where
  slots := table.slots.set index (some entry)
  distinct := by
    intro first second one other heldFirst heldSecond sameKey
    rcases set_held_iff.mp heldFirst with ⟨isFirst, rfl⟩ | ⟨_, wasFirst⟩
    · rcases set_held_iff.mp heldSecond with ⟨isSecond, _⟩ | ⟨_, wasSecond⟩
      · rw [isFirst, isSecond]
      · exact absurd sameKey.symm (fresh second other wasSecond)
    · rcases set_held_iff.mp heldSecond with ⟨_, rfl⟩ | ⟨_, wasSecond⟩
      · exact absurd sameKey (fresh first one wasFirst)
      · exact table.distinct first second one other wasFirst wasSecond sameKey

def expire (table : Keyed Entry keyOf capacity) (old : Entry → Bool) :
    Keyed Entry keyOf capacity where
  slots := release old table.slots
  distinct := by
    intro first second entry other heldFirst heldSecond
    rw [release_get] at heldFirst heldSecond
    exact table.distinct first second entry other (Option.filter_eq_some_iff.mp heldFirst).1
      (Option.filter_eq_some_iff.mp heldSecond).1

theorem modify_get (table : Keyed Entry keyOf capacity) (index slot : Fin capacity)
    (change : Entry → Entry) (keeps : ∀ entry, keyOf (change entry) = keyOf entry) :
    (table.modify index change keeps).slots.get slot =
      if slot = index then (table.slots.get slot).map change else table.slots.get slot := by
  split_ifs with isIndex
  · rw [isIndex]
    exact List.Vector.get_set_same _ _ _
  · exact List.Vector.get_set_of_ne (Ne.symm isIndex) _

theorem clear_get (table : Keyed Entry keyOf capacity) (index slot : Fin capacity) :
    (table.clear index).slots.get slot =
      if slot = index then none else table.slots.get slot := by
  split_ifs with isIndex
  · rw [isIndex]
    exact List.Vector.get_set_same _ _ _
  · exact List.Vector.get_set_of_ne (Ne.symm isIndex) _

theorem place_get (table : Keyed Entry keyOf capacity) (index slot : Fin capacity) (entry : Entry)
    (fresh : ∀ slot other, table.slots.get slot = some other → keyOf other ≠ keyOf entry) :
    (table.place index entry fresh).slots.get slot =
      if slot = index then some entry else table.slots.get slot := by
  split_ifs with isIndex
  · rw [isIndex]
    exact List.Vector.get_set_same _ _ _
  · exact List.Vector.get_set_of_ne (Ne.symm isIndex) _

theorem expire_get (table : Keyed Entry keyOf capacity) (old : Entry → Bool)
    (slot : Fin capacity) :
    (table.expire old).slots.get slot = (table.slots.get slot).filter fun entry => !old entry :=
  release_get old table.slots slot

theorem find_held (table : Keyed Entry keyOf capacity) {matching : Entry → Bool} {key : Key}
    (exact_ : ∀ entry, matching entry = true ↔ keyOf entry = key) {index : Fin capacity}
    {entry : Entry} (held : table.slots.get index = some entry) (isKey : keyOf entry = key) :
    findEntry matching table.slots = some (index, entry) := by
  cases found : findEntry matching table.slots with
  | none =>
      have unmatched := find_entry_none found held
      rw [(exact_ entry).mpr isKey] at unmatched
      cases unmatched
  | some first =>
      rcases find_entry_some found with ⟨heldFirst, matches_⟩
      have same := table.distinct first.1 index first.2 entry heldFirst held
        (((exact_ first.2).mp matches_).trans isKey.symm)
      rw [same, held] at heldFirst
      cases heldFirst
      rw [← same]

/-- A table whose keys are among fewer keys than it has slots has a free slot. -/
theorem exists_empty (table : Keyed Entry keyOf capacity) [DecidableEq Key] (keys : Finset Key)
    (among : ∀ index entry, table.slots.get index = some entry → keyOf entry ∈ keys)
    (few : keys.card < capacity) : ∃ index, findEmpty table.slots = some index := by
  cases found : findEmpty table.slots with
  | some index => exact ⟨index, rfl⟩
  | none =>
      choose entries held using find_empty_none found
      have injective : Function.Injective fun index => keyOf (entries index) := by
        intro first second same
        exact table.distinct first second _ _ (held first) (held second) same
      have inside : Finset.image (fun index => keyOf (entries index)) Finset.univ ⊆ keys := by
        intro key member
        rcases Finset.mem_image.mp member with ⟨index, _, rfl⟩
        exact among index _ (held index)
      have counted := Finset.card_le_card inside
      rw [Finset.card_image_of_injective _ injective, Finset.card_univ, Fintype.card_fin] at counted
      omega

end Keyed

end SlotTable
