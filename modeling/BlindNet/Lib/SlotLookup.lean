import BlindNet.Lib.SlotTable
import Mathlib.Data.Fintype.EquivFin

/-!
# Keyed tables as maps

What a keyed table is for: it maps a key to the entry that is held for it. Each operation
on the slots changes the map at one key, whatever slot it uses; only a slot that is taken
from another entry costs that entry.
-/

namespace SlotTable.Keyed

set_option autoImplicit false

variable {Entry Key : Type} [DecidableEq Key] {capacity : Nat} {keyOf : Entry → Key}
  {table : Keyed Entry keyOf capacity} {index : Fin capacity} {entry : Entry} {key : Key}

def lookup (table : Keyed Entry keyOf capacity) (key : Key) : Option Entry :=
  (findEntry (fun entry => decide (keyOf entry = key)) table.slots).map Prod.snd

theorem lookup_held (held : table.slots.get index = some entry) (isKey : keyOf entry = key) :
    table.lookup key = some entry := by
  unfold lookup
  rw [table.find_held (fun _ => decide_eq_true_iff) held isKey]
  rfl

theorem lookup_some (found : table.lookup key = some entry) :
    ∃ index, table.slots.get index = some entry ∧ keyOf entry = key := by
  obtain ⟨⟨index, other⟩, search, rfl⟩ := Option.map_eq_some_iff.mp found
  obtain ⟨held, isKey⟩ := find_entry_some search
  exact ⟨index, held, of_decide_eq_true isKey⟩

theorem lookup_eq_none_iff :
    table.lookup key = none ↔
      ∀ index entry, table.slots.get index = some entry → keyOf entry ≠ key := by
  constructor
  · intro missing index entry held isKey
    rw [lookup_held held isKey] at missing
    cases missing
  · intro absent
    cases found : table.lookup key with
    | none => rfl
    | some entry =>
        obtain ⟨index, held, isKey⟩ := lookup_some found
        exact absurd isKey (absent index entry held)

/-- Two tables that hold the same entries for a key have the same lookup. -/
theorem lookup_congr {other : Keyed Entry keyOf capacity}
    (same : ∀ entry, keyOf entry = key →
      ((∃ index, table.slots.get index = some entry) ↔
        ∃ index, other.slots.get index = some entry)) :
    table.lookup key = other.lookup key := by
  cases found : other.lookup key with
  | some entry =>
      obtain ⟨index, held, isKey⟩ := lookup_some found
      obtain ⟨slot, heldHere⟩ := (same entry isKey).mpr ⟨index, held⟩
      exact lookup_held heldHere isKey
  | none =>
      apply lookup_eq_none_iff.mpr
      intro slot entry held isKey
      obtain ⟨index, heldOther⟩ := (same entry isKey).mp ⟨slot, held⟩
      exact lookup_eq_none_iff.mp found index entry heldOther isKey

@[simp] theorem lookup_empty (key : Key) :
    (empty : Keyed Entry keyOf capacity).lookup key = none := by
  apply lookup_eq_none_iff.mpr
  intro index entry held
  rw [empty, List.Vector.get_replicate] at held
  cases held

omit [DecidableEq Key] in
theorem slot_ne_of_key {other : Entry} {slot : Fin capacity}
    (held : table.slots.get index = some entry) (heldOther : table.slots.get slot = some other)
    (isKey : keyOf entry ≠ key) (otherKey : keyOf other = key) : slot ≠ index := by
  rintro rfl
  rw [held] at heldOther
  cases heldOther
  exact isKey otherKey

theorem lookup_modify (held : table.slots.get index = some entry) (change : Entry → Entry)
    (keeps : ∀ entry, keyOf (change entry) = keyOf entry) (key : Key) :
    (table.modify index change keeps).lookup key =
      if keyOf entry = key then some (change entry) else table.lookup key := by
  split_ifs with isKey
  · apply @lookup_held _ _ _ _ _ _ index
    · rw [modify_get, if_pos rfl, held]
      rfl
    · rw [keeps]
      exact isKey
  · apply lookup_congr
    intro other otherKey
    constructor
    · rintro ⟨slot, heldOther⟩
      rw [modify_get] at heldOther
      split_ifs at heldOther with here
      · rw [here, held] at heldOther
        cases heldOther
        rw [keeps] at otherKey
        exact absurd otherKey isKey
      · exact ⟨slot, heldOther⟩
    · rintro ⟨slot, heldOther⟩
      have elsewhere := slot_ne_of_key held heldOther isKey otherKey
      exact ⟨slot, by rw [modify_get, if_neg elsewhere, heldOther]⟩

theorem lookup_clear (held : table.slots.get index = some entry) (key : Key) :
    (table.clear index).lookup key = if keyOf entry = key then none else table.lookup key := by
  split_ifs with isKey
  · apply lookup_eq_none_iff.mpr
    intro slot other heldOther otherKey
    rw [clear_get] at heldOther
    split_ifs at heldOther with here
    exact here (table.distinct slot index other entry heldOther held (otherKey.trans isKey.symm))
  · apply lookup_congr
    intro other otherKey
    constructor
    · rintro ⟨slot, heldOther⟩
      exact ⟨slot, cleared_held heldOther⟩
    · rintro ⟨slot, heldOther⟩
      have elsewhere := slot_ne_of_key held heldOther isKey otherKey
      exact ⟨slot, by rw [clear_get, if_neg elsewhere, heldOther]⟩

theorem lookup_place (vacant : table.slots.get index = none)
    (fresh : ∀ slot other, table.slots.get slot = some other → keyOf other ≠ keyOf entry)
    (key : Key) :
    (table.place index entry fresh).lookup key =
      if keyOf entry = key then some entry else table.lookup key := by
  split_ifs with isKey
  · apply @lookup_held _ _ _ _ _ _ index
    · rw [place_get, if_pos rfl]
    · exact isKey
  · apply lookup_congr
    intro other otherKey
    constructor
    · rintro ⟨slot, heldOther⟩
      rw [place_get] at heldOther
      split_ifs at heldOther with here
      · cases heldOther
        exact absurd otherKey isKey
      · exact ⟨slot, heldOther⟩
    · rintro ⟨slot, heldOther⟩
      have elsewhere : slot ≠ index := by
        rintro rfl
        rw [vacant] at heldOther
        cases heldOther
      exact ⟨slot, by rw [place_get, if_neg elsewhere, heldOther]⟩

theorem lookup_replace {old : Entry} (held : table.slots.get index = some old)
    (fresh : ∀ slot other, (table.clear index).slots.get slot = some other →
      keyOf other ≠ keyOf entry) (key : Key) :
    ((table.clear index).place index entry fresh).lookup key =
      if keyOf entry = key then some entry
      else if keyOf old = key then none else table.lookup key := by
  have vacant : (table.clear index).slots.get index = none := by
    rw [clear_get, if_pos rfl]
  rw [lookup_place vacant fresh, lookup_clear held]

theorem lookup_expire (table : Keyed Entry keyOf capacity) (old : Entry → Bool) (key : Key) :
    (table.expire old).lookup key = (table.lookup key).filter fun entry => !old entry := by
  cases found : table.lookup key with
  | none =>
      apply lookup_eq_none_iff.mpr
      intro index entry held
      rw [expire_get] at held
      exact lookup_eq_none_iff.mp found index entry (Option.filter_eq_some_iff.mp held).1
  | some entry =>
      obtain ⟨index, held, isKey⟩ := lookup_some found
      have kept : (table.expire old).slots.get index =
          (some entry).filter fun entry => !old entry := by
        rw [expire_get, held]
      cases gone : old entry with
      | false =>
          simp only [Option.filter_some, gone, Bool.not_false, if_true] at kept ⊢
          exact lookup_held kept isKey
      | true =>
          simp only [Option.filter_some, gone, Bool.not_true, Bool.false_eq_true, if_false]
          apply lookup_eq_none_iff.mpr
          intro slot other heldOther otherKey
          rw [expire_get] at heldOther
          obtain ⟨before, young⟩ := Option.filter_eq_some_iff.mp heldOther
          have same := table.distinct slot index other entry before held
            (otherKey.trans isKey.symm)
          rw [same, held] at before
          cases before
          rw [gone] at young
          cases young

theorem full_of_keys (keys : Fin capacity → Key) (injective : Function.Injective keys)
    (known : ∀ number, (table.lookup (keys number)).isSome = true) :
    findEmpty table.slots = none := by
  cases found : findEmpty table.slots with
  | none => rfl
  | some free =>
      have there : ∀ number, ∃ slot entry, table.slots.get slot = some entry ∧
          keyOf entry = keys number := by
        intro number
        obtain ⟨entry, held⟩ := Option.isSome_iff_exists.mp (known number)
        obtain ⟨slot, heldSlot, isKey⟩ := lookup_some held
        exact ⟨slot, entry, heldSlot, isKey⟩
      choose place entries held isKey using there
      have apart : Function.Injective place := by
        intro first second same
        have sameEntry := held first
        rw [same, held second] at sameEntry
        apply injective
        rw [← isKey first, ← isKey second, Option.some.inj sameEntry]
      obtain ⟨number, isFree⟩ := (Finite.injective_iff_surjective.mp apart) free
      have vacant := find_empty_some found
      rw [← isFree, held number] at vacant
      cases vacant

/-- A table that holds no other keys than one with a free slot has a free slot. -/
theorem room_of_fewer {fewer : Keyed Entry keyOf capacity}
    (among : ∀ key, table.lookup key = none → fewer.lookup key = none)
    (room : findEmpty table.slots = some index) : ∃ free, findEmpty fewer.slots = some free := by
  cases full : findEmpty fewer.slots with
  | some free => exact ⟨free, rfl⟩
  | none =>
      choose entries held using find_empty_none full
      have injective : Function.Injective fun slot => keyOf (entries slot) := by
        intro first second same
        exact fewer.distinct first second _ _ (held first) (held second) same
      have known : ∀ slot, (table.lookup (keyOf (entries slot))).isSome = true := by
        intro slot
        apply Option.isSome_iff_ne_none.mpr
        intro missing
        have absent := among _ missing
        rw [lookup_held (held slot) rfl] at absent
        cases absent
      rw [full_of_keys _ injective known] at room
      cases room

end SlotTable.Keyed
