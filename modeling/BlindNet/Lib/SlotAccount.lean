import BlindNet.Lib.SlotTable

/-!
# Accounts of slots

The number of slots in use, and a ledger next to it: a 32-bit count of the entries
that are there, and 64-bit counts of those that ever came and those that went. Every
operation on the slots has its entry in the ledger, so the ledger balances.
-/

namespace SlotTable

set_option autoImplicit false

variable {Entry : Type} {capacity : Nat} {slots : Slots Entry capacity} {index : Fin capacity}
  {entry : Entry}

def inUse (slots : Slots Entry capacity) : Nat := slots.toList.countP Option.isSome

/-- As many entries as the ledger says, and all that came are there or went. -/
structure Balanced (slots : Slots Entry capacity) (active : UInt32) (came went : UInt64) :
    Prop where
  counted : active.toNat = inUse slots
  balance : came = active.toUInt64 + went

theorem in_use_le (slots : Slots Entry capacity) : inUse slots ≤ capacity := by
  have bound := @List.countP_le_length _ Option.isSome slots.toList
  rwa [List.Vector.toList_length] at bound

theorem in_use_empty : inUse (List.Vector.replicate capacity (none : Option Entry)) = 0 := by
  apply List.countP_eq_zero.mpr
  intro slot member
  have isNone : slot = none := List.eq_of_mem_replicate member
  rw [isNone]
  exact Bool.false_ne_true

theorem in_use_held (held : slots.get index = some entry) : 0 < inUse slots := by
  apply List.countP_pos_iff.mpr
  refine ⟨some entry, ?_, rfl⟩
  rw [← held, List.Vector.get_eq_get_toList]
  exact List.get_mem _ _

theorem in_use_set (slots : Slots Entry capacity) (index : Fin capacity) (slot : Option Entry) :
    inUse (slots.set index slot) =
      (inUse slots - if (slots.get index).isSome then 1 else 0) +
        if slot.isSome then 1 else 0 := by
  have inside : index.val < slots.toList.length := by
    rw [List.Vector.toList_length]
    exact index.isLt
  have counted := @List.countP_set _ Option.isSome _ _ slot inside
  exact counted

theorem in_use_modified {Key : Type} {keyOf : Entry → Key} (table : Keyed Entry keyOf capacity)
    (index : Fin capacity) (change : Entry → Entry)
    (keeps : ∀ entry, keyOf (change entry) = keyOf entry) :
    inUse (table.modify index change keeps).slots = inUse table.slots := by
  change inUse (table.slots.set index ((table.slots.get index).map change)) = _
  rw [in_use_set]
  cases held : table.slots.get index with
  | none => rfl
  | some entry =>
      have positive := in_use_held held
      simp only [Option.map_some, Option.isSome_some, if_true]
      omega

theorem in_use_released (old : Entry → Bool) (slots : Slots Entry capacity) :
    inUse (release old slots) + slots.toList.countP (fun slot => slot.any old) = inUse slots := by
  unfold inUse release
  rw [List.Vector.toList_map, List.countP_map]
  induction slots.toList with
  | nil => rfl
  | cons slot rest induction =>
      simp only [List.countP_cons, Function.comp_apply] at induction ⊢
      cases slot with
      | none => simpa using induction
      | some entry =>
          cases tooOld : old entry with
          | false =>
              simp only [Option.filter_some, tooOld, Option.any_some]
              simp
              omega
          | true =>
              simp only [Option.filter_some, tooOld, Option.any_some]
              simp
              omega

/-! ## The ledger -/

variable {active : UInt32} {came went : UInt64}

theorem Balanced.empty :
    Balanced (List.Vector.replicate capacity (none : Option Entry)) 0 0 0 where
  counted := in_use_empty.symm
  balance := rfl

theorem Balanced.same (balanced : Balanced slots active came went) {next : Slots Entry capacity}
    (same : inUse next = inUse slots) : Balanced next active came went where
  counted := balanced.counted.trans same.symm
  balance := balanced.balance

theorem Balanced.went_as (balanced : Balanced slots active came went) {others : UInt64}
    (same : others = went) : Balanced slots active came others := by
  rw [same]
  exact balanced

theorem Balanced.filled (balanced : Balanced slots active came went)
    (small : capacity < 2 ^ 32) (free : slots.get index = none) (entry : Entry) :
    Balanced (slots.set index (some entry)) (active + 1) (came + 1) went := by
  have counted := balanced.counted
  have more : inUse (slots.set index (some entry)) = inUse slots + 1 := by
    rw [in_use_set, free]
    rfl
  have bound := in_use_le (slots.set index (some entry))
  have one : (1 : UInt32).toNat = 1 := rfl
  have next : (active + 1).toNat = active.toNat + 1 := by
    rw [UInt32.toNat_add, one]
    omega
  constructor
  · rw [next, counted, more]
  · have wide : (active + 1).toUInt64 = active.toUInt64 + 1 := by
      apply UInt64.toNat_inj.mp
      have oneWide : (1 : UInt64).toNat = 1 := rfl
      rw [UInt64.toNat_add, UInt32.toNat_toUInt64, UInt32.toNat_toUInt64, next, oneWide]
      omega
    rw [wide, balanced.balance]
    ac_rfl

/-- Freeing a slot takes one from the count where the count is positive, and it is. -/
theorem Balanced.cleared (balanced : Balanced slots active came went)
    (held : slots.get index = some entry) :
    Balanced (slots.set index none)
      (if (slots.get index).isSome && 0 < active then active - 1 else active) came (went + 1) := by
  have counted := balanced.counted
  have positive := in_use_held held
  have less : inUse (slots.set index none) = inUse slots - 1 := by
    rw [in_use_set, held]
    rfl
  have some : 0 < active := by
    apply UInt32.lt_iff_toNat_lt.mpr
    change 0 < active.toNat
    omega
  have one : (1 : UInt32).toNat = 1 := rfl
  have next : (active - 1).toNat = active.toNat - 1 := by
    rw [UInt32.toNat_sub_of_le _ _ (by apply UInt32.le_iff_toNat_le.mpr; omega), one]
  rw [held]
  simp only [Option.isSome_some, some, decide_true, Bool.and_self, if_true]
  constructor
  · rw [next, counted, less]
  · have wide : active.toUInt64 = (active - 1).toUInt64 + 1 := by
      apply UInt64.toNat_inj.mp
      have oneWide : (1 : UInt64).toNat = 1 := rfl
      have bounded := active.toNat_lt
      rw [UInt64.toNat_add, UInt32.toNat_toUInt64, UInt32.toNat_toUInt64, next, oneWide]
      omega
    rw [balanced.balance, wide]
    ac_rfl

theorem Balanced.evicted (balanced : Balanced slots active came went)
    (small : capacity < 2 ^ 32) (held : slots.get index = some entry) (next : Entry) :
    Balanced ((slots.set index none).set index (some next))
      ((if (slots.get index).isSome && 0 < active then active - 1 else active) + 1) (came + 1)
      (went + 1) :=
  (balanced.cleared held).filled small (List.Vector.get_set_same _ _ _) next

theorem Balanced.released (balanced : Balanced slots active came went) (old : Entry → Bool) :
    Balanced (release old slots)
      (UInt32.ofNat (active.toNat - slots.toList.countP fun slot => slot.any old)) came
      (went + UInt64.ofNat (slots.toList.countP fun slot => slot.any old)) := by
  have counted := balanced.counted
  have split := in_use_released old slots
  have bounded := active.toNat_lt
  generalize (slots.toList.countP fun slot => slot.any old) = expired at split ⊢
  have next : (UInt32.ofNat (active.toNat - expired)).toNat = active.toNat - expired := by
    rw [UInt32.toNat_ofNat']
    omega
  constructor
  · omega
  · have wide : active.toUInt64 =
        (UInt32.ofNat (active.toNat - expired)).toUInt64 + UInt64.ofNat expired := by
      apply UInt64.toNat_inj.mp
      rw [UInt64.toNat_add, UInt32.toNat_toUInt64, UInt32.toNat_toUInt64, next,
        UInt64.toNat_ofNat']
      omega
    rw [balanced.balance, wide]
    ac_rfl

/-! ## Claimed slots -/

theorem claim_free {evict : Bool} {age : Entry → UInt32}
    (claimed : claim evict age slots = some (index, false)) : slots.get index = none := by
  unfold claim at claimed
  split at claimed
  next free found =>
    cases claimed
    exact find_empty_some found
  next full =>
    split at claimed
    · simp at claimed
    · cases claimed

theorem claim_evicts {evict : Bool} {age : Entry → UInt32}
    (claimed : claim evict age slots = some (index, true)) :
    ∃ entry, slots.get index = some entry := by
  unfold claim at claimed
  split at claimed
  next => cases claimed
  next full => exact find_empty_none full index

end SlotTable
