import BlindNet.FirewallVerdict
import Mathlib.Data.Vector.Mem

/-!
# How long a quarantine holds

An entry that blocks everything stays in the manager until it expires, whatever is
done for other subjects, as long as those never crowd it out of the table.
-/

namespace BlindNet

set_option autoImplicit false

open ByteLayout SlotTable

namespace QuarantineManager

/-- A running manager holds a BLOCK_ALL entry for the subject with that expiry. -/
structure Bars (manager : QuarantineManager) (subject : QuarantineSubject) (expiry : UInt32) :
    Prop where
  running : manager.initialized = true
  held : ∃ index entry, manager.slots.slots.get index = some entry ∧ entry.subject = subject ∧
    entry.mode = .blockAll ∧ entry.expiresAtMs = expiry

/-- All entries but those of the subject have their subjects among `others`. -/
def OthersWithin (subject : QuarantineSubject) (others : Finset QuarantineSubject)
    (manager : QuarantineManager) : Prop :=
  ∀ index entry, manager.slots.slots.get index = some entry →
    entry.subject = subject ∨ entry.subject ∈ others

instance (subject : QuarantineSubject) (others : Finset QuarantineSubject)
    (manager : QuarantineManager) : Decidable (OthersWithin subject others manager) :=
  decidable_of_iff
    (∀ slot ∈ manager.slots.slots.toList, ∀ entry ∈ slot,
      entry.subject = subject ∨ entry.subject ∈ others) <| by
    constructor
    · intro all index entry held
      exact all _ ((List.Vector.mem_iff_get _ _).mpr ⟨index, rfl⟩) entry held
    · intro within slot member entry held
      rcases (List.Vector.mem_iff_get _ _).mp member with ⟨index, rfl⟩
      exact within index entry held

theorem unexpired_before {entry : QuarantineEntry} {ts : UInt32} (early : ts < entry.expiresAtMs) :
    entryIsExpired entry ts = false := by
  have later : ¬ entry.expiresAtMs ≤ ts := UInt32.not_le.mpr early
  simp [entryIsExpired, later]

theorem Bars.blocks {manager : QuarantineManager} {subject : QuarantineSubject}
    {expiry ts : UInt32} (bars : manager.Bars subject expiry) (early : ts < expiry) :
    manager.Quarantines subject .blockAll ts := by
  rcases bars.held with ⟨index, entry, held, isSubject, isMode, rfl⟩
  exact ⟨index, entry, held, isSubject, isMode, unexpired_before early⟩

/-! ## Checks -/

theorem check_cases (ts : UInt32) (manager : QuarantineManager) (subject : QuarantineSubject) :
    (manager.check ts subject).2.initialized = manager.initialized ∧
    ((manager.check ts subject).2.slots = manager.slots ∨
      (∃ index entry, manager.findSlotLocked subject = some (index, entry) ∧
        entryIsExpired entry ts = true ∧
        (manager.check ts subject).2.slots = manager.slots.clear index) ∨
      ∃ index, (manager.check ts subject).2.slots =
        manager.slots.modify index (hit ts) (hit_subject ts)) := by
  generalize outcome : manager.check ts subject = checked
  unfold check at outcome
  split at outcome
  · rw [← outcome]
    exact ⟨rfl, Or.inl rfl⟩
  · split at outcome
    · rw [← outcome]
      exact ⟨rfl, Or.inl rfl⟩
    · rename_i index entry found
      split at outcome
      · rename_i expired
        rw [← outcome]
        exact ⟨rfl, Or.inr (Or.inl ⟨index, entry, found, expired, rfl⟩)⟩
      · rw [← outcome]
        exact ⟨rfl, Or.inr (Or.inr ⟨index, rfl⟩)⟩

theorem check_bars {manager : QuarantineManager} {subject : QuarantineSubject} {expiry ts : UInt32}
    (bars : manager.Bars subject expiry) (early : ts < expiry) (other : QuarantineSubject) :
    (manager.check ts other).2.Bars subject expiry := by
  rcases bars.held with ⟨index, entry, held, isSubject, isMode, isExpiry⟩
  rcases check_cases ts manager other with ⟨running, same | ⟨slot, old, found, expired, cleared⟩ |
    ⟨slot, counted⟩⟩
  · refine ⟨running.trans bars.running, index, entry, ?_, isSubject, isMode, isExpiry⟩
    rw [same, held]
  · refine ⟨running.trans bars.running, index, entry, ?_, isSubject, isMode, isExpiry⟩
    -- the entry is not expired, so another one was freed
    have elsewhere : index ≠ slot := by
      rintro rfl
      rw [(find_slot_some found).1] at held
      cases held
      rw [unexpired_before (by rw [isExpiry]; exact early)] at expired
      cases expired
    rw [cleared, Keyed.clear_get, if_neg elsewhere, held]
  · by_cases here : index = slot
    · refine ⟨running.trans bars.running, index, hit ts entry, ?_, isSubject, isMode, isExpiry⟩
      rw [counted, Keyed.modify_get, if_pos here, held]
      rfl
    · refine ⟨running.trans bars.running, index, entry, ?_, isSubject, isMode, isExpiry⟩
      rw [counted, Keyed.modify_get, if_neg here, held]

theorem check_within {manager : QuarantineManager} {subject : QuarantineSubject}
    {others : Finset QuarantineSubject} (within : OthersWithin subject others manager) (ts : UInt32)
    (other : QuarantineSubject) : OthersWithin subject others (manager.check ts other).2 := by
  intro index entry held
  rcases check_cases ts manager other with ⟨_, same | ⟨slot, old, _, _, cleared⟩ | ⟨slot, counted⟩⟩
  · rw [same] at held
    exact within index entry held
  · rw [cleared] at held
    exact within index entry (cleared_held held)
  · rw [counted, Keyed.modify_get] at held
    split_ifs at held
    · rcases Option.map_eq_some_iff.mp held with ⟨old, was, rfl⟩
      exact within index old was
    · exact within index entry held

/-! ## Additions -/

section Addition

variable (ts : UInt32) (manager : QuarantineManager) (subject : QuarantineSubject)
  (mode : QuarantineMode) (source : QuarantineSource) (ttlMs : UInt32) (riskScore : UInt8)
  (reason : Bytes)

def effectiveTtl : UInt32 := if ttlMs = 0 then manager.config.defaultTtlMs else ttlMs

/-- An addition renews the entry of the subject, takes a slot for a new one, or
changes nothing. -/
theorem add_cases :
    (manager.add ts subject mode source ttlMs riskScore reason).2.initialized =
      manager.initialized ∧
    ((manager.initialized && subjectIsValid subject) = false ∧
        (manager.add ts subject mode source ttlMs riskScore reason).2.slots = manager.slots ∨
      (∃ index entry, manager.findSlotLocked subject = some (index, entry) ∧
        (manager.add ts subject mode source ttlMs riskScore reason).2.slots =
          manager.slots.modify index
            (renew mode source (ts + effectiveTtl manager ttlMs) (min riskScore 100) reason)
            (renew_subject mode source _ _ reason)) ∨
      manager.findSlotLocked subject = none ∧
        ((claim manager.config.evictLruWhenFull lastUse manager.slots.slots = none ∧
          (manager.add ts subject mode source ttlMs riskScore reason).2.slots = manager.slots) ∨
        ∃ index evicted entry,
          claim manager.config.evictLruWhenFull lastUse manager.slots.slots =
            some (index, evicted) ∧
          entry.subject = subject ∧ entry.mode = mode ∧
          entry.expiresAtMs = ts + effectiveTtl manager ttlMs ∧
          ∀ slot, (manager.add ts subject mode source ttlMs riskScore reason).2.slots.slots.get
            slot = if slot = index then some entry else manager.slots.slots.get slot)) := by
  generalize outcome : manager.add ts subject mode source ttlMs riskScore reason = added
  unfold add at outcome
  split at outcome
  · rename_i ready
    have valid : subjectIsValid subject = true := (Bool.and_eq_true_iff.mp ready).2
    let entry := newEntry ts subject valid mode source (ts + effectiveTtl manager ttlMs)
      (min riskScore 100) reason
    simp only at outcome
    split at outcome
    · rename_i index old found
      rw [← outcome]
      exact ⟨rfl, Or.inr (Or.inl ⟨index, old, found, rfl⟩)⟩
    · rename_i missing
      split at outcome
      · rename_i full
        rw [← outcome]
        exact ⟨rfl, Or.inr (Or.inr ⟨missing, Or.inl ⟨full, rfl⟩⟩)⟩
      · rename_i index free
        rw [← outcome]
        exact ⟨rfl, Or.inr (Or.inr ⟨missing, Or.inr ⟨index, false, entry, free, rfl, rfl, rfl,
          fun slot => Keyed.place_get _ _ _ _ (find_slot_none missing)⟩⟩)⟩
      · rename_i index crowded
        rw [← outcome]
        refine ⟨rfl, Or.inr (Or.inr ⟨missing, Or.inr ⟨index, true, entry, crowded, rfl, rfl, rfl,
          fun slot => ?_⟩⟩)⟩
        -- the slot was freed first, so only its new content counts
        have placed := Keyed.place_get (manager.slots.clear index) index slot entry
          fun slot other held => find_slot_none missing slot other (cleared_held held)
        refine placed.trans ?_
        split_ifs with here
        · rfl
        · exact (Keyed.clear_get _ _ _).trans (if_neg here)
  · rename_i unready
    rw [← outcome]
    exact ⟨rfl, Or.inl ⟨by simpa using unready, rfl⟩⟩

end Addition

/-- With few other subjects there is room, so the addition is not refused and evicts
nobody. -/
theorem add_bars_self {manager : QuarantineManager} {subject : QuarantineSubject}
    (running : manager.initialized = true) (valid : subjectIsValid subject = true)
    {others : Finset QuarantineSubject} (few : others.card < quarantineMaxEntries)
    (within : OthersWithin subject others manager) (ts : UInt32) (source : QuarantineSource)
    {ttlMs : UInt32} (positive : ttlMs ≠ 0) (riskScore : UInt8) (reason : Bytes) :
    (manager.add ts subject .blockAll source ttlMs riskScore reason).2.Bars subject
      (ts + ttlMs) := by
  have isTtl : effectiveTtl manager ttlMs = ttlMs := if_neg positive
  rcases add_cases ts manager subject .blockAll source ttlMs riskScore reason with
    ⟨same, ⟨unready, _⟩ | ⟨index, entry, found, renewed⟩ | ⟨missing, ⟨full, _⟩ |
      ⟨index, evicted, entry, _, isSubject, isMode, isExpiry, placed⟩⟩⟩
  · rw [running, valid] at unready
    cases unready
  · rcases find_slot_some found with ⟨held, isSubject⟩
    refine ⟨same.trans running, index, renew .blockAll source (ts + effectiveTtl manager ttlMs)
      (min riskScore 100) reason entry, ?_, isSubject, rfl, ?_⟩
    · rw [renewed, Keyed.modify_get, if_pos rfl, held]
      rfl
    · rw [isTtl]
      rfl
  · -- the subject is not in the table, so all keys are among the others
    have among : ∀ index entry, manager.slots.slots.get index = some entry →
        entry.subject ∈ others := by
      intro index entry held
      exact (within index entry held).resolve_left (find_slot_none missing index entry held)
    rcases manager.slots.exists_empty others among few with ⟨index, free⟩
    rw [claim, free] at full
    cases full
  · refine ⟨same.trans running, index, entry, ?_, isSubject, isMode, ?_⟩
    · rw [placed, if_pos rfl]
    · rw [isExpiry, isTtl]

/-- An addition for another subject never evicts the entry, since the two and the
others fit into the table. -/
theorem add_bars_other {manager : QuarantineManager} {subject other : QuarantineSubject}
    {expiry : UInt32} (bars : manager.Bars subject expiry) (different : other ≠ subject)
    {others : Finset QuarantineSubject} (few : others.card < quarantineMaxEntries)
    (within : OthersWithin subject others manager) {ts : UInt32} {mode : QuarantineMode}
    {source : QuarantineSource} {ttlMs : UInt32} {riskScore : UInt8} {reason : Bytes}
    (after : OthersWithin subject others
      (manager.add ts other mode source ttlMs riskScore reason).2) :
    (manager.add ts other mode source ttlMs riskScore reason).2.Bars subject expiry := by
  rcases bars.held with ⟨slot, entry, held, isSubject, isMode, isExpiry⟩
  rcases add_cases ts manager other mode source ttlMs riskScore reason with
    ⟨running, ⟨_, same⟩ | ⟨index, old, found, renewed⟩ | ⟨missing, ⟨_, same⟩ |
      ⟨index, evicted, fresh, claimed, isOther, _, _, placed⟩⟩⟩
  · refine ⟨running.trans bars.running, slot, entry, ?_, isSubject, isMode, isExpiry⟩
    rw [same, held]
  · have elsewhere : slot ≠ index := by
      rintro rfl
      rcases find_slot_some found with ⟨heldOld, isOther⟩
      rw [heldOld] at held
      cases held
      exact different (isOther.symm.trans isSubject)
    refine ⟨running.trans bars.running, slot, entry, ?_, isSubject, isMode, isExpiry⟩
    rw [renewed, Keyed.modify_get, if_neg elsewhere, held]
  · refine ⟨running.trans bars.running, slot, entry, ?_, isSubject, isMode, isExpiry⟩
    rw [same, held]
  · have member : other ∈ others := by
      have inside := after index fresh (by rw [placed, if_pos rfl])
      rw [isOther] at inside
      exact inside.resolve_left different
    -- all keys are the subject and the others without the new one
    have among : ∀ index entry, manager.slots.slots.get index = some entry →
        entry.subject ∈ insert subject (others.erase other) := by
      intro index entry held
      rw [Finset.mem_insert, Finset.mem_erase]
      exact (within index entry held).imp_right
        fun inside => ⟨find_slot_none missing index entry held, inside⟩
    have fits : (insert subject (others.erase other)).card < quarantineMaxEntries := by
      have inserted := Finset.card_insert_le subject (others.erase other)
      have erased := Finset.card_erase_add_one member
      omega
    rcases manager.slots.exists_empty _ among fits with ⟨room, free⟩
    rw [claim, free] at claimed
    cases claimed
    have elsewhere : slot ≠ index := by
      rintro rfl
      rw [find_empty_some free] at held
      cases held
    refine ⟨running.trans bars.running, slot, entry, ?_, isSubject, isMode, isExpiry⟩
    rw [placed, if_neg elsewhere, held]

/-! ## Removals and expiry -/

theorem remove_bars {manager : QuarantineManager} {subject other : QuarantineSubject}
    {expiry : UInt32} (bars : manager.Bars subject expiry) (different : other ≠ subject) :
    (manager.remove other).2.Bars subject expiry := by
  rcases bars.held with ⟨slot, entry, held, isSubject, isMode, isExpiry⟩
  unfold remove
  split
  · exact bars
  · split
    · exact bars
    · rename_i index old found
      have elsewhere : slot ≠ index := by
        rintro rfl
        rcases find_slot_some found with ⟨heldOld, isOther⟩
        rw [heldOld] at held
        cases held
        exact different (isOther.symm.trans isSubject)
      exact ⟨bars.running, slot, entry,
        ((manager.slots.clear_get index slot).trans (if_neg elsewhere)).trans held, isSubject,
        isMode, isExpiry⟩

theorem expire_old_bars {manager : QuarantineManager} {subject : QuarantineSubject}
    {expiry ts : UInt32} (bars : manager.Bars subject expiry) (early : ts < expiry) :
    (manager.expireOld ts).2.Bars subject expiry := by
  rcases bars.held with ⟨slot, entry, held, isSubject, isMode, rfl⟩
  unfold expireOld
  split
  · exact bars
  · refine ⟨bars.running, slot, entry, ?_, isSubject, isMode, rfl⟩
    refine (manager.slots.expire_get _ slot).trans ?_
    rw [held, Option.filter_some, unexpired_before early]
    rfl

end QuarantineManager

end BlindNet
