import BlindNet.QuarantineHold
import BlindNet.SecurityServices
import BlindNet.Lib.SlotAccount
import BlindNet.Lib.SlotLookup

/-!
# The quarantine manager as a map

Where an entry is kept does not matter to anybody: what the manager does is said by the
entry it holds for each subject. A check drops an expired entry and counts a hit on any
other; an addition renews the entry of its subject or makes one, at the cost of the entry
it evicts; an expiry drops what has expired.
-/

namespace BlindNet

set_option autoImplicit false

open ByteLayout SlotTable

namespace QuarantineManager

def lookup (manager : QuarantineManager) (subject : QuarantineSubject) : Option QuarantineEntry :=
  manager.slots.lookup subject

variable {manager : QuarantineManager} {subject : QuarantineSubject}

theorem find_slot_lookup {index : Fin quarantineMaxEntries} {entry : QuarantineEntry}
    (found : manager.findSlotLocked subject = some (index, entry)) :
    manager.lookup subject = some entry := by
  obtain ⟨held, isSubject⟩ := find_slot_some found
  exact Keyed.lookup_held held isSubject

theorem find_slot_lookup_none (missing : manager.findSlotLocked subject = none) :
    manager.lookup subject = none :=
  Keyed.lookup_eq_none_iff.mpr (find_slot_none missing)

theorem lookup_invalid (invalid : subjectIsValid subject = false) :
    manager.lookup subject = none := by
  apply Keyed.lookup_eq_none_iff.mpr
  rintro index entry _ rfl
  rw [entry.valid] at invalid
  cases invalid

/-! ## Checks -/

def checkEntry (ts : UInt32) (entry : Option QuarantineEntry) : Option QuarantineEntry :=
  (entry.filter fun held => !entryIsExpired held ts).map (hit ts)

theorem check_spec (ready : manager.initialized = true) (ts : UInt32)
    (subject : QuarantineSubject) :
    (manager.check ts subject).1 =
        (checkEntry ts (manager.lookup subject)).map (fun entry => fillCheckResult entry ts) ∧
      (manager.check ts subject).2.initialized = true ∧
      (manager.check ts subject).2.config = manager.config ∧
      ∀ key, (manager.check ts subject).2.lookup key =
        if subject = key then checkEntry ts (manager.lookup key) else manager.lookup key := by
  unfold check
  by_cases valid : subjectIsValid subject = true
  · simp only [ready, valid, Bool.not_true, Bool.or_self, Bool.false_eq_true, if_false]
    cases search : manager.findSlotLocked subject with
    | none =>
        have missing := find_slot_lookup_none search
        refine ⟨by rw [missing]; rfl, rfl, rfl, ?_⟩
        intro key
        split_ifs with isKey
        · rw [← isKey, missing]
          exact missing
        · rfl
    | some found =>
        obtain ⟨index, entry⟩ := found
        have here := find_slot_lookup search
        obtain ⟨held, isSubject⟩ := find_slot_some search
        cases expired : entryIsExpired entry ts with
        | true =>
            have dropped : checkEntry ts (some entry) = none := by simp [checkEntry, expired]
            refine ⟨by rw [here, dropped]; simp [expired],
              by simp [expired, clearSlotLocked, ready], by simp [expired, clearSlotLocked], ?_⟩
            intro key
            simp only [expired, if_true]
            refine (Keyed.lookup_clear held key).trans ?_
            rw [isSubject]
            split_ifs with isKey
            · rw [← isKey, here, dropped]
            · rfl
        | false =>
            have counted : checkEntry ts (some entry) = some (hit ts entry) := by
              simp [checkEntry, expired]
            refine ⟨by rw [here, counted]; simp [expired], by simp [expired],
              by simp [expired], ?_⟩
            intro key
            simp only [expired, Bool.false_eq_true, if_false]
            refine (Keyed.lookup_modify held (hit ts) (hit_subject ts) key).trans ?_
            rw [isSubject]
            split_ifs with isKey
            · rw [← isKey, here, counted]
            · rfl
  · have invalid : subjectIsValid subject = false := by simpa using valid
    have missing : manager.lookup subject = none := lookup_invalid invalid
    simp only [invalid, Bool.not_false, Bool.or_true, if_true]
    refine ⟨by rw [missing]; rfl, ready, rfl, ?_⟩
    intro key
    split_ifs with isKey
    · rw [← isKey, missing]
      exact missing
    · rfl

/-! ## Additions -/

/-- The subject whose entry is evicted to make room for another one. -/
def evicted (manager : QuarantineManager) (subject : QuarantineSubject) :
    Option QuarantineSubject :=
  match manager.lookup subject,
      claim manager.config.evictLruWhenFull lastUse manager.slots.slots with
  | none, some (index, true) => (manager.slots.slots.get index).map QuarantineEntry.subject
  | _, _ => none

section Addition

variable (ts : UInt32) (valid : subjectIsValid subject = true) (mode : QuarantineMode)
  (source : QuarantineSource) (expiresAtMs : UInt32) (riskScore : UInt8) (reason : Bytes)

/-- The entry after an addition: the old one renewed, or a new one. -/
def addEntry : Option QuarantineEntry → QuarantineEntry
  | some entry => renew mode source expiresAtMs riskScore reason entry
  | none => newEntry ts subject valid mode source expiresAtMs riskScore reason

/-- An addition fails for want of a slot, or it sets the entry of its subject and drops
the one it evicts. -/
theorem add_spec (ready : manager.initialized = true) (ttlMs : UInt32) :
    ((manager.add ts subject mode source ttlMs riskScore reason).1 = .error .noMem ∧
      manager.lookup subject = none ∧
      claim manager.config.evictLruWhenFull lastUse manager.slots.slots = none ∧
      (manager.add ts subject mode source ttlMs riskScore reason).2 = manager) ∨
    ((manager.add ts subject mode source ttlMs riskScore reason).1 = .ok () ∧
      (manager.add ts subject mode source ttlMs riskScore reason).2.initialized = true ∧
      (manager.add ts subject mode source ttlMs riskScore reason).2.config = manager.config ∧
      ∀ key, (manager.add ts subject mode source ttlMs riskScore reason).2.lookup key =
        if subject = key then
          some (addEntry ts valid mode source (ts + effectiveTtl manager ttlMs)
            (min riskScore 100) reason (manager.lookup key))
        else if manager.evicted subject = some key then none
        else manager.lookup key) := by
  have started : (manager.initialized && subjectIsValid subject) = true := by rw [ready, valid]; rfl
  generalize outcome : manager.add ts subject mode source ttlMs riskScore reason = added
  unfold add at outcome
  rw [dif_pos started] at outcome
  simp only at outcome
  split at outcome
  next index old found =>
    right
    subst outcome
    obtain ⟨held, isSubject⟩ := find_slot_some found
    have here := find_slot_lookup found
    have keeps : manager.evicted subject = none := by simp [evicted, here]
    refine ⟨rfl, ready, rfl, ?_⟩
    intro key
    refine (Keyed.lookup_modify held _ (renew_subject mode source _ _ reason) key).trans ?_
    rw [isSubject, keeps, if_neg (Option.some_ne_none key).symm]
    by_cases isKey : subject = key
    · rw [if_pos isKey, if_pos isKey, ← isKey, here]
      rfl
    · rw [if_neg isKey, if_neg isKey]
      rfl
  next missing =>
    have absent := find_slot_lookup_none missing
    split at outcome
    next full =>
      left
      subst outcome
      exact ⟨rfl, absent, full, rfl⟩
    next index free =>
      right
      subst outcome
      have keeps : manager.evicted subject = none := by simp [evicted, absent, free]
      refine ⟨rfl, ready, rfl, ?_⟩
      intro key
      refine (Keyed.lookup_place (claim_free free) (find_slot_none missing) key).trans ?_
      rw [keeps, if_neg (Option.some_ne_none key).symm]
      change (if subject = key then _ else _) = _
      by_cases isKey : subject = key
      · rw [if_pos isKey, if_pos isKey, ← isKey, absent]
        rfl
      · rw [if_neg isKey, if_neg isKey]
        rfl
    next index crowded =>
      right
      subst outcome
      obtain ⟨old, held⟩ := claim_evicts crowded
      have loses : manager.evicted subject = some old.subject := by
        simp [evicted, absent, crowded, held]
      refine ⟨rfl, ready, rfl, ?_⟩
      intro key
      apply (Keyed.lookup_replace held
        (fun slot other held => find_slot_none missing slot other (cleared_held held)) key).trans
      rw [loses]
      change (if subject = key then _ else _) = _
      by_cases isKey : subject = key
      · rw [if_pos isKey, if_pos isKey, ← isKey, absent]
        rfl
      · rw [if_neg isKey, if_neg isKey]
        simp only [Option.some.injEq]
        rfl

end Addition

theorem add_invalid (invalid : subjectIsValid subject = false) (ts : UInt32)
    (mode : QuarantineMode) (source : QuarantineSource) (ttlMs : UInt32) (riskScore : UInt8)
    (reason : Bytes) :
    manager.add ts subject mode source ttlMs riskScore reason =
      (.error .invalidArg, manager.invalid) := by
  unfold add
  rw [dif_neg (by simp [invalid])]

/-! ## Removals and expiry -/

theorem remove_spec (ready : manager.initialized = true) (subject : QuarantineSubject) :
    (manager.remove subject).2.initialized = true ∧
      (manager.remove subject).2.config = manager.config ∧
      ∀ key, (manager.remove subject).2.lookup key =
        if subject = key then none else manager.lookup key := by
  unfold remove
  by_cases valid : subjectIsValid subject = true
  · rw [if_neg (by simp [ready, valid])]
    split
    next missing =>
      have absent := find_slot_lookup_none missing
      refine ⟨ready, rfl, ?_⟩
      intro key
      split_ifs with isKey
      · rw [← isKey]
        exact absent
      · rfl
    next index entry found =>
      obtain ⟨held, isSubject⟩ := find_slot_some found
      refine ⟨ready, rfl, ?_⟩
      intro key
      refine (Keyed.lookup_clear held key).trans ?_
      rw [isSubject]
      rfl
  · have invalid : subjectIsValid subject = false := by simpa using valid
    rw [if_pos (by simp [invalid])]
    refine ⟨ready, rfl, ?_⟩
    intro key
    split_ifs with isKey
    · rw [← isKey]
      exact lookup_invalid invalid
    · rfl

theorem expire_old_spec (ready : manager.initialized = true) (ts : UInt32) :
    (manager.expireOld ts).2.initialized = true ∧
      (manager.expireOld ts).2.config = manager.config ∧
      ∀ key, (manager.expireOld ts).2.lookup key =
        (manager.lookup key).filter fun entry => !entryIsExpired entry ts := by
  unfold expireOld
  rw [if_neg (by simp [ready])]
  refine ⟨ready, rfl, ?_⟩
  intro key
  exact Keyed.lookup_expire manager.slots _ key

end QuarantineManager

end BlindNet
