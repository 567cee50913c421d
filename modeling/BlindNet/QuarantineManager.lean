import BlindNet.FlowTable

/-!
# Quarantine manager

Quarantined subjects in 64 slots. An entry holds a valid subject, and no two entries
hold the same one. Entries expire lazily: a check that meets an expired entry frees
its slot.
-/

namespace BlindNet

set_option autoImplicit false

open ByteLayout SlotTable

def quarantineMaxEntries : Nat := 64

inductive QuarantineSubject where
  | none
  | ip (address : UInt32)
  | mac (address : ByteArr 6)
  | deviceId (id : UInt32)
  deriving DecidableEq

inductive QuarantineMode where
  | blockAll
  | restricted
  | logOnly
  deriving DecidableEq, Repr

inductive QuarantineSource where
  | localPolicy
  | rateLimit
  | swarm
  | manual
  | unknown
  deriving DecidableEq, Repr

def subjectIsValid : QuarantineSubject → Bool
  | .ip address => address != 0
  | .mac address => address != List.Vector.replicate 6 0
  | .deviceId id => id != 0
  | .none => false

def subjectEquals : QuarantineSubject → QuarantineSubject → Bool
  | .ip a, .ip b => a == b
  | .mac a, .mac b => a == b
  | .deviceId a, .deviceId b => a == b
  | _, _ => false

theorem subject_equals_iff {first : QuarantineSubject} (valid : subjectIsValid first = true)
    (second : QuarantineSubject) : subjectEquals first second = true ↔ first = second := by
  cases first with
  | none => cases valid
  | ip a => cases second <;> simp [subjectEquals]
  | mac a => cases second <;> simp [subjectEquals]
  | deviceId a => cases second <;> simp [subjectEquals]

structure QuarantineEntry where
  subject : QuarantineSubject
  valid : subjectIsValid subject = true
  mode : QuarantineMode
  source : QuarantineSource
  createdAtMs : UInt32
  expiresAtMs : UInt32
  lastHitMs : UInt32
  hitCount : UInt32
  riskScore : UInt8
  reason : ByteArr 48

structure QuarantineManagerConfig where
  defaultTtlMs : UInt32
  evictLruWhenFull : Bool
  deriving DecidableEq

structure QuarantineManagerStats where
  capacity : UInt32
  activeEntries : UInt32
  added : UInt64
  refreshed : UInt64
  removed : UInt64
  expired : UInt64
  hits : UInt64
  misses : UInt64
  evicted : UInt64
  invalidInput : UInt64
  deriving DecidableEq

structure QuarantineManager where
  initialized : Bool
  config : QuarantineManagerConfig
  slots : Keyed QuarantineEntry QuarantineEntry.subject quarantineMaxEntries
  stats : QuarantineManagerStats

/-- What a check that finds an entry reports. -/
structure QuarantineCheckResult where
  mode : QuarantineMode
  source : QuarantineSource
  expiresAtMs : UInt32
  remainingMs : UInt32
  hitCount : UInt32
  riskScore : UInt8
  reason : ByteArr 48
  deriving DecidableEq

namespace QuarantineManager

def clearedStats : QuarantineManagerStats := ⟨64, 0, 0, 0, 0, 0, 0, 0, 0, 0⟩

def boot : QuarantineManager := ⟨false, ⟨0, false⟩, .empty, ⟨0, 0, 0, 0, 0, 0, 0, 0, 0, 0⟩⟩

def loadDefaultConfig : QuarantineManagerConfig := ⟨60000, true⟩

def init (config : Option QuarantineManagerConfig) (_ : QuarantineManager) : QuarantineManager :=
  ⟨true,
    match config with
    | none => loadDefaultConfig
    | some given =>
        { given with
          defaultTtlMs := if given.defaultTtlMs = 0 then 60000 else given.defaultTtlMs },
    .empty, clearedStats⟩

def reset (manager : QuarantineManager) : QuarantineManager :=
  { manager with slots := .empty, stats := clearedStats }

def entryIsExpired (entry : QuarantineEntry) (ts : UInt32) : Bool :=
  entry.expiresAtMs != 0 && entry.expiresAtMs ≤ ts

def findSlotLocked (manager : QuarantineManager) (subject : QuarantineSubject) :
    Option (Fin quarantineMaxEntries × QuarantineEntry) :=
  findEntry (fun entry => subjectEquals entry.subject subject) manager.slots.slots

/-- An entry that was never hit counts with its creation. -/
def lastUse (entry : QuarantineEntry) : UInt32 :=
  if entry.lastHitMs = 0 then entry.createdAtMs else entry.lastHitMs

def clearSlotLocked (manager : QuarantineManager) (index : Fin quarantineMaxEntries) :
    QuarantineManager :=
  { manager with
    slots := manager.slots.clear index
    stats := { manager.stats with
      activeEntries :=
        if (manager.slots.slots.get index).isSome && 0 < manager.stats.activeEntries then
          manager.stats.activeEntries - 1
        else
          manager.stats.activeEntries } }

def invalid (manager : QuarantineManager) : QuarantineManager :=
  { manager with stats := { manager.stats with invalidInput := manager.stats.invalidInput + 1 } }

theorem find_slot_none {manager : QuarantineManager} {subject : QuarantineSubject}
    (missing : manager.findSlotLocked subject = none) :
    ∀ slot other, manager.slots.slots.get slot = some other → other.subject ≠ subject := by
  intro slot other held same
  have unmatched := find_entry_none missing held
  rw [(subject_equals_iff other.valid subject).mpr same] at unmatched
  cases unmatched

/-- Fills a slot that is free, or was just freed. -/
def fillSlotLocked (manager : QuarantineManager) (index : Fin quarantineMaxEntries)
    (entry : QuarantineEntry)
    (fresh : ∀ slot other, manager.slots.slots.get slot = some other →
      other.subject ≠ entry.subject) : QuarantineManager :=
  { manager with
    slots := manager.slots.place index entry fresh
    stats := { manager.stats with
      activeEntries := manager.stats.activeEntries + 1
      added := manager.stats.added + 1 } }

def renew (mode : QuarantineMode) (source : QuarantineSource) (expiresAtMs : UInt32)
    (riskScore : UInt8) (reason : Bytes) (entry : QuarantineEntry) : QuarantineEntry :=
  { entry with
    mode := mode
    source := source
    expiresAtMs := expiresAtMs
    riskScore := riskScore
    reason := strncpyCleared 48 reason }

theorem renew_subject (mode : QuarantineMode) (source : QuarantineSource) (expiresAtMs : UInt32)
    (riskScore : UInt8) (reason : Bytes) (entry : QuarantineEntry) :
    (renew mode source expiresAtMs riskScore reason entry).subject = entry.subject := rfl

def newEntry (ts : UInt32) (subject : QuarantineSubject) (valid : subjectIsValid subject = true)
    (mode : QuarantineMode) (source : QuarantineSource) (expiresAtMs : UInt32)
    (riskScore : UInt8) (reason : Bytes) : QuarantineEntry :=
  ⟨subject, valid, mode, source, ts, expiresAtMs, 0, 0, riskScore, strncpyCleared 48 reason⟩

def add (ts : UInt32) (manager : QuarantineManager) (subject : QuarantineSubject)
    (mode : QuarantineMode) (source : QuarantineSource) (ttlMs : UInt32) (riskScore : UInt8)
    (reason : Bytes) : Result Unit × QuarantineManager :=
  if ready : (manager.initialized && subjectIsValid subject) = true then
    let ttl := if ttlMs = 0 then manager.config.defaultTtlMs else ttlMs
    let risk := min riskScore 100
    match found : manager.findSlotLocked subject with
    | some (index, _) =>
        (.ok (),
          { manager with
            slots := manager.slots.modify index (renew mode source (ts + ttl) risk reason)
              (renew_subject mode source (ts + ttl) risk reason)
            stats := { manager.stats with refreshed := manager.stats.refreshed + 1 } })
    | none =>
        let entry : QuarantineEntry := newEntry ts subject (Bool.and_eq_true_iff.mp ready).2 mode
          source (ts + ttl) risk reason
        match claim manager.config.evictLruWhenFull lastUse manager.slots.slots with
        | none => (.error .noMem, manager)
        | some (index, false) =>
            (.ok (), manager.fillSlotLocked index entry (find_slot_none found))
        | some (index, true) =>
            let cleared := manager.clearSlotLocked index
            let counted := { cleared with stats := { cleared.stats with
              evicted := cleared.stats.evicted + 1 } }
            (.ok (), counted.fillSlotLocked index entry
              fun slot other held => find_slot_none found slot other (cleared_held held))
  else
    (.error .invalidArg, manager.invalid)

def remove (manager : QuarantineManager) (subject : QuarantineSubject) :
    Bool × QuarantineManager :=
  if !manager.initialized || !subjectIsValid subject then
    (false, manager)
  else
    match manager.findSlotLocked subject with
    | none => (false, manager)
    | some (index, _) =>
        let cleared := manager.clearSlotLocked index
        (true, { cleared with stats := { cleared.stats with
          removed := cleared.stats.removed + 1 } })

def hit (ts : UInt32) (entry : QuarantineEntry) : QuarantineEntry :=
  { entry with hitCount := entry.hitCount + 1, lastHitMs := ts }

theorem hit_subject (ts : UInt32) (entry : QuarantineEntry) :
    (hit ts entry).subject = entry.subject := rfl

def fillCheckResult (entry : QuarantineEntry) (ts : UInt32) : QuarantineCheckResult where
  mode := entry.mode
  source := entry.source
  expiresAtMs := entry.expiresAtMs
  remainingMs :=
    if entry.expiresAtMs = 0 ∨ entry.expiresAtMs ≤ ts then 0 else entry.expiresAtMs - ts
  hitCount := entry.hitCount
  riskScore := entry.riskScore
  reason := strncpyCleared 48 entry.reason.toList

def check (ts : UInt32) (manager : QuarantineManager) (subject : QuarantineSubject) :
    Option QuarantineCheckResult × QuarantineManager :=
  if !manager.initialized || !subjectIsValid subject then
    (none, manager.invalid)
  else
    match manager.findSlotLocked subject with
    | none =>
        (none, { manager with stats := { manager.stats with misses := manager.stats.misses + 1 } })
    | some (index, entry) =>
        if entryIsExpired entry ts then
          let cleared := manager.clearSlotLocked index
          (none, { cleared with stats := { cleared.stats with
            expired := cleared.stats.expired + 1
            misses := cleared.stats.misses + 1 } })
        else
          (some (fillCheckResult (hit ts entry) ts),
            { manager with
              slots := manager.slots.modify index (hit ts) (hit_subject ts)
              stats := { manager.stats with hits := manager.stats.hits + 1 } })

/-- As for flows, each cleared slot takes one from a positive count. -/
def expireOld (ts : UInt32) (manager : QuarantineManager) : UInt32 × QuarantineManager :=
  if !manager.initialized then
    (0, manager)
  else
    let old := fun entry => entryIsExpired entry ts
    let expired := manager.slots.slots.toList.countP fun slot => slot.any old
    (UInt32.ofNat expired,
      { manager with
        slots := manager.slots.expire old
        stats := { manager.stats with
          activeEntries := UInt32.ofNat (manager.stats.activeEntries.toNat - expired)
          expired := manager.stats.expired + UInt64.ofNat expired } })

/-! ## What a check reports -/

/-- The subject has an unexpired entry of that mode. -/
def Quarantines (manager : QuarantineManager) (subject : QuarantineSubject)
    (mode : QuarantineMode) (ts : UInt32) : Prop :=
  ∃ index entry, manager.slots.slots.get index = some entry ∧ entry.subject = subject ∧
    entry.mode = mode ∧ entryIsExpired entry ts = false

theorem find_slot_some {manager : QuarantineManager} {subject : QuarantineSubject}
    {index : Fin quarantineMaxEntries} {entry : QuarantineEntry}
    (found : manager.findSlotLocked subject = some (index, entry)) :
    manager.slots.slots.get index = some entry ∧ entry.subject = subject := by
  rcases find_entry_some found with ⟨held, same⟩
  exact ⟨held, (subject_equals_iff entry.valid subject).mp same⟩

theorem find_slot_held {manager : QuarantineManager} {subject : QuarantineSubject}
    {index : Fin quarantineMaxEntries} {entry : QuarantineEntry}
    (held : manager.slots.slots.get index = some entry) (isSubject : entry.subject = subject) :
    manager.findSlotLocked subject = some (index, entry) :=
  manager.slots.find_held (fun other => subject_equals_iff other.valid subject) held isSubject

theorem check_reports {manager : QuarantineManager} (ready : manager.initialized = true)
    (ts : UInt32) (subject : QuarantineSubject) (mode : QuarantineMode) :
    (∃ found, (manager.check ts subject).1 = some found ∧ found.mode = mode) ↔
      manager.Quarantines subject mode ts := by
  unfold check
  by_cases valid : subjectIsValid subject = true
  · simp only [ready, valid, Bool.not_true, Bool.or_self, Bool.false_eq_true, if_false]
    cases searched : manager.findSlotLocked subject with
    | none =>
        simp only [reduceCtorEq, false_and, exists_false, false_iff]
        rintro ⟨index, entry, held, isSubject, _⟩
        exact find_slot_none searched index entry held isSubject
    | some found =>
        rcases find_slot_some searched with ⟨held, isSubject⟩
        have only : manager.Quarantines subject mode ts ↔
            found.2.mode = mode ∧ entryIsExpired found.2 ts = false := by
          constructor
          · rintro ⟨index, entry, heldEntry, isEntry, isMode, unexpired⟩
            have same := (find_slot_held heldEntry isEntry).symm.trans searched
            rw [Option.some.injEq] at same
            rw [← same]
            exact ⟨isMode, unexpired⟩
          · rintro ⟨isMode, unexpired⟩
            exact ⟨found.1, found.2, held, isSubject, isMode, unexpired⟩
        rw [only]
        cases expired : entryIsExpired found.2 ts with
        | true => simp [expired]
        | false => simp [expired, fillCheckResult, hit]
  · simp only [valid, Bool.not_false, Bool.or_true, if_true, reduceCtorEq, false_and, exists_false,
      false_iff]
    rintro ⟨index, entry, _, rfl, _⟩
    exact valid entry.valid

end QuarantineManager

end BlindNet
