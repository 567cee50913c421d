import BlindNet.SecurityServices
import BlindNet.Lib.SlotAccount
import BlindNet.Lib.SlotLookup

/-!
# The flow table as a map

Each flow has its entry, wherever it is kept. A touch renews the entry of its flow or makes
one, and may cost another flow its entry. The setters change nothing that has to do with
time, and an expiry drops entries.
-/

namespace BlindNet

set_option autoImplicit false

open SlotTable

namespace FlowTable

def lookup (table : FlowTable) (key : FlowKey) : Option FlowEntry := table.slots.lookup key

variable {table : FlowTable} {key : FlowKey}

theorem find_existing_lookup {index : Fin flowTableMaxEntries} {entry : FlowEntry}
    (found : table.findExistingSlotLocked key = some (index, entry)) :
    table.slots.slots.get index = some entry ∧ entry.key = key ∧
      table.lookup key = some entry := by
  obtain ⟨held, same⟩ := find_entry_some found
  have isKey := (flow_table_key_equals_iff entry.key key).mp same
  exact ⟨held, isKey, Keyed.lookup_held held isKey⟩

theorem find_existing_lookup_none (missing : table.findExistingSlotLocked key = none) :
    table.lookup key = none :=
  Keyed.lookup_eq_none_iff.mpr (find_existing_none missing)

def renew (direction : FlowDirection) (bytes ts : UInt32) (entry : FlowEntry) : FlowEntry :=
  { entry with
    direction := direction
    packets := entry.packets + 1
    bytes := entry.bytes + bytes.toUInt64
    lastSeenMs := ts
    state := if entry.state = .empty ∨ entry.state = .expired then .active else entry.state }

def newEntry (key : FlowKey) (direction : FlowDirection) (bytes ts : UInt32) : FlowEntry :=
  ⟨key, direction, .active, 1, bytes.toUInt64, ts, ts, 0, 0⟩

/-- What a touch does, by the state of the table: the flow is known, it gets a free slot, it
takes the slot of another flow, or there is no slot for it. -/
inductive TouchOutcome (table : FlowTable) (ts : UInt32) (key : FlowKey) :
    FlowTouchResult × FlowTable → Prop
  | updated (entry renewed : FlowEntry) (next : FlowTable)
      (known : table.lookup key = some entry) (seen : renewed.lastSeenMs = ts)
      (changed : ∀ other, next.lookup other =
        if key = other then some renewed else table.lookup other) :
      TouchOutcome table ts key (.updated, next)
  | created (index : Fin flowTableMaxEntries) (entry : FlowEntry) (next : FlowTable)
      (unknown : table.lookup key = none)
      (free : claim table.config.evictLruWhenFull FlowEntry.lastSeenMs table.slots.slots =
        some (index, false)) (seen : entry.lastSeenMs = ts)
      (changed : ∀ other, next.lookup other =
        if key = other then some entry else table.lookup other) :
      TouchOutcome table ts key (.created, next)
  | evicted (index : Fin flowTableMaxEntries) (entry old : FlowEntry) (next : FlowTable)
      (unknown : table.lookup key = none)
      (crowded : claim table.config.evictLruWhenFull FlowEntry.lastSeenMs table.slots.slots =
        some (index, true)) (held : table.slots.slots.get index = some old)
      (seen : entry.lastSeenMs = ts)
      (changed : ∀ other, next.lookup other =
        if key = other then some entry
        else if old.key = other then none else table.lookup other) :
      TouchOutcome table ts key (.evictedOldEntry, next)
  | dropped (next : FlowTable) (unknown : table.lookup key = none)
      (full : claim table.config.evictLruWhenFull FlowEntry.lastSeenMs table.slots.slots = none)
      (unchanged : ∀ other, next.lookup other = table.lookup other) :
      TouchOutcome table ts key (.failedTableDisabled, next)

theorem touch_cases (ready : table.initialized = true) (ts : UInt32) (key : FlowKey)
    (direction : FlowDirection) (bytes : UInt32) :
    TouchOutcome table ts key (table.touch ts key direction bytes) ∧
      (table.touch ts key direction bytes).2.initialized = true ∧
      (table.touch ts key direction bytes).2.config = table.config := by
  generalize outcome : table.touch ts key direction bytes = touched
  unfold touch at outcome
  rw [if_neg (by simp [ready])] at outcome
  split at outcome
  next index entry found =>
    obtain ⟨held, isKey, known⟩ := find_existing_lookup found
    subst outcome
    refine ⟨.updated entry (renew direction bytes ts entry) _ known rfl ?_, ready, rfl⟩
    intro other
    refine (Keyed.lookup_modify held (renew direction bytes ts) (fun _ => rfl) other).trans ?_
    rw [isKey]
    rfl
  next missing =>
    have unknown := find_existing_lookup_none missing
    split at outcome
    next full =>
      subst outcome
      exact ⟨.dropped _ unknown full fun _ => rfl, ready, rfl⟩
    next index free =>
      subst outcome
      refine ⟨.created index (newEntry key direction bytes ts) _ unknown free rfl ?_, ready, rfl⟩
      intro other
      exact @Keyed.lookup_place _ _ _ _ _ _ index (newEntry key direction bytes ts)
        (claim_free free) (find_existing_none missing) other
    next index crowded =>
      obtain ⟨old, held⟩ := claim_evicts crowded
      subst outcome
      refine ⟨.evicted index (newEntry key direction bytes ts) old _ unknown crowded held rfl ?_,
        ready, rfl⟩
      intro other
      exact @Keyed.lookup_replace _ _ _ _ _ _ index (newEntry key direction bytes ts) old held
        (fun slot other held => find_existing_none missing slot other (cleared_held held)) other

theorem set_entry_seen (table : FlowTable) (key : FlowKey) (change : FlowEntry → FlowEntry)
    (keeps : ∀ entry, (change entry).key = entry.key)
    (keepsSeen : ∀ entry, (change entry).lastSeenMs = entry.lastSeenMs) :
    let next := (table.setEntry key change keeps).2
    next.initialized = table.initialized ∧ next.config = table.config ∧
      ∀ other, (next.lookup other).map FlowEntry.lastSeenMs =
        (table.lookup other).map FlowEntry.lastSeenMs := by
  unfold setEntry
  split
  next => exact ⟨rfl, rfl, fun _ => rfl⟩
  next =>
    split
    next => exact ⟨rfl, rfl, fun _ => rfl⟩
    next index entry found =>
      obtain ⟨held, isKey, known⟩ := find_existing_lookup found
      refine ⟨rfl, rfl, ?_⟩
      intro other
      refine (congrArg _ (Keyed.lookup_modify held change keeps other)).trans ?_
      rw [isKey]
      split_ifs with here
      · rw [← here, known, Option.map_some, Option.map_some, keepsSeen]
      · rfl

theorem expire_old_spec (ready : table.initialized = true) (ts : UInt32) :
    let next := (table.expireOld ts).2
    next.initialized = true ∧ next.config = table.config ∧
      ∀ other, next.lookup other =
        (table.lookup other).filter fun entry => !entryExpired table.config ts entry := by
  unfold expireOld
  rw [if_neg (by simp [ready])]
  exact ⟨ready, rfl, fun other => Keyed.lookup_expire table.slots _ other⟩

end FlowTable

end BlindNet
