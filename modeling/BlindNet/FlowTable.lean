import BlindNet.Platform
import BlindNet.Lib.SlotTable

/-!
# Flow table

The table of flows that the firewall touches for every packet. A critical section
is one step; what the clock answers inside it is an argument.
-/

namespace BlindNet

set_option autoImplicit false

open SlotTable

/-- `now_ms` of the security engines: the uptime in milliseconds, cut to 32 bits. -/
def nowMs32 (uptime : Nat) : UInt32 := UInt32.ofNat uptime

theorem now_ms32_to_nat (uptime : Nat) : (nowMs32 uptime).toNat = uptime % 2 ^ 32 :=
  UInt32.toNat_ofNat'

def flowTableMaxEntries : Nat := 128

inductive FlowDirection where
  | unknown
  | zoneToUplink
  | uplinkToZone
  | zoneToZone
  deriving DecidableEq, Repr

inductive FlowState where
  | empty
  | active
  | quarantined
  | blocked
  | expired
  deriving DecidableEq, Repr

inductive FlowTouchResult where
  | created
  | updated
  | evictedOldEntry
  | failedTableDisabled
  deriving DecidableEq, Repr

structure FlowKey where
  srcIp : UInt32
  dstIp : UInt32
  srcPort : UInt16
  dstPort : UInt16
  proto : UInt8
  deriving DecidableEq, Repr

structure FlowEntry where
  key : FlowKey
  direction : FlowDirection
  state : FlowState
  packets : UInt64
  bytes : UInt64
  firstSeenMs : UInt32
  lastSeenMs : UInt32
  lastPolicyAction : UInt32
  riskScore : UInt8
  deriving DecidableEq

structure FlowTableConfig where
  maxIdleMs : UInt32
  hardTtlMs : UInt32
  evictLruWhenFull : Bool
  deriving DecidableEq

structure FlowTableStats where
  capacity : UInt32
  activeEntries : UInt32
  totalPackets : UInt64
  totalBytes : UInt64
  createdFlows : UInt64
  updatedFlows : UInt64
  evictedFlows : UInt64
  expiredFlows : UInt64
  droppedUpdates : UInt64
  deriving DecidableEq

structure FlowTable where
  initialized : Bool
  config : FlowTableConfig
  slots : Keyed FlowEntry FlowEntry.key flowTableMaxEntries
  stats : FlowTableStats

def flowTableKeyEquals (a b : FlowKey) : Bool :=
  a.srcIp == b.srcIp && a.dstIp == b.dstIp && a.srcPort == b.srcPort && a.dstPort == b.dstPort &&
    a.proto == b.proto

theorem flow_table_key_equals_iff (a b : FlowKey) : flowTableKeyEquals a b = true ↔ a = b := by
  cases a
  cases b
  simp [flowTableKeyEquals, and_assoc]

namespace FlowTable

def clearedStats : FlowTableStats := ⟨128, 0, 0, 0, 0, 0, 0, 0, 0⟩

def boot : FlowTable := ⟨false, ⟨0, 0, false⟩, .empty, ⟨0, 0, 0, 0, 0, 0, 0, 0, 0⟩⟩

def loadDefaultConfig : FlowTableConfig := ⟨60000, 10 * 60000, true⟩

def init (config : Option FlowTableConfig) (_ : FlowTable) : FlowTable :=
  ⟨true,
    match config with
    | none => loadDefaultConfig
    | some given =>
        { given with
          maxIdleMs := if given.maxIdleMs = 0 then 60000 else given.maxIdleMs
          hardTtlMs := if given.hardTtlMs = 0 then 10 * 60000 else given.hardTtlMs },
    .empty, clearedStats⟩

def reset (table : FlowTable) : FlowTable :=
  { table with slots := .empty, stats := clearedStats }

def findExistingSlotLocked (table : FlowTable) (key : FlowKey) :
    Option (Fin flowTableMaxEntries × FlowEntry) :=
  findEntry (fun entry => flowTableKeyEquals entry.key key) table.slots.slots

def clearSlotLocked (table : FlowTable) (index : Fin flowTableMaxEntries) : FlowTable :=
  { table with
    slots := table.slots.clear index
    stats := { table.stats with
      activeEntries :=
        if (table.slots.slots.get index).isSome && 0 < table.stats.activeEntries then
          table.stats.activeEntries - 1
        else
          table.stats.activeEntries } }

def createEntryLocked (table : FlowTable) (index : Fin flowTableMaxEntries) (key : FlowKey)
    (direction : FlowDirection) (bytes ts : UInt32)
    (fresh : ∀ slot other, table.slots.slots.get slot = some other → other.key ≠ key) : FlowTable :=
  { table with
    slots := table.slots.place index
      ⟨key, direction, .active, 1, bytes.toUInt64, ts, ts, 0, 0⟩ fresh
    stats := { table.stats with
      activeEntries := table.stats.activeEntries + 1
      totalPackets := table.stats.totalPackets + 1
      totalBytes := table.stats.totalBytes + bytes.toUInt64
      createdFlows := table.stats.createdFlows + 1 } }

def updateEntryLocked (table : FlowTable) (index : Fin flowTableMaxEntries)
    (direction : FlowDirection) (bytes ts : UInt32) : FlowTable :=
  { table with
    slots := table.slots.modify index
      (fun entry => { entry with
        direction := direction
        packets := entry.packets + 1
        bytes := entry.bytes + bytes.toUInt64
        lastSeenMs := ts
        state := if entry.state = .empty ∨ entry.state = .expired then .active else entry.state })
      fun _ => rfl
    stats := { table.stats with
      totalPackets := table.stats.totalPackets + 1
      totalBytes := table.stats.totalBytes + bytes.toUInt64
      updatedFlows := table.stats.updatedFlows + 1 } }

theorem find_existing_none {table : FlowTable} {key : FlowKey}
    (missing : table.findExistingSlotLocked key = none) :
    ∀ slot other, table.slots.slots.get slot = some other → other.key ≠ key := by
  intro slot other held same
  have unmatched := find_entry_none missing held
  rw [(flow_table_key_equals_iff other.key key).mpr same] at unmatched
  cases unmatched

/-- The copy of the entry that the caller may ask for is left out. -/
def touch (ts : UInt32) (table : FlowTable) (key : FlowKey) (direction : FlowDirection)
    (bytes : UInt32) : FlowTouchResult × FlowTable :=
  if !table.initialized then
    (.failedTableDisabled, table)
  else
    match found : table.findExistingSlotLocked key with
    | some (index, _) => (.updated, table.updateEntryLocked index direction bytes ts)
    | none =>
        match claim table.config.evictLruWhenFull FlowEntry.lastSeenMs table.slots.slots with
        | none =>
            (.failedTableDisabled,
              { table with stats := { table.stats with
                droppedUpdates := table.stats.droppedUpdates + 1 } })
        | some (index, false) =>
            (.created,
              table.createEntryLocked index key direction bytes ts (find_existing_none found))
        | some (index, true) =>
            let cleared := table.clearSlotLocked index
            let counted := { cleared with stats := { cleared.stats with
              evictedFlows := cleared.stats.evictedFlows + 1 } }
            (.evictedOldEntry,
              counted.createEntryLocked index key direction bytes ts
                fun slot other held => find_existing_none found slot other (cleared_held held))

def setEntry (table : FlowTable) (key : FlowKey) (change : FlowEntry → FlowEntry)
    (keeps : ∀ entry, (change entry).key = entry.key) : Bool × FlowTable :=
  if !table.initialized then
    (false, table)
  else
    match table.findExistingSlotLocked key with
    | none => (false, table)
    | some (index, _) => (true, { table with slots := table.slots.modify index change keeps })

def setState (table : FlowTable) (key : FlowKey) (state : FlowState) : Bool × FlowTable :=
  table.setEntry key (fun entry => { entry with state := state }) fun _ => rfl

def setRisk (table : FlowTable) (key : FlowKey) (riskScore : UInt8) : Bool × FlowTable :=
  table.setEntry key (fun entry => { entry with riskScore := min riskScore 100 }) fun _ => rfl

def setPolicyAction (table : FlowTable) (key : FlowKey) (action : UInt32) : Bool × FlowTable :=
  table.setEntry key (fun entry => { entry with lastPolicyAction := action }) fun _ => rfl

def entryExpired (config : FlowTableConfig) (ts : UInt32) (entry : FlowEntry) : Bool :=
  config.maxIdleMs < ts - entry.lastSeenMs || config.hardTtlMs < ts - entry.firstSeenMs

/-- The loop clears the expired slots one by one; each takes one from a positive count
of active entries. -/
def expireOld (ts : UInt32) (table : FlowTable) : UInt32 × FlowTable :=
  if !table.initialized then
    (0, table)
  else
    let old := entryExpired table.config ts
    let expired := table.slots.slots.toList.countP fun slot => slot.any old
    (UInt32.ofNat expired,
      { table with
        slots := table.slots.expire old
        stats := { table.stats with
          activeEntries := UInt32.ofNat (table.stats.activeEntries.toNat - expired)
          expiredFlows := table.stats.expiredFlows + UInt64.ofNat expired } })

end FlowTable

/-- The part of a rule that a flow is compared with. Policies and rate limits have the
same fields and the same comparisons. -/
structure FlowPattern where
  direction : FlowDirection
  srcIp : UInt32
  srcMask : UInt32
  dstIp : UInt32
  dstMask : UInt32
  srcPort : UInt16
  dstPort : UInt16
  proto : UInt8
  deriving DecidableEq

def ipMatches (ruleIp ruleMask ip : UInt32) : Bool :=
  ruleMask == 0 || ip &&& ruleMask == ruleIp &&& ruleMask

def portMatches (rulePort port : UInt16) : Bool :=
  rulePort == 0 || rulePort == port

def protoMatches (ruleProto proto : UInt8) : Bool :=
  ruleProto == 0 || ruleProto == proto

def directionMatches (ruleDirection direction : FlowDirection) : Bool :=
  ruleDirection == .unknown || ruleDirection == direction

def FlowPattern.flowMatches (pattern : FlowPattern) (key : FlowKey) (direction : FlowDirection) :
    Bool :=
  directionMatches pattern.direction direction &&
    ipMatches pattern.srcIp pattern.srcMask key.srcIp &&
    ipMatches pattern.dstIp pattern.dstMask key.dstIp && portMatches pattern.srcPort key.srcPort &&
    portMatches pattern.dstPort key.dstPort && protoMatches pattern.proto key.proto

end BlindNet
