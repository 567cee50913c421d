import BlindNet.FlowTable

/-!
# Rate limiter

Packets and bytes of a flow in one direction, counted in windows of fixed length.
A full table of buckets evicts the one seen least recently.
-/

namespace BlindNet

set_option autoImplicit false

open ByteLayout SlotTable

def rateLimiterMaxBuckets : Nat := 128
def rateLimiterMaxRules : Nat := 32

inductive RateLimitDecision where
  | allow
  | exceeded
  | error
  deriving DecidableEq, Repr

inductive RateLimitReason where
  | default
  | ruleMatch
  | noRule
  | invalidInput
  | tableFull
  deriving DecidableEq, Repr

structure RateLimitParams where
  windowMs : UInt32
  maxPackets : UInt32
  maxBytes : UInt32
  deriving DecidableEq

structure RateLimitRule where
  ruleId : UInt32
  enabled : Bool
  priority : UInt16
  pattern : FlowPattern
  params : RateLimitParams
  logEvent : Bool
  suggestQuarantine : Bool
  reason : ByteArr 48
  deriving DecidableEq

structure BucketKey where
  key : FlowKey
  direction : FlowDirection
  deriving DecidableEq

structure RateBucket where
  bucketKey : BucketKey
  windowStartMs : UInt32
  lastSeenMs : UInt32
  packetsInWindow : UInt32
  bytesInWindow : UInt32
  exceededCount : UInt32
  deriving DecidableEq

structure RateLimiterConfig where
  defaultParams : RateLimitParams
  maxIdleMs : UInt32
  evictLruWhenFull : Bool
  deriving DecidableEq

structure RateLimitResult where
  decision : RateLimitDecision
  reason : RateLimitReason
  matchedRuleId : UInt32
  matchedPriority : UInt16
  windowMs : UInt32
  packetsInWindow : UInt32
  bytesInWindow : UInt32
  maxPackets : UInt32
  maxBytes : UInt32
  logEvent : Bool
  suggestQuarantine : Bool
  reasonText : ByteArr 48
  deriving DecidableEq

structure RateLimiterStats where
  capacityBuckets : UInt32
  capacityRules : UInt32
  activeBuckets : UInt32
  activeRules : UInt32
  checks : UInt64
  allowed : UInt64
  exceeded : UInt64
  createdBuckets : UInt64
  evictedBuckets : UInt64
  expiredBuckets : UInt64
  invalidInput : UInt64
  deriving DecidableEq

structure RateLimiter where
  initialized : Bool
  config : RateLimiterConfig
  buckets : Keyed RateBucket RateBucket.bucketKey rateLimiterMaxBuckets
  rules : Slots RateLimitRule rateLimiterMaxRules
  stats : RateLimiterStats
  nextRuleId : UInt32

def bucketKeyEquals (a b : BucketKey) : Bool :=
  a.direction == b.direction && flowTableKeyEquals a.key b.key

theorem bucket_key_equals_iff (a b : BucketKey) : bucketKeyEquals a b = true ↔ a = b := by
  cases a
  cases b
  simp [bucketKeyEquals, flow_table_key_equals_iff, and_comm]

namespace RateLimiter

def noRules : Slots RateLimitRule rateLimiterMaxRules := List.Vector.replicate _ none

def clearedStats : RateLimiterStats := ⟨128, 32, 0, 0, 0, 0, 0, 0, 0, 0, 0⟩

def boot : RateLimiter :=
  ⟨false, ⟨⟨0, 0, 0⟩, 0, false⟩, .empty, noRules, ⟨0, 0, 0, 0, 0, 0, 0, 0, 0, 0, 0⟩, 1⟩

def loadDefaultConfig : RateLimiterConfig := ⟨⟨1000, 60, 0⟩, 60000, true⟩

def orDefaultWindow (params : RateLimitParams) (windowMs : UInt32) : RateLimitParams :=
  if params.windowMs = 0 then { params with windowMs := windowMs } else params

def init (config : Option RateLimiterConfig) (_ : RateLimiter) : RateLimiter :=
  ⟨true,
    match config with
    | none => loadDefaultConfig
    | some given =>
        { given with
          defaultParams := orDefaultWindow given.defaultParams 1000
          maxIdleMs := if given.maxIdleMs = 0 then 60000 else given.maxIdleMs },
    .empty, noRules, clearedStats, 1⟩

def reset (limiter : RateLimiter) : RateLimiter :=
  { limiter with buckets := .empty, rules := noRules, stats := clearedStats, nextRuleId := 1 }

def addRule (limiter : RateLimiter) (rule : RateLimitRule) : Result UInt32 × RateLimiter :=
  if !limiter.initialized then
    (.error .invalidArg, limiter)
  else
    match findEmpty limiter.rules with
    | none => (.error .noMem, limiter)
    | some index =>
        let ruleId := if rule.ruleId = 0 then limiter.nextRuleId else rule.ruleId
        (.ok ruleId,
          { limiter with
            rules := limiter.rules.set index (some { rule with
              ruleId := ruleId
              enabled := true
              params := orDefaultWindow rule.params limiter.config.defaultParams.windowMs })
            stats := { limiter.stats with activeRules := limiter.stats.activeRules + 1 }
            nextRuleId := if rule.ruleId = 0 then limiter.nextRuleId + 1 else limiter.nextRuleId })

def removeRule (limiter : RateLimiter) (ruleId : UInt32) : Bool × RateLimiter :=
  if !limiter.initialized || ruleId == 0 then
    (false, limiter)
  else
    match findEntry (fun rule => rule.ruleId == ruleId) limiter.rules with
    | none => (false, limiter)
    | some (index, _) =>
        (true,
          { limiter with
            rules := limiter.rules.set index none
            stats := { limiter.stats with
              activeRules :=
                if 0 < limiter.stats.activeRules then limiter.stats.activeRules - 1
                else limiter.stats.activeRules } })

def ruleMatches (rule : RateLimitRule) (key : FlowKey) (direction : FlowDirection) : Bool :=
  rule.enabled && rule.pattern.flowMatches key direction

def findBestRuleLocked (limiter : RateLimiter) (key : FlowKey) (direction : FlowDirection) :
    Option RateLimitRule :=
  bestMatch (fun rule => ruleMatches rule key direction) RateLimitRule.priority limiter.rules

def findBucketLocked (limiter : RateLimiter) (bucketKey : BucketKey) :
    Option (Fin rateLimiterMaxBuckets × RateBucket) :=
  findEntry (fun bucket => bucketKeyEquals bucket.bucketKey bucketKey) limiter.buckets.slots

theorem find_bucket_none {limiter : RateLimiter} {bucketKey : BucketKey}
    (missing : limiter.findBucketLocked bucketKey = none) :
    ∀ slot other, limiter.buckets.slots.get slot = some other → other.bucketKey ≠ bucketKey := by
  intro slot other held same
  have unmatched := find_entry_none missing held
  rw [(bucket_key_equals_iff other.bucketKey bucketKey).mpr same] at unmatched
  cases unmatched

def clearBucketLocked (limiter : RateLimiter) (index : Fin rateLimiterMaxBuckets) : RateLimiter :=
  { limiter with
    buckets := limiter.buckets.clear index
    stats := { limiter.stats with
      activeBuckets :=
        if (limiter.buckets.slots.get index).isSome && 0 < limiter.stats.activeBuckets then
          limiter.stats.activeBuckets - 1
        else
          limiter.stats.activeBuckets } }

def fillBucketLocked (limiter : RateLimiter) (index : Fin rateLimiterMaxBuckets)
    (bucketKey : BucketKey) (ts : UInt32)
    (fresh : ∀ slot other, limiter.buckets.slots.get slot = some other →
      other.bucketKey ≠ bucketKey) : RateLimiter :=
  { limiter with
    buckets := limiter.buckets.place index ⟨bucketKey, ts, ts, 0, 0, 0⟩ fresh
    stats := { limiter.stats with
      activeBuckets := limiter.stats.activeBuckets + 1
      createdBuckets := limiter.stats.createdBuckets + 1 } }

/-- The bucket of a key: the one there is, or a new one. -/
def obtainBucketLocked (limiter : RateLimiter) (bucketKey : BucketKey) (ts : UInt32) :
    Option (Fin rateLimiterMaxBuckets × RateBucket × RateLimiter) :=
  match found : limiter.findBucketLocked bucketKey with
  | some (index, bucket) => some (index, bucket, limiter)
  | none =>
      match claim limiter.config.evictLruWhenFull RateBucket.lastSeenMs limiter.buckets.slots with
      | none => none
      | some (index, false) =>
          some (index, ⟨bucketKey, ts, ts, 0, 0, 0⟩,
            limiter.fillBucketLocked index bucketKey ts (find_bucket_none found))
      | some (index, true) =>
          let cleared := limiter.clearBucketLocked index
          let counted := { cleared with stats := { cleared.stats with
            evictedBuckets := cleared.stats.evictedBuckets + 1 } }
          some (index, ⟨bucketKey, ts, ts, 0, 0, 0⟩,
            counted.fillBucketLocked index bucketKey ts
              fun slot other held => find_bucket_none found slot other (cleared_held held))

def paramsExceeded (params : RateLimitParams) (bucket : RateBucket) : Bool :=
  (0 < params.maxPackets && params.maxPackets < bucket.packetsInWindow) ||
    (0 < params.maxBytes && params.maxBytes < bucket.bytesInWindow)

/-- One packet in the bucket, after the window was renewed when it is over. -/
def countPacket (params : RateLimitParams) (ts packetBytes : UInt32) (bucket : RateBucket) :
    RateBucket :=
  let window :=
    if params.windowMs ≤ ts - bucket.windowStartMs then
      { bucket with windowStartMs := ts, packetsInWindow := 0, bytesInWindow := 0 }
    else
      bucket
  { window with
    packetsInWindow := window.packetsInWindow + 1
    bytesInWindow := window.bytesInWindow + packetBytes
    lastSeenMs := ts }

theorem count_packet_key (params : RateLimitParams) (ts packetBytes : UInt32)
    (bucket : RateBucket) :
    (countPacket params ts packetBytes bucket).bucketKey = bucket.bucketKey := by
  unfold countPacket
  split
  · rfl
  · rfl

def countExceeded (params : RateLimitParams) (ts packetBytes : UInt32) (bucket : RateBucket) :
    RateBucket :=
  let counted := countPacket params ts packetBytes bucket
  { counted with exceededCount := counted.exceededCount + 1 }

def fillResult (decision : RateLimitDecision) (reason : RateLimitReason)
    (rule : Option RateLimitRule) (params : RateLimitParams) (bucket : Option RateBucket) :
    RateLimitResult where
  decision := decision
  reason := reason
  matchedRuleId := (rule.map RateLimitRule.ruleId).getD 0
  matchedPriority := (rule.map RateLimitRule.priority).getD 0
  windowMs := params.windowMs
  packetsInWindow := (bucket.map RateBucket.packetsInWindow).getD 0
  bytesInWindow := (bucket.map RateBucket.bytesInWindow).getD 0
  maxPackets := params.maxPackets
  maxBytes := params.maxBytes
  logEvent := (rule.map RateLimitRule.logEvent).getD false
  suggestQuarantine := (rule.map RateLimitRule.suggestQuarantine).getD false
  reasonText := strncpyCleared 48
    ((rule.map fun matched => matched.reason.toList).getD (CString.utf8 "default_rate_limit"))

def invalidResult : RateLimitResult :=
  ⟨.error, .invalidInput, 0, 0, 0, 0, 0, 0, 0, false, false, List.Vector.replicate 48 0⟩

def check (ts : UInt32) (limiter : RateLimiter) (key : FlowKey) (direction : FlowDirection)
    (packetBytes : UInt32) : Result Unit × RateLimitResult × RateLimiter :=
  if !limiter.initialized then
    (.error .invalidArg, invalidResult,
      { limiter with stats := { limiter.stats with
        invalidInput := limiter.stats.invalidInput + 1 } })
  else
    let counted := { limiter with stats := { limiter.stats with
      checks := limiter.stats.checks + 1 } }
    let matched := limiter.findBestRuleLocked key direction
    let params := orDefaultWindow
      ((matched.map RateLimitRule.params).getD limiter.config.defaultParams) 1000
    match counted.obtainBucketLocked ⟨key, direction⟩ ts with
    | none =>
        (.error .noMem, fillResult .error .tableFull matched params none,
          { counted with stats := { counted.stats with
            invalidInput := counted.stats.invalidInput + 1 } })
    | some (index, bucket, ready) =>
        let updated := countPacket params ts packetBytes bucket
        if paramsExceeded params updated then
          (.ok (),
            fillResult .exceeded (if matched.isSome then .ruleMatch else .noRule) matched params
              (some updated),
            { ready with
              buckets := ready.buckets.modify index (countExceeded params ts packetBytes)
                (count_packet_key params ts packetBytes)
              stats := { ready.stats with exceeded := ready.stats.exceeded + 1 } })
        else
          (.ok (),
            fillResult .allow (if matched.isSome then .ruleMatch else .default) matched params
              (some updated),
            { ready with
              buckets := ready.buckets.modify index (countPacket params ts packetBytes)
                (count_packet_key params ts packetBytes)
              stats := { ready.stats with allowed := ready.stats.allowed + 1 } })

def expireOld (ts : UInt32) (limiter : RateLimiter) : UInt32 × RateLimiter :=
  if !limiter.initialized then
    (0, limiter)
  else
    let old := fun bucket : RateBucket => decide (limiter.config.maxIdleMs < ts - bucket.lastSeenMs)
    let expired := limiter.buckets.slots.toList.countP fun slot => slot.any old
    (UInt32.ofNat expired,
      { limiter with
        buckets := limiter.buckets.expire old
        stats := { limiter.stats with
          activeBuckets := UInt32.ofNat (limiter.stats.activeBuckets.toNat - expired)
          expiredBuckets := limiter.stats.expiredBuckets + UInt64.ofNat expired } })

end RateLimiter

end BlindNet
