import BlindNet.SecurityServices
import BlindNet.Lib.SlotAccount

/-!
# Accounts of the security tables

The flow table, the buckets of the rate limiter and the quarantine manager count what
they hold and what came and went. The counts agree with the slots after any calls, at
any times.
-/

namespace BlindNet

set_option autoImplicit false

open ByteLayout SlotTable

/-! ## Flows -/

namespace FlowTable

structure Accounted (table : FlowTable) : Prop where
  balanced : Balanced table.slots.slots table.stats.activeEntries table.stats.createdFlows
    (table.stats.evictedFlows + table.stats.expiredFlows)
  distinct : ∀ first second entry other, table.slots.slots.get first = some entry →
    table.slots.slots.get second = some other → entry.key = other.key → first = second
  packets : table.stats.totalPackets = table.stats.createdFlows + table.stats.updatedFlows

variable {table : FlowTable}

theorem small : flowTableMaxEntries < 2 ^ 32 := by decide

theorem update_entry_accounted (accounted : table.Accounted) (index : Fin flowTableMaxEntries)
    (direction : FlowDirection) (bytes ts : UInt32) :
    (table.updateEntryLocked index direction bytes ts).Accounted where
  balanced := by
    apply accounted.balanced.same
    apply in_use_modified
    intro entry
    rfl
  distinct := Keyed.distinct _
  packets := by
    change table.stats.totalPackets + 1 =
      table.stats.createdFlows + (table.stats.updatedFlows + 1)
    rw [accounted.packets]
    ac_rfl

theorem created_packets (accounted : table.Accounted) :
    table.stats.totalPackets + 1 = table.stats.createdFlows + 1 + table.stats.updatedFlows := by
  rw [accounted.packets]
  ac_rfl

theorem touch_accounted (accounted : table.Accounted) (ts : UInt32) (key : FlowKey)
    (direction : FlowDirection) (bytes : UInt32) :
    (table.touch ts key direction bytes).2.Accounted := by
  unfold touch
  split
  · exact accounted
  · split
    next index _ _ => exact update_entry_accounted accounted index direction bytes ts
    next =>
      split
      next => exact ⟨accounted.balanced, Keyed.distinct _, accounted.packets⟩
      next index claimed =>
        exact ⟨accounted.balanced.filled small (claim_free claimed) _, Keyed.distinct _,
          created_packets accounted⟩
      next index claimed =>
        obtain ⟨entry, held⟩ := claim_evicts claimed
        apply Accounted.mk _ (Keyed.distinct _) (created_packets accounted)
        apply (accounted.balanced.evicted small held _).went_as
        change table.stats.evictedFlows + 1 + table.stats.expiredFlows = _
        ac_rfl

theorem set_entry_accounted (accounted : table.Accounted) (key : FlowKey)
    (change : FlowEntry → FlowEntry) (keeps : ∀ entry, (change entry).key = entry.key) :
    (table.setEntry key change keeps).2.Accounted := by
  unfold setEntry
  split
  · exact accounted
  · split
    next => exact accounted
    next index _ _ =>
      exact ⟨accounted.balanced.same (in_use_modified _ index change keeps), Keyed.distinct _,
        accounted.packets⟩

theorem expire_old_accounted (accounted : table.Accounted) (ts : UInt32) :
    (table.expireOld ts).2.Accounted := by
  unfold expireOld
  split
  · exact accounted
  · refine ⟨?_, Keyed.distinct _, accounted.packets⟩
    apply (accounted.balanced.released (entryExpired table.config ts)).went_as
    exact (UInt64.add_assoc _ _ _).symm

theorem call_accounted (accounted : table.Accounted) (call : FlowCall) :
    (table.call call).Accounted := by
  cases call with
  | init config => exact ⟨Balanced.empty, Keyed.distinct _, rfl⟩
  | reset => exact ⟨Balanced.empty, Keyed.distinct _, rfl⟩
  | touch ts key direction bytes => exact touch_accounted accounted ts key direction bytes
  | setState key state => exact set_entry_accounted accounted key _ _
  | setRisk key riskScore => exact set_entry_accounted accounted key _ _
  | setPolicyAction key action => exact set_entry_accounted accounted key _ _
  | expireOld ts => exact expire_old_accounted accounted ts

end FlowTable

/-! ## Buckets -/

namespace RateLimiter

structure Accounted (limiter : RateLimiter) : Prop where
  balanced : Balanced limiter.buckets.slots limiter.stats.activeBuckets
    limiter.stats.createdBuckets (limiter.stats.evictedBuckets + limiter.stats.expiredBuckets)
  distinct : ∀ first second bucket other, limiter.buckets.slots.get first = some bucket →
    limiter.buckets.slots.get second = some other → bucket.bucketKey = other.bucketKey →
    first = second

variable {limiter : RateLimiter}

theorem small : rateLimiterMaxBuckets < 2 ^ 32 := by decide

theorem obtain_bucket_accounted (accounted : limiter.Accounted) {bucketKey : BucketKey}
    {ts : UInt32} {index : Fin rateLimiterMaxBuckets} {bucket : RateBucket} {ready : RateLimiter}
    (obtained : limiter.obtainBucketLocked bucketKey ts = some (index, bucket, ready)) :
    ready.Accounted := by
  unfold obtainBucketLocked at obtained
  split at obtained
  next =>
    cases obtained
    exact accounted
  next =>
    split at obtained
    next => cases obtained
    next slot claimed =>
      cases obtained
      exact ⟨accounted.balanced.filled small (claim_free claimed) _, Keyed.distinct _⟩
    next slot claimed =>
      cases obtained
      obtain ⟨old, held⟩ := claim_evicts claimed
      refine ⟨?_, Keyed.distinct _⟩
      apply (accounted.balanced.evicted small held _).went_as
      change limiter.stats.evictedBuckets + 1 + limiter.stats.expiredBuckets = _
      ac_rfl

theorem check_accounted (accounted : limiter.Accounted) (ts : UInt32) (key : FlowKey)
    (direction : FlowDirection) (packetBytes : UInt32) :
    (limiter.check ts key direction packetBytes).2.2.Accounted := by
  simp only [check]
  split
  · exact ⟨accounted.balanced, Keyed.distinct _⟩
  · split
    next => exact ⟨accounted.balanced, Keyed.distinct _⟩
    next index bucket ready obtained =>
      have counted : Accounted { limiter with stats := { limiter.stats with
          checks := limiter.stats.checks + 1 } } := ⟨accounted.balanced, Keyed.distinct _⟩
      have balanced := (obtain_bucket_accounted counted obtained).balanced
      split
      · refine ⟨balanced.same ?_, Keyed.distinct _⟩
        apply in_use_modified
        exact count_packet_key _ ts packetBytes
      · refine ⟨balanced.same ?_, Keyed.distinct _⟩
        apply in_use_modified
        exact count_packet_key _ ts packetBytes

theorem add_rule_accounted (accounted : limiter.Accounted) (rule : RateLimitRule) :
    (limiter.addRule rule).2.Accounted := by
  unfold addRule
  split
  · exact accounted
  · split
    next => exact accounted
    next => exact ⟨accounted.balanced, Keyed.distinct _⟩

theorem remove_rule_accounted (accounted : limiter.Accounted) (ruleId : UInt32) :
    (limiter.removeRule ruleId).2.Accounted := by
  unfold removeRule
  split
  · exact accounted
  · split
    next => exact accounted
    next => exact ⟨accounted.balanced, Keyed.distinct _⟩

theorem expire_old_accounted (accounted : limiter.Accounted) (ts : UInt32) :
    (limiter.expireOld ts).2.Accounted := by
  unfold expireOld
  split
  · exact accounted
  · refine ⟨?_, Keyed.distinct _⟩
    apply (accounted.balanced.released fun bucket =>
      decide (limiter.config.maxIdleMs < ts - bucket.lastSeenMs)).went_as
    exact (UInt64.add_assoc _ _ _).symm

theorem call_accounted (accounted : limiter.Accounted) (call : RateCall) :
    (limiter.call call).Accounted := by
  cases call with
  | init config => exact ⟨Balanced.empty, Keyed.distinct _⟩
  | reset => exact ⟨Balanced.empty, Keyed.distinct _⟩
  | addRule rule => exact add_rule_accounted accounted rule
  | removeRule ruleId => exact remove_rule_accounted accounted ruleId
  | check ts key direction packetBytes =>
      exact check_accounted accounted ts key direction packetBytes
  | expireOld ts => exact expire_old_accounted accounted ts

end RateLimiter

/-! ## Quarantine -/

namespace QuarantineManager

structure Accounted (manager : QuarantineManager) : Prop where
  balanced : Balanced manager.slots.slots manager.stats.activeEntries manager.stats.added
    (manager.stats.removed + manager.stats.expired + manager.stats.evicted)
  distinct : ∀ first second entry other, manager.slots.slots.get first = some entry →
    manager.slots.slots.get second = some other → entry.subject = other.subject → first = second

variable {manager : QuarantineManager}

theorem small : quarantineMaxEntries < 2 ^ 32 := by decide

theorem add_accounted (accounted : manager.Accounted) (ts : UInt32) (subject : QuarantineSubject)
    (mode : QuarantineMode) (source : QuarantineSource) (ttlMs : UInt32) (riskScore : UInt8)
    (reason : Bytes) :
    (manager.add ts subject mode source ttlMs riskScore reason).2.Accounted := by
  simp only [add]
  split
  next ready =>
    split
    next index _ _ =>
      exact ⟨accounted.balanced.same (in_use_modified _ index _ (renew_subject _ _ _ _ _)),
        Keyed.distinct _⟩
    next =>
      split
      next => exact accounted
      next index claimed =>
        exact ⟨accounted.balanced.filled small (claim_free claimed) _, Keyed.distinct _⟩
      next index claimed =>
        obtain ⟨old, held⟩ := claim_evicts claimed
        refine ⟨?_, Keyed.distinct _⟩
        apply (accounted.balanced.evicted small held _).went_as
        exact (UInt64.add_assoc _ _ _).symm
  next => exact ⟨accounted.balanced, Keyed.distinct _⟩

theorem remove_accounted (accounted : manager.Accounted) (subject : QuarantineSubject) :
    (manager.remove subject).2.Accounted := by
  unfold remove
  split
  · exact accounted
  · split
    next => exact accounted
    next index entry found =>
      refine ⟨?_, Keyed.distinct _⟩
      apply (accounted.balanced.cleared (find_slot_some found).1).went_as
      change manager.stats.removed + 1 + manager.stats.expired + manager.stats.evicted = _
      ac_rfl

theorem check_accounted (accounted : manager.Accounted) (ts : UInt32)
    (subject : QuarantineSubject) : (manager.check ts subject).2.Accounted := by
  unfold check
  split
  · exact ⟨accounted.balanced, Keyed.distinct _⟩
  · split
    next => exact ⟨accounted.balanced, Keyed.distinct _⟩
    next index entry found =>
      split
      · refine ⟨?_, Keyed.distinct _⟩
        apply (accounted.balanced.cleared (find_slot_some found).1).went_as
        change manager.stats.removed + (manager.stats.expired + 1) + manager.stats.evicted = _
        ac_rfl
      · exact ⟨accounted.balanced.same (in_use_modified _ index _ (hit_subject ts)),
          Keyed.distinct _⟩

theorem expire_old_accounted (accounted : manager.Accounted) (ts : UInt32) :
    (manager.expireOld ts).2.Accounted := by
  unfold expireOld
  split
  · exact accounted
  · refine ⟨?_, Keyed.distinct _⟩
    apply (accounted.balanced.released fun entry => entryIsExpired entry ts).went_as
    simp only
    ac_rfl

theorem call_accounted (accounted : manager.Accounted) (call : QuarantineCall) :
    (manager.call call).Accounted := by
  cases call with
  | init config => exact ⟨Balanced.empty, Keyed.distinct _⟩
  | reset => exact ⟨Balanced.empty, Keyed.distinct _⟩
  | add ts subject mode source ttlMs riskScore reason =>
      exact add_accounted accounted ts subject mode source ttlMs riskScore reason
  | remove subject => exact remove_accounted accounted subject
  | check ts subject => exact check_accounted accounted ts subject
  | expireOld ts => exact expire_old_accounted accounted ts

end QuarantineManager

/-- The tables share nothing, so each has a run of its own. -/
theorem security_tables_accounted (flowCalls : List FlowCall) (rateCalls : List RateCall)
    (quarantineCalls : List QuarantineCall) :
    (flowCalls.foldl FlowTable.call .boot).Accounted ∧
      (rateCalls.foldl RateLimiter.call .boot).Accounted ∧
      (quarantineCalls.foldl QuarantineManager.call .boot).Accounted := by
  refine ⟨?_, ?_, ?_⟩
  · apply List.foldlRecOn flowCalls FlowTable.call
    · exact ⟨Balanced.empty, Keyed.distinct _, rfl⟩
    · intro table accounted call _
      exact FlowTable.call_accounted accounted call
  · apply List.foldlRecOn rateCalls RateLimiter.call
    · exact ⟨Balanced.empty, Keyed.distinct _⟩
    · intro limiter accounted call _
      exact RateLimiter.call_accounted accounted call
  · apply List.foldlRecOn quarantineCalls QuarantineManager.call
    · exact ⟨Balanced.empty, Keyed.distinct _⟩
    · intro manager accounted call _
      exact QuarantineManager.call_accounted accounted call

end BlindNet
