import BlindNet.SecurityServices
import BlindNet.Lib.SlotAccount
import BlindNet.Lib.SlotLookup

/-!
# The rate limiter as a map

Each flow and direction has its bucket, wherever it is kept. A check counts its packet in
that bucket, or in a new one, and may cost another bucket its slot. The rules and the
configuration stay as they are.
-/

namespace BlindNet

set_option autoImplicit false

open ByteLayout SlotTable

namespace RateLimiter

def lookup (limiter : RateLimiter) (bucketKey : BucketKey) : Option RateBucket :=
  limiter.buckets.lookup bucketKey

def paramsFor (limiter : RateLimiter) (bucketKey : BucketKey) : RateLimitParams :=
  orDefaultWindow
    (((limiter.findBestRuleLocked bucketKey.key bucketKey.direction).map
      RateLimitRule.params).getD limiter.config.defaultParams) 1000

/-- The flow whose bucket is evicted to make room for another one. -/
def evicted (limiter : RateLimiter) (bucketKey : BucketKey) : Option BucketKey :=
  match limiter.lookup bucketKey,
    claim limiter.config.evictLruWhenFull RateBucket.lastSeenMs limiter.buckets.slots with
  | none, some (index, true) => (limiter.buckets.slots.get index).map RateBucket.bucketKey
  | _, _ => none

variable {limiter : RateLimiter} {bucketKey : BucketKey}

theorem find_bucket_lookup {index : Fin rateLimiterMaxBuckets} {bucket : RateBucket}
    (found : limiter.findBucketLocked bucketKey = some (index, bucket)) :
    limiter.buckets.slots.get index = some bucket ∧ bucket.bucketKey = bucketKey ∧
      limiter.lookup bucketKey = some bucket := by
  obtain ⟨held, same⟩ := find_entry_some found
  have isKey := (bucket_key_equals_iff bucket.bucketKey bucketKey).mp same
  exact ⟨held, isKey, Keyed.lookup_held held isKey⟩

theorem find_bucket_lookup_none (missing : limiter.findBucketLocked bucketKey = none) :
    limiter.lookup bucketKey = none :=
  Keyed.lookup_eq_none_iff.mpr (find_bucket_none missing)

def newBucket (bucketKey : BucketKey) (ts : UInt32) : RateBucket := ⟨bucketKey, ts, ts, 0, 0, 0⟩

/-- A bucket is obtained unless there is no slot for a new one. Only a new bucket may cost
another one. -/
theorem obtain_bucket_spec (limiter : RateLimiter) (bucketKey : BucketKey) (ts : UInt32) :
    (limiter.obtainBucketLocked bucketKey ts = none ∧ limiter.lookup bucketKey = none ∧
      claim limiter.config.evictLruWhenFull RateBucket.lastSeenMs limiter.buckets.slots = none) ∨
    ∃ index bucket ready,
      limiter.obtainBucketLocked bucketKey ts = some (index, bucket, ready) ∧
      bucket = (limiter.lookup bucketKey).getD (newBucket bucketKey ts) ∧
      ready.buckets.slots.get index = some bucket ∧ bucket.bucketKey = bucketKey ∧
      ready.initialized = limiter.initialized ∧ ready.config = limiter.config ∧
      ready.rules = limiter.rules ∧
      ∀ key, key ≠ bucketKey → ready.lookup key =
        if limiter.evicted bucketKey = some key then none else limiter.lookup key := by
  generalize outcome : limiter.obtainBucketLocked bucketKey ts = obtained
  unfold obtainBucketLocked at outcome
  split at outcome
  next index bucket found =>
    right
    obtain ⟨held, isKey, here⟩ := find_bucket_lookup found
    have keeps : limiter.evicted bucketKey = none := by simp [evicted, here]
    refine ⟨index, bucket, limiter, outcome.symm, by rw [here]; rfl, held, isKey, rfl, rfl, rfl, ?_⟩
    intro key _
    rw [keeps, if_neg (Option.some_ne_none key).symm]
  next missing =>
    have absent := find_bucket_lookup_none missing
    have fresh := find_bucket_none missing
    split at outcome
    next full =>
      left
      exact ⟨outcome.symm, absent, full⟩
    next index free =>
      right
      have keeps : limiter.evicted bucketKey = none := by simp [evicted, absent, free]
      have vacant := claim_free free
      refine ⟨index, newBucket bucketKey ts, _, outcome.symm, by rw [absent]; rfl, ?_, rfl, rfl,
        rfl, rfl, ?_⟩
      · exact (Keyed.place_get limiter.buckets index index (newBucket bucketKey ts) fresh).trans
          (if_pos rfl)
      · intro key different
        apply (@Keyed.lookup_place _ _ _ _ _ _ index (newBucket bucketKey ts) vacant fresh
          key).trans
        rw [keeps, if_neg (Option.some_ne_none key).symm]
        exact if_neg (Ne.symm different)
    next index crowded =>
      right
      obtain ⟨old, held⟩ := claim_evicts crowded
      have loses : limiter.evicted bucketKey = some old.bucketKey := by
        simp [evicted, absent, crowded, held]
      have freshLeft : ∀ slot other, (limiter.buckets.clear index).slots.get slot = some other →
          other.bucketKey ≠ bucketKey := fun slot other held =>
        fresh slot other (cleared_held held)
      refine ⟨index, newBucket bucketKey ts, _, outcome.symm, by rw [absent]; rfl, ?_, rfl, rfl,
        rfl, rfl, ?_⟩
      · exact (Keyed.place_get (limiter.buckets.clear index) index index (newBucket bucketKey ts)
          freshLeft).trans (if_pos rfl)
      · intro key different
        have replaced := @Keyed.lookup_replace _ _ _ _ _ _ index (newBucket bucketKey ts) old held
          freshLeft key
        rw [loses]
        apply replaced.trans
        apply (if_neg (Ne.symm different)).trans
        simp only [Option.some.injEq]
        rfl

/-- The bucket that a check counts its packet in, after it. -/
def counted (limiter : RateLimiter) (bucketKey : BucketKey) (ts packetBytes : UInt32) :
    RateBucket :=
  countPacket (limiter.paramsFor bucketKey) ts packetBytes
    ((limiter.lookup bucketKey).getD (newBucket bucketKey ts))

/-- The bucket that stays: a packet over the limit is counted as one. -/
def settled (limiter : RateLimiter) (bucketKey : BucketKey) (ts packetBytes : UInt32) :
    RateBucket :=
  let updated := limiter.counted bucketKey ts packetBytes
  if paramsExceeded (limiter.paramsFor bucketKey) updated then
    { updated with exceededCount := updated.exceededCount + 1 }
  else
    updated

theorem settled_seen (limiter : RateLimiter) (bucketKey : BucketKey) (ts packetBytes : UInt32) :
    (limiter.settled bucketKey ts packetBytes).lastSeenMs = ts := by
  unfold settled counted countPacket
  dsimp only
  split_ifs <;> rfl

/-- The answer of a check that has a bucket. -/
def answer (limiter : RateLimiter) (bucketKey : BucketKey) (ts packetBytes : UInt32) :
    RateLimitResult :=
  let matched := limiter.findBestRuleLocked bucketKey.key bucketKey.direction
  let updated := limiter.counted bucketKey ts packetBytes
  if paramsExceeded (limiter.paramsFor bucketKey) updated then
    fillResult .exceeded (if matched.isSome then .ruleMatch else .noRule) matched
      (limiter.paramsFor bucketKey) (some updated)
  else
    fillResult .allow (if matched.isSome then .ruleMatch else .default) matched
      (limiter.paramsFor bucketKey) (some updated)

/-- A check without a bucket fails and changes no bucket; any other one settles its own
bucket, and at most one other bucket is evicted. -/
theorem check_spec (ready : limiter.initialized = true) (bucketKey : BucketKey)
    (ts packetBytes : UInt32) :
    let outcome := limiter.check ts bucketKey.key bucketKey.direction packetBytes
    outcome.2.2.initialized = true ∧ outcome.2.2.config = limiter.config ∧
      outcome.2.2.rules = limiter.rules ∧
      ((outcome.1 = .error .noMem ∧ limiter.lookup bucketKey = none ∧
          claim limiter.config.evictLruWhenFull RateBucket.lastSeenMs limiter.buckets.slots
            = none ∧
          outcome.2.1.decision = .error ∧ outcome.2.2.buckets = limiter.buckets) ∨
        (outcome.1 = .ok () ∧ outcome.2.1 = limiter.answer bucketKey ts packetBytes ∧
          ∀ key, outcome.2.2.lookup key =
            if key = bucketKey then some (limiter.settled bucketKey ts packetBytes)
            else if limiter.evicted bucketKey = some key then none else limiter.lookup key)) := by
  let noted : RateLimiter := { limiter with stats := { limiter.stats with
    checks := limiter.stats.checks + 1 } }
  have known := obtain_bucket_spec noted bucketKey ts
  unfold check
  rw [if_neg (by simp [ready])]
  dsimp only
  split
  next missing =>
    have missing : noted.obtainBucketLocked bucketKey ts = none := missing
    rw [missing] at known
    obtain ⟨_, absent, full⟩ | ⟨_, _, _, obtained, _⟩ := known
    · exact ⟨ready, rfl, rfl, .inl ⟨rfl, absent, full, rfl, rfl⟩⟩
    · cases obtained
  next index bucket next obtained =>
    have obtained : noted.obtainBucketLocked bucketKey ts = some (index, bucket, next) := obtained
    rw [obtained] at known
    obtain ⟨missing, _⟩ | ⟨_, _, _, same, isBucket, held, isKey, nextReady, nextConfig,
      nextRules, others⟩ := known
    · cases missing
    · cases same
      have isCounted : countPacket (limiter.paramsFor bucketKey) ts packetBytes bucket =
          limiter.counted bucketKey ts packetBytes := by
        rw [isBucket]
        rfl
      have settles : ∀ change keeps, change bucket = limiter.settled bucketKey ts packetBytes →
          ∀ key, (next.buckets.modify index change keeps).lookup key =
            if key = bucketKey then some (limiter.settled bucketKey ts packetBytes)
            else if limiter.evicted bucketKey = some key then none else limiter.lookup key := by
        intro change keeps isSettled key
        rw [Keyed.lookup_modify held change keeps, isKey, isSettled]
        by_cases here : key = bucketKey
        · rw [if_pos here.symm, if_pos here]
        · rw [if_neg (Ne.symm here), if_neg here]
          exact others key here
      split
      next exceeded =>
        have exceeded : paramsExceeded (limiter.paramsFor bucketKey)
            (limiter.counted bucketKey ts packetBytes) = true := isCounted ▸ exceeded
        refine ⟨nextReady.trans ready, nextConfig, nextRules, .inr ⟨rfl, ?_, ?_⟩⟩
        · unfold answer
          dsimp only
          rw [if_pos exceeded, ← isCounted]
          rfl
        · apply settles (countExceeded (limiter.paramsFor bucketKey) ts packetBytes)
            (count_packet_key (limiter.paramsFor bucketKey) ts packetBytes)
          unfold settled
          dsimp only
          rw [if_pos exceeded, ← isCounted]
          rfl
      next within =>
        have within : ¬paramsExceeded (limiter.paramsFor bucketKey)
            (limiter.counted bucketKey ts packetBytes) = true := isCounted ▸ within
        refine ⟨nextReady.trans ready, nextConfig, nextRules, .inr ⟨rfl, ?_, ?_⟩⟩
        · unfold answer
          dsimp only
          rw [if_neg within, ← isCounted]
          rfl
        · apply settles _ (count_packet_key (limiter.paramsFor bucketKey) ts packetBytes)
          unfold settled
          dsimp only
          rw [if_neg within, ← isCounted]

theorem check_free_spec (ready : limiter.initialized = true)
    (room : ∃ index, findEmpty limiter.buckets.slots = some index) (bucketKey : BucketKey)
    (ts packetBytes : UInt32) :
    let outcome := limiter.check ts bucketKey.key bucketKey.direction packetBytes
    outcome.2.2.initialized = true ∧ outcome.2.2.config = limiter.config ∧
      outcome.2.2.rules = limiter.rules ∧ outcome.1 = .ok () ∧
      outcome.2.1 = limiter.answer bucketKey ts packetBytes ∧
      ∀ key, outcome.2.2.lookup key =
        if key = bucketKey then some (limiter.settled bucketKey ts packetBytes)
        else limiter.lookup key := by
  obtain ⟨index, free⟩ := room
  have claimed : claim limiter.config.evictLruWhenFull RateBucket.lastSeenMs
      limiter.buckets.slots = some (index, false) := by
    simp [claim, free]
  have keeps : limiter.evicted bucketKey = none := by
    unfold evicted
    rw [claimed]
    cases limiter.lookup bucketKey <;> rfl
  obtain ⟨running, config, rules, outcome⟩ := check_spec ready bucketKey ts packetBytes
  refine ⟨running, config, rules, ?_⟩
  cases outcome with
  | inl failed =>
      rw [failed.2.2.1] at claimed
      cases claimed
  | inr granted =>
      obtain ⟨done, answered, changed⟩ := granted
      refine ⟨done, answered, ?_⟩
      intro key
      rw [changed, keeps, if_neg (Option.some_ne_none key).symm]

theorem expire_old_spec (ready : limiter.initialized = true) (ts : UInt32) :
    let outcome := (limiter.expireOld ts).2
    outcome.initialized = true ∧ outcome.config = limiter.config ∧
      outcome.rules = limiter.rules ∧
      ∀ key, outcome.lookup key = (limiter.lookup key).filter fun bucket =>
        !decide (limiter.config.maxIdleMs < ts - bucket.lastSeenMs) := by
  unfold expireOld
  rw [if_neg (by simp [ready])]
  exact ⟨ready, rfl, rfl, fun key => Keyed.lookup_expire limiter.buckets _ key⟩

theorem params_for_congr {other : RateLimiter} (sameConfig : other.config = limiter.config)
    (sameRules : other.rules = limiter.rules) (bucketKey : BucketKey) :
    other.paramsFor bucketKey = limiter.paramsFor bucketKey := by
  unfold paramsFor findBestRuleLocked
  rw [sameConfig, sameRules]

end RateLimiter

end BlindNet
