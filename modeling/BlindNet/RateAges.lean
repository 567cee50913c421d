import BlindNet.RateMap
import BlindNet.Lib.LeastRecent

/-!
# The ages of buckets

As for flows: in a run of the rate limiter each bucket carries the time of the last check of
its flow. Rules come and go without touching a bucket.
-/

namespace BlindNet

set_option autoImplicit false

open SlotTable

def RateCall.touched : RateCall → Option BucketKey
  | .check _ key direction _ => some ⟨key, direction⟩
  | _ => none

def RateCall.Clocked (uptime : Nat) : RateCall → Prop
  | .init _ => False
  | .check ts _ _ _ => ts = nowMs32 uptime
  | .expireOld ts => ts = nowMs32 uptime
  | _ => True

namespace RateLimiter

def runs (limiter : RateLimiter) (calls : List (Nat × RateCall)) : RateLimiter :=
  calls.foldl (fun limiter timed => limiter.call timed.2) limiter

def EvictsLeastRecent (limiter : RateLimiter) (calls : List (Nat × RateCall)) (uptime : Nat)
    (bucketKey : BucketKey) (packetBytes : UInt32) : Prop :=
  let outcome := limiter.check (nowMs32 uptime) bucketKey.key bucketKey.direction packetBytes
  outcome.1 = .ok () ∧ (outcome.2.2.lookup bucketKey).isSome = true ∧
    ∃ victim, LeastRecent RateCall.touched calls limiter.buckets victim ∧
      ∀ other, other ≠ bucketKey →
        outcome.2.2.lookup other = if victim = other then none else limiter.lookup other

structure Seen (config : RateLimiterConfig) (limiter : RateLimiter)
    (calls : List (Nat × RateCall)) : Prop where
  ready : limiter.initialized = true
  config : limiter.config = config
  aged : Aged RateBucket.lastSeenMs RateCall.touched limiter.buckets calls

variable {config : RateLimiterConfig} {limiter : RateLimiter} {calls : List (Nat × RateCall)}

theorem Seen.untouched (seen : Seen config limiter calls) {timed : Nat × RateCall}
    {next : RateLimiter} (ready : next.initialized = true) (same : next.config = limiter.config)
    (none_ : timed.2.touched = none)
    (kept : ∀ key bucket, next.lookup key = some bucket → limiter.lookup key = some bucket) :
    Seen config next (calls ++ [timed]) := by
  refine ⟨ready, same.trans seen.config, seen.aged.step ?_ ?_⟩
  · intro key bucket touched
    rw [none_] at touched
    cases touched
  · intro key bucket _ held
    exact ⟨bucket, kept key bucket held, rfl⟩

theorem Seen.check (seen : Seen config limiter calls) (uptime : Nat) (bucketKey : BucketKey)
    (packetBytes : UInt32) :
    Seen config
      (limiter.check (nowMs32 uptime) bucketKey.key bucketKey.direction packetBytes).2.2
      (calls ++ [(uptime,
        .check (nowMs32 uptime) bucketKey.key bucketKey.direction packetBytes)]) := by
  obtain ⟨ready, same, _, outcome⟩ :=
    check_spec seen.ready bucketKey (nowMs32 uptime) packetBytes
  refine ⟨ready, same.trans seen.config, ?_⟩
  cases outcome with
  | inl failed =>
      obtain ⟨_, absent, _, _, unchanged⟩ := failed
      rw [unchanged]
      apply seen.aged.touch rfl
      · intro held isHeld
        have missing := absent.symm.trans isHeld
        cases missing
      · intro other held _ isHeld
        exact isHeld
  | inr granted =>
      obtain ⟨_, _, changed⟩ := granted
      simp only [@eq_comm _ _ bucketKey] at changed
      apply seen.aged.written rfl
        (settled_seen limiter bucketKey (nowMs32 uptime) packetBytes) changed
      intro other held kept
      split_ifs at kept
      exact kept

theorem add_rule_buckets (limiter : RateLimiter) (rule : RateLimitRule) :
    (limiter.addRule rule).2.initialized = limiter.initialized ∧
      (limiter.addRule rule).2.config = limiter.config ∧
      (limiter.addRule rule).2.buckets = limiter.buckets := by
  unfold addRule
  split
  next => exact ⟨rfl, rfl, rfl⟩
  next =>
    split
    next => exact ⟨rfl, rfl, rfl⟩
    next => exact ⟨rfl, rfl, rfl⟩

theorem remove_rule_buckets (limiter : RateLimiter) (ruleId : UInt32) :
    (limiter.removeRule ruleId).2.initialized = limiter.initialized ∧
      (limiter.removeRule ruleId).2.config = limiter.config ∧
      (limiter.removeRule ruleId).2.buckets = limiter.buckets := by
  unfold removeRule
  split
  next => exact ⟨rfl, rfl, rfl⟩
  next =>
    split
    next => exact ⟨rfl, rfl, rfl⟩
    next => exact ⟨rfl, rfl, rfl⟩

theorem Seen.call (seen : Seen config limiter calls) {timed : Nat × RateCall}
    (clocked : timed.2.Clocked timed.1) :
    Seen config (limiter.call timed.2) (calls ++ [timed]) := by
  obtain ⟨uptime, call⟩ := timed
  cases call with
  | init config => cases clocked
  | reset =>
      apply @Seen.untouched config limiter calls seen (uptime, .reset) limiter.reset seen.ready
        rfl rfl
      intro key bucket held
      change (Keyed.empty : Keyed RateBucket RateBucket.bucketKey _).lookup key = _ at held
      rw [Keyed.lookup_empty] at held
      cases held
  | addRule rule =>
      obtain ⟨ready, same, buckets⟩ := limiter.add_rule_buckets rule
      apply seen.untouched (ready.trans seen.ready) same rfl
      intro key bucket held
      exact (congrArg (Keyed.lookup · key) buckets).symm.trans held
  | removeRule ruleId =>
      obtain ⟨ready, same, buckets⟩ := limiter.remove_rule_buckets ruleId
      apply seen.untouched (ready.trans seen.ready) same rfl
      intro key bucket held
      exact (congrArg (Keyed.lookup · key) buckets).symm.trans held
  | check ts key direction packetBytes =>
      have isTime : ts = nowMs32 uptime := clocked
      rw [isTime]
      exact seen.check uptime ⟨key, direction⟩ packetBytes
  | expireOld ts =>
      obtain ⟨ready, same, _, kept⟩ := expire_old_spec seen.ready ts
      apply seen.untouched ready same rfl
      intro key bucket held
      change (limiter.expireOld ts).2.lookup key = some bucket at held
      rw [kept] at held
      exact (Option.filter_eq_some_iff.mp held).1

theorem seen_run (config : Option RateLimiterConfig) (calls : List (Nat × RateCall))
    (clocked : ∀ timed ∈ calls, timed.2.Clocked timed.1) :
    Seen (boot.init config).config ((boot.init config).runs calls) calls := by
  apply fold_history (Seen (boot.init config).config) (fun timed => timed.2.Clocked timed.1) _ _
    clocked
  · intro state history timed allowed seen
    exact seen.call allowed
  · exact ⟨rfl, rfl, aged_empty⟩

theorem Seen.evicts_least_recent (seen : Seen config limiter calls)
    (evicts : config.evictLruWhenFull = true) {bucketKey : BucketKey}
    (unknown : limiter.lookup bucketKey = none)
    (full : findEmpty limiter.buckets.slots = none)
    (kept : OrderKept RateCall.touched calls limiter.buckets) (uptime : Nat)
    (packetBytes : UInt32) :
    limiter.EvictsLeastRecent calls uptime bucketKey packetBytes := by
  obtain ⟨index, victim, claimed, held, least⟩ := seen.aged.claim_least_recent full kept
  have claimed : claim limiter.config.evictLruWhenFull RateBucket.lastSeenMs
      limiter.buckets.slots = some (index, true) := by
    rw [seen.config, evicts]
    exact claimed
  have loses : limiter.evicted bucketKey = some victim.bucketKey := by
    unfold evicted
    rw [unknown, claimed]
    exact congrArg (Option.map RateBucket.bucketKey) held
  obtain ⟨_, _, _, outcome⟩ := check_spec seen.ready bucketKey (nowMs32 uptime) packetBytes
  cases outcome with
  | inl failed =>
      rw [failed.2.2.1] at claimed
      cases claimed
  | inr granted =>
      obtain ⟨done, _, changed⟩ := granted
      refine ⟨done, by rw [changed, if_pos rfl]; rfl, victim.bucketKey, least, ?_⟩
      intro other different
      rw [changed, if_neg different, loses]
      simp only [Option.some.injEq]

end RateLimiter

end BlindNet
