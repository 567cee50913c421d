import BlindNet.FlowAges
import BlindNet.RateAges

/-!
# What a full table evicts

The flow table and the rate limiter make room for a new flow by the time each flow was last
seen. The time is the uptime cut to 32 bits, and it is compared as a number: a flow that was
seen after the clock wrapped around looks older than all those seen before.
-/

namespace BlindNet

set_option autoImplicit false

open SlotTable

/-- A run of calls up to an uptime, in the order of time. -/
structure TimedRun {Call : Type} (clocked : Nat → Call → Prop) (calls : List (Nat × Call))
    (uptime : Nat) : Prop where
  clocked : ∀ timed ∈ calls, clocked timed.1 timed.2
  ordered : (calls.map Prod.fst ++ [uptime]).Pairwise (· ≤ ·)

/-- A table that is full makes room for a new flow at the cost of one that was seen least
recently, as long as the cut to 32 bits keeps the order of the times. -/
theorem full_table_evicts_least_recent (uptime : Nat) :
    (∀ (config : Option FlowTableConfig) (calls : List (Nat × FlowCall)) (key : FlowKey)
        (direction : FlowDirection) (bytes : UInt32),
      let table := (FlowTable.boot.init config).runs calls
      (FlowTable.boot.init config).config.evictLruWhenFull = true →
        TimedRun FlowCall.Clocked calls uptime →
        table.lookup key = none → findEmpty table.slots.slots = none →
        OrderKept FlowCall.touched calls table.slots →
        table.EvictsLeastRecent calls uptime key direction bytes) ∧
    ∀ (config : Option RateLimiterConfig) (calls : List (Nat × RateCall))
        (bucketKey : BucketKey) (packetBytes : UInt32),
      let limiter := (RateLimiter.boot.init config).runs calls
      (RateLimiter.boot.init config).config.evictLruWhenFull = true →
        TimedRun RateCall.Clocked calls uptime →
        limiter.lookup bucketKey = none → findEmpty limiter.buckets.slots = none →
        OrderKept RateCall.touched calls limiter.buckets →
        limiter.EvictsLeastRecent calls uptime bucketKey packetBytes := by
  constructor
  · intro config calls key direction bytes table evicts run unknown full kept
    have seen := FlowTable.seen_run config calls run.clocked
    exact seen.evicts_least_recent evicts unknown full kept uptime direction bytes
  · intro config calls bucketKey packetBytes limiter evicts run unknown full kept
    have seen := RateLimiter.seen_run config calls run.clocked
    exact seen.evicts_least_recent evicts unknown full kept uptime packetBytes

/-! ## Tables that were filled in order -/

theorem FlowTable.touch_free_known {table : FlowTable} (ready : table.initialized = true)
    {key : FlowKey} (unknown : table.lookup key = none)
    (room : ∃ index, findEmpty table.slots.slots = some index) (ts : UInt32)
    (direction : FlowDirection) (bytes : UInt32) (other : FlowKey) :
    ((table.touch ts key direction bytes).2.lookup other).isSome = true ↔
      other = key ∨ (table.lookup other).isSome = true := by
  obtain ⟨index, free⟩ := room
  have claimed : claim table.config.evictLruWhenFull FlowEntry.lastSeenMs table.slots.slots =
      some (index, false) := by
    simp [claim, free]
  have outcome := (touch_cases ready ts key direction bytes).1
  generalize table.touch ts key direction bytes = touched at outcome ⊢
  cases outcome with
  | updated entry renewed next known isSeen changed =>
      rw [unknown] at known
      cases known
  | evicted slot entry old next _ crowded held isSeen changed =>
      rw [claimed] at crowded
      cases crowded
  | dropped next _ full unchanged =>
      rw [claimed] at full
      cases full
  | created slot entry next _ _ isSeen changed =>
      rw [changed]
      split_ifs with isKey
      · exact iff_of_true rfl (.inl isKey.symm)
      · exact (or_iff_right (Ne.symm isKey)).symm

theorem RateLimiter.check_free_known {limiter : RateLimiter} (ready : limiter.initialized = true)
    (room : ∃ index, findEmpty limiter.buckets.slots = some index) (bucketKey : BucketKey)
    (ts packetBytes : UInt32) (other : BucketKey) :
    ((limiter.check ts bucketKey.key bucketKey.direction packetBytes).2.2.lookup
        other).isSome = true ↔
      other = bucketKey ∨ (limiter.lookup other).isSome = true := by
  obtain ⟨_, _, _, _, _, changed⟩ := check_free_spec ready room bucketKey ts packetBytes
  rw [changed]
  split_ifs with isKey
  · exact iff_of_true rfl (.inl isKey)
  · exact (or_iff_right isKey).symm

def numberedFlow (number : Nat) : FlowKey := ⟨UInt32.ofNat number, 134744072, 40000, 443, 6⟩

theorem numbered_flow_apart {first second : Nat} (firstBelow : first < 2 ^ 32)
    (secondBelow : second < 2 ^ 32) (same : numberedFlow first = numberedFlow second) :
    first = second := by
  have numbers := congrArg (fun key => key.srcIp.toNat) same
  simp only [numberedFlow, UInt32.toNat_ofNat', Nat.mod_eq_of_lt firstBelow,
    Nat.mod_eq_of_lt secondBelow] at numbers
  exact numbers

def flowTouch (times : Nat → Nat) (number : Nat) : FlowCall :=
  .touch (nowMs32 (times number)) (numberedFlow number) .zoneToUplink 64

def flowFill (times : Nat → Nat) : List (Nat × FlowCall) :=
  (List.range 128).map fun number => (times number, flowTouch times number)

def filledFlows (times : Nat → Nat) : FlowTable := (FlowTable.boot.init none).runs (flowFill times)

theorem filled_flows_known (times : Nat → Nat) (key : FlowKey) :
    ((filledFlows times).lookup key).isSome = true ↔ ∃ number < 128, key = numberedFlow number := by
  have filled := @fill_known _ _ _ _ _ _ FlowTable.slots (fun table => table.initialized = true)
    (fun table number => table.call (flowTouch times number)) numberedFlow
    (fun first second firstBelow secondBelow =>
      numbered_flow_apart (firstBelow.trans (by decide)) (secondBelow.trans (by decide)))
    (fun table number ready unknown room =>
      ⟨(FlowTable.touch_cases ready _ _ _ _).2.1,
        FlowTable.touch_free_known ready unknown room _ _ _⟩)
    (FlowTable.boot.init none) rfl (fun key => Keyed.lookup_empty key) 128 (Nat.le_refl _)
  have isRun : filledFlows times = (List.range 128).foldl
      (fun table number => table.call (flowTouch times number)) (FlowTable.boot.init none) := by
    unfold filledFlows FlowTable.runs flowFill
    rw [List.foldl_map]
  rw [isRun]
  exact filled.2 key

theorem filled_flows_full (times : Nat → Nat) :
    findEmpty (filledFlows times).slots.slots = none := by
  apply Keyed.full_of_keys fun number : Fin flowTableMaxEntries => numberedFlow number.val
  · intro first second same
    exact Fin.ext (numbered_flow_apart (first.isLt.trans (by decide))
      (second.isLt.trans (by decide)) same)
  · intro number
    exact (filled_flows_known times _).mpr ⟨number.val, number.isLt, rfl⟩

theorem filled_flows_unknown (times : Nat → Nat) :
    (filledFlows times).lookup (numberedFlow 128) = none := by
  apply Option.not_isSome_iff_eq_none.mp
  intro used
  obtain ⟨number, below, same⟩ := (filled_flows_known times _).mp used
  have equal := numbered_flow_apart (by decide) (below.trans (by decide)) same
  omega

theorem filled_flows_touched (times : Nat → Nat) {number : Nat} (below : number < 128) :
    lastTouch FlowCall.touched (flowFill times) (numberedFlow number) = some (times number) := by
  apply last_touch_fill times (flowTouch times) numberedFlow (fun _ => rfl)
  · intro first second firstBelow secondBelow
    exact numbered_flow_apart (firstBelow.trans (by decide)) (secondBelow.trans (by decide))
  · exact below

theorem filled_flows_kept {times : Nat → Nat}
    (early : ∀ number < 128, times number < 2 ^ 32 - 1) :
    OrderKept FlowCall.touched (flowFill times) (filledFlows times).slots := by
  have first : ((filledFlows times).lookup (numberedFlow 0)).isSome = true :=
    (filled_flows_known _ _).mpr ⟨0, by decide, rfl⟩
  apply OrderKept.of_early first
  intro other used time isTime
  obtain ⟨number, inside, rfl⟩ := (filled_flows_known _ other).mp used
  cases (filled_flows_touched _ inside).symm.trans isTime
  exact early number inside

theorem filled_flows_clocked (times : Nat → Nat) :
    ∀ timed ∈ flowFill times, FlowCall.Clocked timed.1 timed.2 := by
  intro timed member
  obtain ⟨number, _, rfl⟩ := List.mem_map.mp member
  rfl

def numberedBucket (number : Nat) : BucketKey := ⟨numberedFlow number, .zoneToUplink⟩

theorem numbered_bucket_apart {first second : Nat} (firstBelow : first < 2 ^ 32)
    (secondBelow : second < 2 ^ 32) (same : numberedBucket first = numberedBucket second) :
    first = second :=
  numbered_flow_apart firstBelow secondBelow (congrArg BucketKey.key same)

def bucketCheck (times : Nat → Nat) (number : Nat) : RateCall :=
  .check (nowMs32 (times number)) (numberedFlow number) .zoneToUplink 64

def bucketFill (times : Nat → Nat) : List (Nat × RateCall) :=
  (List.range 128).map fun number => (times number, bucketCheck times number)

def filledBuckets (times : Nat → Nat) : RateLimiter :=
  (RateLimiter.boot.init none).runs (bucketFill times)

theorem filled_buckets_known (times : Nat → Nat) (key : BucketKey) :
    ((filledBuckets times).lookup key).isSome = true ↔
      ∃ number < 128, key = numberedBucket number := by
  have filled := @fill_known _ _ _ _ _ _ RateLimiter.buckets
    (fun limiter => limiter.initialized = true)
    (fun limiter number => limiter.call (bucketCheck times number)) numberedBucket
    (fun first second firstBelow secondBelow =>
      numbered_bucket_apart (firstBelow.trans (by decide)) (secondBelow.trans (by decide)))
    (fun limiter number ready _ room =>
      ⟨(RateLimiter.check_free_spec ready room (numberedBucket number) _ _).1,
        RateLimiter.check_free_known ready room (numberedBucket number) _ _⟩)
    (RateLimiter.boot.init none) rfl (fun key => Keyed.lookup_empty key) 128 (Nat.le_refl _)
  have isRun : filledBuckets times = (List.range 128).foldl
      (fun limiter number => limiter.call (bucketCheck times number))
      (RateLimiter.boot.init none) := by
    unfold filledBuckets RateLimiter.runs bucketFill
    rw [List.foldl_map]
  rw [isRun]
  exact filled.2 key

theorem filled_buckets_full (times : Nat → Nat) :
    findEmpty (filledBuckets times).buckets.slots = none := by
  apply Keyed.full_of_keys fun number : Fin rateLimiterMaxBuckets => numberedBucket number.val
  · intro first second same
    exact Fin.ext (numbered_bucket_apart (first.isLt.trans (by decide))
      (second.isLt.trans (by decide)) same)
  · intro number
    exact (filled_buckets_known times _).mpr ⟨number.val, number.isLt, rfl⟩

theorem filled_buckets_unknown (times : Nat → Nat) :
    (filledBuckets times).lookup (numberedBucket 128) = none := by
  apply Option.not_isSome_iff_eq_none.mp
  intro used
  obtain ⟨number, below, same⟩ := (filled_buckets_known times _).mp used
  have equal := numbered_bucket_apart (by decide) (below.trans (by decide)) same
  omega

theorem filled_buckets_touched (times : Nat → Nat) {number : Nat} (below : number < 128) :
    lastTouch RateCall.touched (bucketFill times) (numberedBucket number) =
      some (times number) := by
  apply last_touch_fill times (bucketCheck times) numberedBucket (fun _ => rfl)
  · intro first second firstBelow secondBelow
    exact numbered_bucket_apart (firstBelow.trans (by decide)) (secondBelow.trans (by decide))
  · exact below

theorem filled_buckets_kept {times : Nat → Nat}
    (early : ∀ number < 128, times number < 2 ^ 32 - 1) :
    OrderKept RateCall.touched (bucketFill times) (filledBuckets times).buckets := by
  have first : ((filledBuckets times).lookup (numberedBucket 0)).isSome = true :=
    (filled_buckets_known _ _).mpr ⟨0, by decide, rfl⟩
  apply OrderKept.of_early first
  intro other used time isTime
  obtain ⟨number, inside, rfl⟩ := (filled_buckets_known _ other).mp used
  cases (filled_buckets_touched _ inside).symm.trans isTime
  exact early number inside

theorem filled_buckets_clocked (times : Nat → Nat) :
    ∀ timed ∈ bucketFill times, RateCall.Clocked timed.1 timed.2 := by
  intro timed member
  obtain ⟨number, _, rfl⟩ := List.mem_map.mp member
  rfl

def everyMillisecond (number : Nat) : Nat := 1000 + number

theorem filled_tables_evict :
    (filledFlows everyMillisecond).EvictsLeastRecent (flowFill everyMillisecond) 2000
        (numberedFlow 128) .zoneToUplink 64 ∧
      (filledBuckets everyMillisecond).EvictsLeastRecent (bucketFill everyMillisecond) 2000
        (numberedBucket 128) 64 := by
  have early : ∀ number < 128, everyMillisecond number < 2 ^ 32 - 1 := by
    intro number below
    unfold everyMillisecond
    omega
  have unknown := filled_flows_unknown everyMillisecond
  have full := filled_flows_full everyMillisecond
  have kept := filled_flows_kept early
  have unknownBucket := filled_buckets_unknown everyMillisecond
  have fullBuckets := filled_buckets_full everyMillisecond
  have keptBuckets := filled_buckets_kept early
  -- unfolded by name, so that no table is ever computed
  unfold filledFlows at unknown full kept ⊢
  unfold filledBuckets at unknownBucket fullBuckets keptBuckets ⊢
  constructor
  · exact (full_table_evicts_least_recent 2000).1 none _ _ .zoneToUplink 64 rfl
      ⟨filled_flows_clocked _, by decide +kernel⟩ unknown full kept
  · exact (full_table_evicts_least_recent 2000).2 none _ _ 64 rfl
      ⟨filled_buckets_clocked _, by decide +kernel⟩ unknownBucket fullBuckets keptBuckets

def wrapTimes (number : Nat) : Nat := if number = 127 then 4294967301 else 4294967286

theorem wrapped_age {number : Nat} (below : number < 128) {entry : FlowEntry}
    (held : (filledFlows wrapTimes).lookup (numberedFlow number) = some entry) :
    entry.lastSeenMs = if number = 127 then 5 else 4294967286 := by
  have seen := FlowTable.seen_run none (flowFill wrapTimes) (filled_flows_clocked wrapTimes)
  obtain ⟨time, isLast, isAge⟩ := seen.aged (numberedFlow number) entry held
  cases (filled_flows_touched wrapTimes below).symm.trans isLast
  rw [isAge]
  unfold wrapTimes
  split_ifs
  · rfl
  · rfl

/-- A touch evicts the flow that was seen last of all. -/
theorem newest_flow_evicted :
    (FlowTable.boot.init none).config.evictLruWhenFull = true ∧
      TimedRun FlowCall.Clocked (flowFill wrapTimes) 4294967302 ∧
      (filledFlows wrapTimes).lookup (numberedFlow 128) = none ∧
      findEmpty (filledFlows wrapTimes).slots.slots = none ∧
      ¬(filledFlows wrapTimes).EvictsLeastRecent (flowFill wrapTimes) 4294967302
        (numberedFlow 128) .zoneToUplink 64 := by
  have unknown := filled_flows_unknown wrapTimes
  refine ⟨rfl, ⟨filled_flows_clocked wrapTimes, by decide +kernel⟩, unknown,
    filled_flows_full wrapTimes, ?_⟩
  intro evicts
  obtain ⟨evicted, _, victim, least, changed⟩ := evicts
  have ready := (FlowTable.seen_run none (flowFill wrapTimes)
    (filled_flows_clocked wrapTimes)).ready
  have outcome := (@FlowTable.touch_cases (filledFlows wrapTimes) ready (nowMs32 4294967302)
    (numberedFlow 128) .zoneToUplink 64).1
  generalize (filledFlows wrapTimes).touch (nowMs32 4294967302) (numberedFlow 128) .zoneToUplink
    64 = touched at outcome evicted changed
  cases outcome with
  | updated => cases evicted
  | created => cases evicted
  | dropped => cases evicted
  | evicted index entry old next _ crowded held isSeen changedThere =>
      have known := Keyed.lookup_held held rfl
      change (filledFlows wrapTimes).lookup old.key = some old at known
      -- the flow that was evicted is the one that lost its entry, and it has the least age
      have isVictim : victim = old.key := by
        have apart : old.key ≠ numberedFlow 128 := by
          intro same
          rw [same, unknown] at known
          cases known
        have gone := (changed old.key apart).symm.trans (changedThere old.key)
        rw [if_neg (Ne.symm apart), if_pos rfl, known] at gone
        split_ifs at gone with same
        exact same
      obtain ⟨number, below, isNumber⟩ := (filled_flows_known wrapTimes old.key).mp
        (by rw [known]; rfl)
      obtain ⟨newest, heldNewest⟩ := Option.isSome_iff_exists.mp
        ((filled_flows_known wrapTimes (numberedFlow 127)).mpr ⟨127, by decide, rfl⟩)
      obtain ⟨slot, inSlot, _⟩ := Keyed.lookup_some heldNewest
      obtain ⟨same, sameHeld, oldest⟩ := find_lru_some (claim_evicts_lru crowded)
      cases held.symm.trans sameHeld
      have age := oldest slot newest inSlot
      rw [isNumber] at known
      rw [wrapped_age below known, wrapped_age (by decide) heldNewest] at age
      have isNewest : number = 127 := by
        by_contra different
        rw [if_neg different] at age
        revert age
        decide
      have first := (filled_flows_known wrapTimes (numberedFlow 0)).mpr ⟨0, by decide, rfl⟩
      have late := filled_flows_touched wrapTimes below
      rw [← isNumber, ← isVictim, isNewest] at late
      have impossible := least.earliest (numberedFlow 0) first _ late _
        (filled_flows_touched wrapTimes (by decide))
      revert impossible
      decide

end BlindNet
