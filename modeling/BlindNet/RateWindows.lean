import BlindNet.RateMap
import BlindNet.Lib.FixedWindow
import BlindNet.Lib.Machine

/-!
# What the rate limiter counts

The bucket of a flow is a counter over fixed windows: each check of the flow is an arrival,
and nothing else touches the counter until the bucket is evicted or expires. The numbers in
the bucket have 32 bits. A flow that fills them is allowed again within the same window.
-/

namespace BlindNet

set_option autoImplicit false

open FixedWindow

def RateLimitParams.limits (params : RateLimitParams) : Limits :=
  ⟨params.windowMs, params.maxPackets, params.maxBytes⟩

def RateBucket.counter (bucket : RateBucket) : Counter :=
  ⟨bucket.windowStartMs, bucket.packetsInWindow, bucket.bytesInWindow⟩

/-- Checks and sweeps: the calls of a run with a fixed rule set. -/
def RateCall.keepsRules : RateCall → Bool
  | .check _ _ _ _ => true
  | .expireOld _ => true
  | .init _ => false
  | .reset => false
  | .addRule _ => false
  | .removeRule _ => false

structure RateVisit where
  uptime : Nat
  size : UInt32
  decision : RateLimitDecision
  deriving DecidableEq

namespace RateLimiter

def limitsFor (limiter : RateLimiter) (bucketKey : BucketKey) : Limits :=
  (limiter.paramsFor bucketKey).limits

def counterOf (limiter : RateLimiter) (bucketKey : BucketKey) : Option Counter :=
  (limiter.lookup bucketKey).map RateBucket.counter

/-- One call at an uptime, with the visit of the flow that it makes. -/
def visitStep (bucketKey : BucketKey) (limiter : RateLimiter) (timed : Nat × RateCall) :
    RateLimiter × List RateVisit :=
  (limiter.call timed.2,
    match timed.2 with
    | .check ts key direction packetBytes =>
        if (⟨key, direction⟩ : BucketKey) = bucketKey then
          [⟨timed.1, packetBytes,
            (limiter.check ts key direction packetBytes).2.1.decision⟩]
        else
          []
    | _ => [])

variable {limiter : RateLimiter} {bucketKey : BucketKey}

theorem counted_counter (ts packetBytes : UInt32) :
    (limiter.counted bucketKey ts packetBytes).counter =
      arrive (limiter.limitsFor bucketKey) (limiter.counterOf bucketKey) ts packetBytes := by
  unfold counted counterOf
  cases limiter.lookup bucketKey with
  | none =>
      simp only [Option.getD_none, Option.map_none, arrive, countPacket, newBucket,
        RateBucket.counter]
      split_ifs <;> simp
  | some bucket =>
      rw [Option.getD_some, Option.map_some]
      by_cases late : (limiter.paramsFor bucketKey).windowMs ≤ ts - bucket.windowStartMs
      · have opening : opens (limiter.limitsFor bucketKey) (some bucket.counter) ts = true :=
          decide_eq_true late
        rw [arrive_opens opening]
        simp [countPacket, if_pos late, RateBucket.counter]
      · have going : opens (limiter.limitsFor bucketKey) (some bucket.counter) ts = false :=
          decide_eq_false late
        rw [arrive_continues going]
        simp [countPacket, if_neg late, RateBucket.counter]

theorem settled_counter (ts packetBytes : UInt32) :
    (limiter.settled bucketKey ts packetBytes).counter =
      arrive (limiter.limitsFor bucketKey) (limiter.counterOf bucketKey) ts packetBytes := by
  rw [← counted_counter]
  unfold settled
  dsimp only
  split_ifs
  · rfl
  · rfl

theorem answer_decision (ts packetBytes : UInt32) :
    (limiter.answer bucketKey ts packetBytes).decision =
      if exceeded (limiter.limitsFor bucketKey)
          (arrive (limiter.limitsFor bucketKey) (limiter.counterOf bucketKey) ts packetBytes)
      then .exceeded else .allow := by
  rw [← counted_counter]
  unfold answer
  dsimp only
  change _ = if paramsExceeded (limiter.paramsFor bucketKey)
    (limiter.counted bucketKey ts packetBytes) = true then _ else _
  cases paramsExceeded (limiter.paramsFor bucketKey)
      (limiter.counted bucketKey ts packetBytes) with
  | true => rfl
  | false => rfl

/-- What one call of a run does to the flow. -/
inductive VisitOutcome (limiter next : RateLimiter) (bucketKey : BucketKey)
    (timed : Nat × RateCall) : List RateVisit → Prop
  | other (kept : next.counterOf bucketKey = limiter.counterOf bucketKey) :
      VisitOutcome limiter next bucketKey timed []
  | lost (gone : next.counterOf bucketKey = none) :
      VisitOutcome limiter next bucketKey timed []
  | refused (size : UInt32) (absent : limiter.counterOf bucketKey = none)
      (still : next.counterOf bucketKey = none) :
      VisitOutcome limiter next bucketKey timed [⟨timed.1, size, .error⟩]
  | counted (ts size : UInt32)
      (isCheck : timed.2 = .check ts bucketKey.key bucketKey.direction size)
      (arrived : next.counterOf bucketKey =
        some (arrive (limiter.limitsFor bucketKey) (limiter.counterOf bucketKey) ts size)) :
      VisitOutcome limiter next bucketKey timed [⟨timed.1, size,
        if exceeded (limiter.limitsFor bucketKey)
          (arrive (limiter.limitsFor bucketKey) (limiter.counterOf bucketKey) ts size)
        then .exceeded else .allow⟩]

/-- The rules and the configuration stay, and the limiter is still in use. -/
structure SameRules (limiter next : RateLimiter) : Prop where
  ready : next.initialized = true
  config : next.config = limiter.config
  rules : next.rules = limiter.rules

theorem SameRules.limits {next : RateLimiter} (same : SameRules limiter next)
    (bucketKey : BucketKey) : next.limitsFor bucketKey = limiter.limitsFor bucketKey := by
  unfold limitsFor
  rw [params_for_congr same.config same.rules]

theorem SameRules.trans {next last : RateLimiter} (first : SameRules limiter next)
    (second : SameRules next last) : SameRules limiter last :=
  ⟨second.ready, second.config.trans first.config, second.rules.trans first.rules⟩

theorem visit_cases (ready : limiter.initialized = true) (bucketKey : BucketKey)
    {timed : Nat × RateCall} (keeps : timed.2.keepsRules = true) :
    SameRules limiter (limiter.visitStep bucketKey timed).1 ∧
      VisitOutcome limiter (limiter.visitStep bucketKey timed).1 bucketKey timed
        (limiter.visitStep bucketKey timed).2 := by
  obtain ⟨uptime, call⟩ := timed
  cases call with
  | init config => cases keeps
  | reset => cases keeps
  | addRule rule => cases keeps
  | removeRule ruleId => cases keeps
  | check ts key direction packetBytes =>
      obtain ⟨running, config, rules, outcome⟩ :=
        check_spec ready ⟨key, direction⟩ ts packetBytes
      apply And.intro ⟨running, config, rules⟩
      by_cases here : (⟨key, direction⟩ : BucketKey) = bucketKey
      · subst here
        simp only [visitStep, if_true, RateLimiter.call]
        cases outcome with
        | inl failed =>
            obtain ⟨_, absent, _, decision, unchanged⟩ := failed
            rw [decision]
            apply VisitOutcome.refused
            · simp [counterOf, absent]
            · have still : limiter.buckets.lookup ⟨key, direction⟩ = none := absent
              simp [counterOf, lookup, unchanged, still]
        | inr granted =>
            obtain ⟨_, answered, changed⟩ := granted
            rw [answered, answer_decision]
            apply VisitOutcome.counted ts packetBytes rfl
            unfold counterOf
            rw [changed, if_pos rfl, Option.map_some, settled_counter]
            rfl
      · simp only [visitStep, if_neg here, RateLimiter.call]
        cases outcome with
        | inl failed =>
            obtain ⟨_, _, _, _, unchanged⟩ := failed
            apply VisitOutcome.other
            simp [counterOf, lookup, unchanged]
        | inr granted =>
            obtain ⟨_, _, changed⟩ := granted
            by_cases evicts : limiter.evicted ⟨key, direction⟩ = some bucketKey
            · apply VisitOutcome.lost
              unfold counterOf
              rw [changed, if_neg (Ne.symm here), if_pos evicts, Option.map_none]
            · apply VisitOutcome.other
              unfold counterOf
              rw [changed, if_neg (Ne.symm here), if_neg evicts]
  | expireOld ts =>
      obtain ⟨running, config, rules, changed⟩ := expire_old_spec ready ts
      apply And.intro ⟨running, config, rules⟩
      simp only [visitStep, RateLimiter.call]
      cases found : limiter.lookup bucketKey with
      | none =>
          apply VisitOutcome.lost
          unfold counterOf
          rw [changed, found]
          rfl
      | some bucket =>
          by_cases idle : limiter.config.maxIdleMs < ts - bucket.lastSeenMs
          · apply VisitOutcome.lost
            unfold counterOf
            rw [changed, found, Option.filter_some, decide_eq_true idle]
            rfl
          · apply VisitOutcome.other
            unfold counterOf
            rw [changed, found, Option.filter_some, decide_eq_false idle]
            rfl

end RateLimiter

/-! ## One window -/

/-- The answers tell whether the exact totals of the window are within the limits, and
once they are not, no packet is allowed any more. -/
structure CountsTruly (limits : Limits) (visits : List RateVisit) : Prop where
  allows : ∀ before visit, before ++ [visit] <+: visits →
    (visit.decision = .allow ↔ Within limits ((before ++ [visit]).map RateVisit.size))
  stays : ∀ before earlier between later,
    before ++ [earlier] ++ between ++ [later] <+: visits →
      earlier.decision = .exceeded → later.decision = .exceeded

/-- Whenever the exact totals exceed a limit, so does one of them with 32 bits. -/
def WordsSuffice (limits : Limits) (sizes : List UInt32) : Prop :=
  ∀ before size, before ++ [size] <+: sizes →
    ¬Within limits (before ++ [size]) → WordsExceed limits (before ++ [size])

/-- Every answer comes from the 32-bit totals up to it. -/
def AnsweredByWords (limits : Limits) (visits : List RateVisit) : Prop :=
  ∀ before visit, before ++ [visit] <+: visits →
    visit.decision =
      if WordsExceed limits ((before ++ [visit]).map RateVisit.size) then .exceeded else .allow

theorem AnsweredByWords.snoc {limits : Limits} {visits : List RateVisit} {visit : RateVisit}
    (answered : AnsweredByWords limits visits)
    (last : visit.decision =
      if WordsExceed limits ((visits ++ [visit]).map RateVisit.size) then .exceeded
      else .allow) : AnsweredByWords limits (visits ++ [visit]) := by
  intro before other upTo
  cases List.prefix_concat_iff.mp upTo with
  | inl whole =>
      obtain ⟨rfl, same⟩ := List.append_inj' whole rfl
      cases same
      exact last
  | inr earlier => exact answered before other earlier

theorem AnsweredByWords.counts_truly_iff {limits : Limits} {visits : List RateVisit}
    (answered : AnsweredByWords limits visits) :
    CountsTruly limits visits ↔ WordsSuffice limits (visits.map RateVisit.size) := by
  constructor
  · intro truly before size upTo exceeds
    obtain ⟨rest, split⟩ := upTo
    obtain ⟨first, later, isSplit, isFirst, _⟩ := List.map_eq_append_iff.mp split.symm
    obtain ⟨start, last, rfl, rfl, single⟩ := List.map_eq_append_iff.mp isFirst
    obtain ⟨visit, rfl, rfl⟩ := List.map_eq_singleton_iff.mp single
    have upTo : start ++ [visit] <+: visits := ⟨later, isSplit.symm⟩
    have decided := answered start visit upTo
    rw [List.map_append, List.map_singleton] at decided
    by_contra fits
    rw [if_neg fits] at decided
    have within := (truly.allows start visit upTo).mp decided
    rw [List.map_append, List.map_singleton] at within
    exact exceeds within
  · intro suffices32
    have exceedsIff : ∀ before visit, before ++ [visit] <+: visits →
        (WordsExceed limits ((before ++ [visit]).map RateVisit.size) ↔
          ¬Within limits ((before ++ [visit]).map RateVisit.size)) := by
      intro before visit upTo
      constructor
      · exact WordsExceed.not_within
      · intro exceeds
        have mapped := upTo.map RateVisit.size
        rw [List.map_append, List.map_singleton] at mapped exceeds ⊢
        exact suffices32 _ _ mapped exceeds
    constructor
    · intro before visit upTo
      rw [answered before visit upTo]
      have exceeds := exceedsIff before visit upTo
      split_ifs with words
      · exact iff_of_false not_false (exceeds.mp words)
      · exact iff_of_true rfl (by_contra fun beyond => words (exceeds.mpr beyond))
    · intro before earlier between later upTo wasExceeded
      have upToEarlier : before ++ [earlier] <+: visits := by
        rw [List.append_assoc] at upTo
        exact (List.prefix_append _ _).trans upTo
      have decided := answered before earlier upToEarlier
      rw [wasExceeded] at decided
      split_ifs at decided with words
      have lost := (exceedsIff before earlier upToEarlier).mp words
      have still : ¬Within limits
          ((before ++ [earlier] ++ between ++ [later]).map RateVisit.size) := by
        intro within
        rw [List.append_assoc _ between, List.map_append] at within
        exact lost within.of_append
      rw [answered _ later upTo, if_pos ((exceedsIff _ later upTo).mpr still)]

def packetsOf (bucketKey : BucketKey) (calls : List (Nat × RateCall)) : List (Nat × UInt32) :=
  calls.filterMap fun timed =>
    match timed.2 with
    | .check _ key direction packetBytes =>
        if (⟨key, direction⟩ : BucketKey) = bucketKey then some (timed.1, packetBytes) else none
    | _ => none

def sizesOf (bucketKey : BucketKey) (calls : List (Nat × RateCall)) : List UInt32 :=
  (packetsOf bucketKey calls).map Prod.snd

namespace RateLimiter

/-- A call that neither renews the window of the flow nor drops its bucket. -/
structure InWindow (bucketKey : BucketKey) (limiter : RateLimiter) (timed : Nat × RateCall) :
    Prop where
  fixed : timed.2.keepsRules = true
  kept : ((limiter.call timed.2).counterOf bucketKey).isSome = true
  same : ∀ ts size, timed.2 = .check ts bucketKey.key bucketKey.direction size →
    opens (limiter.limitsFor bucketKey) (limiter.counterOf bucketKey) ts = false

/-- A check that starts a window of the flow, and the calls up to the end of this window. -/
structure Window (limiter : RateLimiter) (bucketKey : BucketKey) (first : Nat × RateCall)
    (calls : List (Nat × RateCall)) : Prop where
  ready : limiter.initialized = true
  opening : ∃ ts size, first.2 = .check ts bucketKey.key bucketKey.direction size ∧
    opens (limiter.limitsFor bucketKey) (limiter.counterOf bucketKey) ts = true
  kept : ((limiter.call first.2).counterOf bucketKey).isSome = true
  within : EventMachine.Guarded (visitStep bucketKey) (InWindow bucketKey)
    (limiter.call first.2) calls

variable {limiter : RateLimiter} {bucketKey : BucketKey}

theorem visit_packets (limiter : RateLimiter) (bucketKey : BucketKey) (timed : Nat × RateCall) :
    (limiter.visitStep bucketKey timed).2.map (fun visit => (visit.uptime, visit.size)) =
      packetsOf bucketKey [timed] := by
  obtain ⟨uptime, call⟩ := timed
  cases call with
  | check ts key direction packetBytes =>
      by_cases here : (⟨key, direction⟩ : BucketKey) = bucketKey
      · simp [visitStep, packetsOf, here]
      · simp [visitStep, packetsOf, here]
  | init config => rfl
  | reset => rfl
  | addRule rule => rfl
  | removeRule ruleId => rfl
  | expireOld ts => rfl

theorem packets_of_cons (bucketKey : BucketKey) (timed : Nat × RateCall)
    (calls : List (Nat × RateCall)) :
    packetsOf bucketKey (timed :: calls) =
      packetsOf bucketKey [timed] ++ packetsOf bucketKey calls :=
  @List.filterMap_append _ _ [timed] calls _

theorem run_sizes (limiter : RateLimiter) (bucketKey : BucketKey)
    (calls : List (Nat × RateCall)) :
    (EventMachine.run (visitStep bucketKey) limiter calls).2.map RateVisit.size =
      sizesOf bucketKey calls := by
  induction calls generalizing limiter with
  | nil => rfl
  | cons timed rest induction =>
      unfold sizesOf at induction ⊢
      rw [EventMachine.run_cons, packets_of_cons, List.map_append, List.map_append, induction,
        ← visit_packets limiter, List.map_map]
      rfl

/-- The state within a window: the bucket holds the 32-bit totals of the visits, from which
each of them was answered. -/
structure Counting (limits : Limits) (bucketKey : BucketKey) (limiter : RateLimiter)
    (visits : List RateVisit) : Prop where
  ready : limiter.initialized = true
  limited : limiter.limitsFor bucketKey = limits
  totals : ∃ counter, limiter.counterOf bucketKey = some counter ∧
    Totals counter (visits.map RateVisit.size)
  answered : AnsweredByWords limits visits

theorem Counting.visit {limits : Limits} {visits : List RateVisit} {timed : Nat × RateCall}
    (inside : InWindow bucketKey limiter timed)
    (counting : Counting limits bucketKey limiter visits) :
    Counting limits bucketKey (limiter.visitStep bucketKey timed).1
      (visits ++ (limiter.visitStep bucketKey timed).2) := by
  obtain ⟨ready, isLimits, ⟨counter, held, totals⟩, answered⟩ := counting
  obtain ⟨same, outcome⟩ := visit_cases ready bucketKey inside.fixed
  have kept : ((limiter.visitStep bucketKey timed).1.counterOf bucketKey).isSome = true :=
    inside.kept
  have nextLimits := (same.limits bucketKey).trans isLimits
  generalize made : (limiter.visitStep bucketKey timed).2 = visited at outcome
  cases outcome with
  | other unchanged =>
      rw [List.append_nil]
      exact ⟨same.ready, nextLimits, ⟨counter, unchanged.trans held, totals⟩, answered⟩
  | lost gone =>
      rw [gone] at kept
      cases kept
  | refused size absent still =>
      rw [absent] at held
      cases held
  | counted ts size isCheck arrived =>
      have going := inside.same ts size isCheck
      rw [held] at going arrived
      rw [arrive_continues going] at arrived
      have nextTotals := totals.next size
      refine ⟨same.ready, nextLimits, ⟨_, arrived, ?_⟩, answered.snoc ?_⟩
      · rw [List.map_append]
        exact nextTotals
      · rw [held, arrive_continues going, isLimits, List.map_append]
        exact if_congr nextTotals.exceeded_iff rfl rfl

/-- Within a window the rate limiter counts truly exactly when no total that exceeds a
limit is brought back below it by wrapping around. -/
theorem window_counts_truly_iff {first : Nat × RateCall} {calls : List (Nat × RateCall)}
    (window : limiter.Window bucketKey first calls) :
    CountsTruly (limiter.limitsFor bucketKey)
        (EventMachine.run (visitStep bucketKey) limiter (first :: calls)).2 ↔
      WordsSuffice (limiter.limitsFor bucketKey) (sizesOf bucketKey (first :: calls)) := by
  obtain ⟨ready, ⟨ts, size, isCheck, opening⟩, kept, within⟩ := window
  have fixed : first.2.keepsRules = true := by
    rw [isCheck]
    rfl
  obtain ⟨same, outcome⟩ := visit_cases ready bucketKey fixed
  have visited : (limiter.visitStep bucketKey first).2 ≠ [] := by
    simp [visitStep, isCheck]
  have opened : Counting (limiter.limitsFor bucketKey) bucketKey
      (limiter.visitStep bucketKey first).1 (limiter.visitStep bucketKey first).2 := by
    have kept : ((limiter.visitStep bucketKey first).1.counterOf bucketKey).isSome = true := kept
    generalize (limiter.visitStep bucketKey first).2 = visits at outcome visited
    cases outcome with
    | other unchanged => exact absurd rfl visited
    | lost gone => exact absurd rfl visited
    | refused size absent still =>
        rw [still] at kept
        cases kept
    | counted ts' size' isCheck' arrived =>
        rw [isCheck] at isCheck'
        cases isCheck'
        rw [arrive_opens opening] at arrived ⊢
        have totals := Totals.first ts size
        refine ⟨same.ready, same.limits bucketKey, ⟨_, arrived, totals⟩, ?_⟩
        exact @AnsweredByWords.snoc _ [] _ (fun before other upTo => by simp at upTo)
          (if_congr totals.exceeded_iff rfl rfl)
  have counting := EventMachine.guarded_history_run (visitStep bucketKey) (InWindow bucketKey)
    (Counting (limiter.limitsFor bucketKey) bucketKey)
    (fun _ _ _ inside counting => counting.visit inside) _ _ calls within.splits opened
  rw [← run_sizes limiter]
  exact counting.answered.counts_truly_iff

def byteLimiter : RateLimiter := boot.init (some ⟨⟨1000, 0, 1000⟩, 60000, true⟩)

def webFlow : BucketKey := ⟨⟨3232235786, 134744072, 40000, 443, 6⟩, .zoneToUplink⟩

def webPacket (uptime : Nat) (size : UInt32) : Nat × RateCall :=
  (uptime, .check (nowMs32 uptime) webFlow.key webFlow.direction size)

theorem check_keeps_known {limiter : RateLimiter} (ready : limiter.initialized = true)
    {bucketKey : BucketKey} (known : (limiter.counterOf bucketKey).isSome = true)
    (ts size : UInt32) :
    ((limiter.check ts bucketKey.key bucketKey.direction size).2.2.counterOf
      bucketKey).isSome = true := by
  unfold counterOf at known ⊢
  rw [Option.isSome_map] at known ⊢
  obtain ⟨_, _, _, outcome⟩ := check_spec ready bucketKey ts size
  cases outcome with
  | inl failed =>
      rw [failed.2.1] at known
      cases known
  | inr granted =>
      rw [granted.2.2, if_pos rfl]
      rfl

theorem byte_window (first second : UInt32)
    (same : opens ((byteLimiter.call (webPacket 5 first).2).limitsFor webFlow)
      ((byteLimiter.call (webPacket 5 first).2).counterOf webFlow) (nowMs32 6) = false) :
    byteLimiter.Window webFlow (webPacket 5 first) [webPacket 6 second] := by
  have ready : byteLimiter.initialized = true := rfl
  have room : ∃ index, SlotTable.findEmpty byteLimiter.buckets.slots = some index :=
    ⟨⟨0, by decide⟩, by decide +kernel⟩
  obtain ⟨running, _, _, _, _, seen⟩ := check_free_spec ready room webFlow (nowMs32 5) first
  have kept : ((byteLimiter.call (webPacket 5 first).2).counterOf webFlow).isSome = true := by
    unfold counterOf
    rw [Option.isSome_map]
    exact (congrArg Option.isSome (seen webFlow)).trans rfl
  have keptOn := check_keeps_known running kept (nowMs32 6) second
  refine ⟨rfl, ⟨_, _, rfl, by decide +kernel⟩, kept, ⟨rfl, keptOn, ?_⟩, trivial⟩
  intro ts size isCheck
  cases isCheck
  exact same

theorem two_packets_count_truly :
    (EventMachine.run (visitStep webFlow) byteLimiter
        [webPacket 5 600, webPacket 6 600]).2.map RateVisit.decision = [.allow, .exceeded] ∧
      CountsTruly (byteLimiter.limitsFor webFlow)
        (EventMachine.run (visitStep webFlow) byteLimiter
          [webPacket 5 600, webPacket 6 600]).2 := by
  apply And.intro (by decide +kernel)
  apply (window_counts_truly_iff (byte_window 600 600 (by decide +kernel))).mpr
  have upTo : ∀ sizes ∈ (sizesOf webFlow [webPacket 5 600, webPacket 6 600]).inits,
      ¬Within (byteLimiter.limitsFor webFlow) sizes →
        WordsExceed (byteLimiter.limitsFor webFlow) sizes := by
    decide +kernel
  intro before size part
  exact upTo _ ((List.mem_inits _ _).mpr part)

/-- The first packet is over the limit, and the second one is allowed: together they bring
the byte count of the window to one. -/
theorem second_packet_allowed :
    byteLimiter.Window webFlow (webPacket 5 4294967295) [webPacket 6 2] ∧
      (EventMachine.run (visitStep webFlow) byteLimiter
        [webPacket 5 4294967295, webPacket 6 2]).2.map RateVisit.decision = [.exceeded, .allow] ∧
      ¬CountsTruly (byteLimiter.limitsFor webFlow)
        (EventMachine.run (visitStep webFlow) byteLimiter
          [webPacket 5 4294967295, webPacket 6 2]).2 := by
  have decisions : (EventMachine.run (visitStep webFlow) byteLimiter
      [webPacket 5 4294967295, webPacket 6 2]).2 =
      [⟨5, 4294967295, .exceeded⟩, ⟨6, 2, .allow⟩] := by
    decide +kernel
  refine ⟨byte_window 4294967295 2 (by decide +kernel),
    by rw [decisions]; rfl, ?_⟩
  rw [decisions]
  intro truly
  have stays := truly.stays [] _ [] _ (List.prefix_refl _) rfl
  cases stays

end RateLimiter

end BlindNet
