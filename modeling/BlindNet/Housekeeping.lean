import BlindNet.RateWindows
import BlindNet.PolicySweeps
import BlindNet.QuarantineSweeps

/-!
# Housekeeping

The rate limiter frees buckets that were idle for long. A run with sweeps is compared with
the same run without them. A bucket that stays is idle for longer than any window, so that
the next check of its flow starts a new window in it, which is what a new bucket does. With
the engines for quarantines and policies this makes all housekeeping invisible.
-/

namespace BlindNet

set_option autoImplicit false

open SlotTable FixedWindow

def RateCall.reading : RateCall → Option UInt32
  | .check ts _ _ _ => some ts
  | .expireOld ts => some ts
  | _ => none

def RateCall.isSweep : RateCall → Bool
  | .expireOld _ => true
  | _ => false

def RateCall.isCheck : RateCall → Bool
  | .check _ _ _ _ => true
  | _ => false

namespace RateLimiter

def hasRoom (limiter : RateLimiter) : Bool := (findEmpty limiter.buckets.slots).isSome

def answerStep (limiter : RateLimiter) (call : RateCall) :
    RateLimiter × List (Result Unit × RateLimitResult) :=
  (limiter.call call,
    match call with
    | .check ts key direction packetBytes =>
        [((limiter.check ts key direction packetBytes).1,
          (limiter.check ts key direction packetBytes).2.1)]
    | _ => [])

/-- A bucket may be idle for as long as the window of any rule, and of the default. -/
structure IdleCoversWindows (limiter : RateLimiter) : Prop where
  default : (orDefaultWindow limiter.config.defaultParams 1000).windowMs ≤
    limiter.config.maxIdleMs
  rules : ∀ index rule, limiter.rules.get index = some rule →
    (orDefaultWindow rule.params 1000).windowMs ≤ limiter.config.maxIdleMs

theorem IdleCoversWindows.window_le {limiter : RateLimiter} (covers : limiter.IdleCoversWindows)
    (bucketKey : BucketKey) :
    (limiter.limitsFor bucketKey).window ≤ limiter.config.maxIdleMs := by
  change (limiter.paramsFor bucketKey).windowMs ≤ _
  unfold paramsFor
  cases found : limiter.findBestRuleLocked bucketKey.key bucketKey.direction with
  | none => exact covers.default
  | some rule =>
      obtain ⟨index, best⟩ := best_match_some found
      exact covers.rules index rule best.held

theorem IdleCoversWindows.of_same {limiter next : RateLimiter} (covers : limiter.IdleCoversWindows)
    (same : SameRules limiter next) : next.IdleCoversWindows := by
  constructor
  · rw [same.config]
    exact covers.default
  · intro index rule held
    rw [same.rules] at held
    rw [same.config]
    exact covers.rules index rule held

theorem answer_of_counter {limiter plain : RateLimiter} (config : limiter.config = plain.config)
    (rules : limiter.rules = plain.rules) {bucketKey : BucketKey} {ts packetBytes : UInt32}
    (same : (limiter.counted bucketKey ts packetBytes).counter =
      (plain.counted bucketKey ts packetBytes).counter) :
    limiter.answer bucketKey ts packetBytes = plain.answer bucketKey ts packetBytes := by
  have sameParams := params_for_congr config rules bucketKey
  have sameRule : limiter.findBestRuleLocked bucketKey.key bucketKey.direction =
      plain.findBestRuleLocked bucketKey.key bucketKey.direction := by
    unfold findBestRuleLocked
    rw [rules]
  simp only [RateBucket.counter, Counter.mk.injEq] at same
  obtain ⟨_, packets, bytes⟩ := same
  unfold answer paramsExceeded fillResult
  simp only [sameParams, sameRule, packets, bytes, Option.map_some, Option.getD_some]

/-- The times in a bucket are in order, and none lies ahead of a call to come. -/
structure Timely (readings : List UInt32) (bucket : RateBucket) : Prop where
  started : bucket.windowStartMs ≤ bucket.lastSeenMs
  seen : ∀ ts ∈ readings, bucket.lastSeenMs ≤ ts

/-- The bucket of a flow in a run with sweeps and in the plain run: alike, or swept there and
idle here for all calls to come. -/
inductive Rested (maxIdleMs : UInt32) (readings : List UInt32) :
    Option RateBucket → Option RateBucket → Prop
  | absent : Rested maxIdleMs readings none none
  | alike (bucket other : RateBucket) (same : bucket.counter = other.counter)
      (sameSeen : bucket.lastSeenMs = other.lastSeenMs) (timely : Timely readings other) :
      Rested maxIdleMs readings (some bucket) (some other)
  | swept (other : RateBucket) (timely : Timely readings other)
      (idle : ∀ ts ∈ readings, maxIdleMs < ts - other.lastSeenMs) :
      Rested maxIdleMs readings none (some other)

variable {maxIdleMs : UInt32} {readings : List UInt32} {bucket other : Option RateBucket}

theorem Rested.mono {later : List UInt32} (rested : Rested maxIdleMs readings bucket other)
    (fewer : later ⊆ readings) : Rested maxIdleMs later bucket other := by
  cases rested with
  | absent => exact .absent
  | alike bucket other same sameSeen timely =>
      exact .alike bucket other same sameSeen
        ⟨timely.started, fun ts member => timely.seen ts (fewer member)⟩
  | swept other timely idle =>
      exact .swept other ⟨timely.started, fun ts member => timely.seen ts (fewer member)⟩
        fun ts member => idle ts (fewer member)

theorem idle_later {seen ts later : UInt32} (recent : seen ≤ ts) (order : ts ≤ later)
    (idle : maxIdleMs < ts - seen) : maxIdleMs < later - seen := by
  have recentLater := UInt32.le_trans recent order
  rw [UInt32.lt_iff_toNat_lt, UInt32.toNat_sub_of_le _ _ recent] at idle
  rw [UInt32.lt_iff_toNat_lt, UInt32.toNat_sub_of_le _ _ recentLater]
  have orderNat := UInt32.le_iff_toNat_le.mp order
  omega

/-- A window no longer than the idle time is over when the bucket was idle. -/
theorem idle_window_over {window start seen ts : UInt32} (covered : window ≤ maxIdleMs)
    (started : start ≤ seen) (recent : seen ≤ ts) (idle : maxIdleMs < ts - seen) :
    window ≤ ts - start := by
  rw [UInt32.lt_iff_toNat_lt, UInt32.toNat_sub_of_le _ _ recent] at idle
  rw [UInt32.le_iff_toNat_le, UInt32.toNat_sub_of_le _ _ (UInt32.le_trans started recent)]
  have coveredNat := UInt32.le_iff_toNat_le.mp covered
  have startedNat := UInt32.le_iff_toNat_le.mp started
  omega

theorem Rested.sweep {ts : UInt32} (rested : Rested maxIdleMs (ts :: readings) bucket other)
    (later : ∀ now ∈ readings, ts ≤ now) :
    Rested maxIdleMs readings
      (bucket.filter fun held => !decide (maxIdleMs < ts - held.lastSeenMs)) other := by
  have rest := rested.mono (List.subset_cons_self ts readings)
  cases rested with
  | absent => exact .absent
  | swept other timely idle => exact rest
  | alike bucket other same sameSeen timely =>
      rw [Option.filter_some]
      by_cases idle : maxIdleMs < ts - bucket.lastSeenMs
      · rw [decide_eq_true idle]
        rw [sameSeen] at idle
        apply Rested.swept other
        · exact ⟨timely.started, fun now member => timely.seen now (List.mem_cons_of_mem _ member)⟩
        · intro now member
          exact idle_later (timely.seen ts List.mem_cons_self) (later now member) idle
      · rw [decide_eq_false idle]
        exact rest

theorem Rested.arrive {limits : Limits} {ts : UInt32}
    (rested : Rested maxIdleMs (ts :: readings) bucket other)
    (covered : limits.window ≤ maxIdleMs) (size : UInt32) :
    FixedWindow.arrive limits (bucket.map RateBucket.counter) ts size =
      FixedWindow.arrive limits (other.map RateBucket.counter) ts size := by
  cases rested with
  | absent => rfl
  | alike bucket other same sameSeen timely => rw [Option.map_some, Option.map_some, same]
  | swept other timely idle =>
      have opening : opens limits (some other.counter) ts = true :=
        decide_eq_true (idle_window_over covered timely.started
          (timely.seen ts List.mem_cons_self) (idle ts List.mem_cons_self))
      rw [Option.map_some, arrive_opens opening]
      rfl

theorem Rested.arrive_start {limits : Limits} {ts : UInt32}
    (rested : Rested maxIdleMs (ts :: readings) bucket other) (size : UInt32) :
    (FixedWindow.arrive limits (other.map RateBucket.counter) ts size).start ≤ ts := by
  have held : ∀ held, other = some held → held.windowStartMs ≤ ts := by
    intro held isHeld
    cases rested with
    | absent => cases isHeld
    | alike _ _ _ _ timely =>
        cases isHeld
        exact UInt32.le_trans timely.started (timely.seen ts List.mem_cons_self)
    | swept _ timely _ =>
        cases isHeld
        exact UInt32.le_trans timely.started (timely.seen ts List.mem_cons_self)
  cases other with
  | none => exact UInt32.le_refl ts
  | some bucket =>
      cases opening : opens limits (some bucket.counter) ts with
      | true =>
          rw [Option.map_some, arrive_opens opening]
          exact UInt32.le_refl ts
      | false =>
          rw [Option.map_some, arrive_continues opening]
          exact held bucket rfl

/-- The state of a run with sweeps beside that of the plain run. -/
structure Swept (rest : List RateCall) (limiter plain : RateLimiter) : Prop where
  ready : limiter.initialized = true
  plainReady : plain.initialized = true
  config : limiter.config = plain.config
  rules : limiter.rules = plain.rules
  covers : plain.IdleCoversWindows
  ordered : (rest.filterMap RateCall.reading).Pairwise (· ≤ ·)
  calls : ∀ call ∈ rest, call.isCheck = true ∨ call.isSweep = true
  room : EventMachine.Guarded answerStep (fun limiter _ => limiter.hasRoom = true) plain
    (rest.filter fun call => !call.isSweep)
  buckets : ∀ bucketKey, Rested plain.config.maxIdleMs (rest.filterMap RateCall.reading)
    (limiter.lookup bucketKey) (plain.lookup bucketKey)

theorem Swept.has_room {rest : List RateCall} {limiter plain : RateLimiter}
    (swept : Swept rest limiter plain) (room : plain.hasRoom = true) :
    limiter.hasRoom = true := by
  obtain ⟨index, free⟩ := Option.isSome_iff_exists.mp room
  have fewer : ∀ bucketKey, plain.buckets.lookup bucketKey = none →
      limiter.buckets.lookup bucketKey = none := by
    intro bucketKey missing
    have rested := swept.buckets bucketKey
    rw [show plain.lookup bucketKey = none from missing] at rested
    generalize here : limiter.lookup bucketKey = bucket at rested
    cases rested
    exact here
  exact Option.isSome_iff_exists.mpr (Keyed.room_of_fewer fewer free)

theorem Swept.swept {ts : UInt32} {rest : List RateCall} {limiter plain : RateLimiter}
    (swept : Swept (.expireOld ts :: rest) limiter plain) :
    Swept rest (limiter.expireOld ts).2 plain := by
  obtain ⟨ready, plainReady, config, rules, covers, ordered, calls, room, buckets⟩ := swept
  obtain ⟨later, orderedRest⟩ := List.pairwise_cons.mp ordered
  obtain ⟨running, sameConfig, sameRules, changed⟩ := expire_old_spec ready ts
  refine ⟨running, plainReady, sameConfig.trans config, sameRules.trans rules, covers, orderedRest,
    fun call member => calls call (List.mem_cons_of_mem _ member), room, ?_⟩
  intro bucketKey
  rw [changed, config]
  exact (buckets bucketKey).sweep later

theorem Swept.checked {ts packetBytes : UInt32} {key : FlowKey} {direction : FlowDirection}
    {rest : List RateCall} {limiter plain : RateLimiter}
    (swept : Swept (.check ts key direction packetBytes :: rest) limiter plain) :
    (limiter.answerStep (.check ts key direction packetBytes)).2 =
        (plain.answerStep (.check ts key direction packetBytes)).2 ∧
      Swept rest (limiter.answerStep (.check ts key direction packetBytes)).1
        (plain.answerStep (.check ts key direction packetBytes)).1 := by
  have roomHere := swept.has_room
  obtain ⟨ready, plainReady, config, rules, covers, ordered, calls, room, buckets⟩ := swept
  rw [List.filter_cons_of_pos rfl] at room
  obtain ⟨later, orderedRest⟩ := List.pairwise_cons.mp ordered
  obtain ⟨running, sameConfig, sameRules, done, answered, changed⟩ := check_free_spec ready
    (Option.isSome_iff_exists.mp (roomHere room.1)) ⟨key, direction⟩ ts packetBytes
  obtain ⟨plainRunning, plainConfig, plainRules, plainDone, plainAnswered, plainChanged⟩ :=
    check_free_spec plainReady (Option.isSome_iff_exists.mp room.1) ⟨key, direction⟩ ts packetBytes
  have same : SameRules limiter (limiter.check ts key direction packetBytes).2.2 :=
    ⟨running, sameConfig, sameRules⟩
  have plainSame : SameRules plain (plain.check ts key direction packetBytes).2.2 :=
    ⟨plainRunning, plainConfig, plainRules⟩
  have sameLimits : limiter.limitsFor ⟨key, direction⟩ = plain.limitsFor ⟨key, direction⟩ := by
    unfold limitsFor
    rw [params_for_congr config rules]
  have covered := covers.window_le ⟨key, direction⟩
  have counters := (buckets ⟨key, direction⟩).arrive covered packetBytes
  constructor
  · have sameAnswer : limiter.answer ⟨key, direction⟩ ts packetBytes =
        plain.answer ⟨key, direction⟩ ts packetBytes := by
      apply answer_of_counter config rules
      rw [counted_counter, counted_counter, sameLimits]
      exact counters
    simp only [answerStep]
    rw [done, answered, plainDone, plainAnswered, sameAnswer]
  · refine ⟨same.ready, plainSame.ready, same.config.trans (config.trans plainSame.config.symm),
      same.rules.trans (rules.trans plainSame.rules.symm), covers.of_same plainSame, orderedRest,
      fun call member => calls call (List.mem_cons_of_mem _ member), room.2, ?_⟩
    intro other
    change Rested (plain.check ts key direction packetBytes).2.2.config.maxIdleMs _
      ((limiter.check ts key direction packetBytes).2.2.lookup other)
      ((plain.check ts key direction packetBytes).2.2.lookup other)
    rw [changed, plainChanged, plainSame.config]
    split_ifs
    · apply Rested.alike
      · rw [settled_counter, settled_counter, sameLimits]
        exact counters
      · rw [settled_seen, settled_seen]
      · constructor
        · rw [settled_seen]
          change (plain.settled ⟨key, direction⟩ ts packetBytes).counter.start ≤ ts
          rw [settled_counter]
          exact (buckets ⟨key, direction⟩).arrive_start packetBytes
        · intro now member
          rw [settled_seen]
          exact later now member
    · exact (buckets other).mono (List.subset_cons_self _ _)

/-- A limiter that is not in use answers every check with the same error. -/
def offAnswer : RateCall → List (Result Unit × RateLimitResult)
  | .check _ _ _ _ => [(.error .invalidArg, invalidResult)]
  | _ => []

theorem off_step (limiter : RateLimiter) (call : RateCall) (off : limiter.initialized = false)
    (kind : call.isCheck = true ∨ call.isSweep = true) :
    (limiter.answerStep call).1.initialized = false ∧
      (limiter.answerStep call).2 = offAnswer call := by
  cases call with
  | check ts key direction packetBytes =>
      simp [answerStep, RateLimiter.call, check, off, offAnswer]
  | expireOld ts => simp [answerStep, RateLimiter.call, expireOld, off, offAnswer]
  | init config => simp [RateCall.isCheck, RateCall.isSweep] at kind
  | reset => simp [RateCall.isCheck, RateCall.isSweep] at kind
  | addRule rule => simp [RateCall.isCheck, RateCall.isSweep] at kind
  | removeRule ruleId => simp [RateCall.isCheck, RateCall.isSweep] at kind

/-- Checks and sweeps in the order of their 32-bit times, from a table that was filled
before them. Without the sweeps the table never fills. -/
structure CheckRun (limiter : RateLimiter) (calls : List RateCall) : Prop where
  covers : limiter.IdleCoversWindows
  timely : ∀ bucketKey bucket, limiter.lookup bucketKey = some bucket →
    Timely (calls.filterMap RateCall.reading) bucket
  kinds : ∀ call ∈ calls, call.isCheck = true ∨ call.isSweep = true
  ordered : (calls.filterMap RateCall.reading).Pairwise (· ≤ ·)
  room : EventMachine.Guarded answerStep (fun limiter _ => limiter.hasRoom = true) limiter
    (calls.filter fun call => !call.isSweep)

/-- Sweeps of idle buckets change no answer. -/
theorem sweep_invisible (limiter : RateLimiter) (calls : List RateCall)
    (run : limiter.CheckRun calls) :
    (EventMachine.run answerStep limiter calls).2 =
      (EventMachine.run answerStep limiter (calls.filter fun call => !call.isSweep)).2 := by
  cases ready : limiter.initialized with
  | true =>
      apply EventMachine.run_skipping answerStep RateCall.isSweep Swept
      · intro call rest state plain isSweep swept
        cases call with
        | expireOld ts => exact ⟨rfl, swept.swept⟩
        | _ => cases isSweep
      · intro call rest state plain notSweep swept
        have kind := swept.calls call List.mem_cons_self
        rw [notSweep] at kind
        cases call with
        | check ts key direction packetBytes => exact swept.checked
        | _ => simp [RateCall.isCheck] at kind
      · refine ⟨ready, ready, rfl, rfl, run.covers, run.ordered, run.kinds, run.room, ?_⟩
        intro bucketKey
        cases held : limiter.lookup bucketKey with
        | none => exact .absent
        | some bucket => exact .alike bucket bucket rfl rfl (run.timely bucketKey bucket held)
  | false =>
      apply EventMachine.run_skipping_rest answerStep RateCall.isSweep _ _ offAnswer off_step
        _ calls limiter ready run.kinds
      intro call isSweep
      cases call with
      | expireOld ts => rfl
      | _ => cases isSweep

end RateLimiter

/-- Calls that only free what is too old change no answer of the security engines. -/
theorem housekeeping_invisible :
    (∀ (limiter : RateLimiter) (calls : List RateCall), limiter.CheckRun calls →
      (EventMachine.run RateLimiter.answerStep limiter calls).2 =
        (EventMachine.run RateLimiter.answerStep limiter
          (calls.filter fun call => !call.isSweep)).2) ∧
    (∀ (manager : QuarantineManager) (calls : List QuarantineCall), manager.UseRun calls →
      (EventMachine.run QuarantineManager.checkStep manager calls).2 =
        (EventMachine.run QuarantineManager.checkStep manager
          (calls.filter fun call => !call.isSweep)).2) ∧
    ∀ (engine : PolicyEngine) (calls : List PolicyCall), PolicyEngine.EvaluationRun calls →
      (EventMachine.run PolicyEngine.decisionStep engine calls).2 =
        (EventMachine.run PolicyEngine.decisionStep engine
          (calls.filter fun call => !call.isExpiry)).2 :=
  ⟨RateLimiter.sweep_invisible, QuarantineManager.sweep_invisible, PolicyEngine.expiry_invisible⟩

def sweptChecks : List RateCall :=
  [(RateLimiter.webPacket 5 600).2, .expireOld 70000, (RateLimiter.webPacket 70001 600).2]

def sweptQuarantine : List QuarantineCall :=
  [.add 5 (.ip 0xC0A80409) .blockAll .manual 1000 50 [], .expireOld 2000,
    .check 2001 (.ip 0xC0A80409)]

/-- An engine whose one rule denies until it expires. -/
def expiringPolicy : PolicyEngine :=
  ((PolicyEngine.boot.init none).addRule ⟨0, true, 100, ⟨.zoneToUplink, 0, 0, 0, 0, 0, 0, 0⟩,
    .deny, 50, false, 6, List.Vector.replicate 48 0⟩).2

def sweptPolicies : List PolicyCall :=
  [.evaluate 5 RateLimiter.webFlow.key .zoneToUplink, .expireRules 6,
    .evaluate 7 RateLimiter.webFlow.key .zoneToUplink]

theorem swept_checks_run : RateLimiter.byteLimiter.CheckRun sweptChecks := by
  constructor
  · constructor
    · decide +kernel
    · intro index rule held
      change (List.Vector.replicate _ none).get index = some rule at held
      rw [List.Vector.get_replicate] at held
      cases held
  · intro bucketKey bucket held
    change (Keyed.empty : Keyed RateBucket RateBucket.bucketKey _).lookup bucketKey = _ at held
    rw [Keyed.lookup_empty] at held
    cases held
  · simp [sweptChecks, RateLimiter.webPacket, RateCall.isCheck, RateCall.isSweep]
  · decide +kernel
  · exact ⟨by decide +kernel, by decide +kernel, trivial⟩

theorem sweeps_between_calls :
    (EventMachine.run RateLimiter.answerStep RateLimiter.byteLimiter sweptChecks).2 =
        (EventMachine.run RateLimiter.answerStep RateLimiter.byteLimiter
          (sweptChecks.filter fun call => !call.isSweep)).2 ∧
      (EventMachine.run QuarantineManager.checkStep (QuarantineManager.boot.init none)
          sweptQuarantine).2 =
        (EventMachine.run QuarantineManager.checkStep (QuarantineManager.boot.init none)
          (sweptQuarantine.filter fun call => !call.isSweep)).2 ∧
      (EventMachine.run PolicyEngine.decisionStep expiringPolicy sweptPolicies).2 =
        (EventMachine.run PolicyEngine.decisionStep expiringPolicy
          (sweptPolicies.filter fun call => !call.isExpiry)).2 ∧
      (EventMachine.run PolicyEngine.decisionStep expiringPolicy sweptPolicies).2.map
        (fun answer => answer.2.action) = [.deny, .allow] := by
  refine ⟨housekeeping_invisible.1 _ _ swept_checks_run,
    housekeeping_invisible.2.1 _ _ ⟨?_, ?_, ?_⟩, housekeeping_invisible.2.2 _ _ ⟨?_, ?_⟩, ?_⟩
  · simp [sweptQuarantine, QuarantineCall.isUse, QuarantineCall.isSweep, QuarantineCall.sweep]
  · decide +kernel
  · exact ⟨by decide +kernel, by decide +kernel, trivial⟩
  · simp [sweptPolicies, PolicyCall.isEvaluation, PolicyCall.isExpiry]
  · decide +kernel
  · decide +kernel

end BlindNet
