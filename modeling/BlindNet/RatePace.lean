import BlindNet.RateWindows

/-!
# How many packets of a flow are allowed in any interval

A window of the rate limiter starts with a packet, not with the clock. An interval of one
window length meets at most two windows, since two starts are at least that far apart. Each
window allows its maximum, as long as its packet count does not wrap around.
-/

namespace BlindNet

set_option autoImplicit false

open FixedWindow

def allowedTimes (visits : List RateVisit) : List Nat :=
  (visits.filter fun visit => visit.decision == .allow).map RateVisit.uptime

theorem allowed_times_append (first second : List RateVisit) :
    allowedTimes (first ++ second) = allowedTimes first ++ allowedTimes second := by
  simp [allowedTimes]

def timesOf (bucketKey : BucketKey) (calls : List (Nat × RateCall)) : List Nat :=
  (packetsOf bucketKey calls).map Prod.fst

namespace RateLimiter

/-- A check or a sweep that reads the clock and leaves the flow its bucket. -/
structure Steady (bucketKey : BucketKey) (limiter : RateLimiter) (timed : Nat × RateCall) :
    Prop where
  fixed : timed.2.keepsRules = true
  clocked : ∀ ts size, timed.2 = .check ts bucketKey.key bucketKey.direction size →
    ts = nowMs32 timed.1
  kept : (limiter.counterOf bucketKey).isSome = true →
    ((limiter.call timed.2).counterOf bucketKey).isSome = true

/-- A run in the order of time, from before the first check of the flow. -/
structure SteadyRun (limiter : RateLimiter) (bucketKey : BucketKey)
    (calls : List (Nat × RateCall)) : Prop where
  ready : limiter.initialized = true
  absent : limiter.counterOf bucketKey = none
  ordered : calls.Pairwise fun earlier later => earlier.1 ≤ later.1
  steady : EventMachine.Guarded (visitStep bucketKey) (Steady bucketKey) limiter calls

/-- The packet count of the flow does not wrap around at this call. -/
def Countable (bucketKey : BucketKey) (limiter : RateLimiter) (timed : Nat × RateCall) : Prop :=
  ∀ ts size counter, timed.2 = .check ts bucketKey.key bucketKey.direction size →
    limiter.counterOf bucketKey = some counter →
    opens (limiter.limitsFor bucketKey) (some counter) ts = false →
    counter.packets.toNat + 1 < 2 ^ 32

variable {limiter : RateLimiter} {bucketKey : BucketKey}

/-! ## The checks of a flow alone -/

theorem held_visit (ready : limiter.initialized = true) {counter : Counter}
    (held : limiter.counterOf bucketKey = some counter) (uptime : Nat) (ts size : UInt32) :
    let next := limiter.visitStep bucketKey
      (uptime, .check ts bucketKey.key bucketKey.direction size)
    let arrived := arrive (limiter.limitsFor bucketKey) (some counter) ts size
    SameRules limiter next.1 ∧ next.1.counterOf bucketKey = some arrived ∧
      next.2 = [⟨uptime, size,
        if exceeded (limiter.limitsFor bucketKey) arrived then .exceeded else .allow⟩] := by
  intro next arrived
  obtain ⟨same, outcome⟩ := @visit_cases limiter ready bucketKey
    (uptime, .check ts bucketKey.key bucketKey.direction size) rfl
  have visited : next.2 ≠ [] := by simp [next, visitStep]
  apply And.intro same
  change VisitOutcome limiter next.1 bucketKey _ next.2 at outcome
  generalize next.2 = visits at outcome visited ⊢
  cases outcome with
  | other unchanged => exact absurd rfl visited
  | lost gone => exact absurd rfl visited
  | refused size absent still =>
      rw [absent] at held
      cases held
  | counted ts' size' isCheck counted =>
      cases isCheck
      rw [held] at counted
      exact ⟨counted, by rw [held]⟩

/-- A check of the flow itself never costs it its bucket. -/
theorem own_check_steady (ready : limiter.initialized = true) (uptime : Nat) (size : UInt32) :
    Steady bucketKey limiter
      (uptime, .check (nowMs32 uptime) bucketKey.key bucketKey.direction size) := by
  constructor
  · rfl
  · intro ts size' isCheck
    cases isCheck
    rfl
  · intro has
    obtain ⟨counter, held⟩ := Option.isSome_iff_exists.mp has
    have counted := (held_visit ready held uptime (nowMs32 uptime) size).2.1
    change (limiter.call (.check _ _ _ _)).counterOf bucketKey = _ at counted
    rw [counted]
    rfl

def ownChecks (bucketKey : BucketKey) (packets : List (Nat × UInt32)) : List (Nat × RateCall) :=
  packets.map fun packet =>
    (packet.1, .check (nowMs32 packet.1) bucketKey.key bucketKey.direction packet.2)

def countStep (limits : Limits) (counter : Counter) (packet : Nat × UInt32) :
    Counter × List RateVisit :=
  let next := arrive limits (some counter) (nowMs32 packet.1) packet.2
  (next, [⟨packet.1, packet.2, if exceeded limits next then .exceeded else .allow⟩])

theorem own_checks_run (packets : List (Nat × UInt32)) (limiter : RateLimiter)
    (ready : limiter.initialized = true) {counter : Counter}
    (held : limiter.counterOf bucketKey = some counter) :
    let after := EventMachine.run (visitStep bucketKey) limiter (ownChecks bucketKey packets)
    let count := EventMachine.run (countStep (limiter.limitsFor bucketKey)) counter packets
    SameRules limiter after.1 ∧ after.1.counterOf bucketKey = some count.1 ∧
      after.2 = count.2 := by
  induction packets generalizing limiter counter with
  | nil => exact ⟨⟨ready, rfl, rfl⟩, held, rfl⟩
  | cons packet rest induction =>
      obtain ⟨same, counted, visited⟩ :=
        held_visit ready held packet.1 (nowMs32 packet.1) packet.2
      obtain ⟨later, total, visits⟩ := induction _ same.ready counted
      rw [same.limits bucketKey] at total visits
      refine ⟨same.trans later, total, ?_⟩
      exact congr (congrArg HAppend.hAppend visited) visits

theorem own_checks_steady (packets : List (Nat × UInt32)) (limiter : RateLimiter)
    (ready : limiter.initialized = true) :
    EventMachine.Guarded (visitStep bucketKey) (Steady bucketKey) limiter
      (ownChecks bucketKey packets) := by
  induction packets generalizing limiter with
  | nil => exact trivial
  | cons packet rest induction =>
      have steady := @own_check_steady limiter bucketKey ready packet.1 packet.2
      have same := (visit_cases ready bucketKey steady.fixed).1
      exact ⟨steady, induction _ same.ready⟩

/-! ## Intervals and windows -/

theorem visit_paced (ready : limiter.initialized = true)
    (limited : 0 < (limiter.limitsFor bucketKey).maxPackets) {timed : Nat × RateCall}
    (steady : Steady bucketKey limiter timed) (countable : Countable bucketKey limiter timed)
    {now : Nat} {allowed : List Nat} (order : now ≤ timed.1)
    (paced : Paced (limiter.limitsFor bucketKey) (limiter.counterOf bucketKey) now allowed) :
    Paced (limiter.limitsFor bucketKey)
      ((limiter.visitStep bucketKey timed).1.counterOf bucketKey) timed.1
      (allowed ++ allowedTimes (limiter.visitStep bucketKey timed).2) := by
  have outcome := (visit_cases ready bucketKey steady.fixed).2
  have kept : (limiter.counterOf bucketKey).isSome = true →
      ((limiter.visitStep bucketKey timed).1.counterOf bucketKey).isSome = true := steady.kept
  generalize (limiter.visitStep bucketKey timed).2 = visits at outcome ⊢
  cases outcome with
  | other unchanged =>
      rw [unchanged]
      simpa [allowedTimes] using paced.wait order
  | lost gone =>
      have absent : limiter.counterOf bucketKey = none := by
        rw [gone] at kept
        exact Option.not_isSome_iff_eq_none.mp fun held => Bool.false_ne_true (kept held)
      rw [absent] at paced
      rw [gone]
      simpa [allowedTimes] using paced.wait order
  | refused size absent still =>
      rw [absent] at paced
      rw [still]
      simpa [allowedTimes] using paced.wait order
  | counted ts size isCheck arrived =>
      have isTime := steady.clocked ts size isCheck
      subst isTime
      have times : ∀ counter : Counter,
          allowedTimes [⟨timed.1, size,
            if exceeded (limiter.limitsFor bucketKey) counter then .exceeded else .allow⟩] =
          allowedTime (limiter.limitsFor bucketKey) counter timed.1 := by
        intro counter
        unfold allowedTime
        split_ifs
        · rfl
        · rfl
      rw [arrived, times]
      rcases opens_or_continues (limiter.limitsFor bucketKey) (limiter.counterOf bucketKey)
        (nowMs32 timed.1) with opening | ⟨counter, held, going⟩
      · rw [arrive_opens opening]
        exact paced.opened limited order opening size
      · rw [held] at paced ⊢
        rw [arrive_continues going]
        exact paced.continued limited order (countable _ size counter isCheck held going) size

theorem run_paced (calls : List (Nat × RateCall)) (limiter : RateLimiter)
    (ready : limiter.initialized = true)
    (limited : 0 < (limiter.limitsFor bucketKey).maxPackets)
    (ordered : calls.Pairwise fun earlier later => earlier.1 ≤ later.1)
    (steady : EventMachine.Guarded (visitStep bucketKey) (Steady bucketKey) limiter calls)
    (countable : EventMachine.Guarded (visitStep bucketKey) (Countable bucketKey) limiter calls)
    (now : Nat) (allowed : List Nat) (order : ∀ timed ∈ calls, now ≤ timed.1)
    (paced : Paced (limiter.limitsFor bucketKey) (limiter.counterOf bucketKey) now allowed) :
    ∃ counter last, Paced (limiter.limitsFor bucketKey) counter last
      (allowed ++ allowedTimes (EventMachine.run (visitStep bucketKey) limiter calls).2) := by
  induction calls generalizing limiter now allowed with
  | nil =>
      refine ⟨limiter.counterOf bucketKey, now, ?_⟩
      simpa [allowedTimes] using paced
  | cons timed rest induction =>
      obtain ⟨same, _⟩ := visit_cases ready bucketKey steady.1.fixed
      have sameLimits := same.limits bucketKey
      have next := visit_paced ready limited steady.1 countable.1
        (order timed List.mem_cons_self) paced
      rw [← sameLimits] at next limited
      obtain ⟨counter, last, later⟩ := induction _ same.ready limited
        (List.pairwise_cons.mp ordered).2 steady.2 countable.2 timed.1 _
        (List.pairwise_cons.mp ordered).1 next
      refine ⟨counter, last, ?_⟩
      rw [EventMachine.run_cons, allowed_times_append, ← List.append_assoc, ← sameLimits]
      exact later

/-- No interval of one window length has more than two windows' worth of allowed packets. -/
theorem sliding_bound {calls : List (Nat × RateCall)} (run : limiter.SteadyRun bucketKey calls)
    (limited : 0 < (limiter.paramsFor bucketKey).maxPackets)
    (countable : EventMachine.Guarded (visitStep bucketKey) (Countable bucketKey) limiter calls)
    (start : Nat) :
    inInterval (limiter.paramsFor bucketKey).windowMs.toNat start
        (allowedTimes (EventMachine.run (visitStep bucketKey) limiter calls).2) ≤
      2 * (limiter.paramsFor bucketKey).maxPackets.toNat := by
  have before : Paced (limiter.limitsFor bucketKey) (limiter.counterOf bucketKey) 0 [] := by
    rw [run.absent]
    rfl
  obtain ⟨counter, last, paced⟩ := run_paced calls limiter run.ready limited run.ordered
    run.steady countable 0 [] (fun _ _ => Nat.zero_le _) before
  exact paced.bounded start

def packetLimiter : RateLimiter := boot.init (some ⟨⟨1000, 1, 0⟩, 60000, true⟩)

theorem two_packets_bounded :
    packetLimiter.SteadyRun webFlow (ownChecks webFlow [(0, 0), (5, 0)]) ∧
      inInterval 1000 0 (allowedTimes (EventMachine.run (visitStep webFlow) packetLimiter
        (ownChecks webFlow [(0, 0), (5, 0)])).2) ≤ 2 * 1 := by
  have run : packetLimiter.SteadyRun webFlow (ownChecks webFlow [(0, 0), (5, 0)]) :=
    ⟨rfl, by decide +kernel, by simp [ownChecks], own_checks_steady _ packetLimiter rfl⟩
  have countable : EventMachine.Guarded (visitStep webFlow) (Countable webFlow) packetLimiter
      (ownChecks webFlow [(0, 0), (5, 0)]) := by
    refine ⟨?_, ?_, trivial⟩
    · intro ts size counter _ held _
      have absent : packetLimiter.counterOf webFlow = none := by decide +kernel
      rw [absent] at held
      cases held
    · intro ts size counter _ held _
      have isCounter : (packetLimiter.visitStep webFlow
          (0, .check (nowMs32 0) webFlow.key webFlow.direction 0)).1.counterOf webFlow =
          some ⟨0, 1, 0⟩ := by
        decide +kernel
      cases isCounter.symm.trans held
      decide
  exact ⟨run, sliding_bound run (by decide +kernel) countable 0⟩

/-! ## Before the clock wraps around -/

theorem window_positive (limiter : RateLimiter) (bucketKey : BucketKey) :
    0 < (limiter.limitsFor bucketKey).window.toNat := by
  unfold limitsFor paramsFor RateLimitParams.limits orDefaultWindow
  split_ifs with unset
  · exact Nat.zero_lt_succ 999
  · exact Nat.pos_of_ne_zero fun zero => unset (UInt32.toNat_inj.mp zero)

theorem visit_tallied (ready : limiter.initialized = true) {timed : Nat × RateCall}
    (steady : Steady bucketKey limiter timed) (small : timed.1 < 2 ^ 32) {now : Nat}
    {times : List Nat} (order : now ≤ timed.1)
    (tallied : Tallied (limiter.limitsFor bucketKey) (limiter.counterOf bucketKey) now times)
    (few : ∀ start, inInterval (limiter.limitsFor bucketKey).window.toNat start
      (times ++ timesOf bucketKey [timed]) < 2 ^ 32) :
    Countable bucketKey limiter timed ∧
      Tallied (limiter.limitsFor bucketKey)
        ((limiter.visitStep bucketKey timed).1.counterOf bucketKey) timed.1
        (times ++ timesOf bucketKey [timed]) := by
  constructor
  · intro ts size counter isCheck held going
    have isTime := steady.clocked ts size isCheck
    subst isTime
    rw [held] at tallied
    have times : timesOf bucketKey [timed] = [timed.1] := by
      simp [timesOf, packetsOf, isCheck]
    rw [times] at few
    exact (tallied.continued order small going few size).1
  · have outcome := (visit_cases ready bucketKey steady.fixed).2
    unfold timesOf at few ⊢
    rw [← visit_packets limiter] at few ⊢
    generalize (limiter.visitStep bucketKey timed).2 = visits at outcome few ⊢
    cases outcome with
    | other unchanged =>
        rw [unchanged, List.map_nil, List.map_nil, List.append_nil]
        exact tallied.wait order
    | lost gone =>
        rw [gone]
        intro held isHeld
        cases isHeld
    | refused size absent still =>
        rw [still]
        intro held isHeld
        cases isHeld
    | counted ts size isCheck arrived =>
        have isTime := steady.clocked ts size isCheck
        subst isTime
        rw [arrived]
        rcases opens_or_continues (limiter.limitsFor bucketKey) (limiter.counterOf bucketKey)
          (nowMs32 timed.1) with opening | ⟨counter, held, going⟩
        · rw [arrive_opens opening]
          exact Tallied.opened (window_positive limiter bucketKey) timed.1 times size
        · rw [held] at tallied ⊢
          rw [arrive_continues going]
          exact (tallied.continued order small going few size).2

theorem tallied_run_countable (calls : List (Nat × RateCall)) (limiter : RateLimiter)
    (ready : limiter.initialized = true)
    (ordered : calls.Pairwise fun earlier later => earlier.1 ≤ later.1)
    (steady : EventMachine.Guarded (visitStep bucketKey) (Steady bucketKey) limiter calls)
    (small : ∀ timed ∈ calls, timed.1 < 2 ^ 32) (now : Nat) (times : List Nat)
    (order : ∀ timed ∈ calls, now ≤ timed.1)
    (tallied : Tallied (limiter.limitsFor bucketKey) (limiter.counterOf bucketKey) now times)
    (few : ∀ start, inInterval (limiter.limitsFor bucketKey).window.toNat start
      (times ++ timesOf bucketKey calls) < 2 ^ 32) :
    EventMachine.Guarded (visitStep bucketKey) (Countable bucketKey) limiter calls := by
  induction calls generalizing limiter now times with
  | nil => exact trivial
  | cons timed rest induction =>
      obtain ⟨same, _⟩ := visit_cases ready bucketKey steady.1.fixed
      have sameLimits := same.limits bucketKey
      have split : timesOf bucketKey (timed :: rest) =
          timesOf bucketKey [timed] ++ timesOf bucketKey rest := by
        unfold timesOf
        rw [packets_of_cons, List.map_append]
      rw [split, ← List.append_assoc] at few
      have fewNow : ∀ start, inInterval (limiter.limitsFor bucketKey).window.toNat start
          (times ++ timesOf bucketKey [timed]) < 2 ^ 32 := by
        intro start
        have total := few start
        rw [in_interval_append] at total
        omega
      obtain ⟨countable, next⟩ := visit_tallied ready steady.1
        (small timed List.mem_cons_self) (order timed List.mem_cons_self) tallied fewNow
      rw [← sameLimits] at next few
      apply And.intro countable
      exact induction _ same.ready (List.pairwise_cons.mp ordered).2 steady.2
        (fun other member => small other (List.mem_cons_of_mem _ member)) timed.1 _
        (List.pairwise_cons.mp ordered).1 next few

/-- Before the clock wraps around, a flow with fewer than 2^32 checks in any window length
does not fill its packet count. -/
theorem SteadyRun.countable {calls : List (Nat × RateCall)}
    (run : limiter.SteadyRun bucketKey calls) (small : ∀ timed ∈ calls, timed.1 < 2 ^ 32)
    (few : ∀ start, inInterval (limiter.paramsFor bucketKey).windowMs.toNat start
      (timesOf bucketKey calls) < 2 ^ 32) :
    EventMachine.Guarded (visitStep bucketKey) (Countable bucketKey) limiter calls := by
  apply tallied_run_countable calls limiter run.ready run.ordered run.steady small 0 []
    (fun _ _ => Nat.zero_le _)
  · rw [run.absent]
    intro held isHeld
    cases isHeld
  · exact few

/-! ## A packet count that wraps around -/

theorem repeated_count {limits : Limits} {counter : Counter} {uptime : Nat}
    (going : opens limits (some counter) (nowMs32 uptime) = false) (count : Nat) :
    (EventMachine.run (countStep limits) counter (List.replicate count (uptime, 0))).1 =
      ⟨counter.start, counter.packets + UInt32.ofNat count, counter.bytes⟩ := by
  induction count generalizing counter with
  | zero => simp
  | succ count induction =>
      have counted : (countStep limits counter (uptime, 0)).1 =
          ⟨counter.start, counter.packets + 1, counter.bytes + 0⟩ := arrive_continues going 0
      have next : counter.packets + 1 + UInt32.ofNat count =
          counter.packets + UInt32.ofNat (count + 1) := by
        rw [UInt32.ofNat_add, UInt32.add_assoc, UInt32.add_comm 1]
        rfl
      have later := @induction ⟨counter.start, counter.packets + 1, counter.bytes + 0⟩ going
      rw [List.replicate_succ, EventMachine.run_cons, counted, later, next, UInt32.add_zero]

def flood (count : Nat) : List (Nat × UInt32) :=
  (0, 0) :: (List.replicate count (0, 0) ++ [(4294968295, 0), (4294968295, 0), (4294968296, 0)])

theorem flood_steady (count : Nat) :
    packetLimiter.SteadyRun webFlow (ownChecks webFlow (flood count)) := by
  refine ⟨rfl, by decide +kernel, ?_, own_checks_steady (flood count) packetLimiter rfl⟩
  unfold ownChecks
  rw [List.pairwise_map]
  apply List.pairwise_cons.mpr
  constructor
  · intro later _
    exact Nat.zero_le _
  · apply List.pairwise_append.mpr
    refine ⟨List.pairwise_replicate.mpr (.inr (Nat.le_refl 0)), by decide, ?_⟩
    intro earlier member later _
    rw [List.eq_of_mem_replicate member]
    exact Nat.zero_le _

theorem flood_few {count : Nat} (few : count < 2 ^ 32 - 1) (start : Nat) :
    inInterval 1000 start (timesOf webFlow (ownChecks webFlow (flood count))) < 2 ^ 32 := by
  have times : timesOf webFlow (ownChecks webFlow (flood count)) =
      List.replicate (count + 1) 0 ++ [4294968295, 4294968295, 4294968296] := by
    simp [timesOf, packetsOf, ownChecks, flood, List.replicate_succ]
  rw [times, in_interval_append]
  cases start with
  | zero =>
      have early := in_interval_le 1000 0 (List.replicate (count + 1) 0)
      have late : inInterval 1000 0 [4294968295, 4294968295, 4294968296] = 0 := by decide
      rw [List.length_replicate] at early
      omega
  | succ start =>
      have early : inInterval 1000 (start + 1) (List.replicate (count + 1) 0) = 0 := by
        apply in_interval_zero
        intro time member
        rw [List.eq_of_mem_replicate member]
        exact .inl (Nat.succ_pos start)
      have late := in_interval_le 1000 (start + 1) [4294968295, 4294968295, 4294968296]
      simp only [List.length_cons, List.length_nil] at late
      omega

/-- The count has wrapped around to zero, and the window is a new one for the last packet. -/
theorem flood_allowed {count : Nat} (wraps : UInt32.ofNat count = 4294967294) :
    ∃ early, (EventMachine.run (visitStep webFlow) packetLimiter
      (ownChecks webFlow (flood count))).2 =
        early ++ [⟨4294968295, 0, .allow⟩, ⟨4294968295, 0, .allow⟩, ⟨4294968296, 0, .allow⟩] := by
  let first := packetLimiter.visitStep webFlow
    (0, .check (nowMs32 0) webFlow.key webFlow.direction 0)
  have held : first.1.counterOf webFlow = some ⟨0, 1, 0⟩ := by decide +kernel
  have limits : first.1.limitsFor webFlow = ⟨1000, 1, 0⟩ := by decide +kernel
  have ready : first.1.initialized = true := by decide +kernel
  obtain ⟨_, _, visits⟩ := own_checks_run
    (List.replicate count (0, 0) ++ [(4294968295, 0), (4294968295, 0), (4294968296, 0)])
    first.1 ready held
  rw [limits, EventMachine.run_append, repeated_count (by decide) count, wraps] at visits
  refine ⟨first.2 ++ (EventMachine.run (countStep ⟨1000, 1, 0⟩) ⟨0, 1, 0⟩
    (List.replicate count (0, 0))).2, ?_⟩
  rw [List.append_assoc]
  exact congrArg (first.2 ++ ·) visits

/-- Three packets are allowed within a second, where one is allowed in each window. -/
theorem flood_breaks_bound :
    packetLimiter.SteadyRun webFlow (ownChecks webFlow (flood 4294967294)) ∧
      (packetLimiter.paramsFor webFlow).windowMs = 1000 ∧
      (packetLimiter.paramsFor webFlow).maxPackets = 1 ∧
      (∀ start, inInterval 1000 start
        (timesOf webFlow (ownChecks webFlow (flood 4294967294))) < 2 ^ 32) ∧
      2 * 1 < inInterval 1000 4294968295
        (allowedTimes (EventMachine.run (visitStep webFlow) packetLimiter
          (ownChecks webFlow (flood 4294967294))).2) := by
  refine ⟨flood_steady _, by decide +kernel, by decide +kernel, flood_few (by decide), ?_⟩
  obtain ⟨early, visits⟩ := @flood_allowed 4294967294 rfl
  rw [visits, allowed_times_append, in_interval_append]
  have last : inInterval 1000 4294968295 (allowedTimes
      [⟨4294968295, 0, .allow⟩, ⟨4294968295, 0, .allow⟩, ⟨4294968296, 0, .allow⟩]) = 3 := by
    decide
  omega

end RateLimiter

end BlindNet
