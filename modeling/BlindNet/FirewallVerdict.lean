import BlindNet.ZoneFirewall

/-!
# Verdicts of the zone firewall

What each stage of an evaluation can answer, and from that the verdict of the whole
evaluation as a function of the quarantine, the selected policy and the rate limit.
-/

namespace BlindNet

set_option autoImplicit false

namespace Security

def SourceBlocked (clock : FirewallClock) (state : Security) (packet : FlowPacket) : Prop :=
  state.quarantine.initialized = true ∧
    state.quarantine.Quarantines (.ip packet.key.srcIp) .blockAll clock.quarantine

def selectedAction (clock : FirewallClock) (state : Security) (packet : FlowPacket) :
    PolicyAction :=
  (state.policies.decision clock.policy packet.key packet.direction).action

def RateExceeded (clock : FirewallClock) (state : Security) (packet : FlowPacket) : Prop :=
  (state.rates.check clock.rate packet.key packet.direction packet.bytes).1 = .ok () ∧
    (state.rates.check clock.rate packet.key packet.direction packet.bytes).2.1.decision = .exceeded

instance (clock : FirewallClock) (state : Security) (packet : FlowPacket) :
    Decidable (RateExceeded clock state packet) :=
  inferInstanceAs (Decidable (_ ∧ _))

structure Ready (state : Security) : Prop where
  firewall : state.firewall.initialized = true
  flows : state.flows.initialized = true
  quarantine : state.quarantine.initialized = true
  policies : state.policies.initialized = true
  rates : state.rates.initialized = true

/-- One of the three counters moves by one, the other two stay. -/
def CountedAs (before after : ZoneFirewallStats) : ZoneFirewallVerdict → Prop
  | .allow | .logOnly =>
      after.allowed = before.allowed + 1 ∧ after.dropped = before.dropped ∧
        after.redirected = before.redirected
  | .drop =>
      after.allowed = before.allowed ∧ after.dropped = before.dropped + 1 ∧
        after.redirected = before.redirected
  | .redirect =>
      after.allowed = before.allowed ∧ after.dropped = before.dropped ∧
        after.redirected = before.redirected + 1

structure Settles (before : ZoneFirewallStats) (outcome : Evaluation)
    (verdict : ZoneFirewallVerdict) : Prop where
  answered : ∃ decision, outcome.1 = .ok decision ∧ decision.verdict = verdict
  evaluations : outcome.2.1.firewall.stats.evaluations = before.evaluations
  counted : CountedAs before outcome.2.1.firewall.stats verdict

def passVerdict (exceeded : Prop) [Decidable exceeded] (action : PolicyAction) :
    ZoneFirewallVerdict :=
  if exceeded then .drop else if action = .logOnly then .logOnly else .allow

theorem rate_dropped_settles (clock : FirewallClock) (state : Security) (packet : FlowPacket)
    (decision : ZoneFirewallDecision) (result : RateLimitResult) :
    Settles state.firewall.stats (rateDropped clock state packet decision result) .drop := by
  unfold rateDropped
  simp only
  -- a quarantine of the source leaves the counters of the firewall alone
  split
  · exact ⟨⟨_, rfl, rfl⟩, rfl, rfl, rfl, rfl⟩
  · exact ⟨⟨_, rfl, rfl⟩, rfl, rfl, rfl, rfl⟩

theorem passed_settles (state : Security) (packet : FlowPacket)
    (decision : ZoneFirewallDecision) :
    Settles state.firewall.stats (passed state packet decision)
      (if decision.policyAction = .logOnly then .logOnly else .allow) := by
  unfold passed
  simp only
  split
  · exact ⟨⟨_, rfl, rfl⟩, rfl, rfl, rfl, rfl⟩
  · exact ⟨⟨_, rfl, rfl⟩, rfl, rfl, rfl, rfl⟩

theorem rate_stage_settles (clock : FirewallClock) (state : Security) (packet : FlowPacket)
    (decision : ZoneFirewallDecision) :
    Settles state.firewall.stats (rateStage clock state packet decision)
      (passVerdict (RateExceeded clock state packet) decision.policyAction) := by
  let checked := state.rates.check clock.rate packet.key packet.direction packet.bytes
  by_cases exceeded : RateExceeded clock state packet
  · rw [passVerdict, if_pos exceeded, rateStage, if_pos (show _ ∧ _ from exceeded)]
    exact rate_dropped_settles clock { state with rates := checked.2.2 } packet decision checked.2.1
  · rw [passVerdict, if_neg exceeded, rateStage, if_neg (show ¬ (_ ∧ _) from exceeded)]
    exact passed_settles { state with rates := checked.2.2 } packet decision

def actionVerdict (exceeded : Prop) [Decidable exceeded] : PolicyAction → ZoneFirewallVerdict
  | .deny | .quarantine => .drop
  | .redirect => .redirect
  | action => passVerdict exceeded action

theorem apply_policy_settles (clock : FirewallClock) (state : Security) (packet : FlowPacket)
    {decision : ZoneFirewallDecision} {policy : PolicyDecision}
    (same : decision.policyAction = policy.action) :
    Settles state.firewall.stats (applyPolicy clock state packet decision policy)
      (actionVerdict (RateExceeded clock state packet) policy.action) := by
  have left := rate_stage_settles clock state packet decision
  unfold applyPolicy
  cases action : policy.action with
  | deny => exact ⟨⟨_, rfl, rfl⟩, rfl, rfl, rfl, rfl⟩
  | quarantine => exact ⟨⟨_, rfl, rfl⟩, rfl, rfl, rfl, rfl⟩
  | redirect => exact ⟨⟨_, rfl, rfl⟩, rfl, rfl, rfl, rfl⟩
  | allow =>
      rw [same, action] at left
      exact left
  | rateLimit =>
      rw [same, action] at left
      exact left
  | logOnly =>
      rw [same, action] at left
      exact left
  | askSwarm =>
      rw [same, action] at left
      exact left

theorem policy_stage_settles {clock : FirewallClock} {state : Security} {packet : FlowPacket}
    (ready : state.policies.initialized = true) (decision : ZoneFirewallDecision) :
    Settles state.firewall.stats (policyStage clock state packet decision)
      (actionVerdict (RateExceeded clock state packet) (selectedAction clock state packet)) := by
  rcases PolicyEngine.evaluate_ready ready clock.policy packet.key packet.direction with
    ⟨success, isDecision⟩
  rw [policyStage, success, selectedAction, ← isDecision]
  exact apply_policy_settles clock { state with
    policies := (state.policies.evaluate clock.policy packet.key packet.direction).2.2 } packet rfl

/-- Without policies the verdict of the error branch is lost. -/
theorem policy_stage_error {clock : FirewallClock} {state : Security} {packet : FlowPacket}
    (off : state.policies.initialized = false) (decision : ZoneFirewallDecision) :
    Settles state.firewall.stats (policyStage clock state packet decision)
      (passVerdict (RateExceeded clock state packet) decision.policyAction) := by
  rw [policyStage, PolicyEngine.evaluate_off off]
  exact rate_stage_settles clock { state with
    policies := (state.policies.evaluate clock.policy packet.key packet.direction).2.2 } packet
    { decision with verdict := _ }

theorem source_blocked_iff (clock : FirewallClock) (state : Security) (packet : FlowPacket) :
    SourceBlocked clock state packet ↔
      ∃ found, (state.quarantine.check clock.quarantine (.ip packet.key.srcIp)).1 = some found ∧
        found.mode = .blockAll := by
  by_cases ready : state.quarantine.initialized = true
  · rw [SourceBlocked, ← QuarantineManager.check_reports ready]
    simp only [ready, true_and]
  · have off : (state.quarantine.check clock.quarantine (.ip packet.key.srcIp)).1 = none := by
      simp [QuarantineManager.check, ready]
    rw [SourceBlocked, off]
    simp [ready]

def evaluationsCounted (stats : ZoneFirewallStats) : ZoneFirewallStats :=
  { stats with evaluations := stats.evaluations + 1 }

/-- What the check of the source leaves of the firewall and of the quarantine. -/
structure Checked (clock : FirewallClock) (packet : FlowPacket) (state next : Security) :
    Prop where
  quarantine :
    next.quarantine = (state.quarantine.check clock.quarantine (.ip packet.key.srcIp)).2
  running : next.firewall.initialized = state.firewall.initialized
  config : next.firewall.config = state.firewall.config

theorem evaluate_flow_cases {state : Security} (ready : state.firewall.initialized = true)
    (clock : FirewallClock) (packet : FlowPacket) :
    (SourceBlocked clock state packet ∧
      Settles (evaluationsCounted state.firewall.stats) (evaluateFlow clock state packet) .drop ∧
      Checked clock packet state (evaluateFlow clock state packet).2.1 ∧
      ∀ decision, (evaluateFlow clock state packet).1 = .ok decision →
        decision.policyAction = .allow) ∨
    (¬ SourceBlocked clock state packet ∧
      ∃ seen decision, evaluateFlow clock state packet = policyStage clock seen packet decision ∧
        seen.policies = state.policies ∧ seen.rates = state.rates ∧
        seen.firewall.stats = evaluationsCounted state.firewall.stats ∧
        Checked clock packet state seen ∧ decision.policyAction = .allow) := by
  rw [source_blocked_iff, evaluateFlow]
  simp only [ready, Bool.not_true, Bool.false_eq_true, if_false]
  generalize reported : (QuarantineManager.check clock.quarantine
    (state.count fun stats => { stats with evaluations := stats.evaluations + 1 }).quarantine
    (.ip packet.key.srcIp)) = checked
  have same : QuarantineManager.check clock.quarantine state.quarantine (.ip packet.key.srcIp) =
      checked := reported
  rw [same]
  cases found : checked.1 with
  | none =>
      exact Or.inr ⟨by simp, _, _, rfl, rfl, rfl, rfl, ⟨congrArg Prod.snd same.symm, rfl, rfl⟩, rfl⟩
  | some result =>
      simp only
      by_cases blocked : result.mode = .blockAll
      · rw [if_pos blocked]
        refine Or.inl ⟨⟨result, rfl, blocked⟩, ⟨⟨_, rfl, rfl⟩, rfl, rfl, rfl, rfl⟩,
          ⟨congrArg Prod.snd same.symm, rfl, rfl⟩, ?_⟩
        intro decision answered
        cases answered
        rfl
      · rw [if_neg blocked]
        exact Or.inr ⟨by simpa using blocked, _, _, rfl, rfl, rfl, rfl,
          ⟨congrArg Prod.snd same.symm, rfl, rfl⟩, rfl⟩

theorem evaluate_flow_settles {state : Security} (ready : state.Ready) (clock : FirewallClock)
    (packet : FlowPacket) :
    (SourceBlocked clock state packet →
      Settles (evaluationsCounted state.firewall.stats) (evaluateFlow clock state packet) .drop) ∧
    (¬ SourceBlocked clock state packet →
      Settles (evaluationsCounted state.firewall.stats) (evaluateFlow clock state packet)
        (actionVerdict (RateExceeded clock state packet) (selectedAction clock state packet))) := by
  rcases evaluate_flow_cases ready.firewall clock packet with
    ⟨blocked, settled, _⟩ | ⟨open_, seen, decision, goesOn, samePolicies, sameRates, counted, _⟩
  · exact ⟨fun _ => settled, fun open_ => absurd blocked open_⟩
  · refine ⟨fun blocked => absurd blocked open_, fun _ => ?_⟩
    have running : seen.policies.initialized = true := by
      rw [samePolicies]
      exact ready.policies
    have settled := @policy_stage_settles clock seen packet running decision
    rw [counted, ← goesOn] at settled
    have sameAction : selectedAction clock seen packet = selectedAction clock state packet := by
      rw [selectedAction, selectedAction, samePolicies]
    have sameRate : RateExceeded clock seen packet ↔ RateExceeded clock state packet := by
      rw [RateExceeded, RateExceeded, sameRates]
    rw [sameAction] at settled
    simpa only [sameRate] using settled

theorem action_verdict_spec (exceeded : Prop) [Decidable exceeded] (action : PolicyAction) :
    (actionVerdict exceeded action = .drop ↔
      action = .deny ∨ action = .quarantine ∨ (action ≠ .redirect ∧ exceeded)) ∧
    (actionVerdict exceeded action = .redirect ↔ action = .redirect) ∧
    (actionVerdict exceeded action = .logOnly ↔
      actionVerdict exceeded action ≠ .drop ∧ action = .logOnly) ∧
    (actionVerdict exceeded action = .allow ↔
      ¬ exceeded ∧ action ∈ [.allow, .rateLimit, .askSwarm]) := by
  by_cases limited : exceeded
  · cases action <;> simp [actionVerdict, passVerdict, limited]
  · cases action <;> simp [actionVerdict, passVerdict, limited]

/-- The verdict of every evaluation, and the counters it moves. -/
theorem firewall_verdict_spec {state : Security} (ready : state.Ready) (clock : FirewallClock)
    (packet : FlowPacket) :
    ∃ decision next events, evaluateFlow clock state packet = (.ok decision, next, events) ∧
      (decision.verdict = .drop ↔
        state.quarantine.Quarantines (.ip packet.key.srcIp) .blockAll clock.quarantine ∨
        selectedAction clock state packet = .deny ∨
        selectedAction clock state packet = .quarantine ∨
        (selectedAction clock state packet ≠ .redirect ∧ RateExceeded clock state packet)) ∧
      (decision.verdict = .redirect ↔
        ¬ state.quarantine.Quarantines (.ip packet.key.srcIp) .blockAll clock.quarantine ∧
        selectedAction clock state packet = .redirect) ∧
      (decision.verdict = .logOnly ↔
        decision.verdict ≠ .drop ∧ selectedAction clock state packet = .logOnly) ∧
      (decision.verdict = .allow ↔
        ¬ state.quarantine.Quarantines (.ip packet.key.srcIp) .blockAll clock.quarantine ∧
        ¬ RateExceeded clock state packet ∧
        selectedAction clock state packet ∈ [.allow, .rateLimit, .askSwarm]) ∧
      next.firewall.stats.evaluations = state.firewall.stats.evaluations + 1 ∧
      CountedAs state.firewall.stats next.firewall.stats decision.verdict := by
  have blockedIff : SourceBlocked clock state packet ↔
      state.quarantine.Quarantines (.ip packet.key.srcIp) .blockAll clock.quarantine := by
    simp only [SourceBlocked, ready.quarantine, true_and]
  rcases evaluate_flow_settles ready clock packet with ⟨ifBlocked, ifOpen⟩
  rw [blockedIff] at ifBlocked ifOpen
  generalize outcome : evaluateFlow clock state packet = evaluation at ifBlocked ifOpen
  rcases evaluation with ⟨answer, next, events⟩
  generalize selectedAction clock state packet = action at ifOpen
  by_cases blocked :
      state.quarantine.Quarantines (.ip packet.key.srcIp) .blockAll clock.quarantine
  · rcases ifBlocked blocked with ⟨⟨decision, rfl, isDrop⟩, evaluations, counted⟩
    refine ⟨decision, next, events, rfl, ?_, ?_, ?_, ?_, evaluations, ?_⟩
    · simp [isDrop, blocked]
    · simp [isDrop, blocked]
    · simp [isDrop]
    · simp [isDrop, blocked]
    · rw [isDrop]
      exact counted
  · rcases ifOpen blocked with ⟨⟨decision, rfl, isVerdict⟩, evaluations, counted⟩
    rcases action_verdict_spec (RateExceeded clock state packet) action with
      ⟨drops, redirects, logs, allows⟩
    rw [← isVerdict] at drops redirects logs allows counted
    refine ⟨decision, next, events, rfl, ?_, ?_, logs, ?_, evaluations, counted⟩
    · rw [drops]
      simp only [blocked, false_or]
    · rw [redirects]
      simp only [blocked, not_false_iff, true_and]
    · rw [allows]
      simp only [blocked, not_false_iff, true_and]

def startedWithDefaults (zoneId : UInt32) : Security :=
  ⟨FlowTable.boot.init none, QuarantineManager.boot.init none, PolicyEngine.boot.init none,
    RateLimiter.boot.init none, DeviceRegistry.boot.init zoneId, ZoneFirewall.boot.init none⟩

def lampPacket : FlowPacket := ⟨⟨0xC0A80410, 0x08080808, 40000, 53, 17⟩, .zoneToUplink, 64⟩

def portRule (port : UInt16) (action : PolicyAction) : PolicyRule :=
  ⟨0, true, 100, ⟨.zoneToUplink, 0, 0, 0, 0, 0, port, 0⟩, action, 50, false, 0,
    List.Vector.replicate 48 0⟩

def onePacketASecond (port : UInt16) : RateLimitRule :=
  ⟨0, true, 100, ⟨.zoneToUplink, 0, 0, 0, 0, 0, port, 0⟩, ⟨1000, 1, 0⟩, false, false,
    List.Vector.replicate 48 0⟩

def zonePacket (host : UInt32) (port : UInt16) : FlowPacket :=
  ⟨⟨host, 0x08080808, 40000, port, 6⟩, .zoneToUplink, 64⟩

/-- Rules for four ports, a device in quarantine, and a packet of the lamp that has
used up the limit of its second. -/
def guardedZone : Security :=
  let started := startedWithDefaults 4
  let rules := [portRule 23 .deny, portRule 22 .quarantine, portRule 80 .redirect,
    portRule 8080 .logOnly]
  { started with
    quarantine := (started.quarantine.add 1 (.ip 0xC0A80411) .blockAll .localPolicy 60000 90 []).2
    policies := rules.foldl (fun engine rule => (engine.addRule rule).2) started.policies
    rates := (((started.rates.addRule (onePacketASecond 53)).2).check 1 lampPacket.key
      lampPacket.direction lampPacket.bytes).2.2 }

theorem guarded_zone_ready : guardedZone.Ready := ⟨rfl, rfl, rfl, rfl, rfl⟩

theorem guarded_zone_blocks_iff (host : UInt32) :
    guardedZone.quarantine.Quarantines (.ip host) .blockAll 2 ↔
      (guardedZone.quarantine.check 2 (.ip host)).1.map QuarantineCheckResult.mode =
        some .blockAll := by
  rw [← QuarantineManager.check_reports guarded_zone_ready.quarantine, Option.map_eq_some_iff]

theorem guarded_zone_verdicts :
    guardedZone.Ready ∧
    ∀ expected ∈ [(zonePacket 0xC0A80411 443, ZoneFirewallVerdict.drop),
        (zonePacket 0xC0A80410 23, .drop), (zonePacket 0xC0A80410 22, .drop), (lampPacket, .drop),
        (zonePacket 0xC0A80410 80, .redirect), (zonePacket 0xC0A80410 8080, .logOnly),
        (zonePacket 0xC0A80410 443, .allow)],
      ∃ decision next events,
        evaluateFlow ⟨2, 2, 2, 2, 2, 2⟩ guardedZone expected.1 = (.ok decision, next, events) ∧
        decision.verdict = expected.2 ∧ next.firewall.stats.evaluations = 1 := by
  refine ⟨guarded_zone_ready, ?_⟩
  intro expected member
  rcases firewall_verdict_spec guarded_zone_ready ⟨2, 2, 2, 2, 2, 2⟩ expected.1 with
    ⟨decision, next, events, outcome, drops, redirects, logs, allows, evaluations, _⟩
  refine ⟨decision, next, events, outcome, ?_, evaluations⟩
  simp only [guarded_zone_blocks_iff] at drops redirects allows
  simp only [List.mem_cons, List.not_mem_nil, or_false] at member
  rcases member with rfl | rfl | rfl | rfl | rfl | rfl | rfl
  -- the device in quarantine, the two denied ports, and the exceeded limit
  · exact drops.mpr (Or.inl (by decide +kernel))
  · exact drops.mpr (Or.inr (Or.inl (by decide +kernel)))
  · exact drops.mpr (Or.inr (Or.inr (Or.inl (by decide +kernel))))
  · exact drops.mpr (Or.inr (Or.inr (Or.inr (by decide +kernel))))
  · exact redirects.mpr (by decide +kernel)
  · exact logs.mpr ⟨fun dropped => absurd (drops.mp dropped) (by decide +kernel),
      by decide +kernel⟩
  · exact allows.mpr (by decide +kernel)

/-! ## Errors of the policy engine -/

/-- A firewall that denies by default drops the flow when the policies fail. -/
def FailsClosed (clock : FirewallClock) (state : Security) (packet : FlowPacket) : Prop :=
  state.firewall.initialized = true → state.firewall.config.defaultAllow = false →
    ∀ err, (state.policies.evaluate clock.policy packet.key packet.direction).1 = .error err →
      ∃ decision, (evaluateFlow clock state packet).1 = .ok decision ∧ decision.verdict = .drop

/-- The DROP of the error branch is overwritten at the end of the evaluation, so only
another stage can drop the flow. -/
theorem fails_closed_iff (clock : FirewallClock) (state : Security) (packet : FlowPacket) :
    FailsClosed clock state packet ↔
      (state.firewall.initialized = true → state.firewall.config.defaultAllow = false →
        state.policies.initialized = true ∨ SourceBlocked clock state packet ∨
          RateExceeded clock state packet) := by
  apply forall_congr'
  intro ready
  apply forall_congr'
  intro closed
  by_cases running : state.policies.initialized = true
  · rcases PolicyEngine.evaluate_ready running clock.policy packet.key packet.direction with
      ⟨success, _⟩
    simp [running, success]
  · have off : state.policies.initialized = false := by simpa using running
    rw [PolicyEngine.evaluate_off off]
    rcases evaluate_flow_cases ready clock packet with
      ⟨blocked, settled, _⟩ |
        ⟨open_, seen, decision, goesOn, samePolicies, sameRates, _, _, fresh⟩
    · simp [blocked, settled.answered]
    · have stopped : seen.policies.initialized = false := by
        rw [samePolicies]
        exact off
      have sameRate : RateExceeded clock seen packet ↔ RateExceeded clock state packet := by
        rw [RateExceeded, RateExceeded, sameRates]
      rcases (@policy_stage_error clock seen packet stopped decision).answered with
        ⟨final, answered, isVerdict⟩
      rw [goesOn, answered]
      rw [fresh, passVerdict] at isVerdict
      by_cases exceeded : RateExceeded clock state packet
      · rw [if_pos (sameRate.mpr exceeded)] at isVerdict
        simp [exceeded, isVerdict]
      · rw [if_neg fun exceeds => exceeded (sameRate.mp exceeds)] at isVerdict
        simp [running, open_, exceeded, isVerdict]

def policiesMissing : Security :=
  { boot with firewall := ZoneFirewall.boot.init (some ⟨4, false, false, 0⟩) }

theorem lamp_packet_allowed_without_policies :
    ¬ FailsClosed ⟨1, 1, 1, 1, 1, 1⟩ policiesMissing lampPacket := by
  intro closed
  rcases closed rfl rfl .invalidArg (by decide +kernel) with ⟨decision, answered, isDrop⟩
  have allowed : ((evaluateFlow ⟨1, 1, 1, 1, 1, 1⟩ policiesMissing lampPacket).1.toOption.map
      ZoneFirewallDecision.verdict) = some .allow := by
    decide +kernel
  rw [answered] at allowed
  simp [Except.toOption, isDrop] at allowed

end Security

end BlindNet
