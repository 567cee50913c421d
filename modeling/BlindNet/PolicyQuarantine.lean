import BlindNet.QuarantineHold
import BlindNet.SecurityServices

/-!
# Policy quarantines

A flow that a policy quarantines blocks its source until the entry expires, provided
the quarantine manager is running when the policy is applied. Starting the security
services does not start the manager, and the firewall ignores that its addition failed.
-/

namespace BlindNet

set_option autoImplicit false

open ByteLayout SlotTable EventMachine

namespace Security

/-! ## What an evaluation does to the quarantine -/

/-- What the stages past the quarantine do to it. -/
structure Adds (clock : FirewallClock) (packet : FlowPacket) (before : Security)
    (outcome : Evaluation) : Prop where
  running : outcome.2.1.firewall.initialized = before.firewall.initialized
  config : outcome.2.1.firewall.config = before.firewall.config
  table : outcome.2.1.quarantine = before.quarantine ∨ ∃ ts source risk reason,
    outcome.2.1.quarantine = (before.quarantine.add ts (.ip packet.key.srcIp) .blockAll source
      before.firewall.config.quarantineTtlMs risk reason).2
  byPolicy : ∀ decision, outcome.1 = .ok decision → decision.policyAction = .quarantine →
    ∃ risk reason, outcome.2.1.quarantine = (before.quarantine.add clock.policyQuarantine
      (.ip packet.key.srcIp) .blockAll .localPolicy before.firewall.config.quarantineTtlMs risk
      reason).2

/-- Where another action was selected, only the table counts. -/
theorem Adds.unselected {clock : FirewallClock} {packet : FlowPacket} {before : Security}
    {outcome : Evaluation} {final : ZoneFirewallDecision} (answered : outcome.1 = .ok final)
    (other : final.policyAction ≠ .quarantine)
    (sameFirewall : outcome.2.1.firewall.initialized = before.firewall.initialized ∧
      outcome.2.1.firewall.config = before.firewall.config)
    (table : outcome.2.1.quarantine = before.quarantine ∨ ∃ ts source risk reason,
      outcome.2.1.quarantine = (before.quarantine.add ts (.ip packet.key.srcIp) .blockAll source
        before.firewall.config.quarantineTtlMs risk reason).2) :
    Adds clock packet before outcome := by
  refine ⟨sameFirewall.1, sameFirewall.2, table, ?_⟩
  intro decision given selected
  rw [answered, Except.ok.injEq] at given
  rw [← given] at selected
  exact absurd selected other

theorem rate_stage_adds (clock : FirewallClock) (state : Security) (packet : FlowPacket)
    {decision : ZoneFirewallDecision} (other : decision.policyAction ≠ .quarantine) :
    Adds clock packet state (rateStage clock state packet decision) := by
  unfold rateStage
  simp only
  split
  · unfold rateDropped
    simp only
    split
    · exact .unselected rfl other ⟨rfl, rfl⟩ (Or.inr ⟨_, _, _, _, rfl⟩)
    · exact .unselected rfl other ⟨rfl, rfl⟩ (Or.inl rfl)
  · unfold passed
    simp only
    split
    · exact .unselected rfl other ⟨rfl, rfl⟩ (Or.inl rfl)
    · exact .unselected rfl other ⟨rfl, rfl⟩ (Or.inl rfl)

theorem apply_policy_adds (clock : FirewallClock) (state : Security) (packet : FlowPacket)
    {decision : ZoneFirewallDecision} {policy : PolicyDecision}
    (same : decision.policyAction = policy.action) :
    Adds clock packet state (applyPolicy clock state packet decision policy) := by
  have unselected : ∀ action, policy.action = action → action ≠ .quarantine →
      decision.policyAction ≠ .quarantine := by
    intro action isAction other
    rw [same, isAction]
    exact other
  unfold applyPolicy
  cases action : policy.action with
  | quarantine =>
      refine ⟨rfl, rfl, Or.inr ⟨_, _, _, _, rfl⟩, ?_⟩
      intro final answered selected
      exact ⟨_, _, rfl⟩
  | deny => exact .unselected rfl (unselected _ action (by decide)) ⟨rfl, rfl⟩ (Or.inl rfl)
  | redirect => exact .unselected rfl (unselected _ action (by decide)) ⟨rfl, rfl⟩ (Or.inl rfl)
  | allow => exact rate_stage_adds clock state packet (unselected _ action (by decide))
  | rateLimit => exact rate_stage_adds clock state packet (unselected _ action (by decide))
  | logOnly => exact rate_stage_adds clock state packet (unselected _ action (by decide))
  | askSwarm => exact rate_stage_adds clock state packet (unselected _ action (by decide))

theorem Adds.congr {clock : FirewallClock} {packet : FlowPacket} {before other : Security}
    {outcome : Evaluation} (adds : Adds clock packet other outcome)
    (sameFirewall : other.firewall = before.firewall)
    (sameQuarantine : other.quarantine = before.quarantine) :
    Adds clock packet before outcome := by
  rcases adds with ⟨running, config, table, byPolicy⟩
  rw [sameFirewall] at running config table byPolicy
  rw [sameQuarantine] at table byPolicy
  exact ⟨running, config, table, byPolicy⟩

theorem policy_stage_adds (clock : FirewallClock) (state : Security) (packet : FlowPacket)
    {decision : ZoneFirewallDecision} (other : decision.policyAction ≠ .quarantine) :
    Adds clock packet state (policyStage clock state packet decision) := by
  let ruled := { state with
    policies := (state.policies.evaluate clock.policy packet.key packet.direction).2.2 }
  unfold policyStage
  simp only
  split
  · have adds := @rate_stage_adds clock ruled packet { decision with
      verdict := if ruled.firewall.config.defaultAllow then .allow else .drop } other
    exact adds.congr rfl rfl
  · refine (apply_policy_adds clock ruled packet ?_).congr rfl rfl
    rfl

/-- An evaluation checks the source, and then may quarantine it unless it is blocked
already. -/
theorem evaluate_flow_adds {state : Security} (ready : state.firewall.initialized = true)
    (clock : FirewallClock) (packet : FlowPacket) :
    ∃ seen, Checked clock packet state seen ∧
      Adds clock packet seen (evaluateFlow clock state packet) ∧
      (SourceBlocked clock state packet →
        (evaluateFlow clock state packet).2.1.quarantine = seen.quarantine) := by
  rcases evaluate_flow_cases ready clock packet with
    ⟨_, _, checked, unselected⟩ | ⟨open_, seen, decision, goesOn, _, _, _, checked, fresh⟩
  · refine ⟨_, checked, ⟨rfl, rfl, Or.inl rfl, ?_⟩, fun _ => rfl⟩
    intro decision answered selected
    rw [unselected decision answered] at selected
    cases selected
  · refine ⟨seen, checked, ?_, fun blocked => absurd blocked open_⟩
    rw [goesOn]
    apply policy_stage_adds
    rw [fresh]
    decide

/-! ## The firewall along a run -/

structure Running (state : Security) : Prop where
  initialized : state.firewall.initialized = true
  ttl : state.firewall.config.quarantineTtlMs ≠ 0

theorem init_ttl (firewall : ZoneFirewall) (config : Option ZoneFirewallConfig) :
    (firewall.init config).config.quarantineTtlMs ≠ 0 := by
  unfold ZoneFirewall.init
  simp only
  split
  · decide
  · assumption

theorem security_step_running (state : Security) (call : SecurityCall) (running : state.Running) :
    (securityStep state call).1.Running := by
  cases call with
  | evaluate clock packet =>
      rcases evaluate_flow_adds running.initialized clock packet with ⟨seen, checked, adds, _⟩
      constructor
      · exact (adds.running.trans checked.running).trans running.initialized
      · have same : (evaluateFlow clock state packet).2.1.firewall.config = state.firewall.config :=
          adds.config.trans checked.config
        rw [securityStep, same]
        exact running.ttl
  | firewall config => exact ⟨rfl, init_ttl state.firewall config⟩
  | quarantine call => exact ⟨running.initialized, running.ttl⟩
  | policies call => exact ⟨running.initialized, running.ttl⟩
  | rates call => exact ⟨running.initialized, running.ttl⟩
  | flows call => exact ⟨running.initialized, running.ttl⟩

theorem start_running {zoneId : UInt32} {state started : Security}
    (start : startOptionalSecurityServices zoneId state = (.ok (), started)) : started.Running := by
  unfold startOptionalSecurityServices at start
  simp only at start
  split at start
  · cases start
  · split at start
    · cases start
    · cases start
      exact ⟨rfl, init_ttl state.firewall _⟩

/-! ## The entry along a run -/

end Security

/-- The call empties the manager, or is about the quarantine of the subject itself. -/
def SecurityCall.liftsQuarantine (subject : QuarantineSubject) : SecurityCall → Bool
  | .quarantine (.init _) | .quarantine .reset => true
  | .quarantine (.add _ other _ _ _ _ _) | .quarantine (.remove other) => other = subject
  | _ => false

/-- The readings of the clock that expiries are compared with. -/
def SecurityCall.expiryReadings : SecurityCall → List UInt32
  | .evaluate clock _ => [clock.quarantine]
  | .quarantine (.check ts _) | .quarantine (.expireOld ts) => [ts]
  | _ => []

namespace Security

/-- Fewer than 64 other subjects have an entry in the course of the run, those that had
one before the run included. -/
def FewOthers (subject : QuarantineSubject) (state : Security) (calls : List SecurityCall) :
    Prop :=
  ∃ others : Finset QuarantineSubject, others.card < quarantineMaxEntries ∧
    ∀ early late, calls = early ++ late →
      QuarantineManager.OthersWithin subject others (run securityStep state early).1.quarantine

theorem few_others_single {subject : QuarantineSubject} {state : Security} {call : SecurityCall}
    (before : QuarantineManager.OthersWithin subject ∅ state.quarantine)
    (after : QuarantineManager.OthersWithin subject ∅ (securityStep state call).1.quarantine) :
    FewOthers subject state [call] := by
  refine ⟨∅, by decide, ?_⟩
  intro early late split
  cases early with
  | nil => exact before
  | cons first rest =>
      rcases List.cons.inj split with ⟨rfl, nothing⟩
      rcases List.append_eq_nil_iff.mp nothing.symm with ⟨rfl, _⟩
      exact after

theorem security_step_bars {state : Security} (running : state.Running)
    {subject : QuarantineSubject} {expiry : UInt32} (bars : state.quarantine.Bars subject expiry)
    {others : Finset QuarantineSubject} (few : others.card < quarantineMaxEntries)
    (within : QuarantineManager.OthersWithin subject others state.quarantine) {call : SecurityCall}
    (after : QuarantineManager.OthersWithin subject others (securityStep state call).1.quarantine)
    (keeps : call.liftsQuarantine subject = false)
    (early : ∀ reading ∈ call.expiryReadings, reading < expiry) :
    (securityStep state call).1.quarantine.Bars subject expiry := by
  cases call with
  | evaluate clock packet =>
      have before : clock.quarantine < expiry := early _ (List.mem_singleton.mpr rfl)
      have checkedBars := QuarantineManager.check_bars bars before (.ip packet.key.srcIp)
      have checkedWithin := QuarantineManager.check_within within clock.quarantine
        (.ip packet.key.srcIp)
      rcases evaluate_flow_adds running.initialized clock packet with
        ⟨seen, checked, adds, ifBlocked⟩
      rw [← checked.quarantine] at checkedBars checkedWithin
      by_cases isSource : .ip packet.key.srcIp = subject
      · -- the source is blocked already, so it is not quarantined anew
        have blocked : SourceBlocked clock state packet := by
          refine ⟨bars.running, ?_⟩
          rw [isSource]
          exact bars.blocks before
        rw [securityStep, ifBlocked blocked]
        exact checkedBars
      · rcases adds.table with same | ⟨ts, source, risk, reason, added⟩
        · rw [securityStep, same]
          exact checkedBars
        · rw [securityStep, added] at after ⊢
          exact QuarantineManager.add_bars_other checkedBars isSource few checkedWithin after
  | firewall config => exact bars
  | policies call => exact bars
  | rates call => exact bars
  | flows call => exact bars
  | quarantine call =>
      cases call with
      | init config => cases keeps
      | reset => cases keeps
      | add ts other mode source ttlMs riskScore reason =>
          exact QuarantineManager.add_bars_other bars (of_decide_eq_false keeps) few within after
      | remove other => exact QuarantineManager.remove_bars bars (of_decide_eq_false keeps)
      | check ts other =>
          exact QuarantineManager.check_bars bars (early ts (List.mem_singleton.mpr rfl)) other
      | expireOld ts =>
          exact QuarantineManager.expire_old_bars bars (early ts (List.mem_singleton.mpr rfl))

theorem run_bars {state : Security} (running : state.Running) {subject : QuarantineSubject}
    {expiry : UInt32} (bars : state.quarantine.Bars subject expiry) {calls : List SecurityCall}
    {others : Finset QuarantineSubject} (few : others.card < quarantineMaxEntries)
    (within : ∀ early late, calls = early ++ late →
      QuarantineManager.OthersWithin subject others (run securityStep state early).1.quarantine)
    (keeps : ∀ call ∈ calls, call.liftsQuarantine subject = false)
    (early : ∀ call ∈ calls, ∀ reading ∈ call.expiryReadings, reading < expiry) :
    (run securityStep state calls).1.Running ∧
      (run securityStep state calls).1.quarantine.Bars subject expiry := by
  apply guarded_history_run securityStep
    (fun state call => call ∈ calls ∧
      QuarantineManager.OthersWithin subject others state.quarantine ∧
      QuarantineManager.OthersWithin subject others (securityStep state call).1.quarantine)
    (fun state _ => state.Running ∧ state.quarantine.Bars subject expiry)
  · rintro state history call ⟨member, before, after⟩ ⟨running, bars⟩
    exact ⟨security_step_running state call running,
      security_step_bars running bars few before after (keeps call member) (early call member)⟩
  · exact []
  · intro before call after split
    refine ⟨by simp [split], within before (call :: after) split, ?_⟩
    have next := within (before ++ [call]) after (by simp [split])
    rwa [run_append] at next
  · exact ⟨running, bars⟩

/-- A flow that a policy quarantines makes the firewall drop every later flow of its
source while the entry lasts, if the clock does not wrap in between. -/
def QuarantineTakesEffect (state : Security) (clock : FirewallClock) (packet : FlowPacket) :
    Prop :=
  let ttlMs := state.firewall.config.quarantineTtlMs
  let subject := QuarantineSubject.ip packet.key.srcIp
  ∀ decision, (evaluateFlow clock state packet).1 = .ok decision →
    decision.policyAction = .quarantine → packet.key.srcIp ≠ 0 →
    ∀ (between : List SecurityCall) (later : FirewallClock) (next : FlowPacket),
      next.key.srcIp = packet.key.srcIp →
      (∀ call ∈ between, call.liftsQuarantine subject = false) →
      FewOthers subject state (.evaluate clock packet :: between) →
      (∀ call ∈ between, ∀ reading ∈ call.expiryReadings, reading ≤ later.quarantine) →
      clock.policyQuarantine.toNat + ttlMs.toNat < 2 ^ 32 →
      later.quarantine.toNat < clock.policyQuarantine.toNat + ttlMs.toNat →
      ∃ final,
        (evaluateFlow later (run securityStep state (.evaluate clock packet :: between)).1
          next).1 = .ok final ∧ final.verdict = .drop

/-- The entry that a quarantining policy leaves behind. -/
theorem quarantined_bars {state : Security} (running : state.Running)
    (managed : state.quarantine.initialized = true) {clock : FirewallClock} {packet : FlowPacket}
    {decision : ZoneFirewallDecision}
    (answered : (evaluateFlow clock state packet).1 = .ok decision)
    (selected : decision.policyAction = .quarantine) (source : packet.key.srcIp ≠ 0)
    {others : Finset QuarantineSubject} (few : others.card < quarantineMaxEntries)
    (within : QuarantineManager.OthersWithin (.ip packet.key.srcIp) others state.quarantine) :
    (evaluateFlow clock state packet).2.1.quarantine.Bars (.ip packet.key.srcIp)
      (clock.policyQuarantine + state.firewall.config.quarantineTtlMs) := by
  rcases evaluate_flow_adds running.initialized clock packet with ⟨seen, checked, adds, _⟩
  rcases adds.byPolicy decision answered selected with ⟨risk, reason, added⟩
  have ready : seen.quarantine.initialized = true := by
    rw [checked.quarantine]
    exact (QuarantineManager.check_cases clock.quarantine state.quarantine _).1.trans managed
  have room := QuarantineManager.check_within within clock.quarantine (.ip packet.key.srcIp)
  rw [← checked.quarantine] at room
  have valid : subjectIsValid (.ip packet.key.srcIp) = true := by
    simpa [subjectIsValid] using source
  rw [added, checked.config]
  exact QuarantineManager.add_bars_self ready valid few room _ _ running.ttl _ _

/-- After the services were started, a policy quarantine takes effect whenever the
manager is running when the policy is applied. -/
theorem policy_quarantine_takes_effect {zoneId : UInt32} {booted started : Security}
    (start : startOptionalSecurityServices zoneId booted = (.ok (), started))
    (before : List SecurityCall)
    (managed : (run securityStep started before).1.quarantine.initialized = true)
    (clock : FirewallClock) (packet : FlowPacket) :
    QuarantineTakesEffect (run securityStep started before).1 clock packet := by
  have running := invariant_run securityStep Running security_step_running started before
    (start_running start)
  generalize (run securityStep started before).1 = state at running managed
  unfold QuarantineTakesEffect
  intro ttlMs subject decision answered selected source between later next sameSource keeps
    ⟨others, few, within⟩ ordered unwrapped early
  have bars := quarantined_bars running managed answered selected source few (within [] _ rfl)
  have isExpiry : (clock.policyQuarantine + ttlMs).toNat =
      clock.policyQuarantine.toNat + ttlMs.toNat := by
    rw [UInt32.toNat_add, Nat.mod_eq_of_lt unwrapped]
  have laterEarly : later.quarantine < clock.policyQuarantine + ttlMs := by
    rw [UInt32.lt_iff_toNat_lt, isExpiry]
    exact early
  have kept := run_bars (security_step_running state (.evaluate clock packet) running) bars few
    (fun first rest split => by
      have visited := within (.evaluate clock packet :: first) rest (by rw [split]; rfl)
      exact visited)
    keeps (fun call member reading taken =>
      UInt32.lt_of_le_of_lt (ordered call member reading taken) laterEarly)
  rw [run_cons]
  rcases evaluate_flow_cases kept.1.initialized later next with
    ⟨_, settled, _⟩ | ⟨open_, _⟩
  · exact settled.answered
  · refine absurd ⟨kept.2.running, ?_⟩ open_
    rw [sameSource]
    exact kept.2.blocks laterEarly

def telnetPolicy : SecurityCall :=
  .policies (.addRule (uplinkPolicy 900 (uplinkPattern 0 0 23 6) .quarantine 90 true "telnet"))

def lampFlow (dstPort : UInt16) : FlowPacket :=
  ⟨⟨0xC0A80410, 0x08080808, 40000, dstPort, 6⟩, .zoneToUplink, 64⟩

def withTelnetPolicy (booted : Security) : Security :=
  (run securityStep (startOptionalSecurityServices 4 booted).2 [telnetPolicy]).1

def managed : Security := { boot with quarantine := QuarantineManager.boot.init none }

def reportedAction (outcome : Evaluation) : Option PolicyAction :=
  outcome.1.toOption.map ZoneFirewallDecision.policyAction

theorem reported_action {outcome : Evaluation} {action : PolicyAction}
    (reported : reportedAction outcome = some action) :
    ∃ decision, outcome.1 = .ok decision ∧ decision.policyAction = action := by
  rcases outcome with ⟨_ | decision, _⟩
  · cases reported
  · exact ⟨decision, rfl, Option.some.inj reported⟩

theorem managed_lamp_stays_blocked :
    ∃ final, (evaluateFlow ⟨2, 2, 2, 2, 2, 2⟩
      (run securityStep (withTelnetPolicy managed)
        [.evaluate ⟨1, 1, 1, 1, 1, 1⟩ (lampFlow 23)]).1 (lampFlow 443)).1 = .ok final ∧
      final.verdict = .drop := by
  have start : startOptionalSecurityServices 4 managed =
      (.ok (), (startOptionalSecurityServices 4 managed).2) :=
    Prod.ext (start_succeeds 4 managed) rfl
  have effect := policy_quarantine_takes_effect start [telnetPolicy] rfl ⟨1, 1, 1, 1, 1, 1⟩
    (lampFlow 23)
  rcases @reported_action
    (evaluateFlow ⟨1, 1, 1, 1, 1, 1⟩ (withTelnetPolicy managed) (lampFlow 23)) .quarantine
    (by decide +kernel) with ⟨decision, answered, selected⟩
  apply effect decision answered selected (by decide) [] ⟨2, 2, 2, 2, 2, 2⟩ (lampFlow 443) rfl
  · simp
  · exact few_others_single (by decide +kernel) (by decide +kernel)
  · simp
  · decide +kernel
  · decide +kernel

/-- Nobody starts the manager, so the addition fails and the lamp is let through. -/
theorem started_lamp_not_blocked :
    (startOptionalSecurityServices 4 boot).1 = .ok () ∧
    ¬ QuarantineTakesEffect (withTelnetPolicy boot) ⟨1, 1, 1, 1, 1, 1⟩ (lampFlow 23) := by
  refine ⟨start_succeeds 4 boot, ?_⟩
  intro effect
  rcases @reported_action
    (evaluateFlow ⟨1, 1, 1, 1, 1, 1⟩ (withTelnetPolicy boot) (lampFlow 23)) .quarantine
    (by decide +kernel) with ⟨decision, answered, selected⟩
  have few : FewOthers (.ip 0xC0A80410) (withTelnetPolicy boot)
      [.evaluate ⟨1, 1, 1, 1, 1, 1⟩ (lampFlow 23)] :=
    few_others_single (by decide +kernel) (by decide +kernel)
  rcases effect decision answered selected (by decide) [] ⟨2, 2, 2, 2, 2, 2⟩ (lampFlow 443) rfl
    (by simp) few (by simp) (by decide +kernel) (by decide +kernel) with ⟨final, given, isDrop⟩
  have allowed : (evaluateFlow ⟨2, 2, 2, 2, 2, 2⟩
      (run securityStep (withTelnetPolicy boot)
        [.evaluate ⟨1, 1, 1, 1, 1, 1⟩ (lampFlow 23)]).1 (lampFlow 443)).1.toOption.map
          ZoneFirewallDecision.verdict = some .allow := by
    decide +kernel
  rw [given] at allowed
  simp [Except.toOption, isDrop] at allowed

end Security

end BlindNet
