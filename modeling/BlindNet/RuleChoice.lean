import BlindNet.RuleIdentity
import BlindNet.Lib.BestMatch
import Mathlib.Data.Vector.Mem

/-!
# Which rule decides

Three engines scan their rules with the same loop and their own idea of a match. Each takes
the greatest matching rule by priority and then by slot, and the default when no rule
matches. Slots are used again after removals, so the slot of a rule depends on the history
of its table; with different priorities it does not matter.
-/

namespace BlindNet

set_option autoImplicit false

open ByteLayout SlotTable

/-- The choice is the greatest applicable rule by priority and slot, and there is none only
if no rule applies. -/
structure ChoosesGreatest {Rule : Type} {capacity : Nat} (applies : Rule → Bool)
    (priority : Rule → UInt16) (rules : Slots Rule capacity) (choice : Option Rule) : Prop where
  greatest : ∀ rule, choice = some rule ↔ ∃ index, Best applies priority rules index rule
  default : choice = none ↔ ∀ index rule, rules.get index = some rule → applies rule = false

theorem best_match_chooses {Rule : Type} {capacity : Nat} (applies : Rule → Bool)
    (priority : Rule → UInt16) (rules : Slots Rule capacity) :
    ChoosesGreatest applies priority rules (bestMatch applies priority rules) :=
  ⟨fun _ => best_match_iff, best_match_eq_none_iff⟩

/-- Two tables hold the same rules, whatever their slots, and no two of these rules have the
same priority. -/
structure SameRuleSet {Rule : Type} {capacity : Nat} (priority : Rule → UInt16)
    (first second : Slots Rule capacity) : Prop where
  same : ∀ rule, (∃ index, first.get index = some rule) ↔ ∃ index, second.get index = some rule
  distinct : ∀ index slot rule other, first.get index = some rule → first.get slot = some other →
    priority rule = priority other → rule = other

theorem SameRuleSet.same_choice {Rule : Type} {capacity : Nat} {priority : Rule → UInt16}
    {first second : Slots Rule capacity} (alike : SameRuleSet priority first second)
    (applies : Rule → Bool) :
    bestMatch applies priority first = bestMatch applies priority second :=
  best_match_same_entries alike.same alike.distinct

/-! ## Calls that only edit rules -/

def PolicyCall.edits : PolicyCall → Bool
  | .addRule _ => true
  | .removeRule _ => true
  | .expireRules _ => true
  | _ => false

def RateCall.edits : RateCall → Bool
  | .addRule _ => true
  | .removeRule _ => true
  | _ => false

def DnsFilterCall.edits : DnsFilterCall → Bool
  | .addRule _ => true
  | .removeRule _ => true
  | .init _ => false

def RuleCall.edits : RuleCall → Bool
  | .policies call => call.edits
  | .rates call => call.edits
  | .dns call => call.edits

structure SameSettings (engines others : RuleEngines) : Prop where
  policiesReady : engines.policies.initialized = others.policies.initialized
  policies : engines.policies.config = others.policies.config
  ratesReady : engines.rates.initialized = others.rates.initialized
  rates : engines.rates.config = others.rates.config
  dns : engines.dns.config = others.dns.config

theorem policy_edit_settings (engine : PolicyEngine) {call : PolicyCall}
    (edits : call.edits = true) :
    (engine.call call).initialized = engine.initialized ∧
      (engine.call call).config = engine.config := by
  cases call with
  | addRule rule =>
      simp only [PolicyEngine.call, PolicyEngine.addRule]
      split
      · exact ⟨rfl, rfl⟩
      · split <;> exact ⟨rfl, rfl⟩
  | removeRule ruleId =>
      simp only [PolicyEngine.call, PolicyEngine.removeRule]
      split
      · exact ⟨rfl, rfl⟩
      · split <;> exact ⟨rfl, rfl⟩
  | expireRules ts =>
      simp only [PolicyEngine.call, PolicyEngine.expireRules]
      split <;> exact ⟨rfl, rfl⟩
  | _ => cases edits

theorem rate_edit_settings (limiter : RateLimiter) {call : RateCall} (edits : call.edits = true) :
    (limiter.call call).initialized = limiter.initialized ∧
      (limiter.call call).config = limiter.config := by
  cases call with
  | addRule rule =>
      simp only [RateLimiter.call, RateLimiter.addRule]
      split
      · exact ⟨rfl, rfl⟩
      · split <;> exact ⟨rfl, rfl⟩
  | removeRule ruleId =>
      simp only [RateLimiter.call, RateLimiter.removeRule]
      split
      · exact ⟨rfl, rfl⟩
      · split <;> exact ⟨rfl, rfl⟩
  | _ => cases edits

theorem dns_edit_settings (filter : DnsFilter) {call : DnsFilterCall} (edits : call.edits = true) :
    (filter.call call).config = filter.config := by
  cases call with
  | addRule rule =>
      simp only [DnsFilter.call, DnsFilter.addRule]
      split <;> rfl
  | removeRule ruleId =>
      simp only [DnsFilter.call, DnsFilter.removeRule]
      split <;> rfl
  | init config => cases edits

theorem edits_settings (engines : RuleEngines) (calls : List RuleCall)
    (edits : ∀ call ∈ calls, call.edits = true) :
    SameSettings (EventMachine.run RuleEngines.step engines calls).1 engines := by
  induction calls generalizing engines with
  | nil => exact ⟨rfl, rfl, rfl, rfl, rfl⟩
  | cons call rest induction =>
      have later := induction (RuleEngines.step engines call).1
        fun other member => edits other (List.mem_cons_of_mem _ member)
      have edit := edits call List.mem_cons_self
      rw [EventMachine.run_cons]
      cases call with
      | policies call =>
          obtain ⟨ready, config⟩ := policy_edit_settings engines.policies edit
          exact ⟨later.policiesReady.trans ready, later.policies.trans config, later.ratesReady,
            later.rates, later.dns⟩
      | rates call =>
          obtain ⟨ready, config⟩ := rate_edit_settings engines.rates edit
          exact ⟨later.policiesReady, later.policies, later.ratesReady.trans ready,
            later.rates.trans config, later.dns⟩
      | dns call =>
          have config := dns_edit_settings engines.dns edit
          exact ⟨later.policiesReady, later.policies, later.ratesReady, later.rates,
            later.dns.trans config⟩

/-! ## Choices and decisions -/

/-- Each engine decides by the greatest rule that applies, and by its default exactly when
none does. -/
structure DecidesByGreatest (engines : RuleEngines) : Prop where
  policies : ∀ ts key direction, engines.policies.initialized = true →
    ∃ choice, ChoosesGreatest
        (fun rule => rule.enabled && !PolicyEngine.ruleIsExpired rule ts &&
          rule.pattern.flowMatches key direction)
        PolicyRule.priority engines.policies.rules choice ∧
      (engines.policies.evaluate ts key direction).2.1 =
        match choice with
        | some rule => ⟨rule.action, .ruleMatch, rule.ruleId, rule.priority, rule.riskScore,
            rule.logEvent, strncpyCleared 48 rule.reason.toList⟩
        | none => ⟨engines.policies.config.defaultAction, .noRule, 0, 0,
            engines.policies.config.defaultRiskScore, engines.policies.config.defaultLogEvent,
            strncpyCleared 48 (CString.utf8 "default_policy")⟩
  rates : ∀ key direction, ChoosesGreatest
    (fun rule => rule.enabled && rule.pattern.flowMatches key direction)
    RateLimitRule.priority engines.rates.rules (engines.rates.findBestRuleLocked key direction)
  dns : ∀ domain reasonLen, ∃ choice, ChoosesGreatest
      (fun rule => rule.enabled && domainMatch rule.patternText (CString.text domain))
      DnsFilterRule.priority engines.dns.rules choice ∧
    engines.dns.evaluateDomain domain reasonLen =
      match choice with
      | some rule => ⟨rule.action, rule.redirectIp, rule.riskScore,
          strncpyCleared reasonLen rule.reason.toList⟩
      | none => ⟨if engines.dns.config.defaultAllow then .allow else .block, 0, 0,
          strncpyCleared reasonLen (CString.utf8 "dns_default")⟩

structure SameDecisions (engines others : RuleEngines) : Prop where
  policies : SameRuleSet PolicyRule.priority engines.policies.rules others.policies.rules →
    ∀ ts key direction, (engines.policies.evaluate ts key direction).1 =
        (others.policies.evaluate ts key direction).1 ∧
      (engines.policies.evaluate ts key direction).2.1 =
        (others.policies.evaluate ts key direction).2.1
  rates : SameRuleSet RateLimitRule.priority engines.rates.rules others.rates.rules →
    ∀ key direction, engines.rates.findBestRuleLocked key direction =
      others.rates.findBestRuleLocked key direction
  dns : SameRuleSet DnsFilterRule.priority engines.dns.rules others.dns.rules →
    ∀ domain reasonLen, engines.dns.evaluateDomain domain reasonLen =
      others.dns.evaluateDomain domain reasonLen

theorem decides_by_greatest (engines : RuleEngines) : DecidesByGreatest engines := by
  constructor
  · intro ts key direction ready
    refine ⟨_, best_match_chooses _ _ _, ?_⟩
    rw [(PolicyEngine.evaluate_ready ready ts key direction).2]
    unfold PolicyEngine.decision PolicyEngine.ruleMatches
    cases bestMatch (fun rule : PolicyRule => rule.enabled &&
        !PolicyEngine.ruleIsExpired rule ts && rule.pattern.flowMatches key direction)
        PolicyRule.priority engines.policies.rules with
    | none => rfl
    | some rule => rfl
  · intro key direction
    exact best_match_chooses _ _ _
  · intro domain reasonLen
    refine ⟨_, best_match_chooses _ _ _, ?_⟩
    unfold DnsFilter.evaluateDomain DnsFilter.ruleMatches
    cases bestMatch (fun rule : DnsFilterRule =>
        rule.enabled && domainMatch rule.patternText (CString.text domain))
        DnsFilterRule.priority engines.dns.rules with
    | none => rfl
    | some rule => rfl

theorem same_decisions {engines others : RuleEngines} (settings : SameSettings engines others) :
    SameDecisions engines others := by
  constructor
  · intro alike ts key direction
    have decided : engines.policies.decision ts key direction =
        others.policies.decision ts key direction := by
      unfold PolicyEngine.decision PolicyEngine.fillDefaultDecision
      rw [alike.same_choice, settings.policies]
    cases ready : others.policies.initialized with
    | true =>
        obtain ⟨done, decision⟩ :=
          PolicyEngine.evaluate_ready (settings.policiesReady.trans ready) ts key direction
        obtain ⟨doneThere, decisionThere⟩ := PolicyEngine.evaluate_ready ready ts key direction
        exact ⟨done.trans doneThere.symm, decision.trans (decided.trans decisionThere.symm)⟩
    | false =>
        have off := settings.policiesReady.trans ready
        simp [PolicyEngine.evaluate, off, ready]
  · intro alike key direction
    exact alike.same_choice _
  · intro alike domain reasonLen
    unfold DnsFilter.evaluateDomain
    rw [alike.same_choice, settings.dns]

/-- The greatest rule decides, and with different priorities the order of the edits that led
to a rule set does not matter. -/
theorem greatest_rule_decides :
    (∀ engines, DecidesByGreatest engines) ∧
      ∀ engines first second, (∀ call ∈ first, call.edits = true) →
        (∀ call ∈ second, call.edits = true) →
        SameDecisions (EventMachine.run RuleEngines.step engines first).1
          (EventMachine.run RuleEngines.step engines second).1 := by
  constructor
  · exact decides_by_greatest
  · intro engines first second editsFirst editsSecond
    have settings := edits_settings engines first editsFirst
    have others := edits_settings engines second editsSecond
    exact same_decisions ⟨settings.policiesReady.trans others.policiesReady.symm,
      settings.policies.trans others.policies.symm,
      settings.ratesReady.trans others.ratesReady.symm,
      settings.rates.trans others.rates.symm, settings.dns.trans others.dns.symm⟩

/-! ## The same rules in another order -/

theorem SameRuleSet.of_perm {Rule : Type} {capacity : Nat} {priority : Rule → UInt16}
    {first second : Slots Rule capacity} (order : first.toList.Perm second.toList)
    (distinct : ∀ rule ∈ first.toList, ∀ other ∈ first.toList,
      rule.map priority = other.map priority → rule = other) :
    SameRuleSet priority first second := by
  constructor
  · intro rule
    rw [← List.Vector.mem_iff_get, ← List.Vector.mem_iff_get]
    exact order.mem_iff
  · intro index slot rule other held heldOther same
    apply Option.some.inj
    apply distinct
    · exact (List.Vector.mem_iff_get _ first).mpr ⟨index, held⟩
    · exact (List.Vector.mem_iff_get _ first).mpr ⟨slot, heldOther⟩
    · exact congrArg some same

def webRule : PolicyRule :=
  { uplinkPolicy 100 (uplinkPattern 0 0 443 6) .allow 10 false "allow_https" with ruleId := 7 }

def dnsRule : PolicyRule :=
  { uplinkPolicy 700 (uplinkPattern 0 0 53 17) .allow 5 false "allow_dns" with ruleId := 8 }

def runningEngines : RuleEngines :=
  ⟨PolicyEngine.boot.init none, RateLimiter.boot.init none, DnsFilter.boot.init none⟩

def webFirst : List RuleCall := [.policies (.addRule webRule), .policies (.addRule dnsRule)]

def dnsFirst : List RuleCall := [.policies (.addRule dnsRule), .policies (.addRule webRule)]

theorem rules_in_either_order :
    SameRuleSet PolicyRule.priority
        (EventMachine.run RuleEngines.step runningEngines webFirst).1.policies.rules
        (EventMachine.run RuleEngines.step runningEngines dnsFirst).1.policies.rules ∧
      SameDecisions (EventMachine.run RuleEngines.step runningEngines webFirst).1
        (EventMachine.run RuleEngines.step runningEngines dnsFirst).1 := by
  constructor
  · apply SameRuleSet.of_perm
    · decide +kernel
    · decide +kernel
  · exact greatest_rule_decides.2 runningEngines webFirst dnsFirst
      (by simp [webFirst, RuleCall.edits, PolicyCall.edits])
      (by simp [dnsFirst, RuleCall.edits, PolicyCall.edits])

end BlindNet
