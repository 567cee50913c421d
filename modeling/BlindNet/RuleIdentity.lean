import BlindNet.DnsFilter
import BlindNet.SecurityServices
import BlindNet.Lib.NumberedTable

/-!
# Rule identity

The policy engine, the rate limiter and the DNS filter number their rules in the same
way, so each of them is a numbered table. Ids come from a counter and from the caller,
and nothing compares the two: a rule is told apart by its id only while every id that
is given is new.
-/

namespace BlindNet

set_option autoImplicit false

open ByteLayout SlotTable EventMachine NumberedTable

inductive DnsFilterCall where
  | init (config : Option DnsFilterConfig)
  | addRule (rule : DnsFilterRule)
  | removeRule (ruleId : UInt32)

def DnsFilter.call (filter : DnsFilter) : DnsFilterCall → DnsFilter
  | .init config => filter.init config
  | .addRule rule => (filter.addRule rule).2
  | .removeRule ruleId => (filter.removeRule ruleId).2

structure RuleEngines where
  policies : PolicyEngine
  rates : RateLimiter
  dns : DnsFilter

inductive RuleCall where
  | policies (call : PolicyCall)
  | rates (call : RateCall)
  | dns (call : DnsFilterCall)

namespace RuleEngines

def boot : RuleEngines := ⟨.boot, .boot, .boot⟩

def step (engines : RuleEngines) : RuleCall → RuleEngines × List ZgEvent
  | .policies call => ({ engines with policies := engines.policies.call call }, [])
  | .rates call => ({ engines with rates := engines.rates.call call }, [])
  | .dns call => ({ engines with dns := engines.dns.call call }, [])

end RuleEngines

/-! ## The engines as numbered tables -/

def policyNumbering : Numbering PolicyRule where
  idOf := PolicyRule.ruleId
  withId id rule := { rule with ruleId := id }
  id_with _ _ := rfl

def rateNumbering : Numbering RateLimitRule where
  idOf := RateLimitRule.ruleId
  withId id rule := { rule with ruleId := id }
  id_with _ _ := rfl

def dnsNumbering : Numbering DnsFilterRule where
  idOf := DnsFilterRule.ruleId
  withId id rule := { rule with ruleId := id }
  id_with _ _ := rfl

namespace PolicyEngine

def numbered (engine : PolicyEngine) : Table PolicyRule policyEngineMaxRules :=
  ⟨engine.rules, engine.nextRuleId⟩

def ruleOp (engine : PolicyEngine) : PolicyCall → Op PolicyRule
  | .init _ => .clear
  | .reset => .clear
  | .addRule rule => if engine.initialized then .add { rule with enabled := true } else .keep
  | .removeRule ruleId => if !engine.initialized || ruleId == 0 then .keep else .remove ruleId
  | .setDefaultAction _ => .keep
  | .evaluate _ _ _ => .keep
  | .expireRules ts =>
      if engine.initialized then .release fun rule => ruleIsExpired rule ts else .keep

theorem call_numbered (engine : PolicyEngine) (call : PolicyCall) :
    (engine.call call).numbered = engine.numbered.apply policyNumbering (engine.ruleOp call) := by
  cases call with
  | init config => rfl
  | reset => rfl
  | setDefaultAction action => rfl
  | addRule rule =>
      simp only [PolicyEngine.call, addRule, ruleOp]
      cases engine.initialized with
      | false => rfl
      | true =>
          cases free : findEmpty engine.rules with
          | none => exact (@add_full _ _ policyNumbering engine.numbered free _).symm
          | some index =>
              exact (@add_free _ _ policyNumbering engine.numbered _ free
                { rule with enabled := true }).symm
  | removeRule ruleId =>
      simp only [PolicyEngine.call, removeRule, ruleOp]
      split
      · rfl
      · cases found : findEntry (fun rule => rule.ruleId == ruleId) engine.rules with
        | none => exact (@remove_missing _ _ policyNumbering engine.numbered _ found).symm
        | some first => exact (@remove_found _ _ policyNumbering engine.numbered _ _ _ found).symm
  | evaluate ts key direction =>
      simp only [PolicyEngine.call, evaluate, ruleOp]
      split <;> rfl
  | expireRules ts =>
      simp only [PolicyEngine.call, expireRules, ruleOp]
      cases engine.initialized <;> rfl

end PolicyEngine

namespace RateLimiter

def numbered (limiter : RateLimiter) : Table RateLimitRule rateLimiterMaxRules :=
  ⟨limiter.rules, limiter.nextRuleId⟩

def prepared (limiter : RateLimiter) (rule : RateLimitRule) : RateLimitRule :=
  { rule with
    enabled := true
    params := orDefaultWindow rule.params limiter.config.defaultParams.windowMs }

def ruleOp (limiter : RateLimiter) : RateCall → Op RateLimitRule
  | .init _ => .clear
  | .reset => .clear
  | .addRule rule => if limiter.initialized then .add (limiter.prepared rule) else .keep
  | .removeRule ruleId => if !limiter.initialized || ruleId == 0 then .keep else .remove ruleId
  | .check _ _ _ _ => .keep
  | .expireOld _ => .keep

theorem obtain_bucket_numbered {limiter ready : RateLimiter} {bucketKey : BucketKey}
    {ts : UInt32} {index : Fin rateLimiterMaxBuckets} {bucket : RateBucket}
    (obtained : limiter.obtainBucketLocked bucketKey ts = some (index, bucket, ready)) :
    ready.numbered = limiter.numbered := by
  unfold obtainBucketLocked at obtained
  split at obtained
  · cases obtained
    rfl
  · split at obtained
    · cases obtained
    · cases obtained
      rfl
    · cases obtained
      rfl

theorem check_numbered (ts : UInt32) (limiter : RateLimiter) (key : FlowKey)
    (direction : FlowDirection) (packetBytes : UInt32) :
    (limiter.check ts key direction packetBytes).2.2.numbered = limiter.numbered := by
  simp only [check]
  split
  · rfl
  · split
    next => rfl
    next index bucket ready obtained =>
      have kept := obtain_bucket_numbered obtained
      split
      · exact kept
      · exact kept

theorem call_numbered (limiter : RateLimiter) (call : RateCall) :
    (limiter.call call).numbered = limiter.numbered.apply rateNumbering (limiter.ruleOp call) := by
  cases call with
  | init config => rfl
  | reset => rfl
  | check ts key direction packetBytes => exact check_numbered ts limiter key direction packetBytes
  | addRule rule =>
      simp only [RateLimiter.call, addRule, ruleOp]
      cases limiter.initialized with
      | false => rfl
      | true =>
          cases free : findEmpty limiter.rules with
          | none => exact (@add_full _ _ rateNumbering limiter.numbered free _).symm
          | some index =>
              exact (@add_free _ _ rateNumbering limiter.numbered _ free
                (limiter.prepared rule)).symm
  | removeRule ruleId =>
      simp only [RateLimiter.call, removeRule, ruleOp]
      split
      · rfl
      · cases found : findEntry (fun rule => rule.ruleId == ruleId) limiter.rules with
        | none => exact (@remove_missing _ _ rateNumbering limiter.numbered _ found).symm
        | some first => exact (@remove_found _ _ rateNumbering limiter.numbered _ _ _ found).symm
  | expireOld ts =>
      simp only [RateLimiter.call, expireOld, ruleOp]
      cases limiter.initialized <;> rfl

end RateLimiter

namespace DnsFilter

def numbered (filter : DnsFilter) : Table DnsFilterRule dnsFilterMaxRules :=
  ⟨filter.rules, filter.nextRuleId⟩

def prepared (rule : DnsFilterRule) : DnsFilterRule :=
  { rule with enabled := true, pattern := strLower rule.pattern }

def ruleOp : DnsFilterCall → Op DnsFilterRule
  | .init _ => .clear
  | .addRule rule => .add (prepared rule)
  | .removeRule ruleId => .remove ruleId

theorem call_numbered (filter : DnsFilter) (call : DnsFilterCall) :
    (filter.call call).numbered = filter.numbered.apply dnsNumbering (ruleOp call) := by
  cases call with
  | init config => rfl
  | addRule rule =>
      simp only [DnsFilter.call, addRule, ruleOp]
      cases free : findEmpty filter.rules with
      | none => exact (@add_full _ _ dnsNumbering filter.numbered free _).symm
      | some index =>
          exact (@add_free _ _ dnsNumbering filter.numbered _ free (prepared rule)).symm
  | removeRule ruleId =>
      simp only [DnsFilter.call, removeRule, ruleOp]
      cases found : findEntry (fun rule => rule.ruleId == ruleId) filter.rules with
      | none => exact (@remove_missing _ _ dnsNumbering filter.numbered _ found).symm
      | some first => exact (@remove_found _ _ dnsNumbering filter.numbered _ _ _ found).symm

end DnsFilter

/-! ## Identity -/

/-- An addition is given an id that is not zero and that no rule of the engine has: the id
of the caller or, where that is zero, the counter. -/
def PolicyEngine.FreshCall (engine : PolicyEngine) : PolicyCall → Prop
  | .addRule rule => engine.numbered.Fresh policyNumbering rule
  | _ => True

def RateLimiter.FreshCall (limiter : RateLimiter) : RateCall → Prop
  | .addRule rule => limiter.numbered.Fresh rateNumbering rule
  | _ => True

def DnsFilter.FreshCall (filter : DnsFilter) : DnsFilterCall → Prop
  | .addRule rule => filter.numbered.Fresh dnsNumbering rule
  | _ => True

theorem PolicyEngine.call_well_numbered {engine : PolicyEngine} {call : PolicyCall}
    (fresh : engine.FreshCall call) (well : WellNumbered PolicyRule.ruleId engine.rules) :
    WellNumbered PolicyRule.ruleId (engine.call call).rules := by
  have freshOp : engine.numbered.FreshOp policyNumbering (engine.ruleOp call) := by
    cases call with
    | addRule rule =>
        simp only [ruleOp]
        split
        · exact fresh
        · trivial
    | removeRule ruleId =>
        simp only [ruleOp]
        split <;> trivial
    | expireRules ts =>
        simp only [ruleOp]
        split <;> trivial
    | _ => trivial
  have applied := apply_well_numbered freshOp well
  rw [← call_numbered] at applied
  exact applied

theorem RateLimiter.call_well_numbered {limiter : RateLimiter} {call : RateCall}
    (fresh : limiter.FreshCall call) (well : WellNumbered RateLimitRule.ruleId limiter.rules) :
    WellNumbered RateLimitRule.ruleId (limiter.call call).rules := by
  have freshOp : limiter.numbered.FreshOp rateNumbering (limiter.ruleOp call) := by
    cases call with
    | addRule rule =>
        simp only [ruleOp]
        split
        · exact fresh
        · trivial
    | removeRule ruleId =>
        simp only [ruleOp]
        split <;> trivial
    | _ => trivial
  have applied := apply_well_numbered freshOp well
  rw [← call_numbered] at applied
  exact applied

theorem DnsFilter.call_well_numbered {filter : DnsFilter} {call : DnsFilterCall}
    (fresh : filter.FreshCall call) (well : WellNumbered DnsFilterRule.ruleId filter.rules) :
    WellNumbered DnsFilterRule.ruleId (filter.call call).rules := by
  have freshOp : filter.numbered.FreshOp dnsNumbering (ruleOp call) := by
    cases call with
    | addRule rule => exact fresh
    | _ => trivial
  have applied := apply_well_numbered freshOp well
  rw [← call_numbered] at applied
  exact applied

def policyStore : Store PolicyEngine PolicyRule EspErr policyEngineMaxRules where
  view := PolicyEngine.numbered
  ready engine := engine.initialized = true
  prepare _ rule := { rule with enabled := true }
  add := PolicyEngine.addRule
  remove := PolicyEngine.removeRule

def rateStore : Store RateLimiter RateLimitRule EspErr rateLimiterMaxRules where
  view := RateLimiter.numbered
  ready limiter := limiter.initialized = true
  prepare := RateLimiter.prepared
  add := RateLimiter.addRule
  remove := RateLimiter.removeRule

def dnsStore : Store DnsFilter DnsFilterRule EspErr dnsFilterMaxRules where
  view := DnsFilter.numbered
  ready _ := True
  prepare _ := DnsFilter.prepared
  add := DnsFilter.addRule
  remove := DnsFilter.removeRule

theorem policy_store_lawful : policyStore.Lawful policyNumbering where
  same_id _ _ := rfl
  added := by
    intro engine rule id accepted
    change (engine.addRule rule).1 = .ok id at accepted
    have view := engine.call_numbered (.addRule rule)
    cases ready : engine.initialized with
    | false => simp [PolicyEngine.addRule, ready] at accepted
    | true =>
        simp only [PolicyEngine.ruleOp, ready, if_true] at view
        cases free : findEmpty engine.rules with
        | none => simp [PolicyEngine.addRule, ready, free] at accepted
        | some index =>
            simp only [PolicyEngine.addRule, ready, free] at accepted
            have started : (engine.addRule rule).2.initialized = true := by
              simp [PolicyEngine.addRule, ready, free]
            exact ⟨⟨index, free⟩, (Except.ok.inj accepted).symm, view, started⟩
  removed := by
    intro engine id found ready nonzero search
    change engine.initialized = true at ready
    change findEntry (fun rule => rule.ruleId == id) engine.rules = some found at search
    have view := engine.call_numbered (.removeRule id)
    have live : ¬ (!engine.initialized || id == 0) = true := by simp [ready, nonzero]
    simp only [PolicyEngine.ruleOp, if_neg live] at view
    have answered : (engine.removeRule id).1 = true := by
      simp only [PolicyEngine.removeRule, if_neg live, search]
    exact ⟨answered, view⟩

theorem rate_store_lawful : rateStore.Lawful rateNumbering where
  same_id _ _ := rfl
  added := by
    intro limiter rule id accepted
    change (limiter.addRule rule).1 = .ok id at accepted
    have view := limiter.call_numbered (.addRule rule)
    cases ready : limiter.initialized with
    | false => simp [RateLimiter.addRule, ready] at accepted
    | true =>
        simp only [RateLimiter.ruleOp, ready, if_true] at view
        cases free : findEmpty limiter.rules with
        | none => simp [RateLimiter.addRule, ready, free] at accepted
        | some index =>
            simp only [RateLimiter.addRule, ready, free] at accepted
            have started : (limiter.addRule rule).2.initialized = true := by
              simp [RateLimiter.addRule, ready, free]
            exact ⟨⟨index, free⟩, (Except.ok.inj accepted).symm, view, started⟩
  removed := by
    intro limiter id found ready nonzero search
    change limiter.initialized = true at ready
    change findEntry (fun rule => rule.ruleId == id) limiter.rules = some found at search
    have view := limiter.call_numbered (.removeRule id)
    have live : ¬ (!limiter.initialized || id == 0) = true := by simp [ready, nonzero]
    simp only [RateLimiter.ruleOp, if_neg live] at view
    have answered : (limiter.removeRule id).1 = true := by
      simp only [RateLimiter.removeRule, if_neg live, search]
    exact ⟨answered, view⟩

theorem dns_store_lawful : dnsStore.Lawful dnsNumbering where
  same_id _ _ := rfl
  added := by
    intro filter rule id accepted
    change (filter.addRule rule).1 = .ok id at accepted
    have view := filter.call_numbered (.addRule rule)
    cases free : findEmpty filter.rules with
    | none => simp [DnsFilter.addRule, free] at accepted
    | some index =>
        simp only [DnsFilter.addRule, free] at accepted
        exact ⟨⟨index, free⟩, (Except.ok.inj accepted).symm, view, trivial⟩
  removed := by
    intro filter id found _ _ search
    change findEntry (fun rule => rule.ruleId == id) filter.rules = some found at search
    have answered : (filter.removeRule id).1 = true := by
      simp only [DnsFilter.removeRule, search]
    exact ⟨answered, filter.call_numbered (.removeRule id)⟩

namespace RuleEngines

/-- Within each engine the ids of the rules are distinct and not zero. -/
structure RulesIdentified (engines : RuleEngines) : Prop where
  policies : WellNumbered PolicyRule.ruleId engines.policies.rules
  rates : WellNumbered RateLimitRule.ruleId engines.rates.rules
  dns : WellNumbered DnsFilterRule.ruleId engines.dns.rules

def Fresh (engines : RuleEngines) : RuleCall → Prop
  | .policies call => engines.policies.FreshCall call
  | .rates call => engines.rates.FreshCall call
  | .dns call => engines.dns.FreshCall call

/-- Removing the id that an addition returned removes the new rule and nothing else. -/
def RemovesAdded (engines : RuleEngines) : RuleCall → Prop
  | .policies (.addRule rule) => ∀ id, (engines.policies.addRule rule).1 = .ok id →
      ((engines.policies.addRule rule).2.removeRule id).1 = true ∧
        ((engines.policies.addRule rule).2.removeRule id).2.rules = engines.policies.rules
  | .rates (.addRule rule) => ∀ id, (engines.rates.addRule rule).1 = .ok id →
      ((engines.rates.addRule rule).2.removeRule id).1 = true ∧
        ((engines.rates.addRule rule).2.removeRule id).2.rules = engines.rates.rules
  | .dns (.addRule rule) => ∀ id, (engines.dns.addRule rule).1 = .ok id →
      ((engines.dns.addRule rule).2.removeRule id).1 = true ∧
        ((engines.dns.addRule rule).2.removeRule id).2.rules = engines.dns.rules
  | _ => True

theorem boot_identified : boot.RulesIdentified :=
  ⟨empty_well_numbered _, empty_well_numbered _, empty_well_numbered _⟩

theorem step_identified {engines : RuleEngines} {call : RuleCall} (fresh : engines.Fresh call)
    (identified : engines.RulesIdentified) : (engines.step call).1.RulesIdentified := by
  cases call with
  | policies call =>
      exact { identified with
        policies := PolicyEngine.call_well_numbered fresh identified.policies }
  | rates call =>
      exact { identified with rates := RateLimiter.call_well_numbered fresh identified.rates }
  | dns call =>
      exact { identified with dns := DnsFilter.call_well_numbered fresh identified.dns }

theorem RulesIdentified.removes_added {engines : RuleEngines}
    (identified : engines.RulesIdentified) {call : RuleCall} (fresh : engines.Fresh call) :
    engines.RemovesAdded call := by
  unfold RemovesAdded
  split
  next rule =>
    intro id accepted
    exact policy_store_lawful.removes_added identified.policies fresh accepted
  next rule =>
    intro id accepted
    exact rate_store_lawful.removes_added identified.rates fresh accepted
  next rule =>
    intro id accepted
    exact dns_store_lawful.removes_added identified.dns fresh accepted
  next => trivial

end RuleEngines

/-- In a run whose additions are all given fresh ids, every rule has an id of its own, and
the next addition with a fresh id is undone by removing the id it returned. -/
theorem fresh_ids_identify_rules (calls : List RuleCall)
    (fresh : ∀ before call after, calls = before ++ call :: after →
      (run RuleEngines.step .boot before).1.Fresh call) :
    (run RuleEngines.step .boot calls).1.RulesIdentified ∧
      ∀ call, (run RuleEngines.step .boot calls).1.Fresh call →
        (run RuleEngines.step .boot calls).1.RemovesAdded call := by
  have identified : (run RuleEngines.step .boot calls).1.RulesIdentified := by
    apply guarded_history_run RuleEngines.step RuleEngines.Fresh
      (fun engines _ => engines.RulesIdentified)
      (fun _ _ _ fresh identified => RuleEngines.step_identified fresh identified) .boot [] calls
      fresh RuleEngines.boot_identified
  apply And.intro identified
  intro call freshCall
  exact identified.removes_added freshCall

def chosenPolicy (ruleId : UInt32) (reason : String) : PolicyRule :=
  { uplinkPolicy 100 (uplinkPattern 0 0 443 6) .allow 10 false reason with ruleId := ruleId }

/-- The caller chooses an id that the counter is far from. -/
def numberedCalls : List RuleCall :=
  [.policies (.init none), .policies (.addRule (chosenPolicy 7 "allow_https")),
    .policies (.addRule (chosenPolicy 0 "allow_http"))]

theorem numbered_policies_identified :
    (run RuleEngines.step .boot numberedCalls).1.RulesIdentified ∧
      (run RuleEngines.step .boot numberedCalls).1.policies.rules.toList.reduceOption.map
        PolicyRule.ruleId = [7, 1] ∧
      ∃ added, (run RuleEngines.step .boot numberedCalls).1.policies.addRule
          (chosenPolicy 0 "allow_dns") = (.ok 2, added) ∧
        (added.removeRule 2).1 = true ∧
        (added.removeRule 2).2.rules =
          (run RuleEngines.step .boot numberedCalls).1.policies.rules := by
  have guarded : Guarded RuleEngines.step RuleEngines.Fresh .boot numberedCalls :=
    ⟨trivial, Table.fresh_iff.mpr (by decide +kernel), Table.fresh_iff.mpr (by decide +kernel),
      trivial⟩
  have spec := fresh_ids_identify_rules numberedCalls (Guarded.splits _ guarded)
  have second : ((run RuleEngines.step .boot numberedCalls).1.policies.addRule
      (chosenPolicy 0 "allow_dns")).1 = .ok 2 := by decide +kernel
  obtain ⟨answered, restored⟩ := spec.2 (.policies (.addRule (chosenPolicy 0 "allow_dns")))
    (Table.fresh_iff.mpr (by decide +kernel)) 2 second
  exact ⟨spec.1, by decide +kernel, _, Prod.ext second rfl, answered, restored⟩

def repeatedId : List RuleCall :=
  [.policies (.init none), .policies (.addRule (chosenPolicy 1 "allow_https")),
    .policies (.addRule (chosenPolicy 0 "allow_http"))]

/-- The counter hands out the id that the caller chose before, and removing the new rule
removes the old one. -/
theorem counter_repeats_chosen_id :
    ¬ (run RuleEngines.step .boot repeatedId).1.RulesIdentified ∧
      ¬ (run RuleEngines.step .boot (repeatedId.take 2)).1.RemovesAdded
        (.policies (.addRule (chosenPolicy 0 "allow_http"))) := by
  constructor
  · intro identified
    obtain ⟨keyed, slots⟩ := identified.policies.keyed
    have stored : (run RuleEngines.step .boot repeatedId).1.policies.rules.get
          ⟨0, by decide⟩ =
          some { chosenPolicy 1 "allow_https" with enabled := true } ∧
        (run RuleEngines.step .boot repeatedId).1.policies.rules.get
          ⟨1, by decide⟩ =
          some { chosenPolicy 1 "allow_http" with enabled := true } := by
      decide +kernel
    rw [← slots] at stored
    have same := keyed.distinct ⟨0, by decide⟩ ⟨1, by decide⟩ _ _ stored.1 stored.2 rfl
    exact absurd same (by decide)
  · intro exact_
    have removed := (exact_ 1 (by decide +kernel)).2
    have first := congrArg (fun rules => (rules.get ⟨0, by decide⟩).isSome) removed
    revert first
    decide +kernel

end BlindNet
