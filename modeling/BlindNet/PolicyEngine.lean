import BlindNet.FlowTable

/-!
# Policy engine

Rules in 64 slots. An evaluation takes the last of the matching rules with the
highest priority, or the default action.
-/

namespace BlindNet

set_option autoImplicit false

open ByteLayout SlotTable

def policyEngineMaxRules : Nat := 64

inductive PolicyAction where
  | allow
  | deny
  | rateLimit
  | quarantine
  | redirect
  | logOnly
  | askSwarm
  deriving DecidableEq, Repr

inductive PolicyReason where
  | ruleMatch
  | noRule
  | invalidInput
  deriving DecidableEq, Repr

structure PolicyRule where
  ruleId : UInt32
  enabled : Bool
  priority : UInt16
  pattern : FlowPattern
  action : PolicyAction
  riskScore : UInt8
  logEvent : Bool
  expiresAtMs : UInt32
  reason : ByteArr 48
  deriving DecidableEq

structure PolicyEngineConfig where
  defaultAction : PolicyAction
  defaultLogEvent : Bool
  defaultRiskScore : UInt8
  deriving DecidableEq

structure PolicyDecision where
  action : PolicyAction
  reason : PolicyReason
  matchedRuleId : UInt32
  matchedPriority : UInt16
  riskScore : UInt8
  logEvent : Bool
  reasonText : ByteArr 48
  deriving DecidableEq

structure PolicyEngineStats where
  capacity : UInt32
  activeRules : UInt32
  evaluations : UInt64
  allowed : UInt64
  denied : UInt64
  rateLimited : UInt64
  quarantined : UInt64
  redirected : UInt64
  logOnly : UInt64
  askSwarm : UInt64
  noMatch : UInt64
  invalidInput : UInt64
  deriving DecidableEq

structure PolicyEngine where
  initialized : Bool
  config : PolicyEngineConfig
  rules : Slots PolicyRule policyEngineMaxRules
  stats : PolicyEngineStats
  nextRuleId : UInt32

namespace PolicyEngine

def noRules : Slots PolicyRule policyEngineMaxRules := List.Vector.replicate _ none

def clearedStats : PolicyEngineStats := ⟨64, 0, 0, 0, 0, 0, 0, 0, 0, 0, 0, 0⟩

def boot : PolicyEngine :=
  ⟨false, ⟨.allow, false, 0⟩, noRules, ⟨0, 0, 0, 0, 0, 0, 0, 0, 0, 0, 0, 0⟩, 1⟩

def loadDefaultConfig : PolicyEngineConfig := ⟨.allow, false, 0⟩

def init (config : Option PolicyEngineConfig) (_ : PolicyEngine) : PolicyEngine :=
  ⟨true, config.getD loadDefaultConfig, noRules, clearedStats, 1⟩

def reset (engine : PolicyEngine) : PolicyEngine :=
  { engine with rules := noRules, stats := clearedStats, nextRuleId := 1 }

def ruleIsExpired (rule : PolicyRule) (ts : UInt32) : Bool :=
  rule.expiresAtMs != 0 && rule.expiresAtMs ≤ ts

def ruleMatches (rule : PolicyRule) (key : FlowKey) (direction : FlowDirection) (ts : UInt32) :
    Bool :=
  rule.enabled && !ruleIsExpired rule ts && rule.pattern.flowMatches key direction

def addRule (engine : PolicyEngine) (rule : PolicyRule) : Result UInt32 × PolicyEngine :=
  if !engine.initialized then
    (.error .invalidArg, engine)
  else
    match findEmpty engine.rules with
    | none => (.error .noMem, engine)
    | some index =>
        let ruleId := if rule.ruleId = 0 then engine.nextRuleId else rule.ruleId
        (.ok ruleId,
          { engine with
            rules := engine.rules.set index (some { rule with ruleId := ruleId, enabled := true })
            stats := { engine.stats with activeRules := engine.stats.activeRules + 1 }
            nextRuleId := if rule.ruleId = 0 then engine.nextRuleId + 1 else engine.nextRuleId })

def removeRule (engine : PolicyEngine) (ruleId : UInt32) : Bool × PolicyEngine :=
  if !engine.initialized || ruleId == 0 then
    (false, engine)
  else
    match findEntry (fun rule => rule.ruleId == ruleId) engine.rules with
    | none => (false, engine)
    | some (index, _) =>
        (true,
          { engine with
            rules := engine.rules.set index none
            stats := { engine.stats with
              activeRules :=
                if 0 < engine.stats.activeRules then engine.stats.activeRules - 1
                else engine.stats.activeRules } })

def setDefaultAction (engine : PolicyEngine) (action : PolicyAction) : PolicyEngine :=
  { engine with config := { engine.config with defaultAction := action } }

def expireRules (ts : UInt32) (engine : PolicyEngine) : UInt32 × PolicyEngine :=
  if !engine.initialized then
    (0, engine)
  else
    let old := fun rule => ruleIsExpired rule ts
    let expired := engine.rules.toList.countP fun slot => slot.any old
    (UInt32.ofNat expired,
      { engine with
        rules := release old engine.rules
        stats := { engine.stats with
          activeRules := UInt32.ofNat (engine.stats.activeRules.toNat - expired) } })

def fillDefaultDecision (engine : PolicyEngine) : PolicyDecision :=
  ⟨engine.config.defaultAction, .noRule, 0, 0, engine.config.defaultRiskScore,
    engine.config.defaultLogEvent, strncpyCleared 48 (CString.utf8 "default_policy")⟩

def fillRuleDecision (rule : PolicyRule) : PolicyDecision :=
  ⟨rule.action, .ruleMatch, rule.ruleId, rule.priority, rule.riskScore, rule.logEvent,
    strncpyCleared 48 rule.reason.toList⟩

def updateStatsForAction (stats : PolicyEngineStats) (action : PolicyAction) :
    PolicyEngineStats :=
  let counted := { stats with evaluations := stats.evaluations + 1 }
  match action with
  | .allow => { counted with allowed := stats.allowed + 1 }
  | .deny => { counted with denied := stats.denied + 1 }
  | .rateLimit => { counted with rateLimited := stats.rateLimited + 1 }
  | .quarantine => { counted with quarantined := stats.quarantined + 1 }
  | .redirect => { counted with redirected := stats.redirected + 1 }
  | .logOnly => { counted with logOnly := stats.logOnly + 1 }
  | .askSwarm => { counted with askSwarm := stats.askSwarm + 1 }

def decision (ts : UInt32) (engine : PolicyEngine) (key : FlowKey) (direction : FlowDirection) :
    PolicyDecision :=
  match bestMatch (fun rule => ruleMatches rule key direction ts) PolicyRule.priority
      engine.rules with
  | some rule => fillRuleDecision rule
  | none => engine.fillDefaultDecision

/-- The decision is filled in also when the evaluation reports an error. -/
def evaluate (ts : UInt32) (engine : PolicyEngine) (key : FlowKey) (direction : FlowDirection) :
    Result Unit × PolicyDecision × PolicyEngine :=
  if !engine.initialized then
    (.error .invalidArg,
      ⟨.deny, .invalidInput, 0, 0, 0, false, strncpyCleared 48 (CString.utf8 "invalid_input")⟩,
      { engine with stats := { engine.stats with
        invalidInput := engine.stats.invalidInput + 1 } })
  else
    let decision := engine.decision ts key direction
    let stats :=
      if decision.reason = .noRule then
        { engine.stats with noMatch := engine.stats.noMatch + 1 }
      else
        engine.stats
    (.ok (), decision, { engine with stats := updateStatsForAction stats decision.action })

theorem evaluate_ready {engine : PolicyEngine} (ready : engine.initialized = true) (ts : UInt32)
    (key : FlowKey) (direction : FlowDirection) :
    (engine.evaluate ts key direction).1 = .ok () ∧
      (engine.evaluate ts key direction).2.1 = engine.decision ts key direction := by
  simp [evaluate, ready]

theorem evaluate_off {engine : PolicyEngine} (off : engine.initialized = false) (ts : UInt32)
    (key : FlowKey) (direction : FlowDirection) :
    (engine.evaluate ts key direction).1 = .error .invalidArg := by
  simp [evaluate, off]

end PolicyEngine

end BlindNet
