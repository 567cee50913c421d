import BlindNet.SecurityServices
import BlindNet.Lib.BestMatch
import BlindNet.Lib.Machine

/-!
# Expired rules

The policy engine frees rules that have expired. A run of evaluations with such calls is
compared with the same run without them: the rules that are missing in one of the tables
match nothing any more in the other.
-/

namespace BlindNet

set_option autoImplicit false

open SlotTable

def PolicyCall.reading : PolicyCall → Option UInt32
  | .evaluate ts _ _ => some ts
  | .expireRules ts => some ts
  | _ => none

def PolicyCall.isExpiry : PolicyCall → Bool
  | .expireRules _ => true
  | _ => false

def PolicyCall.isEvaluation : PolicyCall → Bool
  | .evaluate _ _ _ => true
  | _ => false

namespace PolicyEngine

def decisionStep (engine : PolicyEngine) (call : PolicyCall) :
    PolicyEngine × List (Result Unit × PolicyDecision) :=
  (engine.call call,
    match call with
    | .evaluate ts key direction =>
        [((engine.evaluate ts key direction).1, (engine.evaluate ts key direction).2.1)]
    | _ => [])

theorem rule_expired_later {rule : PolicyRule} {ts later : UInt32} (order : ts ≤ later)
    (expired : ruleIsExpired rule ts = true) : ruleIsExpired rule later = true := by
  unfold ruleIsExpired at expired ⊢
  simp only [Bool.and_eq_true, decide_eq_true_eq] at expired ⊢
  exact ⟨expired.1, UInt32.le_trans expired.2 order⟩

/-- A run with expiries may lack rules of the plain run, but only such as have expired for
all calls to come. -/
structure Pruned (rest : List PolicyCall) (engine plain : PolicyEngine) : Prop where
  ready : engine.initialized = plain.initialized
  config : engine.config = plain.config
  ordered : (rest.filterMap PolicyCall.reading).Pairwise (· ≤ ·)
  calls : ∀ call ∈ rest, call.isEvaluation = true ∨ call.isExpiry = true
  rules : ∀ index, engine.rules.get index = plain.rules.get index ∨
    (engine.rules.get index = none ∧ ∃ rule, plain.rules.get index = some rule ∧
      ∀ ts ∈ rest.filterMap PolicyCall.reading, ruleIsExpired rule ts = true)

theorem Pruned.same_decision {rest : List PolicyCall} {engine plain : PolicyEngine}
    (pruned : Pruned rest engine plain) {ts : UInt32}
    (now : ts ∈ rest.filterMap PolicyCall.reading) (key : FlowKey) (direction : FlowDirection) :
    engine.decision ts key direction = plain.decision ts key direction := by
  have same : bestMatch (fun rule => ruleMatches rule key direction ts) PolicyRule.priority
      engine.rules =
      bestMatch (fun rule => ruleMatches rule key direction ts) PolicyRule.priority
        plain.rules := by
    apply best_match_congr
    intro index rule
    cases pruned.rules index with
    | inl equal => rw [equal]
    | inr gone =>
        obtain ⟨absent, old, held, expired⟩ := gone
        rw [absent, held]
        constructor
        · intro impossible
          cases impossible.1
        · intro ⟨isOld, matches_⟩
          cases isOld
          simp [ruleMatches, expired ts now] at matches_
  unfold decision fillDefaultDecision
  rw [same, pruned.config]

theorem Pruned.later {call : PolicyCall} {rest : List PolicyCall} {engine plain : PolicyEngine}
    (pruned : Pruned (call :: rest) engine plain) : Pruned rest engine plain := by
  have fewer := (List.sublist_cons_self call rest).filterMap PolicyCall.reading
  refine ⟨pruned.ready, pruned.config, pruned.ordered.sublist fewer,
    fun other member => pruned.calls other (List.mem_cons_of_mem _ member), ?_⟩
  intro index
  cases pruned.rules index with
  | inl equal => exact .inl equal
  | inr gone =>
      obtain ⟨absent, rule, held, expired⟩ := gone
      exact .inr ⟨absent, rule, held, fun ts member => expired ts (fewer.subset member)⟩

theorem Pruned.expired {ts : UInt32} {rest : List PolicyCall} {engine plain : PolicyEngine}
    (pruned : Pruned (.expireRules ts :: rest) engine plain) :
    Pruned rest (engine.expireRules ts).2 plain := by
  have later := (List.pairwise_cons.mp pruned.ordered).1
  obtain ⟨ready, config, orderedRest, callsRest, rulesRest⟩ := pruned.later
  unfold expireRules
  split_ifs with off
  · exact ⟨ready, config, orderedRest, callsRest, rulesRest⟩
  · refine ⟨ready, config, orderedRest, callsRest, ?_⟩
    intro index
    change (release _ engine.rules).get index = _ ∨ (release _ engine.rules).get index = none ∧ _
    rw [release_get]
    cases rulesRest index with
    | inr gone =>
        right
        rw [gone.1]
        exact ⟨rfl, gone.2⟩
    | inl equal =>
        cases held : plain.rules.get index with
        | none =>
            left
            rw [equal, held]
            rfl
        | some rule =>
            rw [equal, held, Option.filter_some]
            cases expired : ruleIsExpired rule ts with
            | false => exact .inl rfl
            | true =>
                right
                exact ⟨rfl, rule, rfl, fun now member =>
                  rule_expired_later (later now member) expired⟩

theorem Pruned.evaluated {ts : UInt32} {key : FlowKey} {direction : FlowDirection}
    {rest : List PolicyCall} {engine plain : PolicyEngine}
    (pruned : Pruned (.evaluate ts key direction :: rest) engine plain) :
    (engine.decisionStep (.evaluate ts key direction)).2 =
        (plain.decisionStep (.evaluate ts key direction)).2 ∧
      Pruned rest (engine.decisionStep (.evaluate ts key direction)).1
        (plain.decisionStep (.evaluate ts key direction)).1 := by
  have now : ts ∈ (PolicyCall.evaluate ts key direction :: rest).filterMap PolicyCall.reading :=
    List.mem_cons_self
  have decided := pruned.same_decision now key direction
  obtain ⟨ready, config, orderedRest, callsRest, rulesRest⟩ := pruned.later
  have unchanged : ∀ other : PolicyEngine,
      (other.evaluate ts key direction).2.2.initialized = other.initialized ∧
        (other.evaluate ts key direction).2.2.config = other.config ∧
        (other.evaluate ts key direction).2.2.rules = other.rules := by
    intro other
    unfold evaluate
    split_ifs
    · exact ⟨rfl, rfl, rfl⟩
    · exact ⟨rfl, rfl, rfl⟩
  obtain ⟨readyHere, configHere, rulesHere⟩ := unchanged engine
  obtain ⟨readyThere, configThere, rulesThere⟩ := unchanged plain
  constructor
  · cases running : plain.initialized with
    | true =>
        obtain ⟨okHere, sameHere⟩ := evaluate_ready (ready.trans running) ts key direction
        obtain ⟨okThere, sameThere⟩ := evaluate_ready running ts key direction
        simp only [decisionStep]
        rw [okHere, okThere, sameHere, sameThere, decided]
    | false =>
        simp [decisionStep, evaluate, ready.trans running, running]
  · refine ⟨readyHere.trans (ready.trans readyThere.symm),
      configHere.trans (config.trans configThere.symm), orderedRest, callsRest, ?_⟩
    intro index
    change (engine.evaluate ts key direction).2.2.rules.get index =
        (plain.evaluate ts key direction).2.2.rules.get index ∨
      ((engine.evaluate ts key direction).2.2.rules.get index = none ∧
        ∃ rule, (plain.evaluate ts key direction).2.2.rules.get index = some rule ∧ _)
    rw [rulesHere, rulesThere]
    exact rulesRest index

/-- Evaluations and expiries in the order of their 32-bit times. -/
structure EvaluationRun (calls : List PolicyCall) : Prop where
  kinds : ∀ call ∈ calls, call.isEvaluation = true ∨ call.isExpiry = true
  ordered : (calls.filterMap PolicyCall.reading).Pairwise (· ≤ ·)

/-- Expiries of rules change no decision. -/
theorem expiry_invisible (engine : PolicyEngine) (calls : List PolicyCall)
    (run : EvaluationRun calls) :
    (EventMachine.run decisionStep engine calls).2 =
      (EventMachine.run decisionStep engine (calls.filter fun call => !call.isExpiry)).2 := by
  apply EventMachine.run_skipping decisionStep PolicyCall.isExpiry Pruned
  · intro call rest state plain isExpiry pruned
    cases call with
    | expireRules ts => exact ⟨rfl, pruned.expired⟩
    | _ => cases isExpiry
  · intro call rest state plain notExpiry pruned
    have kind := pruned.calls call List.mem_cons_self
    rw [notExpiry] at kind
    cases call with
    | evaluate ts key direction => exact pruned.evaluated
    | _ => simp [PolicyCall.isEvaluation] at kind
  · exact ⟨rfl, rfl, run.ordered, run.kinds, fun index => .inl rfl⟩

end PolicyEngine

end BlindNet
