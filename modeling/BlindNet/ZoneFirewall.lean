import BlindNet.DeviceRegistry
import BlindNet.PolicyEngine
import BlindNet.QuarantineManager
import BlindNet.RateLimiter

/-!
# Zone firewall

A flow passes the quarantine, the policies and the rate limits. The engines are
consulted one after the other, each with its own reading of the clock; a stage that
settles the verdict returns at once.
-/

namespace BlindNet

set_option autoImplicit false

open ByteLayout SlotTable

inductive ZoneFirewallVerdict where
  | allow
  | drop
  | redirect
  | logOnly
  deriving DecidableEq, Repr

structure ZoneFirewallConfig where
  zoneId : UInt32
  defaultAllow : Bool
  autoQuarantineOnRateLimit : Bool
  quarantineTtlMs : UInt32
  deriving DecidableEq

structure ZoneFirewallDecision where
  verdict : ZoneFirewallVerdict
  policyAction : PolicyAction
  rateExceeded : Bool
  quarantined : Bool
  riskScore : UInt8
  reason : ByteArr 64
  deriving DecidableEq

structure ZoneFirewallStats where
  evaluations : UInt64
  allowed : UInt64
  dropped : UInt64
  redirected : UInt64
  quarantinedHits : UInt64
  rateExceeded : UInt64
  policyDenied : UInt64
  deriving DecidableEq

structure ZoneFirewall where
  initialized : Bool
  config : ZoneFirewallConfig
  stats : ZoneFirewallStats

structure Security where
  flows : FlowTable
  quarantine : QuarantineManager
  policies : PolicyEngine
  rates : RateLimiter
  devices : DeviceRegistry
  firewall : ZoneFirewall

/-- What `now_ms` answers to the calls of one evaluation, in their order. -/
structure FirewallClock where
  touch : UInt32
  quarantine : UInt32
  policy : UInt32
  policyQuarantine : UInt32
  rate : UInt32
  rateQuarantine : UInt32

structure FlowPacket where
  key : FlowKey
  direction : FlowDirection
  bytes : UInt32

def ZoneFirewall.boot : ZoneFirewall := ⟨false, ⟨0, false, false, 0⟩, ⟨0, 0, 0, 0, 0, 0, 0⟩⟩

def ZoneFirewall.init (config : Option ZoneFirewallConfig) (_ : ZoneFirewall) : ZoneFirewall :=
  let given := config.getD ⟨0, false, false, 0⟩
  ⟨true,
    { given with
      quarantineTtlMs := if given.quarantineTtlMs = 0 then 60000 else given.quarantineTtlMs },
    ⟨0, 0, 0, 0, 0, 0, 0⟩⟩

namespace Security

def boot : Security :=
  ⟨.boot, .boot, .boot, .boot, .boot, .boot⟩

def count (state : Security) (change : ZoneFirewallStats → ZoneFirewallStats) : Security :=
  { state with firewall := { state.firewall with stats := change state.firewall.stats } }

def publishEvent (state : Security) (type : ZgEventType) (key : FlowKey) (risk : UInt8)
    (reason : Bytes) : ZgEvent :=
  ⟨type, state.firewall.config.zoneId, 0, key.srcIp, key.dstIp, key.srcPort, key.dstPort,
    key.proto, risk, strncpyCleared 48 reason⟩

/-- The two calls that quarantine the source of a flow; their results are ignored. -/
def quarantineSource (state : Security) (ts : UInt32) (ip : UInt32) (source : QuarantineSource)
    (risk : UInt8) (reason : Bytes) : Security × List ZgEvent :=
  let added := state.quarantine.add ts (.ip ip) .blockAll source
    state.firewall.config.quarantineTtlMs risk reason
  let marked := state.devices.setStateByIp ip .quarantined risk
  ({ state with quarantine := added.2, devices := marked.2.1 }, marked.2.2)

abbrev Evaluation : Type := Result ZoneFirewallDecision × Security × List ZgEvent

/-- The branch of an exceeded rate. -/
def rateDropped (clock : FirewallClock) (state : Security) (packet : FlowPacket)
    (decision : ZoneFirewallDecision) (result : RateLimitResult) : Evaluation :=
  let risk := max decision.riskScore 80
  let exceeded := state.count fun stats => { stats with rateExceeded := stats.rateExceeded + 1 }
  let event := exceeded.publishEvent .rateExceeded packet.key risk result.reasonText.toList
  let quarantined :=
    if exceeded.firewall.config.autoQuarantineOnRateLimit && result.suggestQuarantine then
      exceeded.quarantineSource clock.rateQuarantine packet.key.srcIp .rateLimit risk
        result.reasonText.toList
    else
      (exceeded, [])
  (.ok { decision with
      verdict := .drop
      rateExceeded := true
      riskScore := risk
      reason := strncpyCleared 64 result.reasonText.toList },
    quarantined.1.count fun stats => { stats with dropped := stats.dropped + 1 },
    event :: quarantined.2)

/-- The end of an evaluation that no stage settled. Whatever verdict the decision
held before is overwritten. -/
def passed (state : Security) (packet : FlowPacket) (decision : ZoneFirewallDecision) :
    Evaluation :=
  let counted := state.count fun stats => { stats with allowed := stats.allowed + 1 }
  if decision.policyAction = .logOnly then
    (.ok { decision with verdict := .logOnly }, counted,
      [state.publishEvent .flowSeen packet.key decision.riskScore decision.reason.toList])
  else
    (.ok { decision with verdict := .allow }, counted, [])

def rateStage (clock : FirewallClock) (state : Security) (packet : FlowPacket)
    (decision : ZoneFirewallDecision) : Evaluation :=
  let checked := state.rates.check clock.rate packet.key packet.direction packet.bytes
  let limited := { state with rates := checked.2.2 }
  if checked.1 = .ok () ∧ checked.2.1.decision = .exceeded then
    rateDropped clock limited packet decision checked.2.1
  else
    passed limited packet decision

def deniedByPolicy (state : Security) : Security :=
  state.count fun stats =>
    { stats with dropped := stats.dropped + 1, policyDenied := stats.policyDenied + 1 }

/-- What follows from a policy that was selected. -/
def applyPolicy (clock : FirewallClock) (state : Security) (packet : FlowPacket)
    (decision : ZoneFirewallDecision) (policy : PolicyDecision) : Evaluation :=
  match policy.action with
  | .deny =>
      (.ok { decision with verdict := .drop }, state.deniedByPolicy,
        [state.publishEvent .policyDeny packet.key policy.riskScore policy.reasonText.toList])
  | .quarantine =>
      let quarantined := state.quarantineSource clock.policyQuarantine packet.key.srcIp
        .localPolicy policy.riskScore policy.reasonText.toList
      (.ok { decision with verdict := .drop }, quarantined.1.deniedByPolicy,
        quarantined.2 ++ [state.publishEvent .deviceQuarantined packet.key policy.riskScore
          policy.reasonText.toList])
  | .redirect =>
      (.ok { decision with verdict := .redirect },
        state.count fun stats => { stats with redirected := stats.redirected + 1 }, [])
  | _ => rateStage clock state packet decision

/-- The policies settle the verdict, or leave it to the rate limits. The error branch
sets a verdict but does not return. -/
def policyStage (clock : FirewallClock) (state : Security) (packet : FlowPacket)
    (decision : ZoneFirewallDecision) : Evaluation :=
  let evaluated := state.policies.evaluate clock.policy packet.key packet.direction
  let ruled := { state with policies := evaluated.2.2 }
  let policy := evaluated.2.1
  match evaluated.1 with
  | .error _ =>
      rateStage clock ruled packet
        { decision with verdict := if ruled.firewall.config.defaultAllow then .allow else .drop }
  | .ok () =>
      applyPolicy clock ruled packet
        { decision with
          policyAction := policy.action
          riskScore := policy.riskScore
          reason := strncpyCleared 64 policy.reasonText.toList }
        policy

def evaluateFlow (clock : FirewallClock) (state : Security) (packet : FlowPacket) : Evaluation :=
  if !state.firewall.initialized then
    (.error .invalidArg, state, [])
  else
    let counted := state.count fun stats => { stats with evaluations := stats.evaluations + 1 }
    let touched := { counted with
      flows := (counted.flows.touch clock.touch packet.key packet.direction packet.bytes).2 }
    let checked := touched.quarantine.check clock.quarantine (.ip packet.key.srcIp)
    let seen := { touched with quarantine := checked.2 }
    let initial : ZoneFirewallDecision :=
      ⟨.allow, .allow, false, false, 0, List.Vector.replicate 64 0⟩
    match checked.1 with
    | none => policyStage clock seen packet initial
    | some found =>
        let decision := { initial with
          quarantined := true
          riskScore := found.riskScore
          reason := strncpyCleared 64 found.reason.toList }
        if found.mode = .blockAll then
          (.ok { decision with verdict := .drop },
            seen.count fun stats => { stats with
              dropped := stats.dropped + 1
              quarantinedHits := stats.quarantinedHits + 1 },
            [seen.publishEvent .policyDeny packet.key found.riskScore
              (CString.utf8 "quarantine_block")])
        else
          policyStage clock seen packet decision

end Security

end BlindNet
