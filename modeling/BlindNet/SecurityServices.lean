import BlindNet.ZoneFirewall
import BlindNet.Lib.Machine

/-!
# Security services

How the node starts the security engines, and what can be called on them afterwards.
The quarantine manager is not among the engines that are started.
-/

namespace BlindNet

set_option autoImplicit false

open ByteLayout SlotTable EventMachine

def policyEngineIpv4 (a b c d : UInt8) : UInt32 :=
  a.toUInt32 <<< 24 ||| b.toUInt32 <<< 16 ||| c.toUInt32 <<< 8 ||| d.toUInt32

def policyEngineCidrMask (cidr : UInt8) : UInt32 :=
  if cidr = 0 then 0
  else if 32 ≤ cidr then 0xFFFFFFFF
  else 0xFFFFFFFF <<< (32 - cidr.toUInt32)

/-- A rule of the node for what leaves the zone, from any source. -/
def uplinkPattern (dstIp dstMask : UInt32) (dstPort : UInt16) (proto : UInt8) : FlowPattern :=
  ⟨.zoneToUplink, 0, 0, dstIp, dstMask, 0, dstPort, proto⟩

def uplinkPolicy (priority : UInt16) (pattern : FlowPattern) (action : PolicyAction)
    (riskScore : UInt8) (logEvent : Bool) (reason : String) : PolicyRule :=
  ⟨0, false, priority, pattern, action, riskScore, logEvent, 0,
    strncpyCleared 48 (CString.utf8 reason)⟩

def uplinkRateLimit (priority : UInt16) (pattern : FlowPattern) (params : RateLimitParams)
    (suggestQuarantine : Bool) (reason : String) : RateLimitRule :=
  ⟨0, false, priority, pattern, params, true, suggestQuarantine,
    strncpyCleared 48 (CString.utf8 reason)⟩

def initialPolicies : List PolicyRule :=
  [uplinkPolicy 800 (uplinkPattern (policyEngineIpv4 192 168 1 0) (policyEngineCidrMask 24) 0 0)
      .deny 80 true "block_lateral_lan",
    uplinkPolicy 700 (uplinkPattern 0 0 53 17) .allow 5 false "allow_dns",
    uplinkPolicy 100 (uplinkPattern 0 0 80 6) .allow 10 false "allow_http",
    uplinkPolicy 100 (uplinkPattern 0 0 443 6) .allow 10 false "allow_https"]

def initialRateLimits : List RateLimitRule :=
  [uplinkRateLimit 100 (uplinkPattern 0 0 0 0) ⟨1000, 100, 0⟩ false "general_zone_rate_limit",
    uplinkRateLimit 500 (uplinkPattern 0 0 53 17) ⟨10000, 30, 0⟩ true "dns_flood_protection"]

def addAll {Engine Rule Id : Type} (addRule : Engine → Rule → Result Id × Engine)
    (engine : Engine) : List Rule → Result Unit × Engine
  | [] => (.ok (), engine)
  | rule :: rest =>
      match addRule engine rule with
      | (.ok _, next) => addAll addRule next rest
      | (.error err, next) => (.error err, next)

def addInitialPolicies (engine : PolicyEngine) : Result Unit × PolicyEngine :=
  addAll PolicyEngine.addRule engine initialPolicies

def addInitialRateLimits (limiter : RateLimiter) : Result Unit × RateLimiter :=
  addAll RateLimiter.addRule limiter initialRateLimits

def startOptionalSecurityServices (zoneId : UInt32) (state : Security) :
    Result Unit × Security :=
  let flowing := { state with flows := state.flows.init (some ⟨60000, 10 * 60000, true⟩) }
  let policies := addInitialPolicies (flowing.policies.init (some ⟨.allow, false, 0⟩))
  let ruled := { flowing with policies := policies.2 }
  match policies.1 with
  | .error err => (.error err, ruled)
  | .ok () =>
      let rates := addInitialRateLimits
        (ruled.rates.init (some ⟨⟨1000, 100, 0⟩, 60000, true⟩))
      let limited := { ruled with rates := rates.2 }
      match rates.1 with
      | .error err => (.error err, limited)
      | .ok () =>
          (.ok (), { limited with
            firewall := limited.firewall.init (some ⟨zoneId, true, false, 0⟩) })

/-- The engines have room for the initial rules, so the services always start. -/
theorem start_succeeds (zoneId : UInt32) (state : Security) :
    (startOptionalSecurityServices zoneId state).1 = .ok () := by
  have policies : (addInitialPolicies (state.policies.init (some ⟨.allow, false, 0⟩))).1 =
      .ok () := by
    have fresh : state.policies.init (some ⟨.allow, false, 0⟩) =
        PolicyEngine.boot.init (some ⟨.allow, false, 0⟩) := rfl
    rw [fresh]
    decide +kernel
  have rates : (addInitialRateLimits
      (state.rates.init (some ⟨⟨1000, 100, 0⟩, 60000, true⟩))).1 = .ok () := by
    have fresh : state.rates.init (some ⟨⟨1000, 100, 0⟩, 60000, true⟩) =
        RateLimiter.boot.init (some ⟨⟨1000, 100, 0⟩, 60000, true⟩) := rfl
    rw [fresh]
    decide +kernel
  unfold startOptionalSecurityServices
  simp only [policies, rates]

/-! ## Calls -/

inductive QuarantineCall where
  | init (config : Option QuarantineManagerConfig)
  | reset
  | add (ts : UInt32) (subject : QuarantineSubject) (mode : QuarantineMode)
      (source : QuarantineSource) (ttlMs : UInt32) (riskScore : UInt8) (reason : Bytes)
  | remove (subject : QuarantineSubject)
  | check (ts : UInt32) (subject : QuarantineSubject)
  | expireOld (ts : UInt32)

def QuarantineManager.call (manager : QuarantineManager) : QuarantineCall → QuarantineManager
  | .init config => manager.init config
  | .reset => manager.reset
  | .add ts subject mode source ttlMs riskScore reason =>
      (manager.add ts subject mode source ttlMs riskScore reason).2
  | .remove subject => (manager.remove subject).2
  | .check ts subject => (manager.check ts subject).2
  | .expireOld ts => (manager.expireOld ts).2

inductive PolicyCall where
  | init (config : Option PolicyEngineConfig)
  | reset
  | addRule (rule : PolicyRule)
  | removeRule (ruleId : UInt32)
  | setDefaultAction (action : PolicyAction)
  | evaluate (ts : UInt32) (key : FlowKey) (direction : FlowDirection)
  | expireRules (ts : UInt32)

def PolicyEngine.call (engine : PolicyEngine) : PolicyCall → PolicyEngine
  | .init config => engine.init config
  | .reset => engine.reset
  | .addRule rule => (engine.addRule rule).2
  | .removeRule ruleId => (engine.removeRule ruleId).2
  | .setDefaultAction action => engine.setDefaultAction action
  | .evaluate ts key direction => (engine.evaluate ts key direction).2.2
  | .expireRules ts => (engine.expireRules ts).2

inductive RateCall where
  | init (config : Option RateLimiterConfig)
  | reset
  | addRule (rule : RateLimitRule)
  | removeRule (ruleId : UInt32)
  | check (ts : UInt32) (key : FlowKey) (direction : FlowDirection) (packetBytes : UInt32)
  | expireOld (ts : UInt32)

def RateLimiter.call (limiter : RateLimiter) : RateCall → RateLimiter
  | .init config => limiter.init config
  | .reset => limiter.reset
  | .addRule rule => (limiter.addRule rule).2
  | .removeRule ruleId => (limiter.removeRule ruleId).2
  | .check ts key direction packetBytes => (limiter.check ts key direction packetBytes).2.2
  | .expireOld ts => (limiter.expireOld ts).2

inductive FlowCall where
  | init (config : Option FlowTableConfig)
  | reset
  | touch (ts : UInt32) (key : FlowKey) (direction : FlowDirection) (bytes : UInt32)
  | setState (key : FlowKey) (state : FlowState)
  | setRisk (key : FlowKey) (riskScore : UInt8)
  | setPolicyAction (key : FlowKey) (action : UInt32)
  | expireOld (ts : UInt32)

def FlowTable.call (table : FlowTable) : FlowCall → FlowTable
  | .init config => table.init config
  | .reset => table.reset
  | .touch ts key direction bytes => (table.touch ts key direction bytes).2
  | .setState key state => (table.setState key state).2
  | .setRisk key riskScore => (table.setRisk key riskScore).2
  | .setPolicyAction key action => (table.setPolicyAction key action).2
  | .expireOld ts => (table.expireOld ts).2

inductive SecurityCall where
  | evaluate (clock : FirewallClock) (packet : FlowPacket)
  | firewall (config : Option ZoneFirewallConfig)
  | quarantine (call : QuarantineCall)
  | policies (call : PolicyCall)
  | rates (call : RateCall)
  | flows (call : FlowCall)

/-- One call, with the events it publishes. -/
def securityStep (state : Security) : SecurityCall → Security × List ZgEvent
  | .evaluate clock packet => (state.evaluateFlow clock packet).2
  | .firewall config => ({ state with firewall := state.firewall.init config }, [])
  | .quarantine call => ({ state with quarantine := state.quarantine.call call }, [])
  | .policies call => ({ state with policies := state.policies.call call }, [])
  | .rates call => ({ state with rates := state.rates.call call }, [])
  | .flows call => ({ state with flows := state.flows.call call }, [])

end BlindNet
