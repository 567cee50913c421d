import BlindNet.Platform
import BlindNet.Lib.SlotTable

/-!
# DNS filter

The name a query asks for, answers made up for it, and rules on domain names in 32
slots. A name is judged by the last of the matching rules with the highest priority.
Neither adding nor removing a rule asks whether the filter was initialised.
-/

namespace BlindNet

set_option autoImplicit false

open ByteLayout SlotTable

def dnsFilterMaxRules : Nat := 32
def dnsFilterDomainLen : Nat := 128

inductive DnsFilterAction where
  | allow
  | block
  | redirect
  | logOnly
  deriving DecidableEq, Repr

def DnsFilterAction.code : DnsFilterAction → Nat
  | .allow => 0
  | .block => 1
  | .redirect => 2
  | .logOnly => 3

structure DnsFilterRule where
  ruleId : UInt32
  enabled : Bool
  priority : UInt16
  pattern : ByteArr dnsFilterDomainLen
  action : DnsFilterAction
  redirectIp : UInt32
  riskScore : UInt8
  reason : ByteArr 48
  deriving DecidableEq

structure DnsFilterConfig where
  listenPort : UInt16
  upstreamDnsIp : UInt32
  defaultAllow : Bool
  deriving DecidableEq

structure DnsFilterStats where
  queries : UInt64
  allowed : UInt64
  blocked : UInt64
  redirected : UInt64
  errors : UInt64
  activeRules : UInt32
  deriving DecidableEq

structure DnsVerdict (reasonLen : Nat) where
  action : DnsFilterAction
  redirectIp : UInt32
  riskScore : UInt8
  reason : ByteArr reasonLen
  deriving DecidableEq

structure DnsFilter where
  config : DnsFilterConfig
  rules : Slots DnsFilterRule dnsFilterMaxRules
  stats : DnsFilterStats
  nextRuleId : UInt32

def dnsFilterIpv4 (a b c d : UInt8) : UInt32 :=
  a.toUInt32 <<< 24 ||| b.toUInt32 <<< 16 ||| c.toUInt32 <<< 8 ||| d.toUInt32

/-- `str_lower` on a field. Without a NUL in the field the loop goes on into the bytes of
the action, which are no letters, and ends there. -/
def strLower {size : Nat} (field : ByteArr size) : ByteArr size :=
  ⟨CString.lower field.toList, by rw [CString.lower_length, List.Vector.toList_length]⟩

/-! ## Domain patterns -/

/-- What the string functions read as the pattern of a rule. Without a NUL in the field
they go on into the bytes of the action, the second of which is zero. -/
def DnsFilterRule.patternText (rule : DnsFilterRule) : Bytes :=
  CString.text (rule.pattern.toList ++ leBytes 4 rule.action.code)

/-- A star alone matches everything, one in front matches any beginning. -/
def domainMatch (pattern domain : Bytes) : Bool :=
  match pattern with
  | [] => false
  | first :: suffix =>
      if pattern = [42] then true
      else if first = 42 then
        suffix.length ≤ domain.length && domain.drop (domain.length - suffix.length) == suffix
      else pattern == domain

/-! ## Question names -/

def dotted (room : Nat) (out : Bytes) : Bytes :=
  if out ≠ [] ∧ out.length < room then out ++ [46] else out

/-- The loop of `parse_dns_qname` over the bytes from `pos` on, with what was written to
`out` so far and room for so many bytes before its NUL. A turn passes the length and the
bytes it copied, which are not all of the label once `out` is full. -/
def parseDnsQnameLoop (room : Nat) : Nat → Bytes → Bytes → Option Bytes
  | fuel + 1, labelLen :: rest, out =>
      if labelLen = 0 then some out
      else if labelLen &&& 0xC0 ≠ 0 then none
      else if rest.length < labelLen.toNat then none
      else
        let copied := min labelLen.toNat (room - (dotted room out).length)
        parseDnsQnameLoop room fuel (rest.drop copied) (dotted room out ++ rest.take copied)
  | _, _, out => some out

/-- `out` up to the NUL written last, if the function returns true. The name starts behind
the header of 12 bytes, and every turn of the loop passes a byte. -/
def parseDnsQname (buf : Bytes) (outLen : Nat) : Option Bytes :=
  if buf.length < 12 ∨ outLen = 0 then none
  else
    match parseDnsQnameLoop (outLen - 1) buf.length (buf.drop 12) [] with
    | none => none
    | some out => if out = [] then none else some (CString.lower (out ++ [0]))

/-- The loop of `find_qname_end` over the bytes from `pos` on. A label that ends behind the
datagram leaves none. -/
def findQnameEndLoop : Nat → Nat → Bytes → Option Nat
  | fuel + 1, pos, size :: rest =>
      if size = 0 then some (pos + 1)
      else if size &&& 0xC0 ≠ 0 then none
      else findQnameEndLoop fuel (pos + 1 + size.toNat) (rest.drop size.toNat)
  | _, _, _ => none

def findQnameEnd (buf : Bytes) : Option Nat := findQnameEndLoop buf.length 12 (buf.drop 12)

/-- The answer behind the question: a pointer to byte 12, type A, class IN, a minute to
live and four bytes of address. -/
def aRecord (ipHostOrder : UInt32) : Bytes :=
  [0xC0, 0x0C, 0x00, 0x01, 0x00, 0x01, 0x00, 0x00, 0x00, 0x3C, 0x00, 0x04] ++
    (leBytes 4 ipHostOrder.toNat).reverse

/-- The bytes of `resp` up to the length that the function returns. -/
def buildAResponse (query : Bytes) (rsize : Nat) (ipHostOrder : UInt32) : Option Bytes :=
  if query.length < 12 ∨ rsize < query.length + 16 then none
  else
    match findQnameEnd query with
    | none => none
    | some qnameEnd =>
        if query.length < qnameEnd + 4 then none
        else
          let resp := query.take (qnameEnd + 4)
          some ((((resp.set 2 0x81).set 3 0x80).set 6 0x00).set 7 0x01 ++ aRecord ipHostOrder)

namespace DnsFilter

def noRules : Slots DnsFilterRule dnsFilterMaxRules := List.Vector.replicate _ none

def boot : DnsFilter := ⟨⟨0, 0, false⟩, noRules, ⟨0, 0, 0, 0, 0, 0⟩, 1⟩

def init (config : Option DnsFilterConfig) (_ : DnsFilter) : DnsFilter :=
  let given := config.getD ⟨53, dnsFilterIpv4 8 8 8 8, true⟩
  ⟨if given.listenPort = 0 then { given with listenPort := 53 } else given, noRules,
    ⟨0, 0, 0, 0, 0, 0⟩, 1⟩

def addRule (filter : DnsFilter) (rule : DnsFilterRule) : Result UInt32 × DnsFilter :=
  match findEmpty filter.rules with
  | none => (.error .noMem, filter)
  | some index =>
      let ruleId := if rule.ruleId = 0 then filter.nextRuleId else rule.ruleId
      (.ok ruleId,
        { filter with
          rules := filter.rules.set index (some { rule with
            ruleId := ruleId
            enabled := true
            pattern := strLower rule.pattern })
          stats := { filter.stats with activeRules := filter.stats.activeRules + 1 }
          nextRuleId := if rule.ruleId = 0 then filter.nextRuleId + 1 else filter.nextRuleId })

def removeRule (filter : DnsFilter) (ruleId : UInt32) : Bool × DnsFilter :=
  match findEntry (fun rule => rule.ruleId == ruleId) filter.rules with
  | none => (false, filter)
  | some (index, _) =>
      (true,
        { filter with
          rules := filter.rules.set index none
          stats := { filter.stats with
            activeRules :=
              if 0 < filter.stats.activeRules then filter.stats.activeRules - 1
              else filter.stats.activeRules } })

def ruleMatches (rule : DnsFilterRule) (domain : Bytes) : Bool :=
  rule.enabled && domainMatch rule.patternText (CString.text domain)

/-- The reason is cut to the caller's field. A caller that leaves an answer out gets the
others. -/
def evaluateDomain (filter : DnsFilter) (domain : Bytes) (reasonLen : Nat) :
    DnsVerdict reasonLen :=
  match bestMatch (fun rule => ruleMatches rule domain) DnsFilterRule.priority filter.rules with
  | none =>
      ⟨if filter.config.defaultAllow then .allow else .block, 0, 0,
        strncpyCleared reasonLen (CString.utf8 "dns_default")⟩
  | some best =>
      ⟨best.action, best.redirectIp, best.riskScore,
        strncpyCleared reasonLen best.reason.toList⟩

end DnsFilter

end BlindNet
