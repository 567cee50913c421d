import BlindNet.CapsulePill
import BlindNet.ActiveEnzyme

/-!
# Action pill

A capsule followed by its active substance, 480 bytes in memory and on the
wire. The capsule's digest is the pill's identity: the message id between
Guardians and the key of the replay caches.
-/

namespace BlindNet

set_option autoImplicit false

open ByteLayout

structure ActionPill where
  capsule : CapsulePill
  active : ActiveSubstance
  deriving DecidableEq

def actionPillSize : Nat := 480

def ActionPill.equiv : CapsulePill × ActiveSubstance ≃ ActionPill where
  toFun := fun (capsule, active) => ⟨capsule, active⟩
  invFun pill := (pill.capsule, pill.active)
  left_inv _ := rfl
  right_inv _ := rfl

def ActionPill.layout : Layout ActionPill actionPillSize :=
  (CapsulePill.layout.pair ActiveSubstance.layout).iso ActionPill.equiv

def precheckForRelay (pill : ActionPill) (nowMs : UInt32) : Result Unit :=
  match activeSubstanceValidateEnvelope pill.active with
  | .error err => .error err
  | .ok () => capsulePillValidateBasic pill.capsule nowMs

def capsuleMatchesActive (crypto : Crypto) (pill : ActionPill) : Bool :=
  capsulePillMatchesActive crypto pill.capsule pill.active

def issuerKeyMatches (pill : ActionPill) (expectedIssuerKeyId : ByteArr 16) : Bool :=
  constantTimeEqual pill.capsule.issuerKeyId.toList expectedIssuerKeyId.toList

def verifyCapsuleSignature (crypto : Crypto) (pill : ActionPill) (issuerPublicKey : Bytes) :
    Bool :=
  capsulePillVerifyAsymmetric crypto pill.capsule issuerPublicKey

/-- The active substance lies right behind the capsule. -/
def computeCapsuleDigest (crypto : Crypto) (pill : ActionPill) : Result (ByteArr 32) :=
  capsulePillComputeDigest crypto pill.capsule (ActiveSubstance.layout.encode pill.active)

def computeInnerId (crypto : Crypto) (pill : ActionPill) : Result (ByteArr 32) :=
  computeCapsuleDigest crypto pill

theorem precheck_for_relay_ok {pill : ActionPill} {nowMs : UInt32} :
    precheckForRelay pill nowMs = .ok () ↔
      activeSubstanceValidateEnvelope pill.active = .ok () ∧ pill.capsule.BasicValid nowMs := by
  rw [← capsule_pill_validate_basic_ok]
  unfold precheckForRelay
  cases activeSubstanceValidateEnvelope pill.active <;> simp

theorem action_pill_encode (pill : ActionPill) :
    ActionPill.layout.encode pill =
      CapsulePill.layout.encode pill.capsule ++ ActiveSubstance.layout.encode pill.active := rfl

/-- While the signature stays inside its field, pills with one capsule have one
digest, whatever substance they carry. -/
theorem compute_capsule_digest_capsule {crypto : Crypto} {first second : ActionPill}
    (same : first.capsule = second.capsule)
    (inside : second.capsule.signatureLen.toNat ≤ capsulePillSignatureMaxLen) :
    computeCapsuleDigest crypto first = computeCapsuleDigest crypto second := by
  simp only [computeCapsuleDigest, capsulePillComputeDigest, same,
    capsule_signature_bytes_inside _ inside]

end BlindNet
