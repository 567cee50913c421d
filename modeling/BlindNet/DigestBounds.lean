import Mathlib.Data.List.GetD
import BlindNet.Suppression

/-!
# What the capsule digest reads

The digest of a received message is computed before anything is validated. Its
last part is as long as the capsule's length byte says, while the signature
field has 96 bytes; with a larger length the digest runs on into the active
substance.
-/

namespace BlindNet

set_option autoImplicit false

open ByteLayout RecencyRing

def digestPreimage (pill : ActionPill) : Bytes :=
  capsuleSignedCanonical pill.capsule ++ [pill.capsule.signatureLen] ++
    capsuleSignatureBytes pill.capsule (ActiveSubstance.layout.encode pill.active)

theorem message_signature_len {message : Bytes} (sized : message.length = actionPillSize) :
    message.getD 93 0 = (ActionPill.layout.decode message).capsule.signatureLen := by
  have byte : ∀ pill : ActionPill,
      (ActionPill.layout.encode pill).getD 93 0 = pill.capsule.signatureLen := by
    intro pill
    have length := capsule_signed_canonical_length pill.capsule
    rw [action_pill_encode, capsule_pill_encode, List.append_assoc,
      List.getD_append_right _ _ _ _ length.le, length]
    rfl
  rw [← byte, ActionPill.layout.encode_decode message sized]

theorem signature_reads_inside_iff (capsule : CapsulePill) :
    (∀ index ∈ capsuleSignatureReads capsule, index < capsulePillSignatureMaxLen) ↔
      capsule.signatureLen.toNat ≤ capsulePillSignatureMaxLen := by
  constructor
  · intro inside
    by_contra long
    have read : capsulePillSignatureMaxLen ∈ capsuleSignatureReads capsule :=
      List.mem_range.mpr (Nat.lt_of_not_le long)
    exact absurd (inside _ read) (Nat.lt_irrefl _)
  · intro short index read
    exact Nat.lt_of_lt_of_le (List.mem_range.mp read) short

/-- The first byte read past the signature is the first one of the substance. -/
theorem digest_preimage_past {pill : ActionPill}
    (past : capsulePillSignatureMaxLen < pill.capsule.signatureLen.toNat) :
    (digestPreimage pill).getD 190 0 = pill.active.version := by
  have length := capsule_signed_canonical_length pill.capsule
  have width : pill.capsule.signature.toList.length = 96 := pill.capsule.signature.toList_length
  have read : 96 < (List.range pill.capsule.signatureLen.toNat).length := by
    rw [List.length_range]
    exact past
  have front :
      (capsuleSignedCanonical pill.capsule ++ [pill.capsule.signatureLen]).length = 94 := by
    rw [List.length_append, length]
    rfl
  rw [digestPreimage, List.getD_append_right _ _ _ _ (by omega), front, capsuleSignatureBytes,
    capsuleSignatureReads]
  change List.getD (List.map _ _) 96 0 = _
  rw [List.getD_eq_getElem _ _ (by rw [List.length_map]; exact read), List.getElem_map,
    List.getElem_range, List.getD_append_right _ _ _ _ width.le, width]
  rfl

/-- A hash that tells one preimage from all others. -/
def markingCrypto (preimage : Bytes) : Crypto where
  mdSha256 message := some (List.Vector.replicate 32 (if message = preimage then 1 else 0))
  psaHmacSha256 _ _ := none
  psaAeadDecrypt _ _ _ _ := .error .failure
  pkVerify _ _ _ := false

theorem marking_crypto_digest (preimage : Bytes) (pill : ActionPill) :
    computeCapsuleDigest (markingCrypto preimage) pill =
      .ok (List.Vector.replicate 32 (if digestPreimage pill = preimage then 1 else 0)) := rfl

theorem marking_crypto_separates {pill other : ActionPill}
    (differs : digestPreimage other ≠ digestPreimage pill) :
    computeCapsuleDigest (markingCrypto (digestPreimage pill)) other ≠
      computeCapsuleDigest (markingCrypto (digestPreimage pill)) pill := by
  rw [marking_crypto_digest, marking_crypto_digest, if_neg differs, if_pos rfl]
  decide

def reversioned (pill : ActionPill) : ActionPill :=
  { pill with active := { pill.active with version := pill.active.version + 1 } }

theorem reversioned_preimage {pill : ActionPill}
    (past : capsulePillSignatureMaxLen < pill.capsule.signatureLen.toNat) :
    digestPreimage (reversioned pill) ≠ digestPreimage pill := by
  intro same
  have changed : (digestPreimage (reversioned pill)).getD 190 0 = pill.active.version + 1 :=
    @digest_preimage_past (reversioned pill) past
  rw [same, digest_preimage_past past] at changed
  have values := congrArg UInt8.toNat changed
  rw [UInt8.toNat_add, UInt8.toNat_one] at values
  omega

/-- The digest depends on the capsule alone exactly when the signature stays
inside its field. -/
theorem digest_of_capsule_iff (pill : ActionPill) :
    (∀ crypto other, other.capsule = pill.capsule →
        computeCapsuleDigest crypto other = computeCapsuleDigest crypto pill) ↔
      pill.capsule.signatureLen.toNat ≤ capsulePillSignatureMaxLen := by
  constructor
  · intro determined
    by_contra long
    have past := Nat.lt_of_not_le long
    exact marking_crypto_separates (reversioned_preimage past)
      (determined (markingCrypto (digestPreimage pill)) (reversioned pill) rfl)
  · intro short crypto other sameCapsule
    exact compute_capsule_digest_capsule sameCapsule short

theorem seen_or_add_cp_of_capsule_iff (pill : ActionPill) :
    (∀ crypto (stomach : Stomach) other, other.capsule = pill.capsule →
        stomach.seenOrAddCp crypto other = stomach.seenOrAddCp crypto pill) ↔
      pill.capsule.signatureLen.toNat ≤ capsulePillSignatureMaxLen := by
  constructor
  · intro determined
    by_contra long
    have past := Nat.lt_of_not_le long
    have answer : ∀ crypto other digest, computeCapsuleDigest crypto other = .ok digest →
        (Stomach.new.seenOrAddCp crypto other).1.digest = digest := by
      intro crypto other digest computed
      simp only [Stomach.seenOrAddCp, computed]
    have same := determined (markingCrypto (digestPreimage pill)) Stomach.new (reversioned pill) rfl
    apply marking_crypto_separates (reversioned_preimage past)
    rw [marking_crypto_digest, marking_crypto_digest,
      ← answer _ _ _ (marking_crypto_digest _ (reversioned pill)), same,
      answer _ _ _ (marking_crypto_digest _ pill)]
  · intro short crypto stomach other sameCapsule
    rw [Stomach.seenOrAddCp, Stomach.seenOrAddCp,
      compute_capsule_digest_capsule sameCapsule short]

/-- For every 480-byte message: the digest reads only inside the signature
field, the message id is a function of the capsule alone, and so is the
stomach's answer, each exactly when byte 93 is at most 96. -/
theorem digest_inside_iff (message : Bytes) (sized : message.length = actionPillSize) :
    ((∀ index ∈ capsuleSignatureReads (ActionPill.layout.decode message).capsule,
        index < capsulePillSignatureMaxLen) ↔ (message.getD 93 0).toNat ≤ 96) ∧
    ((∀ crypto other, other.capsule = (ActionPill.layout.decode message).capsule →
        computeInnerId crypto other =
          computeInnerId crypto (ActionPill.layout.decode message)) ↔
      (message.getD 93 0).toNat ≤ 96) ∧
    ((∀ crypto (stomach : Stomach) other,
        other.capsule = (ActionPill.layout.decode message).capsule →
        stomach.seenOrAddCp crypto other =
          stomach.seenOrAddCp crypto (ActionPill.layout.decode message)) ↔
      (message.getD 93 0).toNat ≤ 96) := by
  rw [message_signature_len sized]
  exact ⟨signature_reads_inside_iff _, digest_of_capsule_iff _, seen_or_add_cp_of_capsule_iff _⟩

def longPill : ActionPill :=
  { lampPill with capsule := { lampPill.capsule with signatureLen := 97 } }

def longId : MessageId := benchDigest (digestPreimage longPill)

theorem long_pill_digest : computeInnerId benchCrypto longPill = .ok longId := rfl

/-- A freshly booted Guardian completes and handles this pill; its digest reads
index 96 of the signature, and changes with the substance. -/
theorem long_pill_read_past :
    enterNormalMode lampConfig lampStored = .ok lampGuardian ∧
    Event.handled longPill ∈ (runGuardian benchCrypto lampGuardian
      (pillReceptions longPill longId fun _ => benchEnvironment)).2 ∧
    96 ∈ capsuleSignatureReads longPill.capsule ∧
    (reversioned longPill).capsule = longPill.capsule ∧
    computeInnerId benchCrypto (reversioned longPill) ≠ computeInnerId benchCrypto longPill := by
  refine ⟨lamp_guardian_booted, ?_, by decide, rfl, by decide +kernel⟩
  have unseen : longId ∉ lampGuardian.g2g.seenCache.recent := by
    simp [lampGuardian, G2g.boot]
  rcases @deliver_pill_idle benchCrypto lampGuardian longPill longId lamp_guardian_idle unseen
    long_pill_digest benchEnvironment with ⟨slots, sent, -, run⟩
  rw [run]
  exact List.mem_cons_self

theorem lamp_message_inside :
    (ActionPill.layout.encode lampPill).length = actionPillSize ∧
    (∀ index ∈ capsuleSignatureReads
        (ActionPill.layout.decode (ActionPill.layout.encode lampPill)).capsule,
      index < capsulePillSignatureMaxLen) := by
  constructor
  · exact ActionPill.layout.encode_length lampPill
  · apply (digest_inside_iff (ActionPill.layout.encode lampPill)
      (ActionPill.layout.encode_length lampPill)).1.mpr
    decide +kernel

end BlindNet
