import BlindNet.Interop

/-!
# The byte streams that are hashed

The capsule's digest and the substance's hash are taken over their fields one
after the other, each part of variable length behind its own length. Equal
streams therefore have equal fields, and two authorised pills with one message
id differ at most in what no stream contains.
-/

namespace BlindNet

set_option autoImplicit false

open ByteLayout

abbrev SignedFields :=
  UInt8 × UInt8 × UInt8 × UInt8 × UInt32 × UInt32 × ByteArr 16 × ByteArr 16 × ByteArr 32 ×
    ByteArr 16 × UInt8

def CapsulePill.signedFields (capsule : CapsulePill) : SignedFields :=
  (capsule.version, capsule.flags, capsule.actionClass, capsule.reserved0, capsule.issuedMs,
    capsule.expiresMs, capsule.networkId, capsule.nonce, capsule.activeHash, capsule.issuerKeyId,
    capsule.signatureAlg)

def signedLayout : Layout SignedFields 93 :=
  Layout.byte.pair <| Layout.byte.pair <| Layout.byte.pair <| Layout.byte.pair <|
    Layout.u32.pair <| Layout.u32.pair <| (Layout.block 16).pair <| (Layout.block 16).pair <|
    (Layout.block 32).pair <| (Layout.block 16).pair Layout.byte

theorem capsule_signed_canonical_encode (capsule : CapsulePill) :
    capsuleSignedCanonical capsule = signedLayout.encode capsule.signedFields := by
  simp only [capsuleSignedCanonical, List.append_assoc]
  rfl

def capsuleDigestInput (capsule : CapsulePill) (following : Bytes) : Bytes :=
  capsuleSignedCanonical capsule ++ [capsule.signatureLen] ++
    capsuleSignatureBytes capsule following

theorem capsule_pill_compute_digest_ok {crypto : Crypto} {capsule : CapsulePill}
    {following : Bytes} {digest : ByteArr 32} :
    capsulePillComputeDigest crypto capsule following = .ok digest ↔
      crypto.mdSha256 (capsuleDigestInput capsule following) = some digest := by
  unfold capsulePillComputeDigest capsuleDigestInput
  cases crypto.mdSha256 (capsuleSignedCanonical capsule ++ [capsule.signatureLen] ++
    capsuleSignatureBytes capsule following) <;> simp

/-- What the digest of a capsule commits to. -/
structure CapsulePill.SameContent (first second : CapsulePill) : Prop where
  signed : first.signedFields = second.signedFields
  signatureLen : first.signatureLen = second.signatureLen
  signature : first.signature.toList.take first.signatureLen.toNat =
    second.signature.toList.take second.signatureLen.toNat

theorem capsule_digest_input_inj {first second : CapsulePill} {following other : Bytes}
    (firstInside : first.signatureLen.toNat ≤ capsulePillSignatureMaxLen)
    (secondInside : second.signatureLen.toNat ≤ capsulePillSignatureMaxLen)
    (same : capsuleDigestInput first following = capsuleDigestInput second other) :
    first.SameContent second := by
  simp only [capsuleDigestInput, capsule_signature_bytes_inside _ firstInside,
    capsule_signature_bytes_inside _ secondInside, capsule_signed_canonical_encode,
    List.append_assoc] at same
  obtain ⟨signed, rest⟩ := signedLayout.encode_append_inj same
  obtain ⟨length, signature⟩ := Layout.byte.encode_append_inj rest
  exact ⟨signed, length, signature⟩

abbrev SubstanceHeader := UInt8 × UInt8 × UInt16 × ByteArr 12 × ByteArr 16

def ActiveSubstance.header (substance : ActiveSubstance) : SubstanceHeader :=
  (substance.version, substance.cipher, substance.ciphertextLen, substance.nonce, substance.tag)

def substanceHeaderLayout : Layout SubstanceHeader 32 :=
  Layout.byte.pair <| Layout.byte.pair <| Layout.u16.pair <| (Layout.block 12).pair
    (Layout.block 16)

theorem active_substance_hash_input_encode (substance : ActiveSubstance) :
    activeSubstanceHashInput substance = substanceHeaderLayout.encode substance.header ++
      substance.ciphertext.toList.take substance.ciphertextLen.toNat := by
  have header : substanceHeaderLayout.encode substance.header =
      [substance.version, substance.cipher] ++ (leBytes 2 substance.ciphertextLen.toNat ++
        (substance.nonce.toList ++ substance.tag.toList)) := rfl
  simp only [activeSubstanceHashInput, header, List.append_assoc]

/-- The encrypted command: everything but the unused end of the buffer. -/
structure ActiveSubstance.SameCommand (first second : ActiveSubstance) : Prop where
  version : first.version = second.version
  cipher : first.cipher = second.cipher
  ciphertextLen : first.ciphertextLen = second.ciphertextLen
  nonce : first.nonce = second.nonce
  tag : first.tag = second.tag
  ciphertext : first.ciphertext.toList.take first.ciphertextLen.toNat =
    second.ciphertext.toList.take second.ciphertextLen.toNat

theorem active_substance_hash_input_inj {first second : ActiveSubstance}
    (same : activeSubstanceHashInput first = activeSubstanceHashInput second) :
    first.SameCommand second := by
  rw [active_substance_hash_input_encode, active_substance_hash_input_encode] at same
  obtain ⟨headers, ciphertext⟩ := substanceHeaderLayout.encode_append_inj same
  simp only [ActiveSubstance.header, Prod.mk.injEq] at headers
  obtain ⟨version, cipher, length, nonce, tag⟩ := headers
  exact ⟨version, cipher, length, nonce, tag, ciphertext⟩

/-- Two byte streams with one hash are equal. -/
def NoCollision (crypto : Crypto) (first second : Bytes) : Prop :=
  ∀ hash, crypto.mdSha256 first = some hash → crypto.mdSha256 second = some hash → first = second

/-- The pill passes the authorisation for some clock, issuer and key. -/
def EverAuthorised (crypto : Crypto) (pill : ActionPill) : Prop :=
  ∃ nowMs issuerKeyId issuerPublicKey,
    validateAuthorized crypto pill nowMs issuerKeyId issuerPublicKey = .ok ()

def ActionPill.digestInput (pill : ActionPill) : Bytes :=
  capsuleDigestInput pill.capsule (ActiveSubstance.layout.encode pill.active)

theorem EverAuthorised.bound {crypto : Crypto} {pill : ActionPill}
    (authorised : EverAuthorised crypto pill) :
    pill.capsule.signatureLen.toNat ≤ capsulePillSignatureMaxLen ∧
    crypto.mdSha256 (activeSubstanceHashInput pill.active) = some pill.capsule.activeHash := by
  obtain ⟨nowMs, issuerKeyId, issuerPublicKey, accepted⟩ := authorised
  obtain ⟨-, valid, -, hashed, -⟩ := validate_authorized_ok.mp accepted
  exact ⟨valid.signatureLen_le, (active_substance_hash_ok.mp hashed).2⟩

/-- Equal streams have equal contents; and where SHA-256 does not collide on
them, authorised pills with one message id have equal contents and the same
encrypted command. -/
theorem canonical_encodings_unambiguous (crypto : Crypto) :
    (∀ (first second : CapsulePill) (following other : Bytes),
      first.signatureLen.toNat ≤ 96 → second.signatureLen.toNat ≤ 96 →
      capsuleDigestInput first following = capsuleDigestInput second other →
        first.SameContent second) ∧
    (∀ first second : ActiveSubstance, activeSubstanceValidateEnvelope first = .ok () →
      activeSubstanceValidateEnvelope second = .ok () →
      activeSubstanceHashInput first = activeSubstanceHashInput second →
        first.SameCommand second) ∧
    ∀ (first second : ActionPill) (messageId : ByteArr 32), EverAuthorised crypto first →
      EverAuthorised crypto second → computeInnerId crypto first = .ok messageId →
      computeInnerId crypto second = .ok messageId →
      NoCollision crypto first.digestInput second.digestInput →
      NoCollision crypto (activeSubstanceHashInput first.active)
        (activeSubstanceHashInput second.active) →
      first.capsule.SameContent second.capsule ∧ first.active.SameCommand second.active := by
  refine ⟨?_, ?_, ?_⟩
  · intro first second following other firstInside secondInside same
    exact capsule_digest_input_inj firstInside secondInside same
  · intro first second _ _ same
    exact active_substance_hash_input_inj same
  · intro first second messageId authorised otherAuthorised digest otherDigest capsules substances
    obtain ⟨inside, hashed⟩ := authorised.bound
    obtain ⟨otherInside, otherHashed⟩ := otherAuthorised.bound
    have streams := capsules messageId (capsule_pill_compute_digest_ok.mp digest)
      (capsule_pill_compute_digest_ok.mp otherDigest)
    have content := capsule_digest_input_inj inside otherInside streams
    have named : first.capsule.activeHash = second.capsule.activeHash :=
      congrArg (fun fields : SignedFields => fields.2.2.2.2.2.2.2.2.1) content.signed
    rw [named] at hashed
    exact ⟨content, active_substance_hash_input_inj (substances _ hashed otherHashed)⟩

def paddedPill : ActionPill :=
  { lampPill with active :=
      { lampPill.active with ciphertext := lampPill.active.ciphertext.set 255 1 } }

theorem padded_pill_same_content :
    paddedPill ≠ lampPill ∧ lampPill.capsule.SameContent paddedPill.capsule ∧
      lampPill.active.SameCommand paddedPill.active := by
  -- One evaluation of the two pills serves all of these.
  obtain ⟨authorised, padded, digest, capsules, substances, different⟩ :
      validateAuthorized benchCrypto lampPill 5 lampConfig.issuerKeyId (CString.utf8 "BENCH") =
        .ok () ∧
      validateAuthorized benchCrypto paddedPill 5 lampConfig.issuerKeyId (CString.utf8 "BENCH") =
        .ok () ∧
      computeInnerId benchCrypto paddedPill = .ok lampBuild.messageId ∧
      lampPill.digestInput = paddedPill.digestInput ∧
      activeSubstanceHashInput lampPill.active = activeSubstanceHashInput paddedPill.active ∧
      paddedPill ≠ lampPill := by
    decide +kernel
  exact ⟨different, (canonical_encodings_unambiguous benchCrypto).2.2 lampPill paddedPill
    lampBuild.messageId ⟨_, _, _, authorised⟩ ⟨_, _, _, padded⟩ lamp_pill_digest digest
    (fun _ _ _ => capsules) (fun _ _ _ => substances)⟩

end BlindNet
