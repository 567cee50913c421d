import BlindNet.ActiveSubstance

/-!
# Capsule pill

The signed envelope of a command: validity window, nonce, hash of the active
substance, issuer and signature. The digest hashes `signature_len` bytes from
the start of the signature field without comparing that length to the field, so
it takes the memory after the capsule as an argument.
-/

namespace BlindNet

set_option autoImplicit false

open ByteLayout

def capsulePillVersion : UInt8 := 3
def capsulePillActionUnknown : UInt8 := 0
def capsulePillSignatureEcdsaSha256Der : UInt8 := 1
def capsulePillSignatureMaxLen : Nat := 96

structure CapsulePill where
  version : UInt8
  flags : UInt8
  actionClass : UInt8
  reserved0 : UInt8
  issuedMs : UInt32
  expiresMs : UInt32
  networkId : ByteArr 16
  nonce : ByteArr 16
  activeHash : ByteArr 32
  issuerKeyId : ByteArr 16
  signatureAlg : UInt8
  signatureLen : UInt8
  reserved1 : ByteArr 2
  signature : ByteArr 96
  deriving DecidableEq

def CapsulePill.equiv :
    UInt8 × UInt8 × UInt8 × UInt8 × UInt32 × UInt32 × ByteArr 16 × ByteArr 16 × ByteArr 32 ×
      ByteArr 16 × UInt8 × UInt8 × ByteArr 2 × ByteArr 96 ≃ CapsulePill where
  toFun := fun (version, flags, actionClass, reserved0, issuedMs, expiresMs, networkId, nonce,
      activeHash, issuerKeyId, signatureAlg, signatureLen, reserved1, signature) =>
    ⟨version, flags, actionClass, reserved0, issuedMs, expiresMs, networkId, nonce,
      activeHash, issuerKeyId, signatureAlg, signatureLen, reserved1, signature⟩
  invFun c := (c.version, c.flags, c.actionClass, c.reserved0, c.issuedMs, c.expiresMs,
    c.networkId, c.nonce, c.activeHash, c.issuerKeyId, c.signatureAlg, c.signatureLen,
    c.reserved1, c.signature)
  left_inv _ := rfl
  right_inv _ := rfl

def CapsulePill.layout : Layout CapsulePill 192 :=
  (Layout.byte.pair <| Layout.byte.pair <| Layout.byte.pair <| Layout.byte.pair <|
    Layout.u32.pair <| Layout.u32.pair <| (Layout.block 16).pair <| (Layout.block 16).pair <|
    (Layout.block 32).pair <| (Layout.block 16).pair <| Layout.byte.pair <| Layout.byte.pair <|
    (Layout.block 2).pair <| Layout.block 96).iso CapsulePill.equiv

/-- The fields the issuer signs, as `capsule_update_signed_canonical` feeds them. -/
def capsuleSignedCanonical (capsule : CapsulePill) : Bytes :=
  [capsule.version, capsule.flags, capsule.actionClass, capsule.reserved0] ++
    leBytes 4 capsule.issuedMs.toNat ++ leBytes 4 capsule.expiresMs.toNat ++
    capsule.networkId.toList ++ capsule.nonce.toList ++ capsule.activeHash.toList ++
    capsule.issuerKeyId.toList ++ [capsule.signatureAlg]

theorem capsule_signed_canonical_length (capsule : CapsulePill) :
    (capsuleSignedCanonical capsule).length = 93 := by
  simp [capsuleSignedCanonical]

theorem capsule_pill_encode (capsule : CapsulePill) :
    CapsulePill.layout.encode capsule = capsuleSignedCanonical capsule ++
      (capsule.signatureLen :: (capsule.reserved1.toList ++ capsule.signature.toList)) := by
  simp only [capsuleSignedCanonical, List.append_assoc]
  rfl

def capsuleComputeSignedHash (crypto : Crypto) (capsule : CapsulePill) : Result (ByteArr 32) :=
  match crypto.mdSha256 (capsuleSignedCanonical capsule) with
  | none => .error .fail
  | some hash => .ok hash

def capsulePillValidateBasic (capsule : CapsulePill) (nowMs : UInt32) : Result Unit :=
  if capsule.version ≠ capsulePillVersion then
    .error .invalidVersion
  else if capsule.actionClass = capsulePillActionUnknown then
    .error .invalidArg
  else if capsule.reserved0 ≠ 0 ∨ bytesAllZero capsule.reserved1.toList = false then
    .error .invalidArg
  else if capsule.issuedMs = 0 ∨ capsule.expiresMs ≤ capsule.issuedMs then
    .error .invalidArg
  else if nowMs ≠ 0 ∧ capsule.expiresMs < nowMs then
    .error .timeout
  else if bytesAllZero capsule.nonce.toList then
    .error .invalidArg
  else if bytesAllZero capsule.issuerKeyId.toList then
    .error .invalidArg
  else if bytesAllZero capsule.activeHash.toList then
    .error .invalidArg
  else if capsule.signatureAlg ≠ capsulePillSignatureEcdsaSha256Der then
    .error .notSupported
  else if capsule.signatureLen = 0 ∨ capsulePillSignatureMaxLen < capsule.signatureLen.toNat then
    .error .invalidSize
  else if bytesAllZero (capsule.signature.toList.take capsule.signatureLen.toNat) then
    .error .invalidArg
  else
    .ok ()

def capsulePillMatchesActive (crypto : Crypto) (capsule : CapsulePill)
    (substance : ActiveSubstance) : Bool :=
  match activeSubstanceHash crypto substance with
  | .error _ => false
  | .ok hash => constantTimeEqual capsule.activeHash.toList hash.toList

/-- The indices into the signature field that the digest reads. -/
def capsuleSignatureReads (capsule : CapsulePill) : List Nat :=
  List.range capsule.signatureLen.toNat

/-- What the digest reads at those indices, `following` being the memory right
after the capsule. -/
def capsuleSignatureBytes (capsule : CapsulePill) (following : Bytes) : Bytes :=
  (capsuleSignatureReads capsule).map fun index =>
    (capsule.signature.toList ++ following).getD index 0

def capsulePillComputeDigest (crypto : Crypto) (capsule : CapsulePill) (following : Bytes) :
    Result (ByteArr 32) :=
  match crypto.mdSha256 (capsuleSignedCanonical capsule ++ [capsule.signatureLen] ++
      capsuleSignatureBytes capsule following) with
  | none => .error .fail
  | some digest => .ok digest

def capsulePillVerifyAsymmetric (crypto : Crypto) (capsule : CapsulePill) (publicKey : Bytes) :
    Bool :=
  if publicKey = [] then
    false
  else if capsulePillValidateBasic capsule 0 ≠ .ok () then
    false
  else
    match capsuleComputeSignedHash crypto capsule with
    | .error _ => false
    | .ok hash =>
        crypto.pkVerify publicKey hash
          (capsule.signature.toList.take capsule.signatureLen.toNat)

/-- A capsule that is complete and not past its expiry; a clock reading of zero
counts as unknown. -/
structure CapsulePill.BasicValid (capsule : CapsulePill) (nowMs : UInt32) : Prop where
  version : capsule.version = capsulePillVersion
  actionClass : capsule.actionClass ≠ capsulePillActionUnknown
  reserved0 : capsule.reserved0 = 0
  reserved1 : bytesAllZero capsule.reserved1.toList = true
  issued : capsule.issuedMs ≠ 0
  window : capsule.issuedMs < capsule.expiresMs
  unexpired : nowMs = 0 ∨ nowMs ≤ capsule.expiresMs
  nonce : bytesAllZero capsule.nonce.toList = false
  issuerKeyId : bytesAllZero capsule.issuerKeyId.toList = false
  activeHash : bytesAllZero capsule.activeHash.toList = false
  signatureAlg : capsule.signatureAlg = capsulePillSignatureEcdsaSha256Der
  signatureLen : capsule.signatureLen ≠ 0
  signatureLen_le : capsule.signatureLen.toNat ≤ capsulePillSignatureMaxLen
  signature : bytesAllZero (capsule.signature.toList.take capsule.signatureLen.toNat) = false

theorem capsule_pill_validate_basic_ok {capsule : CapsulePill} {nowMs : UInt32} :
    capsulePillValidateBasic capsule nowMs = .ok () ↔ capsule.BasicValid nowMs := by
  simp only [capsulePillValidateBasic, guard_ok, and_true]
  constructor
  · rintro ⟨version, actionClass, reserved, window, expired, nonce, issuer, hash, alg, length,
      signature⟩
    push Not at reserved window length
    refine ⟨not_not.mp version, actionClass, reserved.1, by simpa using reserved.2, window.1,
      UInt32.not_le.mp window.2, ?_, by simpa using nonce, by simpa using issuer,
      by simpa using hash, not_not.mp alg, length.1, length.2, by simpa using signature⟩
    by_cases unknown : nowMs = 0
    · exact Or.inl unknown
    · exact Or.inr (UInt32.not_lt.mp fun late => expired ⟨unknown, late⟩)
  · intro valid
    refine ⟨not_not.mpr valid.version, valid.actionClass, ?_, ?_, ?_, by simp [valid.nonce],
      by simp [valid.issuerKeyId], by simp [valid.activeHash], not_not.mpr valid.signatureAlg,
      ?_, by simp [valid.signature]⟩
    · simp [valid.reserved0, valid.reserved1]
    · rintro (zero | reversed)
      · exact valid.issued zero
      · exact UInt32.not_le.mpr valid.window reversed
    · rintro ⟨known, late⟩
      rcases valid.unexpired with unknown | early
      · exact known unknown
      · exact UInt32.not_lt.mpr early late
    · rintro (zero | wide)
      · exact valid.signatureLen zero
      · exact Nat.not_lt.mpr valid.signatureLen_le wide

theorem capsule_pill_matches_active_iff {crypto : Crypto} {capsule : CapsulePill}
    {substance : ActiveSubstance} :
    capsulePillMatchesActive crypto capsule substance = true ↔
      activeSubstanceHash crypto substance = .ok capsule.activeHash := by
  unfold capsulePillMatchesActive
  cases activeSubstanceHash crypto substance with
  | error err => simp
  | ok hash =>
      simp only [constant_time_equal_block, Except.ok.injEq]
      exact eq_comm

theorem capsule_pill_verify_asymmetric_iff {crypto : Crypto} {capsule : CapsulePill}
    {publicKey : Bytes} :
    capsulePillVerifyAsymmetric crypto capsule publicKey = true ↔
      publicKey ≠ [] ∧ capsule.BasicValid 0 ∧
        ∃ hash, crypto.mdSha256 (capsuleSignedCanonical capsule) = some hash ∧
          crypto.pkVerify publicKey hash
            (capsule.signature.toList.take capsule.signatureLen.toNat) = true := by
  rw [← capsule_pill_validate_basic_ok]
  unfold capsulePillVerifyAsymmetric capsuleComputeSignedHash
  by_cases present : publicKey = []
  · simp [present]
  · by_cases basic : capsulePillValidateBasic capsule 0 = .ok ()
    · cases crypto.mdSha256 (capsuleSignedCanonical capsule) <;> simp [present, basic]
    · simp [present, basic]

/-- Within its field, the signature part of the digest does not look past the
capsule. -/
theorem capsule_signature_bytes_inside {capsule : CapsulePill} (following : Bytes)
    (inside : capsule.signatureLen.toNat ≤ capsulePillSignatureMaxLen) :
    capsuleSignatureBytes capsule following =
      capsule.signature.toList.take capsule.signatureLen.toNat := by
  have width : capsule.signature.toList.length = 96 := capsule.signature.toList_length
  apply List.ext_getElem
  · simp [capsuleSignatureBytes, capsuleSignatureReads, width]
    simpa [capsulePillSignatureMaxLen] using inside
  · intro index left right
    have bound : index < capsule.signature.toList.length := by
      simp [capsuleSignatureBytes, capsuleSignatureReads] at left
      simp only [capsulePillSignatureMaxLen] at inside
      omega
    simp [capsuleSignatureBytes, capsuleSignatureReads, List.getElem?_append_left bound,
      List.getElem?_eq_getElem bound]

end BlindNet
