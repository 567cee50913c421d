import BlindNet.ActiveSubstance

/-!
# Active enzyme

Opens an active substance with a device secret: one HKDF block over the secret,
salted with the epoch and the nonce, keys AES-GCM. No other cipher is opened.
-/

namespace BlindNet

set_option autoImplicit false

open ByteLayout

def activeEnzymeAes128KeyLen : Nat := 16
def activeEnzymeAes256KeyLen : Nat := 32
def activeEnzymeHkdfDigestLen : Nat := 32
def activeEnzymePlaintextMaxLen : Nat := 256

def hkdfSaltPrefix : Bytes := CString.utf8 "BlindNet active enzyme salt v1"
def hkdfInfoPrefix : Bytes := CString.utf8 "BlindNet active substance decrypt key v1"

def selectKeyLen (substance : ActiveSubstance) : Result Nat :=
  if substance.cipher = activeSubstanceCipherAes128Gcm then
    .ok activeEnzymeAes128KeyLen
  else if substance.cipher = activeSubstanceCipherAes256Gcm then
    .ok activeEnzymeAes256KeyLen
  else
    .error .notSupported

def hmacSha256 (crypto : Crypto) (key part1 part2 : Bytes) : Result (ByteArr 32) :=
  if key = [] then
    .error .invalidArg
  else
    match crypto.psaHmacSha256 key (part1 ++ part2) with
    | none => .error .fail
    | some mac => .ok mac

def hkdfSha256OneBlock (crypto : Crypto) (ikm salt info : Bytes) (outKeyLen : Nat) :
    Result Bytes :=
  if ikm = [] ∨ salt = [] ∨ info = [] ∨ outKeyLen = 0 ∨ activeEnzymeHkdfDigestLen < outKeyLen then
    .error .invalidArg
  else
    match hmacSha256 crypto salt ikm [] with
    | .error err => .error err
    | .ok prk =>
        match hmacSha256 crypto prk.toList info [1] with
        | .error err => .error err
        | .ok t1 => .ok (t1.toList.take outKeyLen)

def hkdfSalt (substance : ActiveSubstance) (epoch : UInt32) : Bytes :=
  hkdfSaltPrefix ++ leBytes 4 epoch.toNat ++ substance.nonce.toList

def hkdfInfo (substance : ActiveSubstance) : Bytes :=
  hkdfInfoPrefix ++ [substance.version, substance.cipher]

def deriveAeadKey (crypto : Crypto) (substance : ActiveSubstance) (deviceSecret : ByteArr 32)
    (epoch : UInt32) : Result Bytes :=
  match selectKeyLen substance with
  | .error err => .error err
  | .ok keyLen =>
      hkdfSha256OneBlock crypto deviceSecret.toList (hkdfSalt substance epoch)
        (hkdfInfo substance) keyLen

def decryptAesGcm (crypto : Crypto) (substance : ActiveSubstance) (key aad : Bytes) :
    Result Bytes :=
  let sealed :=
    substance.ciphertext.toList.take substance.ciphertextLen.toNat ++ substance.tag.toList
  match crypto.psaAeadDecrypt key substance.nonce.toList aad sealed with
  | .ok plaintext =>
      if plaintext.length = substance.ciphertextLen.toNat then .ok plaintext else .error .fail
  | .error .invalidSignature => .error .invalidState
  | .error .failure => .error .fail

/-- `outPlaintextSize` is the room in the caller's buffer; on success the
plaintext fills its first `ciphertext_len` bytes. -/
def activeEnzymeDecryptWithSecret (crypto : Crypto) (substance : ActiveSubstance)
    (deviceSecret : ByteArr 32) (epoch : UInt32) (aad : Option Bytes) (outPlaintextSize : Nat) :
    Result Bytes :=
  if bytesAllZero deviceSecret.toList then
    .error .invalidArg
  else
    match activeSubstanceValidateEnvelope substance with
    | .error err => .error err
    | .ok () =>
        if outPlaintextSize < substance.ciphertextLen.toNat then
          .error .invalidSize
        else
          match deriveAeadKey crypto substance deviceSecret epoch with
          | .error err => .error err
          | .ok key => decryptAesGcm crypto substance key (aad.getD [])

private theorem hmac_sha256_error {crypto : Crypto} {key part1 part2 : Bytes} {err : EspErr}
    (nonempty : key ≠ []) (failed : hmacSha256 crypto key part1 part2 = .error err) :
    err = .fail := by
  unfold hmacSha256 at failed
  rw [if_neg nonempty] at failed
  cases mac : crypto.psaHmacSha256 key (part1 ++ part2) with
  | none =>
      rw [mac] at failed
      exact (Except.error.inj failed).symm
  | some value => simp [mac] at failed

theorem block_ne_nil {size : Nat} (positive : 0 < size) (block : ByteArr size) :
    block.toList ≠ [] := by
  intro empty
  have length := block.toList_length
  rw [empty, List.length_nil] at length
  omega

theorem derive_aead_key_error {crypto : Crypto} {substance : ActiveSubstance}
    {deviceSecret : ByteArr 32} {epoch : UInt32} {err : EspErr}
    (failed : deriveAeadKey crypto substance deviceSecret epoch = .error err) :
    err = .fail ∨ (err = .notSupported ∧ selectKeyLen substance = .error .notSupported) := by
  have secret := block_ne_nil (by decide) deviceSecret
  have salt : hkdfSalt substance epoch ≠ [] := by simp [hkdfSalt, hkdfSaltPrefix, CString.utf8]
  have info : hkdfInfo substance ≠ [] := by simp [hkdfInfo]
  have derived : ∀ keyLen, 0 < keyLen → keyLen ≤ 32 → selectKeyLen substance = .ok keyLen →
      err = .fail := by
    intro keyLen positive bounded selected
    have usable : ¬ (deviceSecret.toList = [] ∨ hkdfSalt substance epoch = [] ∨
        hkdfInfo substance = [] ∨ keyLen = 0 ∨ activeEnzymeHkdfDigestLen < keyLen) := by
      have narrow : ¬ activeEnzymeHkdfDigestLen < keyLen := by
        simpa [activeEnzymeHkdfDigestLen] using bounded
      have nonzero : keyLen ≠ 0 := by omega
      simp [secret, salt, info, narrow, nonzero]
    rw [deriveAeadKey, selected] at failed
    change hkdfSha256OneBlock _ _ _ _ _ = _ at failed
    rw [hkdfSha256OneBlock, if_neg usable] at failed
    cases extract : hmacSha256 crypto (hkdfSalt substance epoch) deviceSecret.toList [] with
    | error first =>
        rw [extract] at failed
        cases failed
        exact hmac_sha256_error salt extract
    | ok prk =>
        rw [extract] at failed
        cases expand : hmacSha256 crypto prk.toList (hkdfInfo substance) [1] with
        | error second =>
            simp only [expand] at failed
            cases failed
            exact hmac_sha256_error (block_ne_nil (by decide) prk) expand
        | ok t1 => simp [expand] at failed
  by_cases aes128 : substance.cipher = activeSubstanceCipherAes128Gcm
  · exact Or.inl (derived 16 (by decide) (by decide)
      (by rw [selectKeyLen, if_pos aes128]; rfl))
  · by_cases aes256 : substance.cipher = activeSubstanceCipherAes256Gcm
    · exact Or.inl (derived 32 (by decide) (by decide)
        (by rw [selectKeyLen, if_neg aes128, if_pos aes256]; rfl))
    · have unsupported : selectKeyLen substance = .error .notSupported := by
        simp [selectKeyLen, aes128, aes256]
      rw [deriveAeadKey, unsupported] at failed
      exact Or.inr ⟨(Except.error.inj failed).symm, unsupported⟩

/-- With a valid envelope and a non-zero secret, decryption fails either in a
way that lets the search go on, or for the cipher, whatever the secret is. -/
theorem active_enzyme_decrypt_error {crypto : Crypto} {substance : ActiveSubstance}
    {deviceSecret : ByteArr 32} {epoch : UInt32} {aad : Option Bytes} {err : EspErr}
    (envelope : activeSubstanceValidateEnvelope substance = .ok ())
    (secret : bytesAllZero deviceSecret.toList = false)
    (failed : activeEnzymeDecryptWithSecret crypto substance deviceSecret epoch aad
      activeEnzymePlaintextMaxLen = .error err) :
    err = .fail ∨ err = .invalidState ∨
      (err = .notSupported ∧ selectKeyLen substance = .error .notSupported) := by
  have room : ¬ activeEnzymePlaintextMaxLen < substance.ciphertextLen.toNat := by
    have bounded := (active_substance_validate_envelope_ok.mp envelope).2.2.2
    simpa [activeEnzymePlaintextMaxLen] using bounded
  simp only [activeEnzymeDecryptWithSecret, secret, envelope, room, Bool.false_eq_true,
    if_false] at failed
  cases derived : deriveAeadKey crypto substance deviceSecret epoch with
  | error first =>
      rw [derived] at failed
      cases failed
      rcases derive_aead_key_error derived with broken | cipher
      · exact Or.inl broken
      · exact Or.inr (Or.inr cipher)
  | ok key =>
      rw [derived] at failed
      simp only [decryptAesGcm] at failed
      split at failed
      · split_ifs at failed
        exact Or.inl (Except.error.inj failed).symm
      · exact Or.inr (Or.inl (Except.error.inj failed).symm)
      · exact Or.inl (Except.error.inj failed).symm

theorem active_enzyme_decrypt_unsupported {crypto : Crypto} {substance : ActiveSubstance}
    {deviceSecret : ByteArr 32} {epoch : UInt32} {aad : Option Bytes}
    (envelope : activeSubstanceValidateEnvelope substance = .ok ())
    (secret : bytesAllZero deviceSecret.toList = false)
    (unsupported : selectKeyLen substance = .error .notSupported) :
    activeEnzymeDecryptWithSecret crypto substance deviceSecret epoch aad
      activeEnzymePlaintextMaxLen = .error .notSupported := by
  have room : ¬ activeEnzymePlaintextMaxLen < substance.ciphertextLen.toNat := by
    have bounded := (active_substance_validate_envelope_ok.mp envelope).2.2.2
    simpa [activeEnzymePlaintextMaxLen] using bounded
  simp [activeEnzymeDecryptWithSecret, secret, envelope, room, deriveAeadKey, unsupported]

end BlindNet
