import BlindNet.ClientImages
import BlindNet.Conscience
import BlindNet.AdminForm

/-!
# Client and firmware agree on an Action Pill

A pill the client built passes every check of the firmware and is published,
provided the two sides' cryptographic libraries agree.
-/

namespace BlindNet

set_option autoImplicit false

open ByteLayout PillTools

section Builder

variable {PrivateKey : Type} {client : Client PrivateKey}

/-- The lengths for which the key derivation calls HMAC: its salt is the text of
30 bytes with an epoch and a nonce, its second key a digest. -/
def HmacSized (key : Bytes) : Prop := key.length = 46 ∨ key.length = 32

def AesGcmSized (key nonce : Bytes) : Prop :=
  (key.length = 16 ∨ key.length = 32) ∧ nonce.length = 12

/-- What is assumed of the two sides' libraries: one SHA-256 and one HMAC,
decryption undoes encryption and a sealed text is 16 bytes longer, verification
under the configured key accepts what the private key signed, and a signature
is a DER sequence. Keys and nonces have the lengths that the two sides use. -/
structure Compatible (crypto : Crypto) (client : Client PrivateKey) (privateKey : PrivateKey)
    (issuerPublicKey : Bytes) : Prop where
  sha256 : ∀ message, crypto.mdSha256 message = some (client.sha256 message)
  hmac : ∀ key message, HmacSized key →
    crypto.psaHmacSha256 key message = some (client.hmacSha256 key message)
  sealed_length : ∀ key nonce plaintext, AesGcmSized key nonce →
    (client.aesGcmEncrypt key nonce plaintext).length = plaintext.length + 16
  decrypt : ∀ key nonce plaintext, AesGcmSized key nonce →
    crypto.psaAeadDecrypt key nonce [] (client.aesGcmEncrypt key nonce plaintext) = .ok plaintext
  verify : ∀ digest, crypto.pkVerify issuerPublicKey digest (client.sign privateKey digest) = true
  der : ∀ digest, ∃ rest, client.sign privateKey digest = 48 :: rest

variable {crypto : Crypto} {random : Urandom} {arguments : BuildArguments PrivateKey}
  {build : ActionPillBuild} {pill : ActionPill} {issuerPublicKey : Bytes}

theorem Built.signature_bytes (built : Built client random arguments build pill) :
    pill.capsule.signatureLen.toNat = build.signature.length ∧
      pill.capsule.signature.toList.take pill.capsule.signatureLen.toNat = build.signature := by
  have short := built.signature_length
  have length : pill.capsule.signatureLen.toNat = build.signature.length := by
    rw [built.capsule]
    change (UInt8.ofNat build.signature.length).toNat = _
    rw [UInt8.toNat_ofNat']
    omega
  refine ⟨length, ?_⟩
  rw [length, built.capsule]
  change (fit 96 build.signature).toList.take build.signature.length = build.signature
  rw [fit_short short, List.take_left' rfl]

theorem Built.inner_id (built : Built client random arguments build pill)
    (compatible : Compatible crypto client arguments.privateKey issuerPublicKey) :
    computeInnerId crypto pill = .ok build.messageId := by
  have inside : pill.capsule.signatureLen.toNat ≤ capsulePillSignatureMaxLen := by
    rw [built.signature_bytes.1]
    exact built.signature_length
  rw [computeInnerId, computeCapsuleDigest, capsulePillComputeDigest,
    capsule_signature_bytes_inside _ inside, compatible.sha256, ← built.messageId]

theorem Built.issuer_key_id (built : Built client random arguments build pill) :
    pill.capsule.issuerKeyId.toList = build.issuerKeyId := by
  rw [built.capsule]
  apply fit_of_length
  rw [built.issuerKeyId, issuerKeyIdFromPublicPem]
  simp

/-- A DER signature is neither empty nor all zeros. -/
theorem Built.signature_nonzero (built : Built client random arguments build pill)
    (compatible : Compatible crypto client arguments.privateKey issuerPublicKey) :
    0 < build.signature.length ∧ bytesAllZero build.signature = false := by
  obtain ⟨rest, der⟩ := compatible.der (client.sha256 (capsuleSignedCanonical pill.capsule))
  rw [← built.signature] at der
  rw [der, ← Bool.not_eq_true, bytes_all_zero_iff]
  refine ⟨by simp, ?_⟩
  intro zeros
  exact absurd (zeros 48 List.mem_cons_self) (by decide)

theorem Built.basic_valid (built : Built client random arguments build pill)
    (compatible : Compatible crypto client arguments.privateKey issuerPublicKey)
    (window : 0 < arguments.issuedMs ∧ arguments.issuedMs < arguments.expiresMs)
    (nonce : bytesAllZero random.capsuleNonce.toList = false)
    (hash : bytesAllZero build.activeHash.toList = false)
    (issuer : bytesAllZero build.issuerKeyId = false)
    {nowMs : UInt32} (unexpired : (nowMs.toNat : Int) ≤ arguments.expiresMs) :
    pill.capsule.BasicValid nowMs := by
  obtain ⟨length, signature⟩ := built.signature_bytes
  obtain ⟨present, nonzero⟩ := built.signature_nonzero compatible
  have issuedWord : pill.capsule.issuedMs.toNat = arguments.issuedMs.toNat := by
    have range := built.issued
    rw [built.capsule]
    change (UInt32.ofNat arguments.issuedMs.toNat).toNat = _
    rw [UInt32.toNat_ofNat']
    omega
  have expiresWord : pill.capsule.expiresMs.toNat = arguments.expiresMs.toNat := by
    have range := built.expires
    rw [built.capsule]
    change (UInt32.ofNat arguments.expiresMs.toNat).toNat = _
    rw [UInt32.toNat_ofNat']
    omega
  exact
    { version := by rw [built.capsule]; rfl
      actionClass := by
        rw [built.capsule]
        change (1 : UInt8) ≠ 0
        decide
      reserved0 := by rw [built.capsule]; rfl
      reserved1 := by rw [built.capsule]; rfl
      issued := by
        intro zero
        rw [zero] at issuedWord
        change 0 = arguments.issuedMs.toNat at issuedWord
        omega
      window := by
        rw [UInt32.lt_iff_toNat_lt, issuedWord, expiresWord]
        omega
      unexpired := by
        right
        rw [UInt32.le_iff_toNat_le, expiresWord]
        omega
      nonce := by rw [built.capsule]; exact nonce
      issuerKeyId := by rw [built.issuer_key_id]; exact issuer
      activeHash := by rw [built.capsule]; exact hash
      signatureAlg := by rw [built.capsule]; rfl
      signatureLen := by
        intro zero
        rw [zero] at length
        change 0 = build.signature.length at length
        omega
      signatureLen_le := by rw [length]; exact built.signature_length
      signature := by rw [signature]; exact nonzero }

theorem hkdf_agrees
    (hmac : ∀ key message, HmacSized key →
      crypto.psaHmacSha256 key message = some (client.hmacSha256 key message))
    {ikm salt info : Bytes} {outLen : Nat} (ikmPresent : ikm ≠ []) (saltSized : salt.length = 46)
    (infoPresent : info ≠ []) (positive : 0 < outLen) (bounded : outLen ≤ 32) :
    BlindNet.hkdfSha256OneBlock crypto ikm salt info outLen =
      .ok (PillTools.hkdfSha256OneBlock client ikm salt info outLen) := by
  have saltPresent : salt ≠ [] := by
    intro empty
    simp [empty] at saltSized
  have usable : ¬ (ikm = [] ∨ salt = [] ∨ info = [] ∨ outLen = 0 ∨
      activeEnzymeHkdfDigestLen < outLen) := by
    have narrow : ¬ activeEnzymeHkdfDigestLen < outLen := Nat.not_lt.mpr bounded
    have nonzero : outLen ≠ 0 := by omega
    simp [ikmPresent, saltPresent, infoPresent, narrow, nonzero]
  have extract : hmacSha256 crypto salt ikm [] = .ok (client.hmacSha256 salt ikm) := by
    rw [hmacSha256, if_neg saltPresent, List.append_nil, hmac salt ikm (Or.inl saltSized)]
  have expand : hmacSha256 crypto (client.hmacSha256 salt ikm).toList info [1] =
      .ok (client.hmacSha256 (client.hmacSha256 salt ikm).toList (info ++ [1])) := by
    rw [hmacSha256, if_neg (block_ne_nil (by decide) _),
      hmac _ _ (Or.inr (client.hmacSha256 salt ikm).toList_length)]
  rw [BlindNet.hkdfSha256OneBlock, if_neg usable, extract]
  simp only [expand]
  rfl

/-- The firmware derives the client's key. -/
theorem derive_client_key
    (hmac : ∀ key message, HmacSized key →
      crypto.psaHmacSha256 key message = some (client.hmacSha256 key message))
    {nonce : ByteArr 12} {cipher epoch : Int} {keyLen : Nat} {sealed : Bytes}
    (known : keyLenFor cipher = .ok keyLen) (secret : ByteArr 32) {word : UInt32}
    (sameEpoch : (word.toNat : Int) = epoch) :
    deriveAeadKey crypto (clientSubstance nonce cipher sealed) secret word =
      .ok (clientKey client nonce secret.toList epoch cipher keyLen) := by
  have selected : selectKeyLen (clientSubstance nonce cipher sealed) = .ok keyLen ∧
      0 < keyLen ∧ keyLen ≤ 32 ∧ UInt8.ofInt cipher = UInt8.ofNat cipher.toNat := by
    rcases key_len_for_ok known with ⟨rfl, rfl⟩ | ⟨rfl, rfl⟩
    · exact ⟨rfl, by decide, by decide, rfl⟩
    · exact ⟨rfl, by decide, by decide, rfl⟩
  obtain ⟨length, positive, bounded, code⟩ := selected
  have epochWord : epoch.toNat = word.toNat := by omega
  have salt : (hkdfSalt (clientSubstance nonce cipher sealed) word).length = 46 := by
    have text : BlindNet.hkdfSaltPrefix.length = 30 := by decide +kernel
    rw [hkdfSalt, List.length_append, List.length_append, text, le_bytes_length,
      List.Vector.toList_length]
  have info : hkdfInfo (clientSubstance nonce cipher sealed) ≠ [] := by simp [hkdfInfo]
  rw [deriveAeadKey, length, clientKey, epochWord, code]
  exact hkdf_agrees hmac (block_ne_nil (by decide) secret) salt info positive bounded

theorem client_key_sized {nonce : ByteArr 12} {secret : Bytes} {cipher epoch : Int} {keyLen : Nat}
    (known : keyLenFor cipher = .ok keyLen) :
    AesGcmSized (clientKey client nonce secret epoch cipher keyLen) nonce.toList := by
  have width : (clientKey client nonce secret epoch cipher keyLen).length = min keyLen 32 := by
    simp [clientKey, PillTools.hkdfSha256OneBlock]
  refine ⟨?_, nonce.toList_length⟩
  rw [width]
  rcases key_len_for_ok known with ⟨-, rfl⟩ | ⟨-, rfl⟩
  · exact Or.inl rfl
  · exact Or.inr rfl

theorem decrypt_client_substance
    (compatible : Compatible crypto client arguments.privateKey issuerPublicKey)
    {nonce : ByteArr 12} {cipher epoch : Int} {keyLen : Nat} {plaintext : Bytes}
    (known : keyLenFor cipher = .ok keyLen) {secret : ByteArr 32}
    (nonzero : bytesAllZero secret.toList = false) {word : UInt32}
    (sameEpoch : (word.toNat : Int) = epoch) (present : 0 < plaintext.length)
    (short : plaintext.length ≤ 256) :
    activeSubstanceValidateEnvelope (clientSubstance nonce cipher
        (client.aesGcmEncrypt (clientKey client nonce secret.toList epoch cipher keyLen)
          nonce.toList plaintext)) = .ok () ∧
      activeEnzymeDecryptWithSecret crypto (clientSubstance nonce cipher
          (client.aesGcmEncrypt (clientKey client nonce secret.toList epoch cipher keyLen)
            nonce.toList plaintext)) secret word none activeEnzymePlaintextMaxLen =
        .ok plaintext := by
  let key := clientKey client nonce secret.toList epoch cipher keyLen
  let sealed := client.aesGcmEncrypt key nonce.toList plaintext
  have width : sealed.length = plaintext.length + 16 :=
    compatible.sealed_length _ _ _ (client_key_sized known)
  obtain ⟨length, whole⟩ := @client_substance_sealed nonce cipher sealed (by omega) (by omega)
  have envelope : activeSubstanceValidateEnvelope (clientSubstance nonce cipher sealed) =
      .ok () := by
    apply active_substance_validate_envelope_ok.mpr
    refine ⟨rfl, ?_, by omega, by omega⟩
    rcases key_len_for_ok known with ⟨rfl, -⟩ | ⟨rfl, -⟩
    · exact Or.inl rfl
    · exact Or.inr (Or.inl rfl)
  refine ⟨envelope, ?_⟩
  have room : ¬ activeEnzymePlaintextMaxLen <
      (clientSubstance nonce cipher sealed).ciphertextLen.toNat := by
    simp only [activeEnzymePlaintextMaxLen]
    omega
  have opened : crypto.psaAeadDecrypt key (clientSubstance nonce cipher sealed).nonce.toList []
      sealed = .ok plaintext := compatible.decrypt _ _ _ (client_key_sized known)
  change activeEnzymeDecryptWithSecret crypto (clientSubstance nonce cipher sealed) secret word
    none activeEnzymePlaintextMaxLen = _
  simp only [activeEnzymeDecryptWithSecret, nonzero, envelope, room, if_false,
    Bool.false_eq_true, derive_client_key compatible.hmac known secret sameEpoch, decryptAesGcm,
    whole, Option.getD_none]
  rw [opened]
  simp only [length, width]
  rw [if_pos (by omega)]

/-- The conditions under which a caller uses the builder: a validity window, and
secrets, nonces and hashes that are not all zero. -/
structure Sound (random : Urandom) (arguments : BuildArguments PrivateKey)
    (build : ActionPillBuild) (secret : ByteArr 32) (deviceId topic : String) : Prop where
  issued : 0 < arguments.issuedMs
  expires : arguments.issuedMs < arguments.expiresMs
  secretGiven : arguments.deviceSecret = some secret.toList
  secretNonzero : bytesAllZero secret.toList = false
  deviceGiven : arguments.deviceId = some deviceId
  topicGiven : arguments.topic = some topic
  deviceClean : Char.ofNat 0 ∉ deviceId.toList
  topicClean : Char.ofNat 0 ∉ topic.toList
  nonce : bytesAllZero random.capsuleNonce.toList = false
  activeHash : bytesAllZero build.activeHash.toList = false
  issuerKeyId : bytesAllZero build.issuerKeyId = false

variable {secret : ByteArr 32} {deviceId topic : String} {acid : AminoAcid} {keyLen : Nat}

theorem BuiltCommand.opens {epoch : UInt32}
    (built : BuiltCommand client random arguments build secret.toList deviceId topic acid keyLen
      pill)
    (compatible : Compatible crypto client arguments.privateKey issuerPublicKey)
    (nonzero : bytesAllZero secret.toList = false)
    (sameEpoch : (epoch.toNat : Int) = arguments.epoch) :
    activeSubstanceValidateEnvelope pill.active = .ok () ∧
      activeEnzymeDecryptWithSecret crypto pill.active secret epoch none
          activeEnzymePlaintextMaxLen =
        .ok (ActiveSubstanceCommand.layout.encode
          (clientCommand deviceId topic acid arguments.value)) := by
  rw [built.active]
  apply decrypt_client_substance compatible built.cipher nonzero sameEpoch
  · rw [ActiveSubstanceCommand.layout.encode_length]
    decide
  · rw [ActiveSubstanceCommand.layout.encode_length]
    decide

theorem BuiltCommand.authorised
    (built : BuiltCommand client random arguments build secret.toList deviceId topic acid keyLen
      pill)
    (compatible : Compatible crypto client arguments.privateKey issuerPublicKey)
    (sound : Sound random arguments build secret deviceId topic)
    (keyPresent : issuerPublicKey ≠ []) {nowMs : UInt32}
    (unexpired : (nowMs.toNat : Int) ≤ arguments.expiresMs)
    {issuerKeyId : ByteArr 16} (sameIssuer : issuerKeyId.toList = build.issuerKeyId) :
    validateAuthorized crypto pill nowMs issuerKeyId issuerPublicKey = .ok () := by
  have basic : ∀ now : UInt32, (now.toNat : Int) ≤ arguments.expiresMs →
      pill.capsule.BasicValid now := by
    intro now early
    exact built.basic_valid compatible ⟨sound.issued, sound.expires⟩ sound.nonce sound.activeHash
      sound.issuerKeyId early
  have epochRange : 0 ≤ arguments.epoch ∧ arguments.epoch < 2 ^ 32 := built.epoch
  have epochWord : ((UInt32.ofNat arguments.epoch.toNat).toNat : Int) = arguments.epoch := by
    rw [UInt32.toNat_ofNat']
    omega
  obtain ⟨envelope, -⟩ := built.opens compatible sound.secretNonzero epochWord
  have hashed : activeSubstanceHash crypto pill.active = .ok pill.capsule.activeHash := by
    rw [active_substance_hash_ok, compatible.sha256, built.capsule]
    exact ⟨envelope, congrArg some built.activeHash.symm⟩
  have verified : capsulePillVerifyAsymmetric crypto pill.capsule issuerPublicKey = true := by
    rw [capsule_pill_verify_asymmetric_iff]
    refine ⟨keyPresent, basic 0 ?_, _, compatible.sha256 _, ?_⟩
    · have positive := sound.issued
      have later := sound.expires
      change (0 : Int) ≤ arguments.expiresMs
      omega
    · rw [built.signature_bytes.2, built.signature]
      exact compatible.verify _
  have issuer : pill.capsule.issuerKeyId = issuerKeyId := by
    apply List.Vector.toList_injective
    rw [built.issuer_key_id, sameIssuer]
  exact validate_authorized_ok.mpr ⟨envelope, basic nowMs unexpired, issuer, hashed, verified⟩

/-- Both sides name a public key by the same sixteen bytes, however its text
ends its lines. -/
theorem issuer_key_ids_agree (sha256 : ∀ message,
      crypto.mdSha256 message = some (client.sha256 message)) {pem publicPem : Bytes}
    (clean : ∀ byte ∈ pem, byte ≠ 0)
    (sameText : pem.filter (· != 13) = publicPem.filter (· != 13)) :
    computeIssuerKeyId crypto (pem ++ [0]) =
      .ok (fit 16 (issuerKeyIdFromPublicPem client publicPem)) := by
  have text : CString.text (pem ++ [0]) = pem := CString.text_append_zero clean []
  simp only [computeIssuerKeyId, text, sha256, sameText, issuerKeyIdFromPublicPem,
    replace_cr_lf_filter, fit_take]

/-- The Guardian's first entry that decrypts the pill is the device's own, and
the entry's template contains the amino acid. -/
structure ReadyFor (crypto : Crypto) (membrane : Membrane) (pill : ActionPill)
    (deviceId : String) (secret : ByteArr 32) (epoch : Int) (aminoId : Int32) : Prop where
  initialized : membrane.initialized = true
  bounded : membrane.ribosomeTable.count ≤ ribosomeMaxEntries
  addressee : ∃ before entry after template,
    membrane.ribosomeTable.live = before ++ entry :: after ∧
    (∀ other ∈ before, decrypts crypto pill none other = false) ∧
    CString.text entry.mqttClientId.toList = CString.utf8 deviceId ∧
    entry.deviceSecret = secret ∧ (entry.epoch.toNat : Int) = epoch ∧
    rnaTemplateTableFind membrane.rnaTemplates entry.templateId = some template ∧
    rnaTemplateAllows template aminoId = true

def clientRequest (deviceId topic : String) (value : Option Int) : PublishRequest :=
  ⟨CString.utf8 deviceId, CString.utf8 topic, payloadText value, deviceCommandQos,
    deviceCommandRetain⟩

theorem BuiltCommand.published
    (built : BuiltCommand client random arguments build secret.toList deviceId topic acid keyLen
      pill)
    (compatible : Compatible crypto client arguments.privateKey issuerPublicKey)
    (sound : Sound random arguments build secret deviceId topic) {pipeline : ActionPipeline}
    {env : Environment}
    (authorised : validateAuthorized crypto pill (nowMs env.timerUs) pipeline.issuerKeyId
      pipeline.issuerPublicKey = .ok ())
    (ready : ReadyFor crypto pipeline.membrane pill deviceId secret arguments.epoch acid.id) :
    pipeline.digestAndPublish crypto env pill =
      (mqttBrokerPublishToClient env.broker (clientRequest deviceId topic arguments.value),
        [⟨clientRequest deviceId topic arguments.value, mqttBrokerPublishToClient env.broker
          (clientRequest deviceId topic arguments.value)⟩]) := by
  obtain ⟨before, entry, after, template, split, earlier, named, secretHeld, sameEpoch, found,
    allows⟩ := ready.addressee
  subst secretHeld
  obtain ⟨envelope, opened⟩ := built.opens compatible sound.secretNonzero sameEpoch
  have valid : (clientCommand deviceId topic acid arguments.value).Valid :=
    client_command_valid built.listed sound.deviceClean sound.topicClean built.deviceField.1
      built.deviceField.2 built.topicField.1 built.topicField.2
  have parsed : (activeSubstanceParseCommand (ActiveSubstanceCommand.layout.encode
      (clientCommand deviceId topic acid arguments.value)) activeSubstanceCommandClear).1 =
        .ok () := by
    rw [active_substance_parse_command_ok, ActiveSubstanceCommand.layout.decode_encode]
    exact ⟨ActiveSubstanceCommand.layout.encode_length _, valid⟩
  have digested := digest_active_substance_first envelope ready.bounded split earlier
    sound.secretNonzero opened parsed
  rw [ActiveSubstanceCommand.layout.decode_encode] at digested
  have device : CString.text (fit 32 (CString.utf8 deviceId)).toList = CString.utf8 deviceId :=
    CString.text_fit (CString.utf8_ne_zero sound.deviceClean) built.deviceField.2
  have topicText : CString.text (fit 32 (CString.utf8 topic)).toList = CString.utf8 topic :=
    CString.text_fit (CString.utf8_ne_zero sound.topicClean) built.topicField.2
  have publishable : DigestedActiveSubstance.Publishable pipeline.membrane
      ⟨clientCommand deviceId topic acid arguments.value, entry⟩ := by
    refine ⟨valid, device.trans named.symm, membrane_allows_iff.mpr ⟨ready.initialized, ?_,
      ?_, template, found, allows⟩⟩
    · obtain ⟨-, -, known⟩ := rna_template_table_find_spec found
      simpa [ribosomeTemplateIdValid, rnaTemplateIdValid] using known
    · obtain ⟨other, found, -, fits⟩ := valid.payload
      exact amino_acid_validate_payload_ok.mpr ⟨other, found, fits⟩
  obtain ⟨payload, encoded, published⟩ :=
    digest_and_publish_complete authorised digested publishable
  rw [client_command_payload built.listed built.typed built.range, Except.ok.injEq] at encoded
  subst encoded
  have request : DigestedActiveSubstance.request
      ⟨clientCommand deviceId topic acid arguments.value, entry⟩ (payloadText arguments.value) =
        clientRequest deviceId topic arguments.value := by
    rw [clientRequest, ← named, ← topicText]
    rfl
  rw [published, request]

/-- A pill the client built, read back as the firmware's record, has the
client's message id, is authorised until it expires, and is published with
exactly the given topic and value by every Guardian that is ready for it. -/
theorem built_pill_interoperates (crypto : Crypto) (client : Client PrivateKey) (random : Urandom)
    (arguments : BuildArguments PrivateKey) (build : ActionPillBuild) (issuerPublicKey : Bytes)
    (secret : ByteArr 32) (deviceId topic : String)
    (returned : buildActionPill client random arguments = .ok build)
    (command : arguments.emptyActive = false)
    (sound : Sound random arguments build secret deviceId topic)
    (compatible : Compatible crypto client arguments.privateKey issuerPublicKey)
    (keyPresent : issuerPublicKey ≠ []) :
    build.actionPill.length = 480 ∧
    computeInnerId crypto (ActionPill.layout.decode build.actionPill) = .ok build.messageId ∧
    (∀ pem, (∀ byte ∈ pem, byte ≠ 0) →
      pem.filter (· != 13) = (client.publicPem arguments.privateKey).filter (· != 13) →
      ∃ issuerKeyId, computeIssuerKeyId crypto (pem ++ [0]) = .ok issuerKeyId ∧
        issuerKeyId.toList = build.issuerKeyId) ∧
    (∀ (nowMs : UInt32) (issuerKeyId : ByteArr 16), (nowMs.toNat : Int) ≤ arguments.expiresMs →
      issuerKeyId.toList = build.issuerKeyId →
      validateAuthorized crypto (ActionPill.layout.decode build.actionPill) nowMs issuerKeyId
        issuerPublicKey = .ok ()) ∧
    ∃ acid ∈ aminoAcids, acid.name = client.upper arguments.amino ∧
      ∀ (pipeline : ActionPipeline) (env : Environment),
        pipeline.issuerKeyId.toList = build.issuerKeyId →
        pipeline.issuerPublicKey = issuerPublicKey →
        ((nowMs env.timerUs).toNat : Int) ≤ arguments.expiresMs →
        build.messageId ∉ pipeline.stomach.cpCache.recent →
        ReadyFor crypto pipeline.membrane (ActionPill.layout.decode build.actionPill) deviceId
          secret arguments.epoch acid.id →
        (pipeline.processActionPill crypto env (ActionPill.layout.decode build.actionPill)).1 =
          (mqttBrokerPublishToClient env.broker (clientRequest deviceId topic arguments.value),
            [⟨clientRequest deviceId topic arguments.value, mqttBrokerPublishToClient env.broker
              (clientRequest deviceId topic arguments.value)⟩]) := by
  obtain ⟨acid, keyLen, pill, built⟩ := build_action_pill_command returned command
    sound.secretGiven sound.deviceGiven sound.topicGiven
  have readBack : ActionPill.layout.decode build.actionPill = pill := by
    rw [built.image, ActionPill.layout.decode_encode]
  have innerId := built.inner_id compatible
  rw [readBack]
  refine ⟨?_, innerId, ?_, ?_, acid, built.listed, built.named, ?_⟩
  · rw [built.image]
    exact ActionPill.layout.encode_length pill
  · intro pem clean sameText
    refine ⟨_, issuer_key_ids_agree compatible.sha256 clean sameText, ?_⟩
    rw [built.issuerKeyId]
    exact fit_of_length (by simp [issuerKeyIdFromPublicPem])
  · intro now issuerKeyId unexpired sameIssuer
    exact built.authorised compatible sound keyPresent unexpired sameIssuer
  · intro pipeline env sameIssuer sameKey unexpired unseen ready
    subst sameKey
    have authorised := built.authorised compatible sound keyPresent unexpired sameIssuer
    rw [process_action_pill_unseen innerId unseen]
    exact built.published compatible sound authorised ready

end Builder

/-! ## A lamp on the bench

Primitives that can be evaluated, and the lamp of the Arduino sketch registered
with the default templates. -/

def benchDigest (message : Bytes) : ByteArr 32 :=
  ⟨leBytes 32 ((leValue message + 1) % (2 ^ 255 - 19)), le_bytes_length _ _⟩

/-- The tag is the key, so a text opens under its own key only. -/
def benchClient : Client Unit where
  sha256 := benchDigest
  hmacSha256 key message := benchDigest (key ++ message)
  aesGcmEncrypt key _ plaintext := plaintext ++ (fit 16 key).toList
  publicPem _ := CString.utf8 "BENCH"
  sign _ digest := 48 :: digest.toList
  upper name := name

def benchCrypto : Crypto where
  mdSha256 message := some (benchDigest message)
  psaHmacSha256 key message := some (benchDigest (key ++ message))
  psaAeadDecrypt key _ _ sealed :=
    if sealed.drop (sealed.length - 16) = (fit 16 key).toList then
      .ok (sealed.take (sealed.length - 16))
    else
      .error .invalidSignature
  pkVerify _ digest signature := signature == 48 :: digest.toList

theorem bench_compatible (issuerPublicKey : Bytes) :
    Compatible benchCrypto benchClient () issuerPublicKey where
  sha256 _ := rfl
  hmac _ _ _ := rfl
  sealed_length key nonce plaintext _ := by simp [benchClient]
  decrypt key nonce plaintext _ := by simp [benchClient, benchCrypto]
  verify digest := by simp [benchClient, benchCrypto]
  der digest := ⟨digest.toList, rfl⟩

def lampSecret : ByteArr 32 := List.Vector.replicate 32 7

def lampArguments : BuildArguments Unit where
  privateKey := ()
  deviceSecret := some lampSecret.toList
  networkId := List.replicate 16 1
  deviceId := some "lamp01"
  topic := some "blindnet/lamp01/cmd"
  amino := "TOGGLE"
  value := none
  epoch := 1
  issuedMs := 1
  expiresMs := 1000

def lampRandom : Urandom := ⟨List.Vector.replicate 12 5, List.Vector.replicate 16 6⟩

def lampBuild : ActionPillBuild :=
  match buildActionPill benchClient lampRandom lampArguments with
  | .ok build => build
  | .error _ => ⟨[], List.Vector.replicate 32 0, [], [], List.Vector.replicate 32 0, []⟩

def lampPill : ActionPill := ActionPill.layout.decode lampBuild.actionPill

def lampTable : RibosomeTable :=
  (ribosomeTableAddFromConfig ribosomeTableInit
    ⟨CString.utf8 "lamp01" ++ [0], rnaTemplateIdLightSwitch, 1, lampSecret⟩).2

def lampTemplates : RnaTemplateTable :=
  match rnaMembraneLoadDefaults with
  | .ok templates => templates
  | .error _ => rnaTemplateTableInit

def lampConfig : ZoneguardConfig :=
  ⟨fit 16 lampBuild.issuerKeyId, fit 512 (CString.utf8 "BENCH")⟩

def benchEnvironment : Environment where
  timerUs := 5000
  ble := ⟨true, [], fun _ => 20⟩
  broker := ⟨true, 100, fun _ => .ok ()⟩

/-- The pipeline `ActionPipeline::new` builds from these tables. -/
def lampPipeline : ActionPipeline where
  stomach := Stomach.new
  membrane := ⟨lampTable, lampTemplates, true⟩
  issuerKeyId := lampConfig.issuerKeyId
  issuerPublicKeyPem := copyCCharToU8 512 lampConfig.issuerPublicKeyPem.toList
  issuerPublicKeyLen := cCharNulLen lampConfig.issuerPublicKeyPem.toList

theorem lamp_build_returned :
    buildActionPill benchClient lampRandom lampArguments = .ok lampBuild := by
  decide +kernel

theorem lamp_sound :
    Sound lampRandom lampArguments lampBuild lampSecret "lamp01" "blindnet/lamp01/cmd" where
  issued := by decide
  expires := by decide
  secretGiven := rfl
  secretNonzero := by decide
  deviceGiven := rfl
  topicGiven := rfl
  deviceClean := by decide
  topicClean := by decide
  nonce := by decide
  activeHash := by decide +kernel
  issuerKeyId := by decide +kernel

def lampEntry : RibosomeTableEntry :=
  ⟨strncpyCleared 33 (CString.utf8 "lamp01" ++ [0]), rnaTemplateIdLightSwitch, 1, lampSecret⟩

theorem lamp_ready (pill : ActionPill) :
    ReadyFor benchCrypto lampPipeline.membrane pill "lamp01" lampSecret 1 aminoToggle where
  initialized := rfl
  bounded := by decide +kernel
  addressee := by
    have live : lampTable.live = [lampEntry] := by decide +kernel
    have found : rnaTemplateTableFind lampTemplates lampEntry.templateId =
        some (rnaDefaultTemplate rnaTemplateIdLightSwitch "LIGHT_SWITCH"
          [aminoOn, aminoOff, aminoToggle, aminoReadState]) := by decide +kernel
    exact ⟨[], lampEntry, [], _, live, by simp, by decide +kernel, rfl, rfl, found, by decide⟩

theorem lamp_pill_digest : computeCapsuleDigest benchCrypto lampPill = .ok lampBuild.messageId := by
  decide +kernel

def lampPublication : Publication :=
  ⟨clientRequest "lamp01" "blindnet/lamp01/cmd" none, .ok ()⟩

theorem lamp_pill_published :
    lampPipeline.digestAndPublish benchCrypto benchEnvironment lampPill =
      (.ok (), [lampPublication]) := by
  decide +kernel

def lampGuardian : Guardian := ⟨G2g.boot, ⟨some lampPipeline, .normalOnline⟩⟩

def lampStored : StoredTables := ⟨.ok lampTable, rnaMembraneLoadDefaults⟩

theorem lamp_guardian_booted : enterNormalMode lampConfig lampStored = .ok lampGuardian := by
  have templates : rnaMembraneLoadDefaults = .ok lampTemplates := by decide +kernel
  have present : cCharNulLen lampConfig.issuerPublicKeyPem.toList ≠ 0 := by decide +kernel
  simp only [enterNormalMode, ActionPipeline.new, Membrane.init, lampStored, templates, present,
    if_false]
  rfl

theorem lamp_pill_interoperates :
    buildActionPill benchClient lampRandom lampArguments = .ok lampBuild ∧
      computeInnerId benchCrypto lampPill = .ok lampBuild.messageId ∧
      validateAuthorized benchCrypto lampPill 1000 lampPipeline.issuerKeyId
        lampPipeline.issuerPublicKey = .ok () ∧
      (lampPipeline.processActionPill benchCrypto benchEnvironment lampPill).1 =
        (.ok (), [⟨clientRequest "lamp01" "blindnet/lamp01/cmd" none, .ok ()⟩]) := by
  have issuer : lampPipeline.issuerKeyId.toList = lampBuild.issuerKeyId := by decide +kernel
  have present : lampPipeline.issuerPublicKey ≠ [] := by decide +kernel
  obtain ⟨-, innerId, -, authorised, acid, listed, named, published⟩ :=
    built_pill_interoperates benchCrypto benchClient lampRandom lampArguments lampBuild
      lampPipeline.issuerPublicKey lampSecret "lamp01" "blindnet/lamp01/cmd" lamp_build_returned
      rfl lamp_sound (bench_compatible _) present
  have toggle : acid.id = aminoToggle := by
    have every : ∀ acid ∈ aminoAcids, acid.name = "TOGGLE" → acid.id = aminoToggle := by decide
    exact every acid listed named
  refine ⟨lamp_build_returned, innerId, authorised 1000 _ (by decide) issuer, ?_⟩
  have ready := lamp_ready (ActionPill.layout.decode lampBuild.actionPill)
  rw [← toggle] at ready
  exact published lampPipeline benchEnvironment issuer rfl (by decide)
    (by simp [lampPipeline, Stomach.new]) ready

end BlindNet
