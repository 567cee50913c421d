import BlindNet.PillTools
import BlindNet.Broker

/-!
# The client's bytes as firmware records

Each function of the client is compared with the firmware record or hash input
it produces. The comparison goes through the bytes: what the client packs is
the memory image of the firmware's record.
-/

namespace BlindNet

set_option autoImplicit false

open ByteLayout StructPack PillTools

theorem raises_bind_ok {First Second : Type} {call : Raises First} {next : First → Raises Second}
    {value : Second} :
    (call >>= next) = .ok value ↔ ∃ first, call = .ok first ∧ next first = .ok value := by
  cases call with
  | error err => simp [bind, Except.bind]
  | ok first => simp [bind, Except.bind]

theorem struct_pack_ok {format : List Item} {values : List Value} {bytes : Bytes} :
    structPack format values = .ok bytes ↔ pack format values = some bytes := by
  unfold structPack
  cases pack format values <;> simp

theorem amino_tables_agree :
    aminos = aminoAcids.map fun acid =>
      (acid.name, acid.id.toInt, (acid.valueType.code.toNat : Int)) := by
  decide

theorem image_byte {value : Int} (held : Item.u8.holds (.int value) = true) :
    Item.u8.image (.int value) = Layout.byte.encode (UInt8.ofNat value.toNat) := by
  simp only [Item.holds, Bool.and_eq_true, decide_eq_true_eq] at held
  have word : (value % 2 ^ 32).toNat = value.toNat := by omega
  simp only [Item.image, Item.size, leBytes, Layout.byte, word]

theorem image_u16 {value : Int} (held : Item.u16.holds (.int value) = true) :
    Item.u16.image (.int value) = Layout.u16.encode (UInt16.ofNat value.toNat) := by
  simp only [Item.holds, Bool.and_eq_true, decide_eq_true_eq] at held
  have word : (value % 2 ^ 32).toNat = value.toNat := by omega
  have small : value.toNat % 2 ^ 16 = value.toNat := by omega
  simp only [Item.image, Item.size, Layout.u16, word, UInt16.toNat_ofNat', small]

theorem image_u32 {value : Int} (held : Item.u32.holds (.int value) = true) :
    Item.u32.image (.int value) = Layout.u32.encode (UInt32.ofNat value.toNat) := by
  simp only [Item.holds, Bool.and_eq_true, decide_eq_true_eq] at held
  have word : (value % 2 ^ 32).toNat = value.toNat := by omega
  have small : value.toNat % 2 ^ 32 = value.toNat := by omega
  simp only [Item.image, Item.size, Layout.u32, word, UInt32.toNat_ofNat', small]

theorem image_i32 (value : Int) :
    Item.i32.image (.int value) = Layout.i32.encode (Int32.ofInt value) := by
  have word : (Int32.ofInt value).toUInt32.toNat = (value % 2 ^ 32).toNat :=
    BitVec.toNat_ofInt value
  simp only [Item.image, Item.size, Layout.i32, Layout.iso, Layout.u32]
  change _ = leBytes 4 (Int32.ofInt value).toUInt32.toNat
  rw [word]

theorem pack_byte (byte : UInt8) :
    Item.u8.holds (.int byte.toNat) = true ∧ Item.u8.image (.int byte.toNat) = [byte] := by
  have bounded := byte.toNat_lt
  have held : Item.u8.holds (.int byte.toNat) = true := by
    simp only [Item.holds, Bool.and_eq_true, decide_eq_true_eq]
    omega
  exact ⟨held, by simp [image_byte held, Layout.byte]⟩

theorem pack_u16 (word : UInt16) :
    Item.u16.holds (.int word.toNat) = true ∧
      Item.u16.image (.int word.toNat) = leBytes 2 word.toNat := by
  have bounded := word.toNat_lt
  have held : Item.u16.holds (.int word.toNat) = true := by
    simp only [Item.holds, Bool.and_eq_true, decide_eq_true_eq]
    omega
  exact ⟨held, by simp [image_u16 held, Layout.u16]⟩

theorem pack_u32 (word : UInt32) :
    Item.u32.holds (.int word.toNat) = true ∧
      Item.u32.image (.int word.toNat) = leBytes 4 word.toNat := by
  have bounded := word.toNat_lt
  have held : Item.u32.holds (.int word.toNat) = true := by
    simp only [Item.holds, Bool.and_eq_true, decide_eq_true_eq]
    omega
  exact ⟨held, by simp [image_u32 held, Layout.u32]⟩

theorem holds_block (size : Nat) (bytes : Bytes) :
    (Item.raw size).holds (.raw bytes) = true := rfl

theorem image_block (size : Nat) (bytes : Bytes) :
    (Item.raw size).image (.raw bytes) = (Layout.block size).encode (fit size bytes) := rfl

theorem c_string_field_ok {value name : String} {size : Nat} {field : Bytes}
    (returned : cStringField value size name = .ok field) :
    CString.utf8 value ≠ [] ∧ (CString.utf8 value).length < size ∧
      field = (fit size (CString.utf8 value)).toList := by
  simp only [cStringField] at returned
  split_ifs at returned with bad
  push Not at bad
  refine ⟨bad.1, bad.2, ?_⟩
  rw [fit_short (Nat.le_of_lt bad.2)]
  exact (Except.ok.inj returned).symm

def clientCommand (deviceId topic : String) (acid : AminoAcid) (value : Option Int) :
    ActiveSubstanceCommand where
  deviceId := fit 32 (CString.utf8 deviceId)
  topic := fit 32 (CString.utf8 topic)
  aminoId := acid.id
  payloadType := acid.valueType.code
  reserved := List.Vector.replicate 3 0
  payloadI32 := Int32.ofInt (value.getD 0)

/-- The text a device receives for a value: nothing, or the printed integer. -/
def payloadText : Option Int → Bytes
  | none => []
  | some value => CString.utf8 (toString value)

theorem client_command_valid {deviceId topic : String} {acid : AminoAcid} {value : Option Int}
    (listed : acid ∈ aminoAcids)
    (deviceClean : Char.ofNat 0 ∉ deviceId.toList) (topicClean : Char.ofNat 0 ∉ topic.toList)
    (devicePresent : CString.utf8 deviceId ≠ []) (deviceShort : (CString.utf8 deviceId).length < 32)
    (topicPresent : CString.utf8 topic ≠ []) (topicShort : (CString.utf8 topic).length < 32) :
    (clientCommand deviceId topic acid value).Valid where
  deviceId := c_string_field_valid_fit (CString.utf8_ne_zero deviceClean) devicePresent deviceShort
  topic := c_string_field_valid_fit (CString.utf8_ne_zero topicClean) topicPresent topicShort
  reserved := rfl
  payload := by
    obtain ⟨found, notBool⟩ := amino_acids_listed listed
    refine ⟨acid, found, rfl, ?_⟩
    unfold ActiveSubstanceCommand.payload
    change PayloadFits acid.valueType
      (if acid.valueType.code = AminoValueType.none.code then none else _)
    cases kind : acid.valueType with
    | none => simp [PayloadFits]
    | bool => exact absurd kind notBool
    | int => exact ⟨_, by rw [if_neg (by decide)]⟩

theorem client_command_payload {deviceId topic : String} {acid : AminoAcid} {value : Option Int}
    (listed : acid ∈ aminoAcids) (typed : value = none ↔ acid.valueType = .none)
    (range : ∀ payload, value = some payload → -2 ^ 31 ≤ payload ∧ payload < 2 ^ 31) :
    encodeCommandPayload (clientCommand deviceId topic acid value) mqttBrokerPayloadMaxLen =
      .ok (payloadText value) := by
  have type : (clientCommand deviceId topic acid value).payloadType = acid.valueType.code := rfl
  unfold encodeCommandPayload
  rw [type]
  cases value with
  | none =>
      rw [typed.mp rfl, if_pos rfl]
      rfl
  | some payload =>
      obtain ⟨-, notBool⟩ := amino_acids_listed listed
      cases kind : acid.valueType with
      | none => exact absurd (typed.mpr kind) (by simp)
      | bool => exact absurd kind notBool
      | int =>
          obtain ⟨low, high⟩ := range payload rfl
          rw [if_neg (by decide), if_neg (by decide), if_pos rfl, encode_i32_ascii_text]
          change Except.ok (CString.utf8 (toString (Int32.ofInt payload).toInt)) = _
          rw [Int32.toInt_ofInt_of_le low high]
          rfl

theorem amino_lookup {key : String} {aminoId payloadType : Int}
    (found : aminos.lookup key = some (aminoId, payloadType)) :
    ∃ acid, acid ∈ aminoAcids ∧ acid.name = key ∧ acid.id.toInt = aminoId ∧
      (acid.valueType.code.toNat : Int) = payloadType := by
  have member : (key, aminoId, payloadType) ∈ aminos := by
    obtain ⟨before, after, split, -⟩ := List.lookup_eq_some_iff.mp found
    rw [split]
    exact List.mem_append_right _ List.mem_cons_self
  rw [amino_tables_agree, List.mem_map] at member
  obtain ⟨acid, listed, same⟩ := member
  simp only [Prod.mk.injEq] at same
  exact ⟨acid, listed, same⟩

theorem replace_cr_lf_filter (bytes : Bytes) :
    (replaceCrLf bytes).filter (· != 13) = bytes.filter (· != 13) := by
  induction bytes using replaceCrLf.induct with
  | case1 => rfl
  | case2 byte => rfl
  | case3 first second rest ends induction =>
      obtain ⟨rfl, rfl⟩ := ends
      simp [replaceCrLf, induction]
  | case4 first second rest plain induction =>
      rw [replaceCrLf, if_neg plain, List.filter_cons, List.filter_cons, induction]

section Builder

variable {PrivateKey : Type} {client : Client PrivateKey}

theorem value_type_none_iff (kind : AminoValueType) :
    (kind.code.toNat : Int) = aminoValueNone ↔ kind = .none := by
  cases kind <;> decide

theorem payload_for_ok {aminoKey : String} {payloadType payload : Int} {value : Option Int}
    (returned : payloadFor aminoKey payloadType value = .ok payload) :
    (value = none ↔ payloadType = aminoValueNone) ∧ payload = value.getD 0 := by
  unfold payloadFor at returned
  by_cases absent : payloadType = aminoValueNone
  · cases value with
    | none =>
        simp only [absent, if_true, Except.ok.injEq] at returned
        simp [absent, returned]
    | some given => simp [absent] at returned
  · cases value with
    | none => simp [absent] at returned
    | some given =>
        simp only [absent, if_false, Except.ok.injEq] at returned
        simp [absent, returned]

theorem make_command_plaintext_ok {deviceId topic aminoName : String} {value : Option Int}
    {plaintext : Bytes}
    (returned : makeCommandPlaintext client deviceId topic aminoName value = .ok plaintext) :
    ∃ acid ∈ aminoAcids, acid.name = client.upper aminoName ∧
      (value = none ↔ acid.valueType = .none) ∧
      (∀ payload, value = some payload → -2 ^ 31 ≤ payload ∧ payload < 2 ^ 31) ∧
      CString.utf8 deviceId ≠ [] ∧ (CString.utf8 deviceId).length < 32 ∧
      CString.utf8 topic ≠ [] ∧ (CString.utf8 topic).length < 32 ∧
      plaintext = ActiveSubstanceCommand.layout.encode
        (clientCommand deviceId topic acid value) := by
  unfold makeCommandPlaintext at returned
  cases found : aminos.lookup (client.upper aminoName) with
  | none => simp [found] at returned
  | some entry =>
      obtain ⟨aminoId, payloadType⟩ := entry
      obtain ⟨acid, listed, named, identified, typed⟩ := amino_lookup found
      simp only [found, raises_bind_ok, struct_pack_ok] at returned
      obtain ⟨payloadI32, payload, deviceField, device, topicField, topicReturned, packed⟩ :=
        returned
      obtain ⟨deviceNonempty, deviceShort, deviceImage⟩ := c_string_field_ok device
      obtain ⟨topicNonempty, topicShort, topicImage⟩ := c_string_field_ok topicReturned
      simp only [commandFormat, pack_cons, pack_nil] at packed
      obtain ⟨-, -, ⟨-, -, ⟨-, -, ⟨typeHeld, -, ⟨-, -, ⟨payloadHeld, -, rfl, rfl⟩, rfl⟩, rfl⟩, rfl⟩,
        rfl⟩, rfl⟩ := packed
      obtain ⟨typeless, carried⟩ := payload_for_ok payload
      rw [← typed, value_type_none_iff] at typeless
      refine ⟨acid, listed, named, typeless, ?_, deviceNonempty, deviceShort, topicNonempty,
        topicShort, ?_⟩
      · intro given present
        rw [carried, present] at payloadHeld
        simpa [Item.holds] using payloadHeld
      · have code : UInt8.ofNat payloadType.toNat = acid.valueType.code := by
          rw [← typed]
          simp
        have id : Int32.ofInt aminoId = acid.id := by
          rw [← identified]
          exact Int32.ofInt_toInt _
        rw [image_byte typeHeld, image_i32, image_i32, image_block, image_block, image_block,
          deviceImage, topicImage, fit_to_list, fit_to_list, code, id, carried]
        simp only [List.append_nil]
        rfl

def capsuleValues (capsule : CapsulePill) : List Value :=
  [.int capsule.version.toNat, .int capsule.flags.toNat, .int capsule.actionClass.toNat,
    .int capsule.reserved0.toNat, .int capsule.issuedMs.toNat, .int capsule.expiresMs.toNat,
    .raw capsule.networkId.toList, .raw capsule.nonce.toList, .raw capsule.activeHash.toList,
    .raw capsule.issuerKeyId.toList, .int capsule.signatureAlg.toNat,
    .int capsule.signatureLen.toNat, .raw capsule.reserved1.toList, .raw capsule.signature.toList]

theorem pack_capsule_values (capsule : CapsulePill) :
    pack capsuleFormat (capsuleValues capsule) = some (CapsulePill.layout.encode capsule) := by
  simp only [capsuleFormat, capsuleValues, pack_cons, pack_nil, pack_byte, pack_u32, image_block,
    holds_block, fit_to_list, List.append_nil, true_and, exists_eq_left]
  rfl

theorem unpack_capsule (capsule : CapsulePill) :
    unpack capsuleFormat (CapsulePill.layout.encode capsule) = some (capsuleValues capsule) := by
  rw [unpack_pack (pack_capsule_values capsule)]
  simp [capsuleFormat, capsuleValues, Item.stored, Item.size]

theorem pack_capsule_scalars (capsule : CapsulePill) :
    pack [.u8, .u8, .u8, .u8, .u32, .u32]
        [.int capsule.version.toNat, .int capsule.flags.toNat, .int capsule.actionClass.toNat,
          .int capsule.reserved0.toNat, .int capsule.issuedMs.toNat,
          .int capsule.expiresMs.toNat] =
      some ([capsule.version, capsule.flags, capsule.actionClass, capsule.reserved0] ++
        leBytes 4 capsule.issuedMs.toNat ++ leBytes 4 capsule.expiresMs.toNat) := by
  simp only [pack_cons, pack_nil, pack_byte, pack_u32, true_and, exists_eq_left]
  simp

theorem pack_one_byte (byte : UInt8) : pack [.u8] [.int byte.toNat] = some [byte] := by
  simp only [pack_cons, pack_nil, pack_byte, true_and, exists_eq_left]
  simp

/-- What the client signs is the hash of the fields the firmware verifies. -/
theorem capsule_signing_digest_encode (client : Client PrivateKey) (capsule : CapsulePill) :
    capsuleSigningDigest client (CapsulePill.layout.encode capsule) =
      .ok (client.sha256 (capsuleSignedCanonical capsule)) := by
  simp only [capsuleSigningDigest, unpack_capsule, capsuleValues, structPack, pack_capsule_scalars,
    pack_one_byte]
  simp [capsuleSignedCanonical, bind, Except.bind]

theorem capsule_signing_canonical_encode (capsule : CapsulePill) :
    capsuleSigningCanonical (CapsulePill.layout.encode capsule) =
      .ok (capsuleSignedCanonical capsule) := by
  simp only [capsuleSigningCanonical, unpack_capsule, capsuleValues, structPack,
    pack_capsule_scalars, pack_one_byte]
  simp [capsuleSignedCanonical, bind, Except.bind]

theorem slice_append {front rest : Bytes} {start stop : Nat} (width : front.length = start) :
    slice (front ++ rest) start (start + stop) = rest.take stop := by
  rw [slice, ← width, List.take_append, List.drop_append]
  simp

theorem capsule_digest_encode (client : Client PrivateKey) (capsule : CapsulePill) :
    capsuleDigest client (CapsulePill.layout.encode capsule) =
      .ok (client.sha256 (capsuleSignedCanonical capsule ++ [capsule.signatureLen] ++
        capsule.signature.toList.take capsule.signatureLen.toNat)) := by
  have front := capsule_signed_canonical_length capsule
  have length : (CapsulePill.layout.encode capsule).getD 93 0 = capsule.signatureLen := by
    rw [capsule_pill_encode, List.getD_eq_getElem?_getD, List.getElem?_append_right (by omega),
      front]
    rfl
  have signature : slice (CapsulePill.layout.encode capsule) 96
      (96 + capsule.signatureLen.toNat) =
        capsule.signature.toList.take capsule.signatureLen.toNat := by
    have split : CapsulePill.layout.encode capsule = (capsuleSignedCanonical capsule ++
        (capsule.signatureLen :: capsule.reserved1.toList)) ++ capsule.signature.toList := by
      rw [capsule_pill_encode, List.append_assoc, List.cons_append]
    rw [split]
    apply slice_append
    simp [front]
  simp only [capsuleDigest, length, signature, capsule_signing_canonical_encode, structPack,
    pack_one_byte]
  rfl

theorem pack_substance_header (substance : ActiveSubstance) :
    pack [.u8, .u8, .u16] [.int substance.version.toNat, .int substance.cipher.toNat,
        .int substance.ciphertextLen.toNat] =
      some ([substance.version, substance.cipher] ++ leBytes 2 substance.ciphertextLen.toNat) := by
  simp only [pack_cons, pack_nil, pack_byte, pack_u16, true_and, exists_eq_left]
  simp

theorem active_substance_hash_encode (client : Client PrivateKey) (substance : ActiveSubstance) :
    PillTools.activeSubstanceHash client (ActiveSubstance.layout.encode substance) =
      .ok (client.sha256 (activeSubstanceHashInput substance)) := by
  let header : Bytes :=
    [substance.version, substance.cipher] ++ leBytes 2 substance.ciphertextLen.toNat
  have width : header.length = 4 := by simp [header]
  have image : ActiveSubstance.layout.encode substance = header ++
      (substance.nonce.toList ++ (substance.tag.toList ++ substance.ciphertext.toList)) := rfl
  have first : slice (ActiveSubstance.layout.encode substance) 0 4 = header := by
    rw [slice, image, List.take_left' width, List.drop_zero]
  have nonce : slice (ActiveSubstance.layout.encode substance) 4 (4 + 12) =
      substance.nonce.toList := by
    rw [image, slice_append width]
    exact List.take_left' substance.nonce.toList_length
  have tag : slice (ActiveSubstance.layout.encode substance) 16 (16 + 16) =
      substance.tag.toList := by
    rw [image, ← List.append_assoc, slice_append (by simp [width])]
    exact List.take_left' substance.tag.toList_length
  have ciphertext : slice (ActiveSubstance.layout.encode substance) 32
      (32 + substance.ciphertextLen.toNat) =
        substance.ciphertext.toList.take substance.ciphertextLen.toNat := by
    rw [image, ← List.append_assoc, ← List.append_assoc, slice_append (by simp [width])]
  have values : unpack [.u8, .u8, .u16] header = some
      [.int substance.version.toNat, .int substance.cipher.toNat,
        .int substance.ciphertextLen.toNat] :=
    unpack_pack (pack_substance_header substance)
  simp only [Nat.reduceAdd] at nonce tag
  simp only [PillTools.activeSubstanceHash, first, values, Int.toNat_natCast, nonce, tag,
    ciphertext, structPack, pack_substance_header]
  rfl

def clientKey (client : Client PrivateKey) (nonce : ByteArr 12) (deviceSecret : Bytes)
    (epoch cipher : Int) (keyLen : Nat) : Bytes :=
  PillTools.hkdfSha256OneBlock client deviceSecret
    (PillTools.hkdfSaltPrefix ++ leBytes 4 epoch.toNat ++ nonce.toList)
    (PillTools.hkdfInfoPrefix ++
      [UInt8.ofInt PillTools.activeSubstanceVersion, UInt8.ofInt cipher]) keyLen

def clientSubstance (nonce : ByteArr 12) (cipher : Int) (sealed : Bytes) : ActiveSubstance where
  version := 2
  cipher := UInt8.ofNat cipher.toNat
  ciphertextLen := UInt16.ofNat (sealed.length - 16)
  nonce := nonce
  tag := fit 16 (sealed.drop (sealed.length - 16))
  ciphertext := fit 256 (sealed.take (sealed.length - 16))

theorem pack_sealed {nonce : ByteArr 12} {cipher : Int} {sealed active : Bytes}
    (packed : pack activeFormat
      [.int PillTools.activeSubstanceVersion, .int cipher,
        .int (sealed.take (sealed.length - activeSubstanceTagLen)).length, .raw nonce.toList,
        .raw (sealed.drop (sealed.length - activeSubstanceTagLen)),
        .raw (sealed.take (sealed.length - activeSubstanceTagLen) ++
          List.replicate (PillTools.activeSubstanceCiphertextMaxLen -
            (sealed.take (sealed.length - activeSubstanceTagLen)).length) 0)] = some active) :
    active = ActiveSubstance.layout.encode (clientSubstance nonce cipher sealed) := by
  simp only [activeFormat, pack_cons, pack_nil] at packed
  obtain ⟨versionHeld, -, ⟨cipherHeld, -, ⟨lengthHeld, -, ⟨-, -, ⟨-, -, ⟨-, -, rfl, rfl⟩, rfl⟩,
    rfl⟩, rfl⟩, rfl⟩, rfl⟩ := packed
  have length : (sealed.take (sealed.length - activeSubstanceTagLen)).length =
      sealed.length - 16 := by
    simp [activeSubstanceTagLen]
  rw [image_byte versionHeld, image_byte cipherHeld, image_u16 lengthHeld, image_block,
    image_block, image_block, fit_append_zeros, fit_to_list, length, Int.toNat_natCast,
    List.append_nil]
  rfl

theorem encrypt_active_substance_ok {nonce : ByteArr 12} {plaintext deviceSecret active : Bytes}
    {epoch cipher : Int}
    (returned : encryptActiveSubstance client nonce plaintext deviceSecret epoch cipher =
      .ok active) :
    ∃ keyLen, keyLenFor cipher = .ok keyLen ∧ 0 ≤ epoch ∧ epoch < 2 ^ 32 ∧
      active = ActiveSubstance.layout.encode (clientSubstance nonce cipher
        (client.aesGcmEncrypt (clientKey client nonce deviceSecret epoch cipher keyLen)
          nonce.toList plaintext)) := by
  unfold encryptActiveSubstance at returned
  split_ifs at returned
  simp only [raises_bind_ok, struct_pack_ok] at returned
  obtain ⟨keyLen, known, epochBytes, epochPacked, packed⟩ := returned
  simp only [pack_cons, pack_nil] at epochPacked
  obtain ⟨epochHeld, -, rfl, rfl⟩ := epochPacked
  have inRange : 0 ≤ epoch ∧ epoch < 2 ^ 32 := by simpa [Item.holds] using epochHeld
  have salt : Item.u32.image (.int epoch) ++ [] = leBytes 4 epoch.toNat := by
    have word : (epoch % 2 ^ 32).toNat = epoch.toNat := by omega
    simp only [Item.image, Item.size, word, List.append_nil]
  rw [salt] at packed
  exact ⟨keyLen, known, inRange.1, inRange.2, pack_sealed packed⟩

def clientCapsule (arguments : BuildArguments PrivateKey) (nonce : ByteArr 16)
    (activeHash : ByteArr 32) (issuerKeyId signature : Bytes) : CapsulePill where
  version := 3
  flags := 0
  actionClass := 1
  reserved0 := 0
  issuedMs := UInt32.ofNat arguments.issuedMs.toNat
  expiresMs := UInt32.ofNat arguments.expiresMs.toNat
  networkId := fit 16 arguments.networkId
  nonce := nonce
  activeHash := activeHash
  issuerKeyId := fit 16 issuerKeyId
  signatureAlg := 1
  signatureLen := UInt8.ofNat signature.length
  reserved1 := List.Vector.replicate 2 0
  signature := fit 96 signature

theorem pack_capsule_ok {arguments : BuildArguments PrivateKey} {nonce : ByteArr 16}
    {activeHash : ByteArr 32} {issuerKeyId signature capsule : Bytes}
    (returned : packCapsule arguments nonce activeHash issuerKeyId signature = .ok capsule) :
    0 ≤ arguments.issuedMs ∧ arguments.issuedMs < 2 ^ 32 ∧ 0 ≤ arguments.expiresMs ∧
      arguments.expiresMs < 2 ^ 32 ∧
      capsule = CapsulePill.layout.encode
        (clientCapsule arguments nonce activeHash issuerKeyId signature) := by
  rw [packCapsule, struct_pack_ok] at returned
  simp only [capsuleFormat, pack_cons, pack_nil] at returned
  obtain ⟨held0, -, ⟨held1, -, ⟨held2, -, ⟨-, -, ⟨issued, -, ⟨expires, -, ⟨-, -, ⟨-, -, ⟨-, -,
    ⟨-, -, ⟨-, -, ⟨length, -, ⟨-, -, ⟨-, -, rfl, rfl⟩, rfl⟩, rfl⟩, rfl⟩, rfl⟩, rfl⟩, rfl⟩, rfl⟩,
    rfl⟩, rfl⟩, rfl⟩, rfl⟩, rfl⟩, rfl⟩ := returned
  have issuedRange : 0 ≤ arguments.issuedMs ∧ arguments.issuedMs < 2 ^ 32 := by
    simpa [Item.holds] using issued
  have expiresRange : 0 ≤ arguments.expiresMs ∧ arguments.expiresMs < 2 ^ 32 := by
    simpa [Item.holds] using expires
  refine ⟨issuedRange.1, issuedRange.2, expiresRange.1, expiresRange.2, ?_⟩
  rw [image_byte held0, image_byte held1, image_byte held2, image_u32 issued, image_u32 expires,
    image_byte length]
  simp only [image_block, fit_append_zeros, fit_to_list, Int.toNat_natCast, List.append_nil]
  rfl

structure Built (client : Client PrivateKey) (random : Urandom)
    (arguments : BuildArguments PrivateKey) (build : ActionPillBuild) (pill : ActionPill) :
    Prop where
  image : build.actionPill = ActionPill.layout.encode pill
  issued : 0 ≤ arguments.issuedMs ∧ arguments.issuedMs < 2 ^ 32
  expires : 0 ≤ arguments.expiresMs ∧ arguments.expiresMs < 2 ^ 32
  capsule : pill.capsule = clientCapsule arguments random.capsuleNonce build.activeHash
    build.issuerKeyId build.signature
  activeHash : build.activeHash = client.sha256 (activeSubstanceHashInput pill.active)
  issuerKeyId : build.issuerKeyId =
    issuerKeyIdFromPublicPem client (client.publicPem arguments.privateKey)
  signature : build.signature = client.sign arguments.privateKey
    (client.sha256 (capsuleSignedCanonical pill.capsule))
  signature_length : build.signature.length ≤ 96
  messageId : build.messageId = client.sha256 (capsuleSignedCanonical pill.capsule ++
    [pill.capsule.signatureLen] ++
    pill.capsule.signature.toList.take pill.capsule.signatureLen.toNat)

/-- A call that returns from an active part that is the image of `substance`. -/
theorem build_action_pill_built {random : Urandom} {arguments : BuildArguments PrivateKey}
    {build : ActionPillBuild}
    (returned : buildActionPill client random arguments = .ok build) :
    ∃ active, makeActive client random arguments = .ok active ∧
      ∀ substance, active = ActiveSubstance.layout.encode substance →
        ∃ pill, pill.active = substance ∧ Built client random arguments build pill := by
  simp only [buildActionPill, raises_bind_ok] at returned
  obtain ⟨active, made, activeHash, hashed, unsigned, packedUnsigned, digest, digested, signature,
    signed, capsule, packed, finished⟩ := returned
  split_ifs at finished with sized
  simp only [raises_bind_ok, Except.ok.injEq] at finished
  obtain ⟨messageId, identified, rfl⟩ := finished
  refine ⟨active, made, ?_⟩
  rintro substance rfl
  rw [active_substance_hash_encode, Except.ok.injEq] at hashed
  obtain ⟨-, -, -, -, unsignedImage⟩ := pack_capsule_ok packedUnsigned
  obtain ⟨issuedLow, issuedHigh, expiresLow, expiresHigh, capsuleImage⟩ := pack_capsule_ok packed
  rw [unsignedImage, capsule_signing_digest_encode, Except.ok.injEq] at digested
  rw [capsuleImage, capsule_digest_encode, Except.ok.injEq] at identified
  simp only [signDigestDer] at signed
  split_ifs at signed with long
  rw [Except.ok.injEq] at signed
  refine ⟨⟨clientCapsule arguments random.capsuleNonce activeHash
    (issuerKeyIdFromPublicPem client (client.publicPem arguments.privateKey)) signature,
    substance⟩, rfl, ?_⟩
  exact
    { image := by rw [capsuleImage]; rfl
      issued := ⟨issuedLow, issuedHigh⟩
      expires := ⟨expiresLow, expiresHigh⟩
      capsule := rfl
      activeHash := hashed.symm
      issuerKeyId := rfl
      -- The signed fields of the capsule do not include the signature.
      signature := by rw [← signed, ← digested]; rfl
      signature_length := by rw [← signed]; exact Nat.not_lt.mp long
      messageId := identified.symm }

theorem make_active_ok {random : Urandom} {arguments : BuildArguments PrivateKey}
    {active : Bytes} (made : makeActive client random arguments = .ok active)
    (command : arguments.emptyActive = false) :
    ∃ deviceSecret deviceId topic plaintext,
      arguments.deviceSecret = some deviceSecret ∧ arguments.deviceId = some deviceId ∧
      arguments.topic = some topic ∧
      makeCommandPlaintext client deviceId topic arguments.amino arguments.value =
        .ok plaintext ∧
      encryptActiveSubstance client random.activeNonce plaintext deviceSecret arguments.epoch
        arguments.cipher = .ok active := by
  unfold makeActive at made
  rw [command] at made
  cases secret : arguments.deviceSecret with
  | none => simp [secret] at made
  | some deviceSecret =>
      cases device : arguments.deviceId with
      | none => simp [secret, device] at made
      | some deviceId =>
          cases topic : arguments.topic with
          | none => simp [secret, device, topic] at made
          | some topicName =>
              simp only [secret, device, topic, Bool.false_eq_true, if_false,
                raises_bind_ok] at made
              obtain ⟨plaintext, made, sealed⟩ := made
              exact ⟨deviceSecret, deviceId, topicName, plaintext, rfl, rfl, rfl, made, sealed⟩

theorem key_len_for_ok {cipher : Int} {keyLen : Nat} (known : keyLenFor cipher = .ok keyLen) :
    (cipher = 1 ∧ keyLen = 16) ∨ (cipher = 2 ∧ keyLen = 32) := by
  unfold keyLenFor at known
  split_ifs at known with aes128 aes256
  · exact Or.inl ⟨aes128, (Except.ok.inj known).symm⟩
  · exact Or.inr ⟨aes256, (Except.ok.inj known).symm⟩

theorem client_substance_sealed {nonce : ByteArr 12} {cipher : Int} {sealed : Bytes}
    (tagged : 16 ≤ sealed.length) (short : sealed.length ≤ 272) :
    (clientSubstance nonce cipher sealed).ciphertextLen.toNat = sealed.length - 16 ∧
      (clientSubstance nonce cipher sealed).ciphertext.toList.take
          (clientSubstance nonce cipher sealed).ciphertextLen.toNat ++
        (clientSubstance nonce cipher sealed).tag.toList = sealed := by
  have length : (clientSubstance nonce cipher sealed).ciphertextLen.toNat =
      sealed.length - 16 := by
    change (UInt16.ofNat (sealed.length - 16)).toNat = _
    rw [UInt16.toNat_ofNat']
    omega
  have front : (sealed.take (sealed.length - 16)).length = sealed.length - 16 := by simp
  have tag : (fit 16 (sealed.drop (sealed.length - 16))).toList =
      sealed.drop (sealed.length - 16) := by
    apply fit_of_length
    rw [List.length_drop]
    omega
  refine ⟨length, ?_⟩
  rw [length]
  change (fit 256 (sealed.take (sealed.length - 16))).toList.take (sealed.length - 16) ++
    (fit 16 (sealed.drop (sealed.length - 16))).toList = sealed
  rw [fit_short (by omega), List.take_left' front, tag, List.take_append_drop]

/-- Everything a returned call with a command settles. -/
structure BuiltCommand (client : Client PrivateKey) (random : Urandom)
    (arguments : BuildArguments PrivateKey) (build : ActionPillBuild) (deviceSecret : Bytes)
    (deviceId topic : String) (acid : AminoAcid) (keyLen : Nat) (pill : ActionPill) : Prop
    extends Built client random arguments build pill where
  listed : acid ∈ aminoAcids
  named : acid.name = client.upper arguments.amino
  typed : arguments.value = none ↔ acid.valueType = .none
  range : ∀ payload, arguments.value = some payload → -2 ^ 31 ≤ payload ∧ payload < 2 ^ 31
  deviceField : CString.utf8 deviceId ≠ [] ∧ (CString.utf8 deviceId).length < 32
  topicField : CString.utf8 topic ≠ [] ∧ (CString.utf8 topic).length < 32
  cipher : keyLenFor arguments.cipher = .ok keyLen
  epoch : 0 ≤ arguments.epoch ∧ arguments.epoch < 2 ^ 32
  active : pill.active = clientSubstance random.activeNonce arguments.cipher
    (client.aesGcmEncrypt
      (clientKey client random.activeNonce deviceSecret arguments.epoch arguments.cipher keyLen)
      random.activeNonce.toList
      (ActiveSubstanceCommand.layout.encode
        (clientCommand deviceId topic acid arguments.value)))

theorem build_action_pill_command {random : Urandom} {arguments : BuildArguments PrivateKey}
    {build : ActionPillBuild}
    (returned : buildActionPill client random arguments = .ok build)
    (command : arguments.emptyActive = false) {deviceSecret : Bytes} {deviceId topic : String}
    (secretGiven : arguments.deviceSecret = some deviceSecret)
    (deviceGiven : arguments.deviceId = some deviceId) (topicGiven : arguments.topic = some topic) :
    ∃ acid keyLen pill, BuiltCommand client random arguments build deviceSecret deviceId topic acid
      keyLen pill := by
  obtain ⟨active, made, packed⟩ := build_action_pill_built returned
  obtain ⟨secret', device', topic', plaintext, isSecret, isDevice, isTopic, written, sealed⟩ :=
    make_active_ok made command
  rw [secretGiven, Option.some.injEq] at isSecret
  rw [deviceGiven, Option.some.injEq] at isDevice
  rw [topicGiven, Option.some.injEq] at isTopic
  subst isSecret isDevice isTopic
  obtain ⟨acid, listed, named, typed, range, devicePresent, deviceShort, topicPresent, topicShort,
    image⟩ := make_command_plaintext_ok written
  obtain ⟨keyLen, known, epochLow, epochHigh, substance⟩ := encrypt_active_substance_ok sealed
  rw [image] at substance
  obtain ⟨pill, isActive, built⟩ := packed _ substance
  exact ⟨acid, keyLen, pill, built, listed, named, typed, range, ⟨devicePresent, deviceShort⟩,
    ⟨topicPresent, topicShort⟩, known, ⟨epochLow, epochHigh⟩, isActive⟩

end Builder

end BlindNet
