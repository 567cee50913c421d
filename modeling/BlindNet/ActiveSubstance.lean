import BlindNet.AminoAcids

/-!
# Active substance

The encrypted command blob and the plaintext command inside it. Both records
have no padding, so their memory images are the packed layouts below.
-/

namespace BlindNet

set_option autoImplicit false

open ByteLayout

def activeSubstanceVersion : UInt8 := 2
def activeSubstanceCiphertextMaxLen : Nat := 256
def activeSubstanceCipherAes128Gcm : UInt8 := 1
def activeSubstanceCipherAes256Gcm : UInt8 := 2
def activeSubstanceCipherChacha20Poly1305 : UInt8 := 3

structure ActiveSubstance where
  version : UInt8
  cipher : UInt8
  ciphertextLen : UInt16
  nonce : ByteArr 12
  tag : ByteArr 16
  ciphertext : ByteArr 256
  deriving DecidableEq

structure ActiveSubstanceCommand where
  deviceId : ByteArr 32
  topic : ByteArr 32
  aminoId : Int32
  payloadType : UInt8
  reserved : ByteArr 3
  payloadI32 : Int32
  deriving DecidableEq

def ActiveSubstance.equiv :
    UInt8 × UInt8 × UInt16 × ByteArr 12 × ByteArr 16 × ByteArr 256 ≃ ActiveSubstance where
  toFun := fun (version, cipher, length, nonce, tag, ciphertext) =>
    ⟨version, cipher, length, nonce, tag, ciphertext⟩
  invFun s := (s.version, s.cipher, s.ciphertextLen, s.nonce, s.tag, s.ciphertext)
  left_inv _ := rfl
  right_inv _ := rfl

def ActiveSubstance.layout : Layout ActiveSubstance 288 :=
  (Layout.byte.pair <| Layout.byte.pair <| Layout.u16.pair <| (Layout.block 12).pair <|
    (Layout.block 16).pair <| Layout.block 256).iso ActiveSubstance.equiv

def ActiveSubstanceCommand.equiv :
    ByteArr 32 × ByteArr 32 × Int32 × UInt8 × ByteArr 3 × Int32 ≃ ActiveSubstanceCommand where
  toFun := fun (deviceId, topic, aminoId, payloadType, reserved, payloadI32) =>
    ⟨deviceId, topic, aminoId, payloadType, reserved, payloadI32⟩
  invFun c := (c.deviceId, c.topic, c.aminoId, c.payloadType, c.reserved, c.payloadI32)
  left_inv _ := rfl
  right_inv _ := rfl

def ActiveSubstanceCommand.layout : Layout ActiveSubstanceCommand 76 :=
  ((Layout.block 32).pair <| (Layout.block 32).pair <| Layout.i32.pair <| Layout.byte.pair <|
    (Layout.block 3).pair <| Layout.i32).iso ActiveSubstanceCommand.equiv

def cStringFieldValid (field : Bytes) : Bool :=
  field.headD 0 != 0 &&
    match field.dropWhile (· != 0) with
    | [] => false
    | _ :: rest => rest.all (· == 0)

def activeSubstanceCommandClear : ActiveSubstanceCommand :=
  ⟨List.Vector.replicate 32 0, List.Vector.replicate 32 0, 0, 0, List.Vector.replicate 3 0, 0⟩

/-- The payload argument of the amino check: absent for a command without one. -/
def ActiveSubstanceCommand.payload (command : ActiveSubstanceCommand) : Option Int32 :=
  if command.payloadType = AminoValueType.none.code then none else some command.payloadI32

def activeSubstanceCommandValidate (command : ActiveSubstanceCommand) : Result Unit :=
  if !cStringFieldValid command.deviceId.toList then
    .error .invalidArg
  else if !cStringFieldValid command.topic.toList then
    .error .invalidArg
  else if !bytesAllZero command.reserved.toList then
    .error .invalidArg
  else
    match aminoAcidFind command.aminoId with
    | none => .error .notFound
    | some acid =>
        if acid.valueType.code ≠ command.payloadType then
          .error .invalidArg
        else
          aminoAcidValidatePayload command.aminoId command.payload

/-- The caller's command is overwritten unless the length is wrong, and cleared
again when the parsed command is not valid. -/
def activeSubstanceParseCommand (plaintext : Bytes) (out : ActiveSubstanceCommand) :
    Result Unit × ActiveSubstanceCommand :=
  if plaintext.length ≠ 76 then
    (.error .invalidSize, out)
  else
    let command := ActiveSubstanceCommand.layout.decode plaintext
    match activeSubstanceCommandValidate command with
    | .ok () => (.ok (), command)
    | .error err => (.error err, activeSubstanceCommandClear)

def activeSubstanceValidateEnvelope (substance : ActiveSubstance) : Result Unit :=
  if substance.version ≠ activeSubstanceVersion then
    .error .invalidVersion
  else if substance.cipher ≠ activeSubstanceCipherAes128Gcm ∧
      substance.cipher ≠ activeSubstanceCipherAes256Gcm ∧
      substance.cipher ≠ activeSubstanceCipherChacha20Poly1305 then
    .error .notSupported
  else if substance.ciphertextLen = 0 ∨
      activeSubstanceCiphertextMaxLen < substance.ciphertextLen.toNat then
    .error .invalidSize
  else
    .ok ()

def activeSubstanceHashInput (substance : ActiveSubstance) : Bytes :=
  [substance.version, substance.cipher] ++ leBytes 2 substance.ciphertextLen.toNat ++
    substance.nonce.toList ++ substance.tag.toList ++
    substance.ciphertext.toList.take substance.ciphertextLen.toNat

def activeSubstanceHash (crypto : Crypto) (substance : ActiveSubstance) : Result (ByteArr 32) :=
  match activeSubstanceValidateEnvelope substance with
  | .error err => .error err
  | .ok () =>
      match crypto.mdSha256 (activeSubstanceHashInput substance) with
      | none => .error .fail
      | some hash => .ok hash

theorem c_string_field_valid_terminated {field : Bytes} (valid : cStringFieldValid field = true) :
    CString.text field ≠ [] ∧ (CString.text field).length < field.length := by
  cases field with
  | nil => simp [cStringFieldValid] at valid
  | cons byte rest =>
      by_cases zero : byte = 0
      · simp [cStringFieldValid, zero] at valid
      · have tail : rest.dropWhile (· != 0) ≠ [] := by
          intro exhausted
          simp [cStringFieldValid, zero, exhausted] at valid
        have split : (rest.takeWhile (· != 0) ++ rest.dropWhile (· != 0)).length = rest.length :=
          congrArg List.length List.takeWhile_append_dropWhile
        have positive := List.length_pos_of_ne_nil tail
        rw [List.length_append] at split
        refine ⟨by simp [CString.text_cons zero], ?_⟩
        rw [CString.text_cons zero, List.length_cons, List.length_cons, CString.text]
        omega

theorem c_string_field_valid_fit {size : Nat} {string : Bytes}
    (clean : ∀ byte ∈ string, byte ≠ 0) (nonempty : string ≠ []) (short : string.length < size) :
    cStringFieldValid (fit size string).toList = true := by
  obtain ⟨first, rest, rfl⟩ := List.exists_cons_of_ne_nil nonempty
  have nonzero := clean first List.mem_cons_self
  obtain ⟨spare, padding⟩ : ∃ spare, size - (first :: rest).length = spare + 1 :=
    ⟨size - (first :: rest).length - 1, by omega⟩
  have dropped : (first :: rest ++ List.replicate (spare + 1) (0 : UInt8)).dropWhile (· != 0) =
      0 :: List.replicate spare 0 := by
    rw [List.dropWhile_append_of_pos (by simpa using clean), List.replicate_succ]
    simp
  rw [fit_short (Nat.le_of_lt short), padding, cStringFieldValid, dropped]
  simp [nonzero]

/-- A well-formed command: named device and topic, and the payload its amino
acid requires. -/
structure ActiveSubstanceCommand.Valid (command : ActiveSubstanceCommand) : Prop where
  deviceId : cStringFieldValid command.deviceId.toList = true
  topic : cStringFieldValid command.topic.toList = true
  reserved : bytesAllZero command.reserved.toList = true
  payload : ∃ acid, aminoAcidFind command.aminoId = some acid ∧
    acid.valueType.code = command.payloadType ∧ PayloadFits acid.valueType command.payload

theorem active_substance_command_validate_ok {command : ActiveSubstanceCommand} :
    activeSubstanceCommandValidate command = .ok () ↔ command.Valid := by
  constructor
  · intro accepted
    unfold activeSubstanceCommandValidate at accepted
    split_ifs at accepted with badDevice badTopic badReserved
    refine ⟨by simpa using badDevice, by simpa using badTopic, by simpa using badReserved, ?_⟩
    cases found : aminoAcidFind command.aminoId with
    | none => simp [found] at accepted
    | some acid =>
        rw [found] at accepted
        by_cases typed : acid.valueType.code = command.payloadType
        · simp only [typed, ne_eq, not_true_eq_false, if_false] at accepted
          obtain ⟨other, again, fits⟩ := amino_acid_validate_payload_ok.mp accepted
          rw [found, Option.some.injEq] at again
          subst again
          exact ⟨acid, rfl, typed, fits⟩
        · simp [typed] at accepted
  · rintro ⟨device, topic, reserved, acid, found, typed, fits⟩
    unfold activeSubstanceCommandValidate
    simp only [device, topic, reserved, found, typed, Bool.not_true, Bool.false_eq_true, if_false,
      ne_eq, not_true_eq_false]
    exact amino_acid_validate_payload_ok.mpr ⟨acid, found, fits⟩

theorem active_substance_parse_command_ok {plaintext : Bytes} {out : ActiveSubstanceCommand} :
    (activeSubstanceParseCommand plaintext out).1 = .ok () ↔
      plaintext.length = 76 ∧ (ActiveSubstanceCommand.layout.decode plaintext).Valid := by
  rw [← active_substance_command_validate_ok]
  unfold activeSubstanceParseCommand
  by_cases sized : plaintext.length = 76
  · cases checked : activeSubstanceCommandValidate
        (ActiveSubstanceCommand.layout.decode plaintext) with
    | error err => simp [sized, checked]
    | ok => simp [sized, checked]
  · simp [sized]

theorem active_substance_parse_command_value {plaintext : Bytes} {out : ActiveSubstanceCommand}
    (accepted : (activeSubstanceParseCommand plaintext out).1 = .ok ()) :
    (activeSubstanceParseCommand plaintext out).2 =
      ActiveSubstanceCommand.layout.decode plaintext := by
  obtain ⟨sized, valid⟩ := active_substance_parse_command_ok.mp accepted
  simp [activeSubstanceParseCommand, sized, active_substance_command_validate_ok.mpr valid]

theorem active_substance_validate_envelope_ok {substance : ActiveSubstance} :
    activeSubstanceValidateEnvelope substance = .ok () ↔
      substance.version = activeSubstanceVersion ∧
      (substance.cipher = activeSubstanceCipherAes128Gcm ∨
        substance.cipher = activeSubstanceCipherAes256Gcm ∨
        substance.cipher = activeSubstanceCipherChacha20Poly1305) ∧
      0 < substance.ciphertextLen.toNat ∧ substance.ciphertextLen.toNat ≤ 256 := by
  have zero : substance.ciphertextLen = 0 ↔ substance.ciphertextLen.toNat = 0 := by
    rw [← UInt16.toNat_inj]
    rfl
  unfold activeSubstanceValidateEnvelope activeSubstanceCiphertextMaxLen
  split_ifs with version cipher length
  · simp [version]
  · simp only [false_iff]
    rintro ⟨-, known, -⟩
    tauto
  · simp only [false_iff]
    rintro ⟨-, -, positive, bounded⟩
    rw [zero] at length
    omega
  · simp only [true_iff]
    rw [zero] at length
    refine ⟨by simpa using version, by tauto, by omega, by omega⟩

theorem active_substance_hash_ok {crypto : Crypto} {substance : ActiveSubstance}
    {hash : ByteArr 32} :
    activeSubstanceHash crypto substance = .ok hash ↔
      activeSubstanceValidateEnvelope substance = .ok () ∧
        crypto.mdSha256 (activeSubstanceHashInput substance) = some hash := by
  unfold activeSubstanceHash
  cases activeSubstanceValidateEnvelope substance with
  | error err => simp
  | ok =>
      cases crypto.mdSha256 (activeSubstanceHashInput substance) <;> simp

end BlindNet
