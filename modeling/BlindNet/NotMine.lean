import BlindNet.DigestionContract

/-!
# Not mine

A pill no device of the table can open is answered with "not found", and the
reception then reports the result of the relay. The same error comes out of the
command check when the pill was opened but names an amino acid the firmware does
not know, and the search ends with another error before the table is exhausted
when the cipher is one the enzyme does not implement.
-/

namespace BlindNet

set_option autoImplicit false

open ByteLayout

/-- A command whose texts are in order, for an amino acid that is not in the
registry. -/
structure ActiveSubstanceCommand.NamesUnknownAmino (command : ActiveSubstanceCommand) : Prop where
  deviceId : cStringFieldValid command.deviceId.toList = true
  topic : cStringFieldValid command.topic.toList = true
  reserved : bytesAllZero command.reserved.toList = true
  unknown : aminoAcidFind command.aminoId = none

theorem amino_acid_validate_payload_known {id : Int32} {acid : AminoAcid} {value : Option Int32}
    (known : aminoAcidFind id = some acid) :
    aminoAcidValidatePayload id value ≠ .error .notFound := by
  simp only [aminoAcidValidatePayload, known]
  cases acid.valueType <;> cases value <;> try simp
  split_ifs <;> simp

theorem command_validate_not_found_iff {command : ActiveSubstanceCommand} :
    activeSubstanceCommandValidate command = .error .notFound ↔ command.NamesUnknownAmino := by
  have different : EspErr.invalidArg ≠ .notFound := by decide
  unfold activeSubstanceCommandValidate
  rw [guard_other different, guard_other different, guard_other different]
  simp only [Bool.not_eq_true', Bool.not_eq_false]
  constructor
  · rintro ⟨deviceId, topic, reserved, refused⟩
    refine ⟨deviceId, topic, reserved, ?_⟩
    cases found : aminoAcidFind command.aminoId with
    | none => rfl
    | some acid =>
        simp only [found, guard_other different] at refused
        exact absurd refused.2 (amino_acid_validate_payload_known found)
  · intro stranger
    exact ⟨stranger.deviceId, stranger.topic, stranger.reserved, by simp [stranger.unknown]⟩

theorem parse_command_not_found_iff {plaintext : Bytes} {out : ActiveSubstanceCommand} :
    (activeSubstanceParseCommand plaintext out).1 = .error .notFound ↔
      plaintext.length = 76 ∧
        (ActiveSubstanceCommand.layout.decode plaintext).NamesUnknownAmino := by
  rw [← command_validate_not_found_iff]
  unfold activeSubstanceParseCommand
  split_ifs with sized
  · simp [sized]
  · dsimp only
    rw [not_not] at sized
    cases activeSubstanceCommandValidate (ActiveSubstanceCommand.layout.decode plaintext) with
    | error err => simp [sized]
    | ok => simp

section Search

variable {crypto : Crypto} {pill : ActionPill} {aad : Option Bytes}

/-- The first entry to decrypt the pill decrypts it to a command for an unknown
amino acid. -/
def OpenedUnknown (crypto : Crypto) (pill : ActionPill) (aad : Option Bytes)
    (candidates : List RibosomeTableEntry) : Prop :=
  ∃ entry plaintext, candidates.find? (decrypts crypto pill aad) = some entry ∧
    openWith crypto pill aad entry = .ok plaintext ∧ plaintext.length = 76 ∧
    (ActiveSubstanceCommand.layout.decode plaintext).NamesUnknownAmino

theorem OpenedUnknown.not_closed {candidates : List RibosomeTableEntry}
    (stranger : OpenedUnknown crypto pill aad candidates) :
    ¬ ∀ entry ∈ candidates, decrypts crypto pill aad entry = false := by
  intro closed
  obtain ⟨entry, plaintext, found, -⟩ := stranger
  have shut := closed entry (List.mem_of_find?_eq_some found)
  exact absurd ((List.find?_some found).symm.trans shut) (by simp)

/-- With a cipher the enzyme implements, the search answers "not found" when no
entry decrypts, and when the first that does names an unknown amino acid. -/
theorem supported_search_not_found_iff
    (envelope : activeSubstanceValidateEnvelope pill.active = .ok ())
    (supported : selectKeyLen pill.active ≠ .error .notSupported)
    (candidates : List RibosomeTableEntry) :
    (digestCandidates crypto pill aad DigestedActiveSubstance.clear candidates).1 =
        .error .notFound ↔
      (∀ entry ∈ candidates, decrypts crypto pill aad entry = false) ∨
        OpenedUnknown crypto pill aad candidates := by
  rw [digest_candidates_find _ envelope supported, FirstMatch.answer]
  cases found : candidates.find? (decrypts crypto pill aad) with
  | none =>
      rw [List.find?_eq_none] at found
      simp only [Bool.not_eq_true] at found
      exact ⟨fun _ => Or.inl found, fun _ => rfl⟩
  | some entry =>
      have opens := List.find?_some found
      obtain ⟨usable, plaintext, opened⟩ := decrypts_iff.mp opens
      have answer : (digestCandidates crypto pill aad DigestedActiveSubstance.clear [entry]).1 =
          (activeSubstanceParseCommand plaintext DigestedActiveSubstance.clear.command).1 := by
        simp only [digestCandidates, usable, opened, Bool.not_true, Bool.false_eq_true, if_false]
        cases (activeSubstanceParseCommand plaintext DigestedActiveSubstance.clear.command).1 <;>
          rfl
      dsimp only
      rw [answer, parse_command_not_found_iff]
      constructor
      · intro stranger
        exact Or.inr ⟨entry, plaintext, found, opened, stranger⟩
      · rintro (closed | ⟨same, other, isSame, isOther, stranger⟩)
        · have shut := closed entry (List.mem_of_find?_eq_some found)
          exact absurd (opens.symm.trans shut) (by simp)
        · obtain rfl : same = entry := Option.some.inj (isSame.symm.trans found)
          obtain rfl : other = plaintext := Except.ok.inj (isOther.symm.trans opened)
          exact stranger

/-- With another cipher nothing decrypts, and the first secret in the table ends
the search. -/
theorem unsupported_search_not_found_iff
    (envelope : activeSubstanceValidateEnvelope pill.active = .ok ())
    (unsupported : selectKeyLen pill.active = .error .notSupported)
    (candidates : List RibosomeTableEntry) :
    (digestCandidates crypto pill aad DigestedActiveSubstance.clear candidates).1 =
        .error .notFound ↔
      ∀ entry ∈ candidates, bytesAllZero entry.deviceSecret.toList = true := by
  induction candidates with
  | nil => simp [digestCandidates]
  | cons candidate rest induction =>
      cases secret : bytesAllZero candidate.deviceSecret.toList with
      | true =>
          have unusable : deviceSecretValid candidate.deviceSecret = false := by
            rw [← Bool.not_eq_true, device_secret_valid_iff, secret]
            simp
          simp only [digestCandidates, unusable, Bool.not_false, if_true, induction,
            List.forall_mem_cons, secret, true_and]
      | false =>
          have usable := (device_secret_valid_iff _).mpr secret
          have refused : openWith crypto pill aad candidate = .error .notSupported :=
            active_enzyme_decrypt_unsupported envelope secret unsupported
          simp [digestCandidates, usable, refused, secret]

end Search

/-- The tables and pills on which "not found" and "not mine" are the same: when
no entry decrypts, the search goes through the whole table, which takes a count
within bounds and a cipher the enzyme implements or no secret at all; and when one
does, the first does not name an unknown amino acid. -/
structure NotMineTold (crypto : Crypto) (pill : ActionPill) (aad : Option Bytes)
    (devices : RibosomeTable) : Prop where
  unopened : (∀ entry ∈ devices.live, decrypts crypto pill aad entry = false) →
    devices.count ≤ ribosomeMaxEntries ∧
      (selectKeyLen pill.active ≠ .error .notSupported ∨
        ∀ entry ∈ devices.live, bytesAllZero entry.deviceSecret.toList = true)
  opened : devices.count ≤ ribosomeMaxEntries → ¬ OpenedUnknown crypto pill aad devices.live

/-- For an authorised pill, digestion answers "not found" exactly when no entry of
the table decrypts it, if and only if the table and the pill are of that kind. -/
theorem not_mine_reported_iff {crypto : Crypto} {pill : ActionPill} {nowMs : UInt32}
    {issuerKeyId : ByteArr 16} {issuerPublicKey : Bytes}
    (authorized : validateAuthorized crypto pill nowMs issuerKeyId issuerPublicKey = .ok ())
    (devices : RibosomeTable) (aad : Option Bytes) :
    ((digestActiveSubstance crypto pill devices aad).1 = .error .notFound ↔
        ∀ entry ∈ devices.live, decrypts crypto pill aad entry = false) ↔
      NotMineTold crypto pill aad devices := by
  have envelope := (validate_authorized_ok.mp authorized).1
  rcases digest_active_substance_cases crypto pill devices aad with
    ⟨excess, early⟩ | ⟨err, refused, -⟩ | ⟨bounded, -, searched⟩
  · rw [early]
    constructor
    · intro told
      refine ⟨fun closed => absurd (told.mpr closed) (by simp), fun bounded => ?_⟩
      exact absurd bounded (Nat.not_le.mpr excess)
    · intro told
      refine ⟨fun wrong => absurd wrong (by simp), fun closed => ?_⟩
      exact absurd (told.unopened closed).1 (Nat.not_le.mpr excess)
  · exact absurd (envelope.symm.trans refused) (by simp)
  · rw [searched]
    by_cases supported : selectKeyLen pill.active = .error .notSupported
    · have closed : ∀ entry ∈ devices.live, decrypts crypto pill aad entry = false :=
        fun entry _ => unsupported_never_decrypts envelope supported entry
      rw [unsupported_search_not_found_iff envelope supported]
      constructor
      · intro told
        exact ⟨fun _ => ⟨bounded, Or.inr (told.mpr closed)⟩,
          fun _ stranger => stranger.not_closed closed⟩
      · intro told
        refine ⟨fun _ => closed, fun _ => ?_⟩
        exact (told.unopened closed).2.resolve_left (not_not.mpr supported)
    · rw [supported_search_not_found_iff envelope supported]
      constructor
      · intro told
        exact ⟨fun _ => ⟨bounded, Or.inl supported⟩,
          fun _ stranger => stranger.not_closed (told.mp (Or.inr stranger))⟩
      · intro told
        refine ⟨fun answer => ?_, Or.inl⟩
        exact answer.resolve_right (told.opened bounded)

theorem lamp_pill_is_mine :
    validateAuthorized benchCrypto lampPill 5 lampConfig.issuerKeyId
        lampConfig.issuerPublicKeyPem.toList = .ok () ∧
      NotMineTold benchCrypto lampPill none lampTable := by
  have authorized : validateAuthorized benchCrypto lampPill 5 lampConfig.issuerKeyId
      lampConfig.issuerPublicKeyPem.toList = .ok () := by decide +kernel
  refine ⟨authorized, (not_mine_reported_iff authorized lampTable none).mp ?_⟩
  decide +kernel

def strangerActive : ActiveSubstance :=
  { lampPill.active with
    ciphertext := fit 256 (ActiveSubstanceCommand.layout.encode
      { ActiveSubstanceCommand.layout.decode (lampPill.active.ciphertext.toList.take 76) with
        aminoId := 999 }) }

def strangerCapsule : CapsulePill :=
  { lampPill.capsule with activeHash := benchDigest (activeSubstanceHashInput strangerActive) }

def strangerPill : ActionPill where
  active := strangerActive
  capsule :=
    { strangerCapsule with
      signature := fit 96 (48 :: (benchDigest (capsuleSignedCanonical strangerCapsule)).toList) }

/-- The lamp's secret opens the pill, but its command names no amino acid of the
registry: the answer is "not found", and the reception reports the relay. -/
theorem unknown_amino_not_mine :
    validateAuthorized benchCrypto strangerPill 5 lampConfig.issuerKeyId
        lampConfig.issuerPublicKeyPem.toList = .ok () ∧
      (∃ entry ∈ lampTable.live, decrypts benchCrypto strangerPill none entry = true) ∧
      (digestActiveSubstance benchCrypto strangerPill lampTable none).1 = .error .notFound ∧
      (onActionPillReceived benchCrypto benchEnvironment strangerPill lampGuardian).result =
        .ok () := by
  decide +kernel

end BlindNet
