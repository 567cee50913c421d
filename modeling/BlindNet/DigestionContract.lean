import BlindNet.Interop

/-!
# What digestion answers

The search goes over the table until one entry's secret opens the pill. Entries
without a secret and entries whose decryption fails are passed over; what the
first opening entry yields is the answer, also when it is no command. Whenever
there is an error the result is cleared.
-/

namespace BlindNet

set_option autoImplicit false

open ByteLayout

/-- An entry the search goes past: it has no secret, the tag does not match, or
the cryptography itself failed. -/
def PassedOver (crypto : Crypto) (pill : ActionPill) (aad : Option Bytes)
    (entry : RibosomeTableEntry) : Prop :=
  bytesAllZero entry.deviceSecret.toList = true ∨
    openWith crypto pill aad entry = .error .invalidState ∨
    openWith crypto pill aad entry = .error .fail

/-- The entry's plaintext is this command, and the command is valid. -/
structure OpensTo (crypto : Crypto) (pill : ActionPill) (aad : Option Bytes)
    (entry : RibosomeTableEntry) (command : ActiveSubstanceCommand) : Prop where
  secret : bytesAllZero entry.deviceSecret.toList = false
  plaintext : openWith crypto pill aad entry = .ok (ActiveSubstanceCommand.layout.encode command)
  valid : command.Valid

section Search

variable {crypto : Crypto} {pill : ActionPill} {aad : Option Bytes}

theorem parse_command_failed {plaintext : Bytes} {err : EspErr}
    (failed : (activeSubstanceParseCommand plaintext activeSubstanceCommandClear).1 = .error err) :
    (activeSubstanceParseCommand plaintext activeSubstanceCommandClear).2 =
      activeSubstanceCommandClear := by
  unfold activeSubstanceParseCommand at failed ⊢
  split_ifs at failed ⊢ with sized
  · rfl
  · dsimp only at failed ⊢
    cases checked : activeSubstanceCommandValidate
        (ActiveSubstanceCommand.layout.decode plaintext) with
    | error err => rfl
    | ok => simp [checked] at failed

/-- The result is a candidate that opens the pill, with its command, and every
candidate before it was passed over. -/
def AnsweredBy (crypto : Crypto) (pill : ActionPill) (aad : Option Bytes)
    (candidates : List RibosomeTableEntry) (result : DigestedActiveSubstance) : Prop :=
  ∃ before after, candidates = before ++ result.device :: after ∧
    (∀ other ∈ before, PassedOver crypto pill aad other) ∧
    OpensTo crypto pill aad result.device result.command

theorem AnsweredBy.cons {candidates : List RibosomeTableEntry} {result : DigestedActiveSubstance}
    (answered : AnsweredBy crypto pill aad candidates result) {candidate : RibosomeTableEntry}
    (passed : PassedOver crypto pill aad candidate) :
    AnsweredBy crypto pill aad (candidate :: candidates) result := by
  obtain ⟨before, after, split, earlier, opens⟩ := answered
  refine ⟨candidate :: before, after, by rw [split]; rfl, ?_, opens⟩
  intro other member
  rcases List.mem_cons.mp member with same | member
  · rw [same]
    exact passed
  · exact earlier other member

theorem digest_candidates_answered
    (envelope : activeSubstanceValidateEnvelope pill.active = .ok ())
    {candidates : List RibosomeTableEntry}
    (digested : (digestCandidates crypto pill aad DigestedActiveSubstance.clear candidates).1 =
      .ok ()) :
    AnsweredBy crypto pill aad candidates
      (digestCandidates crypto pill aad DigestedActiveSubstance.clear candidates).2 := by
  induction candidates with
  | nil => exact absurd digested (by simp [digestCandidates])
  | cons candidate rest induction =>
      have step := digest_candidates_step crypto pill aad DigestedActiveSubstance.clear candidate
        rest
      generalize digestCandidates crypto pill aad DigestedActiveSubstance.clear
        (candidate :: rest) = answer at digested step ⊢
      cases step with
      | unusable secret => exact (induction digested).cons (Or.inl secret)
      | passed err secret refused goesOn =>
          rcases active_enzyme_decrypt_error envelope secret refused with fail | tag | cipher
          · exact (induction digested).cons (Or.inr (Or.inr (fail ▸ refused)))
          · exact (induction digested).cons (Or.inr (Or.inl (tag ▸ refused)))
          · exact absurd (Or.inl cipher.1) goesOn
      | aborted err secret refused ends => exact absurd digested (by simp)
      | rejected plaintext err secret opened failed => exact absurd digested (by simp)
      | digested plaintext secret opened parsed =>
          obtain ⟨sized, valid⟩ := active_substance_parse_command_ok.mp parsed
          refine ⟨[], rest, rfl, ?_, secret, ?_, valid⟩
          · intro other member
            exact absurd member List.not_mem_nil
          · rw [ActiveSubstanceCommand.layout.encode_decode _ sized]
            exact opened

theorem digest_candidates_cleared {candidates : List RibosomeTableEntry} {err : EspErr}
    (failed : (digestCandidates crypto pill aad DigestedActiveSubstance.clear candidates).1 =
      .error err) :
    (digestCandidates crypto pill aad DigestedActiveSubstance.clear candidates).2 =
      DigestedActiveSubstance.clear := by
  induction candidates with
  | nil => rfl
  | cons candidate rest induction =>
      have step := digest_candidates_step crypto pill aad DigestedActiveSubstance.clear candidate
        rest
      generalize digestCandidates crypto pill aad DigestedActiveSubstance.clear
        (candidate :: rest) = answer at failed step ⊢
      cases step with
      | unusable secret => exact induction failed
      | passed err secret refused goesOn => exact induction failed
      | aborted err secret refused ends => rfl
      | rejected plaintext err secret opened refused =>
          have cleared := parse_command_failed refused
          exact congrArg₂ DigestedActiveSubstance.mk cleared rfl
      | digested plaintext secret opened parsed => exact absurd failed (by simp)

end Search

/-- Digestion succeeds only with the first entry of the table that has a secret
and whose decryption succeeds, and with its valid command; the entries before it
have no secret, or their decryption failed, on the tag or in the cryptography
itself. After an error the command and the device are cleared. -/
theorem digestion_result_contract (crypto : Crypto) (pill : ActionPill) (devices : RibosomeTable)
    (aad : Option Bytes) :
    ((digestActiveSubstance crypto pill devices aad).1 = .ok () →
      AnsweredBy crypto pill aad devices.live (digestActiveSubstance crypto pill devices aad).2) ∧
    ∀ err, (digestActiveSubstance crypto pill devices aad).1 = .error err →
      (digestActiveSubstance crypto pill devices aad).2 =
        ⟨activeSubstanceCommandClear, ribosomeTableClearEntry⟩ := by
  rcases digest_active_substance_cases crypto pill devices aad with
    ⟨-, early⟩ | ⟨err, -, early⟩ | ⟨-, envelope, searched⟩
  · rw [early]
    exact ⟨fun digested => absurd digested (by simp), fun _ _ => rfl⟩
  · rw [early]
    exact ⟨fun digested => absurd digested (by simp), fun _ _ => rfl⟩
  · rw [searched]
    exact ⟨digest_candidates_answered envelope, fun _ => digest_candidates_cleared⟩

def failingCrypto : Crypto :=
  { benchCrypto with
    psaAeadDecrypt := fun key nonce aad sealed =>
      match benchCrypto.psaAeadDecrypt key nonce aad sealed with
      | .ok plaintext => .ok plaintext
      | .error _ => .error .failure }

def hallSecret : ByteArr 32 := List.Vector.replicate 32 8

def hallTable : RibosomeTable :=
  (ribosomeTableAddFromConfig ribosomeTableInit
    ⟨CString.utf8 "hall01" ++ [0], rnaTemplateIdLightSwitch, 1, hallSecret⟩).2

def hallAndLamp : RibosomeTable :=
  (ribosomeTableAddFromConfig hallTable
    ⟨CString.utf8 "lamp01" ++ [0], rnaTemplateIdLightSwitch, 1, lampSecret⟩).2

/-- The hall's entry has a secret and its tag was never found wrong, and yet the
search goes past it. -/
theorem failed_cryptography_passed_over :
    ∃ hall lamp : RibosomeTableEntry, hallAndLamp.live = [hall, lamp] ∧
      bytesAllZero hall.deviceSecret.toList = false ∧
      openWith failingCrypto lampPill none hall = .error .fail ∧
      (digestActiveSubstance failingCrypto lampPill hallAndLamp none).1 = .ok () ∧
      (digestActiveSubstance failingCrypto lampPill hallAndLamp none).2.device = lamp := by
  have live : hallAndLamp.live = hallTable.live ++ [lampEntry] := by decide +kernel
  have hall : hallTable.live = [hallTable.entries.head] := by decide +kernel
  exact ⟨hallTable.entries.head, lampEntry, by rw [live, hall]; rfl, by decide +kernel⟩

end BlindNet
