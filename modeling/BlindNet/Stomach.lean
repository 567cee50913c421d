import BlindNet.ActionPill
import BlindNet.RibosomeTable
import BlindNet.Lib.Ring
import BlindNet.Lib.FirstMatch

/-!
# Stomach

The replay cache over capsule digests, the authorisation of a pill, and the
search for a device whose secret opens it.
-/

namespace BlindNet

set_option autoImplicit false

open ByteLayout RecencyRing

def stomachCpCacheSize : Nat := 16

abbrev StomachCpCache := Ring (ByteArr 32) stomachCpCacheSize

structure Stomach where
  cpCache : StomachCpCache

def Stomach.new : Stomach :=
  ⟨Ring.empty (List.Vector.replicate 32 0) (by decide)⟩

structure StomachSeenResult where
  status : Result Unit
  seen : Bool
  digest : ByteArr 32

def Stomach.seenOrAddCp (crypto : Crypto) (stomach : Stomach) (pill : ActionPill) :
    StomachSeenResult × Stomach :=
  match computeCapsuleDigest crypto pill with
  | .ok digest =>
      let added := stomach.cpCache.seenOrAdd digest
      (⟨.ok (), added.1, digest⟩, ⟨added.2⟩)
  | .error err => (⟨.error err, false, List.Vector.replicate 32 0⟩, stomach)

/-- `validate_authorized_with_trace`; the wrapper only logs its result. -/
def validateAuthorized (crypto : Crypto) (pill : ActionPill) (nowMs : UInt32)
    (expectedIssuerKeyId : ByteArr 16) (issuerPublicKey : Bytes) : Result Unit :=
  match precheckForRelay pill nowMs with
  | .error err => .error err
  | .ok () =>
      if !issuerKeyMatches pill expectedIssuerKeyId then
        .error .invalidState
      else if !capsuleMatchesActive crypto pill then
        .error .invalidCrc
      else if !verifyCapsuleSignature crypto pill issuerPublicKey then
        .error .invalidState
      else
        .ok ()

structure DigestedActiveSubstance where
  command : ActiveSubstanceCommand
  device : RibosomeTableEntry

def DigestedActiveSubstance.clear : DigestedActiveSubstance :=
  ⟨activeSubstanceCommandClear, ribosomeTableClearEntry⟩

def deviceSecretValid (secret : ByteArr 32) : Bool :=
  secret.toList.foldl (· ||| ·) 0 != 0

/-- `decrypt_with_secret` as the candidate loop calls it. -/
def openWith (crypto : Crypto) (pill : ActionPill) (aad : Option Bytes)
    (candidate : RibosomeTableEntry) : Result Bytes :=
  activeEnzymeDecryptWithSecret crypto pill.active candidate.deviceSecret candidate.epoch aad
    activeEnzymePlaintextMaxLen

/-- The candidate loop: the first entry that decrypts decides, also when its
plaintext is no command. -/
def digestCandidates (crypto : Crypto) (pill : ActionPill) (aad : Option Bytes)
    (out : DigestedActiveSubstance) :
    List RibosomeTableEntry → Result Unit × DigestedActiveSubstance
  | [] => (.error .notFound, DigestedActiveSubstance.clear)
  | candidate :: rest =>
      if !deviceSecretValid candidate.deviceSecret then
        digestCandidates crypto pill aad out rest
      else
        match openWith crypto pill aad candidate with
        | .ok plaintext =>
            let parsed := activeSubstanceParseCommand plaintext out.command
            match parsed.1 with
            | .error err => (.error err, { out with command := parsed.2 })
            | .ok () => (.ok (), ⟨parsed.2, candidate⟩)
        | .error err =>
            if err = .notSupported ∨ err = .invalidSize ∨ err = .invalidArg then
              (.error err, out)
            else
              digestCandidates crypto pill aad out rest

def digestActiveSubstance (crypto : Crypto) (pill : ActionPill) (devices : RibosomeTable)
    (aad : Option Bytes) : Result Unit × DigestedActiveSubstance :=
  let out := DigestedActiveSubstance.clear
  if ribosomeMaxEntries < devices.count then
    (.error .invalidArg, out)
  else
    match activeSubstanceValidateEnvelope pill.active with
    | .error err => (.error err, out)
    | .ok () =>
        if devices.count = 0 then
          (.error .notFound, out)
        else
          digestCandidates crypto pill aad out devices.live

theorem device_secret_valid_iff (secret : ByteArr 32) :
    deviceSecretValid secret = true ↔ bytesAllZero secret.toList = false := by
  simp [deviceSecretValid, bytesAllZero]

theorem validate_authorized_ok {crypto : Crypto} {pill : ActionPill} {nowMs : UInt32}
    {issuerKeyId : ByteArr 16} {issuerPublicKey : Bytes} :
    validateAuthorized crypto pill nowMs issuerKeyId issuerPublicKey = .ok () ↔
      activeSubstanceValidateEnvelope pill.active = .ok () ∧ pill.capsule.BasicValid nowMs ∧
      pill.capsule.issuerKeyId = issuerKeyId ∧
      activeSubstanceHash crypto pill.active = .ok pill.capsule.activeHash ∧
      capsulePillVerifyAsymmetric crypto pill.capsule issuerPublicKey = true := by
  rw [← and_assoc, ← precheck_for_relay_ok]
  unfold validateAuthorized
  cases precheckForRelay pill nowMs with
  | error err => simp
  | ok =>
      simp only [guard_ok, issuerKeyMatches, capsuleMatchesActive, verifyCapsuleSignature,
        Bool.not_eq_true', Bool.not_eq_false, constant_time_equal_block,
        capsule_pill_matches_active_iff, true_and, and_true]

/-- What the search does with its next candidate. -/
inductive CandidateStep (crypto : Crypto) (pill : ActionPill) (aad : Option Bytes)
    (out : DigestedActiveSubstance) (candidate : RibosomeTableEntry)
    (rest : List RibosomeTableEntry) : Result Unit × DigestedActiveSubstance → Prop where
  | unusable (secret : bytesAllZero candidate.deviceSecret.toList = true) :
      CandidateStep crypto pill aad out candidate rest (digestCandidates crypto pill aad out rest)
  | passed (err : EspErr) (secret : bytesAllZero candidate.deviceSecret.toList = false)
      (refused : openWith crypto pill aad candidate = .error err)
      (goesOn : ¬ (err = .notSupported ∨ err = .invalidSize ∨ err = .invalidArg)) :
      CandidateStep crypto pill aad out candidate rest (digestCandidates crypto pill aad out rest)
  | aborted (err : EspErr) (secret : bytesAllZero candidate.deviceSecret.toList = false)
      (refused : openWith crypto pill aad candidate = .error err)
      (ends : err = .notSupported ∨ err = .invalidSize ∨ err = .invalidArg) :
      CandidateStep crypto pill aad out candidate rest (.error err, out)
  | rejected (plaintext : Bytes) (err : EspErr)
      (secret : bytesAllZero candidate.deviceSecret.toList = false)
      (opened : openWith crypto pill aad candidate = .ok plaintext)
      (failed : (activeSubstanceParseCommand plaintext out.command).1 = .error err) :
      CandidateStep crypto pill aad out candidate rest
        (.error err, { out with command := (activeSubstanceParseCommand plaintext out.command).2 })
  | digested (plaintext : Bytes) (secret : bytesAllZero candidate.deviceSecret.toList = false)
      (opened : openWith crypto pill aad candidate = .ok plaintext)
      (parsed : (activeSubstanceParseCommand plaintext out.command).1 = .ok ()) :
      CandidateStep crypto pill aad out candidate rest
        (.ok (), ⟨ActiveSubstanceCommand.layout.decode plaintext, candidate⟩)

theorem digest_candidates_step (crypto : Crypto) (pill : ActionPill) (aad : Option Bytes)
    (out : DigestedActiveSubstance) (candidate : RibosomeTableEntry)
    (rest : List RibosomeTableEntry) :
    CandidateStep crypto pill aad out candidate rest
      (digestCandidates crypto pill aad out (candidate :: rest)) := by
  by_cases usable : deviceSecretValid candidate.deviceSecret = true
  · have secret := (device_secret_valid_iff _).mp usable
    cases opened : openWith crypto pill aad candidate with
    | ok plaintext =>
        cases parsed : (activeSubstanceParseCommand plaintext out.command).1 with
        | error err =>
            have answer : digestCandidates crypto pill aad out (candidate :: rest) = (.error err,
                { out with command := (activeSubstanceParseCommand plaintext out.command).2 }) := by
              simp [digestCandidates, usable, opened, parsed]
            rw [answer]
            exact .rejected plaintext err secret opened parsed
        | ok =>
            have answer : digestCandidates crypto pill aad out (candidate :: rest) =
                (.ok (), ⟨ActiveSubstanceCommand.layout.decode plaintext, candidate⟩) := by
              simp [digestCandidates, usable, opened, parsed,
                active_substance_parse_command_value parsed]
            rw [answer]
            exact .digested plaintext secret opened parsed
    | error err =>
        by_cases ends : err = .notSupported ∨ err = .invalidSize ∨ err = .invalidArg
        · have answer : digestCandidates crypto pill aad out (candidate :: rest) =
              (.error err, out) := by
            simp [digestCandidates, usable, opened, ends]
          rw [answer]
          exact .aborted err secret opened ends
        · have answer : digestCandidates crypto pill aad out (candidate :: rest) =
              digestCandidates crypto pill aad out rest := by
            simp [digestCandidates, usable, opened, ends]
          rw [answer]
          exact .passed err secret opened ends
  · have zero : bytesAllZero candidate.deviceSecret.toList = true := by
      rw [device_secret_valid_iff] at usable
      simpa using usable
    have answer : digestCandidates crypto pill aad out (candidate :: rest) =
        digestCandidates crypto pill aad out rest := by
      simp [digestCandidates, usable]
    rw [answer]
    exact .unusable zero

/-- The search answers with a command only through an entry whose non-zero
secret opens the pill to exactly that command. -/
theorem digest_candidates_ok {crypto : Crypto} {pill : ActionPill} {aad : Option Bytes}
    {out : DigestedActiveSubstance} {candidates : List RibosomeTableEntry}
    (digested : (digestCandidates crypto pill aad out candidates).1 = .ok ()) :
    ∃ device ∈ candidates, ∃ plaintext,
      deviceSecretValid device.deviceSecret = true ∧
      openWith crypto pill aad device = .ok plaintext ∧
      (activeSubstanceParseCommand plaintext out.command).1 = .ok () ∧
      digestCandidates crypto pill aad out candidates =
        (.ok (), ⟨ActiveSubstanceCommand.layout.decode plaintext, device⟩) := by
  induction candidates with
  | nil => simp [digestCandidates] at digested
  | cons candidate rest induction =>
      have step := digest_candidates_step crypto pill aad out candidate rest
      generalize digestCandidates crypto pill aad out (candidate :: rest) = answer
        at digested step ⊢
      cases step with
      | unusable secret =>
          obtain ⟨device, member, found⟩ := induction digested
          exact ⟨device, List.mem_cons_of_mem _ member, found⟩
      | passed err secret refused goesOn =>
          obtain ⟨device, member, found⟩ := induction digested
          exact ⟨device, List.mem_cons_of_mem _ member, found⟩
      | aborted err secret refused ends => exact absurd digested (by simp)
      | rejected plaintext err secret opened failed => exact absurd digested (by simp)
      | digested plaintext secret opened parsed =>
          exact ⟨candidate, List.mem_cons_self, plaintext, (device_secret_valid_iff _).mpr secret,
            opened, parsed, rfl⟩

/-- The entry's secret is usable and opens the pill. -/
def decrypts (crypto : Crypto) (pill : ActionPill) (aad : Option Bytes)
    (candidate : RibosomeTableEntry) : Bool :=
  deviceSecretValid candidate.deviceSecret &&
    match openWith crypto pill aad candidate with
    | .ok _ => true
    | .error _ => false

theorem decrypts_iff {crypto : Crypto} {pill : ActionPill} {aad : Option Bytes}
    {candidate : RibosomeTableEntry} :
    decrypts crypto pill aad candidate = true ↔
      deviceSecretValid candidate.deviceSecret = true ∧
        ∃ plaintext, openWith crypto pill aad candidate = .ok plaintext := by
  unfold decrypts
  cases openWith crypto pill aad candidate <;> simp

/-- Where the cipher is supported, entries that do not decrypt are passed over,
so the search is decided by the first entry that does. -/
theorem digest_candidates_find {crypto : Crypto} {pill : ActionPill} {aad : Option Bytes}
    (out : DigestedActiveSubstance)
    (envelope : activeSubstanceValidateEnvelope pill.active = .ok ())
    (supported : selectKeyLen pill.active ≠ .error .notSupported)
    (candidates : List RibosomeTableEntry) :
    digestCandidates crypto pill aad out candidates =
      FirstMatch.answer (decrypts crypto pill aad)
        (fun device => digestCandidates crypto pill aad out [device])
        (.error .notFound, DigestedActiveSubstance.clear) candidates := by
  unfold FirstMatch.answer
  induction candidates with
  | nil => rfl
  | cons candidate rest induction =>
      by_cases opens : decrypts crypto pill aad candidate = true
      · obtain ⟨usable, plaintext, opened⟩ := decrypts_iff.mp opens
        rw [List.find?_cons_of_pos opens]
        simp only [digestCandidates, usable, opened, Bool.not_true, Bool.false_eq_true, if_false]
      · rw [List.find?_cons_of_neg opens, ← induction]
        by_cases usable : deviceSecretValid candidate.deviceSecret = true
        · cases opened : openWith crypto pill aad candidate with
          | ok plaintext => exact absurd (decrypts_iff.mpr ⟨usable, plaintext, opened⟩) opens
          | error err =>
              have passed : ¬ (err = .notSupported ∨ err = .invalidSize ∨ err = .invalidArg) := by
                rcases active_enzyme_decrypt_error envelope
                  ((device_secret_valid_iff _).mp usable) opened with fail | tag | cipher
                · simp [fail]
                · simp [tag]
                · exact absurd cipher.2 supported
              simp [digestCandidates, usable, opened, passed]
        · simp [digestCandidates, usable]

theorem unsupported_never_decrypts {crypto : Crypto} {pill : ActionPill} {aad : Option Bytes}
    (envelope : activeSubstanceValidateEnvelope pill.active = .ok ())
    (unsupported : selectKeyLen pill.active = .error .notSupported)
    (entry : RibosomeTableEntry) : decrypts crypto pill aad entry = false := by
  rw [← Bool.not_eq_true, decrypts_iff]
  rintro ⟨usable, plaintext, opened⟩
  have refused : openWith crypto pill aad entry = .error .notSupported :=
    active_enzyme_decrypt_unsupported envelope ((device_secret_valid_iff _).mp usable) unsupported
  exact absurd (opened.symm.trans refused) (by simp)

theorem digest_active_substance_search {crypto : Crypto} {pill : ActionPill}
    {devices : RibosomeTable} {aad : Option Bytes}
    (bounded : devices.count ≤ ribosomeMaxEntries)
    (envelope : activeSubstanceValidateEnvelope pill.active = .ok ()) :
    digestActiveSubstance crypto pill devices aad =
      digestCandidates crypto pill aad DigestedActiveSubstance.clear devices.live := by
  simp only [digestActiveSubstance, if_neg (Nat.not_lt.mpr bounded), envelope]
  by_cases vacant : devices.count = 0
  · have nobody : devices.live = [] := by
      simp [RibosomeTable.live, PrefixArray.live, vacant]
    rw [if_pos vacant, nobody, digestCandidates]
  · rw [if_neg vacant]

theorem digest_active_substance_cases (crypto : Crypto) (pill : ActionPill)
    (devices : RibosomeTable) (aad : Option Bytes) :
    (ribosomeMaxEntries < devices.count ∧ digestActiveSubstance crypto pill devices aad =
      (.error .invalidArg, DigestedActiveSubstance.clear)) ∨
    (∃ err, activeSubstanceValidateEnvelope pill.active = .error err ∧
      digestActiveSubstance crypto pill devices aad =
        (.error err, DigestedActiveSubstance.clear)) ∨
    (devices.count ≤ ribosomeMaxEntries ∧ activeSubstanceValidateEnvelope pill.active = .ok () ∧
      digestActiveSubstance crypto pill devices aad =
        digestCandidates crypto pill aad DigestedActiveSubstance.clear devices.live) := by
  by_cases excess : ribosomeMaxEntries < devices.count
  · exact Or.inl ⟨excess, by simp only [digestActiveSubstance, if_pos excess]⟩
  · right
    cases envelope : activeSubstanceValidateEnvelope pill.active with
    | error err =>
        exact Or.inl ⟨err, rfl, by simp only [digestActiveSubstance, if_neg excess, envelope]⟩
    | ok =>
        have bounded := Nat.not_lt.mp excess
        exact Or.inr ⟨bounded, rfl, digest_active_substance_search bounded envelope⟩

theorem digest_active_substance_ok {crypto : Crypto} {pill : ActionPill} {devices : RibosomeTable}
    {aad : Option Bytes} (digested : (digestActiveSubstance crypto pill devices aad).1 = .ok ()) :
    ∃ device ∈ devices.live, ∃ plaintext,
      bytesAllZero device.deviceSecret.toList = false ∧
      openWith crypto pill aad device = .ok plaintext ∧
      (activeSubstanceParseCommand plaintext activeSubstanceCommandClear).1 = .ok () ∧
      digestActiveSubstance crypto pill devices aad =
        (.ok (), ⟨ActiveSubstanceCommand.layout.decode plaintext, device⟩) := by
  rcases digest_active_substance_cases crypto pill devices aad with
    ⟨-, early⟩ | ⟨err, -, early⟩ | ⟨-, -, searched⟩
  · rw [early] at digested
    exact absurd digested (by simp)
  · rw [early] at digested
    exact absurd digested (by simp)
  · rw [searched] at digested ⊢
    obtain ⟨device, member, plaintext, secret, opened, parsed, found⟩ :=
      digest_candidates_ok digested
    exact ⟨device, member, plaintext, (device_secret_valid_iff _).mp secret, opened, parsed, found⟩

theorem digest_active_substance_first {crypto : Crypto} {pill : ActionPill}
    {devices : RibosomeTable} {aad : Option Bytes} {before after : List RibosomeTableEntry}
    {entry : RibosomeTableEntry} {plaintext : Bytes}
    (envelope : activeSubstanceValidateEnvelope pill.active = .ok ())
    (bounded : devices.count ≤ ribosomeMaxEntries)
    (split : devices.live = before ++ entry :: after)
    (earlier : ∀ other ∈ before, decrypts crypto pill aad other = false)
    (secret : bytesAllZero entry.deviceSecret.toList = false)
    (opened : openWith crypto pill aad entry = .ok plaintext)
    (parsed : (activeSubstanceParseCommand plaintext activeSubstanceCommandClear).1 = .ok ()) :
    digestActiveSubstance crypto pill devices aad =
      (.ok (), ⟨ActiveSubstanceCommand.layout.decode plaintext, entry⟩) := by
  have usable := (device_secret_valid_iff _).mpr secret
  have opens := decrypts_iff.mpr ⟨usable, plaintext, opened⟩
  have supported : selectKeyLen pill.active ≠ .error .notSupported := by
    intro unsupported
    have shut := @unsupported_never_decrypts crypto pill aad envelope unsupported entry
    exact absurd (opens.symm.trans shut) (by simp)
  have found : devices.live.find? (decrypts crypto pill aad) = some entry := by
    have none : before.find? (decrypts crypto pill aad) = none := by
      rw [List.find?_eq_none]
      intro other member
      simp [earlier other member]
    rw [split, List.find?_append, none, Option.none_or]
    exact List.find?_cons_of_pos opens
  have search := @digest_candidates_find crypto pill aad DigestedActiveSubstance.clear envelope
    supported devices.live
  rw [FirstMatch.answer, found] at search
  have command : activeSubstanceParseCommand plaintext DigestedActiveSubstance.clear.command =
      (.ok (), ActiveSubstanceCommand.layout.decode plaintext) :=
    Prod.ext parsed (active_substance_parse_command_value parsed)
  rw [digest_active_substance_search bounded envelope, search]
  simp only [digestCandidates, usable, opened, Bool.not_true, Bool.false_eq_true, if_false, command]

end BlindNet
