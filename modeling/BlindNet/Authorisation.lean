import BlindNet.Delivery
import BlindNet.Interop

/-!
# Authorisation

Every publication of a Guardian is the command of an authentic pill for one of
its own devices. The configuration the pipeline was built from does not change
along a run, so the statement speaks of the configuration and the stored tables
themselves.
-/

namespace BlindNet

set_option autoImplicit false

open ByteLayout RecencyRing

def ZoneguardConfig.issuerPublicKey (config : ZoneguardConfig) : Bytes :=
  (copyCCharToU8 512 config.issuerPublicKeyPem.toList).toList.take
    (cCharNulLen config.issuerPublicKeyPem.toList)

/-- The capsule is complete and unexpired, comes from the configured issuer,
binds the substance it travels with, and carries the issuer's signature. -/
structure AuthenticPill (crypto : Crypto) (issuerKeyId : ByteArr 16) (issuerPublicKey : Bytes)
    (nowMs : UInt32) (pill : ActionPill) : Prop where
  basic : capsulePillValidateBasic pill.capsule nowMs = .ok ()
  issuer : pill.capsule.issuerKeyId = issuerKeyId
  bound : activeSubstanceHash crypto pill.active = .ok pill.capsule.activeHash
  signed : ∃ hash, crypto.mdSha256 (capsuleSignedCanonical pill.capsule) = some hash ∧
    crypto.pkVerify issuerPublicKey hash
      (pill.capsule.signature.toList.take pill.capsule.signatureLen.toNat) = true

/-- A registered device with a non-zero secret opens the substance to a
plaintext that parses as this command. -/
structure Opens (crypto : Crypto) (ribosome : RibosomeTable) (pill : ActionPill)
    (device : RibosomeTableEntry) (command : ActiveSubstanceCommand) : Prop where
  registered : device ∈ ribosome.live
  secret : bytesAllZero device.deviceSecret.toList = false
  plaintext : ∃ plaintext,
    activeEnzymeDecryptWithSecret crypto pill.active device.deviceSecret device.epoch none
      activeEnzymePlaintextMaxLen = .ok plaintext ∧
    activeSubstanceParseCommand plaintext activeSubstanceCommandClear = (.ok (), command)

/-- The device's template lists the amino acid, and the command carries the
payload that amino acid takes. -/
structure Permitted (rna : RnaTemplateTable) (device : RibosomeTableEntry)
    (command : ActiveSubstanceCommand) : Prop where
  template : ∃ template ∈ rna.live, template.id = device.templateId ∧
    command.aminoId ∈ template.aminos.toList.take template.aminoCount.toNat
  payload : ∃ acid, aminoAcidFind command.aminoId = some acid ∧
    acid.valueType.code = command.payloadType ∧ PayloadFits acid.valueType command.payload

/-- The request names the device the command is for, the command's topic, and
the encoding of its payload. -/
structure Addressed (device : RibosomeTableEntry) (command : ActiveSubstanceCommand)
    (request : PublishRequest) : Prop where
  deviceId : CString.text command.deviceId.toList = CString.text device.mqttClientId.toList
  client : request.clientId = CString.text device.mqttClientId.toList
  topic : request.topic = CString.text command.topic.toList
  payload : encodeCommandPayload command mqttBrokerPayloadMaxLen = .ok request.payload

def Guardian.cpDigests (guardian : Guardian) : List (ByteArr 32) :=
  match guardian.core.pipeline with
  | none => []
  | some pipeline => pipeline.stomach.cpCache.recent

/-- The capsule's digest was in neither cache before, and the stomach holds it
afterwards. -/
structure FirstSight (crypto : Crypto) (pill : ActionPill) (before after : Guardian) : Prop where
  digest : ∃ digest, computeCapsuleDigest crypto pill = .ok digest ∧
    digest ∉ before.g2g.seenCache.recent ∧ digest ∉ before.cpDigests ∧ digest ∈ after.cpDigests

def Authorised (crypto : Crypto) (config : ZoneguardConfig) (ribosome : RibosomeTable)
    (rna : RnaTemplateTable) (nowMs : UInt32) (pill : ActionPill) (request : PublishRequest) :
    Prop :=
  AuthenticPill crypto config.issuerKeyId config.issuerPublicKey nowMs pill ∧
    ∃ device command, Opens crypto ribosome pill device command ∧ Permitted rna device command ∧
      Addressed device command request

theorem digest_and_publish_authorised {crypto : Crypto} {env : Environment}
    {pipeline : ActionPipeline} {pill : ActionPill} {publication : Publication}
    (made : publication ∈ (pipeline.digestAndPublish crypto env pill).2) :
    AuthenticPill crypto pipeline.issuerKeyId pipeline.issuerPublicKey (nowMs env.timerUs) pill ∧
      ∃ device command, Opens crypto pipeline.membrane.ribosomeTable pill device command ∧
        Permitted pipeline.membrane.rnaTemplates device command ∧
        Addressed device command publication.request := by
  unfold ActionPipeline.digestAndPublish at made
  cases authorised : validateAuthorized crypto pill (nowMs env.timerUs) pipeline.issuerKeyId
      pipeline.issuerPublicKey with
  | error err => simp [authorised] at made
  | ok =>
      cases digested : (digestActiveSubstance crypto pill pipeline.membrane.ribosomeTable none).1
        with
      | error err => simp [authorised, digested] at made
      | ok =>
          simp only [authorised, digested] at made
          obtain ⟨envelope, basic, issuer, bound, verified⟩ := validate_authorized_ok.mp authorised
          obtain ⟨-, -, signed⟩ := capsule_pill_verify_asymmetric_iff.mp verified
          obtain ⟨device, member, plaintext, secret, opened, parsed, result⟩ :=
            digest_active_substance_ok digested
          have value := active_substance_parse_command_value parsed
          rw [result] at made
          by_cases publishable : DigestedActiveSubstance.Publishable pipeline.membrane
              ⟨ActiveSubstanceCommand.layout.decode plaintext, device⟩
          · obtain ⟨payload, encoded, published⟩ :=
              @publish_digested_command_publishable env.broker _ _ publishable
            rw [published, List.mem_singleton] at made
            obtain ⟨-, -, -, template, found, allows⟩ := membrane_allows_iff.mp publishable.allowed
            obtain ⟨held, named, -⟩ := rna_template_table_find_spec found
            obtain ⟨-, -, listed⟩ := (rna_template_has_capability_iff _ _).mp allows
            refine ⟨⟨capsule_pill_validate_basic_ok.mpr basic, issuer, bound, signed⟩, device,
              ActiveSubstanceCommand.layout.decode plaintext,
              ⟨member, secret, plaintext, opened, Prod.ext parsed value⟩,
              ⟨⟨template, held, named, listed⟩, publishable.valid.payload⟩, ?_⟩
            rw [made]
            exact ⟨publishable.addressed, rfl, rfl, encoded⟩
          · obtain ⟨err, refused⟩ := @publish_digested_command_refused env.broker _ _ publishable
            simp [refused] at made

def Configured (config : ZoneguardConfig) (ribosome : RibosomeTable) (rna : RnaTemplateTable)
    (guardian : Guardian) : Prop :=
  ∃ pipeline, guardian.core.pipeline = some pipeline ∧
    pipeline.membrane = ⟨ribosome, rna, true⟩ ∧ pipeline.issuerKeyId = config.issuerKeyId ∧
    pipeline.issuerPublicKey = config.issuerPublicKey

theorem enter_normal_mode_configured {config : ZoneguardConfig} {stored : StoredTables}
    {guardian : Guardian} (booted : enterNormalMode config stored = .ok guardian) :
    ∃ ribosome rna, stored.ribosome = .ok ribosome ∧ stored.rna = .ok rna ∧
      Configured config ribosome rna guardian := by
  cases tables : Membrane.init stored with
  | error err => simp [enterNormalMode, ActionPipeline.new, tables] at booted
  | ok membrane =>
      by_cases unset : cCharNulLen config.issuerPublicKeyPem.toList = 0
      · simp [enterNormalMode, ActionPipeline.new, tables, unset] at booted
      · simp only [enterNormalMode, ActionPipeline.new, tables, if_neg unset,
          Except.ok.injEq] at booted
        cases ribosome : stored.ribosome with
        | error err => simp [Membrane.init, ribosome] at tables
        | ok ribosomeTable =>
            cases rna : stored.rna with
            | error err => simp [Membrane.init, ribosome, rna] at tables
            | ok rnaTable =>
                simp only [Membrane.init, ribosome, rna, Except.ok.injEq] at tables
                subst booted tables
                exact ⟨ribosomeTable, rnaTable, rfl, rfl, _, rfl, rfl, rfl, rfl⟩

theorem process_locally_configured {config : ZoneguardConfig} {ribosome : RibosomeTable}
    {rna : RnaTemplateTable} {g2g : G2g} {core : Core} (crypto : Crypto) (env : Environment)
    (configured : Configured config ribosome rna ⟨g2g, core⟩) (next : G2g) (pill : ActionPill) :
    Configured config ribosome rna ⟨next, (processLocally crypto env core pill).2⟩ := by
  obtain ⟨pipeline, present, membrane, issuer, key⟩ := configured
  change core.pipeline = some pipeline at present
  simp only [processLocally, present]
  rcases process_action_pill_cases crypto env pipeline pill with failed | seen | fresh
  · obtain ⟨err, -, processed⟩ := failed
    rw [processed]
    exact ⟨pipeline, rfl, membrane, issuer, key⟩
  · obtain ⟨digest, -, -, processed⟩ := seen
    rw [processed]
    exact ⟨pipeline, rfl, membrane, issuer, key⟩
  · obtain ⟨digest, -, -, processed⟩ := fresh
    rw [processed]
    exact ⟨_, rfl, membrane, issuer, key⟩

theorem configured_step {config : ZoneguardConfig} {ribosome : RibosomeTable}
    {rna : RnaTemplateTable} (crypto : Crypto) (guardian : Guardian) (reception : Reception)
    (configured : Configured config ribosome rna guardian) :
    Configured config ribosome rna (onFragmentReceived crypto guardian reception).1 := by
  rcases on_fragment_received_cases crypto guardian reception with quiet | handled
  · obtain ⟨pipeline, present, rest⟩ := configured
    exact ⟨pipeline, by rw [quiet.core, present], rest⟩
  · obtain ⟨pill, messageId, handles⟩ := handled
    have later := process_locally_configured crypto reception.env configured
      (onFragmentReceived crypto guardian reception).1.g2g pill
    rw [← handles.core] at later
    exact later

/-- A publication within one reception, from any configured Guardian. -/
theorem step_authorised {config : ZoneguardConfig} {ribosome : RibosomeTable}
    {rna : RnaTemplateTable} {crypto : Crypto} {guardian : Guardian} {reception : Reception}
    {publication : Publication} (configured : Configured config ribosome rna guardian)
    (made : Event.published publication ∈ (onFragmentReceived crypto guardian reception).2) :
    ∃ pill later,
      (onFragmentReceived crypto guardian reception).2 = .handled pill :: later ∧
      Authorised crypto config ribosome rna (nowMs reception.env.timerUs) pill
        publication.request ∧
      FirstSight crypto pill guardian (onFragmentReceived crypto guardian reception).1 := by
  rcases on_fragment_received_cases crypto guardian reception with quiet | handled
  · rw [quiet.events] at made
    simp at made
  · obtain ⟨pill, messageId, handles⟩ := handled
    obtain ⟨sent, -, -, events⟩ := handles.events
    have published : publication ∈
        (processLocally crypto reception.env guardian.core pill).1.2 := by
      rw [events] at made
      simpa using made
    obtain ⟨pipeline, digest, present, computed, unseen, published, processed⟩ :=
      process_locally_published published
    obtain ⟨configuredPipeline, held, membrane, issuer, key⟩ := configured
    rw [present, Option.some.injEq] at held
    subst held
    obtain ⟨authentic, device, command, opens, permitted, addressed⟩ :=
      digest_and_publish_authorised published
    rw [issuer, key] at authentic
    rw [membrane] at opens permitted
    refine ⟨pill, _, events, ⟨authentic, device, command, opens, permitted, addressed⟩, digest,
      computed, ?_, ?_, ?_⟩
    · have identity : computeCapsuleDigest crypto pill = .ok messageId := handles.digest
      rw [computed, Except.ok.injEq] at identity
      rw [identity]
      exact handles.unseen
    · simpa [Guardian.cpDigests, present] using unseen
    · simp only [Guardian.cpDigests, handles.core, processed]
      exact Ring.mem_recent_add _ digest

/-- In every run from boot, each call of the broker is made in a reception that
handles a pill authorised for exactly that call and not processed before. -/
theorem publications_authorised (crypto : Crypto) (config : ZoneguardConfig)
    (stored : StoredTables) (guardian : Guardian)
    (booted : enterNormalMode config stored = .ok guardian) (receptions : List Reception) :
    ∃ ribosome rna, stored.ribosome = .ok ribosome ∧ stored.rna = .ok rna ∧
      ∀ before reception after, receptions = before ++ reception :: after →
        ∀ publication, Event.published publication ∈
            (onFragmentReceived crypto (runGuardian crypto guardian before).1 reception).2 →
          ∃ pill later,
            (onFragmentReceived crypto (runGuardian crypto guardian before).1 reception).2 =
              .handled pill :: later ∧
            Event.published publication ∈ later ∧
            Authorised crypto config ribosome rna (nowMs reception.env.timerUs) pill
              publication.request ∧
            FirstSight crypto pill (runGuardian crypto guardian before).1
              (onFragmentReceived crypto (runGuardian crypto guardian before).1 reception).1 := by
  obtain ⟨ribosome, rna, ribosomeStored, rnaStored, configured⟩ :=
    enter_normal_mode_configured booted
  refine ⟨ribosome, rna, ribosomeStored, rnaStored, ?_⟩
  intro before reception after _ publication made
  have reached : Configured config ribosome rna (runGuardian crypto guardian before).1 :=
    EventMachine.invariant_run (onFragmentReceived crypto) (Configured config ribosome rna)
      (fun state input => configured_step crypto state input) guardian before configured
  obtain ⟨pill, later, events, authorised, first⟩ := step_authorised reached made
  have within : Event.published publication ∈ later := by
    rw [events] at made
    simpa using made
  exact ⟨pill, later, events, within, authorised, first⟩

theorem lamp_guardian_idle : Idle lampGuardian := fun _ => rfl

theorem lamp_publication_authorised :
    ∃ before reception after,
      (pillReceptions lampPill lampBuild.messageId fun _ => benchEnvironment) =
        before ++ reception :: after ∧
      Event.published lampPublication ∈ (onFragmentReceived benchCrypto
        (runGuardian benchCrypto lampGuardian before).1 reception).2 ∧
      ∃ ribosome rna pill, Authorised benchCrypto lampConfig ribosome rna
        (nowMs reception.env.timerUs) pill lampPublication.request := by
  obtain ⟨slots, sent, -, run⟩ := @deliver_published benchCrypto benchEnvironment lampGuardian
    lampPipeline lampPill lampBuild.messageId _ _ lamp_guardian_idle rfl
    (by simp [lampGuardian, G2g.boot]) (by simp [lampPipeline, Stomach.new]) lamp_pill_digest
    lamp_pill_published
  have published : Event.published lampPublication ∈ (runGuardian benchCrypto lampGuardian
      (pillReceptions lampPill lampBuild.messageId fun _ => benchEnvironment)).2 := by
    rw [run]
    simp
  obtain ⟨before, reception, after, split, made⟩ :=
    EventMachine.event_origin (onFragmentReceived benchCrypto) lampGuardian _ _ published
  obtain ⟨ribosome, rna, -, -, authorised⟩ := publications_authorised benchCrypto lampConfig
    lampStored lampGuardian lamp_guardian_booted
    (pillReceptions lampPill lampBuild.messageId fun _ => benchEnvironment)
  obtain ⟨pill, later, -, -, authorised, -⟩ :=
    authorised before reception after split lampPublication made
  exact ⟨before, reception, after, split, made, ribosome, rna, pill, authorised⟩

end BlindNet
