import BlindNet.Interop

/-!
# The order of registration

Entries are told apart by client id only, while a pill is digested by the first
entry whose secret opens it. When two entries open one pill, the order decides
which of them the command is compared with.
-/

namespace BlindNet

set_option autoImplicit false

open ByteLayout RecencyRing

def ActionPipeline.withTable (pipeline : ActionPipeline) (table : RibosomeTable) :
    ActionPipeline :=
  { pipeline with membrane := { pipeline.membrane with ribosomeTable := table } }

/-- What `process_action_pill` publishes: to which client, on which topic, with
which payload. -/
def ActionPipeline.outcome (crypto : Crypto) (env : Environment) (pipeline : ActionPipeline)
    (pill : ActionPill) : List PublishRequest :=
  (pipeline.processActionPill crypto env pill).1.2.map Publication.request

/-- The pill is new to the stomach and passes the checks before digestion. -/
def Digestible (crypto : Crypto) (env : Environment) (pipeline : ActionPipeline)
    (pill : ActionPill) : Prop :=
  (∃ digest, computeCapsuleDigest crypto pill = .ok digest ∧
    digest ∉ pipeline.stomach.cpCache.recent) ∧
  validateAuthorized crypto pill (nowMs env.timerUs) pipeline.issuerKeyId
    pipeline.issuerPublicKey = .ok ()

/-- The entry opens the pill to a command that is let through for it. -/
def PublishesThrough (crypto : Crypto) (membrane : Membrane) (pill : ActionPill)
    (entry : RibosomeTableEntry) : Prop :=
  ∃ plaintext, openWith crypto pill none entry = .ok plaintext ∧
    (activeSubstanceParseCommand plaintext activeSubstanceCommandClear).1 = .ok () ∧
    DigestedActiveSubstance.Publishable membrane
      ⟨ActiveSubstanceCommand.layout.decode plaintext, entry⟩

/-- What is published for the result of a search. -/
def digestedRequests (broker : MqttBroker) (membrane : Membrane)
    (digested : Result Unit × DigestedActiveSubstance) : List PublishRequest :=
  match digested.1 with
  | .error _ => []
  | .ok () => (publishDigestedCommand broker membrane digested.2).2.map Publication.request

/-- What is published when this entry is the one that decides. -/
def entryOutcome (crypto : Crypto) (broker : MqttBroker) (membrane : Membrane)
    (pill : ActionPill) (entry : RibosomeTableEntry) : List PublishRequest :=
  digestedRequests broker membrane
    (digestCandidates crypto pill none DigestedActiveSubstance.clear [entry])

section Entry

variable {crypto : Crypto} {broker : MqttBroker} {membrane : Membrane} {pill : ActionPill}
  {entry : RibosomeTableEntry}

theorem entry_outcome_cases (broker : MqttBroker)
    (opens : decrypts crypto pill none entry = true) :
    (¬ PublishesThrough crypto membrane pill entry ∧
      entryOutcome crypto broker membrane pill entry = []) ∨
    (PublishesThrough crypto membrane pill entry ∧
      ∃ request, request.clientId = CString.text entry.mqttClientId.toList ∧
        entryOutcome crypto broker membrane pill entry = [request]) := by
  rcases decrypts_iff.mp opens with ⟨usable, plaintext, opened⟩
  cases parsed : (activeSubstanceParseCommand plaintext activeSubstanceCommandClear).1 with
  | error err =>
      left
      constructor
      · rintro ⟨other, openedAgain, parsedAgain, -⟩
        rw [opened, Except.ok.injEq] at openedAgain
        rw [← openedAgain, parsed] at parsedAgain
        exact absurd parsedAgain (by simp)
      · have stopped : (activeSubstanceParseCommand plaintext
            DigestedActiveSubstance.clear.command).1 = .error err := parsed
        simp [entryOutcome, digestedRequests, digestCandidates, usable, opened, stopped]
  | ok =>
      have value := active_substance_parse_command_value parsed
      have searched : digestCandidates crypto pill none DigestedActiveSubstance.clear [entry] =
          (.ok (), ⟨ActiveSubstanceCommand.layout.decode plaintext, entry⟩) := by
        have parsedClear : (activeSubstanceParseCommand plaintext
            DigestedActiveSubstance.clear.command) =
              (.ok (), ActiveSubstanceCommand.layout.decode plaintext) := Prod.ext parsed value
        simp [digestCandidates, usable, opened, parsedClear]
      by_cases publishable : DigestedActiveSubstance.Publishable membrane
          ⟨ActiveSubstanceCommand.layout.decode plaintext, entry⟩
      · right
        rcases @publish_digested_command_publishable broker _ _ publishable
          with ⟨payload, -, published⟩
        refine ⟨⟨plaintext, opened, parsed, publishable⟩,
          DigestedActiveSubstance.request ⟨ActiveSubstanceCommand.layout.decode plaintext, entry⟩
            payload, rfl, ?_⟩
        simp only [entryOutcome, digestedRequests, searched, published, List.map_cons, List.map_nil]
      · left
        rcases @publish_digested_command_refused broker _ _ publishable with ⟨err, refused⟩
        constructor
        · rintro ⟨other, openedAgain, -, allowed⟩
          rw [opened, Except.ok.injEq] at openedAgain
          exact publishable (openedAgain ▸ allowed)
        · simp only [entryOutcome, digestedRequests, searched, refused, List.map_nil]

end Entry

section Table

variable {crypto : Crypto} {env : Environment} {pipeline : ActionPipeline} {pill : ActionPill}
  {table : RibosomeTable}

theorem outcome_indigestible (indigestible : ¬ Digestible crypto env pipeline pill)
    (table : RibosomeTable) : (pipeline.withTable table).outcome crypto env pill = [] := by
  unfold ActionPipeline.outcome
  rcases process_action_pill_cases crypto env (pipeline.withTable table) pill
    with ⟨err, -, processed⟩ | ⟨digest, -, -, processed⟩ | ⟨digest, computed, unseen, processed⟩
  · rw [processed]
    rfl
  · rw [processed]
    rfl
  · rw [processed]
    unfold ActionPipeline.digestAndPublish
    cases authorised : validateAuthorized crypto pill (nowMs env.timerUs)
        (pipeline.withTable table).issuerKeyId (pipeline.withTable table).issuerPublicKey with
    | error err => rfl
    | ok => exact absurd ⟨⟨digest, computed, unseen⟩, authorised⟩ indigestible

/-- Digestion is a search for the first entry that opens the pill. With a cipher
that is not supported no entry does. -/
theorem digested_requests_first (broker : MqttBroker) (membrane : Membrane)
    (envelope : activeSubstanceValidateEnvelope pill.active = .ok ())
    (bounded : table.count ≤ ribosomeMaxEntries) :
    digestedRequests broker membrane (digestActiveSubstance crypto pill table none) =
      FirstMatch.answer (decrypts crypto pill none) (entryOutcome crypto broker membrane pill) []
        table.live := by
  rw [digest_active_substance_search bounded envelope]
  by_cases supported : selectKeyLen pill.active = .error .notSupported
  · have closed : ∀ entry ∈ table.live, decrypts crypto pill none entry = false :=
      fun entry _ => unsupported_never_decrypts envelope supported entry
    rw [FirstMatch.answer_absent _ _ _ closed, digestedRequests]
    cases digested : (digestCandidates crypto pill none DigestedActiveSubstance.clear
        table.live).1 with
    | error err => rfl
    | ok =>
        rcases digest_candidates_ok digested with ⟨entry, member, plaintext, usable, opened, -, -⟩
        have opens := decrypts_iff.mpr ⟨usable, plaintext, opened⟩
        rw [closed entry member] at opens
        exact absurd opens (by decide)
  · rw [digest_candidates_find DigestedActiveSubstance.clear envelope supported]
    exact FirstMatch.answer_map _ _ _ (digestedRequests broker membrane) table.live

theorem outcome_digestible (digestible : Digestible crypto env pipeline pill)
    (bounded : table.count ≤ ribosomeMaxEntries) :
    (pipeline.withTable table).outcome crypto env pill =
      FirstMatch.answer (decrypts crypto pill none)
        (entryOutcome crypto env.broker pipeline.membrane pill) [] table.live := by
  rcases digestible with ⟨⟨digest, computed, unseen⟩, authorised⟩
  have envelope := (validate_authorized_ok.mp authorised).1
  have permitted : validateAuthorized crypto pill (nowMs env.timerUs)
      (pipeline.withTable table).issuerKeyId (pipeline.withTable table).issuerPublicKey = .ok () :=
    authorised
  rw [← digested_requests_first env.broker pipeline.membrane envelope bounded,
    ActionPipeline.outcome, @process_action_pill_unseen crypto env (pipeline.withTable table) pill
      digest computed unseen]
  simp only [ActionPipeline.digestAndPublish, permitted, digestedRequests]
  change List.map _ (match (digestActiveSubstance crypto pill table none).1 with
    | .error err => (Except.error err, [])
    | .ok () => publishDigestedCommand env.broker
        { pipeline.membrane with ribosomeTable := table }
        (digestActiveSubstance crypto pill table none).2).2 = _
  cases (digestActiveSubstance crypto pill table none).1 with
  | error err => rfl
  | ok => rfl

theorem exists_table (formed : table.WellFormed) {order : List RibosomeTableEntry}
    (perm : order.Perm table.live) :
    ∃ other : RibosomeTable, other.count = table.count ∧ other.live = order := by
  have length : order.length = table.count := by
    rw [perm.length_eq]
    exact PrefixArray.live_length table.entries formed.bounded
  rcases PrefixArray.exists_live table.entries (length.le.trans formed.bounded) with ⟨filled, live⟩
  rw [length] at live
  exact ⟨⟨filled, table.count⟩, rfl, live⟩

/-- Different entries answer alike only when neither publishes: a publication
names the entry's own client. -/
theorem entry_outcome_agree (broker : MqttBroker) (formed : table.WellFormed)
    {first second : RibosomeTableEntry} (isFirst : first ∈ table.live)
    (isSecond : second ∈ table.live) (different : first ≠ second)
    (opensFirst : decrypts crypto pill none first = true)
    (opensSecond : decrypts crypto pill none second = true) :
    entryOutcome crypto broker pipeline.membrane pill first =
        entryOutcome crypto broker pipeline.membrane pill second ↔
      ¬ PublishesThrough crypto pipeline.membrane pill first ∧
      ¬ PublishesThrough crypto pipeline.membrane pill second := by
  have apart := formed.clients_differ isFirst isSecond different
  rcases @entry_outcome_cases crypto pipeline.membrane pill first broker opensFirst
    with ⟨silentFirst, noneFirst⟩ | ⟨loudFirst, request, client, onceFirst⟩
  · rcases @entry_outcome_cases crypto pipeline.membrane pill second broker opensSecond
      with ⟨silentSecond, noneSecond⟩ | ⟨loudSecond, other, -, onceSecond⟩
    · rw [noneFirst, noneSecond]
      exact ⟨fun _ => ⟨silentFirst, silentSecond⟩, fun _ => rfl⟩
    · rw [noneFirst, onceSecond]
      exact ⟨fun same => absurd same (by simp), fun silent => absurd loudSecond silent.2⟩
  · rw [onceFirst]
    constructor
    · intro same
      rcases @entry_outcome_cases crypto pipeline.membrane pill second broker opensSecond
        with ⟨-, noneSecond⟩ | ⟨-, other, otherClient, onceSecond⟩
      · rw [noneSecond] at same
        exact absurd same (by simp)
      · rw [onceSecond, List.cons.injEq] at same
        rw [← client, ← otherClient, same.1] at apart
        exact absurd rfl apart
    · intro silent
      exact absurd loudFirst silent.1

end Table

/-- For every pill and every well-formed table, what is published is the same
for every order of the entries exactly when the entry a digestible pill would be
published through is the only one that opens it. -/
theorem registration_order_irrelevant_iff (crypto : Crypto) (env : Environment)
    (pipeline : ActionPipeline) (pill : ActionPill) (table : RibosomeTable)
    (formed : table.WellFormed) :
    (∀ order : RibosomeTable, order.count = table.count → order.live.Perm table.live →
      (pipeline.withTable order).outcome crypto env pill =
        (pipeline.withTable table).outcome crypto env pill) ↔
    (Digestible crypto env pipeline pill →
      ∀ first ∈ table.live, ∀ second ∈ table.live, decrypts crypto pill none first = true →
        decrypts crypto pill none second = true →
        PublishesThrough crypto pipeline.membrane pill first → first = second) := by
  by_cases digestible : Digestible crypto env pipeline pill
  · have searches := FirstMatch.answer_perm_iff (decrypts crypto pill none)
      (entryOutcome crypto env.broker pipeline.membrane pill) [] table.live
    constructor
    · intro same _ first isFirst second isSecond opensFirst opensSecond publishes
      have agree := searches.mp (by
        intro entries perm
        rcases exists_table formed perm with ⟨order, count, rfl⟩
        have outcomes := same order count perm
        rwa [outcome_digestible digestible (count ▸ formed.bounded),
          outcome_digestible digestible formed.bounded] at outcomes)
      by_contra different
      have silent := (entry_outcome_agree env.broker formed isFirst isSecond different opensFirst
        opensSecond).mp (agree first isFirst second isSecond opensFirst opensSecond)
      exact silent.1 publishes
    · intro only order count perm
      rw [outcome_digestible digestible (count ▸ formed.bounded),
        outcome_digestible digestible formed.bounded]
      apply searches.mpr _ order.live perm
      intro first isFirst second isSecond opensFirst opensSecond
      by_cases same : first = second
      · rw [same]
      · apply (entry_outcome_agree env.broker formed isFirst isSecond same opensFirst
          opensSecond).mpr
        constructor
        · intro publishes
          exact same (only digestible first isFirst second isSecond opensFirst opensSecond
            publishes)
        · intro publishes
          exact same (only digestible second isSecond first isFirst opensSecond opensFirst
            publishes).symm
  · constructor
    · intro _ isDigestible
      exact absurd isDigestible digestible
    · intro _ order _ _
      rw [outcome_indigestible digestible, outcome_indigestible digestible]

def registered (configs : List RibosomeEntryConfig) : RibosomeTable :=
  configs.foldl (fun table config => (ribosomeTableAddFromConfig table config).2) ribosomeTableInit

theorem registered_well_formed (configs : List RibosomeEntryConfig) :
    (registered configs).WellFormed := by
  have steps : ∀ table : RibosomeTable, table.WellFormed → (configs.foldl
      (fun table config => (ribosomeTableAddFromConfig table config).2) table).WellFormed := by
    induction configs with
    | nil => exact fun _ formed => formed
    | cons config rest induction =>
        intro table formed
        exact induction _ (ribosome_table_add_from_config_well_formed formed config)
  exact steps _ ribosome_table_init_well_formed

def lampRegistration : RibosomeEntryConfig :=
  ⟨CString.utf8 "lamp01" ++ [0], rnaTemplateIdLightSwitch, 1, lampSecret⟩

def twinRegistration : RibosomeEntryConfig :=
  { lampRegistration with mqttClientId := CString.utf8 "lamp02" ++ [0] }

def otherRegistration : RibosomeEntryConfig :=
  { twinRegistration with deviceSecret := List.Vector.replicate 32 0x5A }

/-- With the twin registered first, the lamp's command is not published. -/
theorem twin_lamps_order_matters :
    (registered [lampRegistration, twinRegistration]).WellFormed ∧
    (registered [twinRegistration, lampRegistration]).count =
      (registered [lampRegistration, twinRegistration]).count ∧
    (registered [twinRegistration, lampRegistration]).live.Perm
      (registered [lampRegistration, twinRegistration]).live ∧
    (lampPipeline.withTable (registered [lampRegistration, twinRegistration])).outcome
      benchCrypto benchEnvironment lampPill =
        [clientRequest "lamp01" "blindnet/lamp01/cmd" none] ∧
    (lampPipeline.withTable (registered [twinRegistration, lampRegistration])).outcome
      benchCrypto benchEnvironment lampPill = [] := by
  refine ⟨registered_well_formed _, ?_, ?_, ?_, ?_⟩
  · decide +kernel
  · decide +kernel
  · decide +kernel
  · decide +kernel

theorem other_lamps_order_irrelevant :
    (registered [lampRegistration, otherRegistration]).WellFormed ∧
    (lampPipeline.withTable (registered [otherRegistration, lampRegistration])).outcome
      benchCrypto benchEnvironment lampPill =
        (lampPipeline.withTable (registered [lampRegistration, otherRegistration])).outcome
          benchCrypto benchEnvironment lampPill := by
  have opener : ∀ entry ∈ (registered [lampRegistration, otherRegistration]).live,
      decrypts benchCrypto lampPill none entry = true → entry = lampEntry := by
    decide +kernel
  constructor
  · exact registered_well_formed _
  · apply (registration_order_irrelevant_iff benchCrypto benchEnvironment lampPipeline lampPill
      (registered [lampRegistration, otherRegistration]) (registered_well_formed _)).mpr
    · intro _ first isFirst second isSecond opensFirst opensSecond _
      rw [opener first isFirst opensFirst, opener second isSecond opensSecond]
    · decide +kernel
    · decide +kernel

end BlindNet
