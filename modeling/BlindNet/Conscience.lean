import BlindNet.G2g
import BlindNet.Lib.Machine

/-!
# Conscience

The message path of a running Guardian: relay first, then digest locally. What
the platform contributes to one reception (the timer, the BLE transmit queue,
the MQTT broker) is chosen anew for each reception, without any assumption.
-/

namespace BlindNet

set_option autoImplicit false

open ByteLayout RecencyRing

inductive ConscienceState where
  | boot
  | setup
  | normalCore
  | normalOnline
  | admin
  | actionPillRelay
  | actionPillDigest
  deriving DecidableEq, Repr

/-- The fields of the stored configuration that the message path reads. -/
structure ZoneguardConfig where
  issuerKeyId : ByteArr 16
  issuerPublicKeyPem : ByteArr 512

structure Environment where
  timerUs : Int
  ble : G2gBle
  broker : MqttBroker

structure ActionPipeline where
  stomach : Stomach
  membrane : Membrane
  issuerKeyId : ByteArr 16
  issuerPublicKeyPem : ByteArr 512
  issuerPublicKeyLen : Nat

/-- The length of the string with its NUL; zero for an empty field, the field
width when there is no NUL. -/
def cCharNulLen (source : Bytes) : Nat :=
  if source.headD 0 = 0 then
    0
  else if source.contains 0 then
    (CString.text source).length + 1
  else
    source.length

def copyCCharToU8 (size : Nat) (source : Bytes) : ByteArr size :=
  strncpyCleared size source

def ActionPipeline.new (config : ZoneguardConfig) (stored : StoredTables) :
    Result ActionPipeline :=
  match Membrane.init stored with
  | .error err => .error err
  | .ok membrane =>
      let issuerPublicKeyLen := cCharNulLen config.issuerPublicKeyPem.toList
      if issuerPublicKeyLen = 0 then
        .error .invalidArg
      else
        .ok
          { stomach := Stomach.new
            membrane := membrane
            issuerKeyId := config.issuerKeyId
            issuerPublicKeyPem := copyCCharToU8 512 config.issuerPublicKeyPem.toList
            issuerPublicKeyLen := issuerPublicKeyLen }

def ActionPipeline.issuerPublicKey (pipeline : ActionPipeline) : Bytes :=
  pipeline.issuerPublicKeyPem.toList.take pipeline.issuerPublicKeyLen

def nowMs (timerUs : Int) : UInt32 :=
  if timerUs ≤ 0 then 0 else UInt32.ofNat (timerUs.toNat / 1000)

/-- Everything after the replay check of a pill that was not seen. -/
def ActionPipeline.digestAndPublish (crypto : Crypto) (env : Environment)
    (pipeline : ActionPipeline) (pill : ActionPill) : Result Unit × List Publication :=
  match validateAuthorized crypto pill (nowMs env.timerUs) pipeline.issuerKeyId
      pipeline.issuerPublicKey with
  | .error err => (.error err, [])
  | .ok () =>
      let digested := digestActiveSubstance crypto pill pipeline.membrane.ribosomeTable none
      match digested.1 with
      | .error err => (.error err, [])
      | .ok () => publishDigestedCommand env.broker pipeline.membrane digested.2

def ActionPipeline.processActionPill (crypto : Crypto) (env : Environment)
    (pipeline : ActionPipeline) (pill : ActionPill) :
    (Result Unit × List Publication) × ActionPipeline :=
  let checked := pipeline.stomach.seenOrAddCp crypto pill
  let pipeline := { pipeline with stomach := checked.2 }
  match checked.1.status with
  | .error err => ((.error err, []), pipeline)
  | .ok () =>
      if checked.1.seen then
        ((.ok (), []), pipeline)
      else
        (pipeline.digestAndPublish crypto env pill, pipeline)

structure Core where
  pipeline : Option ActionPipeline
  currentState : ConscienceState

abbrev Guardian := Node Core

def transitionTo (core : Core) (next : ConscienceState) : Core :=
  { core with currentState := next }

/-- `match (*pipeline).as_mut()`: without a pipeline the pill is not digested. -/
def processLocally (crypto : Crypto) (env : Environment) (core : Core) (pill : ActionPill) :
    (Result Unit × List Publication) × Core :=
  match core.pipeline with
  | none => ((.error .invalidState, []), core)
  | some pipeline =>
      let processed := pipeline.processActionPill crypto env pill
      (processed.1, { core with pipeline := some processed.2 })

def onActionPillReceived (crypto : Crypto) (env : Environment) : ActionPillHandler Core :=
  fun pill node =>
    let previousState := node.core.currentState
    let core := transitionTo node.core .actionPillRelay
    let relay := sendActionPill crypto env.ble node.g2g pill
    let core := transitionTo core .actionPillDigest
    let processed := processLocally crypto env core pill
    let core := transitionTo processed.2 previousState
    { result :=
        match processed.1.1 with
        | .ok () => .ok ()
        | .error .notFound => relay.1.result
        | .error err => .error err
      node := ⟨relay.2, core⟩
      events := relay.1.sent.map Event.relayed ++ processed.1.2.map Event.published }

/-- The state once `enter_normal_mode` has installed the pipeline and the
handler and has started the transport. -/
def enterNormalMode (config : ZoneguardConfig) (stored : StoredTables) : Result Guardian :=
  match ActionPipeline.new config stored with
  | .error err => .error err
  | .ok pipeline => .ok ⟨G2g.boot, ⟨some pipeline, .normalOnline⟩⟩

structure Reception where
  frame : Bytes
  env : Environment

/-- `on_fragment_received`: the result of the fragment handler is dropped. -/
def onFragmentReceived (crypto : Crypto) (guardian : Guardian) (reception : Reception) :
    Guardian × List Event :=
  let outcome := handleReceivedFragment crypto
    (some (onActionPillReceived crypto reception.env)) guardian reception.frame
  (outcome.node, outcome.events)

def handledDigests (crypto : Crypto) (events : List Event) : List (ByteArr 32) :=
  events.filterMap fun
    | .handled pill => (computeCapsuleDigest crypto pill).toOption
    | _ => none

def handledPills (events : List Event) : List ActionPill :=
  events.filterMap fun
    | .handled pill => some pill
    | _ => none

def relayedFrame : Event → Option Bytes
  | .relayed frame => some frame
  | _ => none

def relayedOf (events : List Event) : List Bytes :=
  events.filterMap relayedFrame

theorem handled_digests_append (crypto : Crypto) (earlier later : List Event) :
    handledDigests crypto (earlier ++ later) =
      handledDigests crypto earlier ++ handledDigests crypto later :=
  List.filterMap_append

theorem handled_pills_append (earlier later : List Event) :
    handledPills (earlier ++ later) = handledPills earlier ++ handledPills later :=
  List.filterMap_append

theorem relayed_of_append (earlier later : List Event) :
    relayedOf (earlier ++ later) = relayedOf earlier ++ relayedOf later :=
  List.filterMap_append

theorem relayed_of_handling (pill : ActionPill) (sent : List Bytes)
    (publications : List Publication) :
    relayedOf (.handled pill :: (sent.map Event.relayed ++ publications.map Event.published)) =
      sent := by
  have relays : relayedFrame ∘ Event.relayed = some := rfl
  have publishes : relayedFrame ∘ Event.published = fun _ => none := rfl
  rw [relayedOf, List.filterMap_cons_none rfl, List.filterMap_append, List.filterMap_map,
    List.filterMap_map, relays, publishes, List.filterMap_some]
  simp

def publicationsOf (events : List Event) : List Publication :=
  events.filterMap fun
    | .published publication => some publication
    | _ => none

def runGuardian (crypto : Crypto) (guardian : Guardian) (receptions : List Reception) :
    Guardian × List Event :=
  EventMachine.run (onFragmentReceived crypto) guardian receptions

theorem run_guardian_append (crypto : Crypto) (guardian : Guardian)
    (first second : List Reception) :
    (runGuardian crypto guardian (first ++ second)).1 =
      (runGuardian crypto (runGuardian crypto guardian first).1 second).1 := by
  rw [runGuardian, EventMachine.run_append]
  rfl

theorem process_action_pill_unseen {crypto : Crypto} {env : Environment}
    {pipeline : ActionPipeline} {pill : ActionPill} {digest : ByteArr 32}
    (computed : computeCapsuleDigest crypto pill = .ok digest)
    (unseen : digest ∉ pipeline.stomach.cpCache.recent) :
    pipeline.processActionPill crypto env pill =
      (pipeline.digestAndPublish crypto env pill,
        { pipeline with stomach := ⟨pipeline.stomach.cpCache.add digest⟩ }) := by
  have fresh : ¬ pipeline.stomach.cpCache.contains digest = true := by
    rwa [Ring.contains_iff_recent]
  simp [ActionPipeline.processActionPill, Stomach.seenOrAddCp, computed, Ring.seenOrAdd, fresh]
  rfl

/-- A pill whose digest is new is remembered before anything else is checked;
otherwise nothing is published and nothing changes. -/
theorem process_action_pill_cases (crypto : Crypto) (env : Environment)
    (pipeline : ActionPipeline) (pill : ActionPill) :
    (∃ err, computeCapsuleDigest crypto pill = .error err ∧
      pipeline.processActionPill crypto env pill = ((.error err, []), pipeline)) ∨
    (∃ digest, computeCapsuleDigest crypto pill = .ok digest ∧
      digest ∈ pipeline.stomach.cpCache.recent ∧
      pipeline.processActionPill crypto env pill = ((.ok (), []), pipeline)) ∨
    (∃ digest, computeCapsuleDigest crypto pill = .ok digest ∧
      digest ∉ pipeline.stomach.cpCache.recent ∧
      pipeline.processActionPill crypto env pill =
        (pipeline.digestAndPublish crypto env pill,
          { pipeline with stomach := ⟨pipeline.stomach.cpCache.add digest⟩ })) := by
  cases computed : computeCapsuleDigest crypto pill with
  | error err =>
      exact Or.inl ⟨err, rfl, by
        simp [ActionPipeline.processActionPill, Stomach.seenOrAddCp, computed]⟩
  | ok digest =>
      by_cases seen : pipeline.stomach.cpCache.contains digest = true
      · refine Or.inr (Or.inl ⟨digest, rfl, (Ring.contains_iff_recent _ _).mp seen, ?_⟩)
        simp [ActionPipeline.processActionPill, Stomach.seenOrAddCp, computed, Ring.seenOrAdd, seen]
      · rw [Ring.contains_iff_recent] at seen
        exact Or.inr (Or.inr ⟨digest, rfl, seen, process_action_pill_unseen computed seen⟩)

theorem digest_and_publish_length (crypto : Crypto) (env : Environment)
    (pipeline : ActionPipeline) (pill : ActionPill) :
    (pipeline.digestAndPublish crypto env pill).2.length ≤ 1 := by
  unfold ActionPipeline.digestAndPublish
  split
  · simp
  · cases digested : (digestActiveSubstance crypto pill pipeline.membrane.ribosomeTable none).1 with
    | error err => simp [digested]
    | ok =>
        by_cases publishable : DigestedActiveSubstance.Publishable pipeline.membrane
            (digestActiveSubstance crypto pill pipeline.membrane.ribosomeTable none).2
        · obtain ⟨payload, -, published⟩ :=
            @publish_digested_command_publishable env.broker _ _ publishable
          simp [digested, published]
        · obtain ⟨err, refused⟩ := @publish_digested_command_refused env.broker _ _ publishable
          simp [digested, refused]

theorem digest_and_publish_complete {crypto : Crypto} {env : Environment}
    {pipeline : ActionPipeline} {pill : ActionPill} {found : DigestedActiveSubstance}
    (authorised : validateAuthorized crypto pill (nowMs env.timerUs) pipeline.issuerKeyId
      pipeline.issuerPublicKey = .ok ())
    (digested : digestActiveSubstance crypto pill pipeline.membrane.ribosomeTable none =
      (.ok (), found))
    (publishable : found.Publishable pipeline.membrane) :
    ∃ payload, encodeCommandPayload found.command mqttBrokerPayloadMaxLen = .ok payload ∧
      pipeline.digestAndPublish crypto env pill =
        (mqttBrokerPublishToClient env.broker (found.request payload),
          [⟨found.request payload,
            mqttBrokerPublishToClient env.broker (found.request payload)⟩]) := by
  obtain ⟨payload, encoded, published⟩ :=
    @publish_digested_command_publishable env.broker _ _ publishable
  refine ⟨payload, encoded, ?_⟩
  simp only [ActionPipeline.digestAndPublish, authorised, digested, published]

theorem process_locally_published {crypto : Crypto} {env : Environment} {core : Core}
    {pill : ActionPill} {publication : Publication}
    (made : publication ∈ (processLocally crypto env core pill).1.2) :
    ∃ pipeline digest, core.pipeline = some pipeline ∧
      computeCapsuleDigest crypto pill = .ok digest ∧
      digest ∉ pipeline.stomach.cpCache.recent ∧
      publication ∈ (pipeline.digestAndPublish crypto env pill).2 ∧
      (processLocally crypto env core pill).2 = { core with
        pipeline := some { pipeline with stomach := ⟨pipeline.stomach.cpCache.add digest⟩ } } := by
  cases present : core.pipeline with
  | none => simp [processLocally, present] at made
  | some pipeline =>
      simp only [processLocally, present] at made ⊢
      rcases process_action_pill_cases crypto env pipeline pill with failed | seen | fresh
      · obtain ⟨err, -, processed⟩ := failed
        simp [processed] at made
      · obtain ⟨digest, -, -, processed⟩ := seen
        simp [processed] at made
      · obtain ⟨digest, computed, unseen, processed⟩ := fresh
        rw [processed] at made ⊢
        exact ⟨pipeline, digest, rfl, computed, unseen, made, rfl⟩

/-- The seen cache after a pill was accepted: one insertion on reception, one
more when the relay went through. -/
def seenAfterHandling (ble : G2gBle) (cache : SeenCache) (messageId : MessageId) : SeenCache :=
  if ble.takes 3 then (cache.add messageId).add messageId else cache.add messageId

theorem seen_after_handling_subset {ble : G2gBle} {cache : SeenCache}
    {messageId other : MessageId}
    (held : other ∈ (seenAfterHandling ble cache messageId).recent) :
    other = messageId ∨ other ∈ cache.recent := by
  unfold seenAfterHandling at held
  split at held
  · rcases Ring.recent_add_subset _ _ _ held with same | once
    · exact Or.inl same
    · exact Ring.recent_add_subset _ _ _ once
  · exact Ring.recent_add_subset _ _ _ held

theorem mem_seen_after_handling (ble : G2gBle) (cache : SeenCache) (messageId : MessageId) :
    messageId ∈ (seenAfterHandling ble cache messageId).recent := by
  unfold seenAfterHandling
  split
  · exact Ring.mem_recent_add _ messageId
  · exact Ring.mem_recent_add _ messageId

theorem seen_after_handling_room {cache : SeenCache}
    (room : cache.recent.length + 2 ≤ g2gSeenCacheSize) (ble : G2gBle) (messageId : MessageId) :
    (∀ other ∈ cache.recent, other ∈ (seenAfterHandling ble cache messageId).recent) ∧
      (seenAfterHandling ble cache messageId).recent.length ≤ cache.recent.length + 2 := by
  have once : (cache.add messageId).recent = messageId :: cache.recent :=
    Ring.recent_add_room (by omega) messageId
  have twice : ((cache.add messageId).add messageId).recent =
      messageId :: messageId :: cache.recent := by
    rw [Ring.recent_add_room (by rw [once, List.length_cons]; omega), once]
  unfold seenAfterHandling
  split
  · rw [twice]
    exact ⟨fun other held => List.mem_cons_of_mem _ (List.mem_cons_of_mem _ held), le_refl _⟩
  · rw [once]
    exact ⟨fun other held => List.mem_cons_of_mem _ held, by rw [List.length_cons]; omega⟩

/-- What was inserted last stays in front, with the new id before it. -/
theorem seen_after_handling_newest {cache : SeenCache} {newest : List MessageId}
    (held : newest <+: cache.recent) (room : newest.length + 2 ≤ g2gSeenCacheSize) (ble : G2gBle)
    (messageId : MessageId) :
    ∃ later, later <+: (seenAfterHandling ble cache messageId).recent ∧
      later.length ≤ newest.length + 2 ∧ messageId ∈ later ∧ newest ⊆ later := by
  have once := Ring.prefix_add held (by omega) messageId
  have twice := Ring.prefix_add once (by rw [List.length_cons]; omega) messageId
  unfold seenAfterHandling
  split
  · refine ⟨_, twice, le_refl _, List.mem_cons_self, ?_⟩
    exact List.Subset.trans (List.subset_cons_self _ _) (List.subset_cons_self _ _)
  · refine ⟨_, once, ?_, List.mem_cons_self, List.subset_cons_self _ _⟩
    rw [List.length_cons]
    omega

def relayedFrames (crypto : Crypto) (ble : G2gBle) (g2g : G2g) (pill : ActionPill) : List Bytes :=
  (sendActionPill crypto ble g2g pill).1.sent

/-- The state machine is back where it was, so only the pipeline changes. -/
theorem on_action_pill_received_core (crypto : Crypto) (env : Environment) (pill : ActionPill)
    (node : Guardian) :
    (onActionPillReceived crypto env pill node).node.core =
        (processLocally crypto env node.core pill).2 ∧
      (onActionPillReceived crypto env pill node).events =
        (relayedFrames crypto env.ble node.g2g pill).map Event.relayed ++
          (processLocally crypto env node.core pill).1.2.map Event.published := by
  rcases node with ⟨g2g, pipeline, state⟩
  cases pipeline <;> exact ⟨rfl, rfl⟩

/-- One reception in which a completed pill reaches the handler. -/
structure Handles (crypto : Crypto) (guardian : Guardian) (reception : Reception)
    (pill : ActionPill) (messageId : MessageId) : Prop where
  digest : computeInnerId crypto pill = .ok messageId
  carried : carriedId reception.frame = some messageId
  unseen : messageId ∉ guardian.g2g.seenCache.recent
  completed : (guardian.g2g.receive reception.frame).1 =
    .complete messageId (ActionPill.layout.encode pill)
  g2g : (onFragmentReceived crypto guardian reception).1.g2g =
    ⟨seenAfterHandling reception.env.ble guardian.g2g.seenCache messageId,
      (guardian.g2g.receive reception.frame).2.rxSlots⟩
  core : (onFragmentReceived crypto guardian reception).1.core =
    (processLocally crypto reception.env guardian.core pill).2
  events : ∃ sent, sent <+: pillFrames pill messageId ∧
    (reception.env.ble.takes 3 = true → sent = pillFrames pill messageId) ∧
    (onFragmentReceived crypto guardian reception).2 = .handled pill :: (sent.map Event.relayed ++
      (processLocally crypto reception.env guardian.core pill).1.2.map Event.published)

/-- One reception that ends before the handler. -/
structure Quiet (crypto : Crypto) (guardian : Guardian) (reception : Reception) : Prop where
  g2g : (onFragmentReceived crypto guardian reception).1.g2g =
    (guardian.g2g.receive reception.frame).2
  core : (onFragmentReceived crypto guardian reception).1.core = guardian.core
  events : (onFragmentReceived crypto guardian reception).2 = []

/-- The node a completed pill is handled on: the slot is free again and the id
is inserted once. -/
def enteredNode (guardian : Guardian) (reception : Reception) (messageId : MessageId) : Guardian :=
  { guardian with
    g2g := { (guardian.g2g.receive reception.frame).2 with
      seenCache := guardian.g2g.seenCache.add messageId } }

theorem on_fragment_received_complete {crypto : Crypto} {guardian : Guardian}
    {reception : Reception} {pill : ActionPill} {messageId : MessageId}
    (completed : (guardian.g2g.receive reception.frame).1 =
      .complete messageId (ActionPill.layout.encode pill))
    (digest : computeInnerId crypto pill = .ok messageId) :
    onFragmentReceived crypto guardian reception =
      ((onActionPillReceived crypto reception.env pill
          (enteredNode guardian reception messageId)).node,
        .handled pill :: (onActionPillReceived crypto reception.env pill
          (enteredNode guardian reception messageId)).events) := by
  have cache := receive_seen_cache guardian.g2g reception.frame
  have sized : (ActionPill.layout.encode pill).length = actionPillSize :=
    ActionPill.layout.encode_length pill
  have fresh : ¬ guardian.g2g.seenCache.contains messageId = true := by
    rw [Ring.contains_iff_recent]
    exact (receive_complete completed).2
  simp [onFragmentReceived, handleReceivedFragment, completed, handleReceivedActionPillBytes,
    G2g.acceptActionPillBytes, sized, ActionPill.layout.decode_encode, digest, Ring.seenOrAdd,
    cache, fresh, enteredNode]

theorem handles_of_complete {crypto : Crypto} {guardian : Guardian} {reception : Reception}
    {pill : ActionPill} {messageId : MessageId}
    (completed : (guardian.g2g.receive reception.frame).1 =
      .complete messageId (ActionPill.layout.encode pill))
    (digest : computeInnerId crypto pill = .ok messageId) :
    Handles crypto guardian reception pill messageId := by
  obtain ⟨carried, unseen⟩ := receive_complete completed
  have entered := on_fragment_received_complete completed digest
  let node := enteredNode guardian reception messageId
  obtain ⟨-, relayed, sent, whole⟩ := send_action_pill_spec digest reception.env.ble node.g2g
  obtain ⟨core, events⟩ := on_action_pill_received_core crypto reception.env pill node
  refine ⟨digest, carried, unseen, completed, ?_, ?_,
    relayedFrames crypto reception.env.ble node.g2g pill, sent, whole, ?_⟩
  · rw [entered]
    change (sendActionPill crypto reception.env.ble node.g2g pill).2 = _
    rw [relayed, seenAfterHandling]
    split <;> rfl
  · rw [entered]
    exact core
  · rw [entered, events]
    rfl

theorem quiet_of_not_complete {crypto : Crypto} {guardian : Guardian} {reception : Reception}
    (stopped : ∀ messageId message,
      (guardian.g2g.receive reception.frame).1 ≠ .complete messageId message) :
    Quiet crypto guardian reception := by
  cases received : (guardian.g2g.receive reception.frame).1 with
  | rejected err =>
      exact ⟨by simp [onFragmentReceived, handleReceivedFragment, received],
        by simp [onFragmentReceived, handleReceivedFragment, received],
        by simp [onFragmentReceived, handleReceivedFragment, received]⟩
  | stored =>
      exact ⟨by simp [onFragmentReceived, handleReceivedFragment, received],
        by simp [onFragmentReceived, handleReceivedFragment, received],
        by simp [onFragmentReceived, handleReceivedFragment, received]⟩
  | complete messageId message => exact absurd received (stopped messageId message)

theorem on_fragment_received_cases (crypto : Crypto) (guardian : Guardian)
    (reception : Reception) :
    Quiet crypto guardian reception ∨
      ∃ pill messageId, Handles crypto guardian reception pill messageId := by
  by_cases finished : ∃ messageId message,
      (guardian.g2g.receive reception.frame).1 = .complete messageId message
  · obtain ⟨messageId, message, received⟩ := finished
    rcases accept_action_pill_bytes_cases crypto (guardian.g2g.receive reception.frame).2
        message messageId with refused | accepted
    · obtain ⟨err, refused⟩ := refused
      have stopped : handleReceivedFragment crypto
          (some (onActionPillReceived crypto reception.env)) guardian reception.frame =
            ⟨.error err, { guardian with g2g := (guardian.g2g.receive reception.frame).2 },
              []⟩ := by
        simp [handleReceivedFragment, received, handleReceivedActionPillBytes, refused]
      exact Or.inl ⟨by simp [onFragmentReceived, stopped], by simp [onFragmentReceived, stopped],
        by simp [onFragmentReceived, stopped]⟩
    · obtain ⟨pill, encoded, digest, -, -⟩ := accepted
      exact Or.inr ⟨pill, messageId, handles_of_complete (encoded ▸ received) digest⟩
  · push Not at finished
    exact Or.inl (quiet_of_not_complete finished)

section Handled

variable {crypto : Crypto} {guardian : Guardian} {reception : Reception} {pill : ActionPill}
  {messageId : MessageId}

theorem Handles.seen (handles : Handles crypto guardian reception pill messageId) :
    messageId ∈ (onFragmentReceived crypto guardian reception).1.g2g.seenCache.recent := by
  rw [handles.g2g]
  exact mem_seen_after_handling _ _ messageId

theorem Handles.published_iff (handles : Handles crypto guardian reception pill messageId)
    (publication : Publication) :
    Event.published publication ∈ (onFragmentReceived crypto guardian reception).2 ↔
      publication ∈ (processLocally crypto reception.env guardian.core pill).1.2 := by
  obtain ⟨sent, -, -, events⟩ := handles.events
  rw [events]
  simp

theorem Handles.handled_digests (handles : Handles crypto guardian reception pill messageId) :
    handledDigests crypto (onFragmentReceived crypto guardian reception).2 = [messageId] := by
  have digest : computeCapsuleDigest crypto pill = .ok messageId := handles.digest
  obtain ⟨sent, -, -, events⟩ := handles.events
  have others : ∀ publications : List Publication, handledDigests crypto
      (sent.map Event.relayed ++ publications.map Event.published) = [] := by
    intro publications
    simp [handledDigests, List.filterMap_append, List.filterMap_map]
  have front : ∀ rest, handledDigests crypto (.handled pill :: rest) =
      messageId :: handledDigests crypto rest := by
    intro rest
    simp [handledDigests, digest, Except.toOption]
  rw [events, front, others]

theorem Handles.handled_pills (handles : Handles crypto guardian reception pill messageId) :
    handledPills (onFragmentReceived crypto guardian reception).2 = [pill] := by
  obtain ⟨sent, -, -, events⟩ := handles.events
  rw [events]
  simp [handledPills, List.filterMap_append, List.filterMap_map]

/-- What a handled pill relays is an initial part of its own frames. -/
theorem Handles.relayed_of (handles : Handles crypto guardian reception pill messageId) :
    relayedOf (onFragmentReceived crypto guardian reception).2 <+: pillFrames pill messageId := by
  obtain ⟨sent, initial, -, events⟩ := handles.events
  rw [events, relayed_of_handling]
  exact initial

/-- Something is relayed exactly when the transport takes the first fragment. -/
theorem Handles.relays (handles : Handles crypto guardian reception pill messageId) :
    relayedOf (onFragmentReceived crypto guardian reception).2 ≠ [] ↔
      reception.env.ble.takes 1 = true := by
  rw [on_fragment_received_complete handles.completed handles.digest,
    (on_action_pill_received_core crypto reception.env pill _).2, relayed_of_handling]
  exact send_action_pill_starts handles.digest reception.env.ble _

/-- Whatever a run handles, some frame of the run carried its id. -/
theorem handled_digests_carried {receptions : List Reception}
    (member : messageId ∈ handledDigests crypto (runGuardian crypto guardian receptions).2) :
    ∃ reception ∈ receptions, carriedId reception.frame = some messageId := by
  rcases List.mem_filterMap.mp member with ⟨event, happened, digest⟩
  rcases EventMachine.event_origin (onFragmentReceived crypto) guardian receptions event happened
    with ⟨before, reception, after, split, origin⟩
  refine ⟨reception, by rw [split]; exact List.mem_append_right _ List.mem_cons_self, ?_⟩
  have here : messageId ∈ handledDigests crypto
      (onFragmentReceived crypto (runGuardian crypto guardian before).1 reception).2 :=
    List.mem_filterMap.mpr ⟨event, origin, digest⟩
  rcases on_fragment_received_cases crypto (runGuardian crypto guardian before).1 reception
    with quiet | ⟨pill, handledId, handles⟩
  · rw [quiet.events] at here
    exact absurd here List.not_mem_nil
  · rw [handles.handled_digests, List.mem_singleton] at here
    rw [here]
    exact handles.carried

end Handled

/-- A frame whose id is in the seen cache changes nothing. -/
theorem seen_frame_ignored (crypto : Crypto) {guardian : Guardian} {reception : Reception}
    (seen : frameMessageId reception.frame ∈ guardian.g2g.seenCache.recent) :
    onFragmentReceived crypto guardian reception = (guardian, []) := by
  obtain ⟨err, rejected⟩ := receive_seen seen
  have quiet : Quiet crypto guardian reception := quiet_of_not_complete (by simp [rejected])
  have g2g := quiet.g2g
  rw [rejected] at g2g
  exact Prod.ext (congrArg₂ Node.mk g2g quiet.core) quiet.events

theorem seen_frames_ignored (crypto : Crypto) {guardian : Guardian} (receptions : List Reception)
    (seen : ∀ reception ∈ receptions,
      frameMessageId reception.frame ∈ guardian.g2g.seenCache.recent) :
    runGuardian crypto guardian receptions = (guardian, []) := by
  induction receptions with
  | nil => rfl
  | cons reception rest induction =>
      have first := seen_frame_ignored crypto (seen reception List.mem_cons_self)
      have later := induction fun other member => seen other (List.mem_cons_of_mem _ member)
      rw [runGuardian] at later
      rw [runGuardian, EventMachine.run_cons, first, later]
      rfl

end BlindNet
