import BlindNet.Replay

/-!
# A forged substance under a genuine capsule

The message id covers the capsule alone, and both caches are filled before the
substance is compared with the capsule. Reassembly looks at headers only, so two
pills with one capsule take the same way through it; the first of them to be
accepted shuts the other out.
-/

namespace BlindNet

set_option autoImplicit false

open ByteLayout RecencyRing

section Agreement

variable {limit : Nat}

structure AgreeBelow (limit : Nat) (first second : Bytes) : Prop where
  length : first.length = second.length
  bytes : ∀ position < limit, first[position]? = second[position]?

theorem fragment_payload_agree {first second : Bytes} (agree : AgreeBelow limit first second)
    (index : Nat) :
    AgreeBelow (limit - index * 174) (fragmentPayload first index)
      (fragmentPayload second index) := by
  have length : (fragmentPayload first index).length = (fragmentPayload second index).length := by
    rw [fragment_payload_length, fragment_payload_length, agree.length]
  refine ⟨length, ?_⟩
  intro position below
  by_cases inside : position < 174
  · have within : position < wireFragmentPayloadMax := inside
    rw [fragmentPayload, fragmentPayload, List.getElem?_take_of_lt within,
      List.getElem?_take_of_lt within, List.getElem?_drop, List.getElem?_drop]
    apply agree.bytes
    change index * 174 + position < limit
    omega
  · have short := fragment_payload_length first index
    rw [List.getElem?_eq_none (by omega), List.getElem?_eq_none (by omega)]

theorem message_header_agree {first second : Bytes} (agree : AgreeBelow limit first second)
    (messageId : MessageId) (index : Nat) :
    messageHeader first messageId index = messageHeader second messageId index := by
  have payload := (fragment_payload_agree agree index).length
  simp only [messageHeader, wireFrameHeader, agree.length, payload]

theorem splice_agree {size offset : Nat} {first second : ByteArr size} {payload payload' : Bytes}
    (blocks : AgreeBelow limit first.toList second.toList)
    (payloads : AgreeBelow (limit - offset) payload payload')
    (inside : offset + payload.length ≤ size) :
    AgreeBelow limit (splice first offset payload).toList
      (splice second offset payload').toList := by
  constructor
  · rw [List.Vector.toList_length, List.Vector.toList_length]
  · intro position below
    rw [splice_get first inside, splice_get second (payloads.length ▸ inside), ← payloads.length]
    split
    · exact payloads.bytes _ (by omega)
    · exact blocks.bytes _ below

theorem AgreeBelow.take_eq {first second : Bytes} (agree : AgreeBelow limit first second) :
    first.take limit = second.take limit := by
  apply List.ext_getElem?
  intro position
  by_cases below : position < limit
  · rw [List.getElem?_take_of_lt below, List.getElem?_take_of_lt below, agree.bytes _ below]
  · have bounded : ∀ bytes : Bytes, (bytes.take limit)[position]? = none := by
      intro bytes
      rw [List.getElem?_take, if_neg below]
    rw [bounded, bounded]

/-- Slots that differ at most in the bytes from `limit` on. -/
structure RxSlot.Agree (limit : Nat) (first second : RxSlot) : Prop where
  inUse : first.inUse = second.inUse
  messageId : first.messageId = second.messageId
  totalLen : first.totalLen = second.totalLen
  fragCount : first.fragCount = second.fragCount
  mask : first.receivedMask = second.receivedMask
  bytes : AgreeBelow limit first.bytes.toList second.bytes.toList

inductive Received.Agree (limit : Nat) : Received → Received → Prop where
  | rejected (err : EspErr) : Agree limit (.rejected err) (.rejected err)
  | stored : Agree limit .stored .stored
  | complete (messageId : MessageId) (first second : Bytes)
      (messages : AgreeBelow limit first second) :
      Agree limit (.complete messageId first) (.complete messageId second)

theorem AgreeBelow.refl (limit : Nat) (bytes : Bytes) : AgreeBelow limit bytes bytes :=
  ⟨rfl, fun _ _ => rfl⟩

theorem AgreeBelow.take {first second : Bytes} (agree : AgreeBelow limit first second)
    (count : Nat) : AgreeBelow limit (first.take count) (second.take count) := by
  constructor
  · rw [List.length_take, List.length_take, agree.length]
  · intro position below
    rw [List.getElem?_take, List.getElem?_take, agree.bytes position below]

theorem RxSlot.Agree.refl (limit : Nat) (slot : RxSlot) : slot.Agree limit slot :=
  ⟨rfl, rfl, rfl, rfl, rfl, AgreeBelow.refl limit _⟩

theorem RxSlot.Agree.store {first second : RxSlot} (agree : first.Agree limit second)
    {header : WireHeader} {payload payload' : Bytes}
    (payloads : AgreeBelow (limit - header.fragOffset.toNat) payload payload')
    (inside : header.fragOffset.toNat + payload.length ≤ 768) :
    Received.Agree limit (first.store header payload).1 (second.store header payload').1 ∧
      (first.store header payload).2.Agree limit (second.store header payload').2 := by
  obtain ⟨inUse, messageId, totalLen, fragCount, mask, block⟩ := first
  obtain ⟨inUse', messageId', totalLen', fragCount', mask', block'⟩ := second
  obtain ⟨rfl, rfl, rfl, rfl, rfl, blocks⟩ := agree
  have written := splice_agree blocks payloads inside
  -- None of the conditions looks at the bytes, so both sides take one branch.
  by_cases fresh : totalLen = 0
  · simp only [RxSlot.store, fresh, if_true]
    split_ifs with mismatched repeated whole
    · exact absurd mismatched (by simp)
    · exact ⟨.rejected _, rfl, rfl, rfl, rfl, rfl, blocks⟩
    · exact ⟨.complete _ _ _ (written.take _), RxSlot.Agree.refl limit _⟩
    · exact ⟨.stored, rfl, rfl, rfl, rfl, rfl, written⟩
  · simp only [RxSlot.store, if_neg fresh]
    split_ifs with mismatched repeated whole
    · exact ⟨.rejected _, RxSlot.Agree.refl limit _⟩
    · exact ⟨.rejected _, rfl, rfl, rfl, rfl, rfl, blocks⟩
    · exact ⟨.complete _ _ _ (written.take _), RxSlot.Agree.refl limit _⟩
    · exact ⟨.stored, rfl, rfl, rfl, rfl, rfl, written⟩

theorem update_agree {first second : Fin g2gRxSlots → RxSlot}
    (agree : ∀ index, (first index).Agree limit (second index)) (target : Fin g2gRxSlots)
    {slot slot' : RxSlot} (written : slot.Agree limit slot') :
    ∀ index, (Function.update first target slot index).Agree limit
      (Function.update second target slot' index) := by
  intro index
  by_cases same : index = target
  · rw [same, Function.update_self, Function.update_self]
    exact written
  · rw [Function.update_of_ne same, Function.update_of_ne same]
    exact agree index

theorem rx_slot_for_agree {first second : Fin g2gRxSlots → RxSlot}
    (agree : ∀ index, (first index).Agree limit (second index)) (messageId : MessageId) :
    (rxSlotFor first messageId).1 = (rxSlotFor second messageId).1 ∧
      ∀ index, ((rxSlotFor first messageId).2 index).Agree limit
        ((rxSlotFor second messageId).2 index) := by
  have held : (fun index => (first index).inUse && (first index).messageId == messageId) =
      fun index => (second index).inUse && (second index).messageId == messageId := by
    funext index
    rw [(agree index).inUse, (agree index).messageId]
  have free : (fun index => !(first index).inUse) = fun index => !(second index).inUse := by
    funext index
    rw [(agree index).inUse]
  unfold rxSlotFor
  rw [held, free]
  cases (List.finRange g2gRxSlots).find? fun index =>
      (second index).inUse && (second index).messageId == messageId with
  | some index => exact ⟨rfl, agree⟩
  | none => exact ⟨rfl, update_agree agree _ (RxSlot.Agree.refl limit _)⟩

theorem store_fragment_agree {first second : Fin g2gRxSlots → RxSlot}
    (agree : ∀ index, (first index).Agree limit (second index)) {header : WireHeader}
    {payload payload' : Bytes}
    (payloads : AgreeBelow (limit - header.fragOffset.toNat) payload payload')
    (room : header.fragOffset.toNat + payload.length ≤ 768) :
    Received.Agree limit (storeFragment first header payload).1
        (storeFragment second header payload').1 ∧
      ∀ index, ((storeFragment first header payload).2 index).Agree limit
        ((storeFragment second header payload').2 index) := by
  obtain ⟨target, opened⟩ := rx_slot_for_agree agree header.messageId
  simp only [storeFragment, target]
  obtain ⟨result, slot⟩ := (opened (rxSlotFor second header.messageId).1).store payloads room
  exact ⟨result, update_agree opened _ slot⟩

/-- Message layers with one seen cache whose slots differ at most in the bytes
from `limit` on. -/
structure G2g.Agree (limit : Nat) (first second : G2g) : Prop where
  seenCache : first.seenCache = second.seenCache
  slots : ∀ index, (first.rxSlots index).Agree limit (second.rxSlots index)

/-- The same fragment of two messages that agree below `limit`. -/
theorem G2g.Agree.receive {first second : G2g} (agree : first.Agree limit second)
    {bytes bytes' : Bytes} (messages : AgreeBelow limit bytes bytes') (sendable : Sendable bytes)
    (sendable' : Sendable bytes') {index : Nat} (inside : index < fragmentCount bytes.length)
    (messageId : MessageId) :
    Received.Agree limit (first.receive (messageFrame bytes messageId index)).1
        (second.receive (messageFrame bytes' messageId index)).1 ∧
      (first.receive (messageFrame bytes messageId index)).2.Agree limit
        (second.receive (messageFrame bytes' messageId index)).2 := by
  rw [receive_message_frame sendable inside,
    receive_message_frame sendable' (messages.length ▸ inside), agree.seenCache]
  split
  · exact ⟨.rejected _, agree⟩
  · have payloads := fragment_payload_agree messages index
    obtain ⟨-, offset, -, -⟩ := @message_header_values bytes messageId sendable index inside
    have room : (messageHeader bytes messageId index).fragOffset.toNat +
        (fragmentPayload bytes index).length ≤ 768 := by
      have short := sendable.short
      have start := fragment_start_lt inside
      have length := fragment_payload_length bytes index
      simp only [g2gActionPillMaxLen] at short
      omega
    rw [← offset] at payloads
    rw [← message_header_agree messages messageId index]
    obtain ⟨result, slots⟩ := store_fragment_agree agree.slots payloads room
    exact ⟨result, rfl, slots⟩

end Agreement

section Capsule

variable {crypto : Crypto} {pill forged : ActionPill} {messageId : MessageId}

theorem encode_agree (sameCapsule : forged.capsule = pill.capsule) :
    AgreeBelow 192 (ActionPill.layout.encode pill) (ActionPill.layout.encode forged) := by
  constructor
  · rw [ActionPill.layout.encode_length, ActionPill.layout.encode_length]
  · intro position below
    have front : position < (CapsulePill.layout.encode pill.capsule).length := by
      rw [CapsulePill.layout.encode_length]
      exact below
    rw [action_pill_encode, action_pill_encode, sameCapsule, List.getElem?_append_left front,
      List.getElem?_append_left front]

/-- A message that agrees with a pill there is a pill with the same capsule. -/
theorem decode_agree {message : Bytes}
    (agree : AgreeBelow 192 (ActionPill.layout.encode pill) message) :
    ∃ other : ActionPill, message = ActionPill.layout.encode other ∧
      other.capsule = pill.capsule := by
  have sized : message.length = actionPillSize := by
    rw [← agree.length, ActionPill.layout.encode_length]
  refine ⟨ActionPill.layout.decode message,
    (ActionPill.layout.encode_decode message sized).symm, ?_⟩
  change CapsulePill.layout.decode (message.take 192) = pill.capsule
  rw [← agree.take_eq, action_pill_encode]
  exact CapsulePill.layout.decode_append pill.capsule _

theorem published_binds {env : Environment} {core : Core} {publication : Publication}
    (made : publication ∈ (processLocally crypto env core pill).1.2) :
    activeSubstanceHash crypto pill.active = .ok pill.capsule.activeHash ∧
      pill.capsule.signatureLen.toNat ≤ capsulePillSignatureMaxLen := by
  obtain ⟨pipeline, -, -, -, -, published, -⟩ := process_locally_published made
  obtain ⟨authentic, -⟩ := digest_and_publish_authorised published
  have basic := capsule_pill_validate_basic_ok.mp authentic.basic
  exact ⟨authentic.bound, basic.signatureLen_le⟩

/-- The same frame of two pills with one capsule, received by Guardians that
agree on the capsule's bytes. If the genuine one is published, then the forged
one has been accepted. -/
theorem forged_frame (sameCapsule : forged.capsule = pill.capsule) {first second : Guardian}
    (agree : first.g2g.Agree 192 second.g2g) (index : Fin 3) (env env' : Environment) :
    messageId ∈ (onFragmentReceived crypto second
        ⟨pillFrame forged messageId index, env'⟩).1.g2g.seenCache.recent ∨
    ((onFragmentReceived crypto first ⟨pillFrame pill messageId index, env⟩).2 = [] ∧
      (onFragmentReceived crypto first ⟨pillFrame pill messageId index, env⟩).1.g2g.Agree 192
        (onFragmentReceived crypto second ⟨pillFrame forged messageId index, env'⟩).1.g2g) ∨
    (messageId ∈ (onFragmentReceived crypto first
        ⟨pillFrame pill messageId index, env⟩).1.g2g.seenCache.recent ∧
      ∀ publication, Event.published publication ∉
        (onFragmentReceived crypto first ⟨pillFrame pill messageId index, env⟩).2) := by
  have inside : (index : Nat) < fragmentCount (ActionPill.layout.encode pill).length := by
    rw [pill_fragment_count]
    exact index.isLt
  have received := agree.receive (encode_agree sameCapsule) (pill_sendable pill)
    (pill_sendable forged) inside messageId
  rw [message_frame_pill, message_frame_pill] at received
  obtain ⟨results, slots⟩ := received
  rcases on_fragment_received_cases crypto second ⟨pillFrame forged messageId index, env'⟩
    with quiet' | ⟨other, otherId, handles'⟩
  · rcases on_fragment_received_cases crypto first ⟨pillFrame pill messageId index, env⟩
      with quiet | ⟨handled, handledId, handles⟩
    · refine Or.inr (Or.inl ⟨quiet.events, ?_⟩)
      rw [quiet.g2g, quiet'.g2g]
      exact slots
    · have named : handledId = messageId :=
        (carried_id_frame handles.carried).trans (pill_frame_id _)
      subst named
      refine Or.inr (Or.inr ⟨handles.seen, ?_⟩)
      intro publication made
      -- The forged message completes at the same frame, with the same digest.
      obtain ⟨-, inField⟩ := published_binds ((handles.published_iff publication).mp made)
      have completed := handles.completed
      simp only at completed
      rw [completed] at results
      cases completed' : (second.g2g.receive (pillFrame forged handledId index)).1 with
      | rejected err =>
          rw [completed'] at results
          cases results
      | stored =>
          rw [completed'] at results
          cases results
      | complete otherId message =>
          rw [completed'] at results
          cases results with
          | complete _ _ _ messages =>
              obtain ⟨other, rfl, capsule⟩ := decode_agree messages
              have digest : computeInnerId crypto other = .ok handledId :=
                (compute_capsule_digest_capsule capsule inField).trans handles.digest
              have handles' : Handles crypto second ⟨pillFrame forged handledId index, env'⟩ other
                  handledId := handles_of_complete completed' digest
              obtain ⟨sent, -, -, events⟩ := handles'.events
              rw [quiet'.events] at events
              simp at events
  · have named : otherId = messageId := (carried_id_frame handles'.carried).trans (pill_frame_id _)
    subst named
    exact Or.inl handles'.seen

def frameReceptions (pill : ActionPill) (messageId : MessageId) (envs : Fin 3 → Environment)
    (order : List (Fin 3)) : List Reception :=
  order.map fun index : Fin 3 => ⟨pillFrame pill messageId index, envs index⟩

theorem pill_receptions_frames (pill : ActionPill) (messageId : MessageId)
    (envs : Fin 3 → Environment) :
    pillReceptions pill messageId envs = frameReceptions pill messageId envs [0, 1, 2] := rfl

theorem frame_receptions_id {envs : Fin 3 → Environment} {order : List (Fin 3)}
    {reception : Reception} (member : reception ∈ frameReceptions pill messageId envs order) :
    frameMessageId reception.frame = messageId := by
  rcases List.mem_map.mp member with ⟨index, -, rfl⟩
  exact pill_frame_id index

theorem seen_pill_ignored {guardian : Guardian}
    (seen : messageId ∈ guardian.g2g.seenCache.recent) (envs : Fin 3 → Environment)
    (order : List (Fin 3)) :
    runGuardian crypto guardian (frameReceptions pill messageId envs order) = (guardian, []) := by
  apply seen_frames_ignored
  intro reception member
  rw [frame_receptions_id member]
  exact seen

theorem forged_frames_seen (sameCapsule : forged.capsule = pill.capsule) (order : List (Fin 3))
    (envs forgedEnvs : Fin 3 → Environment) {first second : Guardian}
    (agree : first.g2g.Agree 192 second.g2g) {publication : Publication}
    (made : Event.published publication ∈
      (runGuardian crypto first (frameReceptions pill messageId envs order)).2) :
    messageId ∈ (runGuardian crypto second
      (frameReceptions forged messageId forgedEnvs order)).1.g2g.seenCache.recent := by
  induction order generalizing first second with
  | nil => exact absurd made List.not_mem_nil
  | cons index rest induction =>
      rw [runGuardian, frameReceptions, List.map_cons, EventMachine.run_cons] at made ⊢
      change _ ∈ (runGuardian crypto _
        (frameReceptions forged messageId forgedEnvs rest)).1.g2g.seenCache.recent
      change _ ∈ _ ++ (runGuardian crypto _ (frameReceptions pill messageId envs rest)).2 at made
      rcases @forged_frame crypto pill forged messageId sameCapsule first second agree index
        (envs index) (forgedEnvs index) with accepted | ⟨silent, still⟩ | ⟨seen, unpublished⟩
      · rw [seen_pill_ignored accepted]
        exact accepted
      · rw [silent, List.nil_append] at made
        exact induction still made
      · rw [seen_pill_ignored seen, List.append_nil] at made
        exact absurd made (unpublished publication)

variable {guardian : Guardian} {envs : Fin 3 → Environment} {publication : Publication}

/-- Once the forged pill was received, the genuine one changes nothing. -/
theorem genuine_ignored (sameCapsule : forged.capsule = pill.capsule)
    (published : Event.published publication ∈
      (runGuardian crypto guardian (pillReceptions pill messageId envs)).2)
    (forgedEnvs laterEnvs : Fin 3 → Environment) :
    runGuardian crypto guardian (pillReceptions forged messageId forgedEnvs ++
        pillReceptions pill messageId laterEnvs) =
      runGuardian crypto guardian (pillReceptions forged messageId forgedEnvs) := by
  have self : guardian.g2g.Agree 192 guardian.g2g := ⟨rfl, fun _ => RxSlot.Agree.refl 192 _⟩
  have seen := forged_frames_seen sameCapsule [0, 1, 2] envs forgedEnvs self published
  apply EventMachine.run_append_silent
  exact seen_pill_ignored seen laterEnvs [0, 1, 2]

/-- With nothing of the message received before, the forged pill itself is what
is handled; it is not published, since its substance is not the one the capsule
binds. -/
theorem forged_unpublished (sameCapsule : forged.capsule = pill.capsule)
    (identity : computeInnerId crypto pill = .ok messageId)
    (absent : ∀ index, ¬ (guardian.g2g.rxSlots index).HeldFor messageId)
    (published : Event.published publication ∈
      (runGuardian crypto guardian (pillReceptions pill messageId envs)).2)
    (unbound : activeSubstanceHash crypto forged.active ≠ .ok pill.capsule.activeHash)
    (forgedEnvs : Fin 3 → Environment) (other : Publication) :
    Event.published other ∉
      (runGuardian crypto guardian (pillReceptions forged messageId forgedEnvs)).2 := by
  have unseen : messageId ∉ guardian.g2g.seenCache.recent := by
    intro seen
    rw [pill_receptions_frames, seen_pill_ignored seen] at published
    exact absurd published List.not_mem_nil
  have inField : pill.capsule.signatureLen.toNat ≤ capsulePillSignatureMaxLen := by
    rcases deliver_pill_evicting absent unseen identity envs with ⟨slots, sent, -, run⟩
    have made : publication ∈ (processLocally crypto (envs 2) guardian.core pill).1.2 := by
      rw [run] at published
      simpa using published
    exact (published_binds made).2
  have forgedIdentity : computeInnerId crypto forged = .ok messageId :=
    (compute_capsule_digest_capsule sameCapsule inField).trans identity
  rcases deliver_pill_evicting absent unseen forgedIdentity forgedEnvs with ⟨slots, sent, -, run⟩
  intro made
  have forgedMade : other ∈ (processLocally crypto (forgedEnvs 2) guardian.core forged).1.2 := by
    rw [run] at made
    simpa using made
  apply unbound
  rw [← sameCapsule]
  exact (published_binds forgedMade).1

end Capsule

/-- A forged substance under a published pill's capsule, received first, shuts
the pill out: its own frames then change nothing and lead to no event. From a
state that holds none of its fragments, no publication is made at all. -/
theorem forged_substance_shuts_out (crypto : Crypto) (guardian : Guardian)
    (pill forged : ActionPill) (messageId : MessageId)
    (envs forgedEnvs laterEnvs : Fin 3 → Environment)
    (sameCapsule : forged.capsule = pill.capsule)
    (identity : computeInnerId crypto pill = .ok messageId) (publication : Publication)
    (published : Event.published publication ∈
      (runGuardian crypto guardian (pillReceptions pill messageId envs)).2) :
    runGuardian crypto guardian (pillReceptions forged messageId forgedEnvs ++
        pillReceptions pill messageId laterEnvs) =
      runGuardian crypto guardian (pillReceptions forged messageId forgedEnvs) ∧
    ((∀ index, ¬ (guardian.g2g.rxSlots index).HeldFor messageId) →
      activeSubstanceHash crypto forged.active ≠ .ok pill.capsule.activeHash →
      ∀ other, Event.published other ∉ (runGuardian crypto guardian
        (pillReceptions forged messageId forgedEnvs ++
          pillReceptions pill messageId laterEnvs)).2) := by
  have ignored := genuine_ignored sameCapsule published forgedEnvs laterEnvs
  refine ⟨ignored, ?_⟩
  intro absent unbound other
  rw [ignored]
  exact forged_unpublished sameCapsule identity absent published unbound forgedEnvs other

def retaggedPill : ActionPill :=
  { lampPill with active := { lampPill.active with tag := List.Vector.replicate 16 0xFF } }

theorem retagged_pill_unbound : activeSubstanceHash benchCrypto retaggedPill.active ≠
    .ok lampPill.capsule.activeHash := by
  decide +kernel

theorem lamp_guardian_absent (index : Fin g2gRxSlots) :
    ¬ (lampGuardian.g2g.rxSlots index).HeldFor lampBuild.messageId := by
  intro held
  rw [RxSlot.HeldFor, lamp_guardian_idle index] at held
  exact absurd held.1 (by decide)

/-- The freshly booted Guardian publishes the lamp's command, and publishes
nothing when the retagged pill arrives first. -/
theorem lamp_pill_suppressed :
    enterNormalMode lampConfig lampStored = .ok lampGuardian ∧
    retaggedPill.capsule = lampPill.capsule ∧ retaggedPill.active ≠ lampPill.active ∧
    computeInnerId benchCrypto lampPill = .ok lampBuild.messageId ∧
    Event.published lampPublication ∈ (runGuardian benchCrypto lampGuardian lampReceptions).2 ∧
    ∀ publication, Event.published publication ∉ (runGuardian benchCrypto lampGuardian
      (pillReceptions retaggedPill lampBuild.messageId (fun _ => benchEnvironment) ++
        lampReceptions)).2 := by
  have published := flooded_lamp.1
  refine ⟨lamp_guardian_booted, rfl, by decide +kernel, lamp_pill_digest, published, ?_⟩
  intro publication
  rw [lampReceptions, @genuine_ignored benchCrypto lampPill retaggedPill lampBuild.messageId
    lampGuardian (fun _ => benchEnvironment) lampPublication rfl published]
  exact @forged_unpublished benchCrypto lampPill retaggedPill lampBuild.messageId lampGuardian
    (fun _ => benchEnvironment) lampPublication rfl lamp_pill_digest lamp_guardian_absent published
    retagged_pill_unbound (fun _ => benchEnvironment) publication

theorem lamp_pill_shut_out :
    Event.published lampPublication ∈ (runGuardian benchCrypto lampGuardian lampReceptions).2 ∧
    runGuardian benchCrypto lampGuardian
        (pillReceptions retaggedPill lampBuild.messageId (fun _ => benchEnvironment) ++
          lampReceptions) =
      runGuardian benchCrypto lampGuardian
        (pillReceptions retaggedPill lampBuild.messageId fun _ => benchEnvironment) ∧
    ∀ other, Event.published other ∉ (runGuardian benchCrypto lampGuardian
      (pillReceptions retaggedPill lampBuild.messageId (fun _ => benchEnvironment) ++
        lampReceptions)).2 := by
  have published := flooded_lamp.1
  have shut := forged_substance_shuts_out benchCrypto lampGuardian lampPill retaggedPill
    lampBuild.messageId (fun _ => benchEnvironment) (fun _ => benchEnvironment)
    (fun _ => benchEnvironment) rfl lamp_pill_digest lampPublication published
  exact ⟨published, shut.1, shut.2 lamp_guardian_absent retagged_pill_unbound⟩

end BlindNet
