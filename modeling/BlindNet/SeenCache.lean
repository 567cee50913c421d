import BlindNet.Suppression

/-!
# What the seen cache remembers

An accepted pill enters the seen cache on reception, and once more when its
relay was queued completely, although it is in the cache by then. Without that
second insertion the cache remembers the last 32 accepted ids; with it, the last
sixteen.
-/

namespace BlindNet

set_option autoImplicit false

open ByteLayout RecencyRing

def Accepts (crypto : Crypto) (guardian : Guardian) (reception : Reception)
    (messageId : MessageId) : Prop :=
  ∃ pill, Event.handled pill ∈ (onFragmentReceived crypto guardian reception).2 ∧
    computeInnerId crypto pill = .ok messageId

/-- Fragments and pills with this id are rejected as seen. -/
structure RejectsAsSeen (crypto : Crypto) (guardian : Guardian) (messageId : MessageId) :
    Prop where
  fragments : ∀ bytes, carriedId bytes = some messageId →
    guardian.g2g.receive bytes = (.rejected .invalidState, guardian.g2g)
  pills : ∀ pill, computeInnerId crypto pill = .ok messageId →
    guardian.g2g.acceptActionPillBytes crypto (ActionPill.layout.encode pill) messageId =
      (.error .invalidState, guardian.g2g)

/-- If the frame completes a pill that is accepted, then its relay stops before
the last fragment. -/
def RelayStops (crypto : Crypto) (guardian : Guardian) (reception : Reception) : Prop :=
  ∀ pill messageId,
    (guardian.g2g.receive reception.frame).1 =
      .complete messageId (ActionPill.layout.encode pill) →
    computeInnerId crypto pill = .ok messageId → reception.env.ble.takes 3 = false

def Guardian.seenCache (guardian : Guardian) : Option SeenCache := some guardian.g2g.seenCache

section Retention

variable {crypto : Crypto} {guardian : Guardian} {reception : Reception} {messageId : MessageId}

theorem rejects_as_seen (seen : messageId ∈ guardian.g2g.seenCache.recent) :
    RejectsAsSeen crypto guardian messageId := by
  constructor
  · intro bytes carried
    exact receive_seen_carried carried seen
  · intro pill digest
    have sized : (ActionPill.layout.encode pill).length = actionPillSize :=
      ActionPill.layout.encode_length pill
    rw [← Ring.contains_iff_recent] at seen
    simp [G2g.acceptActionPillBytes, sized, ActionPill.layout.decode_encode, digest,
      Ring.seenOrAdd, seen]

theorem Accepts.handles (accepts : Accepts crypto guardian reception messageId) :
    ∃ pill, Handles crypto guardian reception pill messageId := by
  rcases accepts with ⟨pill, isHandled, digest⟩
  rcases on_fragment_received_cases crypto guardian reception with quiet | ⟨other, otherId, handles⟩
  · rw [quiet.events] at isHandled
    exact absurd isHandled List.not_mem_nil
  · rcases handles.events with ⟨sent, -, -, events⟩
    have same : pill = other := by
      rw [events] at isHandled
      simpa using isHandled
    have named : messageId = otherId := by
      rw [same, handles.digest, Except.ok.injEq] at digest
      exact digest.symm
    exact ⟨other, named ▸ handles⟩

/-- While relays stop, each accepted id takes up one place. -/
theorem seen_cache_step (stops : RelayStops crypto guardian reception) :
    InsertsOnce Guardian.seenCache crypto guardian reception := by
  intro cache held
  simp only [Guardian.seenCache, Option.some.injEq] at held ⊢
  subst held
  rcases on_fragment_received_cases crypto guardian reception with quiet | ⟨pill, other, handles⟩
  · left
    rw [quiet.g2g]
    exact receive_seen_cache guardian.g2g reception.frame
  · right
    refine ⟨other, handles.handled_digests, handles.unseen, ?_⟩
    rw [handles.g2g, seenAfterHandling, stops pill other handles.completed handles.digest]
    rfl

theorem seen_after_handling_behind (ble : G2gBle) (cache : SeenCache) (messageId : MessageId) :
    (seenAfterHandling ble cache messageId).Behind messageId [] := by
  unfold seenAfterHandling
  split
  · exact Ring.behind_add_self _ messageId
  · exact Ring.behind_add_self _ messageId

end Retention

/-- From the reception that accepts a pill on, in every run in which no relay is
queued completely, everything with its id is rejected as seen, until 32 other
ids have been accepted. -/
theorem seen_until_thirty_two_others (crypto : Crypto) (guardian : Guardian) (first : Reception)
    (messageId : MessageId) (accepted : Accepts crypto guardian first messageId)
    (later : List Reception)
    (stops : ∀ before reception after, later = before ++ reception :: after →
      RelayStops crypto (runGuardian crypto guardian (first :: before)).1 reception) :
    RejectsAsSeen crypto (runGuardian crypto guardian (first :: later)).1 messageId ∨
      ∃ others, others.length = 32 ∧ HandledOthers crypto messageId
        (runGuardian crypto (onFragmentReceived crypto guardian first).1 later).2 others := by
  rcases accepted.handles with ⟨pill, handles⟩
  have behind : (onFragmentReceived crypto guardian first).1.g2g.seenCache.Behind messageId [] := by
    rw [handles.g2g]
    exact seen_after_handling_behind _ _ messageId
  rcases @retained_run g2gSeenCacheSize Guardian.seenCache crypto messageId
      (onFragmentReceived crypto guardian first).1 _ rfl behind later
      (fun before reception after split => seen_cache_step (stops before reception after split))
    with ⟨cache, still, kept⟩ | many
  · left
    apply rejects_as_seen
    simp only [Guardian.seenCache, Option.some.injEq] at still
    exact still ▸ kept
  · exact Or.inr many

theorem HandledOthers.length_le {crypto : Crypto} {digest : ByteArr 32} {guardian : Guardian}
    {receptions : List Reception} {others ids : List (ByteArr 32)}
    (handled : HandledOthers crypto digest (runGuardian crypto guardian receptions).2 others)
    (carried : ∀ reception ∈ receptions, frameMessageId reception.frame ∈ digest :: ids) :
    others.length ≤ ids.length := by
  apply (List.subperm_of_subset handled.distinct _).length_le
  intro other member
  rcases handled_digests_carried (handled.handled other member) with ⟨reception, isIn, named⟩
  have listed := carried reception isIn
  rw [← carried_id_frame named] at listed
  rcases List.mem_cons.mp listed with same | listed
  · exact absurd (same ▸ member) handled.different
  · exact listed

theorem PublishesFor.accepts {crypto : Crypto} {guardian : Guardian} {reception : Reception}
    {digest : ByteArr 32} (publishes : PublishesFor crypto guardian reception digest) :
    Accepts crypto guardian reception digest := by
  rcases publishes with ⟨pill, -, isHandled, computed, -⟩
  exact ⟨pill, isHandled, computed⟩

theorem deliveries_carried {env : Environment} {pills : List (ActionPill × MessageId)}
    {reception : Reception} (member : reception ∈ deliveries env pills) :
    frameMessageId reception.frame ∈ pills.map Prod.snd := by
  rcases List.mem_flatMap.mp member with ⟨⟨pill, messageId⟩, isPill, member⟩
  change reception ∈ pillReceptions pill messageId fun _ => env at member
  rw [pill_receptions_frames] at member
  rw [frame_receptions_id member]
  exact List.mem_map.mpr ⟨_, isPill, rfl⟩

theorem flooded_replay_carried {reception : Reception} (member : reception ∈ floodedReplay) :
    frameMessageId reception.frame ∈ lampBuild.messageId :: forgedPills.map Prod.snd := by
  have lamp : reception ∈ lampReceptions → frameMessageId reception.frame ∈
      lampBuild.messageId :: forgedPills.map Prod.snd := by
    intro member
    rw [lampReceptions, pill_receptions_frames] at member
    rw [frame_receptions_id member]
    exact List.mem_cons_self
  rw [floodedReplay, List.mem_append, List.mem_append] at member
  rcases member with first | forged | again
  · exact lamp first
  · exact List.mem_cons_of_mem _ (deliveries_carried forged)
  · exact lamp again

/-- A Guardian whose relays go through accepts the lamp's pill a second time
after sixteen others. -/
theorem lamp_accepted_again :
    enterNormalMode lampConfig lampStored = .ok lampGuardian ∧
    ∃ before first between second after,
      floodedReplay = before ++ first :: (between ++ second :: after) ∧
      Accepts benchCrypto (runGuardian benchCrypto lampGuardian before).1 first
        lampBuild.messageId ∧
      Accepts benchCrypto (runGuardian benchCrypto
        (runGuardian benchCrypto lampGuardian before).1 (first :: between)).1 second
        lampBuild.messageId ∧
      ∀ others, HandledOthers benchCrypto lampBuild.messageId (runGuardian benchCrypto
        (onFragmentReceived benchCrypto (runGuardian benchCrypto lampGuardian before).1 first).1
        between).2 others → others.length ≤ 16 := by
  refine ⟨lamp_guardian_booted, ?_⟩
  rcases flooded_lamp_publishes with
    ⟨before, first, between, second, after, split, publishes, again⟩
  refine ⟨before, first, between, second, after, split, publishes.accepts, again.accepts, ?_⟩
  intro others handled
  have sixteen : (forgedPills.map Prod.snd).length = 16 := by simp [forgedPills]
  rw [← sixteen]
  apply handled.length_le
  intro reception member
  apply flooded_replay_carried
  rw [split]
  apply List.mem_append_right
  exact List.mem_cons_of_mem _ (List.mem_append_left _ member)

def mutedEnvironment : Environment :=
  { benchEnvironment with ble := { benchEnvironment.ble with running := false } }

/-- The same flood while the transport is stopped: the lamp's id is still seen. -/
theorem muted_lamp_remembered :
    ∃ guardian first, Accepts benchCrypto guardian first lampBuild.messageId ∧
      RejectsAsSeen benchCrypto (runGuardian benchCrypto guardian
        (first :: deliveries mutedEnvironment forgedPills)).1 lampBuild.messageId := by
  rcases flooded_lamp_publishes with ⟨before, first, -, -, -, -, publishes, -⟩
  refine ⟨_, first, publishes.accepts, ?_⟩
  have stops : ∀ earlier reception after,
      deliveries mutedEnvironment forgedPills = earlier ++ reception :: after →
        RelayStops benchCrypto (runGuardian benchCrypto
          (runGuardian benchCrypto lampGuardian before).1 (first :: earlier)).1 reception := by
    intro earlier reception after split pill messageId _ _
    have member : reception ∈ deliveries mutedEnvironment forgedPills := by
      rw [split]
      exact List.mem_append_right _ List.mem_cons_self
    rw [deliveries_env member]
    rfl
  rcases seen_until_thirty_two_others benchCrypto _ first lampBuild.messageId publishes.accepts
      (deliveries mutedEnvironment forgedPills) stops with rejects | ⟨others, many, handled⟩
  · exact rejects
  · have few : others.length ≤ (forgedPills.map Prod.snd).length := by
      apply handled.length_le
      intro reception member
      exact List.mem_cons_of_mem _ (deliveries_carried member)
    rw [many, List.length_map, forgedPills, List.length_map, List.length_range] at few
    exact absurd few (by decide)

end BlindNet
