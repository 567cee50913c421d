import Mathlib.Data.Finset.Card
import BlindNet.Replay
import BlindNet.Lib.Network

/-!
# Flooding

Guardians that relay what they accept, over a medium that loses, repeats and
reorders frames along any links. Up to sixteen message ids fit into every seen
cache even when each is inserted twice, so no Guardian handles one of them a
second time.
-/

namespace BlindNet

set_option autoImplicit false

open ByteLayout RecencyRing MessageNetwork

abbrev GuardianNetwork (Party : Type) := Network Party Bytes Guardian

abbrev NetworkAction (Party : Type) := Action Party Bytes Environment

/-- A run of the network: frames are injected by clients, relayed frames travel
along the links. -/
def runNetwork {Party : Type} [DecidableEq Party] (crypto : Crypto)
    (link : Option Party → Party → Bool) (network : GuardianNetwork Party)
    (actions : List (NetworkAction Party)) : GuardianNetwork Party × List (Party × Event) :=
  EventMachine.run
    (MessageNetwork.step link
      (fun guardian frame env => onFragmentReceived crypto guardian ⟨frame, env⟩) relayedFrame)
    network actions

def injectedIds {Party : Type} (actions : List (NetworkAction Party)) : Finset MessageId :=
  (actions.filterMap fun
    | .inject frame => carriedId frame
    | _ => none).toFinset

/-- The frame carries no id outside `ids`. -/
def Carries (ids : Finset MessageId) (frame : Bytes) : Prop :=
  ∀ messageId, carriedId frame = some messageId → messageId ∈ ids

/-- What a Guardian that saw only frames with these ids has done: each id was
handled at most once, is still remembered, and takes up at most two places. -/
structure Flooded (crypto : Crypto) (ids : Finset MessageId) (guardian : Guardian)
    (events : List Event) : Prop where
  once : (handledDigests crypto events).Nodup
  known : ∀ messageId ∈ handledDigests crypto events, messageId ∈ ids
  remembered : ∀ messageId ∈ handledDigests crypto events,
    messageId ∈ guardian.g2g.seenCache.recent
  room : guardian.g2g.seenCache.recent.length ≤ 2 * (handledDigests crypto events).length
  relayedOnce : (relayedOf events).Nodup
  relayedHandled : ∀ frame ∈ relayedOf events,
    frameMessageId frame ∈ handledDigests crypto events

section Step

variable {crypto : Crypto} {ids : Finset MessageId} {guardian : Guardian} {events : List Event}
  {reception : Reception} {pill : ActionPill} {messageId : MessageId}

theorem Flooded.handled_cons (flooded : Flooded crypto ids guardian events)
    (carries : Carries ids reception.frame)
    (handles : Handles crypto guardian reception pill messageId) :
    (handledDigests crypto events ++ [messageId]).Nodup ∧
      ∀ other ∈ handledDigests crypto events ++ [messageId], other ∈ ids := by
  have fresh : messageId ∉ handledDigests crypto events := by
    intro member
    exact handles.unseen (flooded.remembered messageId member)
  constructor
  · rw [List.nodup_append]
    refine ⟨flooded.once, List.nodup_singleton messageId, ?_⟩
    intro other member same isSame
    rw [List.mem_singleton] at isSame
    rw [isSame]
    intro equal
    exact fresh (equal ▸ member)
  · intro other member
    rcases List.mem_append.mp member with before | now
    · exact flooded.known other before
    · rw [List.mem_singleton] at now
      rw [now]
      exact carries messageId handles.carried

/-- The pigeonhole: distinct ids of a small set are few. -/
theorem known_ids_few (few : ids.card ≤ 16) {known : List MessageId} (once : known.Nodup)
    (inside : ∀ id ∈ known, id ∈ ids) : known.length ≤ 16 := by
  rw [← List.toFinset_card_of_nodup once]
  refine le_trans (Finset.card_le_card ?_) few
  intro id member
  exact inside id (List.mem_toFinset.mp member)

/-- One reception; the sixteen ids fit twice into the cache. -/
theorem flooded_step (few : ids.card ≤ 16) (guardian : Guardian) (events : List Event)
    (frame : Bytes) (env : Environment) (carries : Carries ids frame)
    (flooded : Flooded crypto ids guardian events) :
    Flooded crypto ids (onFragmentReceived crypto guardian ⟨frame, env⟩).1
      (events ++ (onFragmentReceived crypto guardian ⟨frame, env⟩).2) := by
  rcases on_fragment_received_cases crypto guardian ⟨frame, env⟩
    with quiet | ⟨pill, messageId, handles⟩
  · have cache : (onFragmentReceived crypto guardian ⟨frame, env⟩).1.g2g.seenCache =
        guardian.g2g.seenCache := by
      rw [quiet.g2g]
      exact receive_seen_cache guardian.g2g frame
    rw [quiet.events, List.append_nil]
    exact ⟨flooded.once, flooded.known, cache ▸ flooded.remembered, cache ▸ flooded.room,
      flooded.relayedOnce, flooded.relayedHandled⟩
  · rcases flooded.handled_cons carries handles with ⟨once, known⟩
    have digests : handledDigests crypto
        (events ++ (onFragmentReceived crypto guardian ⟨frame, env⟩).2) =
          handledDigests crypto events ++ [messageId] := by
      rw [handled_digests_append, handles.handled_digests]
    have relayed := relayed_of_append events (onFragmentReceived crypto guardian ⟨frame, env⟩).2
    have own : ∀ frame' ∈ relayedOf (onFragmentReceived crypto guardian ⟨frame, env⟩).2,
        frameMessageId frame' = messageId := by
      intro frame' member
      exact pill_frames_id (handles.relayed_of.subset member)
    have length : (handledDigests crypto events).length + 1 ≤ 16 := by
      simpa using known_ids_few few once known
    have spare : guardian.g2g.seenCache.recent.length + 2 ≤ g2gSeenCacheSize := by
      have room := flooded.room
      have size : g2gSeenCacheSize = 32 := rfl
      omega
    rcases seen_after_handling_room spare env.ble messageId with ⟨kept, grown⟩
    constructor
    · rw [digests]
      exact once
    · rw [digests]
      exact known
    · rw [digests, handles.g2g]
      intro other member
      rcases List.mem_append.mp member with before | now
      · exact kept other (flooded.remembered other before)
      · rw [List.mem_singleton] at now
        rw [now]
        exact mem_seen_after_handling _ _ messageId
    · rw [digests, handles.g2g, List.length_append, List.length_singleton]
      have room := flooded.room
      change (seenAfterHandling env.ble guardian.g2g.seenCache messageId).recent.length ≤ _
      omega
    · rw [relayed, List.nodup_append]
      refine ⟨flooded.relayedOnce, (pill_frames_nodup pill messageId).sublist
        handles.relayed_of.sublist, ?_⟩
      intro old isOld new isNew same
      have before := flooded.relayedHandled old isOld
      rw [same, own new isNew] at before
      exact handles.unseen (flooded.remembered messageId before)
    · rw [relayed, digests]
      intro frame' member
      rcases List.mem_append.mp member with before | now
      · exact List.mem_append_left _ (flooded.relayedHandled frame' before)
      · rw [own frame' now]
        exact List.mem_append_right _ (List.mem_singleton_self messageId)

theorem relayed_carries (guardian : Guardian) (frame : Bytes) (env : Environment)
    (carries : Carries ids frame) :
    ∀ reply ∈ (onFragmentReceived crypto guardian ⟨frame, env⟩).2.filterMap relayedFrame,
      Carries ids reply := by
  intro reply member otherId carried
  rcases on_fragment_received_cases crypto guardian ⟨frame, env⟩
    with quiet | ⟨pill, messageId, handles⟩
  · rw [quiet.events] at member
    exact absurd member List.not_mem_nil
  · rw [carried_id_frame carried, pill_frames_id (handles.relayed_of.subset member)]
    exact carries messageId handles.carried

end Step

/-- In every run of a network of freshly booted Guardians in which clients
inject at most sixteen message ids, each Guardian handles a message id at most
once, and relays no frame twice. -/
theorem flooding_duplicate_free (crypto : Crypto) {Party : Type} [DecidableEq Party]
    (link : Option Party → Party → Bool) (start : Party → Guardian)
    (booted : ∀ party, (start party).g2g = G2g.boot) (actions : List (NetworkAction Party))
    (few : (injectedIds actions).card ≤ 16) (party : Party) :
    (handledDigests crypto
      (eventsOf party (runNetwork crypto link ⟨start, []⟩ actions).2)).Nodup ∧
    (relayedOf (eventsOf party (runNetwork crypto link ⟨start, []⟩ actions).2)).Nodup := by
  have injected : ∀ frame, Action.inject frame ∈ actions → Carries (injectedIds actions) frame := by
    intro frame member messageId carried
    exact List.mem_toFinset.mpr (List.mem_filterMap.mpr ⟨_, member, carried⟩)
  have initial : MessageNetwork.Sound (Carries (injectedIds actions))
      (Flooded crypto (injectedIds actions)) (⟨start, []⟩ : GuardianNetwork Party) [] := by
    refine ⟨fun entry member => absurd member List.not_mem_nil, ?_⟩
    intro party
    constructor
    · exact List.nodup_nil
    · exact fun _ member => absurd member List.not_mem_nil
    · exact fun _ member => absurd member List.not_mem_nil
    · simp [booted party, G2g.boot]
    · exact List.nodup_nil
    · exact fun _ member => absurd member List.not_mem_nil
  have sound := MessageNetwork.sound_run link
    (fun guardian frame env => onFragmentReceived crypto guardian ⟨frame, env⟩) relayedFrame
    (flooded_step few) relayed_carries ⟨start, []⟩ actions injected initial
  exact ⟨(sound.2 party).once, (sound.2 party).relayedOnce⟩

/-- A client sends frames to one Guardian, which relays them to another; every frame
reaches each Guardian twice. -/
def floodOf (env : Environment) (frames : List Bytes) : List (NetworkAction Bool) :=
  frames.flatMap (fun frame =>
    [.inject frame, .deliver none frame true env, .deliver none frame true env]) ++
  frames.flatMap fun frame =>
    [.deliver (some true) frame false env, .deliver none frame false env]

def lampFlood : List (NetworkAction Bool) :=
  floodOf benchEnvironment (pillFrames lampPill lampBuild.messageId)

theorem lamp_flood_duplicate_free :
    (injectedIds lampFlood).card ≤ 16 ∧
    ∀ party, lampBuild.messageId ∈ handledDigests benchCrypto (eventsOf party
        (runNetwork benchCrypto (fun _ _ => true) ⟨fun _ => lampGuardian, []⟩ lampFlood).2) ∧
      (handledDigests benchCrypto (eventsOf party
        (runNetwork benchCrypto (fun _ _ => true) ⟨fun _ => lampGuardian, []⟩
          lampFlood).2)).Nodup := by
  have few : (injectedIds lampFlood).card ≤ 16 := by decide +kernel
  have handled : ∀ party, lampBuild.messageId ∈ handledDigests benchCrypto (eventsOf party
      (runNetwork benchCrypto (fun _ _ => true) ⟨fun _ => lampGuardian, []⟩ lampFlood).2) := by
    decide +kernel
  refine ⟨few, fun party => ⟨handled party, ?_⟩⟩
  exact (flooding_duplicate_free benchCrypto (fun _ _ => true) (fun _ => lampGuardian)
    (fun _ => rfl) lampFlood few party).1

end BlindNet
