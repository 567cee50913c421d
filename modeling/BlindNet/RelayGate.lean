import BlindNet.Suppression

/-!
# What a Guardian relays

`on_action_pill_received` sends a pill on before anything about it is checked.
`precheck_for_relay` is run only by the stomach, after the relay; so the pills
that are sent on have passed it exactly as far as the senders saw to it.
-/

namespace BlindNet

set_option autoImplicit false

open ByteLayout RecencyRing

/-- The pill that is queued for the peers at this reception has passed
`precheck_for_relay` at the time of the reception. -/
def RelayGated (crypto : Crypto) (guardian : Guardian) (reception : Reception) : Prop :=
  ∀ pill, Event.handled pill ∈ (onFragmentReceived crypto guardian reception).2 →
    relayedOf (onFragmentReceived crypto guardian reception).2 ≠ [] →
    precheckForRelay pill (nowMs reception.env.timerUs) = .ok ()

/-- The fragment completes no pill, or one that passes the precheck, or the
transmit queue does not take the first fragment of the relay. -/
def RelayHarmless (crypto : Crypto) (guardian : Guardian) (reception : Reception) : Prop :=
  ∀ pill messageId, (guardian.g2g.receive reception.frame).1 =
      .complete messageId (ActionPill.layout.encode pill) →
    computeInnerId crypto pill = .ok messageId → reception.env.ble.takes 1 = true →
    precheckForRelay pill (nowMs reception.env.timerUs) = .ok ()

/-- The property at every reception of a run. -/
def Along (crypto : Crypto) (property : Guardian → Reception → Prop) (guardian : Guardian)
    (receptions : List Reception) : Prop :=
  ∀ before reception after, receptions = before ++ reception :: after →
    property (runGuardian crypto guardian before).1 reception

section Step

variable {crypto : Crypto} {guardian : Guardian} {reception : Reception}

theorem Handles.handled_iff {pill other : ActionPill} {messageId : MessageId}
    (handles : Handles crypto guardian reception pill messageId) :
    Event.handled other ∈ (onFragmentReceived crypto guardian reception).2 ↔ other = pill := by
  rcases handles.events with ⟨sent, -, -, events⟩
  rw [events]
  simp

theorem relay_gated_iff : RelayGated crypto guardian reception ↔
    RelayHarmless crypto guardian reception := by
  constructor
  · intro gated pill messageId completed digest takes
    have handles := @handles_of_complete crypto guardian reception pill messageId completed digest
    exact gated pill (handles.handled_iff.mpr rfl) (handles.relays.mpr takes)
  · intro harmless pill handled relayed
    rcases on_fragment_received_cases crypto guardian reception
      with quiet | ⟨received, messageId, handles⟩
    · rw [quiet.events] at handled
      exact absurd handled List.not_mem_nil
    · rw [handles.handled_iff.mp handled]
      exact harmless received messageId handles.completed handles.digest
        (handles.relays.mp relayed)

end Step

/-- In every run, all relayed pills have passed the precheck exactly when no
reception completes a pill that fails it while the transmit queue has room. -/
theorem relays_prechecked_iff (crypto : Crypto) (guardian : Guardian)
    (receptions : List Reception) :
    Along crypto (RelayGated crypto) guardian receptions ↔
      Along crypto (RelayHarmless crypto) guardian receptions := by
  constructor
  · intro gated before reception after split
    exact relay_gated_iff.mp (gated before reception after split)
  · intro harmless before reception after split
    exact relay_gated_iff.mpr (harmless before reception after split)

/-- Where every relay gets through, a gated run has prechecked what it handled. -/
theorem Along.handled_prechecked {crypto : Crypto} {guardian : Guardian}
    {receptions : List Reception} (gated : Along crypto (RelayGated crypto) guardian receptions)
    {pill : ActionPill}
    (handled : Event.handled pill ∈ (runGuardian crypto guardian receptions).2)
    (takes : ∀ reception ∈ receptions, reception.env.ble.takes 1 = true) :
    ∃ reception ∈ receptions, precheckForRelay pill (nowMs reception.env.timerUs) = .ok () := by
  rcases EventMachine.event_origin (onFragmentReceived crypto) guardian receptions _ handled
    with ⟨before, reception, after, split, origin⟩
  have member : reception ∈ receptions := by
    rw [split]
    exact List.mem_append_right _ List.mem_cons_self
  refine ⟨reception, member, gated before reception after split pill origin ?_⟩
  rcases on_fragment_received_cases crypto (runGuardian crypto guardian before).1 reception
    with quiet | ⟨received, messageId, handles⟩
  · have nothing : Event.handled pill ∈ ([] : List Event) := quiet.events ▸ origin
    exact absurd nothing List.not_mem_nil
  · exact handles.relays.mpr (takes reception member)

def unsignedPill : ActionPill :=
  { lampPill with capsule := { lampPill.capsule with signatureLen := 0 } }

def unsignedId : MessageId := benchDigest (capsuleSignedCanonical unsignedPill.capsule ++ [0])

/-- A freshly booted Guardian sends on a pill that has no signature. -/
theorem unsigned_pill_relayed :
    enterNormalMode lampConfig lampStored = .ok lampGuardian ∧
    precheckForRelay unsignedPill (nowMs benchEnvironment.timerUs) ≠ .ok () ∧
    relayedOf (runGuardian benchCrypto lampGuardian
      (pillReceptions unsignedPill unsignedId fun _ => benchEnvironment)).2 =
        pillFrames unsignedPill unsignedId ∧
    ¬ Along benchCrypto (RelayGated benchCrypto) lampGuardian
      (pillReceptions unsignedPill unsignedId fun _ => benchEnvironment) := by
  have unseen : unsignedId ∉ lampGuardian.g2g.seenCache.recent := by
    simp [lampGuardian, G2g.boot]
  have absent : ∀ index, ¬ (lampGuardian.g2g.rxSlots index).HeldFor unsignedId := by
    intro index held
    rw [RxSlot.HeldFor, lamp_guardian_idle index] at held
    exact absurd held.1 (by decide)
  have refused : precheckForRelay unsignedPill (nowMs benchEnvironment.timerUs) ≠ .ok () := by
    decide +kernel
  rcases @deliver_pill unsignedPill unsignedId benchCrypto lampGuardian absent
    ⟨0, lamp_guardian_idle 0⟩ unseen (by decide +kernel) fun _ => benchEnvironment
    with ⟨slots, sent, -, -, -, whole, run⟩
  refine ⟨lamp_guardian_booted, refused, ?_, ?_⟩
  · rw [run, relayed_of_handling]
    exact whole (by decide)
  · intro gated
    have handled : Event.handled unsignedPill ∈ (runGuardian benchCrypto lampGuardian
        (pillReceptions unsignedPill unsignedId fun _ => benchEnvironment)).2 := by
      rw [run]
      exact List.mem_cons_self
    have same : ∀ reception ∈ pillReceptions unsignedPill unsignedId fun _ => benchEnvironment,
        reception.env = benchEnvironment := by
      intro reception member
      rcases List.mem_cons.mp member with rfl | member
      · rfl
      rcases List.mem_cons.mp member with rfl | member
      · rfl
      rw [List.mem_singleton.mp member]
    rcases gated.handled_prechecked handled (by
      intro reception member
      rw [same reception member]
      decide) with ⟨reception, member, passed⟩
    rw [same reception member] at passed
    exact refused passed

end BlindNet
