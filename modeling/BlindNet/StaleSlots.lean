import BlindNet.Interop
import BlindNet.Reassembly

/-!
# Messages that never complete do not block others

Slots have no timeout. A message that has no slot takes a free one or, when
there is none, the first; from then on its slot is found by its id. So the
frames of one pill, in any order and with nothing in between, always reach the
handler, whatever the slots hold.
-/

namespace BlindNet

set_option autoImplicit false

open ByteLayout RecencyRing

section Feeding

variable {Core : Type} (crypto : Crypto) (handle : ActionPillHandler Core)

def feed (node : Node Core) (frame : Bytes) : Node Core × List Event :=
  let outcome := handleReceivedFragment crypto (some handle) node frame
  (outcome.node, outcome.events)

variable {crypto handle} {node : Node Core} {pill : ActionPill} {messageId : MessageId}
  {frame : Bytes}

/-- The pill was handed over once, with its id in the cache, and everything else
that happened is the handler's. -/
def HandedOver (handle : ActionPillHandler Core) (node : Node Core) (pill : ActionPill)
    (messageId : MessageId) (outcome : Node Core × List Event) : Prop :=
  ∃ slots, outcome =
    let entered : Node Core := ⟨⟨node.g2g.seenCache.add messageId, slots⟩, node.core⟩
    ((handle pill entered).node, .handled pill :: (handle pill entered).events)

theorem feed_stored {slots : Fin g2gRxSlots → RxSlot}
    (stored : node.g2g.receive frame = (.stored, ⟨node.g2g.seenCache, slots⟩)) :
    feed crypto handle node frame = ({ node with g2g := ⟨node.g2g.seenCache, slots⟩ }, []) := by
  simp only [feed, handleReceivedFragment, stored]

theorem feed_complete {slots : Fin g2gRxSlots → RxSlot}
    (completed : node.g2g.receive frame =
      (.complete messageId (ActionPill.layout.encode pill), ⟨node.g2g.seenCache, slots⟩))
    (unseen : messageId ∉ node.g2g.seenCache.recent)
    (digest : computeInnerId crypto pill = .ok messageId) :
    HandedOver handle node pill messageId (feed crypto handle node frame) := by
  have sized : (ActionPill.layout.encode pill).length = actionPillSize :=
    ActionPill.layout.encode_length pill
  have fresh : ¬ node.g2g.seenCache.contains messageId = true := by
    rw [Ring.contains_iff_recent]
    exact unseen
  refine ⟨slots, ?_⟩
  simp [feed, handleReceivedFragment, completed, handleReceivedActionPillBytes,
    G2g.acceptActionPillBytes, sized, ActionPill.layout.decode_encode, digest, Ring.seenOrAdd,
    fresh]

/-- The frames that are still missing, in any order. -/
theorem feed_missing (digest : computeInnerId crypto pill = .ok messageId) {rest : List Nat}
    {received : Finset Nat}
    (gathering : Gathering node.g2g.rxSlots messageId (ActionPill.layout.encode pill) received)
    (partly : (∃ index, (node.g2g.rxSlots index).inUse = false) ∨ received ≠ ∅)
    (unseen : messageId ∉ node.g2g.seenCache.recent) (once : rest.Nodup) (pending : rest ≠ [])
    (missing : ∀ index, index ∈ rest ↔ index < 3 ∧ index ∉ received)
    (within : received ⊆ Finset.range 3) :
    HandedOver handle node pill messageId
      (EventMachine.run (feed crypto handle) node (rest.map (pillFrame pill messageId))) := by
  induction rest generalizing node received with
  | nil => exact absurd rfl pending
  | cons index rest induction =>
      obtain ⟨inside, absent⟩ := (missing index).mp List.mem_cons_self
      have three := pill_fragment_count pill
      have receive := gathering.receive (pill_sendable pill) partly unseen (three.symm ▸ inside)
      rw [three, message_frame_pill] at receive
      obtain ⟨-, last, more⟩ := receive
      have others : ∀ other, other ∈ rest ↔ other < 3 ∧ other ∉ insert index received := by
        intro other
        have listed := missing other
        rw [List.mem_cons] at listed
        rw [Finset.mem_insert, not_or]
        constructor
        · intro member
          have apart : other ≠ index := fun same => (List.nodup_cons.mp once).1 (same ▸ member)
          have both := listed.mp (Or.inr member)
          exact ⟨both.1, apart, both.2⟩
        · intro both
          exact (listed.mpr ⟨both.1, both.2.2⟩).resolve_left both.2.1
      rw [List.map_cons, EventMachine.run_cons]
      by_cases whole : insert index received = Finset.range 3
      · obtain ⟨target, -, completed⟩ := last absent whole
        have ended : rest = [] := by
          apply List.eq_nil_iff_forall_not_mem.mpr
          intro other member
          have both := (others other).mp member
          rw [whole, Finset.mem_range] at both
          exact both.2 both.1
        rw [ended, List.map_nil, EventMachine.run_nil, List.append_nil]
        exact feed_complete completed unseen digest
      · obtain ⟨target, next, isTarget, gathers, stored⟩ := more absent whole
        have grown : insert index received ⊆ Finset.range 3 :=
          Finset.insert_subset (Finset.mem_range.mpr inside) within
        have still : rest ≠ [] := by
          intro empty
          apply whole
          apply Finset.Subset.antisymm grown
          intro other member
          by_contra outside
          have listed := (others other).mpr ⟨Finset.mem_range.mp member, outside⟩
          rw [empty] at listed
          exact absurd listed List.not_mem_nil
        have later := @induction
          { node with g2g := ⟨node.g2g.seenCache, Function.update node.g2g.rxSlots target next⟩ }
          (insert index received) (isTarget.gathering (Finset.insert_ne_empty _ _) gathers)
          (Or.inr (Finset.insert_ne_empty _ _)) unseen (List.nodup_cons.mp once).2 still others
          grown
        rw [feed_stored stored, List.nil_append]
        exact later

/-- A first frame finds a free slot, or one is made free. -/
theorem feed_make_room (absent : ∀ index, ¬ (node.g2g.rxSlots index).HeldFor messageId)
    (unseen : messageId ∉ node.g2g.seenCache.recent) {index : Nat} (inside : index < 3) :
    feed crypto handle node (pillFrame pill messageId index) =
      feed crypto handle { node with g2g := { node.g2g with rxSlots := makeRoom node.g2g.rxSlots } }
        (pillFrame pill messageId index) := by
  have same := receive_make_room (pill_sendable pill)
    (by rw [pill_fragment_count]; exact inside) absent unseen
  rw [message_frame_pill] at same
  simp only [feed, handleReceivedFragment, same]

end Feeding

theorem send_action_pill_bytes_sent {crypto : Crypto} {pill : ActionPill} {messageId : MessageId}
    (digest : computeInnerId crypto pill = .ok messageId) (ble : G2gBle) (sender : G2g) :
    ((sendActionPillBytes ble sender (ActionPill.layout.encode pill) messageId).1.result = .ok () ↔
      ble.takes 3 = true) ∧
    (ble.takes 3 = true →
      (sendActionPillBytes ble sender (ActionPill.layout.encode pill) messageId).1.sent =
        pillFrames pill messageId) := by
  have unfolded : sendActionPill crypto ble sender pill =
      sendActionPillBytes ble sender (ActionPill.layout.encode pill) messageId := by
    rw [sendActionPill, digest]
  obtain ⟨taken, -, -, whole⟩ := send_action_pill_spec digest ble sender
  rw [unfolded] at taken whole
  exact ⟨taken, whole⟩

/-- From every state, the frames of a pill that is neither seen nor held, as the
sender queues them, reach the handler in every order: the handler is called
once, with that pill. -/
theorem stale_slots_do_not_block {Core : Type} (crypto : Crypto)
    (handle : ActionPillHandler Core) (node : Node Core) (pill : ActionPill)
    (messageId : MessageId) (digest : computeInnerId crypto pill = .ok messageId)
    (unseen : messageId ∉ node.g2g.seenCache.recent)
    (absent : ∀ index, ¬ (node.g2g.rxSlots index).HeldFor messageId) (ble : G2gBle) (sender : G2g)
    (sent : (sendActionPillBytes ble sender (ActionPill.layout.encode pill)
      messageId).1.result = .ok ()) (frames : List Bytes)
    (order : frames.Perm (sendActionPillBytes ble sender (ActionPill.layout.encode pill)
      messageId).1.sent) :
    HandedOver handle node pill messageId
      (EventMachine.run (feed crypto handle) node frames) := by
  obtain ⟨taken, whole⟩ := send_action_pill_bytes_sent digest ble sender
  rw [whole (taken.mp sent)] at order
  have arranged : ∃ indices : List Nat, frames = indices.map (pillFrame pill messageId) ∧
      indices.Perm (List.range 3) := by
    have composed := congrFun (congrFun (List.eq_map_comp_perm (pillFrame pill messageId)) frames)
      (List.range 3)
    exact composed.mpr order
  obtain ⟨indices, rfl, permuted⟩ := arranged
  have once : indices.Nodup := permuted.nodup_iff.mpr List.nodup_range
  have missing : ∀ index, index ∈ indices ↔ index < 3 ∧ index ∉ (∅ : Finset Nat) := by
    intro index
    rw [permuted.mem_iff, List.mem_range]
    simp
  cases indices with
  | nil => exact absurd permuted.length_eq (by decide)
  | cons first rest =>
      have inside := ((missing first).mp List.mem_cons_self).1
      have start := @feed_missing Core crypto handle
        { node with g2g := { node.g2g with rxSlots := makeRoom node.g2g.rxSlots } } pill messageId
        digest (first :: rest) ∅ (Or.inl ⟨rfl, make_room_absent absent⟩)
        (Or.inl (make_room_free _)) unseen once (List.cons_ne_nil _ _) missing
        (Finset.empty_subset _)
      rw [List.map_cons, EventMachine.run_cons] at start ⊢
      rw [feed_make_room absent unseen inside]
      exact start

def staleFrame (filler : UInt8) : Bytes :=
  WireHeader.layout.encode ⟨wireVersion, wireTypeActionPill, List.Vector.replicate 2 0, 2, 0, 0, 2,
    1, List.Vector.replicate 32 filler⟩ ++ [7]

def quietHandler : ActionPillHandler Unit := fun _ node => ⟨.ok (), node, []⟩

def crowdedNode : Node Unit :=
  (EventMachine.run (feed benchCrypto quietHandler) ⟨G2g.boot, ()⟩
    ([1, 2, 3, 4].map staleFrame)).1

def idleBle : G2gBle := ⟨true, [], fun _ => 0⟩

/-- Four stale messages hold the slots; the lamp's pill passes, last frame first. -/
theorem lamp_pill_passes_stale_slots :
    (∀ index, (crowdedNode.g2g.rxSlots index).inUse = true) ∧
    HandedOver quietHandler crowdedNode lampPill lampBuild.messageId
      (EventMachine.run (feed benchCrypto quietHandler) crowdedNode
        (sendActionPillBytes idleBle .boot (ActionPill.layout.encode lampPill)
          lampBuild.messageId).1.sent.reverse) := by
  have sent := (send_action_pill_bytes_sent lamp_pill_digest idleBle .boot).1.mpr (by decide)
  have held : ∀ index, (crowdedNode.g2g.rxSlots index).inUse = true ∧
      (crowdedNode.g2g.rxSlots index).messageId ≠ lampBuild.messageId := by
    decide +kernel
  have unseen : lampBuild.messageId ∉ crowdedNode.g2g.seenCache.recent := by
    decide +kernel
  exact ⟨fun index => (held index).1,
    stale_slots_do_not_block benchCrypto quietHandler crowdedNode lampPill lampBuild.messageId
      lamp_pill_digest unseen (fun index both => (held index).2 both.2) idleBle .boot sent _
      (List.reverse_perm _)⟩

end BlindNet
