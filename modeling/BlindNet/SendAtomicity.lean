import BlindNet.Interop
import BlindNet.Reassembly

/-!
# A send that fails halfway

The fragments of a message are queued one by one, and the first refusal ends the
send. What was queued before stays queued. A failed send has queued nothing
exactly when the transport takes all fragments or refuses the first.
-/

namespace BlindNet

set_option autoImplicit false

open ByteLayout RecencyRing

theorem send_fragment_cases (ble : G2gBle) (bytes : Bytes) :
    (∃ err, ble.sendFragment bytes = (.error err, ble)) ∨
      ble.sendFragment bytes = (.ok (), { ble with txQueue := ble.txQueue ++ [bytes] }) := by
  unfold G2gBle.sendFragment
  split_ifs
  · exact Or.inl ⟨_, rfl⟩
  · exact Or.inl ⟨_, rfl⟩
  · exact Or.inl ⟨_, rfl⟩
  · exact Or.inr rfl

section Queue

variable {bytes : Bytes} {messageId : MessageId}

theorem drop_before_append {Item : Type} (items later : List Item) (count : Nat) :
    ∃ gone, items.drop count ++ later = (items ++ later).drop gone := by
  by_cases inside : count ≤ items.length
  · exact ⟨count, (List.drop_append_of_le_length inside).symm⟩
  · refine ⟨items.length, ?_⟩
    rw [List.drop_eq_nil_of_le (by omega), List.drop_left, List.nil_append]

/-- What the loop queued is at the end of the queue, as far as the transmit task
has not taken it out again. -/
theorem send_fragments_queued (fragCount : Nat) (indices : List Nat) (ble : G2gBle) :
    ∃ gone, (sendFragments bytes messageId fragCount ble indices).ble.txQueue =
      (ble.txQueue ++ (sendFragments bytes messageId fragCount ble indices).sent).drop gone := by
  induction indices generalizing ble with
  | nil => exact ⟨0, by simp [sendFragments]⟩
  | cons index rest induction =>
      cases built : buildFrame bytes messageId fragCount index with
      | error err => exact ⟨0, by simp [sendFragments, built]⟩
      | ok frame =>
          rcases send_fragment_cases (ble.drain index) frame with ⟨err, refused⟩ | taken
          · refine ⟨ble.drained index, ?_⟩
            simp only [sendFragments, built, refused, List.append_nil]
            rfl
          · obtain ⟨later, queue⟩ := induction
              { ble.drain index with txQueue := (ble.drain index).txQueue ++ [frame] }
            obtain ⟨gone, joined⟩ := drop_before_append ble.txQueue
              (frame :: (sendFragments bytes messageId fragCount
                { ble.drain index with txQueue := (ble.drain index).txQueue ++ [frame] }
                rest).sent) (ble.drained index)
            refine ⟨gone + later, ?_⟩
            simp only [sendFragments, built, taken]
            rw [queue, ← List.drop_drop, ← joined, List.append_assoc]
            rfl

/-- A failed send has queued nothing, and the seen cache is as before. -/
def WholeOrNothing (ble : G2gBle) (g2g : G2g) (bytes : Bytes) (messageId : MessageId) : Prop :=
  ∀ err, (sendActionPillBytes ble g2g bytes messageId).1.result = .error err →
    (sendActionPillBytes ble g2g bytes messageId).1.sent = [] ∧
      (sendActionPillBytes ble g2g bytes messageId).2 = g2g

theorem send_action_pill_bytes_sendable (sendable : Sendable bytes) (ble : G2gBle) (g2g : G2g) :
    sendActionPillBytes ble g2g bytes messageId =
      let outcome := sendFragments bytes messageId (fragmentCount bytes.length) ble
        (List.range (fragmentCount bytes.length))
      match outcome.result with
      | .error _ => (outcome, g2g)
      | .ok () => (outcome, { g2g with seenCache := g2g.seenCache.add messageId }) := by
  have few := fragment_count_le sendable
  have filled := List.length_pos_of_ne_nil sendable.nonempty
  have ceiling : fragmentCount bytes.length = (bytes.length + 173) / 174 := rfl
  have sized : ¬ (bytes = [] ∨ g2gActionPillMaxLen < bytes.length) :=
    not_or.mpr ⟨sendable.nonempty, Nat.not_lt.mpr sendable.short⟩
  have counted : ¬ (fragmentCount bytes.length = 0 ∨
      wireFragmentMaxCount < fragmentCount bytes.length) := by
    simp only [wireFragmentMaxCount]
    omega
  unfold sendActionPillBytes
  exact (if_neg sized).trans (if_neg counted)

theorem fragment_indices (sendable : Sendable bytes) :
    ∃ rest, 0 < fragmentCount bytes.length ∧
      List.range (fragmentCount bytes.length) = 0 :: rest := by
  have filled := List.length_pos_of_ne_nil sendable.nonempty
  have ceiling : fragmentCount bytes.length = (bytes.length + 173) / 174 := rfl
  obtain ⟨more, count⟩ : ∃ more, fragmentCount bytes.length = more + 1 :=
    ⟨fragmentCount bytes.length - 1, by omega⟩
  exact ⟨_, by omega, by rw [count, List.range_succ_eq_map]⟩

theorem send_fragments_accepted_iff (sendable : Sendable bytes) (ble : G2gBle) :
    (sendFragments bytes messageId (fragmentCount bytes.length) ble
      (List.range (fragmentCount bytes.length))).result = .ok () ↔
        ble.takes (fragmentCount bytes.length) = true := by
  have few : fragmentCount bytes.length ≤ wireFragmentMaxCount :=
    le_trans (fragment_count_le sendable) (by decide)
  by_cases running : ble.running = true
  · have spec := @send_fragments_spec bytes messageId (fragmentCount bytes.length) sendable.short
      few (List.range (fragmentCount bytes.length)) (fun _ => List.mem_range.mp) ble running
    rw [spec.1, G2gBle.takes, running, Bool.true_and]
  · obtain ⟨rest, positive, indices⟩ := fragment_indices sendable
    rw [indices, send_fragments_stopped sendable.short few positive rest running, G2gBle.takes,
      Bool.eq_false_iff.mpr running]
    simp

theorem send_fragments_begun_iff (sendable : Sendable bytes) (ble : G2gBle) :
    (sendFragments bytes messageId (fragmentCount bytes.length) ble
      (List.range (fragmentCount bytes.length))).sent ≠ [] ↔ ble.takes 1 = true := by
  have few : fragmentCount bytes.length ≤ wireFragmentMaxCount :=
    le_trans (fragment_count_le sendable) (by decide)
  obtain ⟨rest, positive, indices⟩ := fragment_indices sendable
  rw [indices, send_fragments_starts sendable.short few positive rest ble, takes_first]

end Queue

/-- A send is all or nothing if and only if the transport takes every fragment or
not even the first; a message that cannot be sent at all is refused before the
loop. -/
theorem sending_all_or_nothing_iff (ble : G2gBle) (g2g : G2g) (bytes : Bytes)
    (messageId : MessageId) :
    WholeOrNothing ble g2g bytes messageId ↔
      (Sendable bytes → ble.takes 1 = true → ble.takes (fragmentCount bytes.length) = true) := by
  by_cases sendable : Sendable bytes
  · have accepted := @send_fragments_accepted_iff bytes messageId sendable ble
    have begun := @send_fragments_begun_iff bytes messageId sendable ble
    rw [WholeOrNothing, send_action_pill_bytes_sendable sendable, ← accepted, ← begun]
    dsimp only
    cases result : (sendFragments bytes messageId (fragmentCount bytes.length) ble
        (List.range (fragmentCount bytes.length))).result with
    | ok => simp [result, sendable]
    | error err => simp [result, sendable]
  · have refused : sendActionPillBytes ble g2g bytes messageId =
        (⟨.error .invalidSize, ble, []⟩, g2g) := by
      have sized : bytes = [] ∨ g2gActionPillMaxLen < bytes.length := by
        by_contra wrong
        obtain ⟨filled, short⟩ := not_or.mp wrong
        exact sendable ⟨filled, Nat.not_lt.mp short⟩
      rw [sendActionPillBytes, if_pos sized]
    constructor
    · intro _ possible
      exact absurd possible sendable
    · intro _ err _
      rw [refused]
      exact ⟨rfl, rfl⟩

def halfFullBle : G2gBle := ⟨true, [[1], [2]], fun _ => 0⟩

/-- Two fragments of the lamp's pill are queued, the third is refused. -/
theorem lamp_pill_half_sent :
    (sendActionPillBytes halfFullBle .boot (ActionPill.layout.encode lampPill)
      lampBuild.messageId).1.result = .error .noMem ∧
    (sendActionPillBytes halfFullBle .boot (ActionPill.layout.encode lampPill)
      lampBuild.messageId).1.sent =
        [pillFrame lampPill lampBuild.messageId 0, pillFrame lampPill lampBuild.messageId 1] ∧
    (sendActionPillBytes halfFullBle .boot (ActionPill.layout.encode lampPill)
      lampBuild.messageId).1.ble.txQueue =
        [[1], [2], pillFrame lampPill lampBuild.messageId 0,
          pillFrame lampPill lampBuild.messageId 1] ∧
    ¬ WholeOrNothing halfFullBle .boot (ActionPill.layout.encode lampPill) lampBuild.messageId := by
  have queue : (sendActionPillBytes halfFullBle .boot (ActionPill.layout.encode lampPill)
      lampBuild.messageId).1.ble.txQueue =
        [[1], [2], pillFrame lampPill lampBuild.messageId 0,
          pillFrame lampPill lampBuild.messageId 1] := by
    decide +kernel
  have sent : (sendActionPillBytes halfFullBle .boot (ActionPill.layout.encode lampPill)
      lampBuild.messageId).1.sent =
        [pillFrame lampPill lampBuild.messageId 0, pillFrame lampPill lampBuild.messageId 1] := by
    decide +kernel
  have failed : (sendActionPillBytes halfFullBle .boot (ActionPill.layout.encode lampPill)
      lampBuild.messageId).1.result = .error .noMem := by
    decide +kernel
  refine ⟨failed, sent, queue, ?_⟩
  intro whole
  have nothing := (whole .noMem failed).1
  rw [sent] at nothing
  exact absurd nothing (List.cons_ne_nil _ _)

end BlindNet
