import BlindNet.SlotTrace

/-!
# The slots between two calls

Whatever frames arrive and whatever the handlers do, a slot in use belongs to
one message, has the shape its first fragment gave it, holds some but not all of
the fragments, and was opened while its message was not in the seen cache.
-/

namespace BlindNet

set_option autoImplicit false

open ByteLayout RecencyRing Patchwork Bounds

structure RxSlot.Waiting (slot : RxSlot) : Prop where
  total_pos : 0 < slot.totalLen
  total_le : slot.totalLen ≤ g2gActionPillMaxLen
  count_pos : 0 < slot.fragCount
  count_le : slot.fragCount ≤ wireFragmentMaxCount
  begun : BitMask.indices slot.receivedMask ≠ ∅
  unfinished : BitMask.indices slot.receivedMask ⊂ Finset.range slot.fragCount

structure SlotsConsistent (slots : Fin g2gRxSlots → RxSlot) : Prop where
  waiting : ∀ index, (slots index).inUse = true → (slots index).Waiting
  distinct : ∀ first second, (slots first).inUse = true → (slots second).inUse = true →
    (slots first).messageId = (slots second).messageId → first = second

def SlotEvent.Opens (index : Fin g2gRxSlots) : SlotEvent → Prop
  | .opened other _ _ => other = index
  | _ => False

/-- When the slot was opened for the last time, it was for this message, and the
message was not among the seen ones. -/
def OpenedUnseen (index : Fin g2gRxSlots) (messageId : MessageId) (history : List SlotEvent) :
    Prop :=
  ∃ before seen after, history = before ++ .opened index messageId seen :: after ∧
    messageId ∉ seen ∧ ∀ event ∈ after, ¬ event.Opens index

section Opening

variable {index : Fin g2gRxSlots} {messageId : MessageId} {history events : List SlotEvent}

theorem OpenedUnseen.append (opened : OpenedUnseen index messageId history)
    (others : ∀ event ∈ events, ¬ event.Opens index) :
    OpenedUnseen index messageId (history ++ events) := by
  obtain ⟨before, seen, after, split, unseen, last⟩ := opened
  refine ⟨before, seen, after ++ events, by rw [split]; simp, unseen, ?_⟩
  intro event member
  rcases List.mem_append.mp member with earlier | later
  · exact last event earlier
  · exact others event later

variable {g2g : G2g} {header : WireHeader} {slot : RxSlot} {opening : List SlotEvent}

theorem G2g.Current.heldFor (current : g2g.Current header index slot opening) :
    slot.HeldFor header.messageId := by
  cases current with
  | held holder => exact holder
  | opened absent => exact ⟨rfl, rfl⟩

theorem G2g.Current.only (current : g2g.Current header index slot opening)
    (consistent : SlotsConsistent g2g.rxSlots) {other : Fin g2gRxSlots}
    (held : (g2g.rxSlots other).HeldFor header.messageId) : other = index := by
  cases current with
  | held holder =>
      exact consistent.distinct other index held.1 holder.1 (held.2.trans holder.2.symm)
  | opened absent => exact absurd held (absent other)

theorem G2g.Current.mask (current : g2g.Current header index slot opening)
    (consistent : SlotsConsistent g2g.rxSlots) :
    BitMask.indices slot.receivedMask ⊆ Finset.range slot.fragCount := by
  cases current with
  | held holder => exact (consistent.waiting index holder.1).unfinished.subset
  | opened absent =>
      change BitMask.indices (BitVec.ofNat 32 0) ⊆ _
      rw [BitMask.indices_zero]
      exact Finset.empty_subset _

theorem G2g.Current.opens (current : g2g.Current header index slot opening)
    {other : Fin g2gRxSlots} (different : other ≠ index) :
    ∀ event ∈ opening, ¬ event.Opens other := by
  cases current with
  | held holder =>
      intro event member
      exact absurd member List.not_mem_nil
  | opened absent =>
      intro event member
      rw [List.mem_singleton] at member
      rw [member]
      exact fun same => different same.symm

theorem G2g.Current.filled (current : g2g.Current header index slot opening)
    (consistent : SlotsConsistent g2g.rxSlots) {bytes : Bytes}
    (admissible : header.Admissible bytes) (takes : slot.Takes header)
    (more : insert header.fragIndex.toNat (BitMask.indices slot.receivedMask) ≠
      Finset.range slot.fragCount) (payload : Bytes) :
    (slot.filled header payload).Waiting := by
  have few : header.fragCount.toNat ≤ 32 := admissible.count_le
  have position := admissible.index_lt
  have mask : BitMask.indices (slot.filled header payload).receivedMask =
      insert header.fragIndex.toNat (BitMask.indices slot.receivedMask) :=
    BitMask.indices_or_bit _ (by omega)
  have inside : insert header.fragIndex.toNat (BitMask.indices slot.receivedMask) ⊆
      Finset.range slot.fragCount := by
    apply Finset.insert_subset
    · rw [Finset.mem_range, takes.fragCount]
      exact position
    · exact current.mask consistent
  have total : (slot.filled header payload).totalLen = header.totalLen.toNat := takes.totalLen
  have count : (slot.filled header payload).fragCount = header.fragCount.toNat := takes.fragCount
  constructor
  · rw [total]
    exact admissible.total_pos
  · rw [total]
    exact admissible.total_le
  · rw [count]
    exact admissible.count_pos
  · rw [count]
    exact admissible.count_le
  · rw [mask]
    exact Finset.insert_ne_empty _ _
  · rw [mask]
    exact Finset.ssubset_iff_subset_ne.mpr ⟨inside, more⟩

end Opening

/-- What holds of the slots after some frames, with what happened to them. -/
structure SlotsOpened (slots : Fin g2gRxSlots → RxSlot) (history : List SlotEvent) : Prop where
  consistent : SlotsConsistent slots
  opened : ∀ index, (slots index).inUse = true →
    OpenedUnseen index (slots index).messageId history

section Step

variable {g2g : G2g} {history : List SlotEvent} {index : Fin g2gRxSlots}

theorem cleared_in_use {slots : Fin g2gRxSlots → RxSlot} {other : Fin g2gRxSlots}
    (busy : (Function.update slots index RxSlot.empty other).inUse = true) :
    Function.update slots index RxSlot.empty other = slots other := by
  apply Function.update_of_ne
  intro same
  rw [same, Function.update_self] at busy
  exact absurd busy (by decide)

theorem SlotsOpened.clear {slots : Fin g2gRxSlots → RxSlot} (opened : SlotsOpened slots history)
    (index : Fin g2gRxSlots) {events : List SlotEvent}
    (others : ∀ other, other ≠ index → ∀ event ∈ events, ¬ event.Opens other) :
    SlotsOpened (Function.update slots index RxSlot.empty) (history ++ events) := by
  constructor
  · constructor
    · intro other busy
      have same := cleared_in_use busy
      rw [same] at busy ⊢
      exact opened.consistent.waiting other busy
    · intro first second firstBusy secondBusy
      have sameFirst := cleared_in_use firstBusy
      have sameSecond := cleared_in_use secondBusy
      rw [sameFirst] at firstBusy ⊢
      rw [sameSecond] at secondBusy ⊢
      exact opened.consistent.distinct first second firstBusy secondBusy
  · intro other busy
    have different : other ≠ index := by
      intro same
      rw [same, Function.update_self] at busy
      exact absurd busy Bool.false_ne_true
    have same := cleared_in_use busy
    rw [same] at busy ⊢
    exact (opened.opened other busy).append (others other different)

/-- Writing the slot of a message keeps the messages of the slots apart. -/
theorem SlotsConsistent.write (consistent : SlotsConsistent g2g.rxSlots) {header : WireHeader}
    {slot next : RxSlot} {opening : List SlotEvent}
    (current : g2g.Current header index slot opening) (named : next.messageId = header.messageId)
    (waiting : next.Waiting) :
    SlotsConsistent (Function.update g2g.rxSlots index next) := by
  constructor
  · intro other busy
    by_cases here : other = index
    · rw [here, Function.update_self]
      exact waiting
    · rw [Function.update_of_ne here] at busy ⊢
      exact consistent.waiting other busy
  · intro first second firstBusy secondBusy same
    by_cases here : first = index
    · by_cases there : second = index
      · rw [here, there]
      · rw [here, Function.update_self, Function.update_of_ne there, named] at same
        rw [Function.update_of_ne there] at secondBusy
        rw [here, current.only consistent ⟨secondBusy, same.symm⟩]
    · by_cases there : second = index
      · rw [there, Function.update_self, Function.update_of_ne here, named] at same
        rw [Function.update_of_ne here] at firstBusy
        rw [there, current.only consistent ⟨firstBusy, same⟩]
      · rw [Function.update_of_ne here] at firstBusy same
        rw [Function.update_of_ne there] at secondBusy same
        exact consistent.distinct first second firstBusy secondBusy same

theorem G2g.Current.opened_unseen {header : WireHeader} {slot : RxSlot}
    {opening : List SlotEvent} (current : g2g.Current header index slot opening)
    (unseen : header.messageId ∉ g2g.seenCache.recent)
    (opened : SlotsOpened g2g.rxSlots history) :
    OpenedUnseen index header.messageId (history ++ opening) := by
  cases current with
  | held holder =>
      have before := opened.opened index holder.1
      rwa [holder.2, ← List.append_nil history] at before
  | opened absent => exact ⟨history, _, [], rfl, unseen, by simp⟩

theorem slots_opened_step (history : List SlotEvent) {bytes : Bytes} {later : G2g}
    {events : List SlotEvent} (opened : SlotsOpened g2g.rxSlots history)
    (step : g2g.FragmentStep bytes later events) :
    SlotsOpened later.rxSlots (history ++ events) := by
  cases step with
  | ignored =>
      rw [List.append_nil]
      exact opened
  | dropped index =>
      apply opened.clear index
      intro other _ event member
      exact absurd member List.not_mem_nil
  | completed header index slot opening admissible unseen current takes =>
      apply opened.clear index
      intro other different event member
      rcases List.mem_append.mp member with opens | taken
      · exact current.opens different event opens
      · rcases List.mem_pair.mp taken with rfl | rfl
        · exact id
        · exact id
  | stored header index slot opening admissible unseen current takes more =>
      have quiet : ∀ other, ∀ event ∈ [SlotEvent.accepted header.messageId
          (takenFragment header bytes)], ¬ event.Opens other := by
        intro other event member
        rw [List.mem_singleton.mp member]
        exact id
      have named : (slot.filled header (bytes.drop wireHeaderLen)).messageId =
          header.messageId := current.heldFor.2
      constructor
      · exact opened.consistent.write current named
          (current.filled opened.consistent admissible takes more _)
      · intro other busy
        rw [← List.append_assoc]
        by_cases here : other = index
        · change OpenedUnseen other (Function.update g2g.rxSlots index _ other).messageId _
          rw [here, Function.update_self, named]
          exact (current.opened_unseen unseen opened).append (quiet index)
        · change OpenedUnseen other (Function.update g2g.rxSlots index _ other).messageId _
          change (Function.update g2g.rxSlots index _ other).inUse = true at busy
          rw [Function.update_of_ne here] at busy ⊢
          exact ((opened.opened other busy).append (current.opens here)).append (quiet other)

end Step

theorem slots_opened_boot : SlotsOpened G2g.boot.rxSlots [] := by
  constructor
  · constructor
    · intro index busy
      exact absurd busy Bool.false_ne_true
    · intro first second busy
      exact absurd busy Bool.false_ne_true
  · intro index busy
    exact absurd busy Bool.false_ne_true

/-- For every state and all bytes no access of the fragment handler leaves its
range; and after any frames, with any handlers, the slots are consistent and
each one in use was opened for a message that was not in the seen cache. -/
theorem fragment_decoder_consistent {Core : Type} (crypto : Crypto) (core : Core)
    (arrivals : List (Arrival Core)) :
    (∀ (g2g : G2g) bytes, g2g.receiveChecked bytes = .ok (g2g.receive bytes) ∧
      ∀ messageId, ∃ added, addSeenChecked g2g.seenCache messageId = .ok added) ∧
    SlotsConsistent
      (EventMachine.run (arriveFrame crypto) ⟨G2g.boot, core⟩ arrivals).1.g2g.rxSlots ∧
    ∀ index, ((EventMachine.run (arriveFrame crypto) ⟨G2g.boot, core⟩
        arrivals).1.g2g.rxSlots index).inUse = true →
      OpenedUnseen index ((EventMachine.run (arriveFrame crypto) ⟨G2g.boot, core⟩
        arrivals).1.g2g.rxSlots index).messageId
        (EventMachine.run (arriveFrame crypto) ⟨G2g.boot, core⟩ arrivals).2 := by
  have opened : SlotsOpened
      (EventMachine.run (arriveFrame crypto) ⟨G2g.boot, core⟩ arrivals).1.g2g.rxSlots
      (EventMachine.run (arriveFrame crypto) ⟨G2g.boot, core⟩ arrivals).2 := by
    apply slots_history SlotsOpened
    · intro slots history before index busy
      exact Nat.pos_iff_ne_zero.mp (before.consistent.waiting index busy).total_pos
    · intro g2g history bytes later events before step
      exact slots_opened_step history before step
    · exact slots_opened_boot
  refine ⟨?_, opened.consistent, opened.opened⟩
  intro g2g bytes
  exact ⟨receive_checked_ok g2g bytes, fun messageId => ⟨_, add_seen_checked_ok _ messageId⟩⟩

end BlindNet
