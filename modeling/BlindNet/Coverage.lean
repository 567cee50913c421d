import BlindNet.Interop
import BlindNet.SlotConsistency

/-!
# What a completed message consists of

A message is complete when each of its fragment indices was received; the
offsets and lengths of the fragments are the sender's. The bytes handed on are
those of the fragments written one over the other, with zeros where none was
written. Every byte comes from exactly one fragment if and only if the fragments
do not meet and are together as long as the message.
-/

namespace BlindNet

set_option autoImplicit false

open ByteLayout RecencyRing Patchwork

/-- The fragments of a message that were accepted since its slot was opened. -/
def sinceOpened (messageId : MessageId) (history : List SlotEvent) : List (Patch UInt8) :=
  history.foldl
    (fun fragments event =>
      match event with
      | .opened _ other _ => if other = messageId then [] else fragments
      | .accepted other fragment =>
          if other = messageId then fragments ++ [fragment] else fragments
      | .completed _ _ => fragments)
    []

/-- Every byte of the message was written by exactly one of the fragments. -/
def CoveredOnce (message : Bytes) (fragments : List (Patch UInt8)) : Prop :=
  ∀ position < message.length, ∃ fragment,
    covering fragments position = [fragment] ∧ message[position]? = fragment.value? position

def blankBlock (position : Nat) : Option UInt8 :=
  RxSlot.empty.bytes.toList[position]?

def SlotEvent.messageId : SlotEvent → MessageId
  | .opened _ messageId _ => messageId
  | .accepted messageId _ => messageId
  | .completed messageId _ => messageId

section History

variable {messageId : MessageId} {history events : List SlotEvent}

theorem since_opened_accepted (messageId : MessageId) (history : List SlotEvent)
    (fragment : Patch UInt8) :
    sinceOpened messageId (history ++ [.accepted messageId fragment]) =
      sinceOpened messageId history ++ [fragment] := by
  rw [sinceOpened, List.foldl_append]
  exact if_pos rfl

theorem since_opened_opened (messageId : MessageId) (history : List SlotEvent)
    (index : Fin g2gRxSlots) (seen : List MessageId) :
    sinceOpened messageId (history ++ [.opened index messageId seen]) = [] := by
  rw [sinceOpened, List.foldl_append]
  exact if_pos rfl

theorem since_opened_other (foreign : ∀ event ∈ events, event.messageId ≠ messageId) :
    sinceOpened messageId (history ++ events) = sinceOpened messageId history := by
  induction events using List.reverseRecOn with
  | nil => rw [List.append_nil]
  | append_singleton events last induction =>
      have before := induction fun event member =>
        foreign event (List.mem_append_left _ member)
      have different := foreign last (List.mem_append_right _ List.mem_cons_self)
      rw [← List.append_assoc, sinceOpened, List.foldl_append]
      change (match last with
        | .opened _ other _ => if other = messageId then [] else sinceOpened messageId _
        | .accepted other fragment =>
            if other = messageId then sinceOpened messageId _ ++ [fragment]
            else sinceOpened messageId _
        | .completed _ _ => sinceOpened messageId _) = _
      cases last with
      | opened index other seen => rw [← before]; exact if_neg different
      | accepted other fragment => rw [← before]; exact if_neg different
      | completed other message => exact before

theorem split_append {Item : Type} {first second before after : List Item} {item : Item}
    (split : first ++ second = before ++ item :: after) :
    (∃ rest, first = before ++ item :: rest) ∨
      ∃ front, before = first ++ front ∧ second = front ++ item :: after := by
  rcases List.append_eq_append_iff.mp split with ⟨front, early, late⟩ | ⟨rest, early, late⟩
  · exact Or.inr ⟨front, early, late⟩
  · cases rest with
    | nil => exact Or.inr ⟨[], by simpa using early.symm, by simpa using late.symm⟩
    | cons head rest =>
        have same : item = head := (List.cons.inj late).1
        exact Or.inl ⟨rest, by rw [early, same]⟩

end History

/-- The message is what the fragments left in a cleared block. -/
structure Assembled (message : Bytes) (fragments : List (Patch UInt8)) : Prop where
  inside : ∀ fragment ∈ fragments, fragment.Inside message.length
  bytes : ∀ position < message.length, message[position]? = patched blankBlock fragments position

theorem Assembled.covered_iff {message : Bytes} {fragments : List (Patch UInt8)}
    (assembled : Assembled message fragments) :
    CoveredOnce message fragments ↔ Tiles message.length fragments := by
  rw [← covered_once_iff_tiles assembled.inside]
  constructor
  · intro covered position bound
    obtain ⟨fragment, once, -⟩ := covered position bound
    rw [once]
    rfl
  · intro once position bound
    obtain ⟨fragment, single⟩ := List.length_eq_one_iff.mp (once position bound)
    refine ⟨fragment, single, ?_⟩
    rw [assembled.bytes position bound, patched_covered_once single]

structure RxSlot.Holds (slot : RxSlot) (fragments : List (Patch UInt8)) : Prop where
  inside : ∀ fragment ∈ fragments, fragment.Inside slot.totalLen
  bytes : ∀ position, slot.bytes.toList[position]? = patched blankBlock fragments position

/-- A slot in use holds what its fragments left, and every completed message was
assembled from its own. -/
structure SlotsCovered (slots : Fin g2gRxSlots → RxSlot) (history : List SlotEvent) : Prop where
  opened : SlotsOpened slots history
  holds : ∀ index, (slots index).inUse = true →
    (slots index).Holds (sinceOpened (slots index).messageId history)
  completed : ∀ before after messageId message,
    history = before ++ .completed messageId message :: after →
      Assembled message (sinceOpened messageId before)

section Slot

variable {slot : RxSlot} {fragments : List (Patch UInt8)} {header : WireHeader} {bytes : Bytes}

theorem RxSlot.Holds.filled (holds : slot.Holds fragments) (admissible : header.Admissible bytes)
    (takes : slot.Takes header) :
    (slot.filled header (bytes.drop wireHeaderLen)).Holds
      (fragments ++ [takenFragment header bytes]) := by
  have payload : (bytes.drop wireHeaderLen).length = header.payloadLen.toNat := by
    rw [List.length_drop, admissible.length, Nat.add_sub_cancel_left]
  have inside : header.fragOffset.toNat + (bytes.drop wireHeaderLen).length ≤
      header.totalLen.toNat := by
    rw [payload]
    exact admissible.inside
  have block : header.fragOffset.toNat + (bytes.drop wireHeaderLen).length ≤ 768 :=
    le_trans inside admissible.total_le
  constructor
  · intro fragment member
    rcases List.mem_append.mp member with earlier | last
    · exact holds.inside fragment earlier
    · rw [List.mem_singleton.mp last]
      change header.fragOffset.toNat + (bytes.drop wireHeaderLen).length ≤ slot.totalLen
      rw [takes.totalLen]
      exact inside
  · intro position
    have range : (takenFragment header bytes).covers position = true ↔
        header.fragOffset.toNat ≤ position ∧
          position < header.fragOffset.toNat + (bytes.drop wireHeaderLen).length :=
      (takenFragment header bytes).covers_iff position
    rw [patched_append, RxSlot.filled, splice_get _ block]
    by_cases here : (takenFragment header bytes).covers position = true
    · rw [if_pos here, if_pos (range.mp here)]
      rfl
    · rw [if_neg here, if_neg fun both => here (range.mpr both), holds.bytes]

theorem RxSlot.Holds.assembled (holds : slot.Holds fragments) (short : slot.totalLen ≤ 768) :
    Assembled (slot.bytes.toList.take slot.totalLen) fragments := by
  have length : (slot.bytes.toList.take slot.totalLen).length = slot.totalLen := by
    rw [List.length_take, List.Vector.toList_length]
    exact Nat.min_eq_left short
  constructor
  · rw [length]
    exact holds.inside
  · intro position bound
    rw [length] at bound
    rw [List.getElem?_take_of_lt bound, holds.bytes]

end Slot

section Step

variable {g2g : G2g} {history : List SlotEvent} {index : Fin g2gRxSlots} {header : WireHeader}
  {bytes : Bytes} {slot : RxSlot} {opening : List SlotEvent}

/-- The slot that is about to be written holds what the fragments of its message
left. -/
theorem G2g.Current.holds (current : g2g.Current header index slot opening)
    (covered : SlotsCovered g2g.rxSlots history) :
    slot.Holds (sinceOpened header.messageId (history ++ opening)) := by
  cases current with
  | held holder =>
      have holds := covered.holds index holder.1
      rwa [holder.2, ← List.append_nil history] at holds
  | opened absent =>
      rw [since_opened_opened]
      constructor
      · intro fragment member
        exact absurd member List.not_mem_nil
      · intro position
        rfl

theorem G2g.Current.holds_filled (current : g2g.Current header index slot opening)
    (covered : SlotsCovered g2g.rxSlots history) (admissible : header.Admissible bytes)
    (takes : slot.Takes header) :
    (slot.filled header (bytes.drop wireHeaderLen)).Holds
      (sinceOpened header.messageId (history ++ (opening ++
        [.accepted header.messageId (takenFragment header bytes)]))) := by
  rw [← List.append_assoc, since_opened_accepted]
  exact (current.holds covered).filled admissible takes

theorem G2g.Current.events (current : g2g.Current header index slot opening)
    {event : SlotEvent} (member : event ∈ opening) : event.messageId = header.messageId := by
  cases current with
  | held holder => exact absurd member List.not_mem_nil
  | opened absent =>
      rw [List.mem_singleton.mp member]
      rfl

theorem SlotsCovered.since_opened (covered : SlotsCovered g2g.rxSlots history)
    (current : g2g.Current header index slot opening) {taken : List SlotEvent}
    (own : ∀ event ∈ taken, event.messageId = header.messageId) {other : Fin g2gRxSlots}
    (different : other ≠ index) (busy : (g2g.rxSlots other).inUse = true) :
    sinceOpened (g2g.rxSlots other).messageId (history ++ (opening ++ taken)) =
      sinceOpened (g2g.rxSlots other).messageId history := by
  apply since_opened_other
  intro event member same
  have named : event.messageId = header.messageId := by
    rcases List.mem_append.mp member with opens | takes
    · exact current.events opens
    · exact own event takes
  exact different (current.only covered.opened.consistent ⟨busy, same.symm.trans named⟩)

/-- A completion in a longer history is an old one, or among the new events. -/
theorem SlotsCovered.completions (covered : SlotsCovered g2g.rxSlots history)
    {events : List SlotEvent}
    (fresh : ∀ front after messageId message,
      events = front ++ .completed messageId message :: after →
        Assembled message (sinceOpened messageId (history ++ front)))
    (before after : List SlotEvent) (messageId : MessageId) (message : Bytes)
    (split : history ++ events = before ++ .completed messageId message :: after) :
    Assembled message (sinceOpened messageId before) := by
  rcases split_append split with ⟨rest, early⟩ | ⟨front, early, late⟩
  · exact covered.completed before rest messageId message early
  · rw [early]
    exact fresh front after messageId message late

theorem no_completion {events : List SlotEvent}
    (none : ∀ messageId message, .completed messageId message ∉ events) :
    ∀ front after messageId message, events = front ++ .completed messageId message :: after →
      Assembled message (sinceOpened messageId (history ++ front)) := by
  intro front after messageId message split
  have member : SlotEvent.completed messageId message ∈ events := by
    rw [split]
    exact List.mem_append_right _ List.mem_cons_self
  exact absurd member (none messageId message)

theorem G2g.Current.accepting (current : g2g.Current header index slot opening)
    (fragment : Patch UInt8) (messageId : MessageId) (message : Bytes) :
    .completed messageId message ∉ opening ++ [.accepted header.messageId fragment] := by
  intro member
  rcases List.mem_append.mp member with opens | taken
  · cases current with
    | held holder => exact absurd opens List.not_mem_nil
    | opened absent => exact absurd (List.mem_singleton.mp opens) (by simp)
  · exact absurd (List.mem_singleton.mp taken) (by simp)

theorem SlotsCovered.holds_other (covered : SlotsCovered g2g.rxSlots history)
    (current : g2g.Current header index slot opening) {taken : List SlotEvent}
    (own : ∀ event ∈ taken, event.messageId = header.messageId) {other : Fin g2gRxSlots}
    (different : other ≠ index) (busy : (g2g.rxSlots other).inUse = true) :
    (g2g.rxSlots other).Holds
      (sinceOpened (g2g.rxSlots other).messageId (history ++ (opening ++ taken))) := by
  rw [covered.since_opened current own different busy]
  exact covered.holds other busy

theorem slots_covered_step (history : List SlotEvent) {later : G2g} {events : List SlotEvent}
    (covered : SlotsCovered g2g.rxSlots history) (step : g2g.FragmentStep bytes later events) :
    SlotsCovered later.rxSlots (history ++ events) := by
  have opened := slots_opened_step history covered.opened step
  cases step with
  | ignored =>
      rw [List.append_nil]
      exact covered
  | dropped index =>
      rw [List.append_nil] at opened ⊢
      refine ⟨opened, ?_, covered.completed⟩
      rw [set_slot_slots]
      intro other busy
      have same := cleared_in_use busy
      rw [same] at busy ⊢
      exact covered.holds other busy
  | stored header index slot opening admissible unseen current takes more =>
      have own : ∀ event ∈ [SlotEvent.accepted header.messageId (takenFragment header bytes)],
          event.messageId = header.messageId := by
        intro event member
        rw [List.mem_singleton.mp member]
        rfl
      have filled := current.holds_filled covered admissible takes
      have named : (slot.filled header (bytes.drop wireHeaderLen)).messageId =
          header.messageId := current.heldFor.2
      refine ⟨opened, ?_, covered.completions (no_completion ?_)⟩
      · rw [set_slot_slots]
        intro other busy
        by_cases here : other = index
        · rw [here, Function.update_self, named]
          exact filled
        · rw [Function.update_of_ne here] at busy ⊢
          exact covered.holds_other current own here busy
      · exact current.accepting _
  | completed header index slot opening admissible unseen current takes =>
      have own : ∀ event ∈ [SlotEvent.accepted header.messageId (takenFragment header bytes),
          .completed header.messageId
            ((slot.filled header (bytes.drop wireHeaderLen)).bytes.toList.take slot.totalLen)],
          event.messageId = header.messageId := by
        intro event member
        rcases List.mem_pair.mp member with rfl | rfl
        · rfl
        · rfl
      have short : slot.totalLen ≤ 768 := by
        rw [takes.totalLen]
        exact admissible.total_le
      have assembled := (current.holds_filled covered admissible takes).assembled short
      refine ⟨opened, ?_, covered.completions ?_⟩
      · rw [set_slot_slots]
        intro other busy
        have different : other ≠ index := by
          intro same
          rw [same, Function.update_self] at busy
          exact absurd busy (by decide)
        rw [Function.update_of_ne different] at busy ⊢
        exact covered.holds_other current own different busy
      · -- The completion is the last of the new events.
        intro front after messageId message split
        rw [List.append_cons] at split
        rcases split_append split with ⟨rest, early⟩ | ⟨last, early, late⟩
        · have member : SlotEvent.completed messageId message ∈ opening ++
              [.accepted header.messageId (takenFragment header bytes)] := by
            rw [early]
            exact List.mem_append_right _ List.mem_cons_self
          exact absurd member (current.accepting _ messageId message)
        · rcases List.singleton_eq_append_iff.mp late with ⟨nothing, same⟩ | ⟨-, wrong⟩
          · cases same
            rw [early, nothing, List.append_nil]
            exact assembled
          · exact absurd wrong (List.cons_ne_nil _ _)

end Step

theorem slots_covered_boot : SlotsCovered G2g.boot.rxSlots [] := by
  refine ⟨slots_opened_boot, ?_, ?_⟩
  · intro index busy
    exact absurd busy Bool.false_ne_true
  · intro before after messageId message split
    simp at split

/-- After any frames, with any handlers: every byte of a completed message was
written by exactly one of the fragments accepted for it since its slot was
opened, if and only if these fragments do not meet and are together as long as
the message. -/
theorem completed_message_covered_iff {Core : Type} (crypto : Crypto) (core : Core)
    (arrivals : List (Arrival Core)) (before after : List SlotEvent) (messageId : MessageId)
    (message : Bytes)
    (completes : (EventMachine.run (arriveFrame crypto) ⟨G2g.boot, core⟩ arrivals).2 =
      before ++ .completed messageId message :: after) :
    CoveredOnce message (sinceOpened messageId before) ↔
      Tiles message.length (sinceOpened messageId before) := by
  have covered : SlotsCovered
      (EventMachine.run (arriveFrame crypto) ⟨G2g.boot, core⟩ arrivals).1.g2g.rxSlots
      (EventMachine.run (arriveFrame crypto) ⟨G2g.boot, core⟩ arrivals).2 := by
    apply slots_history SlotsCovered
    · intro slots history before index busy
      exact Nat.pos_iff_ne_zero.mp (before.opened.consistent.waiting index busy).total_pos
    · intro g2g history bytes later events before step
      exact slots_covered_step history before step
    · exact slots_covered_boot
  exact (covered.completed before after messageId message completes).covered_iff

def halfId : MessageId := List.Vector.replicate 32 5

def halfFrame (index offset : UInt16) (byte : UInt8) : Bytes :=
  WireHeader.layout.encode ⟨wireVersion, wireTypeActionPill, List.Vector.replicate 2 0, 2, offset,
    index, 2, 1, halfId⟩ ++ [byte]

def halfArrivals (offset : UInt16) : List (Arrival Unit) :=
  [⟨halfFrame 0 0 7, none⟩, ⟨halfFrame 1 offset 9, none⟩]

def halfHistory (offset : Nat) : List SlotEvent :=
  [.opened 0 halfId [], .accepted halfId ⟨0, [7]⟩, .accepted halfId ⟨offset, [9]⟩]

theorem halves_covered :
    (EventMachine.run (arriveFrame benchCrypto) ⟨G2g.boot, ()⟩ (halfArrivals 1)).2 =
      halfHistory 1 ++ [.completed halfId [7, 9]] ∧
    CoveredOnce [7, 9] (sinceOpened halfId (halfHistory 1)) := by
  have run : (EventMachine.run (arriveFrame benchCrypto) ⟨G2g.boot, ()⟩ (halfArrivals 1)).2 =
      halfHistory 1 ++ [.completed halfId [7, 9]] := by
    decide +kernel
  have fragments : sinceOpened halfId (halfHistory 1) = [⟨0, [7]⟩, ⟨1, [9]⟩] := by
    decide +kernel
  refine ⟨run, (completed_message_covered_iff benchCrypto () (halfArrivals 1) (halfHistory 1) []
    halfId [7, 9] run).mpr ?_⟩
  rw [fragments]
  constructor
  · rw [List.pairwise_pair]
    intro position both
    simp only [Patch.covers_iff, List.length_singleton] at both
    omega
  · rfl

/-- The second fragment over the first: the second byte of the message is one
that no fragment brought. -/
theorem overlapping_halves_complete :
    (EventMachine.run (arriveFrame benchCrypto) ⟨G2g.boot, ()⟩ (halfArrivals 0)).2 =
      halfHistory 0 ++ [.completed halfId [9, 0]] ∧
    covering (sinceOpened halfId (halfHistory 0)) 1 = [] ∧
    ¬ CoveredOnce [9, 0] (sinceOpened halfId (halfHistory 0)) := by
  have none : covering (sinceOpened halfId (halfHistory 0)) 1 = [] := by
    decide +kernel
  refine ⟨by decide +kernel, none, ?_⟩
  intro covered
  obtain ⟨fragment, once, -⟩ := covered 1 (by decide)
  rw [none] at once
  exact absurd once.symm (List.cons_ne_nil _ _)

end BlindNet
