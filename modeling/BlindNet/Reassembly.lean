import BlindNet.Conscience

/-!
# Reassembly of one message

What a slot that gathers the fragments of one message holds, and what the next
fragment of that message does to it. The fragments are those the sender builds,
so the message is any byte string that fits.
-/

namespace BlindNet

set_option autoImplicit false

open ByteLayout RecencyRing

structure Sendable (bytes : Bytes) : Prop where
  nonempty : bytes ≠ []
  short : bytes.length ≤ g2gActionPillMaxLen

/-- The slot holds exactly the fragments in `received` of this message. -/
structure RxSlot.Gathers (slot : RxSlot) (messageId : MessageId) (bytes : Bytes)
    (received : Finset Nat) : Prop where
  inUse : slot.inUse = true
  messageId : slot.messageId = messageId
  totalLen : slot.totalLen = bytes.length
  fragCount : slot.fragCount = fragmentCount bytes.length
  mask : BitMask.indices slot.receivedMask = received
  written : ∀ position < bytes.length, position / wireFragmentPayloadMax ∈ received →
    slot.bytes.toList[position]? = bytes[position]?

section Message

variable {bytes : Bytes} {messageId : MessageId} {slot : RxSlot} {received : Finset Nat}

def messageFrame (bytes : Bytes) (messageId : MessageId) (index : Nat) : Bytes :=
  wireFrame bytes messageId (fragmentCount bytes.length) index

def messageHeader (bytes : Bytes) (messageId : MessageId) (index : Nat) : WireHeader :=
  wireFrameHeader bytes messageId (fragmentCount bytes.length) index

theorem fragment_count_le (sendable : Sendable bytes) : fragmentCount bytes.length ≤ 5 := by
  have short := sendable.short
  have ceiling : fragmentCount bytes.length = (bytes.length + 173) / 174 := rfl
  simp only [g2gActionPillMaxLen] at short
  omega

theorem fragment_start_lt {index : Nat} (inside : index < fragmentCount bytes.length) :
    index * 174 < bytes.length := by
  have ceiling : fragmentCount bytes.length = (bytes.length + 173) / 174 := rfl
  omega

theorem message_header_values (sendable : Sendable bytes) {index : Nat}
    (inside : index < fragmentCount bytes.length) :
    (messageHeader bytes messageId index).totalLen.toNat = bytes.length ∧
    (messageHeader bytes messageId index).fragOffset.toNat = index * 174 ∧
    (messageHeader bytes messageId index).fragIndex.toNat = index ∧
    (messageHeader bytes messageId index).fragCount.toNat = fragmentCount bytes.length := by
  have short := sendable.short
  have few := fragment_count_le sendable
  simp only [g2gActionPillMaxLen] at short
  have offset : (UInt16.ofNat (index * 174)).toNat = index * 174 := u16_to_nat (by omega)
  exact ⟨u16_to_nat (by omega), offset, u16_to_nat (by omega), u16_to_nat (by omega)⟩

theorem splice_fragment (block : ByteArr 768) (sendable : Sendable bytes) {index : Nat}
    (inside : index < fragmentCount bytes.length)
    (written : ∀ position < bytes.length, position / wireFragmentPayloadMax ∈ received →
      block.toList[position]? = bytes[position]?) :
    ∀ position < bytes.length, position / wireFragmentPayloadMax ∈ insert index received →
      (splice block (index * 174) (fragmentPayload bytes index)).toList[position]? =
        bytes[position]? := by
  have short := sendable.short
  have start := fragment_start_lt inside
  have payload := fragment_payload_length bytes index
  simp only [g2gActionPillMaxLen] at short
  intro position bound member
  rw [splice_get block (by omega)]
  by_cases within : index * 174 ≤ position ∧ position < index * 174 +
      (fragmentPayload bytes index).length
  · rw [if_pos within, fragmentPayload, List.getElem?_take_of_lt, List.getElem?_drop]
    · congr 1
      change index * 174 + (position - index * 174) = position
      omega
    · change position - index * 174 < 174
      omega
  · rw [if_neg within]
    rcases Finset.mem_insert.mp member with here | held
    · -- The position belongs to this fragment, so it lies in the written range.
      change position / 174 = index at here
      exact absurd ⟨by omega, by omega⟩ within
    · exact written position bound held

/-- The next fragment of a message in the slot that gathers it: a fragment
already there changes nothing, the last missing one completes the message. -/
theorem RxSlot.Gathers.store (gathers : slot.Gathers messageId bytes received)
    (sendable : Sendable bytes) {index : Nat} (inside : index < fragmentCount bytes.length) :
    (index ∈ received →
      slot.store (messageHeader bytes messageId index) (fragmentPayload bytes index) =
        (.rejected .invalidState, slot)) ∧
    (index ∉ received → insert index received = Finset.range (fragmentCount bytes.length) →
      slot.store (messageHeader bytes messageId index) (fragmentPayload bytes index) =
        (.complete messageId bytes, RxSlot.empty)) ∧
    (index ∉ received → insert index received ≠ Finset.range (fragmentCount bytes.length) →
      ∃ next, slot.store (messageHeader bytes messageId index) (fragmentPayload bytes index) =
          (.stored, next) ∧ next.Gathers messageId bytes (insert index received)) := by
  obtain ⟨total, offset, position, count⟩ :=
    @message_header_values bytes messageId sendable index inside
  have few := fragment_count_le sendable
  have positive := List.length_pos_of_ne_nil sendable.nonempty
  have shaped : ¬ slot.totalLen = 0 := by
    rw [gathers.totalLen]
    omega
  have matching : ¬ (slot.totalLen ≠ bytes.length ∨
      slot.fragCount ≠ fragmentCount bytes.length) := by
    rw [gathers.totalLen, gathers.fragCount]
    simp
  have bit : slot.receivedMask &&& BitMask.bit 32 index ≠ 0 ↔ index ∈ received := by
    rw [← gathers.mask, ne_eq]
    exact (not_congr (BitMask.and_bit_eq_zero slot.receivedMask (by omega))).trans not_not
  have united : BitMask.indices (slot.receivedMask ||| BitMask.bit 32 index) =
      insert index received := by
    rw [BitMask.indices_or_bit _ (by omega), gathers.mask]
  have full : slot.receivedMask ||| BitMask.bit 32 index =
        BitMask.lowest 32 (fragmentCount bytes.length) ↔
      insert index received = Finset.range (fragmentCount bytes.length) := by
    have lowest := @BitMask.indices_lowest 32 (fragmentCount bytes.length) (by omega)
    rw [← united, ← lowest]
    exact BitMask.indices_injective.eq_iff.symm
  have combined := splice_fragment slot.bytes sendable inside gathers.written
  simp only [RxSlot.store, if_neg shaped, total, offset, position, count, if_neg matching]
  refine ⟨fun held => if_pos (bit.mpr held), fun missing last => ?_, fun missing more => ?_⟩
  · have bytesWhole : (splice slot.bytes (index * 174) (fragmentPayload bytes index)).toList.take
        slot.totalLen = bytes := by
      rw [gathers.totalLen]
      apply List.ext_getElem?
      intro at_
      by_cases bound : at_ < bytes.length
      · rw [List.getElem?_take_of_lt bound]
        apply combined at_ bound
        rw [last, Finset.mem_range]
        have ceiling : fragmentCount bytes.length = (bytes.length + 173) / 174 := rfl
        change at_ / 174 < _
        omega
      · have shorter : ((splice slot.bytes (index * 174)
            (fragmentPayload bytes index)).toList.take bytes.length).length ≤ bytes.length :=
          List.length_take_le _ _
        rw [List.getElem?_eq_none (by omega), List.getElem?_eq_none (by omega)]
    rw [if_neg (fun held => missing (bit.mp held)), if_pos (full.mpr last), bytesWhole]
    rfl
  · rw [if_neg (fun held => missing (bit.mp held)), if_neg (fun whole => more (full.mp whole))]
    exact ⟨_, rfl, gathers.inUse, gathers.messageId, gathers.totalLen, gathers.fragCount, united,
      combined⟩

def RxSlot.HeldFor (slot : RxSlot) (messageId : MessageId) : Prop :=
  slot.inUse = true ∧ slot.messageId = messageId

theorem RxSlot.Gathers.heldFor (gathers : slot.Gathers messageId bytes received) :
    slot.HeldFor messageId :=
  ⟨gathers.inUse, gathers.messageId⟩

theorem rx_slot_for_held {slots : Fin g2gRxSlots → RxSlot} {holder : Fin g2gRxSlots}
    (held : (slots holder).HeldFor messageId)
    (only : ∀ other, (slots other).HeldFor messageId → other = holder) :
    rxSlotFor slots messageId = (holder, slots) := by
  have found : ((List.finRange g2gRxSlots).find? fun index =>
      (slots index).inUse && (slots index).messageId == messageId) = some holder := by
    cases search : (List.finRange g2gRxSlots).find? fun index =>
        (slots index).inUse && (slots index).messageId == messageId with
    | none =>
        have missed := List.find?_eq_none.mp search holder (List.mem_finRange holder)
        simp [held.1, held.2] at missed
    | some other =>
        have matching := List.find?_some search
        simp only [Bool.and_eq_true, beq_iff_eq] at matching
        rw [only other matching]
  rw [rxSlotFor, found]

theorem rx_slot_search_absent {slots : Fin g2gRxSlots → RxSlot}
    (absent : ∀ other, ¬ (slots other).HeldFor messageId) :
    ((List.finRange g2gRxSlots).find? fun index =>
      (slots index).inUse && (slots index).messageId == messageId) = none := by
  rw [List.find?_eq_none]
  intro other _ matching
  simp only [Bool.and_eq_true, beq_iff_eq] at matching
  exact absent other matching

theorem rx_slot_for_absent {slots : Fin g2gRxSlots → RxSlot}
    (absent : ∀ other, ¬ (slots other).HeldFor messageId)
    (free : ∃ index, (slots index).inUse = false) :
    ∃ index, (slots index).inUse = false ∧
      rxSlotFor slots messageId =
        (index, Function.update slots index (RxSlot.opened messageId)) := by
  cases search : (List.finRange g2gRxSlots).find? fun index => !(slots index).inUse with
  | none =>
      obtain ⟨index, idle⟩ := free
      have busy := List.find?_eq_none.mp search index (List.mem_finRange index)
      simp [idle] at busy
  | some index =>
      have idle := List.find?_some search
      refine ⟨index, by simpa using idle, ?_⟩
      rw [rxSlotFor, rx_slot_search_absent absent, search]
      rfl

/-- When all slots are taken, the next new message clears the first. -/
def makeRoom (slots : Fin g2gRxSlots → RxSlot) : Fin g2gRxSlots → RxSlot :=
  if ∃ index, (slots index).inUse = false then slots else Function.update slots 0 RxSlot.empty

theorem make_room_free (slots : Fin g2gRxSlots → RxSlot) :
    ∃ index, (makeRoom slots index).inUse = false := by
  unfold makeRoom
  split
  · assumption
  · exact ⟨0, by rw [Function.update_self]; rfl⟩

theorem cleared_absent {slots : Fin g2gRxSlots → RxSlot} (target : Fin g2gRxSlots)
    (absent : ∀ other, ¬ (slots other).HeldFor messageId) :
    ∀ other, ¬ (Function.update slots target RxSlot.empty other).HeldFor messageId := by
  intro other held
  by_cases cleared : other = target
  · rw [cleared, Function.update_self] at held
    exact absurd held.1 (by decide)
  · rw [Function.update_of_ne cleared] at held
    exact absent other held

theorem make_room_absent {slots : Fin g2gRxSlots → RxSlot}
    (absent : ∀ other, ¬ (slots other).HeldFor messageId) :
    ∀ other, ¬ (makeRoom slots other).HeldFor messageId := by
  intro other held
  unfold makeRoom at held
  split at held
  · exact absent other held
  · exact cleared_absent 0 absent other held

theorem rx_slot_for_make_room {slots : Fin g2gRxSlots → RxSlot}
    (absent : ∀ other, ¬ (slots other).HeldFor messageId) :
    rxSlotFor (makeRoom slots) messageId = rxSlotFor slots messageId := by
  have missedRoom := rx_slot_search_absent (make_room_absent absent)
  unfold makeRoom at missedRoom ⊢
  split
  · rfl
  · rename_i busy
    rw [if_neg busy] at missedRoom
    have full : ((List.finRange g2gRxSlots).find? fun index => !(slots index).inUse) = none := by
      rw [List.find?_eq_none]
      intro index _ idle
      exact busy ⟨index, by simpa using idle⟩
    have first : ((List.finRange g2gRxSlots).find? fun index =>
        !(Function.update slots 0 RxSlot.empty index).inUse) = some 0 := by
      rw [List.finRange_succ]
      apply List.find?_cons_of_pos
      rw [Function.update_self]
      rfl
    rw [rxSlotFor, missedRoom, first, rxSlotFor, rx_slot_search_absent absent, full]
    simp only [Option.getD_some, Option.getD_none, Function.update_idem]

theorem opened_store (sendable : Sendable bytes) {index : Nat}
    (inside : index < fragmentCount bytes.length) :
    ∃ next : RxSlot, (RxSlot.opened messageId).store (messageHeader bytes messageId index)
        (fragmentPayload bytes index) =
          next.store (messageHeader bytes messageId index) (fragmentPayload bytes index) ∧
      next.Gathers messageId bytes ∅ := by
  obtain ⟨total, -, -, count⟩ := @message_header_values bytes messageId sendable index inside
  have positive := List.length_pos_of_ne_nil sendable.nonempty
  refine ⟨{ RxSlot.opened messageId with
    totalLen := bytes.length, fragCount := fragmentCount bytes.length }, ?_, ?_⟩
  · have shaped : ¬ bytes.length = 0 := by omega
    simp only [RxSlot.store, RxSlot.opened, RxSlot.empty, total, count, if_true, if_neg shaped]
  · refine ⟨rfl, rfl, rfl, rfl, BitMask.indices_zero, ?_⟩
    intro position _ member
    exact absurd member (Finset.notMem_empty _)

/-- The slots hold exactly the fragments in `received` of the message: no slot
at all when there are none yet, else one slot. -/
def Gathering (slots : Fin g2gRxSlots → RxSlot) (messageId : MessageId) (bytes : Bytes)
    (received : Finset Nat) : Prop :=
  (received = ∅ ∧ ∀ other, ¬ (slots other).HeldFor messageId) ∨
    (received ≠ ∅ ∧ ∃ holder, (slots holder).Gathers messageId bytes received ∧
      ∀ other, (slots other).HeldFor messageId → other = holder)

/-- The slot a fragment of the message is written to: the one that gathers the
message, or a free one. -/
structure Target (slots : Fin g2gRxSlots → RxSlot) (messageId : MessageId)
    (received : Finset Nat) (target : Fin g2gRxSlots) : Prop where
  own : (slots target).inUse = true → (slots target).messageId = messageId
  only : ∀ other, (slots other).HeldFor messageId → other = target
  taken : (slots target).inUse = false ↔ received = ∅

theorem Gathering.store {slots : Fin g2gRxSlots → RxSlot}
    (gathering : Gathering slots messageId bytes received) (sendable : Sendable bytes)
    (partly : (∃ index, (slots index).inUse = false) ∨ received ≠ ∅) {index : Nat}
    (inside : index < fragmentCount bytes.length) :
    ∃ target, ∃ slot : RxSlot, Target slots messageId received target ∧
      slot.Gathers messageId bytes received ∧ (received ≠ ∅ → slots target = slot) ∧
      storeFragment slots (messageHeader bytes messageId index) (fragmentPayload bytes index) =
        ((slot.store (messageHeader bytes messageId index) (fragmentPayload bytes index)).1,
          Function.update slots target
            (slot.store (messageHeader bytes messageId index)
              (fragmentPayload bytes index)).2) := by
  have named : (messageHeader bytes messageId index).messageId = messageId := rfl
  rcases gathering with absent | present
  · obtain ⟨none, absent⟩ := absent
    have free := partly.resolve_right (not_not.mpr none)
    obtain ⟨target, idle, found⟩ := rx_slot_for_absent absent free
    obtain ⟨slot, same, gathers⟩ := @opened_store bytes messageId sendable index inside
    refine ⟨target, slot, ⟨?_, fun other held => absurd held (absent other), by simp [idle, none]⟩,
      none ▸ gathers, fun some => absurd none some, ?_⟩
    · intro busy
      rw [idle] at busy
      exact absurd busy (by decide)
    · simp only [storeFragment, named, found, Function.update_self, same, Function.update_idem]
  · obtain ⟨some, target, gathers, only⟩ := present
    have held := gathers.heldFor
    refine ⟨target, slots target, ⟨fun _ => gathers.messageId, only, ?_⟩, gathers, fun _ => rfl, ?_⟩
    · simp [gathers.inUse, some]
    · simp only [storeFragment, named, rx_slot_for_held held only]

theorem receive_message_frame (sendable : Sendable bytes) {index : Nat}
    (inside : index < fragmentCount bytes.length) (g2g : G2g) :
    g2g.receive (messageFrame bytes messageId index) =
      if g2g.seenCache.contains messageId then
        (.rejected .invalidState, g2g)
      else
        ((storeFragment g2g.rxSlots (messageHeader bytes messageId index)
            (fragmentPayload bytes index)).1,
          ⟨g2g.seenCache, (storeFragment g2g.rxSlots (messageHeader bytes messageId index)
            (fragmentPayload bytes index)).2⟩) := by
  have checked : checkFragment (messageFrame bytes messageId index) =
      .ok (messageHeader bytes messageId index) :=
    check_fragment_ok.mpr (wire_frame_admissible sendable.nonempty sendable.short rfl inside)
  have payload : (messageFrame bytes messageId index).drop wireHeaderLen =
      fragmentPayload bytes index := wire_frame_payload index
  simp only [G2g.receive, checked, payload]
  rfl

theorem receive_make_room (sendable : Sendable bytes) {index : Nat}
    (inside : index < fragmentCount bytes.length) {g2g : G2g}
    (absent : ∀ other, ¬ (g2g.rxSlots other).HeldFor messageId)
    (unseen : messageId ∉ g2g.seenCache.recent) :
    G2g.receive { g2g with rxSlots := makeRoom g2g.rxSlots } (messageFrame bytes messageId index) =
      g2g.receive (messageFrame bytes messageId index) := by
  have fresh : ¬ g2g.seenCache.contains messageId = true := by
    rw [Ring.contains_iff_recent]
    exact unseen
  have named : (messageHeader bytes messageId index).messageId = messageId := rfl
  rw [receive_message_frame sendable inside, receive_message_frame sendable inside, if_neg fresh,
    if_neg fresh]
  simp only [storeFragment, named, rx_slot_for_make_room absent]

/-- One more fragment of an unseen message that is being gathered. -/
theorem Gathering.receive {g2g : G2g}
    (gathering : Gathering g2g.rxSlots messageId bytes received) (sendable : Sendable bytes)
    (partly : (∃ index, (g2g.rxSlots index).inUse = false) ∨ received ≠ ∅)
    (unseen : messageId ∉ g2g.seenCache.recent) {index : Nat}
    (inside : index < fragmentCount bytes.length) :
    (index ∈ received →
      g2g.receive (messageFrame bytes messageId index) = (.rejected .invalidState, g2g)) ∧
    (index ∉ received → insert index received = Finset.range (fragmentCount bytes.length) →
      ∃ target, Target g2g.rxSlots messageId received target ∧
        g2g.receive (messageFrame bytes messageId index) =
          (.complete messageId bytes,
            ⟨g2g.seenCache, Function.update g2g.rxSlots target RxSlot.empty⟩)) ∧
    (index ∉ received → insert index received ≠ Finset.range (fragmentCount bytes.length) →
      ∃ target, ∃ next : RxSlot, Target g2g.rxSlots messageId received target ∧
        next.Gathers messageId bytes (insert index received) ∧
        g2g.receive (messageFrame bytes messageId index) =
          (.stored, ⟨g2g.seenCache, Function.update g2g.rxSlots target next⟩)) := by
  have fresh : ¬ g2g.seenCache.contains messageId = true := by
    rw [Ring.contains_iff_recent]
    exact unseen
  obtain ⟨target, slot, isTarget, gathers, same, stored⟩ := gathering.store sendable partly inside
  obtain ⟨repeated, last, more⟩ := gathers.store sendable inside
  rw [receive_message_frame sendable inside, if_neg fresh, stored]
  refine ⟨fun held => ?_, fun missing whole => ?_, fun missing open_ => ?_⟩
  · have some : received ≠ ∅ := Finset.ne_empty_of_mem held
    rw [repeated held, ← same some, Function.update_eq_self]
  · rw [last missing whole]
    exact ⟨target, isTarget, rfl⟩
  · obtain ⟨next, step, gathersNext⟩ := more missing open_
    rw [step]
    exact ⟨target, next, isTarget, gathersNext, rfl⟩

theorem Target.gathering {slots : Fin g2gRxSlots → RxSlot} {target : Fin g2gRxSlots}
    (isTarget : Target slots messageId received target) {next : RxSlot} {later : Finset Nat}
    (some : later ≠ ∅) (gathers : next.Gathers messageId bytes later) :
    Gathering (Function.update slots target next) messageId bytes later := by
  refine Or.inr ⟨some, target, by simpa using gathers, ?_⟩
  intro other held
  by_cases same : other = target
  · exact same
  · rw [Function.update_of_ne same] at held
    exact isTarget.only other held

end Message

section Pill

variable {pill : ActionPill} {messageId : MessageId}

theorem pill_sendable (pill : ActionPill) : Sendable (ActionPill.layout.encode pill) := by
  have length : (ActionPill.layout.encode pill).length = 480 := ActionPill.layout.encode_length pill
  constructor
  · intro empty
    rw [empty] at length
    simp at length
  · rw [length]
    decide

theorem pill_fragment_count (pill : ActionPill) :
    fragmentCount (ActionPill.layout.encode pill).length = 3 := by
  rw [ActionPill.layout.encode_length]
  rfl

theorem message_frame_pill (index : Nat) :
    messageFrame (ActionPill.layout.encode pill) messageId index =
      pillFrame pill messageId index := by
  rw [messageFrame, pill_fragment_count, pillFrame]

/-- One frame of a pill that is being gathered, seen from the whole Guardian. -/
theorem receive_pill_frame {crypto : Crypto} {guardian : Guardian} {received : Finset Nat}
    (gathering : Gathering guardian.g2g.rxSlots messageId (ActionPill.layout.encode pill) received)
    (partly : (∃ index, (guardian.g2g.rxSlots index).inUse = false) ∨ received ≠ ∅)
    (unseen : messageId ∉ guardian.g2g.seenCache.recent)
    (digest : computeInnerId crypto pill = .ok messageId) {index : Nat} (inside : index < 3)
    {reception : Reception} (frame : reception.frame = pillFrame pill messageId index) :
    (index ∈ received ∧ onFragmentReceived crypto guardian reception = (guardian, [])) ∨
    (index ∉ received ∧ insert index received = Finset.range 3 ∧
      Handles crypto guardian reception pill messageId ∧
      ∃ target, Target guardian.g2g.rxSlots messageId received target ∧
        (guardian.g2g.receive reception.frame).2.rxSlots =
          Function.update guardian.g2g.rxSlots target RxSlot.empty) ∨
    (index ∉ received ∧ insert index received ≠ Finset.range 3 ∧
      ∃ target, ∃ next : RxSlot, Target guardian.g2g.rxSlots messageId received target ∧
        next.Gathers messageId (ActionPill.layout.encode pill) (insert index received) ∧
        onFragmentReceived crypto guardian reception =
          ({ guardian with g2g := ⟨guardian.g2g.seenCache,
            Function.update guardian.g2g.rxSlots target next⟩ }, [])) := by
  have three := pill_fragment_count pill
  have receive := gathering.receive (pill_sendable pill) partly unseen (three.symm ▸ inside)
  rw [three, message_frame_pill, ← frame] at receive
  obtain ⟨repeated, last, more⟩ := receive
  by_cases held : index ∈ received
  · have quiet : Quiet crypto guardian reception :=
      quiet_of_not_complete (by simp [repeated held])
    refine Or.inl ⟨held, Prod.ext ?_ quiet.events⟩
    have g2g := quiet.g2g
    rw [repeated held] at g2g
    exact congrArg₂ Node.mk g2g quiet.core
  · by_cases whole : insert index received = Finset.range 3
    · obtain ⟨target, isTarget, completed⟩ := last held whole
      have handles : Handles crypto guardian reception pill messageId :=
        handles_of_complete (by rw [completed]) digest
      exact Or.inr (Or.inl ⟨held, whole, handles, target, isTarget, by rw [completed]⟩)
    · obtain ⟨target, next, isTarget, gathers, stored⟩ := more held whole
      have quiet : Quiet crypto guardian reception :=
        quiet_of_not_complete (by simp [stored])
      refine Or.inr (Or.inr ⟨held, whole, target, next, isTarget, gathers,
        Prod.ext ?_ quiet.events⟩)
      have g2g := quiet.g2g
      rw [stored] at g2g
      exact congrArg₂ Node.mk g2g quiet.core

theorem store_pill_frame {crypto : Crypto} {guardian : Guardian} {received : Finset Nat}
    (gathering : Gathering guardian.g2g.rxSlots messageId (ActionPill.layout.encode pill) received)
    (partly : (∃ index, (guardian.g2g.rxSlots index).inUse = false) ∨ received ≠ ∅)
    (unseen : messageId ∉ guardian.g2g.seenCache.recent)
    (digest : computeInnerId crypto pill = .ok messageId) {index : Nat} (inside : index < 3)
    (missing : index ∉ received) (more : insert index received ≠ Finset.range 3)
    (env : Environment) :
    ∃ target slot, Target guardian.g2g.rxSlots messageId received target ∧
      slot.HeldFor messageId ∧
      Gathering (Function.update guardian.g2g.rxSlots target slot) messageId
        (ActionPill.layout.encode pill) (insert index received) ∧
      onFragmentReceived crypto guardian ⟨pillFrame pill messageId index, env⟩ =
        ({ guardian with
          g2g := ⟨guardian.g2g.seenCache, Function.update guardian.g2g.rxSlots target slot⟩ },
          []) := by
  rcases @receive_pill_frame pill messageId crypto guardian received gathering partly unseen digest
      index inside ⟨pillFrame pill messageId index, env⟩ rfl with repeated | whole | stored
  · exact absurd repeated.1 missing
  · exact absurd whole.2.1 more
  · rcases stored with ⟨_, _, target, slot, isTarget, gathers, step⟩
    exact ⟨target, slot, isTarget, gathers.heldFor,
      isTarget.gathering (Finset.insert_ne_empty _ _) gathers, step⟩

/-- The frames of a pill, each received in its own environment. -/
def pillReceptions (pill : ActionPill) (messageId : MessageId) (envs : Fin 3 → Environment) :
    List Reception :=
  [⟨pillFrame pill messageId 0, envs 0⟩, ⟨pillFrame pill messageId 1, envs 1⟩,
    ⟨pillFrame pill messageId 2, envs 2⟩]

theorem deliver_pill {crypto : Crypto} {guardian : Guardian}
    (absent : ∀ index, ¬ (guardian.g2g.rxSlots index).HeldFor messageId)
    (free : ∃ index, (guardian.g2g.rxSlots index).inUse = false)
    (unseen : messageId ∉ guardian.g2g.seenCache.recent)
    (digest : computeInnerId crypto pill = .ok messageId) (envs : Fin 3 → Environment) :
    ∃ slots sent,
      (∀ index, (slots index).inUse = true → slots index = guardian.g2g.rxSlots index) ∧
      (∀ index, ¬ (slots index).HeldFor messageId) ∧
      sent <+: pillFrames pill messageId ∧
      ((envs 2).ble.takes 3 = true → sent = pillFrames pill messageId) ∧
      runGuardian crypto guardian (pillReceptions pill messageId envs) =
        (⟨⟨seenAfterHandling (envs 2).ble guardian.g2g.seenCache messageId, slots⟩,
            (processLocally crypto (envs 2) guardian.core pill).2⟩,
          .handled pill :: (sent.map Event.relayed ++
            (processLocally crypto (envs 2) guardian.core pill).1.2.map Event.published)) := by
  -- The first frame opens a slot, the second is added to it.
  have start : Gathering guardian.g2g.rxSlots messageId (ActionPill.layout.encode pill) ∅ :=
    Or.inl ⟨rfl, absent⟩
  rcases store_pill_frame start (Or.inl free) unseen digest (show 0 < 3 by decide) (by decide)
    (by decide) (envs 0) with ⟨target0, slot0, isTarget0, heldFor0, second, step0⟩
  let guardian1 : Guardian := { guardian with
    g2g := ⟨guardian.g2g.seenCache, Function.update guardian.g2g.rxSlots target0 slot0⟩ }
  rcases @store_pill_frame pill messageId crypto guardian1 _ second (Or.inr (by decide)) unseen
    digest 1 (by decide) (by decide) (by decide) (envs 1) with
    ⟨target1, slot1, isTarget1, heldFor1, third, step1⟩
  let guardian2 : Guardian := { guardian1 with
    g2g := ⟨guardian.g2g.seenCache, Function.update guardian1.g2g.rxSlots target1 slot1⟩ }
  rcases @receive_pill_frame pill messageId crypto guardian2 _ third (Or.inr (by decide))
      unseen digest 2 (by decide) ⟨pillFrame pill messageId 2, envs 2⟩ rfl with
    repeated | last | more
  · exact absurd repeated.1 (by decide)
  · obtain ⟨-, -, handles, target2, isTarget2, freed⟩ := last
    -- All three frames went to the slot that the last one clears.
    have held1 : (guardian1.g2g.rxSlots target0).HeldFor messageId := by
      simpa [guardian1] using heldFor0
    have held2 : (guardian2.g2g.rxSlots target1).HeldFor messageId := by
      simpa [guardian2] using heldFor1
    have same1 : target0 = target1 := isTarget1.only target0 held1
    have same2 : target1 = target2 := isTarget2.only target1 held2
    have slots : Function.update guardian2.g2g.rxSlots target2 RxSlot.empty =
        Function.update guardian.g2g.rxSlots target2 RxSlot.empty := by
      simp only [guardian2, guardian1, same1, same2, Function.update_idem]
    obtain ⟨sent, initial, whole, events⟩ := handles.events
    refine ⟨Function.update guardian.g2g.rxSlots target2 RxSlot.empty, sent, ?_,
      cleared_absent target2 absent, initial, whole, ?_⟩
    · intro index busy
      by_cases cleared : index = target2
      · rw [cleared, Function.update_self] at busy
        exact absurd busy (by decide)
      · rw [Function.update_of_ne cleared]
    · have step2 : onFragmentReceived crypto guardian2 ⟨pillFrame pill messageId 2, envs 2⟩ =
          (⟨⟨seenAfterHandling (envs 2).ble guardian.g2g.seenCache messageId,
              Function.update guardian.g2g.rxSlots target2 RxSlot.empty⟩,
            (processLocally crypto (envs 2) guardian.core pill).2⟩,
          .handled pill :: (sent.map Event.relayed ++
            (processLocally crypto (envs 2) guardian.core pill).1.2.map Event.published)) := by
        have g2g := handles.g2g
        rw [freed, slots] at g2g
        exact Prod.ext (congrArg₂ Node.mk g2g handles.core) events
      have moved0 : onFragmentReceived crypto guardian ⟨pillFrame pill messageId 0, envs 0⟩ =
          (guardian1, []) := step0
      have moved1 : onFragmentReceived crypto guardian1 ⟨pillFrame pill messageId 1, envs 1⟩ =
          (guardian2, []) := step1
      simp only [runGuardian, pillReceptions, EventMachine.run_cons, EventMachine.run_nil, moved0,
        moved1, step2, List.nil_append, List.append_nil]
  · exact absurd more.2.1 (by decide)

/-- Without a free slot the same happens after the first slot was cleared. -/
theorem deliver_pill_evicting {crypto : Crypto} {guardian : Guardian}
    (absent : ∀ index, ¬ (guardian.g2g.rxSlots index).HeldFor messageId)
    (unseen : messageId ∉ guardian.g2g.seenCache.recent)
    (digest : computeInnerId crypto pill = .ok messageId) (envs : Fin 3 → Environment) :
    ∃ slots sent, sent <+: pillFrames pill messageId ∧
      runGuardian crypto guardian (pillReceptions pill messageId envs) =
        (⟨⟨seenAfterHandling (envs 2).ble guardian.g2g.seenCache messageId, slots⟩,
            (processLocally crypto (envs 2) guardian.core pill).2⟩,
          .handled pill :: (sent.map Event.relayed ++
            (processLocally crypto (envs 2) guardian.core pill).1.2.map Event.published)) := by
  let room : Guardian := { guardian with
    g2g := { guardian.g2g with rxSlots := makeRoom guardian.g2g.rxSlots } }
  have received := receive_make_room (pill_sendable pill)
    (by rw [pill_fragment_count]; decide : 0 < _) absent unseen
  rw [message_frame_pill] at received
  have first : onFragmentReceived crypto guardian ⟨pillFrame pill messageId 0, envs 0⟩ =
      onFragmentReceived crypto room ⟨pillFrame pill messageId 0, envs 0⟩ := by
    simp only [onFragmentReceived, handleReceivedFragment, room, received]
  have runs : runGuardian crypto guardian (pillReceptions pill messageId envs) =
      runGuardian crypto room (pillReceptions pill messageId envs) := by
    simp only [runGuardian, pillReceptions, EventMachine.run_cons, first]
  obtain ⟨slots, sent, -, -, initial, -, run⟩ := @deliver_pill pill messageId crypto room
    (make_room_absent absent) (make_room_free _) unseen digest envs
  rw [runs]
  exact ⟨slots, sent, initial, run⟩

end Pill

end BlindNet
