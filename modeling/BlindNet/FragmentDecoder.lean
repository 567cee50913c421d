import BlindNet.G2g
import BlindNet.Lib.Bounds

/-!
# The fragment decoder with its accesses

The fragment handler once more, with every index, slice, copy and shift of the
source as an operation that can fail. On every state and every byte string none
of them does, and the result is that of the plain model.
-/

namespace BlindNet

set_option autoImplicit false

open ByteLayout RecencyRing Bounds

def readU16Le (bytes : Bytes) : Checked UInt16 := do
  let low ← read bytes 0
  let high ← read bytes 1
  return low.toUInt16 ||| (high.toUInt16 <<< 8)

def readMessageId (bytes : Bytes) : Checked MessageId := do
  let out ← copyInto (List.replicate 32 0) 0 32 bytes
  return fit 32 out

/-- The part of `handle_received_fragment` before the cache is asked. -/
def readFragment (bytes : Bytes) : Checked (Result WireHeader) :=
  if bytes.length < wireHeaderLen then
    return .error .invalidSize
  else do
    let version ← read bytes 0
    let kind ← read bytes 1
    let reserved2 ← read bytes 2
    let reserved3 ← read bytes 3
    if version ≠ wireVersion ∨ kind ≠ wireTypeActionPill ∨ reserved2 ≠ 0 ∨ reserved3 ≠ 0 then
      return .error .invalidVersion
    else do
      let totalLen ← readU16Le (← slice bytes 4 6)
      let fragOffset ← readU16Le (← slice bytes 6 8)
      let fragIndex ← readU16Le (← slice bytes 8 10)
      let fragCount ← readU16Le (← slice bytes 10 12)
      let payloadLen ← readU16Le (← slice bytes 12 14)
      let messageId ← readMessageId (← slice bytes 14 46)
      if totalLen = 0 ∨ g2gActionPillMaxLen < totalLen.toNat ∨ fragCount = 0 ∨
          wireFragmentMaxCount < fragCount.toNat ∨ fragCount ≤ fragIndex ∨
          wireFragmentPayloadMax < payloadLen.toNat ∨
          wireHeaderLen + payloadLen.toNat ≠ bytes.length ∨
          totalLen.toNat < fragOffset.toNat + payloadLen.toNat then
        return .error .invalidSize
      else
        return .ok ⟨version, kind, ⟨[reserved2, reserved3], rfl⟩, totalLen, fragOffset, fragIndex,
          fragCount, payloadLen, messageId⟩

/-- `seen`: the entries below the fill count, one after the other. -/
def seenChecked (cache : SeenCache) (messageId : MessageId) : Checked Bool :=
  anyAt cache.entries.toList (· == messageId) (List.range cache.count)

/-- `add_seen`, with the three fields it leaves behind. -/
def addSeenChecked (cache : SeenCache) (messageId : MessageId) :
    Checked (List MessageId × Nat × Nat) := do
  let entries ← write cache.entries.toList cache.next messageId
  return (entries, (cache.next + 1) % g2gSeenCacheSize,
    if cache.count < g2gSeenCacheSize then cache.count + 1 else cache.count)

def rxSlotScan (slots : Fin g2gRxSlots → RxSlot) (messageId : MessageId) (freeIndex : Nat)
    (hasFree : Bool) : List Nat → Checked (Fin g2gRxSlots ⊕ Nat × Bool)
  | [] => return .inr (freeIndex, hasFree)
  | i :: rest => do
      let index ← position g2gRxSlots i
      if (slots index).inUse && (slots index).messageId == messageId then
        return .inl index
      else if !(slots index).inUse && !hasFree then
        rxSlotScan slots messageId i true rest
      else
        rxSlotScan slots messageId freeIndex hasFree rest

def rxSlotForChecked (slots : Fin g2gRxSlots → RxSlot) (messageId : MessageId) :
    Checked (Fin g2gRxSlots × (Fin g2gRxSlots → RxSlot)) := do
  match ← rxSlotScan slots messageId 0 false (List.range g2gRxSlots) with
  | .inl index => return (index, slots)
  | .inr (freeIndex, hasFree) => do
      let index ← position g2gRxSlots (if hasFree then freeIndex else 0)
      return (index, Function.update slots index (RxSlot.opened messageId))

def completeMask (fragCount : Nat) : Checked (BitVec 32) :=
  if fragCount = 32 then
    return BitVec.allOnes 32
  else do
    let word ← shiftLeft (BitVec.ofNat 32 1) fragCount
    subtract word (BitVec.ofNat 32 1)

/-- What happens to the slot once it was found. -/
def RxSlot.storeChecked (slot : RxSlot) (header : WireHeader) (payload : Bytes) :
    Checked (Received × RxSlot) :=
  let slot :=
    if slot.totalLen = 0 then
      { slot with totalLen := header.totalLen.toNat, fragCount := header.fragCount.toNat }
    else
      slot
  if slot.totalLen ≠ header.totalLen.toNat ∨ slot.fragCount ≠ header.fragCount.toNat then
    return (.rejected .invalidState, RxSlot.empty)
  else do
    let bit ← shiftLeft (BitVec.ofNat 32 1) header.fragIndex.toNat
    if slot.receivedMask &&& bit ≠ 0 then
      return (.rejected .invalidState, slot)
    else do
      let bytes ← copyInto slot.bytes.toList header.fragOffset.toNat
        (header.fragOffset.toNat + header.payloadLen.toNat) payload
      let slot := { slot with bytes := fit 768 bytes, receivedMask := slot.receivedMask ||| bit }
      let whole ← completeMask header.fragCount.toNat
      if slot.receivedMask = whole then do
        let received ← slice slot.bytes.toList 0 slot.totalLen
        let complete ← copyInto (List.replicate g2gActionPillMaxLen 0) 0 slot.totalLen received
        let message ← slice complete 0 slot.totalLen
        return (.complete header.messageId message, RxSlot.empty)
      else
        return (.stored, slot)

def G2g.receiveChecked (g2g : G2g) (bytes : Bytes) : Checked (Received × G2g) := do
  match ← readFragment bytes with
  | .error err => return (.rejected err, g2g)
  | .ok header => do
      if ← seenChecked g2g.seenCache header.messageId then
        return (.rejected .invalidState, g2g)
      else do
        let payload ← slice bytes wireHeaderLen bytes.length
        let (index, slots) ← rxSlotForChecked g2g.rxSlots header.messageId
        let (received, slot) ← (slots index).storeChecked header payload
        return (received, { g2g with rxSlots := Function.update slots index slot })

section Header

theorem read_u16_le (value : UInt16) : readU16Le (leBytes 2 value.toNat) = .ok value := by
  have bounded := value.toNat_lt
  have low : (UInt8.ofNat value.toNat).toNat = value.toNat % 256 := UInt8.toNat_ofNat'
  have high : (UInt8.ofNat (value.toNat / 256)).toNat = value.toNat / 256 := by
    rw [UInt8.toNat_ofNat']
    omega
  have joined : value.toNat % 256 ||| (value.toNat / 256) <<< 8 = value.toNat := by
    rw [Nat.or_comm, ← Nat.shiftLeft_add_eq_or_of_lt (by omega : value.toNat % 256 < 2 ^ 8),
      Nat.shiftLeft_eq]
    omega
  have inside : (value.toNat / 256) <<< 8 < 2 ^ 16 := by
    rw [Nat.shiftLeft_eq]
    omega
  change Except.ok ((UInt8.ofNat value.toNat).toUInt16 |||
    ((UInt8.ofNat (value.toNat / 256)).toUInt16 <<< 8)) = Except.ok value
  congr 1
  apply UInt16.toNat_inj.mp
  rw [UInt16.toNat_or, UInt16.toNat_shiftLeft, UInt8.toNat_toUInt16, UInt8.toNat_toUInt16, low,
    high]
  change value.toNat % 256 ||| (value.toNat / 256) <<< 8 % 2 ^ 16 = value.toNat
  rw [Nat.mod_eq_of_lt inside, joined]

theorem read_message_id (messageId : MessageId) :
    readMessageId messageId.toList = .ok messageId := by
  have copied : copyInto (List.replicate 32 (0 : UInt8)) 0 32 messageId.toList =
      .ok messageId.toList := by
    rw [copy_into_ok (by simp) (by simp)]
    simp
  rw [readMessageId, copied]
  exact congrArg Except.ok (fit_to_list messageId)

theorem reserved_nonzero (reserved2 reserved3 : UInt8) :
    (⟨[reserved2, reserved3], rfl⟩ : ByteArr 2) ≠ List.Vector.replicate 2 0 ↔
      reserved2 ≠ 0 ∨ reserved3 ≠ 0 := by
  have zeros : (List.Vector.replicate 2 0 : ByteArr 2) = ⟨[0, 0], rfl⟩ := rfl
  rw [zeros, ne_eq, Subtype.mk.injEq, List.cons.injEq, List.cons.injEq]
  simp only [and_true, not_and_or, ne_eq]

theorem read_fragment_encode (header : WireHeader) (payload : Bytes) :
    readFragment (WireHeader.layout.encode header ++ payload) =
      .ok (checkFragment (WireHeader.layout.encode header ++ payload)) := by
  have decoded : WireHeader.layout.decode
      ((WireHeader.layout.encode header ++ payload).take wireHeaderLen) = header :=
    WireHeader.layout.decode_append header payload
  have front : (WireHeader.layout.encode header ++ payload).take 46 =
      WireHeader.layout.encode header := List.take_left' (WireHeader.layout.encode_length header)
  have long : 46 ≤ (WireHeader.layout.encode header ++ payload).length := by
    rw [List.length_append, WireHeader.layout.encode_length]
    exact Nat.le_add_right _ _
  have enough : ¬ (WireHeader.layout.encode header ++ payload).length < wireHeaderLen :=
    Nat.not_lt.mpr long
  rw [checkFragment, if_neg enough, decoded]
  obtain ⟨version, kind, ⟨reserved, sized⟩, totalLen, fragOffset, fragIndex, fragCount, payloadLen,
    messageId⟩ := header
  obtain ⟨reserved2, reserved3, rfl⟩ := List.length_eq_two.mp sized
  generalize framed : WireHeader.layout.encode ⟨version, kind, ⟨[reserved2, reserved3], rfl⟩,
    totalLen, fragOffset, fragIndex, fragCount, payloadLen, messageId⟩ ++ payload = bytes
    at front long enough ⊢
  have versionAt : read bytes 0 = .ok version := by rw [← framed]; rfl
  have kindAt : read bytes 1 = .ok kind := by rw [← framed]; rfl
  have secondAt : read bytes 2 = .ok reserved2 := by rw [← framed]; rfl
  have thirdAt : read bytes 3 = .ok reserved3 := by rw [← framed]; rfl
  have totalAt : slice bytes 4 6 = .ok (leBytes 2 totalLen.toNat) := by
    rw [slice_ok (by decide) (by omega), ← framed]
    rfl
  have offsetAt : slice bytes 6 8 = .ok (leBytes 2 fragOffset.toNat) := by
    rw [slice_ok (by decide) (by omega), ← framed]
    rfl
  have indexAt : slice bytes 8 10 = .ok (leBytes 2 fragIndex.toNat) := by
    rw [slice_ok (by decide) (by omega), ← framed]
    rfl
  have countAt : slice bytes 10 12 = .ok (leBytes 2 fragCount.toNat) := by
    rw [slice_ok (by decide) (by omega), ← framed]
    rfl
  have payloadAt : slice bytes 12 14 = .ok (leBytes 2 payloadLen.toNat) := by
    rw [slice_ok (by decide) (by omega), ← framed]
    rfl
  have idAt : slice bytes 14 46 = .ok messageId.toList := by
    rw [slice_ok (by decide) long, front]
    rfl
  rw [readFragment, if_neg enough]
  simp only [versionAt, kindAt, secondAt, thirdAt, totalAt, offsetAt, indexAt, countAt,
    payloadAt, idAt, checked_ok_bind, read_u16_le, read_message_id]
  have same := reserved_nonzero reserved2 reserved3
  by_cases foreign : version ≠ wireVersion ∨ kind ≠ wireTypeActionPill ∨ reserved2 ≠ 0 ∨
      reserved3 ≠ 0
  · rw [if_pos foreign]
    exact congrArg Except.ok
      (if_pos (foreign.imp_right fun rest => rest.imp_right same.mpr)).symm
  · rw [if_neg foreign]
    refine Eq.trans ?_ (congrArg Except.ok (if_neg fun wrong =>
      foreign (wrong.imp_right fun rest => rest.imp_right same.mp)).symm)
    split_ifs
    · rfl
    · rfl

theorem read_fragment_ok (bytes : Bytes) : readFragment bytes = .ok (checkFragment bytes) := by
  by_cases short : bytes.length < wireHeaderLen
  · rw [readFragment, if_pos short, checkFragment, if_pos short]
    rfl
  · have framed : WireHeader.layout.encode (WireHeader.layout.decode (bytes.take wireHeaderLen)) ++
        bytes.drop wireHeaderLen = bytes := by
      rw [WireHeader.layout.encode_decode _ (List.length_take_of_le (Nat.not_lt.mp short)),
        List.take_append_drop]
    rw [← framed]
    exact read_fragment_encode _ _

end Header

section Cache

variable (cache : SeenCache) (messageId : MessageId)

theorem seen_checked_ok : seenChecked cache messageId = .ok (cache.contains messageId) := by
  have inside : 0 + cache.count ≤ cache.entries.toList.length := by
    rw [Nat.zero_add, List.Vector.toList_length]
    exact cache.count_le
  rw [seenChecked, List.range_eq_range', any_at_range _ inside, List.drop_zero]
  rfl

theorem add_seen_checked_ok :
    addSeenChecked cache messageId =
      .ok ((cache.add messageId).entries.toList, (cache.add messageId).next,
        (cache.add messageId).count) := by
  have inside : cache.next < cache.entries.toList.length := by
    rw [List.Vector.toList_length]
    exact cache.next_lt
  rw [addSeenChecked, write_ok inside, Ring.entries_add]
  rfl

end Cache

section Slots

variable (slots : Fin g2gRxSlots → RxSlot) (messageId : MessageId)

/-- What the loop has found when it ends: the slot of the message, else the
first free one, unless one had been found before. -/
theorem rx_slot_scan_ok (freeIndex : Nat) (hasFree : Bool) (indices : List (Fin g2gRxSlots)) :
    rxSlotScan slots messageId freeIndex hasFree (indices.map Fin.val) =
      .ok (match indices.find? fun index =>
          (slots index).inUse && (slots index).messageId == messageId with
        | some index => .inl index
        | none =>
            if hasFree then .inr (freeIndex, true)
            else match indices.find? fun index => !(slots index).inUse with
              | some index => .inr (index.val, true)
              | none => .inr (freeIndex, false)) := by
  induction indices generalizing freeIndex hasFree with
  | nil =>
      cases hasFree with
      | false => rfl
      | true => rfl
  | cons index rest induction =>
      have reached : position g2gRxSlots index.val = .ok index := position_ok index.isLt
      rw [List.map_cons, rxSlotScan, reached, checked_ok_bind, induction, induction,
        List.find?_cons, List.find?_cons]
      by_cases held : ((slots index).inUse && (slots index).messageId == messageId) = true
      · rw [if_pos held, held]
        rfl
      · rw [if_neg held, Bool.eq_false_iff.mpr held]
        cases (slots index).inUse with
        | false =>
            cases hasFree with
            | false => rfl
            | true => rfl
        | true =>
            cases hasFree with
            | false => rfl
            | true => rfl

theorem rx_slot_for_checked_ok :
    rxSlotForChecked slots messageId = .ok (rxSlotFor slots messageId) := by
  have order : List.range g2gRxSlots = (List.finRange g2gRxSlots).map Fin.val := rfl
  rw [rxSlotForChecked, order, rx_slot_scan_ok, checked_ok_bind, rxSlotFor]
  cases (List.finRange g2gRxSlots).find? fun index =>
      (slots index).inUse && (slots index).messageId == messageId with
  | some index => rfl
  | none =>
      cases (List.finRange g2gRxSlots).find? fun index => !(slots index).inUse with
      | some index =>
          have reached : position g2gRxSlots index.val = .ok index := position_ok index.isLt
          simp only [Bool.false_eq_true, if_false, if_true, reached, checked_ok_bind]
          rfl
      | none => rfl

end Slots

section Store

theorem complete_mask_ok {fragCount : Nat} (few : fragCount ≤ 32) :
    completeMask fragCount = .ok (BitMask.lowest 32 fragCount) := by
  unfold completeMask BitMask.lowest
  by_cases whole : fragCount = 32
  · rw [if_pos whole, if_pos whole]
    rfl
  · have inside : fragCount < 32 := by omega
    have positive : BitVec.ofNat 32 1 ≤ BitVec.ofNat 32 1 <<< fragCount := by
      have power : (BitVec.twoPow 32 fragCount).toNat = 2 ^ fragCount := by
        rw [BitVec.toNat_twoPow]
        exact Nat.mod_eq_of_lt (Nat.pow_lt_pow_right (by decide) inside)
      rw [← BitVec.twoPow_eq, BitVec.le_def, power]
      exact Nat.one_le_two_pow
    rw [if_neg whole, if_neg whole, shift_left_ok _ inside, checked_ok_bind,
      subtract_ok positive]
    rfl

theorem copy_out_ok {block : Bytes} {total : Nat} (inside : total ≤ g2gActionPillMaxLen)
    (long : block.length = 768) :
    slice block 0 total = .ok (block.take total) ∧
    copyInto (List.replicate g2gActionPillMaxLen 0) 0 total (block.take total) =
      .ok (block.take total ++ (List.replicate g2gActionPillMaxLen 0).drop total) ∧
    slice (block.take total ++ (List.replicate g2gActionPillMaxLen 0).drop total) 0 total =
      .ok (block.take total) := by
  have most : g2gActionPillMaxLen = 768 := rfl
  have taken : (block.take total).length = total := by
    rw [List.length_take, long]
    omega
  refine ⟨?_, ?_, ?_⟩
  · rw [slice_ok (Nat.zero_le _) (by omega)]
    rfl
  · rw [copy_into_ok (by simpa using inside) (by omega)]
    rfl
  · rw [slice_ok (Nat.zero_le _) (by rw [List.length_append]; omega), List.take_left' taken]
    rfl

variable {header : WireHeader} {bytes : Bytes}

theorem store_checked_ok (admissible : header.Admissible bytes) (slot : RxSlot) :
    slot.storeChecked header (bytes.drop wireHeaderLen) =
      .ok (slot.store header (bytes.drop wireHeaderLen)) := by
  have indexInside : header.fragIndex.toNat < 32 := by
    have few := admissible.count_le
    have lower := admissible.index_lt
    simp only [wireFragmentMaxCount] at few
    omega
  have bit : shiftLeft (BitVec.ofNat 32 1) header.fragIndex.toNat =
      .ok (BitMask.bit 32 header.fragIndex.toNat) := shift_left_ok _ indexInside
  have whole := complete_mask_ok admissible.count_le
  have payload : header.fragOffset.toNat + (bytes.drop wireHeaderLen).length =
      header.fragOffset.toNat + header.payloadLen.toNat := by
    rw [List.length_drop, admissible.length, Nat.add_sub_cancel_left]
  have inside : header.fragOffset.toNat + header.payloadLen.toNat ≤ 768 :=
    le_trans admissible.inside admissible.total_le
  have copied : ∀ block : ByteArr 768, copyInto block.toList header.fragOffset.toNat
      (header.fragOffset.toNat + header.payloadLen.toNat) (bytes.drop wireHeaderLen) =
      .ok (splice block header.fragOffset.toNat (bytes.drop wireHeaderLen)).toList := by
    intro block
    rw [copy_into_ok (by rw [List.Vector.toList_length]; exact inside) payload,
      splice_to_list block (payload ▸ inside), payload]
  unfold RxSlot.storeChecked RxSlot.store
  generalize shaped : (if slot.totalLen = 0 then
      { slot with totalLen := header.totalLen.toNat, fragCount := header.fragCount.toNat }
    else slot) = current
  dsimp only
  by_cases mismatch : current.totalLen ≠ header.totalLen.toNat ∨
      current.fragCount ≠ header.fragCount.toNat
  · rw [if_pos mismatch, if_pos mismatch]
    rfl
  · have total : current.totalLen ≤ g2gActionPillMaxLen := by
      rw [not_not.mp (not_or.mp mismatch).1]
      exact admissible.total_le
    have copies := copy_out_ok total (splice current.bytes header.fragOffset.toNat
      (bytes.drop wireHeaderLen)).toList_length
    rw [if_neg mismatch, if_neg mismatch, bit, checked_ok_bind]
    split_ifs with again last
    · rfl
    · rw [copied, checked_ok_bind, whole, checked_ok_bind, fit_to_list, if_pos last, copies.1,
        checked_ok_bind, copies.2.1, checked_ok_bind, copies.2.2]
      rfl
    · rw [copied, checked_ok_bind, whole, checked_ok_bind, fit_to_list, if_neg last]
      rfl

end Store

/-- No access of the fragment handler leaves its range, whatever the bytes and
the state. -/
theorem receive_checked_ok (g2g : G2g) (bytes : Bytes) :
    g2g.receiveChecked bytes = .ok (g2g.receive bytes) := by
  rw [G2g.receiveChecked, read_fragment_ok, checked_ok_bind, G2g.receive]
  cases checked : checkFragment bytes with
  | error err => rfl
  | ok header =>
      have admissible := check_fragment_ok.mp checked
      have payload : slice bytes wireHeaderLen bytes.length = .ok (bytes.drop wireHeaderLen) := by
        rw [slice_ok (by rw [admissible.length]; exact Nat.le_add_right _ _) (Nat.le_refl _),
          List.take_length]
      dsimp only
      rw [seen_checked_ok, checked_ok_bind]
      by_cases seen : g2g.seenCache.contains header.messageId = true
      · rw [if_pos seen, if_pos seen]
        rfl
      · rw [if_neg seen, if_neg seen, payload, checked_ok_bind, rx_slot_for_checked_ok,
          checked_ok_bind, store_checked_ok admissible, checked_ok_bind]
        rfl

end BlindNet
