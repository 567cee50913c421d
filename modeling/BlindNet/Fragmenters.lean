import BlindNet.ClientImages
import BlindNet.G2g

/-!
# Two fragmenters

The client and the firmware cut a message into frames on their own: the client
writes fields into a zeroed buffer, the firmware encodes a header. Both give the
same frames, and the receiver takes every one of them.
-/

namespace BlindNet

set_option autoImplicit false

open ByteLayout StructPack

section Frames

variable {bytes : Bytes} {messageId : MessageId} {fragCount index : Nat}

theorem struct_pack_u16_into_ok {value : Int} {buffer bytes : Bytes} {offset : Nat}
    (packed : packInto [.u16] buffer offset [.int value] = some bytes) :
    PillTools.structPackU16Into buffer offset value = .ok bytes := by
  unfold PillTools.structPackU16Into
  rw [packed]

theorem pack_u16_into_field {value : Nat} (small : value ≤ 65535) (front : Bytes)
    {back : Bytes} {low high : UInt8} (offset : Nat) (position : front.length = offset) :
    PillTools.structPackU16Into (front ++ ([low, high] ++ back)) offset value =
      .ok (front ++ (Layout.u16.encode (UInt16.ofNat value) ++ back)) := by
  obtain ⟨held, image⟩ := pack_u16 (UInt16.ofNat value)
  rw [u16_to_nat small] at held image
  have packed : pack [.u16] [.int value] = some (leBytes 2 value) := by
    rw [pack_cons]
    exact ⟨held, [], rfl, by rw [image, List.append_nil]⟩
  have encoded : Layout.u16.encode (UInt16.ofNat value) = leBytes 2 value := by
    change leBytes 2 (UInt16.ofNat value).toNat = _
    rw [u16_to_nat small]
  have width : [low, high].length = (leBytes 2 value).length := by
    rw [le_bytes_length]
    rfl
  apply struct_pack_u16_into_ok
  rw [encoded]
  exact pack_into_field packed width position

theorem raises_ok_bind {First Second : Type} (value : First)
    (next : First → PillTools.Raises Second) :
    ((Except.ok value : PillTools.Raises First) >>= next) = next value := rfl

theorem client_payload (bytes : Bytes) (index : Nat) :
    PillTools.slice bytes (index * PillTools.g2gWirePayloadMax)
        (index * PillTools.g2gWirePayloadMax + PillTools.g2gWirePayloadMax) =
      fragmentPayload bytes index := by
  unfold PillTools.slice fragmentPayload
  rw [List.drop_take, Nat.add_sub_cancel_left]
  rfl

theorem set_slice_field (front field back new : Bytes) {start stop : Nat}
    (position : front.length = start) (width : start + field.length = stop) :
    PillTools.setSlice (front ++ (field ++ back)) start stop new = front ++ (new ++ back) := by
  have behind : (front ++ (field ++ back)).drop stop = back := by
    rw [← List.append_assoc]
    apply List.drop_left'
    rw [List.length_append, position, width]
  unfold PillTools.setSlice
  rw [behind, List.take_left' position, List.append_assoc]

theorem set_slice_tail (front rest new : Bytes) {start : Nat} (position : front.length = start) :
    PillTools.setSlice (front ++ rest) start (front ++ rest).length new = front ++ new := by
  unfold PillTools.setSlice
  rw [List.take_left' position, List.drop_length, List.append_nil]

/-- The client's buffer, field by field, ends up as the firmware's frame. -/
theorem client_frame (short : bytes.length ≤ g2gActionPillMaxLen)
    (few : fragCount ≤ wireFragmentMaxCount) (inside : index < fragCount) :
    PillTools.buildG2gFrame bytes messageId.toList fragCount index =
      .ok (wireFrame bytes messageId fragCount index) := by
  have length := fragment_payload_length bytes index
  simp only [g2gActionPillMaxLen, wireFragmentMaxCount] at short few
  have step : PillTools.g2gWirePayloadMax = 174 := rfl
  have zeros : ((List.replicate (PillTools.g2gWireHeaderLen +
      (fragmentPayload bytes index).length) (0 : UInt8)).set 0 PillTools.g2gWireVersion).set 1
      PillTools.g2gWireTypeActionPill =
      [1, 1, 0, 0] ++ ([0, 0] ++ ([0, 0] ++ ([0, 0] ++ ([0, 0] ++ ([0, 0] ++
        (List.replicate 32 0 ++ List.replicate (fragmentPayload bytes index).length 0)))))) := by
    rw [List.replicate_add]
    rfl
  simp only [PillTools.buildG2gFrame, client_payload, zeros]
  -- one field after the other, each behind those already written
  rw [pack_u16_into_field (by omega) _ 4 rfl, raises_ok_bind, ← List.append_assoc,
    pack_u16_into_field (by rw [step]; omega) _ 6 rfl, raises_ok_bind, ← List.append_assoc,
    pack_u16_into_field (by omega) _ 8 rfl, raises_ok_bind, ← List.append_assoc,
    pack_u16_into_field (by omega) _ 10 rfl, raises_ok_bind, ← List.append_assoc,
    pack_u16_into_field (by omega) _ 12 rfl, raises_ok_bind, ← List.append_assoc]
  generalize header : [1, 1, 0, 0] ++ Layout.u16.encode (UInt16.ofNat bytes.length) ++
    Layout.u16.encode (UInt16.ofNat (index * PillTools.g2gWirePayloadMax)) ++
    Layout.u16.encode (UInt16.ofNat index) ++ Layout.u16.encode (UInt16.ofNat fragCount) ++
    Layout.u16.encode (UInt16.ofNat (fragmentPayload bytes index).length) = fields
  have fieldsLength : fields.length = 14 := by
    rw [← header]
    rfl
  have named : wireFrame bytes messageId fragCount index =
      fields ++ messageId.toList ++ fragmentPayload bytes index := by
    rw [← header]
    rfl
  have headerLength : (fields ++ messageId.toList).length = PillTools.g2gWireHeaderLen := by
    rw [List.length_append, fieldsLength, List.Vector.toList_length]
    rfl
  rw [set_slice_field fields _ _ _ fieldsLength (by simp), ← List.append_assoc,
    set_slice_tail _ _ _ headerLength, named]

theorem map_m_raises_ok {Item Value : Type} {call : Item → PillTools.Raises Value}
    {value : Item → Value} (items : List Item)
    (returns : ∀ item ∈ items, call item = .ok (value item)) :
    items.mapM call = .ok (items.map value) := by
  induction items with
  | nil => rfl
  | cons item rest induction =>
      have first := returns item List.mem_cons_self
      have later := induction fun other member => returns other (List.mem_cons_of_mem _ member)
      rw [List.mapM_cons, first, later]
      rfl

theorem client_fragments (short : bytes.length ≤ g2gActionPillMaxLen) :
    PillTools.buildG2gFragments bytes messageId.toList =
      .ok ((List.range (fragmentCount bytes.length)).map
        (wireFrame bytes messageId (fragmentCount bytes.length))) := by
  have few : fragmentCount bytes.length ≤ wireFragmentMaxCount := by
    have ceiling : fragmentCount bytes.length = (bytes.length + 173) / 174 := rfl
    simp only [g2gActionPillMaxLen, wireFragmentMaxCount] at short ⊢
    omega
  have fits : ¬ 768 < bytes.length := Nat.not_lt.mpr short
  unfold PillTools.buildG2gFragments
  rw [if_neg fits, if_neg (by simp)]
  apply map_m_raises_ok
  intro index member
  exact client_frame short few (List.mem_range.mp member)

end Frames

/-! ## The firmware's frames -/

/-- Every call of `send_fragment` in the loop succeeds. -/
def SendsSucceed (bytes : Bytes) (messageId : MessageId) (fragCount : Nat) :
    G2gBle → List Nat → Prop
  | _, [] => True
  | ble, index :: rest => ∀ frame, buildFrame bytes messageId fragCount index = .ok frame →
      ((ble.drain index).sendFragment frame).1 = .ok () ∧
        SendsSucceed bytes messageId fragCount ((ble.drain index).sendFragment frame).2 rest

theorem SendsSucceed.cons {bytes : Bytes} {messageId : MessageId} {fragCount index : Nat}
    {rest : List Nat} {ble : G2gBle} (short : bytes.length ≤ g2gActionPillMaxLen)
    (few : fragCount ≤ wireFragmentMaxCount) (inside : index < fragCount)
    (taken : ((ble.drain index).sendFragment (wireFrame bytes messageId fragCount index)).1 =
      .ok ())
    (later : SendsSucceed bytes messageId fragCount
      ((ble.drain index).sendFragment (wireFrame bytes messageId fragCount index)).2 rest) :
    SendsSucceed bytes messageId fragCount ble (index :: rest) := by
  intro frame made
  cases (build_frame_in_range bytes messageId short few inside).symm.trans made
  exact ⟨taken, later⟩

theorem send_fragments_succeeding {bytes : Bytes} {messageId : MessageId} {fragCount : Nat}
    (short : bytes.length ≤ g2gActionPillMaxLen) (few : fragCount ≤ wireFragmentMaxCount)
    (indices : List Nat) (inside : ∀ index ∈ indices, index < fragCount) {ble : G2gBle}
    (succeed : SendsSucceed bytes messageId fragCount ble indices) :
    (sendFragments bytes messageId fragCount ble indices).result = .ok () ∧
      (sendFragments bytes messageId fragCount ble indices).sent =
        indices.map (wireFrame bytes messageId fragCount) := by
  induction indices generalizing ble with
  | nil => exact ⟨rfl, rfl⟩
  | cons index rest induction =>
      have built := build_frame_in_range bytes messageId short few (inside index List.mem_cons_self)
      obtain ⟨taken, later⟩ := succeed _ built
      obtain ⟨result, sent⟩ := induction
        (fun other member => inside other (List.mem_cons_of_mem _ member)) later
      simp only [sendFragments, built, taken, List.map_cons]
      exact ⟨result, by rw [sent]⟩

theorem fragmenters_agree (ble : G2gBle) (g2g : G2g) (bytes : Bytes) (messageId : MessageId)
    (nonempty : 1 ≤ bytes.length) (short : bytes.length ≤ 768)
    (succeed : SendsSucceed bytes messageId (fragmentCount bytes.length) ble
      (List.range (fragmentCount bytes.length))) :
    (sendActionPillBytes ble g2g bytes messageId).1.result = .ok () ∧
      PillTools.buildG2gFragments bytes messageId.toList =
        .ok (sendActionPillBytes ble g2g bytes messageId).1.sent ∧
      ∀ frame ∈ (sendActionPillBytes ble g2g bytes messageId).1.sent,
        ∃ header, checkFragment frame = .ok header := by
  have filled : bytes ≠ [] := List.ne_nil_of_length_pos nonempty
  have ceiling : fragmentCount bytes.length = (bytes.length + 173) / 174 := rfl
  have some : fragmentCount bytes.length ≠ 0 := by omega
  have few : fragmentCount bytes.length ≤ wireFragmentMaxCount := by
    simp only [wireFragmentMaxCount]
    omega
  have sendable : ¬ (bytes = [] ∨ g2gActionPillMaxLen < bytes.length) :=
    not_or.mpr ⟨filled, Nat.not_lt.mpr short⟩
  obtain ⟨result, sent⟩ := send_fragments_succeeding short few _
    (fun index member => List.mem_range.mp member) succeed
  have outcome : (sendActionPillBytes ble g2g bytes messageId).1 =
      sendFragments bytes messageId (fragmentCount bytes.length) ble
        (List.range (fragmentCount bytes.length)) := by
    simp only [sendActionPillBytes, result]
    rw [if_neg sendable, if_neg (not_or.mpr ⟨some, Nat.not_lt.mpr few⟩)]
  rw [outcome, sent]
  refine ⟨result, client_fragments short, ?_⟩
  intro frame member
  obtain ⟨index, listed, rfl⟩ := List.mem_map.mp member
  exact ⟨wireFrameHeader bytes messageId (fragmentCount bytes.length) index,
    check_fragment_ok.mpr (wire_frame_admissible filled short rfl (List.mem_range.mp listed))⟩

def freeBle : G2gBle := ⟨true, [], fun _ => g2gBleTxQueueLen⟩

def plainMessage : Bytes := List.replicate 480 7

theorem plain_message_sends :
    SendsSucceed plainMessage (List.Vector.replicate 32 9) 3 freeBle [0, 1, 2] := by
  have short : plainMessage.length ≤ g2gActionPillMaxLen := by decide +kernel
  apply SendsSucceed.cons short (by decide) (by decide) (by decide +kernel)
  apply SendsSucceed.cons short (by decide) (by decide) (by decide +kernel)
  exact SendsSucceed.cons short (by decide) (by decide) (by decide +kernel) trivial

theorem plain_message_fragmenters_agree :
    (sendActionPillBytes freeBle .boot plainMessage (List.Vector.replicate 32 9)).1.result =
        .ok () ∧
      PillTools.buildG2gFragments plainMessage (List.replicate 32 9) =
        .ok (sendActionPillBytes freeBle .boot plainMessage (List.Vector.replicate 32 9)).1.sent ∧
      ∀ frame ∈
          (sendActionPillBytes freeBle .boot plainMessage (List.Vector.replicate 32 9)).1.sent,
        ∃ header, checkFragment frame = .ok header := by
  have width : plainMessage.length = 480 := List.length_replicate
  apply fragmenters_agree freeBle .boot plainMessage (List.Vector.replicate 32 9)
    (by rw [width]; decide) (by rw [width]; decide)
  rw [width]
  exact plain_message_sends

end BlindNet
