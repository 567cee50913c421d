import BlindNet.ActionPill
import BlindNet.Broker
import BlindNet.Lib.BitMask
import BlindNet.Lib.Ring

/-!
# Guardian to Guardian

Fragmentation, reassembly in four slots, and the cache of seen message ids. The
statics of the module are one record; `receive` is the fragment handler up to
the point where a completed message is handed on. The handler of a completed
pill is a parameter that may itself touch the record, as the installed handler
does when it relays.
-/

namespace BlindNet

set_option autoImplicit false

open ByteLayout RecencyRing

def g2gActionPillMaxLen : Nat := 768
abbrev g2gRxSlots : Nat := 4
def g2gSeenCacheSize : Nat := 32
def g2gBleFragmentMaxLen : Nat := 220
def g2gBleTxQueueLen : Nat := 4

instance : NeZero g2gRxSlots := ⟨by decide⟩

def wireVersion : UInt8 := 1
def wireTypeActionPill : UInt8 := 1
def wireHeaderLen : Nat := 46
def wireFragmentPayloadMax : Nat := g2gBleFragmentMaxLen - wireHeaderLen
def wireFragmentMaxCount : Nat := 32

abbrev MessageId := ByteArr 32

abbrev SeenCache := Ring MessageId g2gSeenCacheSize

structure WireHeader where
  version : UInt8
  kind : UInt8
  reserved : ByteArr 2
  totalLen : UInt16
  fragOffset : UInt16
  fragIndex : UInt16
  fragCount : UInt16
  payloadLen : UInt16
  messageId : MessageId
  deriving DecidableEq

def WireHeader.equiv :
    UInt8 × UInt8 × ByteArr 2 × UInt16 × UInt16 × UInt16 × UInt16 × UInt16 × MessageId ≃
      WireHeader where
  toFun := fun (version, kind, reserved, totalLen, fragOffset, fragIndex, fragCount, payloadLen,
      messageId) =>
    ⟨version, kind, reserved, totalLen, fragOffset, fragIndex, fragCount, payloadLen, messageId⟩
  invFun h := (h.version, h.kind, h.reserved, h.totalLen, h.fragOffset, h.fragIndex, h.fragCount,
    h.payloadLen, h.messageId)
  left_inv _ := rfl
  right_inv _ := rfl

def WireHeader.layout : Layout WireHeader wireHeaderLen :=
  (Layout.byte.pair <| Layout.byte.pair <| (Layout.block 2).pair <| Layout.u16.pair <|
    Layout.u16.pair <| Layout.u16.pair <| Layout.u16.pair <| Layout.u16.pair <|
    Layout.block 32).iso WireHeader.equiv

structure RxSlot where
  inUse : Bool
  messageId : MessageId
  totalLen : Nat
  fragCount : Nat
  receivedMask : BitVec 32
  bytes : ByteArr 768

def RxSlot.empty : RxSlot where
  inUse := false
  messageId := List.Vector.replicate 32 0
  totalLen := 0
  fragCount := 0
  receivedMask := 0
  bytes := List.Vector.replicate 768 0

def RxSlot.opened (messageId : MessageId) : RxSlot :=
  { RxSlot.empty with inUse := true, messageId := messageId }

structure G2g where
  seenCache : SeenCache
  rxSlots : Fin g2gRxSlots → RxSlot

def G2g.boot : G2g where
  seenCache := Ring.empty (List.Vector.replicate 32 0) (by decide)
  rxSlots _ := RxSlot.empty

/-- The slot of a message: the one that holds it, else the first free one, else
slot zero whatever it holds. A newly taken slot is cleared first. -/
def rxSlotFor (slots : Fin g2gRxSlots → RxSlot) (messageId : MessageId) :
    Fin g2gRxSlots × (Fin g2gRxSlots → RxSlot) :=
  match (List.finRange g2gRxSlots).find? fun index =>
      (slots index).inUse && (slots index).messageId == messageId with
  | some index => (index, slots)
  | none =>
      let index :=
        ((List.finRange g2gRxSlots).find? fun index => !(slots index).inUse).getD 0
      (index, Function.update slots index (RxSlot.opened messageId))

inductive Received where
  | rejected (err : EspErr)
  | stored
  | complete (messageId : MessageId) (message : Bytes)

/-- The checks on a fragment that do not look at the state. -/
def checkFragment (bytes : Bytes) : Result WireHeader :=
  if bytes.length < wireHeaderLen then
    .error .invalidSize
  else
    let header := WireHeader.layout.decode (bytes.take wireHeaderLen)
    if header.version ≠ wireVersion ∨ header.kind ≠ wireTypeActionPill ∨
        header.reserved ≠ List.Vector.replicate 2 0 then
      .error .invalidVersion
    else if header.totalLen = 0 ∨ g2gActionPillMaxLen < header.totalLen.toNat ∨
        header.fragCount = 0 ∨ wireFragmentMaxCount < header.fragCount.toNat ∨
        header.fragCount ≤ header.fragIndex ∨
        wireFragmentPayloadMax < header.payloadLen.toNat ∨
        wireHeaderLen + header.payloadLen.toNat ≠ bytes.length ∨
        header.totalLen.toNat < header.fragOffset.toNat + header.payloadLen.toNat then
      .error .invalidSize
    else
      .ok header

/-- What a fragment does to the slot of its message. A slot whose shape does not
match is given up; a fragment that was already received is ignored. -/
def RxSlot.store (slot : RxSlot) (header : WireHeader) (payload : Bytes) : Received × RxSlot :=
  let slot :=
    if slot.totalLen = 0 then
      { slot with totalLen := header.totalLen.toNat, fragCount := header.fragCount.toNat }
    else
      slot
  if slot.totalLen ≠ header.totalLen.toNat ∨ slot.fragCount ≠ header.fragCount.toNat then
    (.rejected .invalidState, RxSlot.empty)
  else if slot.receivedMask &&& BitMask.bit 32 header.fragIndex.toNat ≠ 0 then
    (.rejected .invalidState, slot)
  else
    let slot := { slot with
      bytes := splice slot.bytes header.fragOffset.toNat payload
      receivedMask := slot.receivedMask ||| BitMask.bit 32 header.fragIndex.toNat }
    if slot.receivedMask = BitMask.lowest 32 header.fragCount.toNat then
      (.complete header.messageId (slot.bytes.toList.take slot.totalLen), RxSlot.empty)
    else
      (.stored, slot)

def storeFragment (slots : Fin g2gRxSlots → RxSlot) (header : WireHeader) (payload : Bytes) :
    Received × (Fin g2gRxSlots → RxSlot) :=
  let found := rxSlotFor slots header.messageId
  let stored := (found.2 found.1).store header payload
  (stored.1, Function.update found.2 found.1 stored.2)

def G2g.receive (g2g : G2g) (bytes : Bytes) : Received × G2g :=
  match checkFragment bytes with
  | .error err => (.rejected err, g2g)
  | .ok header =>
      if g2g.seenCache.contains header.messageId then
        (.rejected .invalidState, g2g)
      else
        let stored := storeFragment g2g.rxSlots header (bytes.drop wireHeaderLen)
        (stored.1, { g2g with rxSlots := stored.2 })

/-- `handle_received_action_pill_bytes` up to the handler: the pill is accepted
when its digest is the message id and the id is new. -/
def G2g.acceptActionPillBytes (crypto : Crypto) (g2g : G2g) (bytes : Bytes)
    (messageId : MessageId) : Result ActionPill × G2g :=
  if bytes.length ≠ actionPillSize then
    (.error .invalidSize, g2g)
  else
    let pill := ActionPill.layout.decode bytes
    match computeInnerId crypto pill with
    | .error err => (.error err, g2g)
    | .ok computedId =>
        if computedId ≠ messageId then
          (.error .invalidCrc, g2g)
        else
          let added := g2g.seenCache.seenOrAdd messageId
          if added.1 then
            (.error .invalidState, { g2g with seenCache := added.2 })
          else
            (.ok pill, { g2g with seenCache := added.2 })

/-- The BLE transport while one pill is sent. `drained index` is the number of
queued fragments the transmit task takes out before fragment `index` is offered. -/
structure G2gBle where
  running : Bool
  txQueue : List Bytes
  drained : Nat → Nat

def G2gBle.drain (ble : G2gBle) (index : Nat) : G2gBle :=
  { ble with txQueue := ble.txQueue.drop (ble.drained index) }

def G2gBle.sendFragment (ble : G2gBle) (bytes : Bytes) : Result Unit × G2gBle :=
  if !ble.running then
    (.error .invalidState, ble)
  else if bytes.length = 0 ∨ g2gBleFragmentMaxLen < bytes.length then
    (.error .invalidArg, ble)
  else if g2gBleTxQueueLen ≤ ble.txQueue.length then
    (.error .noMem, ble)
  else
    (.ok (), { ble with txQueue := ble.txQueue ++ [bytes] })

def writeU16Le (value : Nat) : Result UInt16 :=
  if 65535 < value then .error .invalidSize else .ok (UInt16.ofNat value)

def fragmentPayload (bytes : Bytes) (index : Nat) : Bytes :=
  (bytes.drop (index * wireFragmentPayloadMax)).take wireFragmentPayloadMax

/-- One frame: the header fields in the order they are written, then the slice
of the message. -/
def buildFrame (bytes : Bytes) (messageId : MessageId) (fragCount index : Nat) : Result Bytes :=
  let payload := fragmentPayload bytes index
  match writeU16Le bytes.length with
  | .error err => .error err
  | .ok totalLen =>
      match writeU16Le (index * wireFragmentPayloadMax) with
      | .error err => .error err
      | .ok fragOffset =>
          match writeU16Le index with
          | .error err => .error err
          | .ok fragIndex =>
              match writeU16Le fragCount with
              | .error err => .error err
              | .ok count =>
                  match writeU16Le payload.length with
                  | .error err => .error err
                  | .ok payloadLen =>
                      .ok (WireHeader.layout.encode
                        ⟨wireVersion, wireTypeActionPill, List.Vector.replicate 2 0, totalLen,
                          fragOffset, fragIndex, count, payloadLen, messageId⟩ ++ payload)

structure SendOutcome where
  result : Result Unit
  ble : G2gBle
  sent : List Bytes

/-- The fragment loop; it ends at the first fragment that is not taken, with
the earlier ones already queued. -/
def sendFragments (bytes : Bytes) (messageId : MessageId) (fragCount : Nat) (ble : G2gBle) :
    List Nat → SendOutcome
  | [] => ⟨.ok (), ble, []⟩
  | index :: rest =>
      match buildFrame bytes messageId fragCount index with
      | .error err => ⟨.error err, ble, []⟩
      | .ok frame =>
          let offered := (ble.drain index).sendFragment frame
          match offered.1 with
          | .error err => ⟨.error err, offered.2, []⟩
          | .ok () =>
              let later := sendFragments bytes messageId fragCount offered.2 rest
              { later with sent := frame :: later.sent }

def fragmentCount (length : Nat) : Nat :=
  (length + wireFragmentPayloadMax - 1) / wireFragmentPayloadMax

def sendActionPillBytes (ble : G2gBle) (g2g : G2g) (bytes : Bytes) (messageId : MessageId) :
    SendOutcome × G2g :=
  if bytes = [] ∨ g2gActionPillMaxLen < bytes.length then
    (⟨.error .invalidSize, ble, []⟩, g2g)
  else
    let fragCount := fragmentCount bytes.length
    if fragCount = 0 ∨ wireFragmentMaxCount < fragCount then
      (⟨.error .invalidSize, ble, []⟩, g2g)
    else
      let outcome := sendFragments bytes messageId fragCount ble (List.range fragCount)
      match outcome.result with
      | .error _ => (outcome, g2g)
      | .ok () => (outcome, { g2g with seenCache := g2g.seenCache.add messageId })

def sendActionPill (crypto : Crypto) (ble : G2gBle) (g2g : G2g) (pill : ActionPill) :
    SendOutcome × G2g :=
  match computeInnerId crypto pill with
  | .error err => (⟨.error err, ble, []⟩, g2g)
  | .ok messageId => sendActionPillBytes ble g2g (ActionPill.layout.encode pill) messageId

/-- What a Guardian does that can be seen from outside: a pill handed to the
handler, a fragment queued for its peers, a call of the MQTT broker. -/
inductive Event where
  | handled (pill : ActionPill)
  | relayed (frame : Bytes)
  | published (publication : Publication)
  deriving DecidableEq

structure Node (Core : Type) where
  g2g : G2g
  core : Core

structure Outcome (Core : Type) where
  result : Result Unit
  node : Node Core
  events : List Event

abbrev ActionPillHandler (Core : Type) := ActionPill → Node Core → Outcome Core

section Handler

variable {Core : Type} (crypto : Crypto) (handler : Option (ActionPillHandler Core))

def handleReceivedActionPillBytes (node : Node Core) (bytes : Bytes) (messageId : MessageId) :
    Outcome Core :=
  let accepted := node.g2g.acceptActionPillBytes crypto bytes messageId
  let node := { node with g2g := accepted.2 }
  match accepted.1 with
  | .error err => ⟨.error err, node, []⟩
  | .ok pill =>
      match handler with
      | none => ⟨.ok (), node, []⟩
      | some handle =>
          let outcome := handle pill node
          { outcome with events := .handled pill :: outcome.events }

def handleReceivedFragment (node : Node Core) (bytes : Bytes) : Outcome Core :=
  let received := node.g2g.receive bytes
  let node := { node with g2g := received.2 }
  match received.1 with
  | .rejected err => ⟨.error err, node, []⟩
  | .stored => ⟨.ok (), node, []⟩
  | .complete messageId message =>
      handleReceivedActionPillBytes crypto handler node message messageId

end Handler

def frameMessageId (bytes : Bytes) : MessageId :=
  (WireHeader.layout.decode (bytes.take wireHeaderLen)).messageId

/-- A fragment that passes the checks on its header and its length. -/
structure WireHeader.Admissible (header : WireHeader) (bytes : Bytes) : Prop where
  decoded : header = WireHeader.layout.decode (bytes.take wireHeaderLen)
  version : header.version = wireVersion
  kind : header.kind = wireTypeActionPill
  reserved : header.reserved = List.Vector.replicate 2 0
  total_pos : 0 < header.totalLen.toNat
  total_le : header.totalLen.toNat ≤ g2gActionPillMaxLen
  count_pos : 0 < header.fragCount.toNat
  count_le : header.fragCount.toNat ≤ wireFragmentMaxCount
  index_lt : header.fragIndex.toNat < header.fragCount.toNat
  payload_le : header.payloadLen.toNat ≤ wireFragmentPayloadMax
  length : bytes.length = wireHeaderLen + header.payloadLen.toNat
  inside : header.fragOffset.toNat + header.payloadLen.toNat ≤ header.totalLen.toNat

theorem check_fragment_ok {bytes : Bytes} {header : WireHeader} :
    checkFragment bytes = .ok header ↔ header.Admissible bytes := by
  have zero : ∀ value : UInt16, value = 0 ↔ value.toNat = 0 := by
    intro value
    rw [← UInt16.toNat_inj]
    rfl
  simp only [checkFragment, guard_ok, Except.ok.injEq]
  constructor
  · intro accepted
    obtain ⟨long, versions, bounds, rfl⟩ := accepted
    push Not at versions bounds
    obtain ⟨total, totalMax, count, countMax, index, payload, length, inside⟩ := bounds
    rw [ne_eq, zero] at total count
    rw [UInt16.not_le, UInt16.lt_iff_toNat_lt] at index
    exact ⟨rfl, versions.1, versions.2.1, versions.2.2, Nat.pos_of_ne_zero total, totalMax,
      Nat.pos_of_ne_zero count, countMax, index, payload, length.symm, inside⟩
  · intro admissible
    have decoded := admissible.decoded
    refine ⟨?_, ?_, ?_, decoded.symm⟩
    · have length := admissible.length
      omega
    · rw [← decoded]
      simp [admissible.version, admissible.kind, admissible.reserved]
    · rw [← decoded]
      have total := admissible.total_pos
      have totalMax := admissible.total_le
      have count := admissible.count_pos
      have countMax := admissible.count_le
      have payload := admissible.payload_le
      have length := admissible.length
      have inside := admissible.inside
      have index : ¬ header.fragCount ≤ header.fragIndex := by
        rw [UInt16.not_le, UInt16.lt_iff_toNat_lt]
        exact admissible.index_lt
      rw [zero, zero]
      simp only [index, false_or, not_or, not_not]
      omega

theorem WireHeader.Admissible.message_id {header : WireHeader} {bytes : Bytes}
    (admissible : header.Admissible bytes) : header.messageId = frameMessageId bytes := by
  rw [frameMessageId, ← admissible.decoded]

theorem receive_seen_cache (g2g : G2g) (bytes : Bytes) :
    (g2g.receive bytes).2.seenCache = g2g.seenCache := by
  unfold G2g.receive
  cases checkFragment bytes with
  | error err => rfl
  | ok header =>
      by_cases seen : g2g.seenCache.contains header.messageId = true
      · simp [seen]
      · simp [seen]

/-- A frame of a seen message is rejected before any slot is touched. -/
theorem receive_seen {g2g : G2g} {bytes : Bytes}
    (seen : frameMessageId bytes ∈ g2g.seenCache.recent) :
    ∃ err, g2g.receive bytes = (.rejected err, g2g) := by
  unfold G2g.receive
  cases checked : checkFragment bytes with
  | error err => exact ⟨err, rfl⟩
  | ok header =>
      have named := (check_fragment_ok.mp checked).message_id
      rw [← named, ← Ring.contains_iff_recent] at seen
      exact ⟨.invalidState, if_pos seen⟩

/-- The id of a frame that passes the checks; other frames carry none. -/
def carriedId (bytes : Bytes) : Option MessageId :=
  match checkFragment bytes with
  | .error _ => none
  | .ok header => some header.messageId

theorem carried_id_frame {bytes : Bytes} {messageId : MessageId}
    (carried : carriedId bytes = some messageId) : messageId = frameMessageId bytes := by
  unfold carriedId at carried
  cases checked : checkFragment bytes with
  | error err => simp [checked] at carried
  | ok header =>
      simp only [checked, Option.some.injEq] at carried
      rw [← carried]
      exact (check_fragment_ok.mp checked).message_id

theorem receive_seen_carried {g2g : G2g} {bytes : Bytes} {messageId : MessageId}
    (carried : carriedId bytes = some messageId) (seen : messageId ∈ g2g.seenCache.recent) :
    g2g.receive bytes = (.rejected .invalidState, g2g) := by
  unfold carriedId at carried
  unfold G2g.receive
  cases checked : checkFragment bytes with
  | error err => simp [checked] at carried
  | ok header =>
      simp only [checked, Option.some.injEq] at carried
      rw [← carried, ← Ring.contains_iff_recent] at seen
      exact if_pos seen

theorem receive_complete {g2g : G2g} {bytes message : Bytes} {messageId : MessageId}
    (completed : (g2g.receive bytes).1 = .complete messageId message) :
    carriedId bytes = some messageId ∧ messageId ∉ g2g.seenCache.recent := by
  unfold G2g.receive at completed
  cases checked : checkFragment bytes with
  | error err => simp [checked] at completed
  | ok header =>
      by_cases seen : g2g.seenCache.contains header.messageId = true
      · simp [checked, seen] at completed
      · have stored : (storeFragment g2g.rxSlots header (bytes.drop wireHeaderLen)).1 =
            .complete messageId message := by
          simpa [checked, seen] using completed
        have same : header.messageId = messageId := by
          simp only [storeFragment, RxSlot.store] at stored
          split_ifs at stored
          all_goals exact (Received.complete.inj stored).1
        rw [Ring.contains_iff_recent] at seen
        exact ⟨by simp only [carriedId, checked, same], same ▸ seen⟩

/-- A pill is accepted when it is the decoded message, its digest is the id and
the id is not in the cache; then the id is inserted. Otherwise nothing changes. -/
theorem accept_action_pill_bytes_cases (crypto : Crypto) (g2g : G2g) (bytes : Bytes)
    (messageId : MessageId) :
    (∃ err, g2g.acceptActionPillBytes crypto bytes messageId = (.error err, g2g)) ∨
    (∃ pill, bytes = ActionPill.layout.encode pill ∧ computeInnerId crypto pill = .ok messageId ∧
      messageId ∉ g2g.seenCache.recent ∧
      g2g.acceptActionPillBytes crypto bytes messageId =
        (.ok pill, { g2g with seenCache := g2g.seenCache.add messageId })) := by
  by_cases sized : bytes.length = actionPillSize
  · have encoded := ActionPill.layout.encode_decode bytes sized
    cases digest : computeInnerId crypto (ActionPill.layout.decode bytes) with
    | error err => exact Or.inl ⟨err, by simp [G2g.acceptActionPillBytes, sized, digest]⟩
    | ok computed =>
        by_cases same : computed = messageId
        · by_cases seen : g2g.seenCache.contains messageId = true
          · exact Or.inl ⟨.invalidState, by
              simp [G2g.acceptActionPillBytes, sized, digest, same, Ring.seenOrAdd, seen]⟩
          · refine Or.inr ⟨ActionPill.layout.decode bytes, encoded.symm, ?_, ?_, ?_⟩
            · rw [digest, same]
            · rwa [Ring.contains_iff_recent] at seen
            · simp [G2g.acceptActionPillBytes, sized, digest, same, Ring.seenOrAdd, seen]
        · exact Or.inl ⟨.invalidCrc, by
            simp [G2g.acceptActionPillBytes, sized, digest, same]⟩
  · exact Or.inl ⟨.invalidSize, by simp [G2g.acceptActionPillBytes, sized]⟩

/-- The header of a frame whose fields are all in range. -/
def wireFrameHeader (bytes : Bytes) (messageId : MessageId) (fragCount index : Nat) :
    WireHeader where
  version := wireVersion
  kind := wireTypeActionPill
  reserved := List.Vector.replicate 2 0
  totalLen := UInt16.ofNat bytes.length
  fragOffset := UInt16.ofNat (index * wireFragmentPayloadMax)
  fragIndex := UInt16.ofNat index
  fragCount := UInt16.ofNat fragCount
  payloadLen := UInt16.ofNat (fragmentPayload bytes index).length
  messageId := messageId

def wireFrame (bytes : Bytes) (messageId : MessageId) (fragCount index : Nat) : Bytes :=
  WireHeader.layout.encode (wireFrameHeader bytes messageId fragCount index) ++
    fragmentPayload bytes index

theorem fragment_payload_length (bytes : Bytes) (index : Nat) :
    (fragmentPayload bytes index).length = min 174 (bytes.length - index * 174) := by
  rw [fragmentPayload, List.length_take, List.length_drop]
  rfl

theorem build_frame_in_range (bytes : Bytes) (messageId : MessageId) {fragCount index : Nat}
    (short : bytes.length ≤ g2gActionPillMaxLen) (few : fragCount ≤ wireFragmentMaxCount)
    (inside : index < fragCount) :
    buildFrame bytes messageId fragCount index =
      .ok (wireFrame bytes messageId fragCount index) := by
  have payload := fragment_payload_length bytes index
  have written : ∀ value, value ≤ 65535 → writeU16Le value = .ok (UInt16.ofNat value) := by
    intro value small
    rw [writeU16Le, if_neg (Nat.not_lt.mpr small)]
  have step : wireFragmentPayloadMax = 174 := rfl
  simp only [g2gActionPillMaxLen, wireFragmentMaxCount] at short few
  simp only [buildFrame]
  rw [written _ (by omega), written (index * wireFragmentPayloadMax) (by rw [step]; omega),
    written index (by omega), written fragCount (by omega),
    written (fragmentPayload bytes index).length (by omega)]
  rfl

/-- Whether the transmit queue takes the fragments with these indices one after
the other, given how many are queued now. -/
def queueTakes (drained : Nat → Nat) : Nat → List Nat → Bool
  | _, [] => true
  | queued, index :: rest =>
      decide (queued - drained index < g2gBleTxQueueLen) &&
        queueTakes drained (queued - drained index + 1) rest

def G2gBle.takes (ble : G2gBle) (fragCount : Nat) : Bool :=
  ble.running && queueTakes ble.drained ble.txQueue.length (List.range fragCount)

section Sending

variable {bytes : Bytes} {messageId : MessageId} {fragCount : Nat}

theorem wire_frame_length (index : Nat) :
    (wireFrame bytes messageId fragCount index).length =
      46 + min 174 (bytes.length - index * 174) := by
  rw [wireFrame, List.length_append, WireHeader.layout.encode_length, fragment_payload_length]
  rfl

theorem wire_frame_sized (index : Nat) :
    ¬ ((wireFrame bytes messageId fragCount index).length = 0 ∨
      g2gBleFragmentMaxLen < (wireFrame bytes messageId fragCount index).length) := by
  have length : (wireFrame bytes messageId fragCount index).length =
      46 + min 174 (bytes.length - index * 174) := wire_frame_length index
  simp only [g2gBleFragmentMaxLen]
  omega

theorem send_fragments_spec (short : bytes.length ≤ g2gActionPillMaxLen)
    (few : fragCount ≤ wireFragmentMaxCount) (indices : List Nat)
    (inside : ∀ index ∈ indices, index < fragCount) (ble : G2gBle) (running : ble.running = true) :
    ((sendFragments bytes messageId fragCount ble indices).result = .ok () ↔
      queueTakes ble.drained ble.txQueue.length indices = true) ∧
    (sendFragments bytes messageId fragCount ble indices).sent <+:
      indices.map (wireFrame bytes messageId fragCount) ∧
    ((sendFragments bytes messageId fragCount ble indices).result = .ok () →
      (sendFragments bytes messageId fragCount ble indices).sent =
        indices.map (wireFrame bytes messageId fragCount)) := by
  induction indices generalizing ble with
  | nil => simp [sendFragments, queueTakes]
  | cons index rest induction =>
      have built := build_frame_in_range bytes messageId short few (inside index List.mem_cons_self)
      have sized := @wire_frame_sized bytes messageId fragCount index
      by_cases room : ble.txQueue.length - ble.drained index < g2gBleTxQueueLen
      · -- The fragment is queued; the rest of the loop sees one more entry.
        have fits : ¬ g2gBleTxQueueLen ≤ (ble.drain index).txQueue.length := by
          simpa [G2gBle.drain] using room
        have offered : (ble.drain index).sendFragment
            (wireFrame bytes messageId fragCount index) =
              (.ok (), { ble.drain index with txQueue := (ble.drain index).txQueue ++
                [wireFrame bytes messageId fragCount index] }) := by
          rw [G2gBle.sendFragment, if_neg (by simp [G2gBle.drain, running]), if_neg sized,
            if_neg fits]
        have unfolded : sendFragments bytes messageId fragCount ble (index :: rest) =
            { sendFragments bytes messageId fragCount
                { ble.drain index with txQueue := (ble.drain index).txQueue ++
                  [wireFrame bytes messageId fragCount index] } rest with
              sent := wireFrame bytes messageId fragCount index ::
                (sendFragments bytes messageId fragCount
                  { ble.drain index with txQueue := (ble.drain index).txQueue ++
                    [wireFrame bytes messageId fragCount index] } rest).sent } := by
          simp only [sendFragments, built, offered]
        obtain ⟨taken, sent, whole⟩ := induction
          (fun later member => inside later (List.mem_cons_of_mem _ member))
          { ble.drain index with txQueue := (ble.drain index).txQueue ++
            [wireFrame bytes messageId fragCount index] } running
        rw [unfolded]
        refine ⟨?_, ?_, ?_⟩
        · simp only [taken, queueTakes, room, decide_true, Bool.true_and]
          simp [G2gBle.drain]
        · rw [List.map_cons]
          exact (List.prefix_cons_inj _).mpr sent
        · intro accepted
          rw [List.map_cons, whole accepted]
      · have full : g2gBleTxQueueLen ≤ (ble.drain index).txQueue.length := by
          simpa [G2gBle.drain] using room
        have offered : (ble.drain index).sendFragment
            (wireFrame bytes messageId fragCount index) = (.error .noMem, ble.drain index) := by
          rw [G2gBle.sendFragment, if_neg (by simp [G2gBle.drain, running]), if_neg sized,
            if_pos full]
        simp [sendFragments, built, offered, queueTakes, room]

/-- A stopped transport takes no fragment. -/
theorem send_fragments_stopped (short : bytes.length ≤ g2gActionPillMaxLen)
    (few : fragCount ≤ wireFragmentMaxCount) {index : Nat} (inside : index < fragCount)
    (rest : List Nat) {ble : G2gBle} (stopped : ¬ ble.running = true) :
    sendFragments bytes messageId fragCount ble (index :: rest) =
      ⟨.error .invalidState, ble.drain index, []⟩ := by
  have built := build_frame_in_range bytes messageId short few inside
  simp [sendFragments, built, G2gBle.sendFragment, G2gBle.drain, stopped]

theorem send_fragments_starts (short : bytes.length ≤ g2gActionPillMaxLen)
    (few : fragCount ≤ wireFragmentMaxCount) {index : Nat} (inside : index < fragCount)
    (rest : List Nat) (ble : G2gBle) :
    (sendFragments bytes messageId fragCount ble (index :: rest)).sent ≠ [] ↔
      ble.running = true ∧ ble.txQueue.length - ble.drained index < g2gBleTxQueueLen := by
  have built := build_frame_in_range bytes messageId short few inside
  have sized := @wire_frame_sized bytes messageId fragCount index
  by_cases running : ble.running = true
  · by_cases room : ble.txQueue.length - ble.drained index < g2gBleTxQueueLen
    · have fits : ¬ g2gBleTxQueueLen ≤ (ble.drain index).txQueue.length := by
        simpa [G2gBle.drain] using room
      have offered : ((ble.drain index).sendFragment
          (wireFrame bytes messageId fragCount index)).1 = .ok () := by
        rw [G2gBle.sendFragment, if_neg (by simp [G2gBle.drain, running]), if_neg sized,
          if_neg fits]
      simp [sendFragments, built, offered, running, room]
    · have full : g2gBleTxQueueLen ≤ (ble.drain index).txQueue.length := by
        simpa [G2gBle.drain] using room
      have offered : ((ble.drain index).sendFragment
          (wireFrame bytes messageId fragCount index)).1 = .error .noMem := by
        rw [G2gBle.sendFragment, if_neg (by simp [G2gBle.drain, running]), if_neg sized,
          if_pos full]
      simp [sendFragments, built, offered, room]
  · simp [send_fragments_stopped short few inside rest running, running]

theorem takes_first (ble : G2gBle) :
    ble.takes 1 = true ↔
      ble.running = true ∧ ble.txQueue.length - ble.drained 0 < g2gBleTxQueueLen := by
  change (ble.running && (decide _ && true)) = true ↔ _
  rw [Bool.and_true, Bool.and_eq_true, decide_eq_true_iff]

theorem wire_frame_header_decode (index : Nat) :
    WireHeader.layout.decode ((wireFrame bytes messageId fragCount index).take wireHeaderLen) =
      wireFrameHeader bytes messageId fragCount index :=
  WireHeader.layout.decode_append _ _

theorem frame_message_id_wire_frame (index : Nat) :
    frameMessageId (wireFrame bytes messageId fragCount index) = messageId := by
  rw [frameMessageId, wire_frame_header_decode]
  rfl

theorem wire_frame_payload (index : Nat) :
    (wireFrame bytes messageId fragCount index).drop wireHeaderLen =
      fragmentPayload bytes index :=
  List.drop_left' (WireHeader.layout.encode_length _)

theorem u16_to_nat {value : Nat} (small : value ≤ 65535) :
    (UInt16.ofNat value).toNat = value := by
  rw [UInt16.toNat_ofNat']
  exact Nat.mod_eq_of_lt (by omega)

theorem wire_frame_admissible (nonempty : bytes ≠ []) (short : bytes.length ≤ g2gActionPillMaxLen)
    (counted : fragCount = fragmentCount bytes.length) {index : Nat} (inside : index < fragCount) :
    (wireFrameHeader bytes messageId fragCount index).Admissible
      (wireFrame bytes messageId fragCount index) := by
  have positive := List.length_pos_of_ne_nil nonempty
  have payload := fragment_payload_length bytes index
  have length : (wireFrame bytes messageId fragCount index).length =
      46 + min 174 (bytes.length - index * 174) := wire_frame_length index
  have last : index * 174 < bytes.length := by
    have ceiling : fragmentCount bytes.length = (bytes.length + 173) / 174 := rfl
    rw [counted, ceiling] at inside
    omega
  simp only [g2gActionPillMaxLen] at short
  have total : (UInt16.ofNat bytes.length).toNat = bytes.length := u16_to_nat (by omega)
  have offset : (UInt16.ofNat (index * 174)).toNat = index * 174 := u16_to_nat (by omega)
  have position : (UInt16.ofNat index).toNat = index := u16_to_nat (by omega)
  have few : fragCount ≤ 5 := by
    have ceiling : fragmentCount bytes.length = (bytes.length + 173) / 174 := rfl
    omega
  have number : (UInt16.ofNat fragCount).toNat = fragCount := u16_to_nat (by omega)
  have size : (UInt16.ofNat (fragmentPayload bytes index).length).toNat =
      (fragmentPayload bytes index).length := u16_to_nat (by omega)
  refine ⟨(wire_frame_header_decode index).symm, rfl, rfl, rfl, ?_, ?_, ?_, ?_, ?_, ?_, ?_, ?_⟩
  · exact lt_of_lt_of_eq positive total.symm
  · exact le_of_eq_of_le total short
  · exact lt_of_lt_of_eq (Nat.lt_of_le_of_lt (Nat.zero_le _) inside) number.symm
  · exact le_of_eq_of_le number (Nat.le_trans few (by decide))
  · exact lt_of_eq_of_lt position (lt_of_lt_of_eq inside number.symm)
  · refine le_of_eq_of_le size ?_
    rw [payload]
    exact Nat.min_le_left _ _
  · refine length.trans ?_
    rw [← payload, ← size]
    rfl
  · refine le_of_eq_of_le (congrArg₂ (· + ·) offset size) (le_of_le_of_eq ?_ total.symm)
    omega

end Sending

/-- The frames of a pill: 480 bytes make three fragments. -/
def pillFrame (pill : ActionPill) (messageId : MessageId) (index : Nat) : Bytes :=
  wireFrame (ActionPill.layout.encode pill) messageId 3 index

theorem pill_frame_id {pill : ActionPill} {messageId : MessageId} (index : Nat) :
    frameMessageId (pillFrame pill messageId index) = messageId :=
  frame_message_id_wire_frame index

def pillFrames (pill : ActionPill) (messageId : MessageId) : List Bytes :=
  (List.range 3).map (pillFrame pill messageId)

theorem pill_frames_id {pill : ActionPill} {messageId : MessageId} {frame : Bytes}
    (member : frame ∈ pillFrames pill messageId) : frameMessageId frame = messageId := by
  rcases List.mem_map.mp member with ⟨index, -, rfl⟩
  exact pill_frame_id index

theorem pill_frames_nodup (pill : ActionPill) (messageId : MessageId) :
    (pillFrames pill messageId).Nodup := by
  apply List.Nodup.map_on _ List.nodup_range
  intro first isFirst second isSecond same
  have headers := congrArg
    (fun frame : Bytes => WireHeader.layout.decode (frame.take wireHeaderLen)) same
  simp only [pillFrame, wire_frame_header_decode] at headers
  have indices : (UInt16.ofNat first).toNat = (UInt16.ofNat second).toNat :=
    congrArg (fun header : WireHeader => header.fragIndex.toNat) headers
  rw [List.mem_range] at isFirst isSecond
  rwa [u16_to_nat (by omega), u16_to_nat (by omega)] at indices

theorem send_action_pill_bytes_pill (ble : G2gBle) (g2g : G2g) (pill : ActionPill)
    (messageId : MessageId) :
    sendActionPillBytes ble g2g (ActionPill.layout.encode pill) messageId =
      let outcome := sendFragments (ActionPill.layout.encode pill) messageId 3 ble (List.range 3)
      match outcome.result with
      | .error _ => (outcome, g2g)
      | .ok () => (outcome, { g2g with seenCache := g2g.seenCache.add messageId }) := by
  have length : (ActionPill.layout.encode pill).length = 480 := ActionPill.layout.encode_length pill
  have counted : fragmentCount (ActionPill.layout.encode pill).length = 3 := by
    rw [length]
    rfl
  have sized : ¬ (ActionPill.layout.encode pill = [] ∨
      g2gActionPillMaxLen < (ActionPill.layout.encode pill).length) := by
    intro wrong
    rcases wrong with empty | long
    · rw [empty] at length
      simp at length
    · rw [length] at long
      exact absurd long (by decide)
  simp only [sendActionPillBytes]
  rw [if_neg sized, counted, if_neg (by decide)]

/-- A relay inserts the id once more exactly when the transport takes all of
its fragments; what is queued is always an initial part of the pill's frames. -/
theorem send_action_pill_spec {crypto : Crypto} {pill : ActionPill} {messageId : MessageId}
    (digest : computeInnerId crypto pill = .ok messageId) (ble : G2gBle) (g2g : G2g) :
    ((sendActionPill crypto ble g2g pill).1.result = .ok () ↔ ble.takes 3 = true) ∧
    (sendActionPill crypto ble g2g pill).2 =
      (if ble.takes 3 then { g2g with seenCache := g2g.seenCache.add messageId } else g2g) ∧
    (sendActionPill crypto ble g2g pill).1.sent <+: pillFrames pill messageId ∧
    (ble.takes 3 = true →
      (sendActionPill crypto ble g2g pill).1.sent = pillFrames pill messageId) := by
  have length : (ActionPill.layout.encode pill).length = 480 := ActionPill.layout.encode_length pill
  have short : (ActionPill.layout.encode pill).length ≤ g2gActionPillMaxLen := by
    rw [length]
    decide
  have unfolded : sendActionPill crypto ble g2g pill =
      sendActionPillBytes ble g2g (ActionPill.layout.encode pill) messageId := by
    rw [sendActionPill, digest]
  rw [unfolded, send_action_pill_bytes_pill]
  by_cases running : ble.running = true
  · obtain ⟨taken, sent, whole⟩ :=
      @send_fragments_spec _ messageId 3 short (by decide) (List.range 3) (by simp) ble running
    have takes : ble.takes 3 = true ↔ queueTakes ble.drained ble.txQueue.length (List.range 3) =
        true := by
      simp [G2gBle.takes, running]
    rw [← takes] at taken
    cases result : (sendFragments (ActionPill.layout.encode pill) messageId 3 ble
        (List.range 3)).result with
    | error err =>
        have refused : ¬ ble.takes 3 = true := by
          rw [← taken, result]
          simp
        simp only [result, refused]
        exact ⟨by simp, by simp, sent, fun accepted => absurd accepted (by simp)⟩
    | ok =>
        have accepted : ble.takes 3 = true := taken.mp result
        simp only [result, accepted]
        exact ⟨by simp, by simp, sent, fun _ => whole result⟩
  · have refused : ble.takes 3 = false := by
      simp [G2gBle.takes, running]
    have stopped : sendFragments (ActionPill.layout.encode pill) messageId 3 ble (List.range 3) =
        ⟨.error .invalidState, ble.drain 0, []⟩ :=
      send_fragments_stopped short (by decide) (by decide) _ running
    simp [stopped, refused]

theorem send_action_pill_starts {crypto : Crypto} {pill : ActionPill} {messageId : MessageId}
    (digest : computeInnerId crypto pill = .ok messageId) (ble : G2gBle) (g2g : G2g) :
    (sendActionPill crypto ble g2g pill).1.sent ≠ [] ↔ ble.takes 1 = true := by
  have short : (ActionPill.layout.encode pill).length ≤ g2gActionPillMaxLen := by
    rw [ActionPill.layout.encode_length]
    decide
  have queued : (sendActionPill crypto ble g2g pill).1.sent =
      (sendFragments (ActionPill.layout.encode pill) messageId 3 ble [0, 1, 2]).sent := by
    have unfolded : sendActionPill crypto ble g2g pill =
        sendActionPillBytes ble g2g (ActionPill.layout.encode pill) messageId := by
      rw [sendActionPill, digest]
    rw [unfolded, send_action_pill_bytes_pill]
    cases result : (sendFragments (ActionPill.layout.encode pill) messageId 3 ble
        (List.range 3)).result with
    | error err =>
        simp only [result]
        rfl
    | ok =>
        simp only [result]
        rfl
  rw [queued, takes_first]
  exact send_fragments_starts short (by decide) (by decide) _ ble

end BlindNet
