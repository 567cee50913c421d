import BlindNet.Broker
import BlindNet.Lib.Bounds
import BlindNet.Lib.Mqtt

/-!
# The local MQTT client

`local_mqtt_publish` speaks MQTT to the broker's own port: it connects, lays a
PUBLISH out in a buffer on its stack and sends it. Every store into one of the
buffers is checked here, so that a run without a fault is one that stays inside
them. What the sockets answer is a parameter.
-/

namespace BlindNet

set_option autoImplicit false

open ByteLayout Bounds

def mqttBrokerTopicLen : Nat := 96
def publishPacketLen : Nat := mqttBrokerTopicLen + mqttBrokerPayloadMaxLen + 8
def connectPacketLen : Nat := 128
def mqttLocalPublishClientId : Bytes := CString.utf8 "zoneguard-local"
def protocolName : Bytes := CString.utf8 "MQTT"
def disconnectPacket : Bytes := [0xE0, 0x00]

inductive Errno where
  | enomem
  | einval
  | etimedout
  | other

def socketErrnoToEsp : Errno → EspErr
  | .enomem => .noMem
  | .einval => .invalidArg
  | .etimedout => .timeout
  | .other => .fail

/-- The answer of one `send`; an accepted one takes at least one byte and at most
those it was given. -/
inductive SendAnswer where
  | failed (errno : Errno)
  | closed
  | accepted (count : Nat)

/-- What the socket calls of one publication answer. No two calls of `send` are
made after the same number of bytes, so the answer may depend on that alone. -/
structure LocalSocket where
  socket : Except Errno Unit
  connect : Except Errno Unit
  send : Nat → SendAnswer
  recv : Except Errno Bytes

/-- The result of `send_all` and the bytes the peer was given. -/
def sendAll (send : Nat → SendAnswer) (position : Nat) (data : Bytes) : Result Unit × Bytes :=
  if data = [] then
    (.ok (), [])
  else
    match send position with
    | .failed errno => (.error (socketErrnoToEsp errno), [])
    | .closed => (.error .invalidState, [])
    | .accepted count =>
        let rc := max 1 (min count data.length)
        let later := sendAll send (position + rc) (data.drop rc)
        (later.1, data.take rc ++ later.2)
termination_by data.length
decreasing_by
  rename_i given
  have positive := List.length_pos_of_ne_nil given
  rw [List.length_drop]
  omega

/-- The `do … while` loop, which also stops when its four bytes are used up. -/
def encodeRemainingFrom : Nat → Bytes → Nat → Nat → Checked (Bytes × Nat)
  | 0, out, len, _ => return (out, len)
  | left + 1, out, len, value => do
      let byte := UInt8.ofNat (value % 128)
      let byte := if 0 < value / 128 then byte ||| 0x80 else byte
      let out ← write out len byte
      if 0 < value / 128 ∧ len + 1 < 4 then
        encodeRemainingFrom left out (len + 1) (value / 128)
      else
        return (out, len + 1)

/-- The bytes of the field, and how many of them are used. -/
def mqttEncodeRemainingLen (out : Bytes) (value : Nat) : Checked (Bytes × Nat) :=
  encodeRemainingFrom 4 out 0 value

/-- A packet buffer and the offset behind what was appended to it. -/
structure PacketBuffer where
  packet : Bytes
  offset : Nat

def PacketBuffer.put (buffer : PacketBuffer) (byte : UInt8) : Checked PacketBuffer := do
  let packet ← write buffer.packet buffer.offset byte
  return ⟨packet, buffer.offset + 1⟩

def mqttAppendU16 (buffer : PacketBuffer) (value : UInt16) : Checked (Result PacketBuffer) := do
  if buffer.packet.length < buffer.offset + 2 then
    return .error .invalidSize
  else
    let buffer ← buffer.put (value >>> 8).toUInt8
    let buffer ← buffer.put value.toUInt8
    return .ok buffer

/-- No data pointer is null here where the length is not zero. -/
def mqttAppendBytes (buffer : PacketBuffer) (data : Bytes) : Checked (Result PacketBuffer) := do
  if buffer.packet.length < buffer.offset + data.length then
    return .error .invalidSize
  else if data = [] then
    return .ok buffer
  else
    let packet ← copyInto buffer.packet buffer.offset (buffer.offset + data.length) data
    return .ok ⟨packet, buffer.offset + data.length⟩

/-- `if (err == ESP_OK) err = …`. -/
def andThen {Value Next : Type} (step : Checked (Result Value))
    (next : Value → Checked (Result Next)) : Checked (Result Next) := do
  match ← step with
  | .error err => return .error err
  | .ok value => next value

def mqttAppendString (buffer : PacketBuffer) (text : Bytes) : Checked (Result PacketBuffer) :=
  let len := (CString.text text).length
  if 2 ^ 16 - 1 < len then
    return .error .invalidSize
  else
    andThen (mqttAppendU16 buffer (UInt16.ofNat len)) fun buffer =>
      mqttAppendBytes buffer (CString.text text)

/-- What stands in the arrays on the stack before anything is stored there. -/
structure PublishMemory where
  packet : ByteArr publishPacketLen
  remaining : ByteArr 4
  connectPacket : ByteArr connectPacketLen
  connectRemaining : ByteArr 4

def connectPacket (memory : PublishMemory) : Checked (Result PacketBuffer) := do
  let clientId := mqttLocalPublishClientId ++ [0]
  let remainingLen := 10 + 2 + (CString.text clientId).length
  let (remaining, fieldLen) ← mqttEncodeRemainingLen memory.connectRemaining.toList remainingLen
  let buffer ← PacketBuffer.put ⟨memory.connectPacket.toList, 0⟩ 0x10
  let field ← slice remaining 0 fieldLen
  andThen (mqttAppendBytes buffer field) fun buffer =>
  andThen (mqttAppendString buffer (protocolName ++ [0])) fun buffer =>
  andThen (mqttAppendBytes buffer [4, 2]) fun buffer =>
  andThen (mqttAppendU16 buffer 15) fun buffer =>
  mqttAppendString buffer clientId

/-- The result of the exchange, and the bytes the broker was given in it. -/
def localMqttSendConnect (socket : LocalSocket) (memory : PublishMemory) :
    Checked (Result Unit × Bytes) := do
  match ← connectPacket memory with
  | .error err => return (.error err, [])
  | .ok buffer =>
      let packet ← slice buffer.packet 0 buffer.offset
      let sent := sendAll socket.send 0 packet
      match sent.1 with
      | .error err => return (.error err, sent.2)
      | .ok () =>
          match socket.recv with
          | .error errno => return (.error (socketErrnoToEsp errno), sent.2)
          | .ok received =>
              match received.take 4 with
              | [kind, length, _, code] =>
                  if kind ≠ 0x20 ∨ length ≠ 0x02 ∨ code ≠ 0x00 then
                    return (.error .invalidResponse, sent.2)
                  else
                    return (.ok (), sent.2)
              | _ => return (.error .invalidResponse, sent.2)

/-- From `socket` to the accepted CONNECT. -/
def openSession (socket : LocalSocket) (memory : PublishMemory) :
    Checked (Result Unit × Bytes) :=
  match socket.socket with
  | .error errno => return (.error (socketErrnoToEsp errno), [])
  | .ok () =>
      match socket.connect with
      | .error errno => return (.error (socketErrnoToEsp errno), [])
      | .ok () => localMqttSendConnect socket memory

def publishPacket (packet field topic payload : Bytes) (retain : Bool) :
    Checked (Result PacketBuffer) := do
  let topicLen := (CString.text topic).length
  let buffer ← PacketBuffer.put ⟨packet, 0⟩ (0x30 ||| if retain then 0x01 else 0x00)
  andThen (mqttAppendBytes buffer field) fun buffer =>
  andThen (mqttAppendU16 buffer (UInt16.ofNat topicLen)) fun buffer =>
  andThen (mqttAppendBytes buffer (CString.text topic)) fun buffer =>
  mqttAppendBytes buffer payload

/-- The result of a publication, the PUBLISH that was given to `send_all`, and the
bytes the broker was given. -/
structure PublishOutcome where
  result : Result Unit
  packet : Option Bytes
  stream : Bytes

def localMqttPublish (socket : LocalSocket) (memory : PublishMemory) (topic payload : Bytes)
    (qos : UInt8) (retain : Bool) : Checked PublishOutcome := do
  if qos ≠ 0 then
    return ⟨.error .notSupported, none, []⟩
  else
    let topicLen := (CString.text topic).length
    if 2 ^ 16 - 1 < topicLen then
      return ⟨.error .invalidSize, none, []⟩
    else
      let remainingLen := 2 + topicLen + payload.length
      let (remaining, fieldLen) ← mqttEncodeRemainingLen memory.remaining.toList remainingLen
      let session ← openSession socket memory
      match session.1 with
      | .error err => return ⟨.error err, none, session.2⟩
      | .ok () =>
          let field ← slice remaining 0 fieldLen
          match ← publishPacket memory.packet.toList field topic payload retain with
          | .error err => return ⟨.error err, none, session.2⟩
          | .ok buffer =>
              let packet ← slice buffer.packet 0 buffer.offset
              let sent := sendAll socket.send session.2.length packet
              let stream := session.2 ++ sent.2
              match sent.1 with
              | .error err => return ⟨.error err, some packet, stream⟩
              | .ok () =>
                  -- The result of sending the DISCONNECT is dropped.
                  let last := sendAll socket.send stream.length disconnectPacket
                  return ⟨.ok (), some packet, stream ++ last.2⟩

theorem send_all_spec (send : Nat → SendAnswer) (position : Nat) (data : Bytes) :
    (sendAll send position data).1 ≠ .error .invalidSize ∧
      ((sendAll send position data).1 = .ok () → (sendAll send position data).2 = data) := by
  fun_induction sendAll send position data with
  | case1 => simp
  | case2 position data given errno answer => cases errno <;> simp [socketErrnoToEsp]
  | case3 position data given answer => simp
  | case4 position data given count answer rc later induction =>
      refine ⟨induction.1, fun sent => ?_⟩
      change data.take rc ++ later.2 = data
      rw [induction.2 sent, List.take_append_drop]

theorem encode_remaining_from_spec {left len : Nat} {out content : Bytes} (value : Nat)
    (sized : out.length = 4) (reached : content.length = len) (total : len + left = 4)
    (held : content <+: out) :
    ∃ written, encodeRemainingFrom left out len value =
        .ok (written, len + (VarLength.encode left value).length) ∧
      written.length = 4 ∧ content ++ VarLength.encode left value <+: written := by
  induction left generalizing len out content value with
  | zero => exact ⟨out, rfl, sized, by simpa [VarLength.encode] using held⟩
  | succ left induction =>
      subst reached
      obtain ⟨stored, store, storedSize, storedHeld⟩ :=
        write_extends held (by omega) (VarLength.group value)
      have step : encodeRemainingFrom (left + 1) out content.length value =
          if 0 < value / 128 ∧ content.length + 1 < 4 then
            encodeRemainingFrom left stored (content.length + 1) (value / 128)
          else .ok (stored, content.length + 1) := by
        rw [encodeRemainingFrom]
        change (write out content.length (VarLength.group value) >>= _) = _
        rw [store]
        rfl
      have sizedStored := storedSize.trans sized
      by_cases more : 0 < value / 128
      · by_cases room : content.length + 1 < 4
        · obtain ⟨written, loop, writtenSize, writtenHeld⟩ := @induction (content.length + 1) stored
            (content ++ [VarLength.group value]) (value / 128) sizedStored (by simp) (by omega)
            storedHeld
          refine ⟨written, ?_, writtenSize, ?_⟩
          · rw [step, if_pos ⟨more, room⟩, loop, VarLength.encode, if_pos more, List.length_cons,
              Nat.add_assoc, Nat.add_comm 1]
          · rw [VarLength.encode, if_pos more]
            simpa using writtenHeld
        · -- The fourth byte ends the loop even when the number goes on.
          obtain rfl : left = 0 := by omega
          refine ⟨stored, ?_, sizedStored, ?_⟩
          · rw [step, if_neg (by omega)]
            simp [VarLength.encode]
          · simpa [VarLength.encode] using storedHeld
      · refine ⟨stored, ?_, sizedStored, ?_⟩
        · rw [step, if_neg (by omega), VarLength.encode, if_neg more]
          rfl
        · rw [VarLength.encode, if_neg more]
          exact storedHeld

/-- The field is the length in groups of seven bits, and it stays inside its four
bytes. -/
theorem mqtt_encode_remaining_len_spec (out : ByteArr 4) (value : Nat) :
    ∃ written fieldLen, mqttEncodeRemainingLen out.toList value = .ok (written, fieldLen) ∧
      slice written 0 fieldLen = .ok (VarLength.encode Mqtt.lengthBytes value) := by
  obtain ⟨written, encoded, sized, held⟩ := @encode_remaining_from_spec 4 0 out.toList [] value
    out.toList_length rfl rfl List.nil_prefix
  refine ⟨written, _, encoded, ?_⟩
  rw [slice_ok (Nat.zero_le _) (by simpa using held.length_le), List.drop_zero, Nat.zero_add]
  exact congrArg Except.ok (List.prefix_iff_eq_take.mp held).symm

/-- The buffer has its size and holds exactly this content before the offset. -/
structure PacketBuffer.Holds (size : Nat) (content : Bytes) (buffer : PacketBuffer) : Prop where
  sized : buffer.packet.length = size
  offset : buffer.offset = content.length
  held : content <+: buffer.packet

theorem PacketBuffer.holds_empty (packet : Bytes) :
    PacketBuffer.Holds packet.length [] ⟨packet, 0⟩ :=
  ⟨rfl, rfl, List.nil_prefix⟩

section Appending

variable {size : Nat} {content : Bytes} {buffer : PacketBuffer}

theorem PacketBuffer.Holds.slice (holds : buffer.Holds size content) :
    Bounds.slice buffer.packet 0 buffer.offset = .ok content := by
  rw [holds.offset, slice_ok (Nat.zero_le _) holds.held.length_le, List.drop_zero,
    ← List.prefix_iff_eq_take.mp holds.held]

theorem PacketBuffer.Holds.put (holds : buffer.Holds size content) (room : content.length < size)
    (byte : UInt8) : ∃ next, buffer.put byte = .ok next ∧ next.Holds size (content ++ [byte]) := by
  obtain ⟨written, stored, sized, held⟩ :=
    write_extends holds.held (by rw [holds.sized]; exact room) byte
  refine ⟨⟨written, buffer.offset + 1⟩, ?_, sized.trans holds.sized, ?_, held⟩
  · rw [PacketBuffer.put, holds.offset, stored]
    rfl
  · simp [holds.offset]

/-- The step appends the data to any buffer that has room for it. -/
def Appends (step : PacketBuffer → Checked (Result PacketBuffer)) (data : Bytes) : Prop :=
  ∀ size content buffer, PacketBuffer.Holds size content buffer →
    content.length + data.length ≤ size →
    ∃ next, step buffer = .ok (.ok next) ∧ next.Holds size (content ++ data)

theorem Appends.andThen {first second : PacketBuffer → Checked (Result PacketBuffer)}
    {front back : Bytes} (appendsFirst : Appends first front)
    (appendsSecond : Appends second back) :
    Appends (fun buffer => BlindNet.andThen (first buffer) second) (front ++ back) := by
  intro size content buffer holds room
  rw [List.length_append] at room
  obtain ⟨middle, done, holdsMiddle⟩ := appendsFirst size content buffer holds (by omega)
  obtain ⟨last, finished, holdsLast⟩ := appendsSecond size _ middle holdsMiddle (by
    rw [List.length_append]
    omega)
  refine ⟨last, ?_, by rw [← List.append_assoc]; exact holdsLast⟩
  change BlindNet.andThen (first buffer) second = _
  rw [done]
  exact finished

theorem mqtt_append_u16_appends (value : UInt16) :
    Appends (fun buffer => mqttAppendU16 buffer value)
      [(value >>> 8).toUInt8, value.toUInt8] := by
  intro size content buffer holds room
  simp only [List.length_cons, List.length_nil] at room
  obtain ⟨high, putHigh, holdsHigh⟩ := holds.put (by omega) (value >>> 8).toUInt8
  obtain ⟨low, putLow, holdsLow⟩ := holdsHigh.put (by simp; omega) value.toUInt8
  refine ⟨low, ?_, by simpa using holdsLow⟩
  have fits : ¬ buffer.packet.length < buffer.offset + 2 := by
    rw [holds.sized, holds.offset]
    omega
  simp only [mqttAppendU16, if_neg fits, putHigh, putLow, checked_ok_bind]
  rfl

theorem mqtt_append_bytes_appends (data : Bytes) :
    Appends (fun buffer => mqttAppendBytes buffer data) data := by
  intro size content buffer holds room
  rw [← holds.sized] at room
  have fits := Nat.not_lt.mpr room
  by_cases empty : data = []
  · refine ⟨buffer, ?_, by simpa [empty] using holds⟩
    simp only [mqttAppendBytes, holds.offset, if_neg fits, if_pos empty]
    rfl
  · obtain ⟨written, copied, sized, held⟩ := copy_extends holds.held room
    refine ⟨⟨written, buffer.offset + data.length⟩, ?_, sized.trans holds.sized, ?_, held⟩
    · simp only [mqttAppendBytes, holds.offset, if_neg fits, if_neg empty, copied, checked_ok_bind]
      rfl
    · simp [holds.offset]

theorem word_bytes_u16 {length : Nat} (short : length < 2 ^ 16) :
    [(UInt16.ofNat length >>> 8).toUInt8, (UInt16.ofNat length).toUInt8] =
      Mqtt.wordBytes length := by
  have whole : (UInt16.ofNat length).toNat = length := by
    rw [UInt16.toNat_ofNat']
    exact Nat.mod_eq_of_lt short
  have high : (UInt16.ofNat length >>> 8).toUInt8 = UInt8.ofNat (length / 256) := by
    apply UInt8.toNat_inj.mp
    rw [UInt16.toNat_toUInt8, UInt16.toNat_shiftRight, whole, UInt8.toNat_ofNat']
    change length >>> 8 % 2 ^ 8 = length / 256 % 2 ^ 8
    rw [Nat.shiftRight_eq_div_pow]
  have low : (UInt16.ofNat length).toUInt8 = UInt8.ofNat length := by
    apply UInt8.toNat_inj.mp
    rw [UInt16.toNat_toUInt8, whole, UInt8.toNat_ofNat']
  rw [high, low, Mqtt.wordBytes]

theorem mqtt_append_length_appends {length : Nat} (short : length < 2 ^ 16) :
    Appends (fun buffer => mqttAppendU16 buffer (UInt16.ofNat length)) (Mqtt.wordBytes length) := by
  rw [← word_bytes_u16 short]
  exact mqtt_append_u16_appends _

theorem mqtt_append_string_appends {text : Bytes} (clean : ∀ byte ∈ text, byte ≠ 0)
    (short : text.length < 2 ^ 16) :
    Appends (fun buffer => mqttAppendString buffer (text ++ [0]))
      (Mqtt.wordBytes text.length ++ text) := by
  have fits : ¬ 2 ^ 16 - 1 < text.length := by omega
  have both := (mqtt_append_length_appends short).andThen (mqtt_append_bytes_appends text)
  intro size content buffer holds room
  obtain ⟨next, appended, holdsNext⟩ := both size content buffer holds room
  refine ⟨next, ?_, holdsNext⟩
  rw [← appended]
  simp only [mqttAppendString, CString.text_append_zero clean, if_neg fits]

end Appending

def publishHeader (retain : Bool) : UInt8 := 0x30 ||| if retain then 0x01 else 0x00

/-- The body of the CONNECT: protocol name, level and flags, keep-alive, and the
client id. -/
def connectBody : Bytes :=
  (Mqtt.wordBytes protocolName.length ++ protocolName) ++ ([4, 2] ++ (Mqtt.wordBytes 15 ++
    (Mqtt.wordBytes mqttLocalPublishClientId.length ++ mqttLocalPublishClientId)))

def connectFrame : Bytes := Mqtt.frame 0x10 connectBody

def publishBody (topic payload : Bytes) : Bytes :=
  Mqtt.wordBytes topic.length ++ (topic ++ payload)

def publishFrame (topic payload : Bytes) (retain : Bool) : Bytes :=
  Mqtt.frame (publishHeader retain) (publishBody topic payload)

theorem publish_body_length (topic payload : Bytes) :
    (publishBody topic payload).length = 2 + topic.length + payload.length := by
  simp [publishBody, Mqtt.wordBytes]
  omega

theorem publish_packet_spec {packet topic payload : Bytes} (retain : Bool)
    (short : (CString.text topic).length < 2 ^ 16)
    (room : (publishFrame (CString.text topic) payload retain).length ≤ packet.length) :
    ∃ buffer, publishPacket packet
        (VarLength.encode Mqtt.lengthBytes (2 + (CString.text topic).length + payload.length))
        topic payload retain = .ok (.ok buffer) ∧
      buffer.Holds packet.length (publishFrame (CString.text topic) payload retain) := by
  have length := publish_body_length (CString.text topic) payload
  simp only [publishFrame, Mqtt.frame, length, List.length_cons] at room ⊢
  obtain ⟨first, stored, holdsFirst⟩ :=
    (PacketBuffer.holds_empty packet).put (by simp; omega) (publishHeader retain)
  have rest := (mqtt_append_bytes_appends (VarLength.encode Mqtt.lengthBytes
      (2 + (CString.text topic).length + payload.length))).andThen
    ((mqtt_append_length_appends short).andThen
      ((mqtt_append_bytes_appends (CString.text topic)).andThen
        (mqtt_append_bytes_appends payload)))
  obtain ⟨last, appended, holdsLast⟩ := rest _ _ first holdsFirst (by
    simp only [publishBody] at room
    simp only [List.length_append, List.length_cons, List.length_nil] at room ⊢
    omega)
  refine ⟨last, ?_, holdsLast⟩
  rw [← appended]
  change (PacketBuffer.put ⟨packet, 0⟩ (publishHeader retain) >>= _) = _
  rw [stored]
  rfl

theorem connect_packet_spec (memory : PublishMemory) :
    ∃ buffer, connectPacket memory = .ok (.ok buffer) ∧
      buffer.Holds connectPacketLen connectFrame := by
  have sized : memory.connectPacket.toList.length = connectPacketLen :=
    memory.connectPacket.toList_length
  have remaining : 10 + 2 + (CString.text (mqttLocalPublishClientId ++ [0])).length =
      connectBody.length := by decide +kernel
  obtain ⟨written, fieldLen, encoded, field⟩ :=
    mqtt_encode_remaining_len_spec memory.connectRemaining connectBody.length
  obtain ⟨first, stored, holdsFirst⟩ :=
    (PacketBuffer.holds_empty memory.connectPacket.toList).put (by rw [sized]; decide) 0x10
  have rest := (mqtt_append_bytes_appends
      (VarLength.encode Mqtt.lengthBytes connectBody.length)).andThen
    ((@mqtt_append_string_appends protocolName (by decide +kernel) (by decide +kernel)).andThen
      ((mqtt_append_bytes_appends [4, 2]).andThen
        ((@mqtt_append_length_appends 15 (by decide)).andThen
          (@mqtt_append_string_appends mqttLocalPublishClientId (by decide +kernel)
            (by decide +kernel)))))
  obtain ⟨last, appended, holdsLast⟩ := rest _ _ first holdsFirst (by
    rw [sized]
    decide +kernel)
  rw [sized] at holdsLast
  refine ⟨last, ?_, holdsLast⟩
  rw [← appended]
  simp only [connectPacket, remaining, encoded, stored, field, checked_ok_bind]
  rfl

theorem socket_errno_ne_invalid_size (errno : Errno) : socketErrnoToEsp errno ≠ .invalidSize := by
  cases errno <;> simp [socketErrnoToEsp]

/-- The CONNECT fits its buffer, so only the network can refuse the session; an
open session has sent the whole CONNECT. -/
theorem local_mqtt_send_connect_spec (socket : LocalSocket) (memory : PublishMemory) :
    ∃ session, localMqttSendConnect socket memory = .ok session ∧
      session.1 ≠ .error .invalidSize ∧ (session.1 = .ok () → session.2 = connectFrame) := by
  obtain ⟨buffer, built, holds⟩ := connect_packet_spec memory
  obtain ⟨sized, whole⟩ := send_all_spec socket.send 0 connectFrame
  simp only [localMqttSendConnect, built, holds.slice, checked_ok_bind]
  cases sent : (sendAll socket.send 0 connectFrame).1 with
  | error err => exact ⟨_, rfl, by rwa [sent] at sized, fun wrong => absurd wrong (by simp)⟩
  | ok =>
      have all := whole sent
      cases socket.recv with
      | error errno =>
          refine ⟨_, rfl, ?_, fun wrong => absurd wrong (by simp)⟩
          simpa using socket_errno_ne_invalid_size errno
      | ok received =>
          dsimp only
          split
          · split_ifs
            · exact ⟨_, rfl, by simp, fun wrong => absurd wrong (by simp)⟩
            · exact ⟨_, rfl, by simp, fun _ => all⟩
          · exact ⟨_, rfl, by simp, fun wrong => absurd wrong (by simp)⟩

theorem open_session_spec (socket : LocalSocket) (memory : PublishMemory) :
    ∃ session, openSession socket memory = .ok session ∧
      session.1 ≠ .error .invalidSize ∧ (session.1 = .ok () → session.2 = connectFrame) := by
  have refused : ∀ errno : Errno, ∃ session : Result Unit × Bytes,
      (.ok (.error (socketErrnoToEsp errno), []) : Checked (Result Unit × Bytes)) = .ok session ∧
        session.1 ≠ .error .invalidSize ∧ (session.1 = .ok () → session.2 = connectFrame) := by
    intro errno
    refine ⟨_, rfl, ?_, fun wrong => absurd wrong (by simp)⟩
    simpa using socket_errno_ne_invalid_size errno
  unfold openSession
  cases socket.socket with
  | error errno => exact refused errno
  | ok =>
      cases socket.connect with
      | error errno => exact refused errno
      | ok => exact local_mqtt_send_connect_spec socket memory

/-- A publication whose packet fits the buffer: an open session is given the
packet, and success means that the broker has the whole of it behind the CONNECT. -/
theorem local_mqtt_publish_spec (socket : LocalSocket) (memory : PublishMemory)
    {topic payload : Bytes} (retain : Bool) (short : (CString.text topic).length < 2 ^ 16)
    (room : (publishFrame (CString.text topic) payload retain).length ≤ publishPacketLen) :
    ∃ session outcome, openSession socket memory = .ok session ∧
      localMqttPublish socket memory topic payload 0 retain = .ok outcome ∧
      outcome.result ≠ .error .invalidSize ∧
      outcome.packet = (if session.1 = .ok () then
        some (publishFrame (CString.text topic) payload retain) else none) ∧
      (outcome.result = .ok () →
        connectFrame ++ publishFrame (CString.text topic) payload retain <+: outcome.stream) := by
  have fits : ¬ 2 ^ 16 - 1 < (CString.text topic).length := by omega
  obtain ⟨session, opened, sized, connected⟩ := open_session_spec socket memory
  obtain ⟨written, fieldLen, encoded, field⟩ := mqtt_encode_remaining_len_spec memory.remaining
    (2 + (CString.text topic).length + payload.length)
  obtain ⟨buffer, built, holds⟩ := @publish_packet_spec memory.packet.toList topic payload retain
    short (by rw [memory.packet.toList_length]; exact room)
  have checked : ¬ (0 : UInt8) ≠ 0 := by simp
  simp only [localMqttPublish, if_neg checked, if_neg fits, encoded, opened, field, built,
    holds.slice, checked_ok_bind]
  cases accepted : session.1 with
  | error err =>
      rw [accepted] at sized
      exact ⟨session, _, rfl, rfl, sized, by simp [accepted], fun wrong => absurd wrong (by simp)⟩
  | ok =>
      obtain ⟨sendSized, whole⟩ := send_all_spec socket.send session.2.length
        (publishFrame (CString.text topic) payload retain)
      dsimp only
      cases sent : (sendAll socket.send session.2.length
          (publishFrame (CString.text topic) payload retain)).1 with
      | error err =>
          rw [sent] at sendSized
          exact ⟨session, _, rfl, rfl, sendSized, by simp [accepted],
            fun wrong => absurd wrong (by simp)⟩
      | ok =>
          refine ⟨session, _, rfl, rfl, by simp, by simp [accepted], fun _ => ?_⟩
          rw [whole sent, connected accepted]
          exact List.prefix_append _ _

theorem publish_header_value (retain : Bool) :
    (publishHeader retain).toNat = 48 + retain.toNat := by
  cases retain <;> decide

/-- The longest topic and payload that can be published leave three bytes of the
buffer unused. -/
theorem publish_frame_length_le {topic payload : Bytes} (retain : Bool)
    (short : topic.length ≤ mqttBrokerTopicLen) (small : payload.length ≤ mqttBrokerPayloadMaxLen) :
    (publishFrame topic payload retain).length + 3 ≤ publishPacketLen := by
  have length := publish_body_length topic payload
  simp only [mqttBrokerTopicLen, mqttBrokerPayloadMaxLen] at short small
  have framed := @Mqtt.frame_length_le 2 (publishBody topic payload) (by decide)
    (by rw [length]; omega) (publishHeader retain)
  simp only [publishFrame, publishPacketLen, mqttBrokerTopicLen, mqttBrokerPayloadMaxLen]
  omega

theorem read_publish_publish_frame {topic payload : Bytes} (retain : Bool)
    (short : topic.length ≤ mqttBrokerTopicLen) (small : payload.length ≤ mqttBrokerPayloadMaxLen)
    (suffix : Bytes) :
    Mqtt.readPublish (publishFrame topic payload retain ++ suffix) =
      some (⟨false, 0, retain, topic, none, payload⟩, suffix) := by
  simp only [mqttBrokerTopicLen, mqttBrokerPayloadMaxLen] at short small
  apply Mqtt.read_publish_frame (publish_header_value retain) (by omega)
  simp only [Mqtt.lengthBytes]
  omega

/-- Whatever the network answers and whatever stood on the stack, publishing stays
inside its buffers and never fails on a size. Once the session is open it sends one
packet, which fits the buffer and is read back as this topic, payload and retain
flag with nothing left over. -/
theorem publish_packet_round_trip {topic payload : Bytes} (retain : Bool)
    (short : topic.length ≤ mqttBrokerTopicLen) (clean : 0 ∉ topic)
    (small : payload.length ≤ mqttBrokerPayloadMaxLen) :
    ∃ packet, packet.length ≤ publishPacketLen ∧
      Mqtt.readPublish packet = some (⟨false, 0, retain, topic, none, payload⟩, []) ∧
      ∀ (socket : LocalSocket) (memory : PublishMemory) (after : Bytes),
        ∃ session outcome, openSession socket memory = .ok session ∧
          localMqttPublish socket memory (topic ++ 0 :: after) payload 0 retain = .ok outcome ∧
          outcome.result ≠ .error .invalidSize ∧
          outcome.packet = if session.1 = .ok () then some packet else none := by
  have length := publish_frame_length_le retain short small
  refine ⟨publishFrame topic payload retain, by omega, ?_, ?_⟩
  · simpa using read_publish_publish_frame retain short small []
  · intro socket memory after
    have text : CString.text (topic ++ 0 :: after) = topic :=
      CString.text_append_zero (fun byte member zero => clean (zero ▸ member)) after
    have spec := @local_mqtt_publish_spec socket memory (topic ++ 0 :: after) payload retain
    rw [text] at spec
    have bounded : topic.length < 2 ^ 16 := by
      simp only [mqttBrokerTopicLen] at short
      omega
    obtain ⟨session, outcome, opened, published, sized, packet, -⟩ := spec bounded (by omega)
    exact ⟨session, outcome, opened, published, sized, packet⟩

/-- The broker accepts the session, and takes what it is sent in small pieces. -/
def openSocket : LocalSocket :=
  ⟨.ok (), .ok (), fun _ => .accepted 20, .ok [0x20, 0x02, 0x00, 0x00]⟩

def clearedMemory : PublishMemory :=
  ⟨List.Vector.replicate _ 0, List.Vector.replicate _ 0, List.Vector.replicate _ 0,
    List.Vector.replicate _ 0⟩

theorem open_socket_session :
    (openSession openSocket clearedMemory).toOption.map Prod.fst = some (.ok ()) := by
  decide +kernel

theorem largest_packet_round_trip :
    ∃ packet, packet.length ≤ publishPacketLen ∧
      Mqtt.readPublish packet = some (⟨false, 0, true, List.replicate 96 47, none,
        List.replicate 256 0⟩, []) ∧
      ∃ outcome, localMqttPublish openSocket clearedMemory (List.replicate 96 47 ++ [0])
          (List.replicate 256 0) 0 true = .ok outcome ∧
        outcome.result ≠ .error .invalidSize ∧ outcome.packet = some packet := by
  obtain ⟨packet, fits, round, sends⟩ := publish_packet_round_trip true
    (show (List.replicate 96 (47 : UInt8)).length ≤ mqttBrokerTopicLen by decide) (by decide)
    (show (List.replicate 256 (0 : UInt8)).length ≤ mqttBrokerPayloadMaxLen by
      rw [List.length_replicate]; decide)
  obtain ⟨session, outcome, opened, published, sized, sent⟩ := sends openSocket clearedMemory []
  have accepted := open_socket_session
  rw [opened] at accepted
  rw [if_pos (Option.some.inj accepted)] at sent
  exact ⟨packet, fits, round, outcome, published, sized, sent⟩

/-- The broker whose local client is this one. -/
def LocalSocket.broker (socket : LocalSocket) (memory : PublishMemory) (running : Bool)
    (maxPayloadLen : UInt16) : MqttBroker where
  running := running
  maxPayloadLen := maxPayloadLen
  localMqttPublish := fun message =>
    match localMqttPublish socket memory (message.topic ++ [0]) message.payload 0
      message.retain with
    | .ok outcome => outcome.result
    | .error _ => .error .fail

theorem published_request_on_wire {socket : LocalSocket} {memory : PublishMemory} {running : Bool}
    {maxPayloadLen : UInt16} {request : PublishRequest}
    (short : request.topic.length ≤ mqttBrokerTopicLen) (clean : ∀ byte ∈ request.topic, byte ≠ 0)
    (small : request.payload.length ≤ mqttBrokerPayloadMaxLen)
    (published : mqttBrokerPublishToClient (socket.broker memory running maxPayloadLen) request =
      .ok ()) :
    ∃ outcome afterConnect rest,
      localMqttPublish socket memory (request.topic ++ [0]) request.payload 0 request.retain =
        .ok outcome ∧
      Mqtt.readPacket outcome.stream = some (⟨1, 0, connectBody⟩, afterConnect) ∧
      Mqtt.readPublish afterConnect =
        some (⟨false, 0, request.retain, request.topic, none, request.payload⟩, rest) := by
  have spec := @local_mqtt_publish_spec socket memory (request.topic ++ [0]) request.payload
    request.retain
  rw [CString.text_append_zero clean] at spec
  have length := publish_frame_length_le request.retain short small
  have bounded : request.topic.length < 2 ^ 16 := by
    simp only [mqttBrokerTopicLen] at short
    omega
  obtain ⟨-, outcome, -, sent, -, -, onWire⟩ := spec bounded (by omega)
  simp only [mqttBrokerPublishToClient, guard_ok, LocalSocket.broker, PublishRequest.message,
    sent] at published
  obtain ⟨rest, stream⟩ := onWire published.2.2.2.2.2.2
  refine ⟨outcome, publishFrame request.topic request.payload request.retain ++ rest, rest, sent,
    ?_, read_publish_publish_frame _ short small rest⟩
  rw [← stream, List.append_assoc]
  exact Mqtt.read_packet_frame 0x10 (by decide +kernel) _

/-- A digested command that is reported as published was read by the broker as a
PUBLISH of its topic and its payload. -/
theorem published_command_on_wire {socket : LocalSocket} {memory : PublishMemory} {running : Bool}
    {maxPayloadLen : UInt16} {membrane : Membrane} {digested : DigestedActiveSubstance}
    {publications : List Publication}
    (published : publishDigestedCommand (socket.broker memory running maxPayloadLen) membrane
      digested = (.ok (), publications)) :
    ∃ payload outcome afterConnect rest,
      publications = [⟨digested.request payload, .ok ()⟩] ∧
      localMqttPublish socket memory (CString.text digested.command.topic.toList ++ [0]) payload 0
        false = .ok outcome ∧
      Mqtt.readPacket outcome.stream = some (⟨1, 0, connectBody⟩, afterConnect) ∧
      Mqtt.readPublish afterConnect =
        some (⟨false, 0, false, CString.text digested.command.topic.toList, none, payload⟩,
          rest) := by
  by_cases publishable : digested.Publishable membrane
  · obtain ⟨payload, encoded, call⟩ := @publish_digested_command_publishable
      (socket.broker memory running maxPayloadLen) _ _ publishable
    obtain ⟨same, sameEncoded, small⟩ := encode_command_payload_valid publishable.valid
    obtain rfl : same = payload := Except.ok.inj (sameEncoded.symm.trans encoded)
    rw [call] at published
    obtain ⟨accepted, recorded⟩ := Prod.mk.inj published
    have short : (CString.text digested.command.topic.toList).length ≤ mqttBrokerTopicLen := by
      have whole := (List.takeWhile_prefix (l := digested.command.topic.toList) (· != 0)).length_le
      rw [digested.command.topic.toList_length] at whole
      exact le_trans whole (by decide)
    obtain ⟨outcome, afterConnect, rest, sent, connect, publish⟩ :=
      @published_request_on_wire socket memory running maxPayloadLen (digested.request same) short
        (fun byte member => CString.text_ne_zero member) (le_trans small (by decide)) accepted
    rw [accepted] at recorded
    exact ⟨same, outcome, afterConnect, rest, recorded.symm, sent, connect, publish⟩
  · obtain ⟨err, refused⟩ := @publish_digested_command_refused
      (socket.broker memory running maxPayloadLen) _ _ publishable
    rw [refused] at published
    exact absurd (congrArg Prod.fst published) (by simp)

end BlindNet
