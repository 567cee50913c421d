import BlindNet.Lib.VarLength

/-!
# MQTT control packets

How a receiver of MQTT 3.1.1 reads its stream: a header byte with the packet's
kind and flags, the length of the rest in groups of seven bits, and the rest. The
rest of a PUBLISH is the topic behind its length, a packet identifier unless the
quality of service is zero, and the payload up to the end.
-/

namespace Mqtt

set_option autoImplicit false

open ByteLayout

/-- The length field has at most this many bytes. -/
def lengthBytes : Nat := 4

structure ControlPacket where
  kind : Nat
  flags : Nat
  body : Bytes
  deriving DecidableEq

/-- The packet in front of the stream, and the rest of the stream. -/
def readPacket : Bytes → Option (ControlPacket × Bytes)
  | [] => none
  | header :: rest => do
      let (length, afterLength) ← VarLength.decode lengthBytes rest
      if length ≤ afterLength.length then
        some (⟨header.toNat / 16, header.toNat % 16, afterLength.take length⟩,
          afterLength.drop length)
      else
        none

def readWord : Bytes → Option (Nat × Bytes)
  | high :: low :: rest => some (256 * high.toNat + low.toNat, rest)
  | _ => none

def wordBytes (value : Nat) : Bytes := [UInt8.ofNat (value / 256), UInt8.ofNat value]

def readString (bytes : Bytes) : Option (Bytes × Bytes) := do
  let (length, afterLength) ← readWord bytes
  if length ≤ afterLength.length then
    some (afterLength.take length, afterLength.drop length)
  else
    none

structure Publish where
  dup : Bool
  qos : Nat
  retain : Bool
  topic : Bytes
  packetId : Option Nat
  payload : Bytes
  deriving DecidableEq

def kindPublish : Nat := 3

def ControlPacket.publish (packet : ControlPacket) : Option Publish :=
  let qos := packet.flags / 2 % 4
  if packet.kind ≠ kindPublish ∨ qos = 3 then
    none
  else do
    let (topic, afterTopic) ← readString packet.body
    if qos = 0 then
      some ⟨packet.flags / 8 = 1, qos, packet.flags % 2 = 1, topic, none, afterTopic⟩
    else do
      let (packetId, payload) ← readWord afterTopic
      some ⟨packet.flags / 8 = 1, qos, packet.flags % 2 = 1, topic, some packetId, payload⟩

/-- The PUBLISH in front of the stream, and the rest of the stream. -/
def readPublish (stream : Bytes) : Option (Publish × Bytes) := do
  let (packet, rest) ← readPacket stream
  let publish ← packet.publish
  some (publish, rest)

def frame (header : UInt8) (body : Bytes) : Bytes :=
  header :: (VarLength.encode lengthBytes body.length ++ body)

theorem read_packet_frame (header : UInt8) {body : Bytes} (short : body.length < 128 ^ lengthBytes)
    (suffix : Bytes) :
    readPacket (frame header body ++ suffix) =
      some (⟨header.toNat / 16, header.toNat % 16, body⟩, suffix) := by
  have length := VarLength.decode_encode short (by decide) (body ++ suffix)
  simp only [frame, readPacket, List.cons_append, List.append_assoc, length, Option.bind_eq_bind,
    Option.bind_some, List.length_append, Nat.le_add_right, if_true, List.take_left,
    List.drop_left]

theorem read_word_bytes {value : Nat} (small : value < 2 ^ 16) (suffix : Bytes) :
    readWord (wordBytes value ++ suffix) = some (value, suffix) := by
  have high : (UInt8.ofNat (value / 256)).toNat = value / 256 := by
    rw [UInt8.toNat_ofNat']
    exact Nat.mod_eq_of_lt (by omega)
  have low : (UInt8.ofNat value).toNat = value % 256 := UInt8.toNat_ofNat'
  have whole : 256 * (value / 256) + value % 256 = value := Nat.div_add_mod _ _
  simp only [wordBytes, readWord, List.cons_append, List.nil_append, high, low, whole]

theorem read_string_bytes {text : Bytes} (short : text.length < 2 ^ 16) (suffix : Bytes) :
    readString (wordBytes text.length ++ (text ++ suffix)) = some (text, suffix) := by
  simp only [readString, read_word_bytes short, Option.bind_eq_bind, Option.bind_some,
    List.length_append, Nat.le_add_right, if_true, List.take_left, List.drop_left]

theorem frame_length_le {count : Nat} {body : Bytes} (positive : 0 < count)
    (short : body.length < 128 ^ count) (header : UInt8) :
    (frame header body).length ≤ 1 + count + body.length := by
  have field := VarLength.encode_short positive short lengthBytes
  simp only [frame, List.length_cons, List.length_append]
  omega

/-- A PUBLISH of quality of service zero is read back whole. -/
theorem read_publish_frame {header : UInt8} {topic payload : Bytes} {retain : Bool}
    (kind : header.toNat = 48 + retain.toNat) (text : topic.length < 2 ^ 16)
    (short : 2 + topic.length + payload.length < 128 ^ lengthBytes) (suffix : Bytes) :
    readPublish (frame header (wordBytes topic.length ++ (topic ++ payload)) ++ suffix) =
      some (⟨false, 0, retain, topic, none, payload⟩, suffix) := by
  have bounded : (wordBytes topic.length ++ (topic ++ payload)).length < 128 ^ lengthBytes := by
    simp only [wordBytes, List.length_append, List.length_cons, List.length_nil]
    omega
  simp only [readPublish, read_packet_frame header bounded, Option.bind_eq_bind, Option.bind_some,
    ControlPacket.publish, read_string_bytes text, kind]
  cases retain <;> simp [kindPublish]

end Mqtt
