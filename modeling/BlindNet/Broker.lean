import BlindNet.Membrane
import BlindNet.Stomach
import BlindNet.Lib.Decimal

/-!
# Broker

From a digested command to an MQTT publication. A publication is recorded as
the call of `mqtt_broker_publish_to_client` with its arguments and its result;
the local MQTT client behind the broker is a parameter.
-/

namespace BlindNet

set_option autoImplicit false

open ByteLayout

def deviceCommandQos : UInt8 := 0
def deviceCommandRetain : Bool := false
def mqttBrokerPayloadMaxLen : Nat := 256
def i32ScratchLen : Nat := 10

/-- An MQTT PUBLISH as `local_mqtt_publish` builds it; the topic is the text
before the NUL. -/
structure MqttMessage where
  topic : Bytes
  payload : Bytes
  retain : Bool
  deriving DecidableEq

structure PublishRequest where
  clientId : Bytes
  topic : Bytes
  payload : Bytes
  qos : UInt8
  retain : Bool
  deriving DecidableEq

def PublishRequest.message (request : PublishRequest) : MqttMessage :=
  ⟨request.topic, request.payload, request.retain⟩

/-- The broker at the moment of a call: whether it runs, its configured payload
limit, and what sending to the local port answers. -/
structure MqttBroker where
  running : Bool
  maxPayloadLen : UInt16
  localMqttPublish : MqttMessage → Result Unit

structure Publication where
  request : PublishRequest
  result : Result Unit
  deriving DecidableEq

def mqttBrokerPublishToClient (broker : MqttBroker) (request : PublishRequest) : Result Unit :=
  if request.clientId = [] then
    .error .invalidArg
  else if request.topic = [] then
    .error .invalidArg
  else if broker.maxPayloadLen.toNat < request.payload.length ∨
      2 ^ 31 - 1 < request.payload.length then
    .error .invalidSize
  else if 2 < request.qos then
    .error .invalidArg
  else if !broker.running then
    .error .invalidState
  else if request.qos ≠ 0 then
    -- The first check of `local_mqtt_publish`.
    .error .notSupported
  else
    broker.localMqttPublish request.message

def publishToClientCstr (broker : MqttBroker) (request : PublishRequest) :
    Result Unit × List Publication :=
  if mqttBrokerPayloadMaxLen < request.payload.length then
    (.error .invalidSize, [])
  else
    let result := mqttBrokerPublishToClient broker request
    (result, [⟨request, result⟩])

def commandPayloadValue (command : ActiveSubstanceCommand) : Result (Option Int32) :=
  if command.payloadType = AminoValueType.none.code then
    .ok none
  else if command.payloadType = AminoValueType.bool.code ∨
      command.payloadType = AminoValueType.int.code then
    .ok (some command.payloadI32)
  else
    .error .invalidArg

/-- The bytes written into an output buffer of `outLen` bytes. -/
def encodeI32Ascii (value : Int32) (outLen : Nat) : Result Bytes :=
  let sign : Bytes := if value.toInt < 0 then [Decimal.minus] else []
  let digits := Decimal.digits i32ScratchLen value.toInt.natAbs
  if outLen < sign.length then
    .error .invalidSize
  else if outLen < sign.length + digits.length then
    .error .invalidSize
  else
    .ok (sign ++ digits.reverse)

def encodeCommandPayload (command : ActiveSubstanceCommand) (outLen : Nat) : Result Bytes :=
  if command.payloadType = AminoValueType.none.code then
    .ok []
  else if command.payloadType = AminoValueType.bool.code then
    if outLen = 0 then
      .error .invalidSize
    else if command.payloadI32 = 0 then
      .ok [48]
    else if command.payloadI32 = 1 then
      .ok [49]
    else
      .error .invalidArg
  else if command.payloadType = AminoValueType.int.code then
    encodeI32Ascii command.payloadI32 outLen
  else
    .error .invalidArg

def cstrEqualFrom : Nat → Bytes → Bytes → Bool
  | 0, _, _ => false
  | left + 1, first, second =>
      if first.headD 0 ≠ second.headD 0 then
        false
      else if first.headD 0 = 0 then
        true
      else
        cstrEqualFrom left first.tail second.tail

def cstrEqual (first second : Bytes) : Bool :=
  cstrEqualFrom (max first.length second.length) first second

def publishCommandToDevice (broker : MqttBroker) (command : ActiveSubstanceCommand)
    (mqttClientId : Bytes) : Result Unit × List Publication :=
  match activeSubstanceCommandValidate command with
  | .error err => (.error err, [])
  | .ok () =>
      match encodeCommandPayload command mqttBrokerPayloadMaxLen with
      | .error err => (.error err, [])
      | .ok payload =>
          publishToClientCstr broker
            ⟨CString.text mqttClientId, CString.text command.topic.toList, payload,
              deviceCommandQos, deviceCommandRetain⟩

def publishDigestedCommand (broker : MqttBroker) (membrane : Membrane)
    (digested : DigestedActiveSubstance) : Result Unit × List Publication :=
  let command := digested.command
  match activeSubstanceCommandValidate command with
  | .error err => (.error err, [])
  | .ok () =>
      if !cstrEqual command.deviceId.toList digested.device.mqttClientId.toList then
        (.error .invalidState, [])
      else
        match commandPayloadValue command with
        | .error err => (.error err, [])
        | .ok payloadValue =>
            if !membrane.allows digested.device command.aminoId payloadValue then
              (.error .invalidState, [])
            else
              publishCommandToDevice broker command digested.device.mqttClientId.toList

private theorem cstr_equal_from_iff (left : Nat) (first second : Bytes) :
    cstrEqualFrom left first second = true ↔
      CString.text first = CString.text second ∧ (CString.text first).length < left := by
  induction left generalizing first second with
  | zero => simp [cstrEqualFrom]
  | succ left induction =>
      -- A field that has ended reads as NUL, as one that stands at its NUL does.
      have ended : ∀ field : Bytes, field.headD 0 = 0 ↔ CString.text field = [] := by
        intro field
        cases field with
        | nil => simp [CString.text]
        | cons byte rest => by_cases zero : byte = 0 <;> simp [CString.text, zero]
      have begun : ∀ field : Bytes, field.headD 0 ≠ 0 →
          CString.text field = field.headD 0 :: CString.text field.tail := by
        intro field nonzero
        cases field with
        | nil => simp at nonzero
        | cons byte rest => exact CString.text_cons nonzero rest
      unfold cstrEqualFrom
      by_cases same : first.headD 0 = second.headD 0
      · by_cases zero : first.headD 0 = 0
        · rw [if_neg (not_not.mpr same), if_pos zero, (ended first).mp zero,
            (ended second).mp (same ▸ zero)]
          simp
        · rw [if_neg (not_not.mpr same), if_neg zero, induction, begun first zero,
            begun second (same ▸ zero), same]
          simp
      · rw [if_pos same]
        simp only [Bool.false_eq_true, false_iff, not_and]
        intro texts
        by_cases zero : first.headD 0 = 0
        · have right := (ended second).mpr (texts ▸ (ended first).mp zero)
          exact absurd (zero.trans right.symm) same
        · have nonzero : second.headD 0 ≠ 0 := by
            intro reached
            exact zero ((ended first).mpr (texts.trans ((ended second).mp reached)))
          rw [begun first zero, begun second nonzero] at texts
          exact absurd (List.cons.inj texts).1 same

theorem cstr_equal_iff (first second : Bytes) :
    cstrEqual first second = true ↔ CString.text first = CString.text second ∧
      (CString.text first).length < max first.length second.length :=
  cstr_equal_from_iff _ first second

theorem command_payload_value_valid {command : ActiveSubstanceCommand} (valid : command.Valid) :
    commandPayloadValue command = .ok command.payload := by
  obtain ⟨acid, -, typed, -⟩ := valid.payload
  unfold commandPayloadValue ActiveSubstanceCommand.payload
  cases kind : acid.valueType <;> simp [← typed, kind, AminoValueType.code]

theorem i32_magnitude (value : Int32) : value.toInt.natAbs < 10 ^ i32ScratchLen := by
  have low := value.minValue_le_toInt
  have high := value.toInt_le
  have least : Int32.minValue.toInt = -2147483648 := by decide
  have most : Int32.maxValue.toInt = 2147483647 := by decide
  simp only [i32ScratchLen]
  omega

theorem encode_i32_ascii_fits (value : Int32) (outLen : Nat) (room : 11 ≤ outLen) :
    encodeI32Ascii value outLen = .ok (Decimal.signed i32ScratchLen value.toInt) := by
  have digits := Decimal.digits_length_le i32ScratchLen value.toInt.natAbs
  have sign : (if value.toInt < 0 then [Decimal.minus] else ([] : Bytes)).length ≤ 1 := by
    split <;> simp
  have short : ¬ outLen < (if value.toInt < 0 then [Decimal.minus] else ([] : Bytes)).length := by
    omega
  have whole : ¬ outLen < (if value.toInt < 0 then [Decimal.minus] else ([] : Bytes)).length +
      (Decimal.digits i32ScratchLen value.toInt.natAbs).length := by
    simp only [i32ScratchLen] at digits ⊢
    omega
  simp only [encodeI32Ascii]
  rw [if_neg short, if_neg whole, Decimal.signed]

/-- The scratch area holds every 32-bit integer, so the text is the printed
integer. -/
theorem encode_i32_ascii_text (value : Int32) :
    encodeI32Ascii value mqttBrokerPayloadMaxLen =
      .ok (CString.utf8 (toString value.toInt)) := by
  rw [encode_i32_ascii_fits _ _ (by decide),
    Decimal.signed_text (by decide) _ (i32_magnitude value)]

theorem encode_command_payload_valid {command : ActiveSubstanceCommand} (valid : command.Valid) :
    ∃ payload, encodeCommandPayload command mqttBrokerPayloadMaxLen = .ok payload ∧
      payload.length ≤ 11 := by
  obtain ⟨acid, -, typed, fits⟩ := valid.payload
  unfold encodeCommandPayload
  cases kind : acid.valueType with
  | none =>
      rw [kind] at typed
      exact ⟨[], by rw [if_pos typed.symm], by simp⟩
  | bool =>
      rw [kind] at typed fits
      have absent : command.payloadType ≠ AminoValueType.none.code := by
        rw [← typed]
        decide
      simp only [ActiveSubstanceCommand.payload, if_neg absent, PayloadFits,
        Option.some.injEq] at fits
      rw [if_neg absent, if_pos typed.symm, if_neg (by decide)]
      rcases fits with zero | one
      · exact ⟨[48], by rw [if_pos zero], by simp⟩
      · exact ⟨[49], by rw [if_neg (by rw [one]; decide), if_pos one], by simp⟩
  | int =>
      rw [kind] at typed
      have absent : command.payloadType ≠ AminoValueType.none.code := by
        rw [← typed]
        decide
      have integer : command.payloadType ≠ AminoValueType.bool.code := by
        rw [← typed]
        decide
      rw [if_neg absent, if_neg integer, if_pos typed.symm,
        encode_i32_ascii_fits _ _ (by decide)]
      refine ⟨_, rfl, ?_⟩
      have digits := Decimal.digits_length_le i32ScratchLen command.payloadI32.toInt.natAbs
      simp only [i32ScratchLen] at digits
      rw [Decimal.signed, List.length_append, List.length_reverse]
      split
      · simp only [List.length_singleton, i32ScratchLen]
        omega
      · simp only [List.length_nil, i32ScratchLen]
        omega

def DigestedActiveSubstance.request (digested : DigestedActiveSubstance) (payload : Bytes) :
    PublishRequest where
  clientId := CString.text digested.device.mqttClientId.toList
  topic := CString.text digested.command.topic.toList
  payload := payload
  qos := deviceCommandQos
  retain := deviceCommandRetain

structure DigestedActiveSubstance.Publishable (membrane : Membrane)
    (digested : DigestedActiveSubstance) : Prop where
  valid : digested.command.Valid
  addressed : CString.text digested.command.deviceId.toList =
    CString.text digested.device.mqttClientId.toList
  allowed : membrane.allows digested.device digested.command.aminoId
    digested.command.payload = true

theorem publish_digested_command_publishable {broker : MqttBroker} {membrane : Membrane}
    {digested : DigestedActiveSubstance} (publishable : digested.Publishable membrane) :
    ∃ payload,
      encodeCommandPayload digested.command mqttBrokerPayloadMaxLen = .ok payload ∧
      publishDigestedCommand broker membrane digested =
        (mqttBrokerPublishToClient broker (digested.request payload),
          [⟨digested.request payload,
            mqttBrokerPublishToClient broker (digested.request payload)⟩]) := by
  obtain ⟨payload, encoded, short⟩ := encode_command_payload_valid publishable.valid
  refine ⟨payload, encoded, ?_⟩
  have checked := active_substance_command_validate_ok.mpr publishable.valid
  have terminated := (c_string_field_valid_terminated publishable.valid.deviceId).2
  have same : cstrEqual digested.command.deviceId.toList
      digested.device.mqttClientId.toList = true := by
    rw [cstr_equal_iff]
    exact ⟨publishable.addressed, lt_max_of_lt_left terminated⟩
  have fits : ¬ mqttBrokerPayloadMaxLen < payload.length := by
    simp only [mqttBrokerPayloadMaxLen]
    omega
  simp [publishDigestedCommand, publishCommandToDevice, checked, same,
    command_payload_value_valid publishable.valid, publishable.allowed, encoded,
    publishToClientCstr, DigestedActiveSubstance.request, fits]

theorem publish_digested_command_refused {broker : MqttBroker} {membrane : Membrane}
    {digested : DigestedActiveSubstance} (refused : ¬ digested.Publishable membrane) :
    ∃ err, publishDigestedCommand broker membrane digested = (.error err, []) := by
  cases checked : activeSubstanceCommandValidate digested.command with
  | error err => exact ⟨err, by simp [publishDigestedCommand, checked]⟩
  | ok =>
      have valid := active_substance_command_validate_ok.mp checked
      by_cases same : cstrEqual digested.command.deviceId.toList
          digested.device.mqttClientId.toList = true
      · by_cases allowed : membrane.allows digested.device digested.command.aminoId
            digested.command.payload = true
        · exact absurd ⟨valid, ((cstr_equal_iff _ _).mp same).1, allowed⟩ refused
        · exact ⟨.invalidState, by
            simp [publishDigestedCommand, checked, same, command_payload_value_valid valid,
              allowed]⟩
      · exact ⟨.invalidState, by simp [publishDigestedCommand, checked, same]⟩

end BlindNet
