import BlindNet.Interop

/-!
# What a device can tell apart

The MQTT message of a command carries its topic and the text of its payload,
and nothing that names the amino acid. Two commands for one device and topic
are therefore told apart exactly when they carry different payloads.
-/

namespace BlindNet

set_option autoImplicit false

open ByteLayout

def payloadBytes : Option Int32 → Bytes
  | none => []
  | some value => Decimal.signed i32ScratchLen value.toInt

/-- The text depends on the payload alone: every amino acid takes none or an
integer. -/
theorem encode_command_payload_bytes {command : ActiveSubstanceCommand} (valid : command.Valid) :
    encodeCommandPayload command mqttBrokerPayloadMaxLen = .ok (payloadBytes command.payload) := by
  obtain ⟨acid, found, typed, -⟩ := valid.payload
  have listed := (amino_acid_find_spec found).1
  unfold encodeCommandPayload ActiveSubstanceCommand.payload
  cases kind : acid.valueType with
  | none =>
      rw [kind] at typed
      rw [if_pos typed.symm, if_pos typed.symm]
      rfl
  | bool => exact absurd kind (amino_acids_listed listed).2
  | int =>
      rw [kind] at typed
      have some : command.payloadType ≠ AminoValueType.none.code := by
        rw [← typed]
        decide
      have integer : command.payloadType ≠ AminoValueType.bool.code := by
        rw [← typed]
        decide
      rw [if_neg some, if_neg integer, if_pos typed.symm, if_neg some,
        encode_i32_ascii_fits _ _ (by decide)]
      rfl

theorem payload_bytes_injective : Function.Injective payloadBytes := by
  intro first second same
  cases first with
  | none =>
      cases second with
      | none => rfl
      | some value => exact absurd same.symm (Decimal.signed_ne_nil (by decide) _)
  | some value =>
      cases second with
      | none => exact absurd same (Decimal.signed_ne_nil (by decide) _)
      | some other =>
          apply congrArg some
          apply Int32.toInt_inj.mp
          exact Decimal.signed_injective (i32_magnitude value) (i32_magnitude other) same

theorem publication_message {broker : MqttBroker} {membrane : Membrane}
    {digested : DigestedActiveSubstance} {publication : Publication}
    (made : publication ∈ (publishDigestedCommand broker membrane digested).2) :
    publication.request.message = ⟨CString.text digested.command.topic.toList,
      payloadBytes digested.command.payload, false⟩ := by
  by_cases publishable : digested.Publishable membrane
  · obtain ⟨payload, encoded, published⟩ :=
      @publish_digested_command_publishable broker _ _ publishable
    rw [encode_command_payload_bytes publishable.valid, Except.ok.injEq] at encoded
    rw [published, List.mem_singleton] at made
    rw [made, encoded]
    rfl
  · obtain ⟨err, refused⟩ := @publish_digested_command_refused broker _ _ publishable
    rw [refused] at made
    exact absurd made List.not_mem_nil

/-- Two commands published for one device and topic are told apart by their
messages exactly when they have one amino acid or carry different payloads. -/
theorem commands_distinguishable_iff (firstBroker secondBroker : MqttBroker) (membrane : Membrane)
    (device : RibosomeTableEntry) (first second : ActiveSubstanceCommand)
    (firstPublication secondPublication : Publication)
    (firstMade : firstPublication ∈
      (publishDigestedCommand firstBroker membrane ⟨first, device⟩).2)
    (secondMade : secondPublication ∈
      (publishDigestedCommand secondBroker membrane ⟨second, device⟩).2)
    (sameTopic : CString.text first.topic.toList = CString.text second.topic.toList) :
    (firstPublication.request.message = secondPublication.request.message →
        first.aminoId = second.aminoId ∧ first.payload = second.payload) ↔
      (first.aminoId = second.aminoId ∨ first.payload ≠ second.payload) := by
  have messages : firstPublication.request.message = secondPublication.request.message ↔
      first.payload = second.payload := by
    rw [publication_message firstMade, publication_message secondMade]
    constructor
    · intro same
      exact payload_bytes_injective (congrArg MqttMessage.payload same)
    · intro same
      rw [sameTopic, same]
  rw [messages]
  constructor
  · intro determined
    by_cases samePayload : first.payload = second.payload
    · exact Or.inl (determined samePayload).1
    · exact Or.inr samePayload
  · rintro (sameAmino | differ) samePayload
    · exact ⟨sameAmino, samePayload⟩
    · exact absurd samePayload differ

def lampCommand (aminoId : Int32) : ActiveSubstanceCommand where
  deviceId := fit 32 (CString.utf8 "lamp01")
  topic := fit 32 (CString.utf8 "blindnet/lamp01/cmd")
  aminoId := aminoId
  payloadType := 0
  reserved := List.Vector.replicate 3 0
  payloadI32 := 0

/-- Switching the lamp on and switching it off are one and the same message,
which the sketch takes for a toggle. -/
theorem lamp_on_off_indistinguishable :
    publishDigestedCommand benchEnvironment.broker lampPipeline.membrane
        ⟨lampCommand aminoOn, lampEntry⟩ = (.ok (), [lampPublication]) ∧
      publishDigestedCommand benchEnvironment.broker lampPipeline.membrane
        ⟨lampCommand aminoOff, lampEntry⟩ = (.ok (), [lampPublication]) ∧
      lampPublication.request.message =
        ⟨CString.utf8 "blindnet/lamp01/cmd", [], false⟩ ∧
      (lampCommand aminoOn).aminoId ≠ (lampCommand aminoOff).aminoId := by
  decide +kernel

theorem lamp_on_toggle_confused :
    ¬ (lampPublication.request.message = lampPublication.request.message →
        (lampCommand aminoOn).aminoId = (lampCommand aminoToggle).aminoId ∧
          (lampCommand aminoOn).payload = (lampCommand aminoToggle).payload) := by
  have firstMade : lampPublication ∈ (publishDigestedCommand benchEnvironment.broker
      lampPipeline.membrane ⟨lampCommand aminoOn, lampEntry⟩).2 := by decide +kernel
  have secondMade : lampPublication ∈ (publishDigestedCommand benchEnvironment.broker
      lampPipeline.membrane ⟨lampCommand aminoToggle, lampEntry⟩).2 := by decide +kernel
  rw [commands_distinguishable_iff benchEnvironment.broker benchEnvironment.broker
    lampPipeline.membrane lampEntry _ _ lampPublication lampPublication firstMade secondMade rfl]
  decide

end BlindNet
