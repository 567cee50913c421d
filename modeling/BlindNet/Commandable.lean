import BlindNet.Broker
import BlindNet.CleanTables

/-!
# Commandable devices

Registration takes client ids of up to 32 bytes, a command names its device in 32 bytes
with a NUL. A device whose id fills its field is registered and can never be named by a
command.
-/

namespace BlindNet

set_option autoImplicit false

open ByteLayout

def Commandable (mqttClientId : Bytes) : Prop :=
  ∃ plaintext, ∀ out, (activeSubstanceParseCommand plaintext out).1 = .ok () ∧
    cstrEqual (activeSubstanceParseCommand plaintext out).2.deviceId.toList mqttClientId = true

def switchOnCommand (deviceId : Bytes) : ActiveSubstanceCommand :=
  ⟨fit 32 deviceId, fit 32 [116], 1, AminoValueType.none.code, List.Vector.replicate 3 0, 0⟩

theorem switch_on_command_valid {deviceId : Bytes} (clean : ∀ byte ∈ deviceId, byte ≠ 0)
    (nonempty : deviceId ≠ []) (short : deviceId.length < 32) :
    (switchOnCommand deviceId).Valid where
  deviceId := c_string_field_valid_fit clean nonempty short
  topic := rfl
  reserved := rfl
  payload := ⟨⟨1, _, .none, _⟩, rfl, rfl, rfl⟩

/-- A client id is named by some command exactly when it leaves room for the NUL. -/
theorem commandable_iff {mqttClientId : ByteArr 33}
    (named : CString.text mqttClientId.toList ≠ []) :
    Commandable mqttClientId.toList ↔ (CString.text mqttClientId.toList).length ≤ 31 := by
  constructor
  · rintro ⟨plaintext, commands⟩
    obtain ⟨accepted, same⟩ := commands activeSubstanceCommandClear
    rw [active_substance_parse_command_value accepted, cstr_equal_iff] at same
    have valid := (active_substance_parse_command_ok.mp accepted).2
    have terminated := (c_string_field_valid_terminated valid.deviceId).2
    rw [List.Vector.toList_length, same.1] at terminated
    omega
  · intro short
    generalize text : CString.text mqttClientId.toList = deviceId at named short
    have clean : ∀ byte ∈ deviceId, byte ≠ 0 := by
      intro byte member
      rw [← text] at member
      exact CString.text_ne_zero member
    have fits : deviceId.length < 32 := by omega
    use ActiveSubstanceCommand.layout.encode (switchOnCommand deviceId)
    intro out
    have accepted : (activeSubstanceParseCommand
        (ActiveSubstanceCommand.layout.encode (switchOnCommand deviceId)) out).1 = .ok () := by
      apply active_substance_parse_command_ok.mpr
      rw [ActiveSubstanceCommand.layout.decode_encode]
      exact ⟨ActiveSubstanceCommand.layout.encode_length _,
        switch_on_command_valid clean named fits⟩
    apply And.intro accepted
    rw [active_substance_parse_command_value accepted,
      ActiveSubstanceCommand.layout.decode_encode, cstr_equal_iff]
    have device : CString.text (switchOnCommand deviceId).deviceId.toList = deviceId :=
      CString.text_fit clean fits
    rw [device, text, List.Vector.toList_length, List.Vector.toList_length]
    exact ⟨rfl, by omega⟩

theorem ribosome_table_make_entry_text {config : RibosomeEntryConfig} {entry : RibosomeTableEntry}
    (made : ribosomeTableMakeEntry config = .ok entry) :
    CString.text entry.mqttClientId.toList = CString.text config.mqttClientId := by
  rw [(ribosome_table_make_entry_registered made).2]
  unfold ribosomeTableMakeEntry at made
  have named := (guard_ok.mp made).1
  apply CString.text_take
  apply (CString.text_length_lt_iff _).mp
  exact ((string_valid_iff _).mp (by simpa using named)).2

theorem registered_commandable_iff (table : RibosomeTable) (config : RibosomeEntryConfig)
    (accepted : (ribosomeTableAddFromConfig table config).1 = .ok ()) :
    ∃ entry, (ribosomeTableAddFromConfig table config).2.live = table.live ++ [entry] ∧
      (Commandable entry.mqttClientId.toList ↔
        (CString.text config.mqttClientId).length ≤ 31) := by
  have bounded : table.count ≤ ribosomeMaxEntries := by
    by_contra excess
    rw [ribosomeTableAddFromConfig, if_pos (Nat.lt_of_not_le excess)] at accepted
    cases accepted
  rcases ribosome_table_add_from_config_cases bounded config with
    ⟨err, refused⟩ | ⟨err, room, refused⟩ | ⟨entry, room, made, _, added⟩
  · rw [refused] at accepted
    cases accepted
  · rw [refused] at accepted
    cases accepted
  · use entry
    rw [added]
    apply And.intro (PrefixArray.live_append table.entries table.count room entry)
    have registered := (ribosome_table_make_entry_registered made).1
    rw [commandable_iff ((string_valid_iff _).mp registered.named).1,
      ribosome_table_make_entry_text made]

theorem door_commandable :
    ∃ entry, (ribosomeTableAddFromConfig ribosomeTableInit
        ⟨CString.utf8 "door01" ++ [0], rnaTemplateIdDoor, 1, List.Vector.replicate 32 9⟩).2.live =
          ribosomeTableInit.live ++ [entry] ∧ Commandable entry.mqttClientId.toList := by
  obtain ⟨entry, stored, commandable⟩ := registered_commandable_iff ribosomeTableInit
    ⟨CString.utf8 "door01" ++ [0], rnaTemplateIdDoor, 1, List.Vector.replicate 32 9⟩
    (by decide +kernel)
  exact ⟨entry, stored, commandable.mpr (by decide +kernel)⟩

def longRegistration : RibosomeEntryConfig :=
  ⟨List.replicate 32 97 ++ [0], rnaTemplateIdDoor, 1, List.Vector.replicate 32 9⟩

theorem long_client_id_not_commandable :
    (ribosomeTableAddFromConfig ribosomeTableInit longRegistration).1 = .ok () ∧
      ∃ entry, (ribosomeTableAddFromConfig ribosomeTableInit longRegistration).2.live = [entry] ∧
        ¬ Commandable entry.mqttClientId.toList := by
  refine ⟨by decide +kernel,
    ⟨strncpyCleared 33 longRegistration.mqttClientId, rnaTemplateIdDoor, 1,
      List.Vector.replicate 32 9⟩, by decide +kernel, ?_⟩
  rw [commandable_iff (by decide +kernel)]
  decide +kernel

end BlindNet
