import Mathlib.Data.List.Pairwise
import BlindNet.RnaMembrane
import BlindNet.Lib.PrefixArray

/-!
# Ribosome table

The devices a Guardian speaks for: an MQTT client id, the RNA template, and the
secret and epoch that open the device's active substances. Registration keeps
client ids unique and secrets non-zero; it does not compare secrets.
-/

namespace BlindNet

set_option autoImplicit false

open ByteLayout

def ribosomeMaxEntries : Nat := 20
def ribosomeMqttClientIdLen : Nat := 33

structure RibosomeTableEntry where
  mqttClientId : ByteArr 33
  templateId : UInt16
  epoch : UInt32
  deviceSecret : ByteArr 32
  deriving DecidableEq

structure RibosomeTable where
  entries : List.Vector RibosomeTableEntry ribosomeMaxEntries
  count : Nat
  deriving DecidableEq

/-- The client id is the memory the configuration points to, with its NUL. -/
structure RibosomeEntryConfig where
  mqttClientId : Bytes
  templateId : UInt16
  epoch : UInt32
  deviceSecret : ByteArr 32

def ribosomeTemplateIdValid (templateId : UInt16) : Bool :=
  rnaTemplateIdValid templateId

def ribosomeTableClearEntry : RibosomeTableEntry :=
  ⟨List.Vector.replicate 33 0, 0, 0, List.Vector.replicate 32 0⟩

def ribosomeTableInit : RibosomeTable :=
  ⟨List.Vector.replicate ribosomeMaxEntries ribosomeTableClearEntry, 0⟩

def RibosomeTable.live (table : RibosomeTable) : List RibosomeTableEntry :=
  PrefixArray.live table.entries table.count

/-- `strncmp` over the width of a client id finds no difference. -/
def sameClientId (first second : Bytes) : Bool :=
  CString.text (first.take ribosomeMqttClientIdLen) ==
    CString.text (second.take ribosomeMqttClientIdLen)

def copyEntrySanitized (source : RibosomeTableEntry) : RibosomeTableEntry :=
  { source with mqttClientId := strncpyCleared 33 source.mqttClientId.toList }

def ribosomeTableMakeEntry (config : RibosomeEntryConfig) : Result RibosomeTableEntry :=
  if !stringValid (config.mqttClientId.take ribosomeMqttClientIdLen) then
    .error .invalidArg
  else if !ribosomeTemplateIdValid config.templateId then
    .error .invalidArg
  else if bytesAllZero config.deviceSecret.toList then
    .error .invalidArg
  else
    .ok ⟨strncpyCleared 33 config.mqttClientId, config.templateId, config.epoch,
      config.deviceSecret⟩

def ribosomeTableEntryExists (table : RibosomeTable) (mqttClientId : Bytes) : Bool :=
  if ribosomeMaxEntries < table.count ||
      !stringValid (mqttClientId.take ribosomeMqttClientIdLen) then
    false
  else
    table.live.any fun entry => sameClientId entry.mqttClientId.toList mqttClientId

def ribosomeTableAddEntry (table : RibosomeTable) (entry : RibosomeTableEntry) :
    Result RibosomeTable :=
  if ribosomeMaxEntries < table.count then
    .error .invalidArg
  else if !stringValid entry.mqttClientId.toList then
    .error .invalidArg
  else if !ribosomeTemplateIdValid entry.templateId then
    .error .invalidArg
  else if bytesAllZero entry.deviceSecret.toList then
    .error .invalidArg
  else if room : table.count < ribosomeMaxEntries then
    if ribosomeTableEntryExists table entry.mqttClientId.toList then
      .error .invalidState
    else
      .ok ⟨table.entries.set ⟨table.count, room⟩ (copyEntrySanitized entry), table.count + 1⟩
  else
    .error .noMem

/-- A rejected configuration leaves its slot cleared and the count as it was;
the slot is not in use either way. -/
def ribosomeTableAddFromConfig (table : RibosomeTable) (config : RibosomeEntryConfig) :
    Result Unit × RibosomeTable :=
  if ribosomeMaxEntries < table.count then
    (.error .invalidArg, table)
  else if room : table.count < ribosomeMaxEntries then
    if !stringValid (config.mqttClientId.take ribosomeMqttClientIdLen) then
      (.error .invalidArg, table)
    else if ribosomeTableEntryExists table config.mqttClientId then
      (.error .invalidState, table)
    else
      match ribosomeTableMakeEntry config with
      | .error err =>
          (.error err,
            { table with entries := table.entries.set ⟨table.count, room⟩ ribosomeTableClearEntry })
      | .ok entry =>
          (.ok (), ⟨table.entries.set ⟨table.count, room⟩ entry, table.count + 1⟩)
  else
    (.error .noMem, table)

def ribosomeTableGetEntry (table : RibosomeTable) (mqttClientId : Bytes) :
    Result RibosomeTableEntry :=
  if ribosomeMaxEntries < table.count ||
      !stringValid (mqttClientId.take ribosomeMqttClientIdLen) then
    .error .invalidArg
  else
    match table.live.find? fun entry => sameClientId entry.mqttClientId.toList mqttClientId with
    | none => .error .notFound
    | some entry => .ok (copyEntrySanitized entry)

/-- What registration promises of one entry. -/
structure RibosomeTableEntry.Registered (entry : RibosomeTableEntry) : Prop where
  named : stringValid entry.mqttClientId.toList = true
  template : ribosomeTemplateIdValid entry.templateId = true
  secret : bytesAllZero entry.deviceSecret.toList = false

structure RibosomeTable.WellFormed (table : RibosomeTable) : Prop where
  bounded : table.count ≤ ribosomeMaxEntries
  registered : ∀ entry ∈ table.live, entry.Registered
  distinct : table.live.Pairwise fun first second =>
    sameClientId first.mqttClientId.toList second.mqttClientId.toList = false

theorem same_client_id_block (first second : ByteArr 33) :
    sameClientId first.toList second.toList = true ↔
      CString.text first.toList = CString.text second.toList := by
  have whole : ∀ block : ByteArr 33, block.toList.take ribosomeMqttClientIdLen = block.toList :=
    fun block => List.take_of_length_le (by simp [ribosomeMqttClientIdLen])
  simp [sameClientId, whole]

theorem RibosomeTable.WellFormed.clients_differ {table : RibosomeTable} (formed : table.WellFormed)
    {first second : RibosomeTableEntry} (isFirst : first ∈ table.live)
    (isSecond : second ∈ table.live) (different : first ≠ second) :
    CString.text first.mqttClientId.toList ≠ CString.text second.mqttClientId.toList := by
  have apart : table.live.Pairwise fun first second =>
      CString.text first.mqttClientId.toList ≠ CString.text second.mqttClientId.toList := by
    apply formed.distinct.imp
    intro first second differs same
    rw [(same_client_id_block _ _).mpr same] at differs
    exact absurd differs (by decide)
  have symmetric : Std.Symm fun first second : RibosomeTableEntry =>
      CString.text first.mqttClientId.toList ≠ CString.text second.mqttClientId.toList :=
    ⟨fun _ _ differs => differs.symm⟩
  exact apart.forall isFirst isSecond different

theorem strncpy_client_id_text {source : Bytes}
    (terminated : (CString.text source).length < ribosomeMqttClientIdLen) :
    CString.text (strncpyCleared 33 source).toList = CString.text source := by
  rw [strncpy_cleared_text (by decide)]
  exact List.take_of_length_le (by simp [ribosomeMqttClientIdLen] at terminated; omega)

theorem RibosomeTableEntry.Registered.sanitized {entry : RibosomeTableEntry}
    (registered : entry.Registered) :
    (copyEntrySanitized entry).Registered ∧
      CString.text (copyEntrySanitized entry).mqttClientId.toList =
        CString.text entry.mqttClientId.toList := by
  obtain ⟨nonempty, terminated⟩ := (string_valid_iff _).mp registered.named
  have same : CString.text (copyEntrySanitized entry).mqttClientId.toList =
      CString.text entry.mqttClientId.toList :=
    strncpy_client_id_text (by simpa [ribosomeMqttClientIdLen] using terminated)
  refine ⟨⟨?_, registered.template, registered.secret⟩, same⟩
  rw [string_valid_iff, same]
  exact ⟨nonempty, by simpa using terminated⟩

theorem ribosome_table_init_well_formed : ribosomeTableInit.WellFormed where
  bounded := Nat.zero_le _
  registered := by simp [ribosomeTableInit, RibosomeTable.live, PrefixArray.live]
  distinct := by simp [ribosomeTableInit, RibosomeTable.live, PrefixArray.live]

/-- Appending a registered entry whose client id is new. -/
theorem RibosomeTable.WellFormed.push {table : RibosomeTable} (formed : table.WellFormed)
    (room : table.count < ribosomeMaxEntries) {entry : RibosomeTableEntry}
    (registered : entry.Registered)
    (fresh : ∀ other ∈ table.live,
      CString.text other.mqttClientId.toList ≠ CString.text entry.mqttClientId.toList) :
    RibosomeTable.WellFormed
      ⟨table.entries.set ⟨table.count, room⟩ entry, table.count + 1⟩ := by
  have appended : RibosomeTable.live
      ⟨table.entries.set ⟨table.count, room⟩ entry, table.count + 1⟩ = table.live ++ [entry] :=
    PrefixArray.live_append table.entries table.count room entry
  refine ⟨room, ?_, ?_⟩
  · intro other member
    rw [appended, List.mem_append, List.mem_singleton] at member
    rcases member with held | rfl
    · exact formed.registered other held
    · exact registered
  · rw [appended, List.pairwise_append]
    refine ⟨formed.distinct, List.pairwise_singleton _ _, ?_⟩
    intro other held last isLast
    rw [List.mem_singleton.mp isLast, ← Bool.not_eq_true, same_client_id_block]
    exact fresh other held

theorem entry_exists_false {table : RibosomeTable} {id : Bytes}
    (bounded : table.count ≤ ribosomeMaxEntries)
    (named : stringValid (id.take ribosomeMqttClientIdLen) = true)
    (absent : ribosomeTableEntryExists table id = false) :
    ∀ other ∈ table.live,
      CString.text other.mqttClientId.toList ≠ CString.text (id.take ribosomeMqttClientIdLen) := by
  have inRange : ¬ ribosomeMaxEntries < table.count := by omega
  intro other member same
  have differs : sameClientId other.mqttClientId.toList id = false := by
    have none := absent
    simp only [ribosomeTableEntryExists, inRange, named] at none
    simpa using List.any_eq_false.mp none other member
  have whole : other.mqttClientId.toList.take ribosomeMqttClientIdLen =
      other.mqttClientId.toList :=
    List.take_of_length_le (by simp [ribosomeMqttClientIdLen])
  simp [sameClientId, whole, same] at differs

theorem ribosome_table_make_entry_registered {config : RibosomeEntryConfig}
    {entry : RibosomeTableEntry} (made : ribosomeTableMakeEntry config = .ok entry) :
    entry.Registered ∧ CString.text entry.mqttClientId.toList =
      CString.text (config.mqttClientId.take ribosomeMqttClientIdLen) := by
  unfold ribosomeTableMakeEntry at made
  split_ifs at made with unnamed badTemplate zeroSecret
  have named : stringValid (config.mqttClientId.take ribosomeMqttClientIdLen) = true := by
    simpa using unnamed
  obtain ⟨nonempty, terminated⟩ := (string_valid_iff _).mp named
  have width : (config.mqttClientId.take ribosomeMqttClientIdLen).length ≤ 33 :=
    List.length_take_le _ _
  have cut := CString.text_take ((CString.text_length_lt_iff _).mp terminated)
  have same : CString.text (strncpyCleared 33 config.mqttClientId).toList =
      CString.text (config.mqttClientId.take ribosomeMqttClientIdLen) := by
    rw [strncpy_client_id_text, cut]
    rw [← cut]
    exact Nat.lt_of_lt_of_le terminated width
  cases made
  refine ⟨⟨?_, by simpa using badTemplate, by simpa using zeroSecret⟩, same⟩
  rw [string_valid_iff, same]
  refine ⟨nonempty, ?_⟩
  rw [List.Vector.toList_length]
  exact Nat.lt_of_lt_of_le terminated width

theorem ribosome_table_add_from_config_well_formed {table : RibosomeTable}
    (formed : table.WellFormed) (config : RibosomeEntryConfig) :
    (ribosomeTableAddFromConfig table config).2.WellFormed := by
  unfold ribosomeTableAddFromConfig
  split_ifs with excess room unnamed exists_
  · exact formed
  · exact formed
  · exact formed
  · cases made : ribosomeTableMakeEntry config with
    | error err =>
        have hidden := PrefixArray.live_set_unused table.entries table.count room
          ribosomeTableClearEntry
        refine ⟨formed.bounded, ?_, ?_⟩
        · simpa only [RibosomeTable.live, hidden] using formed.registered
        · simpa only [RibosomeTable.live, hidden] using formed.distinct
    | ok entry =>
        obtain ⟨registered, same⟩ := ribosome_table_make_entry_registered made
        have fresh := entry_exists_false formed.bounded (by simpa using unnamed)
          (by simpa using exists_)
        exact formed.push room registered (by rw [same]; exact fresh)
  · exact formed

end BlindNet
