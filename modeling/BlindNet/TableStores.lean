import BlindNet.CleanTables
import BlindNet.Nvs

/-!
# The stores of the two tables

A table is kept in NVS as one blob with a magic number, a version, a count, the
slots and a checksum. Writing and reading both add every entry again to an empty
table. The C structures of the slots have one byte of padding each, which the
checksum covers.
-/

namespace BlindNet

set_option autoImplicit false

open ByteLayout PrefixArray KeyedTable

/-! ## Ribosome store -/

def ribosomeStoreMagic : UInt32 := 0x5249424F
def ribosomeStoreVersion : UInt16 := 2

def RibosomeTableEntry.paddedEquiv :
    ByteArr 33 × UInt8 × UInt16 × UInt32 × ByteArr 32 ≃ RibosomeTableEntry × UInt8 where
  toFun fields := (⟨fields.1, fields.2.2.1, fields.2.2.2.1, fields.2.2.2.2⟩, fields.2.1)
  invFun slot :=
    (slot.1.mqttClientId, slot.2, slot.1.templateId, slot.1.epoch, slot.1.deviceSecret)
  left_inv _ := rfl
  right_inv _ := rfl

/-- An entry and the padding byte in front of its template id. -/
def RibosomeTableEntry.paddedLayout : Layout (RibosomeTableEntry × UInt8) 72 :=
  ((Layout.block 33).pair <| Layout.byte.pair <| Layout.u16.pair <| Layout.u32.pair <|
    Layout.block 32).iso RibosomeTableEntry.paddedEquiv

structure RibosomeStoreBlob where
  magic : UInt32
  version : UInt16
  entryCount : UInt16
  entries : List.Vector (RibosomeTableEntry × UInt8) ribosomeMaxEntries
  checksum : UInt32

def RibosomeStoreBlob.equiv :
    UInt32 × UInt16 × UInt16 × List.Vector (RibosomeTableEntry × UInt8) ribosomeMaxEntries ×
      UInt32 ≃ RibosomeStoreBlob where
  toFun fields := ⟨fields.1, fields.2.1, fields.2.2.1, fields.2.2.2.1, fields.2.2.2.2⟩
  invFun blob := (blob.magic, blob.version, blob.entryCount, blob.entries, blob.checksum)
  left_inv _ := rfl
  right_inv _ := rfl

def RibosomeStoreBlob.layout : Layout RibosomeStoreBlob 1452 :=
  (Layout.u32.pair <| Layout.u16.pair <| Layout.u16.pair <|
    (RibosomeTableEntry.paddedLayout.array ribosomeMaxEntries).pair Layout.u32).iso
      RibosomeStoreBlob.equiv

def RibosomeStoreBlob.blobChecksum (blob : RibosomeStoreBlob) : UInt32 :=
  let hash := fnv1a32Update 2166136261 (Layout.u32.encode blob.magic)
  let hash := fnv1a32Update hash (Layout.u16.encode blob.version)
  let hash := fnv1a32Update hash (Layout.u16.encode blob.entryCount)
  fnv1a32Update hash
    ((RibosomeTableEntry.paddedLayout.array ribosomeMaxEntries).encode blob.entries)

/-- `table_to_blob`: the cleared blob takes the validated entries, nothing else. -/
def ribosomeTableToBlob (table : RibosomeTable) : Result RibosomeStoreBlob :=
  if ribosomeMaxEntries < table.count then
    .error .invalidArg
  else
    match table.live.foldlM ribosomeTableAddEntry ribosomeTableInit with
    | .error err => .error err
    | .ok validated =>
        let blob : RibosomeStoreBlob :=
          { magic := ribosomeStoreMagic
            version := ribosomeStoreVersion
            entryCount := UInt16.ofNat validated.count
            entries := List.Vector.ofFn fun index =>
              if index.val < validated.count then (validated.entries.get index, 0)
              else (ribosomeTableClearEntry, 0)
            checksum := 0 }
        .ok { blob with checksum := blob.blobChecksum }

def ribosomeBlobToTable (blob : RibosomeStoreBlob) (outTable : RibosomeTable) :
    Result Unit × RibosomeTable :=
  if blob.magic ≠ ribosomeStoreMagic ∨ blob.version ≠ ribosomeStoreVersion ∨
      ribosomeMaxEntries < blob.entryCount.toNat then
    (.error .invalidVersion, outTable)
  else if blob.checksum ≠ blob.blobChecksum then
    (.error .invalidCrc, outTable)
  else
    match ((live blob.entries blob.entryCount.toNat).map Prod.fst).foldlM
        ribosomeTableAddEntry ribosomeTableInit with
    | .error err => (.error err, outTable)
    | .ok table => (.ok (), table)

def ribosomeStoreLoad (fault : Option NvsFault) (stored : Option Bytes) :
    Result Unit × RibosomeTable :=
  storeLoad 1452 ribosomeTableInit
    (fun image => ribosomeBlobToTable (RibosomeStoreBlob.layout.decode image)) fault stored

def ribosomeStoreLoadOrInit (fault : Option NvsFault) (stored : Option Bytes) :
    Result RibosomeTable :=
  storeLoadOrInit 1452 ribosomeTableInit
    (fun image => ribosomeBlobToTable (RibosomeStoreBlob.layout.decode image))
    (.ok ribosomeTableInit) fault stored

def ribosomeStoreSave (write : NvsWrite) (stored : Option Bytes) (table : RibosomeTable) :
    Result Unit × Option Bytes :=
  storeSave ((ribosomeTableToBlob table).map RibosomeStoreBlob.layout.encode) write stored

/-- A loaded table is clean whatever the blob holds, and a refused blob leaves the
output as it was. -/
theorem ribosome_blob_to_table_cases (blob : RibosomeStoreBlob) (outTable : RibosomeTable) :
    (∃ table, ribosomeBlobToTable blob outTable = (.ok (), table) ∧ table.Clean) ∨
      ∃ err, ribosomeBlobToTable blob outTable = (.error err, outTable) := by
  unfold ribosomeBlobToTable
  split_ifs
  · exact Or.inr ⟨_, rfl⟩
  · exact Or.inr ⟨_, rfl⟩
  · cases added : ((live blob.entries blob.entryCount.toNat).map Prod.fst).foldlM
        ribosomeTableAddEntry ribosomeTableInit with
    | error err => exact Or.inr ⟨err, rfl⟩
    | ok table =>
        exact Or.inl ⟨table, rfl,
          add_all_keeps ribosome_table_add_entry_clean ribosome_table_init_clean added⟩

theorem ribosome_loaded_clean {blob : RibosomeStoreBlob} {outTable table : RibosomeTable}
    (decoded : ribosomeBlobToTable blob outTable = (.ok (), table)) : table.Clean := by
  rcases ribosome_blob_to_table_cases blob outTable with
    ⟨final, accepted, clean⟩ | ⟨err, refused⟩
  · rw [accepted] at decoded
    cases decoded
    exact clean
  · rw [refused] at decoded
    cases decoded

theorem u16_count {count : Nat} (small : count < 65536) :
    (UInt16.ofNat count).toNat = count := by
  rw [UInt16.toNat_ofNat']
  omega

def RibosomeTable.blob (table : RibosomeTable) : RibosomeStoreBlob :=
  let blob : RibosomeStoreBlob :=
    { magic := ribosomeStoreMagic
      version := ribosomeStoreVersion
      entryCount := UInt16.ofNat table.count
      entries := table.entries.map fun entry => (entry, 0)
      checksum := 0 }
  { blob with checksum := blob.blobChecksum }

theorem ribosome_table_rebuilds {table : RibosomeTable} (clean : table.Clean) :
    table.live.foldlM ribosomeTableAddEntry ribosomeTableInit = .ok table :=
  ribosome_table_accepts.rebuild clean

theorem ribosome_table_to_blob_clean {table : RibosomeTable} (clean : table.Clean) :
    ribosomeTableToBlob table = .ok table.blob := by
  have inRange : ¬ ribosomeMaxEntries < table.count := Nat.not_lt.mpr clean.bounded
  -- the slots the copying loop leaves cleared are cleared in the table too
  have slots : (List.Vector.ofFn fun index : Fin ribosomeMaxEntries =>
      if index.val < table.count then (table.entries.get index, (0 : UInt8))
      else (ribosomeTableClearEntry, 0)) = table.entries.map fun entry => (entry, 0) := by
    apply List.Vector.ext
    intro index
    rw [List.Vector.get_ofFn, List.Vector.get_map]
    by_cases used : index.val < table.count
    · rw [if_pos used]
    · rw [if_neg used, clean.blanks.get (Nat.not_lt.mp used)]
  rw [ribosomeTableToBlob, if_neg inRange, ribosome_table_rebuilds clean]
  simp only [slots]
  rfl

theorem ribosome_blob_to_table_clean {table : RibosomeTable} (clean : table.Clean)
    (outTable : RibosomeTable) : ribosomeBlobToTable table.blob outTable = (.ok (), table) := by
  have count : table.blob.entryCount.toNat = table.count :=
    u16_count (Nat.lt_of_le_of_lt clean.bounded (by decide))
  have entries : (live table.blob.entries table.count).map Prod.fst = table.live := by
    change (live (table.entries.map fun entry => (entry, (0 : UInt8))) table.count).map
      Prod.fst = _
    rw [live_map, List.map_map]
    exact List.map_id _
  have header : ¬ (table.blob.magic ≠ ribosomeStoreMagic ∨
      table.blob.version ≠ ribosomeStoreVersion ∨
      ribosomeMaxEntries < table.blob.entryCount.toNat) := by
    rw [count, not_or, not_or]
    exact ⟨not_not.mpr rfl, not_not.mpr rfl, Nat.not_lt.mpr clean.bounded⟩
  have checked : table.blob.checksum = table.blob.blobChecksum := rfl
  rw [ribosomeBlobToTable, if_neg header, if_neg (not_not.mpr checked), count, entries,
    ribosome_table_rebuilds clean]

def RibosomeTable.image (table : RibosomeTable) : Bytes :=
  RibosomeStoreBlob.layout.encode table.blob

theorem ribosome_store_load_or_init_clean {fault : Option NvsFault} {stored : Option Bytes}
    {table : RibosomeTable} (loaded : ribosomeStoreLoadOrInit fault stored = .ok table) :
    table.Clean := by
  rcases store_load_or_init_cases loaded with ⟨image, decoded⟩ | fallback
  · exact ribosome_loaded_clean decoded
  · cases fallback
    exact ribosome_table_init_clean

theorem ribosome_store_load_image {table : RibosomeTable} (clean : table.Clean) :
    ribosomeStoreLoadOrInit none (some table.image) = .ok table := by
  apply store_load_or_init_image (RibosomeStoreBlob.layout.encode_length _)
  simp only [Layout.decode_encode]
  exact ribosome_blob_to_table_clean clean ribosomeTableInit

theorem ribosome_store_save_clean {table : RibosomeTable} (clean : table.Clean)
    (write : NvsWrite) (stored : Option Bytes) :
    ribosomeStoreSave write stored table = storeSave (.ok table.image) write stored := by
  rw [ribosomeStoreSave, ribosome_table_to_blob_clean clean]
  rfl

/-! ## RNA store -/

def rnaStoreMagic : UInt32 := 0x524E414D
def rnaStoreVersion : UInt16 := 2

def RnaTemplate.paddedEquiv :
    UInt16 × ByteArr 32 × UInt8 × UInt8 × List.Vector Int32 rnaTemplateMaxAminos × UInt32 ≃
      RnaTemplate × UInt8 where
  toFun fields :=
    (⟨fields.1, fields.2.1, fields.2.2.1, fields.2.2.2.2.1, fields.2.2.2.2.2⟩, fields.2.2.2.1)
  invFun slot :=
    (slot.1.id, slot.1.name, slot.1.aminoCount, slot.2, slot.1.aminos, slot.1.flags)
  left_inv _ := rfl
  right_inv _ := rfl

/-- A template and the padding byte in front of its amino acids. -/
def RnaTemplate.paddedLayout : Layout (RnaTemplate × UInt8) 88 :=
  (Layout.u16.pair <| (Layout.block 32).pair <| Layout.byte.pair <| Layout.byte.pair <|
    (Layout.i32.array rnaTemplateMaxAminos).pair Layout.u32).iso RnaTemplate.paddedEquiv

structure RnaStoreBlob where
  magic : UInt32
  version : UInt16
  templateCount : UInt16
  templates : List.Vector (RnaTemplate × UInt8) rnaMaxTemplates
  checksum : UInt32

def RnaStoreBlob.equiv :
    (UInt32 × UInt16 × UInt16 × List.Vector (RnaTemplate × UInt8) rnaMaxTemplates) × UInt32 ≃
      RnaStoreBlob where
  toFun fields := ⟨fields.1.1, fields.1.2.1, fields.1.2.2.1, fields.1.2.2.2, fields.2⟩
  invFun blob := ((blob.magic, blob.version, blob.templateCount, blob.templates), blob.checksum)
  left_inv _ := rfl
  right_inv _ := rfl

def RnaStoreBlob.bodyLayout :
    Layout (UInt32 × UInt16 × UInt16 × List.Vector (RnaTemplate × UInt8) rnaMaxTemplates) 1416 :=
  Layout.u32.pair <| Layout.u16.pair <| Layout.u16.pair <|
    RnaTemplate.paddedLayout.array rnaMaxTemplates

def RnaStoreBlob.layout : Layout RnaStoreBlob 1420 :=
  (RnaStoreBlob.bodyLayout.pair Layout.u32).iso RnaStoreBlob.equiv

def RnaStoreBlob.blobChecksum (blob : RnaStoreBlob) : UInt32 :=
  fnv1a32Update 2166136261 (RnaStoreBlob.bodyLayout.encode
    (blob.magic, blob.version, blob.templateCount, blob.templates))

def rnaTableToBlob (table : RnaTemplateTable) : Result RnaStoreBlob :=
  if rnaMaxTemplates < table.count ∨ table.count = 0 then
    .error .invalidArg
  else
    match table.live.foldlM rnaTemplateTableAdd rnaTemplateTableInit with
    | .error err => .error err
    | .ok validated =>
        let blob : RnaStoreBlob :=
          { magic := rnaStoreMagic
            version := rnaStoreVersion
            templateCount := UInt16.ofNat validated.count
            templates := validated.templates.map fun template => (template, 0)
            checksum := 0 }
        .ok { blob with checksum := blob.blobChecksum }

def rnaBlobToTable (blob : RnaStoreBlob) (outTable : RnaTemplateTable) :
    Result Unit × RnaTemplateTable :=
  if blob.magic ≠ rnaStoreMagic ∨ blob.version ≠ rnaStoreVersion ∨ blob.templateCount = 0 ∨
      rnaMaxTemplates < blob.templateCount.toNat then
    (.error .invalidVersion, outTable)
  else if blob.checksum ≠ blob.blobChecksum then
    (.error .invalidCrc, outTable)
  else
    match ((live blob.templates blob.templateCount.toNat).map Prod.fst).foldlM
        rnaTemplateTableAdd rnaTemplateTableInit with
    | .error err => (.error err, outTable)
    | .ok table => (.ok (), table)

def rnaMembraneLoad (fault : Option NvsFault) (stored : Option Bytes) :
    Result Unit × RnaTemplateTable :=
  storeLoad 1420 rnaTemplateTableInit
    (fun image => rnaBlobToTable (RnaStoreBlob.layout.decode image)) fault stored

def rnaMembraneLoadOrInit (fault : Option NvsFault) (stored : Option Bytes) :
    Result RnaTemplateTable :=
  storeLoadOrInit 1420 rnaTemplateTableInit
    (fun image => rnaBlobToTable (RnaStoreBlob.layout.decode image))
    rnaMembraneLoadDefaults fault stored

def rnaMembraneSave (write : NvsWrite) (stored : Option Bytes) (table : RnaTemplateTable) :
    Result Unit × Option Bytes :=
  storeSave ((rnaTableToBlob table).map RnaStoreBlob.layout.encode) write stored

theorem rna_blob_to_table_cases (blob : RnaStoreBlob) (outTable : RnaTemplateTable) :
    (∃ table, rnaBlobToTable blob outTable = (.ok (), table) ∧ table.Clean) ∨
      ∃ err, rnaBlobToTable blob outTable = (.error err, outTable) := by
  unfold rnaBlobToTable
  split_ifs
  · exact Or.inr ⟨_, rfl⟩
  · exact Or.inr ⟨_, rfl⟩
  · cases added : ((live blob.templates blob.templateCount.toNat).map Prod.fst).foldlM
        rnaTemplateTableAdd rnaTemplateTableInit with
    | error err => exact Or.inr ⟨err, rfl⟩
    | ok table =>
        exact Or.inl ⟨table, rfl,
          add_all_keeps rna_template_table_add_clean rna_template_table_init_clean added⟩

theorem rna_loaded_clean {blob : RnaStoreBlob} {outTable table : RnaTemplateTable}
    (decoded : rnaBlobToTable blob outTable = (.ok (), table)) : table.Clean := by
  rcases rna_blob_to_table_cases blob outTable with ⟨final, accepted, clean⟩ | ⟨err, refused⟩
  · rw [accepted] at decoded
    cases decoded
    exact clean
  · rw [refused] at decoded
    cases decoded

def RnaTemplateTable.blob (table : RnaTemplateTable) : RnaStoreBlob :=
  let blob : RnaStoreBlob :=
    { magic := rnaStoreMagic
      version := rnaStoreVersion
      templateCount := UInt16.ofNat table.count
      templates := table.templates.map fun template => (template, 0)
      checksum := 0 }
  { blob with checksum := blob.blobChecksum }

theorem rna_table_rebuilds {table : RnaTemplateTable} (clean : table.Clean) :
    table.live.foldlM rnaTemplateTableAdd rnaTemplateTableInit = .ok table :=
  rna_template_table_accepts.rebuild clean

theorem rna_table_to_blob_clean {table : RnaTemplateTable} (clean : table.Clean)
    (nonempty : table.count ≠ 0) : rnaTableToBlob table = .ok table.blob := by
  have usable : ¬ (rnaMaxTemplates < table.count ∨ table.count = 0) :=
    not_or.mpr ⟨Nat.not_lt.mpr clean.bounded, nonempty⟩
  rw [rnaTableToBlob, if_neg usable, rna_table_rebuilds clean]
  rfl

theorem rna_blob_to_table_clean {table : RnaTemplateTable} (clean : table.Clean)
    (nonempty : table.count ≠ 0) (outTable : RnaTemplateTable) :
    rnaBlobToTable table.blob outTable = (.ok (), table) := by
  have count : table.blob.templateCount.toNat = table.count :=
    u16_count (Nat.lt_of_le_of_lt clean.bounded (by decide))
  have templates : (live table.blob.templates table.count).map Prod.fst = table.live := by
    change (live (table.templates.map fun template => (template, (0 : UInt8))) table.count).map
      Prod.fst = _
    rw [live_map, List.map_map]
    exact List.map_id _
  have header : ¬ (table.blob.magic ≠ rnaStoreMagic ∨ table.blob.version ≠ rnaStoreVersion ∨
      table.blob.templateCount = 0 ∨ rnaMaxTemplates < table.blob.templateCount.toNat) := by
    rw [count, not_or, not_or, not_or]
    refine ⟨not_not.mpr rfl, not_not.mpr rfl, ?_, Nat.not_lt.mpr clean.bounded⟩
    intro zero
    rw [zero] at count
    exact nonempty count.symm
  have checked : table.blob.checksum = table.blob.blobChecksum := by
    simp only [RnaTemplateTable.blob, RnaStoreBlob.blobChecksum]
  rw [rnaBlobToTable, if_neg header, if_neg (not_not.mpr checked), count, templates,
    rna_table_rebuilds clean]

def RnaTemplateTable.image (table : RnaTemplateTable) : Bytes :=
  RnaStoreBlob.layout.encode table.blob

theorem rna_membrane_load_or_init_clean {fault : Option NvsFault} {stored : Option Bytes}
    {table : RnaTemplateTable} (loaded : rnaMembraneLoadOrInit fault stored = .ok table) :
    table.Clean := by
  rcases store_load_or_init_cases loaded with ⟨image, decoded⟩ | fallback
  · exact rna_loaded_clean decoded
  · exact rna_membrane_load_defaults_clean fallback

theorem rna_membrane_load_image {table : RnaTemplateTable} (clean : table.Clean)
    (nonempty : table.count ≠ 0) : rnaMembraneLoadOrInit none (some table.image) = .ok table := by
  apply store_load_or_init_image (RnaStoreBlob.layout.encode_length _)
  simp only [Layout.decode_encode]
  exact rna_blob_to_table_clean clean nonempty rnaTemplateTableInit

theorem rna_membrane_save_clean {table : RnaTemplateTable} (clean : table.Clean)
    (nonempty : table.count ≠ 0) (write : NvsWrite) (stored : Option Bytes) :
    rnaMembraneSave write stored table = storeSave (.ok table.image) write stored := by
  rw [rnaMembraneSave, rna_table_to_blob_clean clean nonempty]
  rfl

/-!
## Every table the operations reach

`add_device`, `remove_device` and `add_template` of the membrane change its tables
by `addFromConfig`, `removeEntry` and `add`.
-/

inductive RibosomeTable.Reachable : RibosomeTable → Prop where
  | init : RibosomeTable.Reachable ribosomeTableInit
  | addEntry {table next : RibosomeTable} {entry : RibosomeTableEntry}
      (reached : RibosomeTable.Reachable table)
      (added : ribosomeTableAddEntry table entry = .ok next) : RibosomeTable.Reachable next
  | addFromConfig {table : RibosomeTable} (reached : RibosomeTable.Reachable table)
      (config : RibosomeEntryConfig) :
      RibosomeTable.Reachable (ribosomeTableAddFromConfig table config).2
  | removeEntry {table next : RibosomeTable} {mqttClientId : Bytes}
      (reached : RibosomeTable.Reachable table)
      (removed : ribosomeTableRemoveEntry table mqttClientId = .ok next) :
      RibosomeTable.Reachable next
  | assignTemplate {table next : RibosomeTable} {mqttClientId : Bytes} {templateId : UInt16}
      (reached : RibosomeTable.Reachable table)
      (assigned : ribosomeAssignTemplate table mqttClientId templateId = .ok next) :
      RibosomeTable.Reachable next
  | regenerate {table next : RibosomeTable} {mqttClientId : Bytes} {random : ByteArr 32}
      (reached : RibosomeTable.Reachable table)
      (regenerated : ribosomeRegenerate table mqttClientId random = .ok next) :
      RibosomeTable.Reachable next
  | membraneAssign {membrane next : Membrane} {mqttClientId : Bytes} {templateId : UInt16}
      (reached : RibosomeTable.Reachable membrane.ribosomeTable)
      (assigned : membrane.assignTemplate mqttClientId templateId = .ok next) :
      RibosomeTable.Reachable next.ribosomeTable
  | loaded {blob : RibosomeStoreBlob} {outTable table : RibosomeTable}
      (decoded : ribosomeBlobToTable blob outTable = (.ok (), table)) :
      RibosomeTable.Reachable table

inductive RnaTemplateTable.Reachable : RnaTemplateTable → Prop where
  | init : RnaTemplateTable.Reachable rnaTemplateTableInit
  | add {table next : RnaTemplateTable} {template : RnaTemplate}
      (reached : RnaTemplateTable.Reachable table)
      (added : rnaTemplateTableAdd table template = .ok next) : RnaTemplateTable.Reachable next
  | loadDefaults {table : RnaTemplateTable} (filled : rnaMembraneLoadDefaults = .ok table) :
      RnaTemplateTable.Reachable table
  | upsert {table next : RnaTemplateTable} {template : RnaTemplate}
      (reached : RnaTemplateTable.Reachable table)
      (upserted : rnaTemplateTableUpsert table template = .ok next) :
      RnaTemplateTable.Reachable next
  | membraneReplace {membrane next : Membrane} {template : RnaTemplate}
      (reached : RnaTemplateTable.Reachable membrane.rnaTemplates)
      (replaced : membrane.replaceTemplate template = .ok next) :
      RnaTemplateTable.Reachable next.rnaTemplates
  | membraneRemove {membrane next : Membrane} {templateId : UInt16}
      (reached : RnaTemplateTable.Reachable membrane.rnaTemplates)
      (removed : membrane.removeTemplate templateId = .ok next) :
      RnaTemplateTable.Reachable next.rnaTemplates
  | loaded {blob : RnaStoreBlob} {outTable table : RnaTemplateTable}
      (decoded : rnaBlobToTable blob outTable = (.ok (), table)) :
      RnaTemplateTable.Reachable table

theorem membrane_assign_template_clean {membrane next : Membrane} {mqttClientId : Bytes}
    {templateId : UInt16} (clean : membrane.ribosomeTable.Clean)
    (assigned : membrane.assignTemplate mqttClientId templateId = .ok next) :
    next.ribosomeTable.Clean := by
  rcases Membrane.assign_template_ok assigned with ⟨present, entries, modified, rfl⟩
  rcases Option.isSome_iff_exists.mp present with ⟨template, found⟩
  have known : ribosomeTemplateIdValid templateId = true := by
    simpa [ribosomeTemplateIdValid, rnaTemplateIdValid] using
      (rna_template_table_find_spec found).2.2
  exact clean.assigned known modified

theorem membrane_replace_template_clean {membrane next : Membrane} {template : RnaTemplate}
    (clean : membrane.rnaTemplates.Clean)
    (replaced : membrane.replaceTemplate template = .ok next) : next.rnaTemplates.Clean := by
  rcases Membrane.replace_template_ok replaced with ⟨valid, templates, modified, rfl⟩
  exact clean.replace ((rna_template_validate_iff template).mp valid) modified

theorem membrane_remove_template_clean {membrane next : Membrane} {templateId : UInt16}
    (clean : membrane.rnaTemplates.Clean)
    (removed : membrane.removeTemplate templateId = .ok next) : next.rnaTemplates.Clean := by
  rcases Membrane.remove_template_ok removed with ⟨_, _, templates, taken, rfl⟩
  exact (KeyedTable.Clean.remove_first clean taken fun _ stored => stored.sanitized).1

theorem RibosomeTable.Reachable.clean {table : RibosomeTable} (reached : table.Reachable) :
    table.Clean := by
  induction reached with
  | init => exact ribosome_table_init_clean
  | addEntry _ added clean => exact ribosome_table_add_entry_clean clean added
  | addFromConfig _ config clean => exact ribosome_table_add_from_config_clean clean config
  | removeEntry _ removed clean => exact (ribosome_table_remove_entry_clean clean removed).1
  | assignTemplate _ assigned clean => exact ribosome_assign_template_clean clean assigned
  | regenerate _ regenerated clean => exact ribosome_regenerate_clean clean regenerated
  | membraneAssign _ assigned clean => exact membrane_assign_template_clean clean assigned
  | loaded decoded => exact ribosome_loaded_clean decoded

theorem RnaTemplateTable.Reachable.clean {table : RnaTemplateTable} (reached : table.Reachable) :
    table.Clean := by
  induction reached with
  | init => exact rna_template_table_init_clean
  | add _ added clean => exact rna_template_table_add_clean clean added
  | loadDefaults filled => exact rna_membrane_load_defaults_clean filled
  | upsert _ upserted clean => exact rna_template_table_upsert_clean clean upserted
  | membraneReplace _ replaced clean => exact membrane_replace_template_clean clean replaced
  | membraneRemove _ removed clean => exact membrane_remove_template_clean clean removed
  | loaded decoded => exact rna_loaded_clean decoded

/-- Both stores give back every table the operations reach, accept only clean
tables from any blob of the right size, and leave the output alone otherwise. -/
theorem stores_round_trip_and_load_sound :
    (∀ table : RibosomeTable, table.Reachable → ∃ blob, ribosomeTableToBlob table = .ok blob ∧
      ∀ outTable, ribosomeBlobToTable blob outTable = (.ok (), table)) ∧
    (∀ table : RnaTemplateTable, table.Reachable → 1 ≤ table.count →
      ∃ blob, rnaTableToBlob table = .ok blob ∧
        ∀ outTable, rnaBlobToTable blob outTable = (.ok (), table)) ∧
    (∀ (image : Bytes) (outTable : RibosomeTable), image.length = 1452 →
      let loaded := ribosomeBlobToTable (RibosomeStoreBlob.layout.decode image) outTable
      (loaded.1 = .ok () → loaded.2.Clean) ∧ (loaded.1 ≠ .ok () → loaded.2 = outTable)) ∧
    ∀ (image : Bytes) (outTable : RnaTemplateTable), image.length = 1420 →
      let loaded := rnaBlobToTable (RnaStoreBlob.layout.decode image) outTable
      (loaded.1 = .ok () → loaded.2.Clean) ∧ (loaded.1 ≠ .ok () → loaded.2 = outTable) := by
  refine ⟨?_, ?_, ?_, ?_⟩
  · intro table reached
    exact ⟨table.blob, ribosome_table_to_blob_clean reached.clean,
      ribosome_blob_to_table_clean reached.clean⟩
  · intro table reached some_
    have nonempty : table.count ≠ 0 := Nat.one_le_iff_ne_zero.mp some_
    exact ⟨table.blob, rna_table_to_blob_clean reached.clean nonempty,
      rna_blob_to_table_clean reached.clean nonempty⟩
  · intro image outTable _
    rcases ribosome_blob_to_table_cases (RibosomeStoreBlob.layout.decode image) outTable with
      ⟨table, accepted, clean⟩ | ⟨err, refused⟩
    · rw [accepted]
      exact ⟨fun _ => clean, fun refusal => absurd rfl refusal⟩
    · rw [refused]
      exact ⟨fun success => absurd success (by simp), fun _ => rfl⟩
  · intro image outTable _
    rcases rna_blob_to_table_cases (RnaStoreBlob.layout.decode image) outTable with
      ⟨table, accepted, clean⟩ | ⟨err, refused⟩
    · rw [accepted]
      exact ⟨fun _ => clean, fun refusal => absurd rfl refusal⟩
    · rw [refused]
      exact ⟨fun success => absurd success (by simp), fun _ => rfl⟩

def doorRegistration : RibosomeEntryConfig :=
  ⟨CString.utf8 "door01" ++ [0], rnaTemplateIdDoor, 1, List.Vector.replicate 32 9⟩

theorem door_table_round_trip :
    (ribosomeTableAddFromConfig ribosomeTableInit doorRegistration).2.count = 1 ∧
      ∃ blob, ribosomeTableToBlob (ribosomeTableAddFromConfig ribosomeTableInit
          doorRegistration).2 = .ok blob ∧
        ∀ outTable, ribosomeBlobToTable blob outTable =
          (.ok (), (ribosomeTableAddFromConfig ribosomeTableInit doorRegistration).2) :=
  ⟨by decide +kernel,
    stores_round_trip_and_load_sound.1 _ (.addFromConfig .init doorRegistration)⟩

end BlindNet
