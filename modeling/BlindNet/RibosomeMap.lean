import BlindNet.CleanTables
import BlindNet.Lib.BoundedMap
import BlindNet.Lib.Machine

/-!
# The ribosome table as a map

What the table is for: a map from client ids to a template, an epoch and a secret, with at
most twenty entries. The table of a map holds the entries in the order they were added and
zeroes behind them, and each operation of `ribosome_table.c` on that table is the operation
of the map.
-/

namespace BlindNet

set_option autoImplicit false

open ByteLayout PrefixArray EventMachine

/-! ## Client ids and bindings -/

/-- A client id that fits its field with the terminator. -/
@[ext] structure ClientId where
  text : Bytes
  nonempty : text ≠ []
  short : text.length < ribosomeMqttClientIdLen
  plain : ∀ byte ∈ text, byte ≠ 0
  deriving DecidableEq

theorem client_text_bounds {memory : Bytes}
    (named : stringValid (memory.take ribosomeMqttClientIdLen) = true) :
    CString.text (memory.take ribosomeMqttClientIdLen) ≠ [] ∧
      (CString.text (memory.take ribosomeMqttClientIdLen)).length < ribosomeMqttClientIdLen := by
  have bounds := (string_valid_iff _).mp named
  exact ⟨bounds.1, Nat.lt_of_lt_of_le bounds.2 (List.length_take_le _ _)⟩

/-- The client id that a pointer gives, if `string_valid` accepts it. -/
def ClientId.read (memory : Bytes) : Option ClientId :=
  if named : stringValid (memory.take ribosomeMqttClientIdLen) = true then
    some ⟨CString.text (memory.take ribosomeMqttClientIdLen), (client_text_bounds named).1,
      (client_text_bounds named).2, fun _ member => CString.text_ne_zero member⟩
  else none

def ClientId.field (client : ClientId) : ByteArr 33 :=
  strncpyCleared 33 client.text

@[ext] structure RibosomeBinding where
  client : ClientId
  templateId : UInt16
  epoch : UInt32
  deviceSecret : ByteArr 32
  template : ribosomeTemplateIdValid templateId = true
  secret : bytesAllZero deviceSecret.toList = false

def RibosomeBinding.entry (binding : RibosomeBinding) : RibosomeTableEntry :=
  ⟨binding.client.field, binding.templateId, binding.epoch, binding.deviceSecret⟩

/-- The binding that passes the checks of registration. -/
def RibosomeBinding.check (memory : Bytes) (templateId : UInt16) (epoch : UInt32)
    (deviceSecret : ByteArr 32) : Option RibosomeBinding :=
  match ClientId.read memory with
  | none => none
  | some client =>
      if template : ribosomeTemplateIdValid templateId = true then
        if secret : bytesAllZero deviceSecret.toList = false then
          some ⟨client, templateId, epoch, deviceSecret, template, secret⟩
        else none
      else none

def RibosomeTableEntry.binding (entry : RibosomeTableEntry) : Option RibosomeBinding :=
  RibosomeBinding.check entry.mqttClientId.toList entry.templateId entry.epoch entry.deviceSecret

def RibosomeEntryConfig.binding (config : RibosomeEntryConfig) : Option RibosomeBinding :=
  RibosomeBinding.check config.mqttClientId config.templateId config.epoch config.deviceSecret

theorem client_text_plain (client : ClientId) : CString.text client.text = client.text := by
  apply CString.text_clean
  exact client.plain

theorem client_field_text (client : ClientId) :
    CString.text client.field.toList = client.text := by
  have terminated : (CString.text client.text).length < ribosomeMqttClientIdLen := by
    rw [client_text_plain]
    exact client.short
  rw [ClientId.field, strncpy_client_id_text terminated, client_text_plain]

theorem client_read_some {memory : Bytes} {client : ClientId}
    (read : ClientId.read memory = some client) :
    stringValid (memory.take ribosomeMqttClientIdLen) = true ∧
      CString.text (memory.take ribosomeMqttClientIdLen) = client.text := by
  unfold ClientId.read at read
  split_ifs at read with named
  cases read
  exact ⟨named, rfl⟩

theorem client_read_none {memory : Bytes} (read : ClientId.read memory = none) :
    stringValid (memory.take ribosomeMqttClientIdLen) = false := by
  unfold ClientId.read at read
  split_ifs at read with named
  exact Bool.eq_false_of_not_eq_true named

theorem client_read_field {memory : Bytes} {client : ClientId}
    (read : ClientId.read memory = some client) : strncpyCleared 33 memory = client.field := by
  rcases client_read_some read with ⟨named, text⟩
  have terminated := (CString.text_length_lt_iff _).mp ((string_valid_iff _).mp named).2
  have whole : CString.text memory = client.text := by
    rw [← CString.text_take terminated]
    exact text
  rw [ClientId.field, strncpyCleared, strncpyCleared, whole, client_text_plain]

/-- The bounded comparison of the field with a pointer compares client ids. -/
theorem same_client_id_field {memory : Bytes} {wanted : ClientId}
    (read : ClientId.read memory = some wanted) (client : ClientId) :
    sameClientId client.field.toList memory = decide (client = wanted) := by
  have whole : client.field.toList.take ribosomeMqttClientIdLen = client.field.toList :=
    List.take_of_length_le (by simp [ribosomeMqttClientIdLen])
  rw [sameClientId, whole, client_field_text, (client_read_some read).2]
  by_cases same : client = wanted
  · simp [same]
  · have texts : client.text ≠ wanted.text := fun equal => same (ClientId.ext equal)
    simp [same, texts]

theorem copy_binding_entry (binding : RibosomeBinding) :
    copyEntrySanitized binding.entry = binding.entry := by
  have again : strncpyCleared 33 binding.client.field.toList = binding.client.field :=
    strncpy_cleared_idempotent (by decide) binding.client.text
  unfold copyEntrySanitized RibosomeBinding.entry
  rw [again]

/-! ## The map and its operations -/

abbrev RibosomeMap := BoundedMap RibosomeBinding.client ribosomeMaxEntries

namespace RibosomeMap

def table (map : RibosomeMap) : RibosomeTable :=
  ⟨map.store RibosomeBinding.entry ribosomeTableClearEntry, map.records.length⟩

def addEntry (map : RibosomeMap) (entry : RibosomeTableEntry) : Result RibosomeMap :=
  match entry.binding with
  | none => .error .invalidArg
  | some binding =>
      if map.records.length = ribosomeMaxEntries then .error .noMem
      else
        match map.insert binding with
        | none => .error .invalidState
        | some next => .ok next

def addFromConfig (map : RibosomeMap) (config : RibosomeEntryConfig) : Result RibosomeMap :=
  if map.records.length = ribosomeMaxEntries then .error .noMem
  else
    match ClientId.read config.mqttClientId with
    | none => .error .invalidArg
    | some client =>
        if (map.lookup client).isSome then .error .invalidState
        else
          match config.binding with
          | none => .error .invalidArg
          | some binding =>
              match map.insert binding with
              | none => .error .invalidState
              | some next => .ok next

def removeEntry (map : RibosomeMap) (mqttClientId : Bytes) : Result RibosomeMap :=
  match ClientId.read mqttClientId with
  | none => .error .invalidArg
  | some client =>
      match map.erase client with
      | none => .error .notFound
      | some next => .ok next

def getEntry (map : RibosomeMap) (mqttClientId : Bytes) : Result RibosomeBinding :=
  match ClientId.read mqttClientId with
  | none => .error .invalidArg
  | some client =>
      match map.lookup client with
      | none => .error .notFound
      | some binding => .ok binding

theorem count_le (map : RibosomeMap) : ¬ ribosomeMaxEntries < map.table.count :=
  Nat.not_lt.mpr map.bounded

theorem refuses_iff (map : RibosomeMap) (memory : Bytes) :
    (decide (ribosomeMaxEntries < map.table.count) ||
      !stringValid (memory.take ribosomeMqttClientIdLen)) = (ClientId.read memory).isNone := by
  rw [decide_eq_false map.count_le, Bool.false_or]
  cases read : ClientId.read memory with
  | none => simp [client_read_none read]
  | some client => simp [(client_read_some read).1]

theorem table_live (map : RibosomeMap) :
    map.table.live = map.records.map RibosomeBinding.entry :=
  map.live_store

theorem finds {memory : Bytes} {wanted : ClientId} (read : ClientId.read memory = some wanted)
    (map : RibosomeMap) :
    map.Finds RibosomeBinding.entry
      (fun entry => sameClientId entry.mqttClientId.toList memory) wanted := by
  intro binding member
  exact same_client_id_field read binding.client

theorem find_entry {memory : Bytes} {client : ClientId}
    (read : ClientId.read memory = some client) (map : RibosomeMap) :
    map.table.live.find? (fun entry => sameClientId entry.mqttClientId.toList memory) =
      (map.lookup client).map RibosomeBinding.entry :=
  BoundedMap.find_store (finds read map)

theorem get_entry_refines (map : RibosomeMap) (mqttClientId : Bytes) :
    ribosomeTableGetEntry map.table mqttClientId =
      (map.getEntry mqttClientId).map RibosomeBinding.entry := by
  unfold ribosomeTableGetEntry getEntry
  rw [refuses_iff]
  cases read : ClientId.read mqttClientId with
  | none => rfl
  | some client =>
      dsimp only
      rw [find_entry read]
      cases map.lookup client with
      | none => rfl
      | some binding => exact congrArg Except.ok (copy_binding_entry binding)

theorem remove_entry_refines (map : RibosomeMap) (mqttClientId : Bytes) :
    ribosomeTableRemoveEntry map.table mqttClientId =
      (map.removeEntry mqttClientId).map table := by
  unfold ribosomeTableRemoveEntry removeEntry
  rw [refuses_iff]
  cases read : ClientId.read mqttClientId with
  | none => rfl
  | some client =>
      have taken : removeFirst (fun entry => sameClientId entry.mqttClientId.toList mqttClientId)
          copyEntrySanitized ribosomeTableClearEntry map.table.entries map.table.count =
            (map.erase client).map (BoundedMap.store RibosomeBinding.entry
              ribosomeTableClearEntry) := by
        apply BoundedMap.store_erase (finds read map)
        intro binding member
        exact copy_binding_entry binding
      dsimp only
      rw [taken]
      cases erased : map.erase client with
      | none => rfl
      | some next =>
          have size : map.table.count - 1 = next.records.length :=
            BoundedMap.erase_length erased
          dsimp only [Option.map_some]
          rw [size]
          rfl

theorem entry_exists_refines {memory : Bytes} {client : ClientId}
    (read : ClientId.read memory = some client) (map : RibosomeMap) :
    ribosomeTableEntryExists map.table memory = (map.lookup client).isSome := by
  have same : (map.table.live.any fun entry =>
      sameClientId entry.mqttClientId.toList memory) = (map.lookup client).isSome := by
    rw [Bool.eq_iff_iff, List.any_eq_true, ← List.find?_isSome, find_entry read,
      Option.isSome_map]
  unfold ribosomeTableEntryExists
  rw [refuses_iff, read]
  exact same

theorem insert_refines {map next : RibosomeMap} {binding : RibosomeBinding}
    (inserted : map.insert binding = some next) (room : map.table.count < ribosomeMaxEntries) :
    RibosomeTable.mk (map.table.entries.set ⟨map.table.count, room⟩ binding.entry)
      (map.table.count + 1) = next.table := by
  obtain ⟨cells, size⟩ :=
    @BoundedMap.store_insert _ _ _ _ _ _ RibosomeBinding.entry ribosomeTableClearEntry _ _ _
      inserted room
  exact congrArg₂ RibosomeTable.mk cells size

theorem not_full {map : RibosomeMap} (room : map.table.count < ribosomeMaxEntries) :
    map.records.length ≠ ribosomeMaxEntries :=
  Nat.ne_of_lt room

theorem full {map : RibosomeMap} (noRoom : ¬ map.table.count < ribosomeMaxEntries) :
    map.records.length = ribosomeMaxEntries :=
  Nat.le_antisymm map.bounded (Nat.not_lt.mp noRoom)

theorem check_some {memory : Bytes} {templateId : UInt16} {epoch : UInt32}
    {deviceSecret : ByteArr 32} {binding : RibosomeBinding}
    (checked : RibosomeBinding.check memory templateId epoch deviceSecret = some binding) :
    ClientId.read memory = some binding.client ∧ binding.templateId = templateId ∧
      binding.epoch = epoch ∧ binding.deviceSecret = deviceSecret := by
  unfold RibosomeBinding.check at checked
  split at checked
  · cases checked
  · rename_i client read
    split_ifs at checked
    cases checked
    exact ⟨read, rfl, rfl, rfl⟩

theorem checks_refine {Value : Type} (memory : Bytes) (templateId : UInt16) (epoch : UInt32)
    (deviceSecret : ByteArr 32) (rest : Result Value) :
    (if !stringValid (memory.take ribosomeMqttClientIdLen) then .error .invalidArg
      else if !ribosomeTemplateIdValid templateId then .error .invalidArg
      else if bytesAllZero deviceSecret.toList then .error .invalidArg
      else rest) =
      if (RibosomeBinding.check memory templateId epoch deviceSecret).isNone then
        .error .invalidArg
      else rest := by
  unfold RibosomeBinding.check
  cases read : ClientId.read memory with
  | none => simp [client_read_none read]
  | some client =>
      have named := (client_read_some read).1
      by_cases template : ribosomeTemplateIdValid templateId = true
      · by_cases secret : bytesAllZero deviceSecret.toList = false
        · simp [named, template, secret]
        · simp [named, template, secret]
      · simp [named, template]

theorem check_entry {memory : Bytes} {templateId : UInt16} {epoch : UInt32}
    {deviceSecret : ByteArr 32} {binding : RibosomeBinding}
    (checked : RibosomeBinding.check memory templateId epoch deviceSecret = some binding) :
    RibosomeTableEntry.mk (strncpyCleared 33 memory) templateId epoch deviceSecret =
      binding.entry := by
  rcases check_some checked with ⟨read, template, epochs, secret⟩
  rw [client_read_field read, RibosomeBinding.entry, template, epochs, secret]

theorem add_entry_refines (map : RibosomeMap) (entry : RibosomeTableEntry) :
    ribosomeTableAddEntry map.table entry = (map.addEntry entry).map table := by
  have whole : entry.mqttClientId.toList.take ribosomeMqttClientIdLen =
      entry.mqttClientId.toList :=
    List.take_of_length_le (by simp [ribosomeMqttClientIdLen])
  have checks := @checks_refine RibosomeTable entry.mqttClientId.toList entry.templateId
    entry.epoch entry.deviceSecret
  rw [whole] at checks
  unfold ribosomeTableAddEntry addEntry
  rw [if_neg map.count_le, checks]
  change (if entry.binding.isNone then _ else _) = _
  cases checked : entry.binding with
  | none => rfl
  | some binding =>
      have copied : copyEntrySanitized entry = binding.entry := check_entry checked
      rw [if_neg (by simp), entry_exists_refines (check_some checked).1, copied]
      dsimp only
      by_cases room : map.table.count < ribosomeMaxEntries
      · rw [dif_pos room, if_neg (not_full room), BoundedMap.insert_with_room room]
        cases inserted : map.insert binding with
        | none => rfl
        | some next => exact congrArg Except.ok (insert_refines inserted room)
      · rw [dif_neg room, if_pos (full room)]
        rfl

theorem make_entry_refines (config : RibosomeEntryConfig) :
    ribosomeTableMakeEntry config =
      match config.binding with
      | none => .error .invalidArg
      | some binding => .ok binding.entry := by
  unfold ribosomeTableMakeEntry
  rw [checks_refine config.mqttClientId config.templateId config.epoch config.deviceSecret]
  change (if config.binding.isNone then _ else _) = _
  cases checked : config.binding with
  | none => rfl
  | some binding => exact congrArg Except.ok (check_entry checked)

/-- The slot that a refused configuration clears is clear already. -/
theorem add_from_config_refines (map : RibosomeMap) (config : RibosomeEntryConfig) :
    ribosomeTableAddFromConfig map.table config =
      match map.addFromConfig config with
      | .error err => (.error err, map.table)
      | .ok next => (.ok (), next.table) := by
  unfold ribosomeTableAddFromConfig addFromConfig
  rw [if_neg map.count_le]
  by_cases room : map.table.count < ribosomeMaxEntries
  · rw [dif_pos room, if_neg (not_full room)]
    cases read : ClientId.read config.mqttClientId with
    | none =>
        rw [client_read_none read]
        rfl
    | some client =>
        rw [(client_read_some read).1, entry_exists_refines read, make_entry_refines]
        dsimp only
        cases bound : (map.lookup client).isSome with
        | true => rfl
        | false =>
            cases checked : config.binding with
            | none =>
                have cleared : map.table.entries.set ⟨map.table.count, room⟩
                    ribosomeTableClearEntry = map.table.entries := map.store_set_blank room
                dsimp only
                rw [cleared]
                rfl
            | some binding =>
                have same := (check_some checked).1.symm.trans read
                rw [← Option.some.inj same, BoundedMap.insert_with_room room] at bound
                dsimp only
                cases inserted : map.insert binding with
                | none => simp [inserted] at bound
                | some next =>
                    rw [insert_refines inserted room]
                    rfl
  · rw [dif_neg room, if_pos (full room)]

end RibosomeMap

/-! ## Runs -/

inductive RibosomeCall where
  | init
  | addEntry (entry : RibosomeTableEntry)
  | addFromConfig (config : RibosomeEntryConfig)
  | removeEntry (mqttClientId : Bytes)
  | getEntry (mqttClientId : Bytes)

/-- An edit that fails leaves the state; there is nothing to show but the error code. -/
def settle {State : Type} (Found : Type) (state : State) :
    Result State → State × List (Result (Option Found))
  | .ok next => (next, [.ok none])
  | .error err => (state, [.error err])

def RibosomeTable.step (table : RibosomeTable) :
    RibosomeCall → RibosomeTable × List (Result (Option RibosomeTableEntry))
  | .init => (ribosomeTableInit, [.ok none])
  | .addEntry entry => settle RibosomeTableEntry table (ribosomeTableAddEntry table entry)
  | .addFromConfig config =>
      ((ribosomeTableAddFromConfig table config).2,
        [(ribosomeTableAddFromConfig table config).1.map fun _ => none])
  | .removeEntry mqttClientId =>
      settle RibosomeTableEntry table (ribosomeTableRemoveEntry table mqttClientId)
  | .getEntry mqttClientId => (table, [(ribosomeTableGetEntry table mqttClientId).map some])

namespace RibosomeMap

def step (map : RibosomeMap) : RibosomeCall → RibosomeMap × List (Result (Option RibosomeBinding))
  | .init => (BoundedMap.empty, [.ok none])
  | .addEntry entry => settle RibosomeBinding map (map.addEntry entry)
  | .addFromConfig config => settle RibosomeBinding map (map.addFromConfig config)
  | .removeEntry mqttClientId => settle RibosomeBinding map (map.removeEntry mqttClientId)
  | .getEntry mqttClientId => (map, [(map.getEntry mqttClientId).map some])

def shown (answer : Result (Option RibosomeBinding)) : Result (Option RibosomeTableEntry) :=
  answer.map fun found => found.map RibosomeBinding.entry

theorem table_empty : table BoundedMap.empty = ribosomeTableInit :=
  congrArg (RibosomeTable.mk · 0) BoundedMap.store_empty

theorem settle_refines (map : RibosomeMap) {outcome : Result RibosomeTable}
    {spec : Result RibosomeMap} (refines : outcome = spec.map table) :
    settle RibosomeTableEntry map.table outcome =
      ((settle RibosomeBinding map spec).1.table,
        (settle RibosomeBinding map spec).2.map shown) := by
  rw [refines]
  cases spec with
  | error err => rfl
  | ok next => rfl

theorem step_refines (map : RibosomeMap) (call : RibosomeCall) :
    map.table.step call = ((map.step call).1.table, (map.step call).2.map shown) := by
  cases call with
  | init => exact congrArg (·, _) table_empty.symm
  | addEntry entry => exact settle_refines map (map.add_entry_refines entry)
  | addFromConfig config =>
      unfold RibosomeTable.step step
      dsimp only
      rw [add_from_config_refines]
      cases map.addFromConfig config with
      | error err => rfl
      | ok next => rfl
  | removeEntry mqttClientId => exact settle_refines map (map.remove_entry_refines mqttClientId)
  | getEntry mqttClientId =>
      unfold RibosomeTable.step step
      dsimp only
      rw [get_entry_refines]
      cases map.getEntry mqttClientId with
      | error err => rfl
      | ok binding => rfl

/-- What an answered call has changed. -/
def Effect (map next : RibosomeMap) : RibosomeCall → Result (Option RibosomeBinding) → Prop
  | _, .error _ => next = map
  | .init, .ok _ => next.records = []
  | .addEntry entry, .ok _ =>
      ∃ binding, entry.binding = some binding ∧ map.Inserted next binding
  | .addFromConfig config, .ok _ =>
      ∃ binding, config.binding = some binding ∧ map.Inserted next binding
  | .removeEntry mqttClientId, .ok _ =>
      ∃ client, ClientId.read mqttClientId = some client ∧ map.Erased next client
  | .getEntry mqttClientId, .ok found =>
      next = map ∧ ∃ client binding, ClientId.read mqttClientId = some client ∧
        map.lookup client = some binding ∧ found = some binding

theorem settle_effect {map : RibosomeMap} {call : RibosomeCall} {outcome : Result RibosomeMap}
    (succeeds : ∀ next, outcome = .ok next → map.Effect next call (.ok none)) :
    ∃ answer, (settle RibosomeBinding map outcome).2 = [answer] ∧
      map.Effect (settle RibosomeBinding map outcome).1 call answer := by
  cases outcome with
  | error err => exact ⟨.error err, rfl, by cases call <;> exact rfl⟩
  | ok next => exact ⟨.ok none, rfl, succeeds next rfl⟩

theorem add_entry_effect {map next : RibosomeMap} {entry : RibosomeTableEntry}
    (added : map.addEntry entry = .ok next) :
    ∃ binding, entry.binding = some binding ∧ map.Inserted next binding := by
  unfold addEntry at added
  split at added
  · cases added
  · rename_i binding checked
    split_ifs at added
    split at added
    · cases added
    · rename_i result inserted
      cases added
      exact ⟨binding, checked, BoundedMap.insert_eq_some inserted⟩

theorem add_from_config_effect {map next : RibosomeMap} {config : RibosomeEntryConfig}
    (added : map.addFromConfig config = .ok next) :
    ∃ binding, config.binding = some binding ∧ map.Inserted next binding := by
  unfold addFromConfig at added
  split_ifs at added
  split at added
  · cases added
  · split_ifs at added
    split at added
    · cases added
    · rename_i binding checked
      split at added
      · cases added
      · rename_i result inserted
        cases added
        exact ⟨binding, checked, BoundedMap.insert_eq_some inserted⟩

theorem remove_entry_effect {map next : RibosomeMap} {mqttClientId : Bytes}
    (removed : map.removeEntry mqttClientId = .ok next) :
    ∃ client, ClientId.read mqttClientId = some client ∧ map.Erased next client := by
  unfold removeEntry at removed
  split at removed
  · cases removed
  · rename_i client read
    split at removed
    · cases removed
    · rename_i result erased
      cases removed
      exact ⟨client, read, BoundedMap.erase_eq_some erased⟩

theorem get_entry_effect (map : RibosomeMap) (mqttClientId : Bytes) :
    map.Effect map (.getEntry mqttClientId) ((map.getEntry mqttClientId).map some) := by
  unfold getEntry
  cases read : ClientId.read mqttClientId with
  | none => exact rfl
  | some client =>
      dsimp only
      cases bound : map.lookup client with
      | none => exact rfl
      | some binding => exact ⟨rfl, client, binding, read, bound, rfl⟩

theorem step_effect (map : RibosomeMap) (call : RibosomeCall) :
    ∃ answer, (map.step call).2 = [answer] ∧ map.Effect (map.step call).1 call answer := by
  cases call with
  | init => exact ⟨.ok none, rfl, rfl⟩
  | addEntry entry =>
      apply settle_effect
      intro next added
      exact add_entry_effect added
  | addFromConfig config =>
      apply settle_effect
      intro next added
      exact add_from_config_effect added
  | removeEntry mqttClientId =>
      apply settle_effect
      intro next removed
      exact remove_entry_effect removed
  | getEntry mqttClientId =>
      apply Exists.intro
      apply And.intro rfl
      exact get_entry_effect map mqttClientId

theorem entry_injective : Function.Injective RibosomeBinding.entry := by
  intro binding other same
  have fields : binding.client.field = other.client.field :=
    congrArg RibosomeTableEntry.mqttClientId same
  have texts : binding.client.text = other.client.text := by
    rw [← client_field_text, fields, client_field_text]
  apply RibosomeBinding.ext
  · exact ClientId.ext texts
  · exact congrArg RibosomeTableEntry.templateId same
  · exact congrArg RibosomeTableEntry.epoch same
  · exact congrArg RibosomeTableEntry.deviceSecret same

/-- The table of a map: its bindings in order, zeroes behind them, and no other map. -/
structure Stored (map : RibosomeMap) : Prop where
  bounded : map.table.count ≤ ribosomeMaxEntries
  unique : (map.records.map RibosomeBinding.client).Nodup
  live : map.table.live = map.records.map RibosomeBinding.entry
  zero : ∀ index, map.table.count ≤ index.val →
    map.table.entries.get index = ribosomeTableClearEntry
  only : ∀ other : RibosomeMap, other.table = map.table → other = map

theorem stored (map : RibosomeMap) : map.Stored where
  bounded := map.bounded
  unique := map.distinct
  live := map.table_live
  zero := fun _ behind => map.blank_store.get behind
  only := by
    intro other same
    have lists : other.records.map RibosomeBinding.entry =
        map.records.map RibosomeBinding.entry := by
      rw [← table_live, same, table_live]
    exact BoundedMap.ext (entry_injective.list_map lists)

/-! ## Clean tables are the tables of maps -/

theorem binding_entry_stored (binding : RibosomeBinding) : binding.entry.Stored := by
  apply RibosomeTableEntry.Stored.mk _ (copy_binding_entry binding)
  apply RibosomeTableEntry.Registered.mk _ binding.template binding.secret
  rw [string_valid_iff, List.Vector.toList_length]
  change CString.text binding.client.field.toList ≠ [] ∧
    (CString.text binding.client.field.toList).length < 33
  rw [client_field_text]
  exact ⟨binding.client.nonempty, binding.client.short⟩

theorem stored_entry_binding {entry : RibosomeTableEntry} (stored : entry.Stored) :
    entry ∈ Set.range RibosomeBinding.entry := by
  have whole : entry.mqttClientId.toList.take ribosomeMqttClientIdLen =
      entry.mqttClientId.toList :=
    List.take_of_length_le (by simp [ribosomeMqttClientIdLen])
  cases checked : entry.binding with
  | none =>
      have checks := checks_refine entry.mqttClientId.toList entry.templateId entry.epoch
        entry.deviceSecret (.ok ())
      change _ = (if entry.binding.isNone then _ else _) at checks
      rw [whole, checked] at checks
      simp [stored.registered.named, stored.registered.template, stored.registered.secret] at checks
  | some binding =>
      have copied : copyEntrySanitized entry = binding.entry := check_entry checked
      rw [stored.sanitized] at copied
      exact ⟨binding, copied.symm⟩

theorem clients_apart_entry (first second : RibosomeBinding) :
    ClientsApart first.entry second.entry ↔ first.client ≠ second.client := by
  rw [clients_apart_iff]
  change CString.text first.client.field.toList ≠ CString.text second.client.field.toList ↔ _
  rw [client_field_text, client_field_text]
  exact not_congr ⟨ClientId.ext, congrArg ClientId.text⟩

theorem clean_iff (table : RibosomeTable) :
    table.Clean ↔ ∃ map : RibosomeMap, map.table = table := by
  have stored : ∀ entry : RibosomeTableEntry,
      entry.Stored ↔ entry ∈ Set.range RibosomeBinding.entry := by
    intro entry
    constructor
    · exact stored_entry_binding
    · rintro ⟨binding, rfl⟩
      exact binding_entry_stored binding
  apply (BoundedMap.clean_iff_stored stored clients_apart_entry).trans
  apply exists_congr
  intro map
  unfold RibosomeMap.table
  rw [RibosomeTable.mk.injEq]

end RibosomeMap

/-- Every run of the table after an `init` is the run of a map. -/
theorem ribosome_table_is_bounded_map :
    (∀ (memory : RibosomeTable) (calls : List RibosomeCall),
      run RibosomeTable.step memory (.init :: calls) =
        (RibosomeMap.table (run RibosomeMap.step BoundedMap.empty calls).1,
          .ok none :: (run RibosomeMap.step BoundedMap.empty calls).2.map RibosomeMap.shown)) ∧
      (∀ map : RibosomeMap, map.Stored) ∧
      ∀ (map : RibosomeMap) (call : RibosomeCall),
        ∃ answer, (map.step call).2 = [answer] ∧ map.Effect (map.step call).1 call answer := by
  apply And.intro _ ⟨RibosomeMap.stored, RibosomeMap.step_effect⟩
  intro memory calls
  have later := run_refines RibosomeTable.step RibosomeMap.step RibosomeMap.table
    RibosomeMap.shown RibosomeMap.step_refines BoundedMap.empty calls
  rw [RibosomeMap.table_empty] at later
  rw [run_cons]
  change ((run RibosomeTable.step ribosomeTableInit calls).1,
    [.ok none] ++ (run RibosomeTable.step ribosomeTableInit calls).2) = _
  rw [later, List.singleton_append]

end BlindNet
