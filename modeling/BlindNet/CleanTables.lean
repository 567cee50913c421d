import BlindNet.TableEdits
import BlindNet.Lib.KeyedTable

/-!
# Clean tables

What every edit keeps of the two tables: live entries pass the checks of their
own registration, are already in the form the sanitising copy gives them, have
pairwise different keys, and every slot behind them is cleared.
-/

namespace BlindNet

set_option autoImplicit false

open ByteLayout PrefixArray KeyedTable

theorem strncpy_cleared_idempotent {size : Nat} (positive : 0 < size) (source : Bytes) :
    strncpyCleared size (strncpyCleared size source).toList = strncpyCleared size source := by
  have again : CString.text (strncpyCleared size source).toList =
      (CString.text source).take (size - 1) := strncpy_cleared_text positive source
  rw [strncpyCleared, again, List.take_take, Nat.min_self]
  rfl

/-! ## Ribosome table -/

/-- A registered entry in the form `copy_entry_sanitized` leaves. -/
structure RibosomeTableEntry.Stored (entry : RibosomeTableEntry) : Prop where
  registered : entry.Registered
  sanitized : copyEntrySanitized entry = entry

def ClientsApart (first second : RibosomeTableEntry) : Prop :=
  sameClientId first.mqttClientId.toList second.mqttClientId.toList = false

def RibosomeTable.Clean (table : RibosomeTable) : Prop :=
  KeyedTable.Clean RibosomeTableEntry.Stored ClientsApart ribosomeTableClearEntry
    table.entries table.count

theorem copy_entry_sanitized_idempotent (entry : RibosomeTableEntry) :
    copyEntrySanitized (copyEntrySanitized entry) = copyEntrySanitized entry := by
  unfold copyEntrySanitized
  simp only [strncpy_cleared_idempotent (show 0 < 33 by decide)]

theorem RibosomeTableEntry.Registered.stored {entry : RibosomeTableEntry}
    (registered : entry.Registered) : (copyEntrySanitized entry).Stored :=
  ⟨registered.sanitized.1, copy_entry_sanitized_idempotent entry⟩

theorem clients_apart_iff (first second : RibosomeTableEntry) :
    ClientsApart first second ↔
      CString.text first.mqttClientId.toList ≠ CString.text second.mqttClientId.toList := by
  rw [ClientsApart, ← Bool.not_eq_true, same_client_id_block]

theorem ribosome_table_add_entry_ok_iff {table next : RibosomeTable}
    {entry : RibosomeTableEntry} (bounded : table.count ≤ ribosomeMaxEntries) :
    ribosomeTableAddEntry table entry = .ok next ↔
      entry.Registered ∧ (∀ other ∈ table.live, ClientsApart other entry) ∧
      ∃ room : table.count < ribosomeMaxEntries,
        next = ⟨table.entries.set ⟨table.count, room⟩ (copyEntrySanitized entry),
          table.count + 1⟩ := by
  have inRange : ¬ ribosomeMaxEntries < table.count := by omega
  have whole : entry.mqttClientId.toList.take ribosomeMqttClientIdLen =
      entry.mqttClientId.toList :=
    List.take_of_length_le (by simp [ribosomeMqttClientIdLen])
  unfold ribosomeTableAddEntry
  rw [if_neg inRange, guard_ok, guard_ok, guard_ok]
  by_cases named : stringValid entry.mqttClientId.toList = true
  · have fresh : ¬ ribosomeTableEntryExists table entry.mqttClientId.toList = true ↔
        ∀ other ∈ table.live, ClientsApart other entry := by
      rw [ribosomeTableEntryExists, whole]
      simp [inRange, named, ClientsApart]
    by_cases room : table.count < ribosomeMaxEntries
    · rw [dif_pos room, guard_ok, fresh]
      constructor
      · rintro ⟨unnamed, template, secret, apart, stored⟩
        cases stored
        exact ⟨⟨named, by simpa using template, by simpa using secret⟩, apart, room, rfl⟩
      · rintro ⟨registered, apart, _, stored⟩
        refine ⟨by simp [named], by simp [registered.template], by simp [registered.secret],
          apart, by rw [stored]⟩
    · rw [dif_neg room]
      constructor
      · rintro ⟨_, _, _, stored⟩
        cases stored
      · rintro ⟨_, _, inside, _⟩
        exact absurd inside room
  · constructor
    · rintro ⟨isNamed, _⟩
      exact absurd (by simpa using isNamed) named
    · rintro ⟨registered, _⟩
      exact absurd registered.named named

theorem ribosome_table_init_clean : ribosomeTableInit.Clean :=
  clean_empty

theorem ribosome_table_add_entry_clean {table next : RibosomeTable} {entry : RibosomeTableEntry}
    (clean : table.Clean) (added : ribosomeTableAddEntry table entry = .ok next) :
    next.Clean := by
  rcases (ribosome_table_add_entry_ok_iff clean.bounded).mp added with
    ⟨registered, fresh, room, rfl⟩
  apply KeyedTable.Clean.append clean room registered.stored
  intro other held
  rw [clients_apart_iff, registered.sanitized.2, ← clients_apart_iff]
  exact fresh other held

theorem ribosome_table_accepts :
    Accepts RibosomeTableEntry.Stored ClientsApart ribosomeTableClearEntry RibosomeTable.mk
      ribosomeTableAddEntry := by
  intro entries count room entry clean stored fresh
  rw [ribosome_table_add_entry_ok_iff (Nat.le_of_lt room)]
  refine ⟨stored.registered, fresh, room, ?_⟩
  rw [stored.sanitized]

theorem ribosome_table_make_entry_stored {config : RibosomeEntryConfig}
    {entry : RibosomeTableEntry} (made : ribosomeTableMakeEntry config = .ok entry) :
    entry.Stored := by
  refine ⟨(ribosome_table_make_entry_registered made).1, ?_⟩
  unfold ribosomeTableMakeEntry at made
  rw [guard_ok, guard_ok, guard_ok] at made
  rcases made with ⟨_, _, _, made⟩
  cases made
  simp only [copyEntrySanitized, strncpy_cleared_idempotent (show 0 < 33 by decide)]

/-- A configuration is refused, at most with the slot behind the last entry
cleared, or its entry is appended. -/
theorem ribosome_table_add_from_config_cases {table : RibosomeTable}
    (bounded : table.count ≤ ribosomeMaxEntries) (config : RibosomeEntryConfig) :
    (∃ err, ribosomeTableAddFromConfig table config = (.error err, table)) ∨
    (∃ err, ∃ room : table.count < ribosomeMaxEntries, ribosomeTableAddFromConfig table config =
      (.error err,
        { table with entries := table.entries.set ⟨table.count, room⟩ ribosomeTableClearEntry })) ∨
    ∃ entry, ∃ room : table.count < ribosomeMaxEntries,
      ribosomeTableMakeEntry config = .ok entry ∧
      (∀ other ∈ table.live, ClientsApart other entry) ∧
      ribosomeTableAddFromConfig table config =
        (.ok (), ⟨table.entries.set ⟨table.count, room⟩ entry, table.count + 1⟩) := by
  generalize outcome : ribosomeTableAddFromConfig table config = added
  unfold ribosomeTableAddFromConfig at outcome
  split_ifs at outcome with excess room unnamed exists_
  · exact Or.inl ⟨_, outcome.symm⟩
  · exact Or.inl ⟨_, outcome.symm⟩
  · exact Or.inl ⟨_, outcome.symm⟩
  · cases made : ribosomeTableMakeEntry config with
    | error err =>
        rw [made] at outcome
        exact Or.inr (Or.inl ⟨err, room, outcome.symm⟩)
    | ok entry =>
        rw [made] at outcome
        refine Or.inr (Or.inr ⟨entry, room, rfl, ?_, outcome.symm⟩)
        intro other held
        rw [clients_apart_iff, (ribosome_table_make_entry_registered made).2]
        exact entry_exists_false bounded (by simpa using unnamed) (by simpa using exists_) other
          held
  · exact Or.inl ⟨_, outcome.symm⟩

theorem ribosome_table_add_from_config_clean {table : RibosomeTable} (clean : table.Clean)
    (config : RibosomeEntryConfig) : (ribosomeTableAddFromConfig table config).2.Clean := by
  rcases ribosome_table_add_from_config_cases clean.bounded config with
    ⟨err, refused⟩ | ⟨err, room, refused⟩ | ⟨entry, room, made, fresh, added⟩
  · rw [refused]
    exact clean
  · rw [refused]
    exact KeyedTable.Clean.set_unused clean room
  · rw [added]
    exact KeyedTable.Clean.append clean room (ribosome_table_make_entry_stored made) fresh

theorem ribosome_table_remove_entry_clean {table next : RibosomeTable} (clean : table.Clean)
    {mqttClientId : Bytes} (removed : ribosomeTableRemoveEntry table mqttClientId = .ok next) :
    next.Clean ∧ ∀ entry ∈ next.live, entry ∈ table.live := by
  unfold ribosomeTableRemoveEntry at removed
  rw [guard_ok] at removed
  split at removed
  · cases removed.2
  · rename_i entries taken
    cases removed.2
    rcases KeyedTable.Clean.remove_first clean taken (fun entry stored => stored.sanitized) with
      ⟨kept, before, value, after, first, rest⟩
    refine ⟨kept, ?_⟩
    intro entry member
    have split : table.live = before ++ value :: after := first.split
    have held : entry ∈ before ++ after := by
      rw [← rest]
      exact member
    rw [split]
    rcases List.mem_append.mp held with early | late
    · exact List.mem_append_left _ early
    · exact List.mem_append_right _ (List.mem_cons_of_mem _ late)

theorem RibosomeTable.Clean.modify_first {table : RibosomeTable} (clean : table.Clean)
    {mqttClientId : Bytes} {change : RibosomeTableEntry → RibosomeTableEntry}
    {entries : List.Vector RibosomeTableEntry ribosomeMaxEntries}
    (modified : modifyFirst (fun entry => sameClientId entry.mqttClientId.toList mqttClientId)
      change table.entries table.count = some entries)
    (sameId : ∀ entry, (change entry).mqttClientId = entry.mqttClientId)
    (registered : ∀ entry : RibosomeTableEntry, entry.Registered → (change entry).Registered) :
    RibosomeTable.Clean { table with entries := entries } := by
  apply KeyedTable.Clean.modify_first clean modified
  · intro entry stored _
    refine ⟨registered entry stored.registered, ?_⟩
    have clientId := congrArg RibosomeTableEntry.mqttClientId stored.sanitized
    have again : (copyEntrySanitized (change entry)).mqttClientId =
        (change entry).mqttClientId := by
      rw [sameId, ← clientId]
      simp only [copyEntrySanitized, sameId]
    unfold copyEntrySanitized at again ⊢
    simp only at again
    rw [again]
  · intro entry other _ apart
    unfold ClientsApart at apart ⊢
    rw [sameId]
    exact apart
  · intro entry other _ apart
    unfold ClientsApart at apart ⊢
    rw [sameId]
    exact apart

theorem ribosome_assign_template_cases {table next : RibosomeTable} {mqttClientId : Bytes}
    {templateId : UInt16}
    (assigned : ribosomeAssignTemplate table mqttClientId templateId = .ok next) :
    ribosomeTemplateIdValid templateId = true ∧
      ∃ entries, PrefixArray.modifyFirst
          (fun entry => sameClientId entry.mqttClientId.toList mqttClientId)
          (fun entry => { entry with templateId := templateId }) table.entries table.count =
            some entries ∧
        next = { table with entries := entries } := by
  unfold ribosomeAssignTemplate at assigned
  rw [guard_ok] at assigned
  rcases assigned with ⟨usable, assigned⟩
  rw [Bool.or_eq_true, not_or] at usable
  refine ⟨by simpa [ribosomeTemplateIdValid] using usable.2, ?_⟩
  split at assigned
  · cases assigned
  · rename_i entries modified
    cases assigned
    exact ⟨entries, modified, rfl⟩

theorem RibosomeTable.Clean.assigned {table : RibosomeTable} (clean : table.Clean)
    {mqttClientId : Bytes} {templateId : UInt16}
    (known : ribosomeTemplateIdValid templateId = true)
    {entries : List.Vector RibosomeTableEntry ribosomeMaxEntries}
    (modified : PrefixArray.modifyFirst
      (fun entry => sameClientId entry.mqttClientId.toList mqttClientId)
      (fun entry => { entry with templateId := templateId }) table.entries table.count =
        some entries) :
    RibosomeTable.Clean { table with entries := entries } := by
  apply clean.modify_first modified
  · intro entry
    rfl
  · intro entry registered
    exact ⟨registered.named, known, registered.secret⟩

theorem ribosome_assign_template_clean {table next : RibosomeTable} (clean : table.Clean)
    {mqttClientId : Bytes} {templateId : UInt16}
    (assigned : ribosomeAssignTemplate table mqttClientId templateId = .ok next) :
    next.Clean := by
  obtain ⟨known, entries, modified, rfl⟩ := ribosome_assign_template_cases assigned
  exact clean.assigned known modified

theorem generate_device_secret_nonzero (random : ByteArr 32) :
    bytesAllZero (generateDeviceSecret random).toList = false := by
  rw [← Bool.not_eq_true, bytes_all_zero_iff]
  intro zeros
  unfold generateDeviceSecret at zeros
  split at zeros
  · rename_i drawn
    rcases List.any_eq_true.mp drawn with ⟨byte, member, nonzero⟩
    exact absurd (zeros byte member) (by simpa using nonzero)
  · have first : (1 : UInt8) ∈ (random.set 0 1).toList := by
      rw [List.Vector.toList_set]
      exact List.mem_set (by simp) 1
    exact absurd (zeros 1 first) (by decide)

theorem ribosome_regenerate_cases {table next : RibosomeTable} {mqttClientId : Bytes}
    {random : ByteArr 32}
    (regenerated : ribosomeRegenerate table mqttClientId random = .ok next) :
    ∃ entries, PrefixArray.modifyFirst
        (fun entry => sameClientId entry.mqttClientId.toList mqttClientId)
        (fun entry => { entry with
          deviceSecret := generateDeviceSecret random
          epoch := if entry.epoch = 0xFFFFFFFF then 1 else entry.epoch + 1 })
        table.entries table.count = some entries ∧
      next = { table with entries := entries } := by
  unfold ribosomeRegenerate at regenerated
  rw [guard_ok] at regenerated
  rcases regenerated with ⟨_, regenerated⟩
  split at regenerated
  · cases regenerated
  · rename_i entries modified
    cases regenerated
    exact ⟨entries, modified, rfl⟩

theorem ribosome_regenerate_clean {table next : RibosomeTable} (clean : table.Clean)
    {mqttClientId : Bytes} {random : ByteArr 32}
    (regenerated : ribosomeRegenerate table mqttClientId random = .ok next) : next.Clean := by
  obtain ⟨entries, modified, rfl⟩ := ribosome_regenerate_cases regenerated
  apply clean.modify_first modified
  · intro entry
    rfl
  · intro entry registered
    exact ⟨registered.named, registered.template, generate_device_secret_nonzero random⟩

/-! ## RNA table -/

/-- What `rna_template_validate` checks. -/
structure RnaTemplate.Lawful (template : RnaTemplate) : Prop where
  identified : rnaTemplateIdValid template.id = true
  named : stringValid template.name.toList = true
  nonempty : template.aminoCount ≠ 0
  bounded : template.aminoCount.toNat ≤ rnaTemplateMaxAminos
  known : ∀ amino ∈ template.aminos.toList.take template.aminoCount.toNat,
    aminoAcidIdValid amino = true
  distinct : (template.aminos.toList.take template.aminoCount.toNat).Nodup

theorem rna_template_validate_iff (template : RnaTemplate) :
    rnaTemplateValidate template = .ok () ↔ template.Lawful := by
  unfold rnaTemplateValidate
  simp only
  rw [guard_ok, guard_ok]
  constructor
  · rintro ⟨header, aminos, _⟩
    simp only [Bool.or_eq_true, not_or] at header aminos
    exact ⟨by simpa using header.1.1.1, by simpa using header.1.1.2, by simpa using header.1.2,
      by simpa using header.2, by simpa using aminos.1, by simpa using aminos.2⟩
  · intro lawful
    simp only [Bool.or_eq_true, not_or]
    refine ⟨⟨⟨⟨?_, ?_⟩, ?_⟩, ?_⟩, ⟨?_, ?_⟩, trivial⟩
    · simp [lawful.identified]
    · simp [lawful.named]
    · simp [lawful.nonempty]
    · simp [lawful.bounded]
    · simpa using lawful.known
    · simpa using lawful.distinct

/-- A validated template in the form `copy_template_sanitized` leaves. -/
structure RnaTemplate.Stored (template : RnaTemplate) : Prop where
  lawful : template.Lawful
  sanitized : copyTemplateSanitized template = template

def IdsApart (first second : RnaTemplate) : Prop :=
  first.id ≠ second.id

def RnaTemplateTable.Clean (table : RnaTemplateTable) : Prop :=
  KeyedTable.Clean RnaTemplate.Stored IdsApart rnaTemplateClear table.templates table.count

theorem RnaTemplate.Lawful.stored {template : RnaTemplate} (lawful : template.Lawful) :
    (copyTemplateSanitized template).Stored := by
  rcases (string_valid_iff _).mp lawful.named with ⟨nonempty, terminated⟩
  rw [List.Vector.toList_length] at terminated
  have text : CString.text (strncpyCleared 32 template.name.toList).toList =
      CString.text template.name.toList := by
    rw [strncpy_cleared_text (by decide)]
    exact List.take_of_length_le (by omega)
  refine ⟨⟨lawful.identified, ?_, lawful.nonempty, lawful.bounded, lawful.known,
    lawful.distinct⟩, ?_⟩
  · change stringValid (strncpyCleared 32 template.name.toList).toList = true
    rw [string_valid_iff, text, List.Vector.toList_length]
    exact ⟨nonempty, terminated⟩
  · unfold copyTemplateSanitized
    simp only [strncpy_cleared_idempotent (show 0 < 32 by decide)]

theorem rna_template_table_find_none_iff {table : RnaTemplateTable} {templateId : UInt16}
    (bounded : table.count ≤ rnaMaxTemplates) (valid : rnaTemplateIdValid templateId = true) :
    rnaTemplateTableFind table templateId = none ↔ ∀ other ∈ table.live, other.id ≠ templateId := by
  have inRange : ¬ rnaMaxTemplates < table.count := by omega
  simp [rnaTemplateTableFind, inRange, valid]

theorem rna_template_table_add_ok_iff {table next : RnaTemplateTable} {template : RnaTemplate}
    (bounded : table.count ≤ rnaMaxTemplates) :
    rnaTemplateTableAdd table template = .ok next ↔
      template.Lawful ∧ (∀ other ∈ table.live, IdsApart other template) ∧
      ∃ room : table.count < rnaMaxTemplates,
        next = ⟨table.templates.set ⟨table.count, room⟩ (copyTemplateSanitized template),
          table.count + 1⟩ := by
  have inRange : ¬ rnaMaxTemplates < table.count := by omega
  unfold rnaTemplateTableAdd
  rw [if_neg inRange]
  by_cases room : table.count < rnaMaxTemplates
  · rw [dif_pos room]
    cases valid : rnaTemplateValidate template with
    | error err =>
        have unlawful : ¬ template.Lawful := by
          rw [← rna_template_validate_iff, valid]
          simp
        simp [unlawful]
    | ok _ =>
        have lawful : template.Lawful := (rna_template_validate_iff template).mp valid
        have fresh : ¬ (rnaTemplateTableFind table template.id).isSome = true ↔
            ∀ other ∈ table.live, IdsApart other template := by
          rw [Bool.not_eq_true, Option.isSome_eq_false_iff, Option.isNone_iff_eq_none]
          exact rna_template_table_find_none_iff bounded lawful.identified
        simp only
        rw [guard_ok, fresh]
        constructor
        · rintro ⟨apart, stored⟩
          cases stored
          exact ⟨lawful, apart, room, rfl⟩
        · rintro ⟨_, apart, _, stored⟩
          exact ⟨apart, by rw [stored]⟩
  · rw [dif_neg room]
    constructor
    · intro stored
      cases stored
    · rintro ⟨_, _, inside, _⟩
      exact absurd inside room

theorem rna_template_table_init_clean : rnaTemplateTableInit.Clean :=
  clean_empty

theorem rna_template_table_add_clean {table next : RnaTemplateTable} {template : RnaTemplate}
    (clean : table.Clean) (added : rnaTemplateTableAdd table template = .ok next) :
    next.Clean := by
  rcases (rna_template_table_add_ok_iff clean.bounded).mp added with ⟨lawful, fresh, room, rfl⟩
  exact KeyedTable.Clean.append clean room lawful.stored fresh

theorem rna_template_table_accepts :
    Accepts RnaTemplate.Stored IdsApart rnaTemplateClear RnaTemplateTable.mk
      rnaTemplateTableAdd := by
  intro templates count room template clean stored fresh
  rw [rna_template_table_add_ok_iff (Nat.le_of_lt room)]
  refine ⟨stored.lawful, fresh, room, ?_⟩
  rw [stored.sanitized]

theorem RnaTemplateTable.Clean.replace {table : RnaTemplateTable} (clean : table.Clean)
    {template : RnaTemplate} (lawful : template.Lawful)
    {templates : List.Vector RnaTemplate rnaMaxTemplates}
    (replaced : modifyFirst (·.id == template.id) (fun _ => copyTemplateSanitized template)
      table.templates table.count = some templates) :
    RnaTemplateTable.Clean { table with templates := templates } := by
  apply KeyedTable.Clean.modify_first clean replaced
  · intro _ _ _
    exact lawful.stored
  · intro old other matching apart same
    exact apart ((beq_iff_eq.mp matching).trans same)
  · intro old other matching apart same
    exact apart (same.trans (beq_iff_eq.mp matching).symm)

/-- An upsert writes a lawful template over the first one with its id, or behind all
others when there is none. -/
theorem upsert_cases {table next : RnaTemplateTable} {template : RnaTemplate}
    (upserted : rnaTemplateTableUpsert table template = .ok next) :
    template.Lawful ∧
      ((∃ templates, PrefixArray.modifyFirst (·.id == template.id)
          (fun _ => copyTemplateSanitized template) table.templates table.count = some templates ∧
          next = { table with templates := templates }) ∨
        rnaTemplateTableAdd table template = .ok next) := by
  unfold rnaTemplateTableUpsert at upserted
  rw [guard_ok] at upserted
  rcases upserted with ⟨_, upserted⟩
  cases valid : rnaTemplateValidate template with
  | error err =>
      rw [valid] at upserted
      cases upserted
  | ok _ =>
      rw [valid] at upserted
      simp only at upserted
      refine ⟨(rna_template_validate_iff template).mp valid, ?_⟩
      split at upserted
      · rename_i templates replaced
        cases upserted
        exact Or.inl ⟨templates, replaced, rfl⟩
      · exact Or.inr upserted

theorem rna_template_table_upsert_clean {table next : RnaTemplateTable} {template : RnaTemplate}
    (clean : table.Clean) (upserted : rnaTemplateTableUpsert table template = .ok next) :
    next.Clean := by
  obtain ⟨lawful, ⟨templates, replaced, rfl⟩ | added⟩ := upsert_cases upserted
  · exact clean.replace lawful replaced
  · exact rna_template_table_add_clean clean added

theorem rna_membrane_load_defaults_clean {table : RnaTemplateTable}
    (loaded : rnaMembraneLoadDefaults = .ok table) : table.Clean :=
  add_all_keeps rna_template_table_add_clean rna_template_table_init_clean loaded

end BlindNet
