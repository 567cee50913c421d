import BlindNet.AdminLock

/-!
# Devices refer to templates that exist

Every stored device names a template of the RNA table in effect: the stored one, or
the defaults while none is stored. The admin server keeps this through every write,
also when writes fail, and the membrane keeps it through each of its operations.
-/

namespace BlindNet

set_option autoImplicit false

open ByteLayout EventMachine

def RibosomeTable.RefersTo (table : RibosomeTable) (templates : RnaTemplateTable) : Prop :=
  ∀ entry ∈ table.live, (rnaTemplateTableFind templates entry.templateId).isSome = true

/-- What is stored loads, and the stored devices refer to the templates in effect. -/
def AdminStorage.Referential (storage : AdminStorage) : Prop :=
  ∃ table templates, ribosomeStoreLoadOrInit none storage.ribosome = .ok table ∧
    rnaMembraneLoadOrInit none storage.rna = .ok templates ∧ table.RefersTo templates

/-! ## What the edits keep -/

theorem find_is_some_iff {table : RnaTemplateTable} (bounded : table.count ≤ rnaMaxTemplates)
    (templateId : UInt16) :
    (rnaTemplateTableFind table templateId).isSome = true ↔
      rnaTemplateIdValid templateId = true ∧ ∃ template ∈ table.live, template.id = templateId := by
  have inRange : ¬ rnaMaxTemplates < table.count := by omega
  by_cases valid : rnaTemplateIdValid templateId = true
  · simp [rnaTemplateTableFind, inRange, valid]
  · simp [rnaTemplateTableFind, valid]

theorem find_is_some_mono {table next : RnaTemplateTable} (bounded : table.count ≤ rnaMaxTemplates)
    (nextBounded : next.count ≤ rnaMaxTemplates)
    (kept : ∀ template ∈ table.live, ∃ other ∈ next.live, other.id = template.id)
    {templateId : UInt16} (found : (rnaTemplateTableFind table templateId).isSome = true) :
    (rnaTemplateTableFind next templateId).isSome = true := by
  rw [find_is_some_iff bounded] at found
  rw [find_is_some_iff nextBounded]
  rcases found with ⟨valid, template, member, sameId⟩
  rcases kept template member with ⟨other, isOther, same⟩
  exact ⟨valid, other, isOther, same.trans sameId⟩

theorem appended_live {templates : List.Vector RnaTemplate rnaMaxTemplates} {count : Nat}
    (room : count < rnaMaxTemplates) (template : RnaTemplate) :
    RnaTemplateTable.live ⟨templates.set ⟨count, room⟩ template, count + 1⟩ =
      RnaTemplateTable.live ⟨templates, count⟩ ++ [template] :=
  PrefixArray.live_append templates count room template

theorem add_keeps_ids {table next : RnaTemplateTable} {template : RnaTemplate}
    (bounded : table.count ≤ rnaMaxTemplates)
    (added : rnaTemplateTableAdd table template = .ok next) :
    next.count ≤ rnaMaxTemplates ∧ next.count ≠ 0 ∧
      (∀ old ∈ table.live, ∃ other ∈ next.live, other.id = old.id) ∧
      copyTemplateSanitized template ∈ next.live := by
  rcases (rna_template_table_add_ok_iff bounded).mp added with ⟨_, _, room, rfl⟩
  rw [appended_live]
  refine ⟨room, Nat.succ_ne_zero _, ?_, ?_⟩
  · intro old member
    exact ⟨old, List.mem_append_left _ member, rfl⟩
  · simp

theorem replace_keeps_ids {templates next : List.Vector RnaTemplate rnaMaxTemplates} {count : Nat}
    {template new : RnaTemplate} (sameId : new.id = template.id)
    (replaced : PrefixArray.modifyFirst (·.id == template.id) (fun _ => new) templates count =
      some next) :
    (∀ old ∈ PrefixArray.live templates count,
      ∃ other ∈ PrefixArray.live next count, other.id = old.id) ∧
    new ∈ PrefixArray.live next count := by
  rcases PrefixArray.modify_first_some replaced with ⟨before, value, after, first, written, _⟩
  rw [written, first.split]
  refine ⟨?_, by simp⟩
  intro old member
  rcases List.mem_append.mp member with early | rest
  · exact ⟨old, by simp [early], rfl⟩
  · rcases List.mem_cons.mp rest with rfl | late
    · exact ⟨new, by simp, sameId.trans (beq_iff_eq.mp first.found).symm⟩
    · exact ⟨old, by simp [late], rfl⟩

theorem upsert_keeps_ids {table next : RnaTemplateTable} {template : RnaTemplate}
    (bounded : table.count ≤ rnaMaxTemplates)
    (upserted : rnaTemplateTableUpsert table template = .ok next) :
    template.Lawful ∧ next.count ≤ rnaMaxTemplates ∧ next.count ≠ 0 ∧
      (∀ old ∈ table.live, ∃ other ∈ next.live, other.id = old.id) ∧
      copyTemplateSanitized template ∈ next.live := by
  rcases upsert_cases upserted with ⟨lawful, ⟨templates, replaced, rfl⟩ | added⟩
  · rcases @replace_keeps_ids _ _ _ template (copyTemplateSanitized template) rfl replaced with
      ⟨kept, new⟩
    refine ⟨lawful, bounded, ?_, kept, new⟩
    intro empty
    have zero : table.count = 0 := empty
    simp [zero, PrefixArray.live] at new
  · exact ⟨lawful, add_keeps_ids bounded added⟩

theorem find_live {table : RnaTemplateTable} (bounded : table.count ≤ rnaMaxTemplates)
    (templateId : UInt16) :
    rnaTemplateTableFind table templateId =
      if rnaTemplateIdValid templateId then table.live.find? (·.id == templateId) else none := by
  have inRange : ¬ rnaMaxTemplates < table.count := by omega
  by_cases valid : rnaTemplateIdValid templateId = true
  · simp [rnaTemplateTableFind, inRange, valid]
  · simp [rnaTemplateTableFind, valid]

theorem upsert_find {table next : RnaTemplateTable} {template : RnaTemplate}
    (bounded : table.count ≤ rnaMaxTemplates)
    (upserted : rnaTemplateTableUpsert table template = .ok next) :
    rnaTemplateTableFind next template.id = some (copyTemplateSanitized template) ∧
      ∀ templateId, templateId ≠ template.id →
        rnaTemplateTableFind next templateId = rnaTemplateTableFind table templateId := by
  rcases upsert_keeps_ids bounded upserted with ⟨lawful, nextBounded, _⟩
  have named : (copyTemplateSanitized template).id = template.id := rfl
  rw [find_live nextBounded, if_pos lawful.identified]
  rcases (upsert_cases upserted).2 with ⟨templates, replaced, rfl⟩ | added
  · rcases PrefixArray.modify_first_some replaced with ⟨before, value, after, first, written, _⟩
    have live : RnaTemplateTable.live { table with templates := templates } =
        before ++ copyTemplateSanitized template :: after := written
    rw [live]
    constructor
    · exact first.find_written (beq_iff_eq.mpr named)
    · intro templateId different
      have old : (value.id == templateId) = false :=
        beq_eq_false_iff_ne.mpr fun same => different (same ▸ beq_iff_eq.mp first.found)
      have new : ((copyTemplateSanitized template).id == templateId) = false :=
        beq_eq_false_iff_ne.mpr (Ne.symm different)
      have others : (before ++ copyTemplateSanitized template :: after).find?
          (·.id == templateId) = table.live.find? (·.id == templateId) :=
        first.find_other old new
      rw [find_live nextBounded, find_live bounded, live, others]
  · rcases (rna_template_table_add_ok_iff bounded).mp added with ⟨_, fresh, room, rfl⟩
    rw [appended_live, List.find?_append]
    constructor
    · have absent : table.live.find? (·.id == template.id) = none := by
        rw [List.find?_eq_none]
        intro other member
        simpa [IdsApart] using fresh other member
      exact (congrArg (Option.or · _) absent).trans (by simp [named])
    · intro templateId different
      rw [find_live nextBounded, find_live bounded, appended_live, List.find?_append]
      have skipped : [copyTemplateSanitized template].find? (·.id == templateId) = none := by
        simp [named, Ne.symm different]
      rw [skipped, Option.or_none]

/-! ## What the handlers keep -/

structure AdminStorage.Effective (storage : AdminStorage) (table : RibosomeTable)
    (templates : RnaTemplateTable) : Prop where
  ribosome : ribosomeStoreLoadOrInit none storage.ribosome = .ok table
  rna : rnaMembraneLoadOrInit none storage.rna = .ok templates

theorem save_ribosomes_effective {env : AdminEnvironment} {storage stored : AdminStorage}
    {table next : RibosomeTable} {templates : RnaTemplateTable} {message : String}
    {response : AdminResponse} (effective : storage.Effective table templates)
    (clean : next.Clean)
    (wrote : stored ∈ (saveRibosomes env storage next message response).writes) :
    stored.Effective table templates ∨ stored.Effective next templates := by
  have only : stored = { storage with
      ribosome := (ribosomeStoreSave env.ribosomeWrite storage.ribosome next).2 } := by
    unfold saveRibosomes at wrote
    simp only at wrote
    split at wrote
    · exact List.mem_singleton.mp wrote
    · exact List.mem_singleton.mp wrote
  rw [only, ribosome_store_save_clean clean]
  rcases store_save_cases next.image env.ribosomeWrite storage.ribosome with new | ⟨old, _⟩
  · rw [new]
    exact Or.inr ⟨ribosome_store_load_image clean, effective.rna⟩
  · rw [old]
    exact Or.inl effective

theorem save_templates_effective {write : NvsWrite} {storage : AdminStorage}
    {table : RibosomeTable} {templates next : RnaTemplateTable}
    (effective : storage.Effective table templates) (clean : next.Clean)
    (nonempty : next.count ≠ 0) :
    let saved := rnaMembraneSave write storage.rna next
    AdminStorage.Effective { storage with rna := saved.2 } table next ∨
      (AdminStorage.Effective { storage with rna := saved.2 } table templates ∧
        saved.1 ≠ .ok ()) := by
  simp only
  rw [rna_membrane_save_clean clean nonempty]
  rcases store_save_cases next.image write storage.rna with new | ⟨old, failed⟩
  · rw [new]
    exact Or.inl ⟨effective.ribosome, rna_membrane_load_image clean nonempty⟩
  · rw [old]
    exact Or.inr ⟨effective, failed⟩

/-- Every storage an outcome passes through is referential. -/
def TableOutcome.Keeps (outcome : TableOutcome) : Prop :=
  ∀ stored ∈ outcome.writes, stored.Referential

theorem refused_keeps (err : EspErr) (status : HttpStatus) (message : String) :
    (TableOutcome.refused err status message).Keeps := by
  intro stored member
  cases member

theorem gated_keeps {env : AdminEnvironment} {server : AdminServer} {request : RequestBody}
    {handler : Bytes → TableOutcome} (keeps : ∀ body, (handler body).Keeps) :
    (server.gated env request handler).Keeps := by
  unfold AdminServer.gated
  split
  · intro stored member
    cases member
  · split
    · exact refused_keeps _ _ _
    · exact keeps _

theorem save_ribosomes_keeps {env : AdminEnvironment} {storage : AdminStorage}
    {table next : RibosomeTable} {templates : RnaTemplateTable} {message : String}
    {response : AdminResponse} (effective : storage.Effective table templates)
    (refers : table.RefersTo templates) (clean : next.Clean)
    (nextRefers : next.RefersTo templates) :
    (saveRibosomes env storage next message response).Keeps := by
  intro stored wrote
  rcases save_ribosomes_effective effective clean wrote with old | new
  · exact ⟨table, templates, old.ribosome, old.rna, refers⟩
  · exact ⟨next, templates, new.ribosome, new.rna, nextRefers⟩

/-- What a handler loads is what is in effect. -/
theorem loads_effective {env : AdminEnvironment} {storage : AdminStorage} {table : RibosomeTable}
    {templates : RnaTemplateTable} (effective : storage.Effective table templates) :
    (∀ loaded, ribosomeStoreLoadOrInit env.ribosomeFault storage.ribosome = .ok loaded →
      loaded = table) ∧
    ∀ loaded, rnaMembraneLoadOrInit env.rnaFault storage.rna = .ok loaded →
      loaded = templates := by
  constructor
  · intro loaded answer
    have plain : ribosomeStoreLoadOrInit none storage.ribosome = .ok loaded :=
      store_load_or_init_unfaulted answer
    rw [effective.ribosome] at plain
    cases plain
    rfl
  · intro loaded answer
    have plain : rnaMembraneLoadOrInit none storage.rna = .ok loaded :=
      store_load_or_init_unfaulted answer
    rw [effective.rna] at plain
    cases plain
    rfl

theorem add_from_config_refers {table next : RibosomeTable} {config : RibosomeEntryConfig}
    {templates : RnaTemplateTable} (bounded : table.count ≤ ribosomeMaxEntries)
    (refers : table.RefersTo templates)
    (found : (rnaTemplateTableFind templates config.templateId).isSome = true)
    {result : Result Unit} (added : ribosomeTableAddFromConfig table config = (result, next)) :
    next.RefersTo templates := by
  intro entry member
  rcases ribosome_table_add_from_config_cases bounded config with
    ⟨err, refused⟩ | ⟨err, room, cleared⟩ | ⟨new, room, made, _, appended⟩
  · rw [refused] at added
    cases added
    exact refers entry member
  · rw [cleared] at added
    cases added
    have same := PrefixArray.live_set_unused table.entries table.count room ribosomeTableClearEntry
    unfold RibosomeTable.live at member
    simp only [same] at member
    exact refers entry member
  · rw [appended] at added
    cases added
    have live := PrefixArray.live_append table.entries table.count room new
    unfold RibosomeTable.live at member
    simp only [live, List.mem_append, List.mem_singleton] at member
    rcases member with held | rfl
    · exact refers entry held
    · unfold ribosomeTableMakeEntry at made
      rw [guard_ok, guard_ok, guard_ok] at made
      cases made.2.2.2
      exact found

theorem register_device_keeps {env : AdminEnvironment} {storage : AdminStorage}
    {table : RibosomeTable} {templates : RnaTemplateTable}
    (effective : storage.Effective table templates) (refers : table.RefersTo templates)
    (config : RibosomeEntryConfig) (response : AdminResponse) :
    (registerDevice env storage config response).Keeps := by
  unfold registerDevice
  split
  · exact refused_keeps _ _ _
  · rename_i loadedTemplates templatesLoaded
    rw [(loads_effective effective).2 _ templatesLoaded]
    split_ifs with absent
    · intro stored member
      cases member
    · split
      · exact refused_keeps _ _ _
      · rename_i loadedTable tableLoaded
        rw [(loads_effective effective).1 _ tableLoaded]
        split
        · exact refused_keeps _ _ _
        · rename_i next added
          have clean := ribosome_store_load_or_init_clean effective.ribosome
          have nextClean := ribosome_table_add_from_config_clean clean config
          rw [added] at nextClean
          apply save_ribosomes_keeps effective refers nextClean
          exact add_from_config_refers clean.bounded refers
            (Option.isSome_iff_ne_none.mpr (by simpa using absent)) added

theorem modify_first_refers {table : RibosomeTable} {templates : RnaTemplateTable}
    {matching : RibosomeTableEntry → Bool} {change : RibosomeTableEntry → RibosomeTableEntry}
    {entries : List.Vector RibosomeTableEntry ribosomeMaxEntries}
    (modified : PrefixArray.modifyFirst matching change table.entries table.count = some entries)
    (refers : table.RefersTo templates)
    (found : ∀ entry ∈ table.live,
      (rnaTemplateTableFind templates (change entry).templateId).isSome = true) :
    RibosomeTable.RefersTo { table with entries := entries } templates := by
  rcases PrefixArray.modify_first_some modified with ⟨before, value, after, first, written, _⟩
  have split : table.live = before ++ value :: after := first.split
  have live : RibosomeTable.live { table with entries := entries } =
      before ++ change value :: after := written
  intro entry member
  rw [live] at member
  rcases List.mem_append.mp member with early | rest
  · exact refers entry (by rw [split]; simp [early])
  · rcases List.mem_cons.mp rest with rfl | late
    · exact found value (by rw [split]; simp)
    · exact refers entry (by rw [split]; simp [late])

theorem regenerate_refers {table next : RibosomeTable} {templates : RnaTemplateTable}
    {mqttClientId : Bytes} {random : ByteArr 32} (refers : table.RefersTo templates)
    (regenerated : ribosomeRegenerate table mqttClientId random = .ok next) :
    next.RefersTo templates := by
  obtain ⟨entries, modified, rfl⟩ := ribosome_regenerate_cases regenerated
  exact modify_first_refers modified refers refers

theorem assign_refers {table next : RibosomeTable} {templates : RnaTemplateTable}
    {mqttClientId : Bytes} {templateId : UInt16} (refers : table.RefersTo templates)
    (found : (rnaTemplateTableFind templates templateId).isSome = true)
    (assigned : ribosomeAssignTemplate table mqttClientId templateId = .ok next) :
    next.RefersTo templates := by
  obtain ⟨-, entries, modified, rfl⟩ := ribosome_assign_template_cases assigned
  exact modify_first_refers modified refers fun _ _ => found

theorem regenerate_handler_keeps {env : AdminEnvironment} {storage : AdminStorage}
    {table : RibosomeTable} {templates : RnaTemplateTable}
    (effective : storage.Effective table templates) (refers : table.RefersTo templates)
    (server : AdminServer) (request : RequestBody) :
    (ribosomeRegeneratePostHandler env server storage request).Keeps := by
  apply gated_keeps
  intro body
  split
  · exact refused_keeps _ _ _
  · split
    · exact refused_keeps _ _ _
    · rename_i loaded answer
      rw [(loads_effective effective).1 _ answer]
      split
      · exact refused_keeps _ _ _
      · rename_i next regenerated
        have clean := ribosome_store_load_or_init_clean effective.ribosome
        exact save_ribosomes_keeps effective refers (ribosome_regenerate_clean clean regenerated)
          (regenerate_refers refers regenerated)

theorem remove_handler_keeps {env : AdminEnvironment} {storage : AdminStorage}
    {table : RibosomeTable} {templates : RnaTemplateTable}
    (effective : storage.Effective table templates) (refers : table.RefersTo templates)
    (server : AdminServer) (request : RequestBody) :
    (ribosomeRemovePostHandler env server storage request).Keeps := by
  apply gated_keeps
  intro body
  split
  · exact refused_keeps _ _ _
  · split
    · exact refused_keeps _ _ _
    · rename_i loaded answer
      rw [(loads_effective effective).1 _ answer]
      split
      · exact refused_keeps _ _ _
      · rename_i next removed
        have clean := ribosome_store_load_or_init_clean effective.ribosome
        rcases ribosome_table_remove_entry_clean clean removed with ⟨nextClean, fewer⟩
        apply save_ribosomes_keeps effective refers nextClean
        intro entry member
        exact refers entry (fewer entry member)

theorem upsert_refers {table : RibosomeTable} {templates next : RnaTemplateTable}
    {template : RnaTemplate} (clean : templates.Clean) (refers : table.RefersTo templates)
    (upserted : rnaTemplateTableUpsert templates template = .ok next) :
    table.RefersTo next ∧ (rnaTemplateTableFind next template.id).isSome = true := by
  rcases upsert_keeps_ids clean.bounded upserted with ⟨lawful, nextBounded, _, kept, new⟩
  constructor
  · intro entry member
    exact find_is_some_mono clean.bounded nextBounded kept (refers entry member)
  · exact (find_is_some_iff nextBounded template.id).mpr ⟨lawful.identified, _, new, rfl⟩

/-- Saving upserted templates: the storage stays referential, and a save that reports
success has put the new templates into effect. -/
theorem save_upserted (write : NvsWrite) {storage : AdminStorage} {table : RibosomeTable}
    {templates next : RnaTemplateTable} {template : RnaTemplate}
    (effective : storage.Effective table templates) (refers : table.RefersTo templates)
    (upserted : rnaTemplateTableUpsert templates template = .ok next) :
    let saved := rnaMembraneSave write storage.rna next
    AdminStorage.Referential { storage with rna := saved.2 } ∧
      (saved.1 = .ok () → AdminStorage.Effective { storage with rna := saved.2 } table next) := by
  have clean := rna_membrane_load_or_init_clean effective.rna
  have nextRefers := (upsert_refers clean refers upserted).1
  have nonempty := (upsert_keeps_ids clean.bounded upserted).2.2.1
  rcases @save_templates_effective write _ _ _ _ effective
    (rna_template_table_upsert_clean clean upserted) nonempty with new | ⟨old, failed⟩
  · exact ⟨⟨table, next, new.ribosome, new.rna, nextRefers⟩, fun _ => new⟩
  · exact ⟨⟨table, templates, old.ribosome, old.rna, refers⟩,
      fun success => absurd success failed⟩

theorem template_set_handler_keeps {env : AdminEnvironment} {storage : AdminStorage}
    {table : RibosomeTable} {templates : RnaTemplateTable}
    (effective : storage.Effective table templates) (refers : table.RefersTo templates)
    (server : AdminServer) (request : RequestBody) :
    (membraneTemplateSetPostHandler env server storage request).Keeps := by
  apply gated_keeps
  intro body
  split
  · split
    · exact refused_keeps _ _ _
    · rename_i template built
      split
      · exact refused_keeps _ _ _
      · rename_i loaded answer
        rw [(loads_effective effective).2 _ answer]
        split
        · exact refused_keeps _ _ _
        · rename_i next upserted
          rcases save_upserted env.rnaWrite effective refers upserted with ⟨referential, _⟩
          simp only
          split
          · intro stored member
            rw [List.mem_singleton.mp member]
            exact referential
          · intro stored member
            rw [List.mem_singleton.mp member]
            exact referential
  · exact refused_keeps _ _ _

theorem device_set_handler_keeps {env : AdminEnvironment} {storage : AdminStorage}
    {table : RibosomeTable} {templates : RnaTemplateTable}
    (effective : storage.Effective table templates) (refers : table.RefersTo templates)
    (server : AdminServer) (request : RequestBody) :
    (deviceMembraneSetPostHandler env server storage request).Keeps := by
  apply gated_keeps
  intro body
  split
  · split
    · exact refused_keeps _ _ _
    · rename_i template built
      split
      · exact refused_keeps _ _ _
      · exact refused_keeps _ _ _
      · rename_i loadedTable loadedTemplates tableAnswer templatesAnswer
        rw [(loads_effective effective).1 _ tableAnswer,
          (loads_effective effective).2 _ templatesAnswer]
        split
        · exact refused_keeps _ _ _
        · rename_i next upserted
          split
          · exact refused_keeps _ _ _
          · rename_i assignedTable assigned
            rcases save_upserted env.rnaWrite effective refers upserted with
              ⟨referential, inEffect⟩
            simp only
            split
            · intro stored member
              rw [List.mem_singleton.mp member]
              exact referential
            · rename_i saved
              intro stored member
              rcases List.mem_cons.mp member with rfl | later
              · exact referential
              · have clean := rna_membrane_load_or_init_clean effective.rna
                rcases upsert_refers clean refers upserted with ⟨nextRefers, found⟩
                have tableClean := ribosome_store_load_or_init_clean effective.ribosome
                exact save_ribosomes_keeps (inEffect saved) nextRefers
                  (ribosome_assign_template_clean tableClean assigned)
                  (assign_refers nextRefers found assigned) stored later
  · exact refused_keeps _ _ _

/-- Every table handler passes through referential storage only. -/
theorem table_outcome_keeps {env : AdminEnvironment} {state : AdminState} {request : AdminRequest}
    {outcome : TableOutcome} (referential : state.storage.Referential)
    (handled : tableOutcome env state request = some outcome) : outcome.Keeps := by
  rcases referential with ⟨table, templates, ribosome, rna, refers⟩
  have effective : state.storage.Effective table templates := ⟨ribosome, rna⟩
  cases request with
  | ribosomeAdd body =>
      cases handled
      apply gated_keeps
      intro text
      split
      · split
        · exact register_device_keeps effective refers _ _
        · exact refused_keeps _ _ _
      · exact refused_keeps _ _ _
  | ribosomeProvision body =>
      cases handled
      apply gated_keeps
      intro text
      split
      · split
        · split_ifs
          · exact refused_keeps _ _ _
          · exact register_device_keeps effective refers _ _
        · exact refused_keeps _ _ _
      · exact refused_keeps _ _ _
  | ribosomeRegenerate body =>
      cases handled
      exact regenerate_handler_keeps effective refers state.server body
  | ribosomeRemove body =>
      cases handled
      exact remove_handler_keeps effective refers state.server body
  | membraneTemplateSet body =>
      cases handled
      exact template_set_handler_keeps effective refers state.server body
  | deviceMembraneSet body =>
      cases handled
      exact device_set_handler_keeps effective refers state.server body
  | rootGet => cases handled
  | challengeGet => cases handled
  | save body => cases handled
  | unlock body => cases handled

theorem writes_referential {state : AdminState} (referential : state.storage.Referential)
    (input : AdminInput) : ∀ stored ∈ state.writes input, stored.Referential := by
  unfold AdminState.writes
  intro stored member
  split at member
  · split_ifs at member
    · split at member
      · rename_i outcome handled
        exact table_outcome_keeps referential handled stored member
      · cases member
    · cases member
  · cases member

theorem admin_step_referential (crypto : AdminCrypto) (state : AdminState) (input : AdminInput)
    (referential : state.storage.Referential) :
    (adminStep crypto state input).1.storage.Referential := by
  rcases admin_step_storage crypto state input with wrote | ⟨ribosome, rna⟩
  · exact writes_referential referential input _ wrote
  · unfold AdminStorage.Referential
    rw [ribosome, rna]
    exact referential

theorem rna_membrane_defaults_load : ∃ templates, rnaMembraneLoadDefaults = .ok templates := by
  have filled : rnaMembraneLoadDefaults.toOption.isSome = true := by decide +kernel
  cases loaded : rnaMembraneLoadDefaults with
  | error err =>
      rw [loaded] at filled
      cases filled
  | ok templates => exact ⟨templates, rfl⟩

theorem empty_storage_referential (config : Option ZoneguardConfig) :
    AdminStorage.Referential ⟨config, none, none⟩ := by
  rcases rna_membrane_defaults_load with ⟨templates, loaded⟩
  refine ⟨ribosomeTableInit, templates, store_load_or_init_missing, ?_, ?_⟩
  · exact store_load_or_init_missing.trans loaded
  · intro entry member
    simp [RibosomeTable.live, ribosomeTableInit, PrefixArray.live] at member

/-! ## The membrane -/

def Membrane.Referential (membrane : Membrane) : Prop :=
  ∀ entry ∈ membrane.ribosomeTable.live, (membrane.findTemplate entry.templateId).isSome = true

/-- What one operation of the membrane can leave, when it answers success and when a
refused device cleared a slot. -/
inductive Membrane.Edit (membrane : Membrane) : Membrane → Prop where
  | addDevice (config : RibosomeEntryConfig) : Membrane.Edit membrane (membrane.addDevice config).2
  | removeDevice {mqttClientId : Bytes} {next : Membrane}
      (removed : membrane.removeDevice mqttClientId = .ok next) : Membrane.Edit membrane next
  | assignTemplate {mqttClientId : Bytes} {templateId : UInt16} {next : Membrane}
      (assigned : membrane.assignTemplate mqttClientId templateId = .ok next) :
      Membrane.Edit membrane next
  | addTemplate {template : RnaTemplate} {next : Membrane}
      (added : membrane.addTemplate template = .ok next) : Membrane.Edit membrane next
  | replaceTemplate {template : RnaTemplate} {next : Membrane}
      (replaced : membrane.replaceTemplate template = .ok next) : Membrane.Edit membrane next
  | removeTemplate {templateId : UInt16} {next : Membrane}
      (removed : membrane.removeTemplate templateId = .ok next) : Membrane.Edit membrane next

theorem find_bounded {table : RnaTemplateTable} {templateId : UInt16}
    (found : (rnaTemplateTableFind table templateId).isSome = true) :
    table.count ≤ rnaMaxTemplates := by
  by_contra excess
  have outside : rnaMaxTemplates < table.count := by omega
  simp [rnaTemplateTableFind, outside] at found

theorem membrane_referential_iff {membrane : Membrane} (ready : membrane.initialized = true) :
    membrane.Referential ↔ membrane.ribosomeTable.RefersTo membrane.rnaTemplates := by
  simp [Membrane.Referential, RibosomeTable.RefersTo, Membrane.findTemplate, ready]

theorem remove_entry_refers {table next : RibosomeTable} {templates : RnaTemplateTable}
    {mqttClientId : Bytes} (refers : table.RefersTo templates)
    (removed : ribosomeTableRemoveEntry table mqttClientId = .ok next) :
    next.RefersTo templates := by
  unfold ribosomeTableRemoveEntry at removed
  rw [guard_ok] at removed
  rcases removed with ⟨usable, removed⟩
  rw [Bool.or_eq_true, not_or] at usable
  have bounded : table.count ≤ ribosomeMaxEntries := by simpa using usable.1
  split at removed
  · cases removed
  · rename_i entries taken
    cases removed
    rcases PrefixArray.remove_first_some bounded taken with
      ⟨before, value, after, first, kept, _⟩
    have split : table.live = before ++ value :: after := first.split
    intro entry member
    have held : entry ∈ before ++ after.map copyEntrySanitized := by
      rw [← kept]
      exact member
    rcases List.mem_append.mp held with early | late
    · exact refers entry (by rw [split]; simp [early])
    · rcases List.mem_map.mp late with ⟨source, isLate, rfl⟩
      exact refers source (by rw [split]; simp [isLate])

theorem membrane_add_device_refers {membrane : Membrane}
    (refers : membrane.ribosomeTable.RefersTo membrane.rnaTemplates)
    (ready : membrane.initialized = true) (config : RibosomeEntryConfig) :
    (membrane.addDevice config).2.ribosomeTable.RefersTo
      (membrane.addDevice config).2.rnaTemplates := by
  unfold Membrane.addDevice Membrane.findTemplate
  simp only [ready, Bool.not_true, Bool.false_eq_true, if_false]
  split_ifs with absent
  · exact refers
  · by_cases bounded : membrane.ribosomeTable.count ≤ ribosomeMaxEntries
    · exact add_from_config_refers bounded refers
        (Option.isSome_iff_ne_none.mpr (by simpa using absent)) rfl
    · have excess : ribosomeMaxEntries < membrane.ribosomeTable.count := by omega
      simp only [ribosomeTableAddFromConfig, if_pos excess]
      exact refers

theorem membrane_remove_template_refers {membrane next : Membrane} {templateId : UInt16}
    (refers : membrane.ribosomeTable.RefersTo membrane.rnaTemplates)
    (ready : membrane.initialized = true)
    (removed : membrane.removeTemplate templateId = .ok next) :
    next.ribosomeTable.RefersTo next.rnaTemplates ∧ next.initialized = true := by
  rcases Membrane.remove_template_ok removed with ⟨valid, unused, templates, taken, rfl⟩
  refine ⟨?_, ready⟩
  intro entry member
  have found := refers entry member
  have bounded := find_bounded found
  have other : entry.templateId ≠ templateId := by
    intro same
    rw [Membrane.templateInUse, if_neg (by simp [ready, valid]), List.any_eq_false] at unused
    exact unused entry member (beq_iff_eq.mpr same)
  rcases PrefixArray.remove_first_some bounded taken with
    ⟨before, value, after, first, kept, _⟩
  rcases (find_is_some_iff bounded _).mp found with ⟨validId, template, isLive, sameId⟩
  have split : template ∈ before ++ value :: after := by
    rw [← first.split]
    exact isLive
  have smaller : membrane.rnaTemplates.count - 1 ≤ rnaMaxTemplates := by omega
  rw [@find_is_some_iff ⟨templates, membrane.rnaTemplates.count - 1⟩ smaller]
  refine ⟨validId, ?_⟩
  have live : RnaTemplateTable.live ⟨templates, membrane.rnaTemplates.count - 1⟩ =
      before ++ after.map Membrane.copyTemplateSanitized := kept
  rw [live]
  rcases List.mem_append.mp split with early | rest
  · exact ⟨template, by simp [early], sameId⟩
  · rcases List.mem_cons.mp rest with rfl | late
    · exact absurd (sameId.symm.trans (beq_iff_eq.mp first.found)) other
    · exact ⟨Membrane.copyTemplateSanitized template,
        List.mem_append_right _ (List.mem_map_of_mem late), sameId⟩

theorem membrane_edit_refers {membrane next : Membrane} (ready : membrane.initialized = true)
    (refers : membrane.ribosomeTable.RefersTo membrane.rnaTemplates)
    (edited : membrane.Edit next) :
    next.ribosomeTable.RefersTo next.rnaTemplates ∧ next.initialized = true := by
  cases edited with
  | addDevice config =>
      refine ⟨membrane_add_device_refers refers ready config, ?_⟩
      unfold Membrane.addDevice
      split_ifs <;> exact ready
  | removeDevice removed =>
      rcases Membrane.remove_device_ok removed with ⟨table, taken, rfl⟩
      exact ⟨remove_entry_refers refers taken, ready⟩
  | assignTemplate assigned =>
      rcases Membrane.assign_template_ok assigned with ⟨found, entries, modified, rfl⟩
      exact ⟨modify_first_refers modified refers fun _ _ => found, ready⟩
  | addTemplate added =>
      rcases Membrane.add_template_ok added with ⟨table, stored, rfl⟩
      refine ⟨?_, ready⟩
      intro entry member
      have found := refers entry member
      rcases add_keeps_ids (find_bounded found) stored with ⟨nextBounded, _, kept, _⟩
      exact find_is_some_mono (find_bounded found) nextBounded kept found
  | @replaceTemplate template _ replaced =>
      rcases Membrane.replace_template_ok replaced with ⟨_, templates, written, rfl⟩
      refine ⟨?_, ready⟩
      intro entry member
      have found := refers entry member
      have bounded := find_bounded found
      have sameId : (Membrane.copyTemplateSanitized template).id = template.id := rfl
      exact @find_is_some_mono membrane.rnaTemplates ⟨templates, membrane.rnaTemplates.count⟩
        bounded bounded (replace_keeps_ids sameId written).1 _ found
  | removeTemplate removed => exact membrane_remove_template_refers refers ready removed

/-- Stored devices refer to templates in effect: after every write of every run of the
admin server from empty storage, and through every operation of the membrane. -/
theorem devices_refer_to_templates :
    (∀ (crypto : AdminCrypto) (server : AdminServer) (config : Option ZoneguardConfig)
      (before : List AdminInput) (input : AdminInput),
      ∀ stored ∈ (run (adminStep crypto) ⟨server, ⟨config, none, none⟩⟩ before).1.writes input,
        stored.Referential) ∧
    ∀ membrane next : Membrane, membrane.initialized = true → membrane.Referential →
      membrane.Edit next → next.Referential := by
  constructor
  · intro crypto server config before input
    apply writes_referential
    exact invariant_run (adminStep crypto) (fun state => state.storage.Referential)
      (admin_step_referential crypto) _ before (empty_storage_referential config)
  · intro membrane next ready referential edited
    rw [membrane_referential_iff ready] at referential
    rcases membrane_edit_refers ready referential edited with ⟨refers, nextReady⟩
    exact (membrane_referential_iff nextReady).mpr refers

def doorMembrane : Membrane where
  ribosomeTable := (ribosomeTableAddFromConfig ribosomeTableInit doorRegistration).2
  rnaTemplates :=
    match rnaMembraneLoadDefaults with
    | .ok templates => templates
    | .error _ => rnaTemplateTableInit
  initialized := true

theorem door_membrane_referential : doorMembrane.Referential := by
  unfold Membrane.Referential
  decide +kernel

theorem bench_devices_refer :
    (((run (adminStep benchAdminCrypto) ⟨AdminServer.boot, benchAdminStorage⟩
        benchUnlock).1.writes benchAdd).length = 1 ∧
      ∀ stored ∈ (run (adminStep benchAdminCrypto) ⟨AdminServer.boot, benchAdminStorage⟩
        benchUnlock).1.writes benchAdd, stored.Referential) ∧
    (doorMembrane.addDevice { doorRegistration with
      mqttClientId := CString.utf8 "door02" ++ [0] }).2.Referential :=
  ⟨⟨by decide +kernel, devices_refer_to_templates.1 benchAdminCrypto AdminServer.boot
      benchAdminStorage.config benchUnlock benchAdd⟩,
    devices_refer_to_templates.2 doorMembrane _ rfl door_membrane_referential (.addDevice _)⟩

end BlindNet
