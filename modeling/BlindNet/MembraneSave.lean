import BlindNet.Referential

/-!
# Saving the membrane

`Membrane::save` stores the ribosome table and then, if that succeeded, the RNA table. The
two writes are separate: when the first takes effect and the second does not, the new
devices stand beside the old templates. A device may then refer to a template that was
never stored.
-/

namespace BlindNet

set_option autoImplicit false

open ByteLayout

namespace NvsWrite

def succeeds : NvsWrite → Bool
  | committed => true
  | failed _ _ => false

/-- Whether later reads see the new bytes. -/
def takesEffect : NvsWrite → Bool
  | committed => true
  | failed _ visible => visible

end NvsWrite

namespace Membrane

def save (membrane : Membrane) (ribosomeWrite rnaWrite : NvsWrite) (storage : AdminStorage) :
    Result Unit × AdminStorage :=
  if !membrane.initialized then
    (.error .invalidState, storage)
  else
    match ribosomeStoreSave ribosomeWrite storage.ribosome membrane.ribosomeTable with
    | (.error err, ribosome) => (.error err, { storage with ribosome := ribosome })
    | (.ok (), ribosome) =>
        let saved := rnaMembraneSave rnaWrite storage.rna membrane.rnaTemplates
        (saved.1, { storage with ribosome := ribosome, rna := saved.2 })

/-- What a membrane can be that was loaded from the storage and edited since. -/
inductive ReachedFrom (storage : AdminStorage) : Membrane → Prop where
  | loaded {ribosomeFault rnaFault : Option NvsFault} {membrane : Membrane}
      (loaded : Membrane.init ⟨ribosomeStoreLoadOrInit ribosomeFault storage.ribosome,
        rnaMembraneLoadOrInit rnaFault storage.rna⟩ = .ok membrane) : ReachedFrom storage membrane
  | edited {membrane next : Membrane} (reached : ReachedFrom storage membrane)
      (edited : membrane.Edit next) : ReachedFrom storage next

/-- A membrane in use: clean tables, and every device has its template. -/
structure Sound (membrane : Membrane) : Prop where
  ready : membrane.initialized = true
  ribosome : membrane.ribosomeTable.Clean
  rna : membrane.rnaTemplates.Clean
  refers : membrane.ribosomeTable.RefersTo membrane.rnaTemplates

theorem edit_clean {membrane next : Membrane} (ribosome : membrane.ribosomeTable.Clean)
    (rna : membrane.rnaTemplates.Clean) (edited : membrane.Edit next) :
    next.ribosomeTable.Clean ∧ next.rnaTemplates.Clean := by
  cases edited with
  | addDevice config =>
      unfold Membrane.addDevice
      split_ifs
      · exact ⟨ribosome, rna⟩
      · exact ⟨ribosome, rna⟩
      · exact ⟨ribosome_table_add_from_config_clean ribosome config, rna⟩
  | removeDevice removed =>
      rcases remove_device_ok removed with ⟨table, taken, rfl⟩
      exact ⟨(ribosome_table_remove_entry_clean ribosome taken).1, rna⟩
  | assignTemplate assigned =>
      refine ⟨membrane_assign_template_clean ribosome assigned, ?_⟩
      rcases assign_template_ok assigned with ⟨_, entries, _, rfl⟩
      exact rna
  | addTemplate added =>
      rcases add_template_ok added with ⟨table, stored, rfl⟩
      exact ⟨ribosome, rna_template_table_add_clean rna stored⟩
  | replaceTemplate replaced =>
      refine ⟨?_, membrane_replace_template_clean rna replaced⟩
      rcases replace_template_ok replaced with ⟨_, templates, _, rfl⟩
      exact ribosome
  | removeTemplate removed =>
      refine ⟨?_, membrane_remove_template_clean rna removed⟩
      rcases remove_template_ok removed with ⟨_, _, templates, _, rfl⟩
      exact ribosome

theorem Sound.edited {membrane next : Membrane} (sound : membrane.Sound)
    (edited : membrane.Edit next) : next.Sound := by
  obtain ⟨refers, ready⟩ := membrane_edit_refers sound.ready sound.refers edited
  obtain ⟨ribosome, rna⟩ := edit_clean sound.ribosome sound.rna edited
  exact ⟨ready, ribosome, rna, refers⟩

theorem ReachedFrom.sound {storage : AdminStorage} (referential : storage.Referential)
    {membrane : Membrane} (reached : membrane.ReachedFrom storage) : membrane.Sound := by
  obtain ⟨table, templates, ribosome, rna, refers⟩ := referential
  induction reached with
  | @loaded ribosomeFault rnaFault membrane loaded =>
      unfold Membrane.init at loaded
      simp only at loaded
      split at loaded
      · cases loaded
      · rename_i loadedTable readTable
        split at loaded
        · cases loaded
        · rename_i loadedTemplates readTemplates
          cases loaded
          have sameTable : loadedTable = table := by
            have plain := store_load_or_init_unfaulted readTable
            exact Except.ok.inj (plain.symm.trans ribosome)
          have sameTemplates : loadedTemplates = templates := by
            have plain := store_load_or_init_unfaulted readTemplates
            exact Except.ok.inj (plain.symm.trans rna)
          subst sameTable sameTemplates
          exact ⟨rfl, ribosome_store_load_or_init_clean ribosome,
            rna_membrane_load_or_init_clean rna, refers⟩
  | edited _ edited sound => exact sound.edited edited

end Membrane

/-! ## What a save leaves -/

theorem AdminStorage.Effective.referential_iff {storage : AdminStorage} {table : RibosomeTable}
    {templates : RnaTemplateTable} (effective : storage.Effective table templates) :
    storage.Referential ↔ table.RefersTo templates := by
  constructor
  · rintro ⟨other, others, ribosome, rna, refers⟩
    rw [effective.ribosome] at ribosome
    rw [effective.rna] at rna
    cases ribosome
    cases rna
    exact refers
  · intro refers
    exact ⟨table, templates, effective.ribosome, effective.rna, refers⟩

def AdminStorage.templatesInEffect (storage : AdminStorage) : RnaTemplateTable :=
  match rnaMembraneLoadOrInit none storage.rna with
  | .ok templates => templates
  | .error _ => rnaTemplateTableInit

theorem AdminStorage.Effective.templates {storage : AdminStorage} {table : RibosomeTable}
    {templates : RnaTemplateTable} (effective : storage.Effective table templates) :
    storage.templatesInEffect = templates := by
  rw [AdminStorage.templatesInEffect, effective.rna]

theorem refers_to_empty {table : RibosomeTable} {templates others : RnaTemplateTable}
    (empty : templates.count = 0) (refers : table.RefersTo templates) : table.RefersTo others := by
  intro entry member
  have found := refers entry member
  obtain ⟨_, template, isLive, _⟩ := (find_is_some_iff (find_bounded found) _).mp found
  have none : templates.live = [] := by
    simp [RnaTemplateTable.live, PrefixArray.live, empty]
  rw [none] at isLive
  cases isLive

/-- After a write of templates, the table in effect is the new one if the write took effect;
an empty table is not written. -/
theorem rna_save_in_effect {stored : Option Bytes} {templates next : RnaTemplateTable}
    (inEffect : rnaMembraneLoadOrInit none stored = .ok templates) (clean : next.Clean)
    (write : NvsWrite) :
    rnaMembraneLoadOrInit none (rnaMembraneSave write stored next).2 =
      .ok (if write.takesEffect = true ∧ next.count ≠ 0 then next else templates) := by
  by_cases empty : next.count = 0
  · have refused : rnaTableToBlob next = .error .invalidArg := if_pos (Or.inr empty)
    rw [rnaMembraneSave, refused, if_neg (fun both => both.2 empty)]
    exact inEffect
  · rw [rna_membrane_save_clean clean empty]
    cases write with
    | committed =>
        rw [if_pos ⟨rfl, empty⟩]
        exact rna_membrane_load_image clean empty
    | failed err visible =>
        cases visible with
        | true =>
            rw [if_pos ⟨rfl, empty⟩]
            exact rna_membrane_load_image clean empty
        | false =>
            rw [if_neg (fun both => Bool.false_ne_true both.1)]
            exact inEffect

theorem save_effective {storage : AdminStorage} {table : RibosomeTable}
    {templates : RnaTemplateTable} (effective : storage.Effective table templates)
    {membrane : Membrane} (sound : membrane.Sound) (ribosomeWrite rnaWrite : NvsWrite) :
    (membrane.save ribosomeWrite rnaWrite storage).2.Effective
      (if ribosomeWrite.takesEffect = true then membrane.ribosomeTable else table)
      (if ribosomeWrite.succeeds = true then
        if rnaWrite.takesEffect = true ∧ membrane.rnaTemplates.count ≠ 0 then
          membrane.rnaTemplates
        else templates
      else templates) := by
  have newRibosome := ribosome_store_load_image sound.ribosome
  unfold Membrane.save
  rw [sound.ready, ribosome_store_save_clean sound.ribosome]
  cases ribosomeWrite with
  | failed err visible =>
      cases visible with
      | true => exact ⟨newRibosome, effective.rna⟩
      | false => exact effective
  | committed => exact ⟨newRibosome, rna_save_in_effect effective.rna sound.rna rnaWrite⟩

/-- Whatever was stored and whatever was edited since, the stored tables agree after a save,
whether it succeeds or fails, exactly when new devices that stand beside the old templates
refer to these. -/
theorem save_keeps_references_iff {storage : AdminStorage} (referential : storage.Referential)
    {membrane : Membrane} (reached : membrane.ReachedFrom storage)
    (ribosomeWrite rnaWrite : NvsWrite) :
    (membrane.save ribosomeWrite rnaWrite storage).2.Referential ↔
      (ribosomeWrite.takesEffect = true →
        ¬ (ribosomeWrite.succeeds = true ∧ rnaWrite.takesEffect = true) →
        membrane.ribosomeTable.RefersTo storage.templatesInEffect) := by
  have sound := reached.sound referential
  obtain ⟨table, templates, ribosome, rna, refers⟩ := referential
  have effective : storage.Effective table templates := ⟨ribosome, rna⟩
  rw [(save_effective effective sound ribosomeWrite rnaWrite).referential_iff,
    effective.templates]
  by_cases first : ribosomeWrite.takesEffect = true
  · by_cases second : ribosomeWrite.succeeds = true ∧ rnaWrite.takesEffect = true
    · -- Both writes took effect; only an empty table of templates was left unwritten.
      rw [if_pos first, if_pos second.1]
      constructor
      · intro _ _ unwritten
        exact absurd second unwritten
      · intro _
        split_ifs with written
        · exact sound.refers
        · have empty : membrane.rnaTemplates.count = 0 := by
            by_contra nonempty
            exact written ⟨second.2, nonempty⟩
          exact refers_to_empty empty sound.refers
    · have oldTemplates : (if ribosomeWrite.succeeds = true then
          if rnaWrite.takesEffect = true ∧ membrane.rnaTemplates.count ≠ 0 then
            membrane.rnaTemplates
          else templates
        else templates) = templates := by
        split_ifs with succeeded written
        · exact absurd ⟨succeeded, written.1⟩ second
        · rfl
        · rfl
      rw [if_pos first, oldTemplates]
      exact ⟨fun kept _ _ => kept, fun condition => condition first second⟩
  · have unwritten : ribosomeWrite.succeeds ≠ true := by
      cases ribosomeWrite with
      | committed => exact absurd rfl first
      | failed err visible => exact Bool.false_ne_true
    rw [if_neg first, if_neg unwritten]
    exact ⟨fun _ took => absurd took first, fun _ => refers⟩

/-! ## A dangling reference -/

def factoryMembrane : Membrane :=
  ⟨ribosomeTableInit, AdminStorage.templatesInEffect ⟨none, none, none⟩, true⟩

def garageTemplate : RnaTemplate := rnaDefaultTemplate 100 "GARAGE" [aminoOpen, aminoClose]

def garageRegistration : RibosomeEntryConfig :=
  ⟨CString.utf8 "garage01" ++ [0], garageTemplate.id, 1, List.Vector.replicate 32 9⟩

def garageTemplates : Membrane :=
  (factoryMembrane.addTemplate garageTemplate).toOption.getD factoryMembrane

def garageMembrane : Membrane := (garageTemplates.addDevice garageRegistration).2

theorem garage_membrane_reached : garageMembrane.ReachedFrom ⟨none, none, none⟩ := by
  have loaded : factoryMembrane.ReachedFrom ⟨none, none, none⟩ := by
    obtain ⟨templates, defaults⟩ := rna_membrane_defaults_load
    have ribosome : ribosomeStoreLoadOrInit none none = .ok ribosomeTableInit :=
      store_load_or_init_missing
    have rna : rnaMembraneLoadOrInit none none = .ok templates :=
      store_load_or_init_missing.trans defaults
    apply @Membrane.ReachedFrom.loaded _ none none
    rw [Membrane.init, ribosome, rna, factoryMembrane, AdminStorage.templatesInEffect, rna]
  have added : factoryMembrane.addTemplate garageTemplate = .ok garageTemplates := by
    have accepted : (factoryMembrane.addTemplate garageTemplate).toOption.isSome = true := by
      decide +kernel
    unfold garageTemplates
    cases outcome : factoryMembrane.addTemplate garageTemplate with
    | error err =>
        rw [outcome] at accepted
        cases accepted
    | ok next => rfl
  exact (loaded.edited (.addTemplate added)).edited (.addDevice garageRegistration)

/-- The devices are stored, the templates are not: the new device refers to nothing. -/
theorem failed_save_dangles :
    AdminStorage.Referential ⟨none, none, none⟩ ∧
      garageMembrane.ReachedFrom ⟨none, none, none⟩ ∧
      (garageMembrane.save .committed (.failed .fail false) ⟨none, none, none⟩).1 = .error .fail ∧
      ¬ (garageMembrane.save .committed (.failed .fail false)
        ⟨none, none, none⟩).2.Referential := by
  have stored := empty_storage_referential none
  have sound := garage_membrane_reached.sound stored
  refine ⟨stored, garage_membrane_reached, ?_, ?_⟩
  · have nonempty : garageMembrane.rnaTemplates.count ≠ 0 := by decide +kernel
    rw [Membrane.save, sound.ready, ribosome_store_save_clean sound.ribosome,
      rna_membrane_save_clean sound.rna nonempty]
    rfl
  · have dangling : ¬ garageMembrane.ribosomeTable.RefersTo
        (AdminStorage.templatesInEffect ⟨none, none, none⟩) := by
      unfold RibosomeTable.RefersTo
      decide +kernel
    obtain ⟨table, templates, ribosome, rna, refers⟩ := stored
    have effective : AdminStorage.Effective ⟨none, none, none⟩ table templates := ⟨ribosome, rna⟩
    rw [(save_effective effective sound _ _).referential_iff, ← effective.templates]
    exact dangling

theorem garage_save_keeps_references :
    (garageMembrane.save .committed .committed ⟨none, none, none⟩).2.Referential :=
  (save_keeps_references_iff (empty_storage_referential none) garage_membrane_reached
    .committed .committed).mpr fun _ unwritten => absurd ⟨rfl, rfl⟩ unwritten

end BlindNet
