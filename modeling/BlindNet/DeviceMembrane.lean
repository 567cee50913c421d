import BlindNet.Referential

/-!
# Configuring the membrane of one device

`/device/membrane/set` writes a template and points one device at it. The template
is saved first and nothing takes it back, so a request that fails at the second
save has changed the stored templates. Templates are shared: whatever a request
writes under an id holds for every device that has this id.
-/

namespace BlindNet

set_option autoImplicit false

open ByteLayout EventMachine

/-- What a request works with once its checks are passed: the device and the template
it names, the tables it loads, and the tables it is about to save. -/
structure DeviceEdit where
  client : Bytes
  template : RnaTemplate
  table : RibosomeTable
  templates : RnaTemplateTable
  nextTable : RibosomeTable
  nextTemplates : RnaTemplateTable

def bodyTemplate (body : Bytes) : Option RnaTemplate :=
  match formGetValue body "template_id" 16, formGetValue body "template_name" 32,
    formGetValue body "amino_ids" 64 with
  | some templateText, some templateName, some aminoText =>
      (buildTemplateFromFields templateText templateName aminoText).toOption
  | _, _, _ => none

/-- A request that gets as far as its first save. -/
structure ConfiguresDevice (env : AdminEnvironment) (server : AdminServer) (storage : AdminStorage)
    (request : RequestBody) (edit : DeviceEdit) : Prop where
  admitted : server.maintenanceGate env = none
  described : ∃ body, readRequestBody request adminPostBufSize = .ok body ∧
    formGetValue body "mqtt_client_id" 33 = some edit.client ∧
    bodyTemplate body = some edit.template
  loadedTable : ribosomeStoreLoadOrInit env.ribosomeFault storage.ribosome = .ok edit.table
  loadedTemplates : rnaMembraneLoadOrInit env.rnaFault storage.rna = .ok edit.templates
  upserted : rnaTemplateTableUpsert edit.templates edit.template = .ok edit.nextTemplates
  assigned : ribosomeAssignTemplate edit.table (edit.client ++ [0]) edit.template.id =
    .ok edit.nextTable

def saveDeviceEdit (env : AdminEnvironment) (storage : AdminStorage) (edit : DeviceEdit) :
    TableOutcome :=
  let saved := rnaMembraneSave env.rnaWrite storage.rna edit.nextTemplates
  let stored := { storage with rna := saved.2 }
  match saved.1 with
  | .error err => ⟨.refused err .internalServerError "template save failed", [stored]⟩
  | .ok () =>
      let assigned := saveRibosomes env stored edit.nextTable "device save failed"
        (.sent "device membrane configured")
      ⟨assigned.answer, stored :: assigned.writes⟩

def TableOutcome.final (outcome : TableOutcome) (storage : AdminStorage) : AdminStorage :=
  outcome.writes.getLastD storage

theorem ConfiguresDevice.outcome {env : AdminEnvironment} {server : AdminServer}
    {storage : AdminStorage} {request : RequestBody} {edit : DeviceEdit}
    (configures : ConfiguresDevice env server storage request edit) :
    deviceMembraneSetPostHandler env server storage request = saveDeviceEdit env storage edit := by
  rcases configures.described with ⟨body, read, client, described⟩
  unfold bodyTemplate at described
  split at described
  · rename_i templateText templateName aminoText isId isName isAminos
    have built : buildTemplateFromFields templateText templateName aminoText =
        .ok edit.template := by
      cases answer : buildTemplateFromFields templateText templateName aminoText with
      | error err => simp [answer, Except.toOption] at described
      | ok template => simpa [answer, Except.toOption] using described
    unfold deviceMembraneSetPostHandler AdminServer.gated
    simp only [configures.admitted, read, client, isId, isName, isAminos, built,
      configures.loadedTable, configures.loadedTemplates, configures.upserted,
      configures.assigned]
    rfl
  · cases described

/-- Answered with an error before anything is written. -/
def TableOutcome.Rejected (outcome : TableOutcome) : Prop :=
  outcome.answer.result ≠ .ok () ∧ outcome.writes = []

theorem refused_rejected (err : EspErr) (status : HttpStatus) (message : String) :
    (TableOutcome.refused err status message).Rejected :=
  ⟨by simp [TableOutcome.refused, AdminAnswer.refused], rfl⟩

theorem gated_cases (env : AdminEnvironment) (server : AdminServer) (request : RequestBody)
    (handler : Bytes → TableOutcome) :
    (server.maintenanceGate env = none ∧
      ∃ body, readRequestBody request adminPostBufSize = .ok body ∧
        server.gated env request handler = handler body) ∨
    (server.gated env request handler).Rejected := by
  unfold AdminServer.gated
  cases gate : server.maintenanceGate env with
  | some answer =>
      right
      unfold AdminServer.maintenanceGate at gate
      split_ifs at gate <;> cases gate <;> exact refused_rejected _ _ _
  | none =>
      cases read : readRequestBody request adminPostBufSize with
      | error err => exact Or.inr (refused_rejected _ _ _)
      | ok body => exact Or.inl ⟨rfl, body, rfl, rfl⟩

theorem device_membrane_set_cases (env : AdminEnvironment) (server : AdminServer)
    (storage : AdminStorage) (request : RequestBody) :
    (∃ edit, ConfiguresDevice env server storage request edit) ∨
      (deviceMembraneSetPostHandler env server storage request).Rejected := by
  unfold deviceMembraneSetPostHandler
  rcases gated_cases env server request _ with ⟨admitted, body, read, handled⟩ | rejected
  · rw [handled]
    split
    · rename_i client templateText templateName aminoText isClient isId isName isAminos
      split
      · exact Or.inr (refused_rejected _ _ _)
      · rename_i template built
        have described : bodyTemplate body = some template := by
          simp only [bodyTemplate, isId, isName, isAminos, built]
          rfl
        split
        · exact Or.inr (refused_rejected _ _ _)
        · exact Or.inr (refused_rejected _ _ _)
        · rename_i table templates loadedTable loadedTemplates
          split
          · exact Or.inr (refused_rejected _ _ _)
          · rename_i nextTemplates upserted
            split
            · exact Or.inr (refused_rejected _ _ _)
            · rename_i nextTable assigned
              exact Or.inl ⟨⟨client, template, table, templates, nextTable, nextTemplates⟩,
                admitted, ⟨body, read, isClient, described⟩, loadedTable, loadedTemplates,
                upserted, assigned⟩
    · exact Or.inr (refused_rejected _ _ _)
  · exact Or.inr rejected

/-! ## What the edits change -/

theorem same_client_id_terminated (first second : Bytes) :
    sameClientId first (second ++ [0]) = sameClientId first second := by
  have text : CString.text ((second ++ [0]).take ribosomeMqttClientIdLen) =
      CString.text (second.take ribosomeMqttClientIdLen) := by
    rw [List.take_append]
    cases ribosomeMqttClientIdLen - second.length with
    | zero => simp
    | succ room => exact CString.text_append_nul _ _
  rw [sameClientId, sameClientId, text]

def RibosomeTable.assignedTo (table : RibosomeTable) (client : Bytes) : Option UInt16 :=
  (table.live.find? fun entry => sameClientId entry.mqttClientId.toList client).map (·.templateId)

theorem assign_cases {table next : RibosomeTable} {client : Bytes} {templateId : UInt16}
    (assigned : ribosomeAssignTemplate table (client ++ [0]) templateId = .ok next) :
    ∃ entries, PrefixArray.modifyFirst (fun entry => sameClientId entry.mqttClientId.toList client)
        (fun entry => { entry with templateId := templateId }) table.entries table.count =
        some entries ∧ next = { table with entries := entries } := by
  unfold ribosomeAssignTemplate at assigned
  simp only [same_client_id_terminated] at assigned
  rw [guard_ok] at assigned
  split at assigned
  · cases assigned.2
  · rename_i entries modified
    cases assigned.2
    exact ⟨entries, modified, rfl⟩

theorem assign_assigned_to {table next : RibosomeTable} {client : Bytes} {templateId : UInt16}
    (assigned : ribosomeAssignTemplate table (client ++ [0]) templateId = .ok next) :
    next.assignedTo client = some templateId ∧
      ∀ other, sameClientId other client = false →
        next.assignedTo other = table.assignedTo other := by
  rcases assign_cases assigned with ⟨entries, modified, rfl⟩
  rcases PrefixArray.modify_first_some modified with ⟨before, value, after, first, written, _⟩
  have live : RibosomeTable.live { table with entries := entries } =
      before ++ { value with templateId := templateId } :: after := written
  unfold RibosomeTable.assignedTo
  rw [live]
  constructor
  · have found := first.find_written
      (show sameClientId (RibosomeTableEntry.mqttClientId { value with templateId := templateId
        }).toList client = true from first.found)
    rw [found]
    rfl
  · intro other different
    have apart : sameClientId value.mqttClientId.toList other = false := by
      have same := first.found
      unfold sameClientId at same different ⊢
      rw [beq_iff_eq.mp same]
      rw [beq_eq_false_iff_ne] at different ⊢
      exact Ne.symm different
    have others : (before ++ { value with templateId := templateId } :: after).find?
        (fun entry => sameClientId entry.mqttClientId.toList other) =
        table.live.find? (fun entry => sameClientId entry.mqttClientId.toList other) :=
      first.find_other apart apart
    rw [others]

theorem assign_unchanged_iff {table next : RibosomeTable} {client : Bytes} {templateId : UInt16}
    (assigned : ribosomeAssignTemplate table (client ++ [0]) templateId = .ok next) :
    next = table ↔ table.assignedTo client = some templateId := by
  constructor
  · intro same
    rw [← (assign_assigned_to assigned).1, same]
  · intro already
    rcases assign_cases assigned with ⟨entries, modified, rfl⟩
    have same : entries = table.entries := by
      rw [PrefixArray.modify_first_unchanged_iff modified]
      intro entry found
      have isId : entry.templateId = templateId := by
        unfold RibosomeTable.assignedTo RibosomeTable.live at already
        rw [found] at already
        exact Option.some.inj already
      rw [← isId]
    rw [same]

theorem upsert_unchanged_iff {table next : RnaTemplateTable} {template : RnaTemplate}
    (bounded : table.count ≤ rnaMaxTemplates)
    (upserted : rnaTemplateTableUpsert table template = .ok next) :
    next = table ↔
      rnaTemplateTableFind table template.id = some (copyTemplateSanitized template) := by
  constructor
  · intro same
    rw [← (upsert_find bounded upserted).1, same]
  · intro already
    rcases upsert_cases upserted with ⟨lawful, ⟨templates, replaced, rfl⟩ | added⟩
    · have same : templates = table.templates := by
        rw [PrefixArray.modify_first_unchanged_iff replaced]
        intro value found
        rw [find_live bounded, if_pos lawful.identified] at already
        exact Option.some.inj (already.symm.trans found)
      rw [same]
    · -- a template that is found is not added behind the others
      rcases (rna_template_table_add_ok_iff bounded).mp added with ⟨_, fresh, _⟩
      rcases rna_template_table_find_spec already with ⟨member, _, _⟩
      exact absurd rfl (fresh (copyTemplateSanitized template) member)

/-! ## All or nothing -/

theorem ConfiguresDevice.clean {env : AdminEnvironment} {server : AdminServer}
    {storage : AdminStorage} {request : RequestBody} {edit : DeviceEdit}
    (configures : ConfiguresDevice env server storage request edit) :
    edit.nextTable.Clean ∧ edit.nextTemplates.Clean ∧ edit.nextTemplates.count ≠ 0 := by
  have table := ribosome_store_load_or_init_clean configures.loadedTable
  have templates := rna_membrane_load_or_init_clean configures.loadedTemplates
  exact ⟨ribosome_assign_template_clean table configures.assigned,
    rna_template_table_upsert_clean templates configures.upserted,
    (upsert_keeps_ids templates.bounded configures.upserted).2.2.1⟩

theorem ConfiguresDevice.writes {env : AdminEnvironment} {server : AdminServer}
    {storage : AdminStorage} {request : RequestBody} {edit : DeviceEdit}
    (configures : ConfiguresDevice env server storage request edit) :
    deviceMembraneSetPostHandler env server storage request =
      match env.rnaWrite with
      | .failed err visible =>
          ⟨.refused err .internalServerError "template save failed",
            [{ storage with
                rna := if visible then some edit.nextTemplates.image else storage.rna }]⟩
      | .committed =>
          match env.ribosomeWrite with
          | .failed err visible =>
              ⟨.refused err .internalServerError "device save failed",
                [{ storage with rna := some edit.nextTemplates.image },
                  { storage with
                    rna := some edit.nextTemplates.image
                    ribosome := if visible then some edit.nextTable.image else storage.ribosome }]⟩
          | .committed =>
              ⟨⟨.ok (), .sent "device membrane configured"⟩,
                [{ storage with rna := some edit.nextTemplates.image },
                  { storage with
                    rna := some edit.nextTemplates.image
                    ribosome := some edit.nextTable.image }]⟩ := by
  rcases configures.clean with ⟨table, templates, nonempty⟩
  rw [configures.outcome]
  unfold saveDeviceEdit saveRibosomes
  simp only [rna_membrane_save_clean templates nonempty, ribosome_store_save_clean table]
  cases env.rnaWrite with
  | failed err visible => rfl
  | committed =>
      cases env.ribosomeWrite with
      | failed err visible => rfl
      | committed => rfl

/-- An error leaves both tables stored as they were. -/
def AllOrNothing (env : AdminEnvironment) (server : AdminServer) (storage : AdminStorage)
    (request : RequestBody) : Prop :=
  let outcome := deviceMembraneSetPostHandler env server storage request
  outcome.answer.result ≠ .ok () →
    (outcome.final storage).ribosome = storage.ribosome ∧
      (outcome.final storage).rna = storage.rna

/-- The templates are stored as the firmware writes them, with the submitted template
among them. -/
def DeviceEdit.TemplateStored (edit : DeviceEdit) (storage : AdminStorage) : Prop :=
  storage.rna = some edit.templates.image ∧
    rnaTemplateTableFind edit.templates edit.template.id =
      some (copyTemplateSanitized edit.template)

/-- The devices are stored as the firmware writes them, and the device has the
submitted template. -/
def DeviceEdit.DeviceStored (edit : DeviceEdit) (storage : AdminStorage) : Prop :=
  storage.ribosome = some edit.table.image ∧
    edit.table.assignedTo edit.client = some edit.template.id

/-- A failed write leaves the old bytes, or they are the bytes to write; the device
table is only written over templates that are stored already, if that write fails. -/
def DeviceEdit.Harmless (edit : DeviceEdit) (env : AdminEnvironment) (storage : AdminStorage) :
    Prop :=
  match env.rnaWrite, env.ribosomeWrite with
  | .failed _ visible, _ => visible = true → edit.TemplateStored storage
  | .committed, .failed _ visible =>
      edit.TemplateStored storage ∧ (visible = true → edit.DeviceStored storage)
  | .committed, .committed => True

theorem ConfiguresDevice.template_stored_iff {env : AdminEnvironment} {server : AdminServer}
    {storage : AdminStorage} {request : RequestBody} {edit : DeviceEdit}
    (configures : ConfiguresDevice env server storage request edit) :
    some edit.nextTemplates.image = storage.rna ↔ edit.TemplateStored storage := by
  rcases configures.clean with ⟨_, clean, nonempty⟩
  have bounded := (rna_membrane_load_or_init_clean configures.loadedTemplates).bounded
  have unchanged := upsert_unchanged_iff bounded configures.upserted
  constructor
  · intro stored
    have loaded : rnaMembraneLoadOrInit none storage.rna = .ok edit.templates :=
      store_load_or_init_unfaulted configures.loadedTemplates
    rw [← stored, rna_membrane_load_image clean nonempty] at loaded
    have same : edit.nextTemplates = edit.templates := Except.ok.inj loaded
    exact ⟨by rw [← stored, same], unchanged.mp same⟩
  · rintro ⟨stored, already⟩
    rw [stored, unchanged.mpr already]

theorem ConfiguresDevice.device_stored_iff {env : AdminEnvironment} {server : AdminServer}
    {storage : AdminStorage} {request : RequestBody} {edit : DeviceEdit}
    (configures : ConfiguresDevice env server storage request edit) :
    some edit.nextTable.image = storage.ribosome ↔ edit.DeviceStored storage := by
  have unchanged := assign_unchanged_iff configures.assigned
  constructor
  · intro stored
    have loaded : ribosomeStoreLoadOrInit none storage.ribosome = .ok edit.table :=
      store_load_or_init_unfaulted configures.loadedTable
    rw [← stored, ribosome_store_load_image configures.clean.1] at loaded
    have same : edit.nextTable = edit.table := Except.ok.inj loaded
    exact ⟨by rw [← stored, same], unchanged.mp same⟩
  · rintro ⟨stored, already⟩
    rw [stored, unchanged.mpr already]

theorem ConfiguresDevice.all_or_nothing_iff {env : AdminEnvironment} {server : AdminServer}
    {storage : AdminStorage} {request : RequestBody} {edit : DeviceEdit}
    (configures : ConfiguresDevice env server storage request edit) :
    AllOrNothing env server storage request ↔ edit.Harmless env storage := by
  unfold AllOrNothing DeviceEdit.Harmless
  rw [configures.writes]
  cases env.rnaWrite with
  | failed err visible =>
      cases visible with
      | false => simp [TableOutcome.final]
      | true =>
          simpa [TableOutcome.final, AdminAnswer.refused] using configures.template_stored_iff
  | committed =>
      cases env.ribosomeWrite with
      | failed err visible =>
          cases visible with
          | false =>
              simpa [TableOutcome.final, AdminAnswer.refused] using configures.template_stored_iff
          | true =>
              have both := and_congr configures.template_stored_iff configures.device_stored_iff
              simpa [TableOutcome.final, AdminAnswer.refused, and_comm] using both
      | committed => simp

/-- Only a request that fails after it has begun to write, and had something to change,
leaves a changed table behind. -/
theorem device_membrane_set_all_or_nothing_iff (env : AdminEnvironment) (server : AdminServer)
    (storage : AdminStorage) (request : RequestBody) :
    AllOrNothing env server storage request ↔
      ∀ edit, ConfiguresDevice env server storage request edit → edit.Harmless env storage := by
  constructor
  · intro whole edit configures
    exact configures.all_or_nothing_iff.mp whole
  · intro all
    rcases device_membrane_set_cases env server storage request with
      ⟨edit, configures⟩ | ⟨_, unwritten⟩
    · exact configures.all_or_nothing_iff.mpr (all edit configures)
    · intro _
      rw [TableOutcome.final, unwritten]
      exact ⟨rfl, rfl⟩

def twoDoors : RibosomeTable :=
  (ribosomeTableAddFromConfig (ribosomeTableAddFromConfig ribosomeTableInit doorRegistration).2
    { doorRegistration with mqttClientId := CString.utf8 "door02" ++ [0] }).2

def doorEnvironment (ribosomeWrite : NvsWrite) : AdminEnvironment :=
  { benchAdminEnvironment 7 with ribosomeWrite := ribosomeWrite }

def twoDoorStorage : AdminStorage := { benchAdminStorage with ribosome := some twoDoors.image }

def unlockedServer : AdminServer :=
  { AdminServer.boot with server := true, running := true, unlocked := true, mode := .maintenance }

def openOnly : RequestBody :=
  .complete (CString.utf8 "mqtt_client_id=door01&template_id=3&template_name=DOOR&amino_ids=3")

def openOnlyTemplate : RnaTemplate := rnaDefaultTemplate rnaTemplateIdDoor "DOOR" [aminoOpen]

def openOnlyEdit : DeviceEdit where
  client := CString.utf8 "door01"
  template := openOnlyTemplate
  table := twoDoors
  templates := doorMembrane.rnaTemplates
  nextTable := ((ribosomeAssignTemplate twoDoors (CString.utf8 "door01" ++ [0])
    rnaTemplateIdDoor).toOption).getD twoDoors
  nextTemplates := ((rnaTemplateTableUpsert doorMembrane.rnaTemplates
    openOnlyTemplate).toOption).getD doorMembrane.rnaTemplates

theorem two_doors_clean : twoDoors.Clean :=
  ribosome_table_add_from_config_clean
    (ribosome_table_add_from_config_clean ribosome_table_init_clean _) _

theorem default_templates_loaded :
    rnaMembraneLoadOrInit none none = .ok doorMembrane.rnaTemplates := by
  decide +kernel

theorem open_only_configures (ribosomeWrite : NvsWrite) :
    ConfiguresDevice (doorEnvironment ribosomeWrite) unlockedServer twoDoorStorage openOnly
      openOnlyEdit where
  admitted := rfl
  described := ⟨_, rfl, by decide +kernel, by decide +kernel⟩
  loadedTable := ribosome_store_load_image two_doors_clean
  loadedTemplates := default_templates_loaded
  upserted := by decide +kernel
  assigned := by decide +kernel

/-- The device table cannot be written: the request fails, and the templates have changed. -/
theorem failed_request_changes_templates :
    ¬ AllOrNothing (doorEnvironment (.failed .fail false)) unlockedServer twoDoorStorage
      openOnly := by
  intro whole
  have harmless := (open_only_configures (.failed .fail false)).all_or_nothing_iff.mp whole
  have stored : (none : Option Bytes) = some openOnlyEdit.templates.image := harmless.1.1
  cases stored

/-! ## Whose permissions change -/

def RnaTemplateTable.allows (templates : RnaTemplateTable) (templateId : UInt16)
    (aminoId : Int32) : Bool :=
  match rnaTemplateTableFind templates templateId with
  | some template => rnaTemplateAllows template aminoId
  | none => false

def AdminStorage.assignedTo (storage : AdminStorage) (client : Bytes) : Option UInt16 :=
  match ribosomeStoreLoadOrInit none storage.ribosome with
  | .ok table => table.assignedTo client
  | .error _ => none

def AdminStorage.deviceAllows (storage : AdminStorage) (client : Bytes) (aminoId : Int32) :
    Option Bool :=
  match rnaMembraneLoadOrInit none storage.rna with
  | .ok templates => (storage.assignedTo client).map (templates.allows · aminoId)
  | .error _ => none

theorem AdminStorage.Effective.assigned_to {storage : AdminStorage} {table : RibosomeTable}
    {templates : RnaTemplateTable} (effective : storage.Effective table templates)
    (client : Bytes) : storage.assignedTo client = table.assignedTo client := by
  rw [AdminStorage.assignedTo, effective.ribosome]

theorem AdminStorage.Effective.device_allows {storage : AdminStorage} {table : RibosomeTable}
    {templates : RnaTemplateTable} (effective : storage.Effective table templates)
    (client : Bytes) (aminoId : Int32) :
    storage.deviceAllows client aminoId =
      (table.assignedTo client).map (templates.allows · aminoId) := by
  rw [AdminStorage.deviceAllows, effective.rna]
  simp only [effective.assigned_to]

theorem upsert_allows {table next : RnaTemplateTable} {template : RnaTemplate}
    (bounded : table.count ≤ rnaMaxTemplates)
    (upserted : rnaTemplateTableUpsert table template = .ok next) (templateId : UInt16)
    (aminoId : Int32) :
    next.allows templateId aminoId =
      if templateId = template.id then rnaTemplateAllows template aminoId
      else table.allows templateId aminoId := by
  rcases upsert_find bounded upserted with ⟨new, others⟩
  unfold RnaTemplateTable.allows
  by_cases same : templateId = template.id
  · rw [if_pos same, same, new]
    rfl
  · rw [if_neg same, others templateId same]

theorem ConfiguresDevice.effective {env : AdminEnvironment} {server : AdminServer}
    {storage : AdminStorage} {request : RequestBody} {edit : DeviceEdit}
    (configures : ConfiguresDevice env server storage request edit) :
    storage.Effective edit.table edit.templates :=
  ⟨store_load_or_init_unfaulted configures.loadedTable,
    store_load_or_init_unfaulted configures.loadedTemplates⟩

theorem ConfiguresDevice.next_effective {env : AdminEnvironment} {server : AdminServer}
    {storage : AdminStorage} {request : RequestBody} {edit : DeviceEdit}
    (configures : ConfiguresDevice env server storage request edit)
    (succeeded : (deviceMembraneSetPostHandler env server storage request).answer.result = .ok ()) :
    ((deviceMembraneSetPostHandler env server storage request).final storage).Effective
      edit.nextTable edit.nextTemplates := by
  rcases configures.clean with ⟨table, templates, nonempty⟩
  rw [configures.writes] at succeeded ⊢
  cases rna : env.rnaWrite with
  | failed err visible => simp [rna, AdminAnswer.refused] at succeeded
  | committed =>
      cases ribosome : env.ribosomeWrite with
      | failed err visible => simp [rna, ribosome, AdminAnswer.refused] at succeeded
      | committed =>
          exact ⟨ribosome_store_load_image table, rna_membrane_load_image templates nonempty⟩

/-- What a configuring request leaves every other device: the permissions it had, unless
it has the template that the request writes. -/
theorem ConfiguresDevice.others_allow {env : AdminEnvironment} {server : AdminServer}
    {storage : AdminStorage} {request : RequestBody} {edit : DeviceEdit}
    (configures : ConfiguresDevice env server storage request edit)
    (succeeded : (deviceMembraneSetPostHandler env server storage request).answer.result = .ok ())
    {other : Bytes} (different : sameClientId other edit.client = false) (aminoId : Int32) :
    ((deviceMembraneSetPostHandler env server storage request).final storage).deviceAllows
        other aminoId =
      if storage.assignedTo other = some edit.template.id then
        some (rnaTemplateAllows edit.template aminoId)
      else storage.deviceAllows other aminoId := by
  have before := configures.effective
  have after := configures.next_effective succeeded
  have bounded := (rna_membrane_load_or_init_clean configures.loadedTemplates).bounded
  rw [after.device_allows, before.device_allows, before.assigned_to,
    (assign_assigned_to configures.assigned).2 other different]
  cases edit.table.assignedTo other with
  | none => rfl
  | some templateId =>
      rw [Option.map_some, Option.map_some, upsert_allows bounded configures.upserted]
      by_cases same : templateId = edit.template.id
      · rw [if_pos same, if_pos (congrArg some same)]
      · rw [if_neg same, if_neg (fun shared => same (Option.some.inj shared))]

/-- Configuring one device changes the permissions of exactly the devices that have the
template the request writes, to those of the submitted template. -/
theorem device_membrane_set_permissions {env : AdminEnvironment} {server : AdminServer}
    {storage : AdminStorage} {request : RequestBody}
    (succeeded : (deviceMembraneSetPostHandler env server storage request).answer.result = .ok ()) :
    ∃ edit, ConfiguresDevice env server storage request edit ∧
      ∀ other, sameClientId other edit.client = false → ∀ aminoId,
        ((deviceMembraneSetPostHandler env server storage request).final storage).deviceAllows
            other aminoId =
          if storage.assignedTo other = some edit.template.id then
            some (rnaTemplateAllows edit.template aminoId)
          else storage.deviceAllows other aminoId := by
  rcases device_membrane_set_cases env server storage request with
    ⟨edit, configures⟩ | ⟨failed, _⟩
  · exact ⟨edit, configures, fun _ different aminoId =>
      configures.others_allow succeeded different aminoId⟩
  · exact absurd succeeded failed

/-- The second door is not named in the request, and cannot be closed any more. -/
theorem shared_template_restricts_other_door :
    (deviceMembraneSetPostHandler (doorEnvironment .committed) unlockedServer twoDoorStorage
        openOnly).answer.result = .ok () ∧
      sameClientId (CString.utf8 "door02") (CString.utf8 "door01") = false ∧
      twoDoorStorage.deviceAllows (CString.utf8 "door02") aminoClose = some true ∧
      ((deviceMembraneSetPostHandler (doorEnvironment .committed) unlockedServer twoDoorStorage
        openOnly).final twoDoorStorage).deviceAllows (CString.utf8 "door02") aminoClose =
          some false := by
  have configures := open_only_configures .committed
  have succeeded : (deviceMembraneSetPostHandler (doorEnvironment .committed) unlockedServer
      twoDoorStorage openOnly).answer.result = .ok () := by
    rw [configures.writes]
    rfl
  have different : sameClientId (CString.utf8 "door02") (CString.utf8 "door01") = false := by
    decide +kernel
  refine ⟨succeeded, different, ?_, ?_⟩
  · rw [configures.effective.device_allows]
    decide +kernel
  · rw [(configures.next_effective succeeded).device_allows]
    decide +kernel

theorem open_only_permissions :
    ∃ edit, ConfiguresDevice (doorEnvironment .committed) unlockedServer twoDoorStorage openOnly
        edit ∧
      ∀ other, sameClientId other edit.client = false → ∀ aminoId,
        ((deviceMembraneSetPostHandler (doorEnvironment .committed) unlockedServer twoDoorStorage
            openOnly).final twoDoorStorage).deviceAllows other aminoId =
          if twoDoorStorage.assignedTo other = some edit.template.id then
            some (rnaTemplateAllows edit.template aminoId)
          else twoDoorStorage.deviceAllows other aminoId := by
  apply device_membrane_set_permissions
  rw [(open_only_configures .committed).writes]
  rfl

end BlindNet
