import BlindNet.Membrane

/-!
# Edits of the two tables

Everything that changes a ribosome table or an RNA table after it is loaded: the
removal of `ribosome_table.c`, the upsert, assignment and regeneration of the
admin server, and the operations of the membrane. An operation that answers an
error leaves its table as it was, except where the result says otherwise.
-/

namespace BlindNet

set_option autoImplicit false

open ByteLayout

def ribosomeTableRemoveEntry (table : RibosomeTable) (mqttClientId : Bytes) :
    Result RibosomeTable :=
  if ribosomeMaxEntries < table.count ||
      !stringValid (mqttClientId.take ribosomeMqttClientIdLen) then
    .error .invalidArg
  else
    match PrefixArray.removeFirst (fun entry => sameClientId entry.mqttClientId.toList mqttClientId)
        copyEntrySanitized ribosomeTableClearEntry table.entries table.count with
    | none => .error .notFound
    | some entries => .ok ⟨entries, table.count - 1⟩

def ribosomeAssignTemplate (table : RibosomeTable) (mqttClientId : Bytes) (templateId : UInt16) :
    Result RibosomeTable :=
  if ribosomeMaxEntries < table.count || !rnaTemplateIdValid templateId then
    .error .invalidArg
  else
    match PrefixArray.modifyFirst (fun entry => sameClientId entry.mqttClientId.toList mqttClientId)
        (fun entry => { entry with templateId := templateId }) table.entries table.count with
    | none => .error .notFound
    | some entries => .ok { table with entries := entries }

/-- The bytes drawn from `esp_random`, with the first one set when all are zero. -/
def generateDeviceSecret (random : ByteArr 32) : ByteArr 32 :=
  if random.toList.any (· != 0) then random else random.set 0 1

/-- The entry that `/ribosome/regenerate` finds gets a new secret and the next epoch. -/
def ribosomeRegenerate (table : RibosomeTable) (mqttClientId : Bytes) (random : ByteArr 32) :
    Result RibosomeTable :=
  if ribosomeMaxEntries < table.count then
    .error .notFound
  else
    match PrefixArray.modifyFirst (fun entry => sameClientId entry.mqttClientId.toList mqttClientId)
        (fun entry => { entry with
          deviceSecret := generateDeviceSecret random
          epoch := if entry.epoch = 0xFFFFFFFF then 1 else entry.epoch + 1 })
        table.entries table.count with
    | none => .error .notFound
    | some entries => .ok { table with entries := entries }

/-- The admin server copies the name with `safe_copy`, into a cleared template;
the terminator it writes falls on a zero. -/
def adminCopyTemplateSanitized (source : RnaTemplate) : RnaTemplate :=
  copyTemplateSanitized source

def rnaTemplateTableUpsert (table : RnaTemplateTable) (template : RnaTemplate) :
    Result RnaTemplateTable :=
  if rnaMaxTemplates < table.count then
    .error .invalidArg
  else
    match rnaTemplateValidate template with
    | .error err => .error err
    | .ok () =>
        match PrefixArray.modifyFirst (·.id == template.id)
            (fun _ => adminCopyTemplateSanitized template) table.templates table.count with
        | some templates => .ok { table with templates := templates }
        | none => rnaTemplateTableAdd table template

namespace Membrane

/-- A refused configuration may have cleared the slot behind the last entry. -/
def addDevice (membrane : Membrane) (config : RibosomeEntryConfig) : Result Unit × Membrane :=
  if !membrane.initialized then
    (.error .invalidState, membrane)
  else if (membrane.findTemplate config.templateId).isNone then
    (.error .notFound, membrane)
  else
    let added := ribosomeTableAddFromConfig membrane.ribosomeTable config
    (added.1, { membrane with ribosomeTable := added.2 })

def removeDevice (membrane : Membrane) (mqttClientId : Bytes) : Result Membrane :=
  if !membrane.initialized then
    .error .invalidState
  else
    match ribosomeTableRemoveEntry membrane.ribosomeTable mqttClientId with
    | .error err => .error err
    | .ok table => .ok { membrane with ribosomeTable := table }

def assignTemplate (membrane : Membrane) (mqttClientId : Bytes) (templateId : UInt16) :
    Result Membrane :=
  if !membrane.initialized then
    .error .invalidState
  else if (membrane.findTemplate templateId).isNone then
    .error .notFound
  else if !stringValid (mqttClientId.take ribosomeMqttClientIdLen) then
    .error .invalidArg
  else
    match PrefixArray.modifyFirst (fun entry => sameClientId entry.mqttClientId.toList mqttClientId)
        (fun entry => { entry with templateId := templateId })
        membrane.ribosomeTable.entries membrane.ribosomeTable.count with
    | none => .error .notFound
    | some entries =>
        .ok { membrane with ribosomeTable := { membrane.ribosomeTable with entries := entries } }

def templateInUse (membrane : Membrane) (templateId : UInt16) : Bool :=
  if !membrane.initialized || !rnaTemplateIdValid templateId then
    false
  else
    membrane.ribosomeTable.live.any (·.templateId == templateId)

def addTemplate (membrane : Membrane) (template : RnaTemplate) : Result Membrane :=
  if !membrane.initialized then
    .error .invalidState
  else
    match rnaTemplateTableAdd membrane.rnaTemplates template with
    | .error err => .error err
    | .ok table => .ok { membrane with rnaTemplates := table }

/-- The membrane's own `copy_template_sanitized`: `copy_c_char_buffer` stops at
the NUL or one byte before the end of the cleared name. -/
def copyTemplateSanitized (source : RnaTemplate) : RnaTemplate :=
  BlindNet.copyTemplateSanitized source

def replaceTemplate (membrane : Membrane) (template : RnaTemplate) : Result Membrane :=
  if !membrane.initialized then
    .error .invalidState
  else
    match rnaTemplateValidate template with
    | .error _ => .error .invalidArg
    | .ok () =>
        match PrefixArray.modifyFirst (·.id == template.id)
            (fun _ => copyTemplateSanitized template)
            membrane.rnaTemplates.templates membrane.rnaTemplates.count with
        | none => .error .notFound
        | some templates =>
            .ok { membrane with
              rnaTemplates := { membrane.rnaTemplates with templates := templates } }

def removeTemplate (membrane : Membrane) (templateId : UInt16) : Result Membrane :=
  if !membrane.initialized then
    .error .invalidState
  else if !rnaTemplateIdValid templateId then
    .error .invalidArg
  else if membrane.templateInUse templateId then
    .error .invalidState
  else
    match PrefixArray.removeFirst (·.id == templateId) copyTemplateSanitized rnaTemplateClear
        membrane.rnaTemplates.templates membrane.rnaTemplates.count with
    | none => .error .notFound
    | some templates =>
        .ok { membrane with rnaTemplates := ⟨templates, membrane.rnaTemplates.count - 1⟩ }

/-! ## What a successful call checked and changed -/

variable {membrane next : Membrane} {mqttClientId : Bytes} {templateId : UInt16}
  {template : RnaTemplate}

theorem remove_device_ok (removed : membrane.removeDevice mqttClientId = .ok next) :
    ∃ table, ribosomeTableRemoveEntry membrane.ribosomeTable mqttClientId = .ok table ∧
      next = { membrane with ribosomeTable := table } := by
  unfold removeDevice at removed
  rw [guard_ok] at removed
  split at removed
  · cases removed.2
  · rename_i table taken
    exact ⟨table, taken, (Except.ok.inj removed.2).symm⟩

theorem assign_template_ok (assigned : membrane.assignTemplate mqttClientId templateId = .ok next) :
    (rnaTemplateTableFind membrane.rnaTemplates templateId).isSome = true ∧
      ∃ entries, PrefixArray.modifyFirst
          (fun entry => sameClientId entry.mqttClientId.toList mqttClientId)
          (fun entry => { entry with templateId := templateId })
          membrane.ribosomeTable.entries membrane.ribosomeTable.count = some entries ∧
        next = { membrane with
          ribosomeTable := { membrane.ribosomeTable with entries := entries } } := by
  unfold assignTemplate findTemplate at assigned
  rw [guard_ok, guard_ok, guard_ok] at assigned
  rcases assigned with ⟨ready, present, _, assigned⟩
  rw [if_neg ready] at present
  have found : (rnaTemplateTableFind membrane.rnaTemplates templateId).isSome = true := by
    apply Option.isSome_iff_ne_none.mpr
    simpa using present
  split at assigned
  · cases assigned
  · rename_i entries modified
    exact ⟨found, entries, modified, (Except.ok.inj assigned).symm⟩

theorem add_template_ok (added : membrane.addTemplate template = .ok next) :
    ∃ table, rnaTemplateTableAdd membrane.rnaTemplates template = .ok table ∧
      next = { membrane with rnaTemplates := table } := by
  unfold addTemplate at added
  rw [guard_ok] at added
  split at added
  · cases added.2
  · rename_i table stored
    exact ⟨table, stored, (Except.ok.inj added.2).symm⟩

theorem replace_template_ok (replaced : membrane.replaceTemplate template = .ok next) :
    rnaTemplateValidate template = .ok () ∧
      ∃ templates, PrefixArray.modifyFirst (·.id == template.id)
          (fun _ => copyTemplateSanitized template)
          membrane.rnaTemplates.templates membrane.rnaTemplates.count = some templates ∧
        next = { membrane with
          rnaTemplates := { membrane.rnaTemplates with templates := templates } } := by
  unfold replaceTemplate at replaced
  rw [guard_ok] at replaced
  split at replaced
  · cases replaced.2
  · rename_i valid
    split at replaced
    · cases replaced.2
    · rename_i templates modified
      exact ⟨valid, templates, modified, (Except.ok.inj replaced.2).symm⟩

theorem remove_template_ok (removed : membrane.removeTemplate templateId = .ok next) :
    rnaTemplateIdValid templateId = true ∧ membrane.templateInUse templateId = false ∧
      ∃ templates, PrefixArray.removeFirst (·.id == templateId) copyTemplateSanitized
          rnaTemplateClear membrane.rnaTemplates.templates membrane.rnaTemplates.count =
            some templates ∧
        next = { membrane with
          rnaTemplates := ⟨templates, membrane.rnaTemplates.count - 1⟩ } := by
  unfold removeTemplate at removed
  rw [guard_ok, guard_ok, guard_ok] at removed
  rcases removed with ⟨_, valid, unused, removed⟩
  split at removed
  · cases removed
  · rename_i templates taken
    exact ⟨by simpa using valid, Bool.eq_false_iff.mpr unused, templates, taken,
      (Except.ok.inj removed).symm⟩

end Membrane

end BlindNet
