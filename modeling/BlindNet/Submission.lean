import BlindNet.FormSubmission
import BlindNet.HexCodec
import BlindNet.Referential

/-!
# What the admin submits and what is stored

`/ribosome/add` and `/membrane/template/set` store what their buffers keep of the
submitted fields. That is the submission itself exactly when every field fits its
buffer and every number fits its type; the handlers check neither.
-/

namespace BlindNet

set_option autoImplicit false

open ByteLayout CNumber EventMachine

/-! ## Registrations -/

structure AddSubmission where
  mqttClientId : Bytes
  templateId : Bytes
  epoch : Bytes
  deviceSecretHex : Bytes
  deriving DecidableEq

def addSubmission (form : FormBody) : Option AddSubmission :=
  match submittedField form.content "mqtt_client_id", submittedField form.content "template_id",
    submittedField form.content "epoch", submittedField form.content "device_secret_hex" with
  | some mqttClientId, some templateId, some epoch, some deviceSecretHex =>
      some ⟨mqttClientId, templateId, epoch, deviceSecretHex⟩
  | _, _, _, _ => none

namespace AddSubmission

def config (submission : AddSubmission) : Option RibosomeEntryConfig :=
  match parseU32Field (cut 16 submission.templateId), parseU32Field (cut 16 submission.epoch),
    parseExactHex (cut 65 submission.deviceSecretHex) 32 with
  | some templateId, some epoch, .ok deviceSecret =>
      some ⟨cut 33 submission.mqttClientId ++ [0], templateId.toUInt16, epoch, fit 32 deviceSecret⟩
  | _, _, _ => none

/-- The entry has the values of the full fields. -/
structure StoredAs (submission : AddSubmission) (entry : RibosomeTableEntry) : Prop where
  mqttClientId : CString.text entry.mqttClientId.toList = submission.mqttClientId
  templateId : readDecimal submission.templateId = some (entry.templateId.toNat : Int)
  epoch : readDecimal submission.epoch = some (entry.epoch.toNat : Int)
  deviceSecret : submission.deviceSecretHex.length = 64 ∧
    hexPairs submission.deviceSecretHex = some entry.deviceSecret.toList

/-- Every field fits its buffer, and every number its type. -/
structure Fits (submission : AddSubmission) : Prop where
  mqttClientId : cut 33 submission.mqttClientId = submission.mqttClientId
  templateId : Reads 16 (2 ^ 16) submission.templateId
  epoch : Reads 16 (2 ^ 32) submission.epoch
  deviceSecret : cut 65 submission.deviceSecretHex = submission.deviceSecretHex

theorem config_some {submission : AddSubmission} {config : RibosomeEntryConfig}
    (made : submission.config = some config) :
    ∃ templateId epoch deviceSecret,
      readDecimal (cut 16 submission.templateId) = some templateId ∧
      readDecimal (cut 16 submission.epoch) = some epoch ∧
      (cut 65 submission.deviceSecretHex).length = 64 ∧
      hexPairs (cut 65 submission.deviceSecretHex) = some deviceSecret ∧
      deviceSecret.length = 32 ∧
      config = ⟨cut 33 submission.mqttClientId ++ [0], (wrap templateId).toUInt16, wrap epoch,
        fit 32 deviceSecret⟩ := by
  unfold AddSubmission.config at made
  split at made
  · rename_i templateId epoch deviceSecret isTemplate isEpoch isSecret
    rcases parse_u32_field_some isTemplate with ⟨template, readTemplate, rfl⟩
    rcases parse_u32_field_some isEpoch with ⟨number, readEpoch, rfl⟩
    rcases parse_exact_hex_iff.mp isSecret with ⟨sized, pairs⟩
    have half := (hex_pairs_some (by omega) pairs).1
    cases made
    exact ⟨template, number, deviceSecret, readTemplate, readEpoch, sized, pairs, by omega, rfl⟩
  · cases made

theorem stored_as_iff {submission : AddSubmission} {config : RibosomeEntryConfig}
    {entry : RibosomeTableEntry} (made : submission.config = some config)
    (entered : ribosomeTableMakeEntry config = .ok entry) :
    submission.StoredAs entry ↔ submission.Fits := by
  rcases config_some made with
    ⟨templateId, epoch, deviceSecret, readTemplate, readEpoch, sized, pairs, half, rfl⟩
  unfold ribosomeTableMakeEntry at entered
  rw [guard_ok, guard_ok, guard_ok] at entered
  rcases entered with ⟨_, _, _, entered⟩
  cases entered
  have text : CString.text (strncpyCleared 33 (cut 33 submission.mqttClientId ++ [0])).toList =
      cut 33 submission.mqttClientId := by
    rw [strncpy_cleared_text (by decide), CString.text_append_zero cut_ne_zero]
    exact List.take_of_length_le (cut_length_le 33 _)
  have narrowed : (wrap templateId).toUInt16.toNat = (wrap templateId).toNat % 2 ^ 16 :=
    UInt32.toNat_toUInt16 _
  have kept : (wrap epoch).toNat % 2 ^ 32 = (wrap epoch).toNat :=
    Nat.mod_eq_of_lt (UInt32.toNat_lt _)
  have templates := reads_iff (show 2 ^ 16 ≤ 2 ^ 32 by decide) (by decide) readTemplate
  have epochs := reads_iff (show 2 ^ 32 ≤ 2 ^ 32 by decide) (by decide) readEpoch
  rw [kept] at epochs
  rw [← narrowed] at templates
  have secret := fit_of_length half
  constructor
  · rintro ⟨named, template, time, whole, hex⟩
    refine ⟨text.symm.trans named, templates.mp template, epochs.mp time, ?_⟩
    rw [cut_eq_take (hex_pairs_some (by omega) hex).2]
    exact List.take_of_length_le (by omega)
  · rintro ⟨named, template, time, whole⟩
    refine ⟨text.trans named, templates.mpr template, epochs.mpr time, ?_, ?_⟩
    · rw [← whole, sized]
    · rw [← whole, pairs, secret]

end AddSubmission

/-- The registration goes through: the template exists, the table takes the
configuration, and the save is committed. -/
structure Registers (env : AdminEnvironment) (storage : AdminStorage)
    (config : RibosomeEntryConfig) (table next : RibosomeTable) : Prop where
  template : ∃ templates, rnaMembraneLoadOrInit env.rnaFault storage.rna = .ok templates ∧
    (rnaTemplateTableFind templates config.templateId).isSome = true
  loaded : ribosomeStoreLoadOrInit env.ribosomeFault storage.ribosome = .ok table
  added : ribosomeTableAddFromConfig table config = (.ok (), next)
  saved : env.ribosomeWrite = .committed

theorem Registers.clean {env : AdminEnvironment} {storage : AdminStorage}
    {config : RibosomeEntryConfig} {table next : RibosomeTable}
    (registers : Registers env storage config table next) : next.Clean := by
  have kept := ribosome_table_add_from_config_clean
    (ribosome_store_load_or_init_clean registers.loaded) config
  rwa [registers.added] at kept

theorem Registers.outcome {env : AdminEnvironment} {storage : AdminStorage}
    {config : RibosomeEntryConfig} {table next : RibosomeTable} (response : AdminResponse)
    (registers : Registers env storage config table next) :
    registerDevice env storage config response =
      ⟨⟨.ok (), response⟩, [{ storage with ribosome := some next.image }]⟩ := by
  rcases registers.template with ⟨templates, loadedTemplates, found⟩
  have known : (rnaTemplateTableFind templates config.templateId).isNone = false := by
    rw [Option.isNone_eq_false_iff]
    exact found
  rw [registerDevice, loadedTemplates, registers.loaded]
  simp only [known, Bool.false_eq_true, if_false, registers.added]
  rw [saveRibosomes, ribosome_store_save_clean registers.clean, registers.saved]
  rfl

theorem register_device_cases (env : AdminEnvironment) (storage : AdminStorage)
    (config : RibosomeEntryConfig) (response : AdminResponse) :
    (∃ table next, Registers env storage config table next) ∨
    ∃ status message, (registerDevice env storage config response).answer.response =
      .failed status message := by
  unfold registerDevice
  cases loadedTemplates : rnaMembraneLoadOrInit env.rnaFault storage.rna with
  | error err => exact Or.inr ⟨_, _, rfl⟩
  | ok templates =>
      simp only
      by_cases unknown : (rnaTemplateTableFind templates config.templateId).isNone = true
      · rw [if_pos unknown]
        exact Or.inr ⟨_, _, rfl⟩
      · rw [if_neg unknown]
        cases loaded : ribosomeStoreLoadOrInit env.ribosomeFault storage.ribosome with
        | error err => exact Or.inr ⟨_, _, rfl⟩
        | ok table =>
            simp only
            split
            · exact Or.inr ⟨_, _, rfl⟩
            · rename_i next added
              have clean : next.Clean := by
                have kept := ribosome_table_add_from_config_clean
                  (ribosome_store_load_or_init_clean loaded) config
                rwa [added] at kept
              rw [saveRibosomes, ribosome_store_save_clean clean]
              cases saved : env.ribosomeWrite with
              | committed =>
                  refine Or.inl ⟨table, next, ⟨templates, loadedTemplates, ?_⟩, loaded, added,
                    saved⟩
                  simpa [Option.isSome_iff_ne_none] using unknown
              | failed err visible => exact Or.inr ⟨_, _, rfl⟩

theorem gated_form (env : AdminEnvironment) (server : AdminServer) (form : FormBody)
    (handler : Bytes → TableOutcome) :
    (server.maintenanceGate env = none ∧ form.content.length < adminPostBufSize ∧
      server.gated env (.complete form.content) handler = handler form.content) ∨
    (¬ (server.maintenanceGate env = none ∧ form.content.length < adminPostBufSize) ∧
      ∃ status message,
        (server.gated env (.complete form.content) handler).answer.response =
          .failed status message) := by
  unfold AdminServer.gated
  rw [read_request_body_form]
  cases gate : server.maintenanceGate env with
  | some answer =>
      refine Or.inr ⟨by simp, ?_⟩
      unfold AdminServer.maintenanceGate at gate
      split_ifs at gate
      all_goals
        cases gate
        exact ⟨_, _, rfl⟩
  | none =>
      by_cases long : adminPostBufSize ≤ form.content.length
      · rw [if_pos (Or.inr long)]
        exact Or.inr ⟨fun accepted => Nat.not_lt.mpr long accepted.2, _, _, rfl⟩
      · rw [if_neg (by simp [form.nonempty, long])]
        exact Or.inl ⟨rfl, Nat.lt_of_not_le long, rfl⟩

def addHandled (env : AdminEnvironment) (server : AdminServer) (storage : AdminStorage)
    (form : FormBody) : TableOutcome :=
  ribosomeAddPostHandler env server storage (.complete form.content)

/-- The path on which `/ribosome/add` answers success. -/
def AddAccepted (env : AdminEnvironment) (server : AdminServer) (storage : AdminStorage)
    (form : FormBody) : Prop :=
  server.maintenanceGate env = none ∧ form.content.length < adminPostBufSize ∧
    ∃ submission config table next, addSubmission form = some submission ∧
      submission.config = some config ∧ Registers env storage config table next

/-- If `/ribosome/add` answers success, the last write holds one entry more, and the
entry is the submission. -/
def AddFaithful (env : AdminEnvironment) (server : AdminServer) (storage : AdminStorage)
    (form : FormBody) : Prop :=
  (addHandled env server storage form).answer.response = .sent "ribosome added" →
    ∃ submission stored table next entry, addSubmission form = some submission ∧
      (addHandled env server storage form).writes.getLast? = some stored ∧
      ribosomeStoreLoadOrInit env.ribosomeFault storage.ribosome = .ok table ∧
      ribosomeStoreLoadOrInit none stored.ribosome = .ok next ∧
      next.live = table.live ++ [entry] ∧ submission.StoredAs entry

def AddFits (form : FormBody) : Prop :=
  ∀ submission, addSubmission form = some submission → submission.Fits

theorem add_fields (form : FormBody) :
    (∃ submission, addSubmission form = some submission ∧
      formGetValue form.content "mqtt_client_id" 33 = some (cut 33 submission.mqttClientId) ∧
      formGetValue form.content "template_id" 16 = some (cut 16 submission.templateId) ∧
      formGetValue form.content "epoch" 16 = some (cut 16 submission.epoch) ∧
      formGetValue form.content "device_secret_hex" 65 =
        some (cut 65 submission.deviceSecretHex)) ∨
    (addSubmission form = none ∧
      (formGetValue form.content "mqtt_client_id" 33 = none ∨
        formGetValue form.content "template_id" 16 = none ∨
        formGetValue form.content "epoch" 16 = none ∨
        formGetValue form.content "device_secret_hex" 65 = none)) := by
  rw [form_get_value_submitted, form_get_value_submitted, form_get_value_submitted,
    form_get_value_submitted]
  unfold addSubmission
  cases submittedField form.content "mqtt_client_id" with
  | none => simp
  | some mqttClientId =>
      cases submittedField form.content "template_id" with
      | none => simp
      | some templateId =>
          cases submittedField form.content "epoch" with
          | none => simp
          | some epoch =>
              cases submittedField form.content "device_secret_hex" with
              | none => simp
              | some deviceSecretHex => exact Or.inl ⟨_, rfl, rfl, rfl, rfl, rfl⟩

theorem add_handled_cases (env : AdminEnvironment) (server : AdminServer)
    (storage : AdminStorage) (form : FormBody) :
    (∃ submission config table next, addSubmission form = some submission ∧
      submission.config = some config ∧ Registers env storage config table next ∧
      server.maintenanceGate env = none ∧ form.content.length < adminPostBufSize ∧
      addHandled env server storage form =
        ⟨⟨.ok (), .sent "ribosome added"⟩, [{ storage with ribosome := some next.image }]⟩) ∨
    (¬ AddAccepted env server storage form ∧
      ∃ status message,
        (addHandled env server storage form).answer.response = .failed status message) := by
  unfold addHandled ribosomeAddPostHandler AddAccepted
  rcases gated_form env server form _ with ⟨gate, short, body⟩ | ⟨closed, refused⟩
  · rw [body]
    rcases add_fields form with
      ⟨submission, submitted, isId, isTemplate, isEpoch, isSecret⟩ | ⟨missing, absent⟩
    · simp only [isId, isTemplate, isEpoch, isSecret]
      split
      · rename_i templateId epoch deviceSecret readTemplate readEpoch readSecret
        generalize config : RibosomeEntryConfig.mk (cut 33 submission.mqttClientId ++ [0])
          templateId.toUInt16 epoch (fit 32 deviceSecret) = made
        have configured : submission.config = some made := by
          rw [AddSubmission.config, readTemplate, readEpoch, readSecret, ← config]
        rcases register_device_cases env storage made (.sent "ribosome added") with
          ⟨table, next, registers⟩ | refused
        · exact Or.inl ⟨submission, made, table, next, submitted, configured, registers, gate,
            short, registers.outcome _⟩
        · refine Or.inr ⟨?_, refused⟩
          rintro ⟨_, _, other, otherConfig, table, next, isOther, otherMade, registers⟩
          cases submitted.symm.trans isOther
          cases configured.symm.trans otherMade
          rcases refused with ⟨status, message, failed⟩
          rw [registers.outcome] at failed
          cases failed
      · rename_i unread
        refine Or.inr ⟨?_, _, _, rfl⟩
        rintro ⟨_, _, other, config, _, _, isOther, configured, _⟩
        cases submitted.symm.trans isOther
        unfold AddSubmission.config at configured
        split at configured
        · rename_i templateId epoch deviceSecret readTemplate readEpoch readSecret
          exact unread templateId epoch deviceSecret readTemplate readEpoch readSecret
        · cases configured
    · refine Or.inr ⟨by simp [missing], ?_⟩
      split
      · rename_i isId isTemplate isEpoch isSecret
        simp [isId, isTemplate, isEpoch, isSecret] at absent
      · exact ⟨_, _, rfl⟩
  · exact Or.inr ⟨fun accepted => closed ⟨accepted.1, accepted.2.1⟩, refused⟩

theorem forall_submitted_iff {Submission : Type} {read : Option Submission}
    {submission : Submission} (submitted : read = some submission) (Fits : Submission → Prop) :
    (∀ other, read = some other → Fits other) ↔ Fits submission := by
  constructor
  · intro all
    exact all submission submitted
  · intro one other isOther
    cases submitted.symm.trans isOther
    exact one

theorem add_faithful_iff (env : AdminEnvironment) (server : AdminServer) (storage : AdminStorage)
    (form : FormBody) :
    AddFaithful env server storage form ↔
      (AddAccepted env server storage form → AddFits form) := by
  rcases add_handled_cases env server storage form with
    ⟨submission, config, table, next, submitted, configured, registers, gate, short, outcome⟩ |
    ⟨refused, status, message, failed⟩
  · have accepted : AddAccepted env server storage form :=
      ⟨gate, short, submission, config, table, next, submitted, configured, registers⟩
    have fits : AddFits form ↔ submission.Fits := forall_submitted_iff submitted _
    have bounded := (ribosome_store_load_or_init_clean registers.loaded).bounded
    -- the one entry that the registration appends
    have appended : ∃ entry, ribosomeTableMakeEntry config = .ok entry ∧
        next.live = table.live ++ [entry] := by
      have added := registers.added
      rcases ribosome_table_add_from_config_cases bounded config with
        ⟨err, no⟩ | ⟨err, room, no⟩ | ⟨entry, room, made, _, yes⟩
      · rw [no] at added
        cases added
      · rw [no] at added
        cases added
      · rw [yes] at added
        cases added
        exact ⟨entry, made, PrefixArray.live_append table.entries table.count room entry⟩
    rcases appended with ⟨entry, made, lives⟩
    rw [AddFaithful, outcome, fits, ← AddSubmission.stored_as_iff configured made]
    constructor
    · intro faithful _
      rcases faithful rfl with
        ⟨other, stored, before, after, otherEntry, isOther, last, loaded, reloaded, grown, same⟩
      cases submitted.symm.trans isOther
      cases registers.loaded.symm.trans loaded
      cases last
      cases (ribosome_store_load_image registers.clean).symm.trans reloaded
      rw [lives] at grown
      cases List.append_cancel_left grown
      exact same
    · intro same _
      exact ⟨submission, _, table, next, entry, submitted, rfl, registers.loaded,
        ribosome_store_load_image registers.clean, lives, same accepted⟩
  · constructor
    · intro _ accepted
      exact absurd accepted refused
    · intro _ success
      rw [failed] at success
      cases success

/-! ## Templates -/

structure TemplateSubmission where
  templateId : Bytes
  templateName : Bytes
  aminoIds : Bytes
  deriving DecidableEq

def templateSubmission (form : FormBody) : Option TemplateSubmission :=
  match submittedField form.content "template_id", submittedField form.content "template_name",
    submittedField form.content "amino_ids" with
  | some templateId, some templateName, some aminoIds => some ⟨templateId, templateName, aminoIds⟩
  | _, _, _ => none

namespace TemplateSubmission

def template (submission : TemplateSubmission) : Result RnaTemplate :=
  buildTemplateFromFields (cut 16 submission.templateId) (cut 32 submission.templateName)
    (cut 64 submission.aminoIds)

structure StoredAs (submission : TemplateSubmission) (template : RnaTemplate) : Prop where
  templateId : readDecimal submission.templateId = some (template.id.toNat : Int)
  templateName : CString.text template.name.toList = submission.templateName
  aminoIds : readAminoList submission.aminoIds =
    some ((template.aminos.toList.take template.aminoCount.toNat).map Int32.toInt)

structure Fits (submission : TemplateSubmission) : Prop where
  templateId : Reads 16 (2 ^ 16) submission.templateId
  templateName : cut 32 submission.templateName = submission.templateName
  aminoIds : ReadsAminos 64 submission.aminoIds

theorem take_takeD {Value : Type} {values : List Value} {size : Nat}
    (short : values.length ≤ size) (filler : Value) :
    (values.takeD size filler).take values.length = values := by
  induction values generalizing size with
  | nil => rfl
  | cons value rest induction =>
      cases size with
      | zero => cases short
      | succ size =>
          rw [List.takeD_succ, List.length_cons, List.take_succ_cons]
          exact congrArg (value :: ·) (induction (Nat.le_of_succ_le_succ short))

theorem template_ok {submission : TemplateSubmission} {template : RnaTemplate}
    (built : submission.template = .ok template) :
    ∃ templateId ids, readDecimal (cut 16 submission.templateId) = some templateId ∧
      parseAminoIds (cut 64 submission.aminoIds) = some ids ∧
      template.id = (wrap templateId).toUInt16 ∧
      template.name = strncpyCleared 32 (cut 32 submission.templateName) ∧
      template.aminoCount = UInt8.ofNat ids.length ∧
      template.aminos.toList = ids.takeD rnaTemplateMaxAminos 0 := by
  unfold TemplateSubmission.template buildTemplateFromFields at built
  cases parsedId : parseU32Field (cut 16 submission.templateId) with
  | none =>
      rw [parsedId] at built
      cases built
  | some value =>
      rcases parse_u32_field_some parsedId with ⟨number, read, rfl⟩
      rw [parsedId] at built
      simp only at built
      rw [guard_ok] at built
      rcases built with ⟨_, built⟩
      cases parsedIds : parseAminoIds (cut 64 submission.aminoIds) with
      | none =>
          rw [parsedIds] at built
          cases built
      | some ids =>
          rw [parsedIds] at built
          simp only at built
          split at built
          · cases built
          · cases built
            exact ⟨number, ids, read, rfl, rfl, rfl, rfl, rfl⟩

theorem stored_as_iff {submission : TemplateSubmission} {template : RnaTemplate}
    (built : submission.template = .ok template) :
    submission.StoredAs (copyTemplateSanitized template) ↔ submission.Fits := by
  rcases template_ok built with
    ⟨templateId, ids, readId, parsedIds, isId, isName, isCount, isAminos⟩
  have named : CString.text (copyTemplateSanitized template).name.toList =
      cut 32 submission.templateName := by
    have whole : CString.text (cut 32 submission.templateName) = cut 32 submission.templateName :=
      CString.text_clean cut_ne_zero
    rw [copyTemplateSanitized, isName, strncpy_cleared_idempotent (by decide),
      strncpy_cleared_text (by decide), whole]
    exact List.take_of_length_le (cut_length_le 32 _)
  have bounded : ids.length ≤ rnaTemplateMaxAminos := by
    rcases parse_amino_ids_iff.mp parsedIds with ⟨_, _, accepted⟩
    exact accepted.ids.bounded
  have counted : template.aminoCount.toNat = ids.length := by
    rw [isCount, UInt8.toNat_ofNat']
    have small : rnaTemplateMaxAminos < 2 ^ 8 := by decide
    exact Nat.mod_eq_of_lt (by omega)
  have listed : template.aminos.toList.take template.aminoCount.toNat = ids := by
    rw [counted, isAminos]
    exact take_takeD bounded 0
  have narrowed : template.id.toNat = (wrap templateId).toNat % 2 ^ 16 := by
    rw [isId]
    exact UInt32.toNat_toUInt16 _
  have templates := reads_iff (show 2 ^ 16 ≤ 2 ^ 32 by decide) (by decide) readId
  rw [← narrowed] at templates
  have aminos := reads_aminos_iff parsedIds
  rw [← listed] at aminos
  constructor
  · rintro ⟨id, name, list⟩
    exact ⟨templates.mp id, named.symm.trans name, aminos.mp list⟩
  · rintro ⟨id, name, list⟩
    exact ⟨templates.mpr id, named.trans name, aminos.mpr list⟩

end TemplateSubmission

structure SavesTemplate (env : AdminEnvironment) (storage : AdminStorage) (template : RnaTemplate)
    (next : RnaTemplateTable) : Prop where
  upserted : ∃ templates, rnaMembraneLoadOrInit env.rnaFault storage.rna = .ok templates ∧
    rnaTemplateTableUpsert templates template = .ok next
  saved : env.rnaWrite = .committed

/-- The saved table loads again and has the template under its id. -/
theorem SavesTemplate.holds {env : AdminEnvironment} {storage : AdminStorage}
    {template : RnaTemplate} {next : RnaTemplateTable}
    (saves : SavesTemplate env storage template next) :
    next.Clean ∧ next.count ≠ 0 ∧
      rnaTemplateTableFind next template.id = some (copyTemplateSanitized template) := by
  rcases saves.upserted with ⟨templates, loaded, upserted⟩
  have clean := rna_membrane_load_or_init_clean loaded
  exact ⟨rna_template_table_upsert_clean clean upserted,
    (upsert_keeps_ids clean.bounded upserted).2.2.1, (upsert_find clean.bounded upserted).1⟩

/-- The part of the handler that stores the template. -/
def saveTemplate (env : AdminEnvironment) (storage : AdminStorage) (template : RnaTemplate) :
    TableOutcome :=
  match rnaMembraneLoadOrInit env.rnaFault storage.rna with
  | .error err => .refused err .internalServerError "load failed"
  | .ok templates =>
      match rnaTemplateTableUpsert templates template with
      | .error err => .refused err .badRequest "template rejected"
      | .ok next =>
          let saved := rnaMembraneSave env.rnaWrite storage.rna next
          let stored := { storage with rna := saved.2 }
          match saved.1 with
          | .error err => ⟨.refused err .internalServerError "save failed", [stored]⟩
          | .ok () => ⟨⟨.ok (), .sent "membrane template saved"⟩, [stored]⟩

theorem SavesTemplate.outcome {env : AdminEnvironment} {storage : AdminStorage}
    {template : RnaTemplate} {next : RnaTemplateTable}
    (saves : SavesTemplate env storage template next) :
    saveTemplate env storage template =
      ⟨⟨.ok (), .sent "membrane template saved"⟩, [{ storage with rna := some next.image }]⟩ := by
  rcases saves.holds with ⟨clean, nonempty, _⟩
  rcases saves.upserted with ⟨templates, loaded, upserted⟩
  simp only [saveTemplate, loaded, upserted]
  rw [rna_membrane_save_clean clean nonempty, saves.saved]
  rfl

theorem save_template_cases (env : AdminEnvironment) (storage : AdminStorage)
    (template : RnaTemplate) :
    (∃ next, SavesTemplate env storage template next) ∨
    ∃ status message, (saveTemplate env storage template).answer.response =
      .failed status message := by
  unfold saveTemplate
  cases loaded : rnaMembraneLoadOrInit env.rnaFault storage.rna with
  | error err => exact Or.inr ⟨_, _, rfl⟩
  | ok templates =>
      simp only
      cases upserted : rnaTemplateTableUpsert templates template with
      | error err => exact Or.inr ⟨_, _, rfl⟩
      | ok next =>
          have clean := rna_membrane_load_or_init_clean loaded
          have image := rna_membrane_save_clean (rna_template_table_upsert_clean clean upserted)
            (upsert_keeps_ids clean.bounded upserted).2.2.1 env.rnaWrite storage.rna
          simp only [image]
          cases saved : env.rnaWrite with
          | committed => exact Or.inl ⟨next, ⟨templates, loaded, upserted⟩, saved⟩
          | failed err visible => exact Or.inr ⟨_, _, rfl⟩

def templateHandled (env : AdminEnvironment) (server : AdminServer) (storage : AdminStorage)
    (form : FormBody) : TableOutcome :=
  membraneTemplateSetPostHandler env server storage (.complete form.content)

/-- The path on which `/membrane/template/set` answers success. -/
def TemplateAccepted (env : AdminEnvironment) (server : AdminServer) (storage : AdminStorage)
    (form : FormBody) : Prop :=
  server.maintenanceGate env = none ∧ form.content.length < adminPostBufSize ∧
    ∃ submission template next, templateSubmission form = some submission ∧
      submission.template = .ok template ∧ SavesTemplate env storage template next

/-- If `/membrane/template/set` answers success, the last write holds the submission
under the id of the template that the handler built. -/
def TemplateFaithful (env : AdminEnvironment) (server : AdminServer) (storage : AdminStorage)
    (form : FormBody) : Prop :=
  (templateHandled env server storage form).answer.response = .sent "membrane template saved" →
    ∃ submission built stored next kept, templateSubmission form = some submission ∧
      submission.template = .ok built ∧
      (templateHandled env server storage form).writes.getLast? = some stored ∧
      rnaMembraneLoadOrInit none stored.rna = .ok next ∧
      rnaTemplateTableFind next built.id = some kept ∧ submission.StoredAs kept

def TemplateFits (form : FormBody) : Prop :=
  ∀ submission, templateSubmission form = some submission → submission.Fits

theorem template_fields (form : FormBody) :
    (∃ submission, templateSubmission form = some submission ∧
      formGetValue form.content "template_id" 16 = some (cut 16 submission.templateId) ∧
      formGetValue form.content "template_name" 32 = some (cut 32 submission.templateName) ∧
      formGetValue form.content "amino_ids" 64 = some (cut 64 submission.aminoIds)) ∨
    (templateSubmission form = none ∧
      (formGetValue form.content "template_id" 16 = none ∨
        formGetValue form.content "template_name" 32 = none ∨
        formGetValue form.content "amino_ids" 64 = none)) := by
  rw [form_get_value_submitted, form_get_value_submitted, form_get_value_submitted]
  unfold templateSubmission
  cases submittedField form.content "template_id" with
  | none => simp
  | some templateId =>
      cases submittedField form.content "template_name" with
      | none => simp
      | some templateName =>
          cases submittedField form.content "amino_ids" with
          | none => simp
          | some aminoIds => exact Or.inl ⟨_, rfl, rfl, rfl, rfl⟩

theorem template_handled_cases (env : AdminEnvironment) (server : AdminServer)
    (storage : AdminStorage) (form : FormBody) :
    (∃ submission template next, templateSubmission form = some submission ∧
      submission.template = .ok template ∧ SavesTemplate env storage template next ∧
      server.maintenanceGate env = none ∧ form.content.length < adminPostBufSize ∧
      templateHandled env server storage form =
        ⟨⟨.ok (), .sent "membrane template saved"⟩, [{ storage with rna := some next.image }]⟩) ∨
    (¬ TemplateAccepted env server storage form ∧
      ∃ status message,
        (templateHandled env server storage form).answer.response = .failed status message) := by
  unfold templateHandled membraneTemplateSetPostHandler TemplateAccepted
  rcases gated_form env server form _ with ⟨gate, short, body⟩ | ⟨closed, refused⟩
  · rw [body]
    rcases template_fields form with
      ⟨submission, submitted, isId, isName, isAminos⟩ | ⟨missing, absent⟩
    · simp only [isId, isName, isAminos]
      cases built : submission.template with
      | error err =>
          rw [TemplateSubmission.template] at built
          simp only [built]
          refine Or.inr ⟨?_, _, _, rfl⟩
          rintro ⟨_, _, other, template, _, isOther, isBuilt, _⟩
          cases submitted.symm.trans isOther
          rw [TemplateSubmission.template, built] at isBuilt
          cases isBuilt
      | ok template =>
          have builtFields := built
          rw [TemplateSubmission.template] at builtFields
          simp only [builtFields]
          rcases save_template_cases env storage template with ⟨next, saves⟩ | refused
          · exact Or.inl ⟨submission, template, next, submitted, built, saves, gate, short,
              saves.outcome⟩
          · refine Or.inr ⟨?_, refused⟩
            rintro ⟨_, _, other, otherTemplate, next, isOther, otherBuilt, saves⟩
            cases submitted.symm.trans isOther
            cases built.symm.trans otherBuilt
            rcases refused with ⟨status, message, failed⟩
            rw [saves.outcome] at failed
            cases failed
    · refine Or.inr ⟨by simp [missing], ?_⟩
      split
      · rename_i isId isName isAminos
        simp [isId, isName, isAminos] at absent
      · exact ⟨_, _, rfl⟩
  · exact Or.inr ⟨fun accepted => closed ⟨accepted.1, accepted.2.1⟩, refused⟩

theorem template_faithful_iff (env : AdminEnvironment) (server : AdminServer)
    (storage : AdminStorage) (form : FormBody) :
    TemplateFaithful env server storage form ↔
      (TemplateAccepted env server storage form → TemplateFits form) := by
  rcases template_handled_cases env server storage form with
    ⟨submission, template, next, submitted, built, saves, gate, short, outcome⟩ |
    ⟨refused, status, message, failed⟩
  · have accepted : TemplateAccepted env server storage form :=
      ⟨gate, short, submission, template, next, submitted, built, saves⟩
    have fits : TemplateFits form ↔ submission.Fits := forall_submitted_iff submitted _
    rcases saves.holds with ⟨clean, nonempty, found⟩
    have reloaded := rna_membrane_load_image clean nonempty
    rw [TemplateFaithful, outcome, fits, ← TemplateSubmission.stored_as_iff built]
    constructor
    · intro faithful _
      rcases faithful rfl with
        ⟨other, otherBuilt, stored, after, kept, isOther, isBuilt, last, loaded, isKept, same⟩
      cases submitted.symm.trans isOther
      cases built.symm.trans isBuilt
      cases last
      cases reloaded.symm.trans loaded
      cases found.symm.trans isKept
      exact same
    · intro same _
      exact ⟨submission, template, _, next, _, submitted, built, rfl, reloaded, found,
        same accepted⟩
  · constructor
    · intro _ accepted
      exact absurd accepted refused
    · intro _ success
      rw [failed] at success
      cases success

/-! ## Both handlers -/

/-- A success is faithful exactly when the fields fit; the handlers accept fields that
do not. -/
theorem submissions_stored_iff (env : AdminEnvironment) (server : AdminServer)
    (storage : AdminStorage) (form : FormBody) :
    (AddFaithful env server storage form ↔
      (AddAccepted env server storage form → AddFits form)) ∧
    (TemplateFaithful env server storage form ↔
      (TemplateAccepted env server storage form → TemplateFits form)) :=
  ⟨add_faithful_iff env server storage form, template_faithful_iff env server storage form⟩

def wideTemplateForm : FormBody where
  content := CString.utf8 "mqtt_client_id=lamp01&template_id=65537&epoch=1&device_secret_hex=" ++
    CString.utf8 "0707070707070707070707070707070707070707070707070707070707070707"
  encoded := ⟨by decide +kernel, by decide +kernel⟩

/-- On the unlocked bench the registration is answered with success and stored for
template 1. -/
theorem wide_template_id_narrowed :
    ¬ AddFaithful (benchAdminEnvironment 7)
      (run (adminStep benchAdminCrypto) ⟨AdminServer.boot, benchAdminStorage⟩ benchUnlock).1.server
      benchAdminStorage wideTemplateForm := by
  intro faithful
  have success : (addHandled (benchAdminEnvironment 7)
      (run (adminStep benchAdminCrypto) ⟨AdminServer.boot, benchAdminStorage⟩ benchUnlock).1.server
      benchAdminStorage wideTemplateForm).answer.response = .sent "ribosome added" := by
    decide +kernel
  rcases faithful success with ⟨submission, _, _, _, entry, submitted, _, _, _, _, same⟩
  have field : (addSubmission wideTemplateForm).map (fun given => readDecimal given.templateId) =
      some (some 65537) := by
    decide +kernel
  rw [submitted, Option.map_some, same.templateId, Option.some.injEq, Option.some.injEq] at field
  have small := entry.templateId.toNat_lt
  omega

end BlindNet
