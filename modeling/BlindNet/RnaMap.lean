import BlindNet.RibosomeMap

/-!
# The RNA table as a map

Five functions in three files edit one table: `rna_template_table_add`, the upsert of the
admin server and three operations of the membrane. The table of a map from template ids to
valid templates is edited by each of them as the map is, whatever order they come in. The
membrane's own check that no device uses a template it removes is a reason to refuse.
-/

namespace BlindNet

set_option autoImplicit false

open ByteLayout PrefixArray EventMachine

@[ext] structure StoredTemplate where
  template : RnaTemplate
  stored : template.Stored

def StoredTemplate.id (record : StoredTemplate) : UInt16 :=
  record.template.id

theorem StoredTemplate.id_valid (record : StoredTemplate) : rnaTemplateIdValid record.id = true :=
  record.stored.lawful.identified

/-- The record of a template that passes `rna_template_validate`. -/
def StoredTemplate.check (template : RnaTemplate) : Option StoredTemplate :=
  if valid : rnaTemplateValidate template = .ok () then
    some ⟨copyTemplateSanitized template, ((rna_template_validate_iff template).mp valid).stored⟩
  else none

abbrev RnaMap := BoundedMap StoredTemplate.id rnaMaxTemplates

namespace RnaMap

def table (map : RnaMap) : RnaTemplateTable :=
  ⟨map.store StoredTemplate.template rnaTemplateClear, map.records.length⟩

def tableAdd (map : RnaMap) (template : RnaTemplate) : Result RnaMap :=
  if map.records.length = rnaMaxTemplates then .error .noMem
  else
    match StoredTemplate.check template with
    | none => .error .invalidArg
    | some record =>
        match map.insert record with
        | none => .error .invalidState
        | some next => .ok next

def tableUpsert (map : RnaMap) (template : RnaTemplate) : Result RnaMap :=
  match StoredTemplate.check template with
  | none => .error .invalidArg
  | some record =>
      match map.overwrite record with
      | some next => .ok next
      | none => map.tableAdd template

/-- What the membrane asks besides the templates. -/
structure Setting where
  initialized : Bool
  inUse : UInt16 → Bool

def addTemplate (setting : Setting) (map : RnaMap) (template : RnaTemplate) : Result RnaMap :=
  if !setting.initialized then .error .invalidState else map.tableAdd template

def replaceTemplate (setting : Setting) (map : RnaMap) (template : RnaTemplate) : Result RnaMap :=
  if !setting.initialized then .error .invalidState
  else
    match StoredTemplate.check template with
    | none => .error .invalidArg
    | some record =>
        match map.overwrite record with
        | none => .error .notFound
        | some next => .ok next

def removeTemplate (setting : Setting) (map : RnaMap) (templateId : UInt16) : Result RnaMap :=
  if !setting.initialized then .error .invalidState
  else if !rnaTemplateIdValid templateId then .error .invalidArg
  else if setting.inUse templateId then .error .invalidState
  else
    match map.erase templateId with
    | none => .error .notFound
    | some next => .ok next

theorem count_le (map : RnaMap) : ¬ rnaMaxTemplates < map.table.count :=
  Nat.not_lt.mpr map.bounded

theorem table_live (map : RnaMap) : map.table.live = map.records.map StoredTemplate.template :=
  map.live_store

theorem finds (map : RnaMap) (wanted : UInt16) :
    map.Finds StoredTemplate.template (fun template => template.id == wanted) wanted := by
  intro record member
  exact beq_eq_decide record.id wanted

theorem check_error {template : RnaTemplate} (refused : StoredTemplate.check template = none) :
    rnaTemplateValidate template = .error .invalidArg := by
  unfold StoredTemplate.check at refused
  split_ifs at refused with valid
  unfold rnaTemplateValidate at valid ⊢
  dsimp only at valid ⊢
  split_ifs at valid ⊢
  · rfl
  · rfl
  · exact absurd rfl valid

theorem check_ok {template : RnaTemplate} {record : StoredTemplate}
    (checked : StoredTemplate.check template = some record) :
    rnaTemplateValidate template = .ok () ∧ record.template = copyTemplateSanitized template ∧
      record.id = template.id := by
  unfold StoredTemplate.check at checked
  split_ifs at checked with valid
  cases checked
  exact ⟨valid, rfl, rfl⟩

theorem find_refines (map : RnaMap) {templateId : UInt16}
    (valid : rnaTemplateIdValid templateId = true) :
    rnaTemplateTableFind map.table templateId =
      (map.lookup templateId).map StoredTemplate.template := by
  unfold rnaTemplateTableFind
  rw [decide_eq_false map.count_le, valid]
  exact BoundedMap.find_store (map.finds templateId)

theorem not_full {map : RnaMap} (room : map.table.count < rnaMaxTemplates) :
    map.records.length ≠ rnaMaxTemplates :=
  Nat.ne_of_lt room

theorem full {map : RnaMap} (noRoom : ¬ map.table.count < rnaMaxTemplates) :
    map.records.length = rnaMaxTemplates :=
  Nat.le_antisymm map.bounded (Nat.not_lt.mp noRoom)

theorem insert_refines {map next : RnaMap} {record : StoredTemplate}
    (inserted : map.insert record = some next) (room : map.table.count < rnaMaxTemplates) :
    RnaTemplateTable.mk (map.table.templates.set ⟨map.table.count, room⟩ record.template)
      (map.table.count + 1) = next.table := by
  obtain ⟨cells, size⟩ :=
    @BoundedMap.store_insert _ _ _ _ _ _ StoredTemplate.template rnaTemplateClear _ _ _
      inserted room
  exact congrArg₂ RnaTemplateTable.mk cells size

theorem overwrite_refines (map : RnaMap) {template : RnaTemplate} {record : StoredTemplate}
    (checked : StoredTemplate.check template = some record) :
    modifyFirst (·.id == template.id) (fun _ => copyTemplateSanitized template)
        map.table.templates map.table.count =
      (map.overwrite record).map (BoundedMap.store StoredTemplate.template rnaTemplateClear) := by
  rcases check_ok checked with ⟨_, copied, same⟩
  rw [← same, ← copied]
  apply BoundedMap.store_overwrite (map.finds record.id)
  intro old member sameId
  rfl

theorem overwrite_table {map next : RnaMap} {record : StoredTemplate}
    (overwritten : map.overwrite record = some next) :
    RnaTemplateTable.mk (next.store StoredTemplate.template rnaTemplateClear) map.table.count =
      next.table :=
  congrArg (RnaTemplateTable.mk _) (BoundedMap.overwrite_length overwritten)

theorem table_add_refines (map : RnaMap) (template : RnaTemplate) :
    rnaTemplateTableAdd map.table template = (map.tableAdd template).map table := by
  unfold rnaTemplateTableAdd tableAdd
  rw [if_neg map.count_le]
  by_cases room : map.table.count < rnaMaxTemplates
  · rw [dif_pos room, if_neg (not_full room)]
    cases checked : StoredTemplate.check template with
    | none =>
        rw [check_error checked]
        rfl
    | some record =>
        rcases check_ok checked with ⟨valid, copied, same⟩
        have known : rnaTemplateIdValid template.id = true := by
          rw [← same]
          exact record.id_valid
        rw [valid, find_refines map known, Option.isSome_map, ← same,
          BoundedMap.insert_with_room room, ← copied]
        dsimp only
        cases inserted : map.insert record with
        | none => rfl
        | some next => exact congrArg Except.ok (insert_refines inserted room)
  · rw [dif_neg room, if_pos (full room)]
    rfl

theorem table_upsert_refines (map : RnaMap) (template : RnaTemplate) :
    rnaTemplateTableUpsert map.table template = (map.tableUpsert template).map table := by
  unfold rnaTemplateTableUpsert tableUpsert adminCopyTemplateSanitized
  rw [if_neg map.count_le]
  cases checked : StoredTemplate.check template with
  | none =>
      rw [check_error checked]
      rfl
  | some record =>
      rw [(check_ok checked).1, map.overwrite_refines checked]
      dsimp only
      cases overwritten : map.overwrite record with
      | none => exact map.table_add_refines template
      | some next => exact congrArg Except.ok (overwrite_table overwritten)

section Membrane

variable (membrane : Membrane)

def within (map : RnaMap) : Membrane :=
  { membrane with rnaTemplates := map.table }

def settingOf : Setting :=
  ⟨membrane.initialized, membrane.templateInUse⟩

theorem ready_refines (map : RnaMap) {outcome : Result Membrane} {spec : Result RnaMap}
    (refines : outcome = spec.map (within membrane)) :
    (if !(within membrane map).initialized then .error .invalidState else outcome) =
      (if !(settingOf membrane).initialized then .error .invalidState else spec).map
        (within membrane) := by
  have same : (within membrane map).initialized = (settingOf membrane).initialized := rfl
  rw [refines, same]
  cases (settingOf membrane).initialized with
  | false => rfl
  | true => rfl

theorem add_template_refines (map : RnaMap) (template : RnaTemplate) :
    (within membrane map).addTemplate template =
      (addTemplate (settingOf membrane) map template).map (within membrane) := by
  apply ready_refines
  have added : rnaTemplateTableAdd (within membrane map).rnaTemplates template =
      (map.tableAdd template).map table := map.table_add_refines template
  rw [added]
  cases map.tableAdd template with
  | error err => rfl
  | ok next => rfl

theorem replace_template_refines (map : RnaMap) (template : RnaTemplate) :
    (within membrane map).replaceTemplate template =
      (replaceTemplate (settingOf membrane) map template).map (within membrane) := by
  apply ready_refines
  cases checked : StoredTemplate.check template with
  | none =>
      rw [check_error checked]
      rfl
  | some record =>
      have written : modifyFirst (·.id == template.id)
          (fun _ => Membrane.copyTemplateSanitized template)
          (within membrane map).rnaTemplates.templates (within membrane map).rnaTemplates.count =
            (map.overwrite record).map
              (BoundedMap.store StoredTemplate.template rnaTemplateClear) :=
        map.overwrite_refines checked
      rw [(check_ok checked).1, written]
      dsimp only
      cases overwritten : map.overwrite record with
      | none => rfl
      | some next =>
          exact congrArg (fun table => Except.ok { membrane with rnaTemplates := table })
            (overwrite_table overwritten)

theorem remove_template_refines (map : RnaMap) (templateId : UInt16) :
    (within membrane map).removeTemplate templateId =
      (removeTemplate (settingOf membrane) map templateId).map (within membrane) := by
  have inUse : (within membrane map).templateInUse templateId =
      (settingOf membrane).inUse templateId := rfl
  have taken : removeFirst (·.id == templateId) Membrane.copyTemplateSanitized rnaTemplateClear
      (within membrane map).rnaTemplates.templates (within membrane map).rnaTemplates.count =
        (map.erase templateId).map (BoundedMap.store StoredTemplate.template rnaTemplateClear) := by
    apply BoundedMap.store_erase (map.finds templateId)
    intro record member
    exact record.stored.sanitized
  apply ready_refines
  rw [inUse, taken]
  cases rnaTemplateIdValid templateId with
  | false => rfl
  | true =>
      cases (settingOf membrane).inUse templateId with
      | true => rfl
      | false =>
          cases erased : map.erase templateId with
          | none => rfl
          | some next =>
              exact congrArg (fun size => Except.ok
                { membrane with rnaTemplates := ⟨(table next).templates, size⟩ })
                (BoundedMap.erase_length erased)

end Membrane

end RnaMap

/-! ## Runs -/

inductive RnaCall where
  | tableAdd (template : RnaTemplate)
  | tableUpsert (template : RnaTemplate)
  | addTemplate (template : RnaTemplate)
  | replaceTemplate (template : RnaTemplate)
  | removeTemplate (templateId : UInt16)

def RnaCall.templateId : RnaCall → UInt16
  | .tableAdd template => template.id
  | .tableUpsert template => template.id
  | .addTemplate template => template.id
  | .replaceTemplate template => template.id
  | .removeTemplate templateId => templateId

/-- The two functions in C work on the table alone. -/
def Membrane.editTable (membrane : Membrane) (edited : Result RnaTemplateTable) :
    Result Membrane :=
  edited.map fun table => { membrane with rnaTemplates := table }

def Membrane.edit (membrane : Membrane) : RnaCall → Result Membrane
  | .tableAdd template => membrane.editTable (rnaTemplateTableAdd membrane.rnaTemplates template)
  | .tableUpsert template =>
      membrane.editTable (rnaTemplateTableUpsert membrane.rnaTemplates template)
  | .addTemplate template => membrane.addTemplate template
  | .replaceTemplate template => membrane.replaceTemplate template
  | .removeTemplate templateId => membrane.removeTemplate templateId

def Membrane.rnaStep (membrane : Membrane) (call : RnaCall) :
    Membrane × List (Result (Option Empty)) :=
  settle Empty membrane (membrane.edit call)

namespace RnaMap

def edit (setting : Setting) (map : RnaMap) : RnaCall → Result RnaMap
  | .tableAdd template => map.tableAdd template
  | .tableUpsert template => map.tableUpsert template
  | .addTemplate template => addTemplate setting map template
  | .replaceTemplate template => replaceTemplate setting map template
  | .removeTemplate templateId => removeTemplate setting map templateId

def step (setting : Setting) (map : RnaMap) (call : RnaCall) :
    RnaMap × List (Result (Option Empty)) :=
  settle Empty map (edit setting map call)

theorem edit_table_refines (membrane : Membrane) (map : RnaMap) {edited : Result RnaTemplateTable}
    {spec : Result RnaMap} (refines : edited = spec.map table) :
    (within membrane map).editTable edited = spec.map (within membrane) := by
  rw [refines]
  cases spec with
  | error err => rfl
  | ok next => rfl

theorem edit_refines (membrane : Membrane) (map : RnaMap) (call : RnaCall) :
    (within membrane map).edit call =
      (edit (settingOf membrane) map call).map (within membrane) := by
  cases call with
  | tableAdd template => exact edit_table_refines membrane map (map.table_add_refines template)
  | tableUpsert template =>
      exact edit_table_refines membrane map (map.table_upsert_refines template)
  | addTemplate template => exact add_template_refines membrane map template
  | replaceTemplate template => exact replace_template_refines membrane map template
  | removeTemplate templateId => exact remove_template_refines membrane map templateId

theorem step_refines (membrane : Membrane) (map : RnaMap) (call : RnaCall) :
    (within membrane map).rnaStep call =
      (within membrane (step (settingOf membrane) map call).1,
        (step (settingOf membrane) map call).2.map id) := by
  unfold Membrane.rnaStep step
  rw [edit_refines]
  cases edit (settingOf membrane) map call with
  | error err => rfl
  | ok next => rfl

/-! ## What a call changes -/

/-- What an answered call has changed. -/
def Change (map next : RnaMap) : RnaCall → Result (Option Empty) → Prop
  | _, .error _ => next = map
  | .tableAdd template, .ok _ =>
      ∃ record, StoredTemplate.check template = some record ∧ map.Inserted next record
  | .tableUpsert template, .ok _ =>
      ∃ record, StoredTemplate.check template = some record ∧
        (map.Overwritten next record ∨ map.Inserted next record)
  | .addTemplate template, .ok _ =>
      ∃ record, StoredTemplate.check template = some record ∧ map.Inserted next record
  | .replaceTemplate template, .ok _ =>
      ∃ record, StoredTemplate.check template = some record ∧ map.Overwritten next record
  | .removeTemplate templateId, .ok _ => map.Erased next templateId

/-- What the templates of a table allow under an id. -/
def allowed (table : RnaTemplateTable) (templateId : UInt16) (aminoId : Int32) : Bool :=
  match rnaTemplateTableFind table templateId with
  | none => false
  | some template => rnaTemplateAllows template aminoId

structure Effect (map next : RnaMap) (call : RnaCall) (answer : Result (Option Empty)) :
    Prop where
  change : map.Change next call answer
  others : ∀ other, other ≠ call.templateId →
    allowed next.table other = allowed map.table other

theorem table_add_change {map next : RnaMap} {template : RnaTemplate}
    (added : map.tableAdd template = .ok next) :
    ∃ record, StoredTemplate.check template = some record ∧ map.Inserted next record := by
  unfold tableAdd at added
  split_ifs at added
  split at added
  · cases added
  · rename_i record checked
    split at added
    · cases added
    · rename_i result inserted
      cases added
      exact ⟨record, checked, BoundedMap.insert_eq_some inserted⟩

theorem table_upsert_change {map next : RnaMap} {template : RnaTemplate}
    (upserted : map.tableUpsert template = .ok next) :
    ∃ record, StoredTemplate.check template = some record ∧
      (map.Overwritten next record ∨ map.Inserted next record) := by
  unfold tableUpsert at upserted
  split at upserted
  · cases upserted
  · rename_i record checked
    split at upserted
    · rename_i result overwritten
      cases upserted
      exact ⟨record, checked, Or.inl (BoundedMap.overwrite_eq_some overwritten)⟩
    · rcases table_add_change upserted with ⟨added, same, inserted⟩
      exact ⟨added, same, Or.inr inserted⟩

theorem replace_template_change {setting : Setting} {map next : RnaMap} {template : RnaTemplate}
    (replaced : replaceTemplate setting map template = .ok next) :
    ∃ record, StoredTemplate.check template = some record ∧ map.Overwritten next record := by
  unfold replaceTemplate at replaced
  split_ifs at replaced
  split at replaced
  · cases replaced
  · rename_i record checked
    split at replaced
    · cases replaced
    · rename_i result overwritten
      cases replaced
      exact ⟨record, checked, BoundedMap.overwrite_eq_some overwritten⟩

theorem remove_template_change {setting : Setting} {map next : RnaMap} {templateId : UInt16}
    (removed : removeTemplate setting map templateId = .ok next) : map.Erased next templateId := by
  unfold removeTemplate at removed
  split_ifs at removed
  split at removed
  · cases removed
  · rename_i result erased
    cases removed
    exact BoundedMap.erase_eq_some erased

theorem edit_change {setting : Setting} {map next : RnaMap} {call : RnaCall}
    (edited : edit setting map call = .ok next) : map.Change next call (.ok none) := by
  cases call with
  | tableAdd template => exact table_add_change edited
  | tableUpsert template => exact table_upsert_change edited
  | addTemplate template =>
      unfold edit addTemplate at edited
      split_ifs at edited
      exact table_add_change edited
  | replaceTemplate template => exact replace_template_change edited
  | removeTemplate templateId => exact remove_template_change edited

/-- Only the id of the call is looked up differently afterwards. -/
theorem Change.lookup_other {map next : RnaMap} {call : RnaCall}
    (change : map.Change next call (.ok none)) {other : UInt16}
    (differs : other ≠ call.templateId) :
    next.lookup other = map.lookup other := by
  have checkedId : ∀ {template record}, StoredTemplate.check template = some record →
      other ≠ template.id → other ≠ record.id := by
    intro template record checked different
    rw [(check_ok checked).2.2]
    exact different
  cases call with
  | tableAdd template =>
      rcases change with ⟨record, checked, inserted⟩
      rw [inserted.lookup, if_neg (checkedId checked differs)]
  | tableUpsert template =>
      rcases change with ⟨record, checked, overwritten | inserted⟩
      · rw [overwritten.lookup, if_neg (checkedId checked differs)]
      · rw [inserted.lookup, if_neg (checkedId checked differs)]
  | addTemplate template =>
      rcases change with ⟨record, checked, inserted⟩
      rw [inserted.lookup, if_neg (checkedId checked differs)]
  | replaceTemplate template =>
      rcases change with ⟨record, checked, overwritten⟩
      rw [overwritten.lookup, if_neg (checkedId checked differs)]
  | removeTemplate templateId =>
      have erased : map.Erased next templateId := change
      exact (erased.lookup other).trans (if_neg differs)

theorem allowed_of_lookup {map next : RnaMap} {other : UInt16}
    (same : next.lookup other = map.lookup other) :
    allowed next.table other = allowed map.table other := by
  funext aminoId
  unfold allowed
  by_cases valid : rnaTemplateIdValid other = true
  · rw [find_refines next valid, find_refines map valid, same]
  · have nothing : ∀ table, rnaTemplateTableFind table other = none := by
      intro table
      unfold rnaTemplateTableFind
      rw [Bool.eq_false_of_not_eq_true valid]
      simp
    rw [nothing, nothing]

theorem step_effect (setting : Setting) (map : RnaMap) (call : RnaCall) :
    ∃ answer, (step setting map call).2 = [answer] ∧
      map.Effect (step setting map call).1 call answer := by
  unfold step
  cases edited : edit setting map call with
  | error err => exact ⟨.error err, rfl, ⟨by cases call <;> exact rfl, fun _ _ => rfl⟩⟩
  | ok next =>
      have change := edit_change edited
      exact ⟨.ok none, rfl, change, fun other differs =>
        allowed_of_lookup (change.lookup_other differs)⟩

/-- The table of a map: its templates in order, all valid and with ids of their own, clear
slots behind them, and no other map. -/
structure Held (map : RnaMap) : Prop where
  bounded : map.table.count ≤ rnaMaxTemplates
  live : map.table.live = map.records.map StoredTemplate.template
  unique : (map.table.live.map RnaTemplate.id).Nodup
  valid : ∀ template ∈ map.table.live,
    template.id ≠ rnaTemplateIdInvalid ∧ rnaTemplateValidate template = .ok ()
  clear : ∀ index, map.table.count ≤ index.val → map.table.templates.get index = rnaTemplateClear
  only : ∀ other : RnaMap, other.table = map.table → other = map

theorem held (map : RnaMap) : map.Held where
  bounded := map.bounded
  live := map.table_live
  unique := by
    rw [table_live, List.map_map]
    exact map.distinct
  valid := by
    intro template member
    rw [table_live] at member
    rcases List.mem_map.mp member with ⟨record, _, rfl⟩
    have lawful := record.stored.lawful
    constructor
    · simpa [rnaTemplateIdValid] using lawful.identified
    · exact (rna_template_validate_iff _).mpr lawful
  clear := fun _ behind => map.blank_store.get behind
  only := by
    intro other same
    have lists : other.records.map StoredTemplate.template =
        map.records.map StoredTemplate.template := by
      rw [← table_live, same, table_live]
    have injective : Function.Injective StoredTemplate.template :=
      fun _ _ templates => StoredTemplate.ext templates
    exact BoundedMap.ext (injective.list_map lists)

theorem clean_iff (table : RnaTemplateTable) :
    table.Clean ↔ ∃ map : RnaMap, map.table = table := by
  have stored : ∀ template : RnaTemplate,
      template.Stored ↔ template ∈ Set.range StoredTemplate.template := by
    intro template
    constructor
    · exact fun stored => ⟨⟨template, stored⟩, rfl⟩
    · rintro ⟨record, rfl⟩
      exact record.stored
  have apart : ∀ first second : StoredTemplate,
      IdsApart first.template second.template ↔ first.id ≠ second.id := fun _ _ => Iff.rfl
  apply (BoundedMap.clean_iff_stored stored apart).trans
  apply exists_congr
  intro map
  unfold RnaMap.table
  rw [RnaTemplateTable.mk.injEq]

end RnaMap

/-- Every run of edits, in whatever order they come from the two implementations, is the run
of a map; a cleared table is the empty map. -/
theorem rna_table_is_bounded_map :
    (∀ (membrane : Membrane) (map : RnaMap) (calls : List RnaCall),
      run Membrane.rnaStep (RnaMap.within membrane map) calls =
        (RnaMap.within membrane (run (RnaMap.step (RnaMap.settingOf membrane)) map calls).1,
          (run (RnaMap.step (RnaMap.settingOf membrane)) map calls).2)) ∧
      RnaMap.table BoundedMap.empty = rnaTemplateTableInit ∧
      (∀ map : RnaMap, map.Held) ∧
      ∀ (setting : RnaMap.Setting) (map : RnaMap) (call : RnaCall),
        ∃ answer, (RnaMap.step setting map call).2 = [answer] ∧
          map.Effect (RnaMap.step setting map call).1 call answer := by
  have cleared : RnaMap.table BoundedMap.empty = rnaTemplateTableInit :=
    congrArg (RnaTemplateTable.mk · 0) BoundedMap.store_empty
  apply And.intro _ ⟨cleared, RnaMap.held, RnaMap.step_effect⟩
  intro membrane map calls
  have runs := run_refines Membrane.rnaStep (RnaMap.step (RnaMap.settingOf membrane))
    (RnaMap.within membrane) id (RnaMap.step_refines membrane) map calls
  rw [List.map_id] at runs
  exact runs

end BlindNet
