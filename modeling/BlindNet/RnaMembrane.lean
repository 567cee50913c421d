import BlindNet.AminoAcids
import BlindNet.Lib.PrefixArray

/-!
# RNA membrane

A template lists the amino acids a kind of device understands. The table holds
at most sixteen templates; ids are looked up in table order. Persistence of
the table is not modelled here.
-/

namespace BlindNet

set_option autoImplicit false

open ByteLayout

def rnaMaxTemplates : Nat := 16
def rnaTemplateMaxAminos : Nat := 12

def rnaTemplateIdInvalid : UInt16 := 0
def rnaTemplateIdLightSwitch : UInt16 := 1
def rnaTemplateIdOutlet : UInt16 := 2
def rnaTemplateIdDoor : UInt16 := 3
def rnaTemplateIdAirConditioner : UInt16 := 4
def rnaTemplateIdDimmer : UInt16 := 5
def rnaTemplateIdFan : UInt16 := 6
def rnaTemplateIdSensorReadonly : UInt16 := 7

structure RnaTemplate where
  id : UInt16
  name : ByteArr 32
  aminoCount : UInt8
  aminos : List.Vector Int32 rnaTemplateMaxAminos
  flags : UInt32
  deriving DecidableEq

structure RnaTemplateTable where
  templates : List.Vector RnaTemplate rnaMaxTemplates
  count : Nat
  deriving DecidableEq

def rnaTemplateClear : RnaTemplate :=
  ⟨0, List.Vector.replicate 32 0, 0, List.Vector.replicate rnaTemplateMaxAminos 0, 0⟩

def rnaTemplateIdValid (templateId : UInt16) : Bool :=
  templateId != rnaTemplateIdInvalid

def rnaTemplateValidate (template : RnaTemplate) : Result Unit :=
  let ids := template.aminos.toList.take template.aminoCount.toNat
  if !rnaTemplateIdValid template.id || !stringValid template.name.toList ||
      template.aminoCount == 0 || rnaTemplateMaxAminos < template.aminoCount.toNat then
    .error .invalidArg
  else if !ids.all aminoAcidIdValid || !decide ids.Nodup then
    .error .invalidArg
  else
    .ok ()

def RnaTemplateTable.live (table : RnaTemplateTable) : List RnaTemplate :=
  PrefixArray.live table.templates table.count

def rnaTemplateTableInit : RnaTemplateTable :=
  ⟨List.Vector.replicate rnaMaxTemplates rnaTemplateClear, 0⟩

def rnaTemplateTableFind (table : RnaTemplateTable) (templateId : UInt16) : Option RnaTemplate :=
  if rnaMaxTemplates < table.count || !rnaTemplateIdValid templateId then
    none
  else
    table.live.find? (·.id == templateId)

/-- `copy_template_sanitized` into a cleared template. -/
def copyTemplateSanitized (source : RnaTemplate) : RnaTemplate :=
  { source with name := strncpyCleared 32 source.name.toList }

def rnaTemplateTableAdd (table : RnaTemplateTable) (template : RnaTemplate) :
    Result RnaTemplateTable :=
  if rnaMaxTemplates < table.count then
    .error .invalidArg
  else if room : table.count < rnaMaxTemplates then
    match rnaTemplateValidate template with
    | .error _ => .error .invalidArg
    | .ok () =>
        if (rnaTemplateTableFind table template.id).isSome then
          .error .invalidState
        else
          .ok ⟨table.templates.set ⟨table.count, room⟩ (copyTemplateSanitized template),
            table.count + 1⟩
  else
    .error .noMem

def rnaTemplateHasCapability (template : RnaTemplate) (aminoId : Int32) : Bool :=
  if !aminoAcidIdValid aminoId then
    false
  else if rnaTemplateMaxAminos < template.aminoCount.toNat then
    false
  else
    (template.aminos.toList.take template.aminoCount.toNat).any (· == aminoId)

def rnaTemplateAllows (template : RnaTemplate) (aminoId : Int32) : Bool :=
  rnaTemplateHasCapability template aminoId

theorem amino_slots_length (aminos : List Int32) :
    (aminos.takeD rnaTemplateMaxAminos 0).length = rnaTemplateMaxAminos :=
  List.takeD_length _ _ _

/-- A designated initialiser of `RNA_DEFAULT_TEMPLATES`: unnamed bytes, amino
slots and flags are zero. -/
def rnaDefaultTemplate (id : UInt16) (name : String) (aminos : List Int32) : RnaTemplate where
  id := id
  name := fit 32 (CString.utf8 name)
  aminoCount := UInt8.ofNat aminos.length
  aminos := ⟨aminos.takeD rnaTemplateMaxAminos 0, amino_slots_length aminos⟩
  flags := 0

def rnaDefaultTemplates : List RnaTemplate :=
  [rnaDefaultTemplate rnaTemplateIdLightSwitch "LIGHT_SWITCH"
      [aminoOn, aminoOff, aminoToggle, aminoReadState],
    rnaDefaultTemplate rnaTemplateIdOutlet "OUTLET"
      [aminoOn, aminoOff, aminoToggle, aminoReadState],
    rnaDefaultTemplate rnaTemplateIdDoor "DOOR"
      [aminoOpen, aminoClose, aminoLock, aminoUnlock, aminoReadState],
    rnaDefaultTemplate rnaTemplateIdAirConditioner "AIR_CONDITIONER"
      [aminoOn, aminoOff, aminoSetTemperature, aminoSetSpeed, aminoSetMode, aminoReadState],
    rnaDefaultTemplate rnaTemplateIdDimmer "DIMMER"
      [aminoOn, aminoOff, aminoToggle, aminoSetLevel, aminoReadState],
    rnaDefaultTemplate rnaTemplateIdFan "FAN"
      [aminoOn, aminoOff, aminoToggle, aminoSetSpeed, aminoReadState],
    rnaDefaultTemplate rnaTemplateIdSensorReadonly "SENSOR_READ_ONLY" [aminoReadState]]

def rnaMembraneLoadDefaults : Result RnaTemplateTable :=
  rnaDefaultTemplates.foldlM rnaTemplateTableAdd rnaTemplateTableInit

theorem rna_template_table_find_spec {table : RnaTemplateTable} {templateId : UInt16}
    {template : RnaTemplate} (found : rnaTemplateTableFind table templateId = some template) :
    template ∈ table.live ∧ template.id = templateId ∧
      templateId ≠ rnaTemplateIdInvalid := by
  unfold rnaTemplateTableFind at found
  split at found
  · exact absurd found (by simp)
  · rename_i usable
    refine ⟨List.mem_of_find?_eq_some found, by simpa using List.find?_some found, ?_⟩
    simpa [rnaTemplateIdValid] using fun invalid => usable (by simp [rnaTemplateIdValid, invalid])

theorem rna_template_has_capability_iff (template : RnaTemplate) (aminoId : Int32) :
    rnaTemplateHasCapability template aminoId = true ↔
      aminoAcidIdValid aminoId = true ∧ template.aminoCount.toNat ≤ rnaTemplateMaxAminos ∧
        aminoId ∈ template.aminos.toList.take template.aminoCount.toNat := by
  unfold rnaTemplateHasCapability
  by_cases known : aminoAcidIdValid aminoId = true
  · by_cases wide : rnaTemplateMaxAminos < template.aminoCount.toNat
    · have narrow : ¬ template.aminoCount.toNat ≤ rnaTemplateMaxAminos := by omega
      simp [known, wide, narrow]
    · have narrow : template.aminoCount.toNat ≤ rnaTemplateMaxAminos := by omega
      simp [known, wide, narrow]
  · simp [known]

end BlindNet
