import BlindNet.RibosomeTable

/-!
# Membrane

The tables loaded at boot and the permission check over them. Loading is a
result of the stores; nothing on the message path writes either table.
-/

namespace BlindNet

set_option autoImplicit false

structure Membrane where
  ribosomeTable : RibosomeTable
  rnaTemplates : RnaTemplateTable
  initialized : Bool

/-- What `ribosome_store::load_or_init` and `rna_membrane::load_or_init` answer. -/
structure StoredTables where
  ribosome : Result RibosomeTable
  rna : Result RnaTemplateTable

def Membrane.init (stored : StoredTables) : Result Membrane :=
  match stored.ribosome with
  | .error err => .error err
  | .ok ribosome =>
      match stored.rna with
      | .error err => .error err
      | .ok rna => .ok ⟨ribosome, rna, true⟩

def Membrane.findTemplate (membrane : Membrane) (templateId : UInt16) : Option RnaTemplate :=
  if !membrane.initialized then none else rnaTemplateTableFind membrane.rnaTemplates templateId

def Membrane.allows (membrane : Membrane) (device : RibosomeTableEntry) (aminoId : Int32)
    (payload : Option Int32) : Bool :=
  if !membrane.initialized then
    false
  else if !ribosomeTemplateIdValid device.templateId then
    false
  else
    match aminoAcidValidatePayload aminoId payload with
    | .error _ => false
    | .ok () =>
        match membrane.findTemplate device.templateId with
        | some template => rnaTemplateAllows template aminoId
        | none => false

theorem membrane_allows_iff {membrane : Membrane} {device : RibosomeTableEntry} {aminoId : Int32}
    {payload : Option Int32} :
    membrane.allows device aminoId payload = true ↔
      membrane.initialized = true ∧ ribosomeTemplateIdValid device.templateId = true ∧
      aminoAcidValidatePayload aminoId payload = .ok () ∧
      ∃ template, rnaTemplateTableFind membrane.rnaTemplates device.templateId = some template ∧
        rnaTemplateAllows template aminoId = true := by
  unfold Membrane.allows Membrane.findTemplate
  by_cases ready : membrane.initialized = true
  · by_cases named : ribosomeTemplateIdValid device.templateId = true
    · cases aminoAcidValidatePayload aminoId payload with
      | error err => simp [ready, named]
      | ok =>
          cases rnaTemplateTableFind membrane.rnaTemplates device.templateId <;>
            simp [ready, named]
    · simp [ready, named]
  · simp [ready]

end BlindNet
