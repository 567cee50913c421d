import BlindNet.Platform

/-!
# Amino acids

The command vocabulary of a device and the payload each command takes. An
amino id arrives as four unchecked bytes, so it stays an `Int32`; the table
decides which ids exist.
-/

namespace BlindNet

set_option autoImplicit false

open ByteLayout

def aminoOn : Int32 := 1
def aminoOff : Int32 := 2
def aminoOpen : Int32 := 3
def aminoClose : Int32 := 4
def aminoSetSpeed : Int32 := 5
def aminoSetLevel : Int32 := 6
def aminoReadState : Int32 := 7
def aminoToggle : Int32 := 8
def aminoLock : Int32 := 9
def aminoUnlock : Int32 := 10
def aminoSetTemperature : Int32 := 11
def aminoSetMode : Int32 := 12

inductive AminoValueType where
  | none
  | bool
  | int
  deriving DecidableEq, Repr

def AminoValueType.code : AminoValueType → UInt8
  | .none => 0
  | .bool => 1
  | .int => 2

def aminoFlagMutatesState : UInt32 := 1
def aminoFlagReadOnly : UInt32 := 2

structure AminoAcid where
  id : Int32
  name : String
  valueType : AminoValueType
  flags : UInt32
  deriving DecidableEq, Repr

def aminoAcids : List AminoAcid :=
  [⟨aminoOn, "ON", .none, aminoFlagMutatesState⟩,
    ⟨aminoOff, "OFF", .none, aminoFlagMutatesState⟩,
    ⟨aminoOpen, "OPEN", .none, aminoFlagMutatesState⟩,
    ⟨aminoClose, "CLOSE", .none, aminoFlagMutatesState⟩,
    ⟨aminoSetSpeed, "SET_SPEED", .int, aminoFlagMutatesState⟩,
    ⟨aminoSetLevel, "SET_LEVEL", .int, aminoFlagMutatesState⟩,
    ⟨aminoReadState, "READ_STATE", .none, aminoFlagReadOnly⟩,
    ⟨aminoToggle, "TOGGLE", .none, aminoFlagMutatesState⟩,
    ⟨aminoLock, "LOCK", .none, aminoFlagMutatesState⟩,
    ⟨aminoUnlock, "UNLOCK", .none, aminoFlagMutatesState⟩,
    ⟨aminoSetTemperature, "SET_TEMPERATURE", .int, aminoFlagMutatesState⟩,
    ⟨aminoSetMode, "SET_MODE", .int, aminoFlagMutatesState⟩]

def aminoAcidFind (id : Int32) : Option AminoAcid :=
  aminoAcids.find? (·.id == id)

def aminoAcidIdValid (id : Int32) : Bool :=
  (aminoAcidFind id).isSome

def aminoAcidValidatePayload (id : Int32) (value : Option Int32) : Result Unit :=
  match aminoAcidFind id with
  | none => .error .notFound
  | some acid =>
      match acid.valueType, value with
      | .none, some _ => .error .invalidArg
      | .none, none => .ok ()
      | _, none => .error .invalidArg
      | .bool, some payload =>
          if payload ≠ 0 ∧ payload ≠ 1 then .error .invalidArg else .ok ()
      | .int, some _ => .ok ()

/-- The payload an amino acid requires: none at all, a truth value, or any
integer. -/
def PayloadFits : AminoValueType → Option Int32 → Prop
  | .none, value => value = none
  | .bool, value => value = some 0 ∨ value = some 1
  | .int, value => ∃ payload, value = some payload

theorem amino_acid_find_spec {id : Int32} {acid : AminoAcid}
    (found : aminoAcidFind id = some acid) : acid ∈ aminoAcids ∧ acid.id = id := by
  refine ⟨List.mem_of_find?_eq_some found, ?_⟩
  simpa using List.find?_some found

theorem amino_acid_validate_payload_ok {id : Int32} {value : Option Int32} :
    aminoAcidValidatePayload id value = .ok () ↔
      ∃ acid, aminoAcidFind id = some acid ∧ PayloadFits acid.valueType value := by
  unfold aminoAcidValidatePayload
  cases found : aminoAcidFind id with
  | none => simp
  | some acid =>
      rcases acid with ⟨_, _, valueType, _⟩
      cases valueType <;> cases value <;> simp [PayloadFits]
      -- Left is the boolean check, which the source states by exclusion.
      rename_i payload
      by_cases zero : payload = 0 <;> by_cases one : payload = 1 <;> simp [zero, one]

theorem amino_acids_listed {acid : AminoAcid} (listed : acid ∈ aminoAcids) :
    aminoAcidFind acid.id = some acid ∧ acid.valueType ≠ .bool := by
  have every : ∀ acid ∈ aminoAcids,
      aminoAcidFind acid.id = some acid ∧ acid.valueType ≠ .bool := by decide
  exact every acid listed

end BlindNet
