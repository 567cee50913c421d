import BlindNet.FlowTable
import BlindNet.Lib.Fnv
import BlindNet.Lib.Layout

/-!
# Flow key hash

`flow_table_key_equals` compares the five fields of two keys; `flow_table_hash_key` folds
over the raw bytes of the key object. The object has sixteen bytes, the fields cover
thirteen: the compiler pads the structure to the alignment of its addresses, and no field
says what the last three bytes hold.
-/

namespace BlindNet

set_option autoImplicit false

open ByteLayout

/-- A `flow_key_t` in memory: its fields and the bytes behind `proto`. -/
structure FlowKeyObject where
  key : FlowKey
  padding : ByteArr 3
  deriving DecidableEq

namespace FlowKeyObject

def fieldsEquiv : UInt32 × UInt32 × UInt16 × UInt16 × UInt8 ≃ FlowKey where
  toFun fields := ⟨fields.1, fields.2.1, fields.2.2.1, fields.2.2.2.1, fields.2.2.2.2⟩
  invFun key := (key.srcIp, key.dstIp, key.srcPort, key.dstPort, key.proto)
  left_inv _ := rfl
  right_inv _ := rfl

def objectEquiv : FlowKey × ByteArr 3 ≃ FlowKeyObject where
  toFun parts := ⟨parts.1, parts.2⟩
  invFun object := (object.key, object.padding)
  left_inv _ := rfl
  right_inv _ := rfl

def fieldsLayout : Layout FlowKey 13 :=
  (Layout.u32.pair <| Layout.u32.pair <| Layout.u16.pair <| Layout.u16.pair Layout.byte).iso
    fieldsEquiv

/-- The object as `sizeof(flow_key_t)` bytes. -/
def layout : Layout FlowKeyObject 16 :=
  (fieldsLayout.pair (Layout.block 3)).iso objectEquiv

theorem encode_eq (object : FlowKeyObject) :
    layout.encode object = fieldsLayout.encode object.key ++ object.padding.toList :=
  rfl

end FlowKeyObject

/-- `flow_table_key_equals`, with the pointers it checks. -/
def flowTableKeyEqualsAt : Option FlowKeyObject → Option FlowKeyObject → Bool
  | some a, some b => flowTableKeyEquals a.key b.key
  | _, _ => false

def flowTableHashKey : Option FlowKeyObject → UInt32
  | none => 0
  | some key =>
      (FlowKeyObject.layout.encode key).foldl
        (fun hash byte => (hash ^^^ byte.toUInt32) * 16777619) 2166136261

theorem flow_table_hash_key_eq (object : FlowKeyObject) :
    flowTableHashKey (some object) =
      object.padding.toList.foldl Fnv.step
        ((FlowKeyObject.fieldsLayout.encode object.key).foldl Fnv.step 2166136261) := by
  rw [← List.foldl_append, ← FlowKeyObject.encode_eq]
  rfl

theorem same_key_hash_iff {a b : FlowKeyObject} (sameKey : a.key = b.key) :
    flowTableHashKey (some a) = flowTableHashKey (some b) ↔ a.padding = b.padding := by
  rw [flow_table_hash_key_eq, flow_table_hash_key_eq, sameKey]
  constructor
  · intro sameHash
    apply List.Vector.toList_injective
    exact Fnv.tail_injective _ a.padding.toList_length b.padding.toList_length sameHash
  · intro samePadding
    rw [samePadding]

/-- Equal keys hash alike exactly when no padding byte tells the objects apart. -/
theorem key_equality_respects_hashing_iff (a b : FlowKeyObject) :
    (flowTableKeyEqualsAt (some a) (some b) = true →
        flowTableHashKey (some a) = flowTableHashKey (some b)) ↔
      (flowTableKeyEqualsAt (some a) (some b) = true → a.padding = b.padding) := by
  apply imp_congr_right
  intro equal
  exact same_key_hash_iff ((flow_table_key_equals_iff a.key b.key).mp equal)

def dnsFlow : FlowKey := ⟨0x0201A8C0, 0x08080808, 40000, 53, 17⟩

/-- One key, once in cleared memory and once behind a stale byte. -/
theorem stale_padding_changes_hash :
    let cleared : FlowKeyObject := ⟨dnsFlow, ⟨[0, 0, 0], rfl⟩⟩
    let stale : FlowKeyObject := ⟨dnsFlow, ⟨[0, 0, 1], rfl⟩⟩
    flowTableKeyEqualsAt (some cleared) (some stale) = true ∧
      flowTableHashKey (some cleared) ≠ flowTableHashKey (some stale) := by
  decide +kernel

end BlindNet
