import BlindNet.Lib.Layout

/-!
# Packed records by format

The little-endian subset of Python's `struct` module: a format is a list of
items, a record a list of values. An integer outside the range of its item
makes `pack` fail; a byte string is cut or zero-filled to the width of its item.
-/

namespace StructPack

set_option autoImplicit false

open ByteLayout

/-- `B`, `H`, `I`, `i` and `<size>s`. -/
inductive Item where
  | u8
  | u16
  | u32
  | i32
  | raw (size : Nat)
  deriving DecidableEq, Repr

inductive Value where
  | int (value : Int)
  | raw (bytes : Bytes)
  deriving DecidableEq

def Item.size : Item → Nat
  | .u8 => 1
  | .u16 => 2
  | .u32 => 4
  | .i32 => 4
  | .raw size => size

def Item.holds : Item → Value → Bool
  | .u8, .int value => 0 ≤ value && value < 2 ^ 8
  | .u16, .int value => 0 ≤ value && value < 2 ^ 16
  | .u32, .int value => 0 ≤ value && value < 2 ^ 32
  | .i32, .int value => -2 ^ 31 ≤ value && value < 2 ^ 31
  | .raw _, .raw _ => true
  | _, _ => false

/-- The bytes of a value the item can store; negative integers in two's
complement. -/
def Item.image (item : Item) : Value → Bytes
  | .int value => leBytes item.size (value % 2 ^ 32).toNat
  | .raw bytes => (fit item.size bytes).toList

def unpackItem (item : Item) (bytes : Bytes) : Value :=
  match item with
  | .raw _ => .raw bytes
  | .i32 => .int (if leValue bytes < 2 ^ 31 then leValue bytes else leValue bytes - 2 ^ 32)
  | _ => .int (leValue bytes)

def pack : List Item → List Value → Option Bytes
  | [], [] => some []
  | item :: items, value :: values =>
      if item.holds value then (pack items values).map (item.image value ++ ·) else none
  | _, _ => none

/-- Packs over the bytes of a buffer from `offset` on; the record must end inside it. -/
def packInto (items : List Item) (buffer : Bytes) (offset : Nat) (values : List Value) :
    Option Bytes :=
  match pack items values with
  | none => none
  | some bytes =>
      if buffer.length < offset + bytes.length then none
      else some (buffer.take offset ++ bytes ++ buffer.drop (offset + bytes.length))

def unpack : List Item → Bytes → Option (List Value)
  | [], bytes => if bytes = [] then some [] else none
  | item :: items, bytes =>
      if bytes.length < item.size then
        none
      else
        (unpack items (bytes.drop item.size)).map (unpackItem item (bytes.take item.size) :: ·)

/-- The value as the item stores it. -/
def Item.stored (item : Item) : Value → Value
  | .int value => .int value
  | .raw bytes => .raw (fit item.size bytes).toList

theorem image_length (item : Item) (value : Value) : (item.image value).length = item.size := by
  cases value with
  | int value => exact le_bytes_length _ _
  | raw bytes => exact List.Vector.toList_length _

theorem unpack_image {item : Item} {value : Value} (held : item.holds value = true) :
    unpackItem item (item.image value) = item.stored value := by
  cases value with
  | raw bytes => cases item <;> first | rfl | simp [Item.holds] at held
  | int value =>
      cases item with
      | raw size => simp [Item.holds] at held
      | i32 =>
          simp only [Item.holds, Bool.and_eq_true, decide_eq_true_eq] at held
          have word : leValue (leBytes 4 (value % 2 ^ 32).toNat) = (value % 2 ^ 32).toNat := by
            rw [le_value_bytes]
            omega
          simp only [unpackItem, Item.image, Item.size, Item.stored, Value.int.injEq, word]
          split <;> omega
      | _ =>
          simp only [Item.holds, Bool.and_eq_true, decide_eq_true_eq] at held
          simp only [unpackItem, Item.image, Item.size, Item.stored, Value.int.injEq,
            le_value_bytes]
          omega

theorem pack_nil {bytes : Bytes} : pack [] [] = some bytes ↔ bytes = [] := by
  rw [pack, Option.some.injEq, eq_comm]

theorem pack_cons {item : Item} {items : List Item} {value : Value} {values : List Value}
    {bytes : Bytes} :
    pack (item :: items) (value :: values) = some bytes ↔
      item.holds value = true ∧
        ∃ rest, pack items values = some rest ∧ bytes = item.image value ++ rest := by
  rw [pack]
  by_cases held : item.holds value = true <;> simp [held, eq_comm]

/-- Packing over a field of the record's width replaces that field. -/
theorem pack_into_field {items : List Item} {values : List Value} {bytes : Bytes}
    (packed : pack items values = some bytes) {front field back : Bytes}
    (width : field.length = bytes.length) {offset : Nat} (position : front.length = offset) :
    packInto items (front ++ (field ++ back)) offset values = some (front ++ (bytes ++ back)) := by
  have inside : ¬ (front ++ (field ++ back)).length < offset + bytes.length := by
    simp only [List.length_append]
    omega
  have behind : (front ++ (field ++ back)).drop (offset + bytes.length) = back := by
    rw [← List.append_assoc]
    apply List.drop_left'
    rw [List.length_append, position, width]
  simp only [packInto, packed]
  rw [if_neg inside, behind, List.take_left' position, List.append_assoc]

/-- Unpacking with the same format gives the stored values back. -/
theorem unpack_pack {items : List Item} {values : List Value} {bytes : Bytes}
    (packed : pack items values = some bytes) :
    unpack items bytes = some (List.zipWith Item.stored items values) := by
  induction items generalizing values bytes with
  | nil =>
      cases values with
      | nil =>
          rw [pack_nil.mp packed]
          rfl
      | cons value values => simp [pack] at packed
  | cons item items induction =>
      cases values with
      | nil => simp [pack] at packed
      | cons value values =>
          obtain ⟨held, rest, tail, split⟩ := pack_cons.mp packed
          have width := image_length item value
          rw [split, unpack, if_neg (by rw [List.length_append]; omega),
            List.take_left' width, List.drop_left' width, induction tail, unpack_image held]
          rfl

end StructPack
