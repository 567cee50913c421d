import Mathlib.Data.Vector.Basic
import Mathlib.Data.List.TakeDrop
import Mathlib.Tactic.Ring
import Mathlib.Tactic.Linarith

/-!
# Byte layouts

Little-endian words, fixed-size byte blocks and the memory image of a packed
record. A `Layout` is a two-sided codec of one fixed width: every block of that
width decodes, and encoding the decoded value gives the block back. A record
without padding is a chain of `pair`s, so its round trips cost nothing.
-/

namespace ByteLayout

set_option autoImplicit false

abbrev Bytes := List UInt8

abbrev ByteArr (size : Nat) := List.Vector UInt8 size

def leValue : Bytes → Nat
  | [] => 0
  | byte :: rest => byte.toNat + 256 * leValue rest

def leBytes : Nat → Nat → Bytes
  | 0, _ => []
  | width + 1, value => UInt8.ofNat value :: leBytes width (value / 256)

theorem next_digit_fits {base room number : Nat} (fits : number < base ^ (room + 1))
    (another : number / base ≠ 0) : number / base < base ^ room ∧ 0 < room := by
  have smaller : number / base < base ^ room := by
    apply Nat.div_lt_of_lt_mul
    rw [← pow_succ']
    exact fits
  refine ⟨smaller, Nat.pos_of_ne_zero ?_⟩
  rintro rfl
  exact another (Nat.lt_one_iff.mp smaller)

@[simp] theorem le_bytes_length (width value : Nat) : (leBytes width value).length = width := by
  induction width generalizing value with
  | zero => rfl
  | succ width induction => simp [leBytes, induction]

theorem le_value_bytes (width value : Nat) :
    leValue (leBytes width value) = value % 256 ^ width := by
  induction width generalizing value with
  | zero => simp [leBytes, leValue, Nat.mod_one]
  | succ width induction =>
      have widths : 256 ^ (width + 1) = 256 * 256 ^ width := pow_succ' 256 width
      rw [leBytes, leValue, induction, UInt8.toNat_ofNat', widths, Nat.mod_mul]

theorem le_value_lt (bytes : Bytes) : leValue bytes < 256 ^ bytes.length := by
  induction bytes with
  | nil => simp [leValue]
  | cons byte rest induction =>
      have bounded := byte.toNat_lt
      simp only [leValue, List.length_cons, pow_succ]
      omega

/-- What can be evaluated at each of the 256 codes holds of every byte. -/
theorem forall_byte {holds : UInt8 → Prop} (every : ∀ code : Fin 256, holds (UInt8.ofNat code))
    (byte : UInt8) : holds byte := by
  have code := every ⟨byte.toNat, byte.toNat_lt⟩
  rw [UInt8.ofNat_toNat] at code
  exact code

theorem le_bytes_value (bytes : Bytes) : leBytes bytes.length (leValue bytes) = bytes := by
  induction bytes with
  | nil => rfl
  | cons byte rest induction =>
      have bounded := byte.toNat_lt
      have low : UInt8.ofNat (byte.toNat + 256 * leValue rest) = byte := by
        apply UInt8.toNat_inj.mp
        rw [UInt8.toNat_ofNat']
        omega
      have high : (byte.toNat + 256 * leValue rest) / 256 = leValue rest := by omega
      simp only [List.length_cons, leValue, leBytes, low, high, induction]

/-- Copies into a fixed-size field: a longer source is cut, a shorter one is
followed by zeros. -/
def fit (size : Nat) (bytes : Bytes) : ByteArr size :=
  ⟨bytes.takeD size 0, List.takeD_length size bytes 0⟩

theorem fit_of_length {size : Nat} {bytes : Bytes} (exact : bytes.length = size) :
    (fit size bytes).toList = bytes := by
  change bytes.takeD size 0 = bytes
  rw [List.takeD_eq_take _ (le_of_eq exact.symm), List.take_of_length_le (le_of_eq exact)]

@[simp] theorem fit_to_list {size : Nat} (block : ByteArr size) : fit size block.toList = block :=
  List.Vector.eq _ _ (fit_of_length block.toList_length)

theorem fit_short {size : Nat} {bytes : Bytes} (short : bytes.length ≤ size) :
    (fit size bytes).toList = bytes ++ List.replicate (size - bytes.length) 0 := by
  change bytes.takeD size 0 = _
  induction bytes generalizing size with
  | nil => simp
  | cons byte rest induction =>
      cases size with
      | zero => simp at short
      | succ size =>
          have shorter : rest.length ≤ size := by simpa using short
          have tail := induction shorter
          simp [tail]

theorem fit_take (size : Nat) (bytes : Bytes) : fit size (bytes.take size) = fit size bytes := by
  apply List.Vector.eq
  change (bytes.take size).takeD size 0 = bytes.takeD size 0
  induction size generalizing bytes with
  | zero => rfl
  | succ size induction =>
      cases bytes with
      | nil => rfl
      | cons byte rest =>
          have tail := induction rest
          simpa using tail

theorem fit_append_zeros (size : Nat) (bytes : Bytes) (extra : Nat) :
    fit size (bytes ++ List.replicate extra 0) = fit size bytes := by
  apply List.Vector.eq
  change (bytes ++ List.replicate extra 0).takeD size 0 = bytes.takeD size 0
  induction size generalizing bytes extra with
  | zero => rfl
  | succ size induction =>
      cases bytes with
      | nil =>
          cases extra with
          | zero => rfl
          | succ extra =>
              have tail := induction [] extra
              simpa [List.replicate_succ] using tail
      | cons byte rest =>
          have tail := induction rest extra
          simpa using tail

/-- Overwrites the block from `offset` on; meant for a payload that ends inside
the block. -/
def splice {size : Nat} (block : ByteArr size) (offset : Nat) (payload : Bytes) : ByteArr size :=
  fit size (block.toList.take offset ++ payload ++ block.toList.drop (offset + payload.length))

theorem splice_to_list {size : Nat} (block : ByteArr size) {offset : Nat} {payload : Bytes}
    (inside : offset + payload.length ≤ size) :
    (splice block offset payload).toList =
      block.toList.take offset ++ payload ++ block.toList.drop (offset + payload.length) := by
  apply fit_of_length
  simp only [List.length_append, List.length_take, List.length_drop, List.Vector.toList_length]
  omega

theorem splice_get {size : Nat} (block : ByteArr size) {offset : Nat} {payload : Bytes}
    (inside : offset + payload.length ≤ size) (position : Nat) :
    (splice block offset payload).toList[position]? =
      if offset ≤ position ∧ position < offset + payload.length then payload[position - offset]?
      else block.toList[position]? := by
  have front : (block.toList.take offset).length = offset := by
    rw [List.length_take, List.Vector.toList_length]
    omega
  rw [splice_to_list block inside]
  by_cases before : position < offset
  · rw [if_neg (by omega), List.append_assoc, List.getElem?_append_left (by omega),
      List.getElem?_take_of_lt before]
  · by_cases within : position < offset + payload.length
    · rw [if_pos ⟨by omega, within⟩, List.getElem?_append_left (by rw [List.length_append]; omega),
        List.getElem?_append_right (by omega), front]
    · rw [if_neg (by omega), List.getElem?_append_right (by rw [List.length_append]; omega),
        List.length_append, front, List.getElem?_drop]
      congr 1
      omega

structure Layout (Value : Type) (size : Nat) where
  encode : Value → Bytes
  decode : Bytes → Value
  encode_length : ∀ value, (encode value).length = size
  decode_encode : ∀ value, decode (encode value) = value
  encode_decode : ∀ bytes, bytes.length = size → encode (decode bytes) = bytes

namespace Layout

variable {Left Right Value Other : Type} {leftSize rightSize size : Nat}

def byte : Layout UInt8 1 where
  encode value := [value]
  decode bytes := bytes.headD 0
  encode_length _ := rfl
  decode_encode _ := rfl
  encode_decode bytes exact := by
    match bytes, exact with
    | [_], _ => rfl

def u16 : Layout UInt16 2 where
  encode value := leBytes 2 value.toNat
  decode bytes := UInt16.ofNat (leValue bytes)
  encode_length _ := le_bytes_length _ _
  decode_encode value := by
    apply UInt16.toNat_inj.mp
    have bounded := value.toNat_lt
    rw [le_value_bytes, UInt16.toNat_ofNat']
    omega
  encode_decode bytes exact := by
    have bounded := le_value_lt bytes
    rw [exact] at bounded
    rw [UInt16.toNat_ofNat', Nat.mod_eq_of_lt (by simpa using bounded), ← exact, le_bytes_value]

def u32 : Layout UInt32 4 where
  encode value := leBytes 4 value.toNat
  decode bytes := UInt32.ofNat (leValue bytes)
  encode_length _ := le_bytes_length _ _
  decode_encode value := by
    apply UInt32.toNat_inj.mp
    have bounded := value.toNat_lt
    rw [le_value_bytes, UInt32.toNat_ofNat']
    omega
  encode_decode bytes exact := by
    have bounded := le_value_lt bytes
    rw [exact] at bounded
    rw [UInt32.toNat_ofNat', Nat.mod_eq_of_lt (by simpa using bounded), ← exact, le_bytes_value]

def block (size : Nat) : Layout (ByteArr size) size where
  encode value := value.toList
  decode bytes := fit size bytes
  encode_length value := value.toList_length
  decode_encode value := fit_to_list value
  encode_decode _ exact := fit_of_length exact

/-- The second value is stored right after the first, with no padding. -/
def pair (left : Layout Left leftSize) (right : Layout Right rightSize) :
    Layout (Left × Right) (leftSize + rightSize) where
  encode value := left.encode value.1 ++ right.encode value.2
  decode bytes := (left.decode (bytes.take leftSize), right.decode (bytes.drop leftSize))
  encode_length value := by
    rw [List.length_append, left.encode_length, right.encode_length]
  decode_encode value := by
    have split := left.encode_length value.1
    simp only [List.take_left' split, List.drop_left' split, left.decode_encode,
      right.decode_encode]
  encode_decode bytes exact := by
    have headSize : (bytes.take leftSize).length = leftSize := by
      rw [List.length_take, exact]
      omega
    have tailSize : (bytes.drop leftSize).length = rightSize := by
      rw [List.length_drop, exact]
      omega
    rw [left.encode_decode _ headSize, right.encode_decode _ tailSize]
    exact List.take_append_drop leftSize bytes

def iso (layout : Layout Value size) (equivalence : Value ≃ Other) : Layout Other size where
  encode value := layout.encode (equivalence.symm value)
  decode bytes := equivalence (layout.decode bytes)
  encode_length value := layout.encode_length _
  decode_encode value := by rw [layout.decode_encode, Equiv.apply_symm_apply]
  encode_decode bytes exact := by rw [Equiv.symm_apply_apply, layout.encode_decode bytes exact]

def i32 : Layout Int32 4 :=
  u32.iso ⟨Int32.ofUInt32, Int32.toUInt32, fun _ => rfl, fun _ => rfl⟩

def decodeMany (layout : Layout Value size) : Nat → Bytes → List Value
  | 0, _ => []
  | count + 1, bytes =>
      layout.decode (bytes.take size) :: layout.decodeMany count (bytes.drop size)

theorem decode_many_length (layout : Layout Value size) (count : Nat) (bytes : Bytes) :
    (layout.decodeMany count bytes).length = count := by
  induction count generalizing bytes with
  | zero => rfl
  | succ count induction => rw [decodeMany, List.length_cons, induction]

theorem decode_many_encode (layout : Layout Value size) (values : List Value) :
    layout.decodeMany values.length (values.flatMap layout.encode) = values := by
  induction values with
  | nil => rfl
  | cons value rest induction =>
      have split := layout.encode_length value
      rw [List.length_cons, decodeMany, List.flatMap_cons, List.take_left' split,
        List.drop_left' split, layout.decode_encode, induction]

theorem encode_decode_many (layout : Layout Value size) {count : Nat} {bytes : Bytes}
    (exact : bytes.length = count * size) :
    (layout.decodeMany count bytes).flatMap layout.encode = bytes := by
  induction count generalizing bytes with
  | zero =>
      rw [Nat.zero_mul] at exact
      rw [List.eq_nil_of_length_eq_zero exact]
      rfl
  | succ count induction =>
      rw [Nat.succ_mul] at exact
      have headSize : (bytes.take size).length = size := by
        rw [List.length_take, exact]
        omega
      have tailSize : (bytes.drop size).length = count * size := by
        rw [List.length_drop, exact]
        omega
      rw [decodeMany, List.flatMap_cons, layout.encode_decode _ headSize, induction tailSize,
        List.take_append_drop]

/-- Values of one layout, one after the other. -/
def array (layout : Layout Value size) (count : Nat) :
    Layout (List.Vector Value count) (count * size) where
  encode values := values.toList.flatMap layout.encode
  decode bytes := ⟨layout.decodeMany count bytes, layout.decode_many_length count bytes⟩
  encode_length values := by
    simp [List.length_flatMap, layout.encode_length]
  decode_encode values := by
    apply List.Vector.eq
    have whole := layout.decode_many_encode values.toList
    rw [values.toList_length] at whole
    exact whole
  encode_decode bytes exact := layout.encode_decode_many exact

theorem decode_append (layout : Layout Value size) (value : Value) (suffix : Bytes) :
    layout.decode ((layout.encode value ++ suffix).take size) = value := by
  rw [List.take_left' (layout.encode_length value), layout.decode_encode]

/-- An encoding and what follows it are both determined by the bytes. -/
theorem encode_append_inj (layout : Layout Value size) {first second : Value}
    {suffix other : Bytes} (same : layout.encode first ++ suffix = layout.encode second ++ other) :
    first = second ∧ suffix = other := by
  have lengths : (layout.encode first).length = (layout.encode second).length := by
    rw [layout.encode_length, layout.encode_length]
  obtain ⟨encodings, suffixes⟩ := List.append_inj same lengths
  have decoded := congrArg layout.decode encodings
  rw [layout.decode_encode, layout.decode_encode] at decoded
  exact ⟨decoded, suffixes⟩

end Layout

end ByteLayout
