import BlindNet.Lib.Layout
import Mathlib.Data.List.TakeWhile

/-!
# NUL-terminated strings in fixed fields

The text of a field is what stands before its first NUL. Two fields of
different widths hold the same string when their texts are equal.
-/

namespace CString

set_option autoImplicit false

open ByteLayout

def text (field : Bytes) : Bytes := field.takeWhile (· != 0)

def utf8 (string : String) : Bytes := string.toList.flatMap String.utf8EncodeChar

theorem utf8_char_ne_zero {character : Char} (nonzero : character ≠ Char.ofNat 0) {byte : UInt8}
    (member : byte ∈ String.utf8EncodeChar character) : byte ≠ 0 := by
  have positive : character.val.toNat ≠ 0 := by
    intro zero
    apply nonzero
    apply Char.ext
    exact UInt32.toNat_inj.mp zero
  have small : ∀ value : Nat, 0 < value → value < 256 → UInt8.ofNat value ≠ 0 := by
    intro value above below zero
    have wrapped := congrArg UInt8.toNat zero
    rw [UInt8.toNat_ofNat'] at wrapped
    change value % 256 = 0 at wrapped
    omega
  simp only [String.utf8EncodeChar] at member
  split_ifs at member with one two three
  all_goals
    simp only [List.mem_cons, List.not_mem_nil, or_false] at member
  · rw [member]
    exact small _ (by omega) (by omega)
  · rcases member with rfl | rfl
    · exact small _ (by omega) (by omega)
    · exact small _ (by omega) (by omega)
  · rcases member with rfl | rfl | rfl
    · exact small _ (by omega) (by omega)
    · exact small _ (by omega) (by omega)
    · exact small _ (by omega) (by omega)
  · rcases member with rfl | rfl | rfl | rfl
    · exact small _ (by omega) (by omega)
    · exact small _ (by omega) (by omega)
    · exact small _ (by omega) (by omega)
    · exact small _ (by omega) (by omega)

theorem utf8_ne_zero {string : String} (clean : Char.ofNat 0 ∉ string.toList) :
    ∀ byte ∈ utf8 string, byte ≠ 0 := by
  intro byte member
  obtain ⟨character, inside, encoded⟩ := List.mem_flatMap.mp member
  apply utf8_char_ne_zero _ encoded
  rintro rfl
  exact clean inside

theorem text_ne_zero {field : Bytes} {byte : UInt8} (member : byte ∈ text field) : byte ≠ 0 := by
  have kept := List.mem_takeWhile_imp member
  simpa using kept

theorem text_cons_zero (rest : Bytes) : text (0 :: rest) = [] := by
  simp [text]

theorem text_cons {byte : UInt8} (nonzero : byte ≠ 0) (rest : Bytes) :
    text (byte :: rest) = byte :: text rest := by
  simp [text, nonzero]

theorem text_length_lt_iff (field : Bytes) :
    (text field).length < field.length ↔ 0 ∈ field := by
  induction field with
  | nil => simp [text]
  | cons byte rest induction =>
      by_cases zero : byte = 0
      · simp [zero, text_cons_zero]
      · simp [text_cons zero, induction, Ne.symm zero]

theorem text_append_nul (field rest : Bytes) : text (field ++ 0 :: rest) = text field := by
  induction field with
  | nil => exact text_cons_zero rest
  | cons byte field induction =>
      by_cases zero : byte = 0
      · rw [zero, List.cons_append, text_cons_zero, text_cons_zero]
      · rw [List.cons_append, text_cons zero, text_cons zero, induction]

/-- What follows the first NUL does not matter. -/
theorem text_append_zero {string : Bytes} (clean : ∀ byte ∈ string, byte ≠ 0) (rest : Bytes) :
    text (string ++ 0 :: rest) = string := by
  induction string with
  | nil => exact text_cons_zero rest
  | cons byte tail induction =>
      have nonzero := clean byte List.mem_cons_self
      rw [List.cons_append, text_cons nonzero,
        induction fun other member => clean other (List.mem_cons_of_mem _ member)]

theorem text_clean {string : Bytes} (clean : ∀ byte ∈ string, byte ≠ 0) : text string = string := by
  rw [← text_append_nul string [], text_append_zero clean]

theorem text_take {field : Bytes} {size : Nat} (terminated : 0 ∈ field.take size) :
    text (field.take size) = text field := by
  induction field generalizing size with
  | nil => simp
  | cons byte rest induction =>
      cases size with
      | zero => simp at terminated
      | succ size =>
          by_cases zero : byte = 0
          · rw [List.take_succ_cons, zero, text_cons_zero, text_cons_zero]
          · have inner : 0 ∈ rest.take size := by
              simpa [Ne.symm zero] using terminated
            rw [List.take_succ_cons, text_cons zero, text_cons zero, induction inner]

theorem text_fit {size : Nat} {string : Bytes} (clean : ∀ byte ∈ string, byte ≠ 0)
    (short : string.length < size) : text (fit size string).toList = string := by
  obtain ⟨spare, padding⟩ : ∃ spare, size - string.length = spare + 1 :=
    ⟨size - string.length - 1, by omega⟩
  rw [fit_short (Nat.le_of_lt short), padding, List.replicate_succ, text_append_zero clean]

/-! ## Lower case -/

def toLower (byte : UInt8) : UInt8 := if 65 ≤ byte ∧ byte ≤ 90 then byte + 32 else byte

def lower : Bytes → Bytes
  | [] => []
  | byte :: rest => if byte = 0 then byte :: rest else toLower byte :: lower rest

theorem lower_length (field : Bytes) : (lower field).length = field.length := by
  induction field with
  | nil => rfl
  | cons byte rest induction =>
      unfold lower
      split
      · rfl
      · rw [List.length_cons, List.length_cons, induction]

theorem to_lower_ne_zero {byte : UInt8} (nonzero : byte ≠ 0) : toLower byte ≠ 0 := by
  unfold toLower
  split
  · rename_i letter
    obtain ⟨low, high⟩ := letter
    intro zero
    have wrapped := congrArg UInt8.toNat zero
    rw [UInt8.toNat_add] at wrapped
    rw [UInt8.le_iff_toNat_le] at low high
    change 65 ≤ byte.toNat at low
    change byte.toNat ≤ 90 at high
    change (byte.toNat + 32) % 256 = 0 at wrapped
    omega
  · exact nonzero

theorem text_lower (field : Bytes) : text (lower field) = (text field).map toLower := by
  induction field with
  | nil => rfl
  | cons byte rest induction =>
      unfold lower
      by_cases zero : byte = 0
      · rw [if_pos zero, zero, text_cons_zero, List.map_nil]
      · rw [if_neg zero, text_cons zero, text_cons (to_lower_ne_zero zero), List.map_cons,
          induction]

end CString
