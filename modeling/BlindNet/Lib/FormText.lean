import BlindNet.Lib.Layout

/-!
# Forms as url-encoded text

The `application/x-www-form-urlencoded` text of a list of names and values. Serializers
agree on everything but the punctuation they leave as it is, so the set of literal bytes is
a parameter: it has the letters, digits and the underscore, and none of the marks that the
text itself uses.
-/

namespace FormText

set_option autoImplicit false

open ByteLayout

def wordByte (byte : UInt8) : Bool :=
  (48 ≤ byte && byte ≤ 57) || (65 ≤ byte && byte ≤ 90) || (97 ≤ byte && byte ≤ 122) || byte == 95

structure Alphabet where
  literal : UInt8 → Bool
  word : ∀ byte, wordByte byte = true → literal byte = true
  marks : ∀ byte ∈ [0, 32, 37, 38, 43, 61], literal byte = false

def upperDigit (nibble : Nat) : UInt8 :=
  UInt8.ofNat (if nibble < 10 then 48 + nibble else 55 + nibble)

def escape (byte : UInt8) : Bytes :=
  [37, upperDigit (byte.toNat / 16), upperDigit (byte.toNat % 16)]

namespace Alphabet

variable (alphabet : Alphabet)

def encodeByte (byte : UInt8) : Bytes :=
  if byte = 32 then [43] else if alphabet.literal byte then [byte] else escape byte

def encode (text : Bytes) : Bytes := text.flatMap alphabet.encodeByte

def field (pair : Bytes × Bytes) : Bytes :=
  alphabet.encode pair.1 ++ 61 :: alphabet.encode pair.2

def form (pairs : List (Bytes × Bytes)) : Bytes :=
  [38].intercalate (pairs.map alphabet.field)

variable {alphabet}

theorem upper_digit_marks : ∀ nibble : Fin 16,
    upperDigit nibble ≠ 0 ∧ upperDigit nibble ≠ 38 ∧ upperDigit nibble ≠ 61 := by
  decide +kernel

theorem escape_marks {byte mark : UInt8} (member : mark ∈ escape byte) :
    mark ≠ 0 ∧ mark ≠ 38 ∧ mark ≠ 61 := by
  have small := byte.toNat_lt
  simp only [escape, List.mem_cons, List.not_mem_nil, or_false] at member
  rcases member with rfl | rfl | rfl
  · decide
  · exact upper_digit_marks ⟨byte.toNat / 16, by omega⟩
  · exact upper_digit_marks ⟨byte.toNat % 16, by omega⟩

theorem literal_marks {byte : UInt8} (literal : alphabet.literal byte = true) :
    byte ≠ 0 ∧ byte ≠ 38 ∧ byte ≠ 61 := by
  refine ⟨?_, ?_, ?_⟩
  all_goals
    rintro rfl
    rw [alphabet.marks _ (by decide)] at literal
    cases literal

theorem encode_marks {text : Bytes} {mark : UInt8} (member : mark ∈ alphabet.encode text) :
    mark ≠ 0 ∧ mark ≠ 38 ∧ mark ≠ 61 := by
  obtain ⟨byte, _, encoded⟩ := List.mem_flatMap.mp member
  unfold encodeByte at encoded
  split_ifs at encoded with space literal
  · rw [List.mem_singleton.mp encoded]
    decide
  · rw [List.mem_singleton.mp encoded]
    exact literal_marks literal
  · exact escape_marks encoded

theorem encode_word {text : Bytes} (word : ∀ byte ∈ text, wordByte byte = true) :
    alphabet.encode text = text := by
  induction text with
  | nil => rfl
  | cons byte rest induction =>
      have literal := alphabet.word byte (word byte List.mem_cons_self)
      have notSpace : byte ≠ 32 := by
        rintro rfl
        rw [alphabet.marks _ (by decide)] at literal
        cases literal
      have later := induction fun other member => word other (List.mem_cons_of_mem _ member)
      unfold encode at later ⊢
      rw [List.flatMap_cons, later, encodeByte, if_neg notSpace, if_pos literal,
        List.singleton_append]

theorem field_no_ampersand (pair : Bytes × Bytes) : 38 ∉ alphabet.field pair := by
  intro member
  rcases List.mem_append.mp member with name | value
  · exact (encode_marks name).2.1 rfl
  · rcases List.mem_cons.mp value with mark | value
    · exact absurd mark (by decide)
    · exact (encode_marks value).2.1 rfl

/-- The text of a form falls apart into its fields again. -/
theorem form_split {pairs : List (Bytes × Bytes)} (given : pairs ≠ []) :
    (alphabet.form pairs).splitOn 38 = pairs.map alphabet.field := by
  apply List.splitOn_intercalate
  · intro part member
    obtain ⟨pair, _, rfl⟩ := List.mem_map.mp member
    exact field_no_ampersand pair
  · simpa using given

end Alphabet

end FormText
