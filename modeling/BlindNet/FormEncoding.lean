import BlindNet.FormSubmission
import BlindNet.Lib.FormText

/-!
# Form decoding

What `form_get_value` finds in the text that a client made of a list of names and values:
the first value of that name, whole, if the buffer can hold it. The tools send their forms
through `urllib.parse.urlencode`.
-/

namespace BlindNet

set_option autoImplicit false

open ByteLayout FormText

/-- The bytes that `urllib.parse.urlencode` leaves as they are. -/
def urlencodeAlphabet : Alphabet where
  literal byte := wordByte byte || byte == 45 || byte == 46 || byte == 126
  word byte isWord := by rw [isWord]; rfl
  marks := by decide +kernel

/-- `form_get_value` for any key in memory; a buffer of no bytes is refused. -/
def formGetValueBytes (body key : Bytes) (outSize : Nat) : Option Bytes :=
  if outSize = 0 then
    none
  else
    (formSegment body key).map fun segment => CString.text (urlDecodeN (outSize - 1) segment)

theorem form_get_value_bytes (body : Bytes) (key : String) {outSize : Nat} (room : outSize ≠ 0) :
    formGetValueBytes body (CString.utf8 key) outSize = formGetValue body key outSize :=
  if_neg room

/-! ## Values -/

theorem hex_value_upper_digit : ∀ nibble : Fin 16,
    hexValue (upperDigit nibble) = some nibble.val := by
  decide +kernel

theorem url_decode_escape (byte : UInt8) (rest : Bytes) :
    urlDecode (escape byte ++ rest) = byte :: urlDecode rest := by
  have small := byte.toNat_lt
  have high := hex_value_upper_digit ⟨byte.toNat / 16, by omega⟩
  have low := hex_value_upper_digit ⟨byte.toNat % 16, by omega⟩
  have joined : UInt8.ofNat (16 * (byte.toNat / 16) + byte.toNat % 16) = byte := by
    rw [Nat.div_add_mod, UInt8.ofNat_toNat]
  simp only [escape, List.cons_append, List.nil_append]
  rw [urlDecode, if_neg (by decide), if_pos rfl]
  simp only [high, low, joined]

theorem url_decode_literal {byte : UInt8} (notPlus : byte ≠ 43) (notPercent : byte ≠ 37)
    (rest : Bytes) : urlDecode (byte :: rest) = byte :: urlDecode rest := by
  conv => lhs; unfold urlDecode
  rw [if_neg notPlus, if_neg notPercent]

theorem url_decode_plus (rest : Bytes) : urlDecode (43 :: rest) = 32 :: urlDecode rest := by
  conv => lhs; unfold urlDecode
  rw [if_pos rfl]

theorem url_decode_encode (alphabet : Alphabet) (value : Bytes) :
    urlDecode (alphabet.encode value) = value := by
  unfold Alphabet.encode
  induction value with
  | nil => rw [List.flatMap_nil, urlDecode]
  | cons byte rest induction =>
      rw [List.flatMap_cons, Alphabet.encodeByte]
      split_ifs with space literal
      · rw [List.singleton_append, url_decode_plus, induction, space]
      · have notPlus : byte ≠ 43 := by
          rintro rfl
          rw [alphabet.marks _ (by decide)] at literal
          cases literal
        have notPercent : byte ≠ 37 := by
          rintro rfl
          rw [alphabet.marks _ (by decide)] at literal
          cases literal
        rw [List.singleton_append, url_decode_literal notPlus notPercent, induction]
      · rw [url_decode_escape, induction]

/-! ## Fields -/

theorem field_parts (alphabet : Alphabet) (pair : Bytes × Bytes) :
    fieldName (alphabet.field pair) = alphabet.encode pair.1 ∧
      fieldValue (alphabet.field pair) = alphabet.encode pair.2 := by
  have inName : ∀ byte ∈ alphabet.encode pair.1, (byte != 61) = true := by
    intro byte member
    rw [bne_iff_ne]
    exact (Alphabet.encode_marks member).2.2
  constructor
  · rw [fieldName, Alphabet.field, List.takeWhile_append_of_pos inName,
      List.takeWhile_cons_of_neg (by decide), List.append_nil]
  · rw [fieldValue, Alphabet.field, List.dropWhile_append_of_pos inName,
      List.dropWhile_cons_of_neg (by decide), List.drop_one, List.tail_cons]

/-- The names of the form, and what the scan finds under each. -/
theorem form_segment_form (alphabet : Alphabet) {pairs : List (Bytes × Bytes)}
    (keys : ∀ pair ∈ pairs, ∀ byte ∈ pair.1, wordByte byte = true) (key : Bytes) :
    formSegment (alphabet.form pairs) key = (pairs.lookup key).map alphabet.encode := by
  by_cases given : pairs = []
  · subst given
    rfl
  · have encoded : ∀ part ∈ (alphabet.form pairs).splitOn 38, 61 ∈ part := by
      rw [Alphabet.form_split given]
      intro part member
      obtain ⟨pair, _, rfl⟩ := List.mem_map.mp member
      exact List.mem_append_right _ List.mem_cons_self
    rw [formSegment, form_rounds_fields key (Nat.lt_succ_self _) encoded,
      Alphabet.form_split given]
    clear encoded given
    induction pairs with
    | nil => rfl
    | cons pair rest induction =>
        have named : fieldName (alphabet.field pair) = pair.1 := by
          rw [(field_parts alphabet pair).1,
            Alphabet.encode_word (keys pair List.mem_cons_self)]
        have later := induction fun other member => keys other (List.mem_cons_of_mem _ member)
        by_cases same : pair.1 = key
        · have first : List.lookup key (pair :: rest) = some pair.2 := by
            rw [← same]
            exact List.lookup_cons_self
          rw [first, List.map_cons, List.find?_cons, named, same, beq_self_eq_true]
          exact congrArg some (field_parts alphabet pair).2
        · have other : List.lookup key (pair :: rest) = rest.lookup key := by
            rw [List.lookup_cons, beq_false_of_ne (Ne.symm same)]
          rw [other, List.map_cons, List.find?_cons, named, beq_false_of_ne same]
          exact later

/-! ## The form -/

/-- From the url-encoded text of a list of names and values, every buffer that is larger than
the first value of a name gets exactly that value, and a name that is not in the list is not
found. -/
theorem form_decoding_inverts_encoding (alphabet : Alphabet) (pairs : List (Bytes × Bytes))
    (keys : ∀ pair ∈ pairs, pair.1 ≠ [] ∧ ∀ byte ∈ pair.1, wordByte byte = true)
    (values : ∀ pair ∈ pairs, 0 ∉ pair.2) (key : Bytes) (outSize : Nat) :
    (∀ value, pairs.lookup key = some value → value.length < outSize →
      formGetValueBytes (alphabet.form pairs) key outSize = some value) ∧
    (key ∉ pairs.map Prod.fst →
      formGetValueBytes (alphabet.form pairs) key outSize = none) := by
  have segment := form_segment_form alphabet (fun pair member => (keys pair member).2) key
  constructor
  · intro value bound room
    obtain ⟨early, late, split, _⟩ := List.lookup_eq_some_iff.mp bound
    have member : (key, value) ∈ pairs := by
      rw [split]
      exact List.mem_append_right _ List.mem_cons_self
    have clean : ∀ byte ∈ value, byte ≠ 0 := by
      rintro byte inside rfl
      exact values _ member inside
    rw [formGetValueBytes, if_neg (by omega), segment, bound, Option.map_some, Option.map_some,
      url_decode_n_take, url_decode_encode, List.take_of_length_le (by omega),
      CString.text_clean clean]
  · intro absent
    have unbound : pairs.lookup key = none := by
      rw [List.lookup_eq_none_iff]
      intro pair member
      rw [bne_iff_ne]
      rintro rfl
      exact absent (List.mem_map_of_mem member)
    rw [formGetValueBytes, segment, unbound]
    split_ifs <;> rfl

theorem bench_form_decoded :
    let pairs : List (Bytes × Bytes) :=
      [(CString.utf8 "id", CString.utf8 "a=1&b"), (CString.utf8 "id_2", CString.utf8 "50% +x"),
        (CString.utf8 "id", CString.utf8 "late")]
    formGetValueBytes (urlencodeAlphabet.form pairs) (CString.utf8 "id") 6 =
        some (CString.utf8 "a=1&b") ∧
      formGetValueBytes (urlencodeAlphabet.form pairs) (CString.utf8 "i") 6 = none := by
  intro pairs
  have decoded := form_decoding_inverts_encoding urlencodeAlphabet pairs (by decide +kernel)
    (by decide +kernel)
  exact ⟨(decoded (CString.utf8 "id") 6).1 _ (by decide +kernel) (by decide +kernel),
    (decoded (CString.utf8 "i") 6).2 (by decide +kernel)⟩

end BlindNet
