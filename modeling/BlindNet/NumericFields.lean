import BlindNet.FormSubmission
import BlindNet.Lib.Words

/-!
# Numbers in form fields

`parse_u32_field` and `parse_amino_ids` leave the conversion to `strtoul`. On texts of
digits, and of digits and separators, they read decimal numbers and nothing else. `strtoul`
also skips white space, takes a sign, wraps a negative number and answers the largest value
for one that does not fit; the parsers accept all of that.
-/

namespace BlindNet

set_option autoImplicit false

open ByteLayout CNumber Words

/-! ## The intended grammar -/

structure PlainDecimal (text : Bytes) : Prop where
  nonempty : text ≠ []
  digits : ∀ byte ∈ text, isDigit byte = true

structure PlainU32 (text : Bytes) (value : UInt32) : Prop where
  plain : PlainDecimal text
  value : magnitude text = value.toNat

/-- Words of digits between separators, which stand for the ids in order. -/
structure PlainAminoIds (text : Bytes) (ids : List Int32) : Prop where
  plain : ∀ word ∈ words aminoSeparator text, PlainDecimal word
  values : (words aminoSeparator text).map (fun word => (magnitude word : Int)) =
    ids.map Int32.toInt
  ids : AminoIds ids

/-! ## One number -/

theorem parse_u32_field_iff {text : Bytes} {value : UInt32} :
    parseU32Field text = some value ↔
      ∃ numeral : Numeral, text = numeral.text ∧ value = wrap numeral.value := by
  constructor
  · intro parsed
    obtain ⟨number, read, rfl⟩ := parse_u32_field_some parsed
    obtain ⟨numeral, isText, rfl⟩ := read_decimal_iff.mp read
    exact ⟨numeral, isText, rfl⟩
  · rintro ⟨numeral, rfl, rfl⟩
    have scanned := read_decimal_some (read_decimal_iff.mpr ⟨numeral, rfl, rfl⟩)
    rw [parseU32Field, if_neg numeral.text_ne_nil, strtoul, scanned]
    rfl

theorem wrap_magnitude {count : Nat} (small : count < 2 ^ 32) :
    (wrap (count : Int)).toNat = count := by
  have whole := @wrap_of_nonneg (count : Int) (Int.natCast_nonneg count) (by omega)
  omega

theorem plain_u32_accepted {text : Bytes} {value : UInt32} (plain : PlainU32 text value) :
    parseU32Field text = some value := by
  obtain ⟨numeral, bare, rfl⟩ := Numeral.exists_bare plain.plain.nonempty plain.plain.digits
  have small := value.toNat_lt
  rw [parse_u32_field_iff]
  refine ⟨numeral, bare.text.symm, ?_⟩
  apply UInt32.toNat_inj.mp
  rw [bare.value, plain.value, wrap_magnitude small]

/-- The field is read as intended exactly when it is no number with a blank or a sign in
front of its digits, and none that does not fit. -/
theorem parse_u32_field_bare_iff (text : Bytes) :
    (∀ value, parseU32Field text = some value ↔ PlainU32 text value) ↔
      ∀ numeral : Numeral, text = numeral.text →
        numeral.Bare ∧ magnitude numeral.digits < 2 ^ 32 := by
  constructor
  · rintro intended numeral rfl
    have plain := (intended _).mp (parse_u32_field_iff.mpr ⟨numeral, rfl, rfl⟩)
    have bare := Numeral.bare_of_digits plain.plain.digits
    have small := (wrap numeral.value).toNat_lt
    rw [← plain.value, bare.text] at small
    exact ⟨bare, small⟩
  · intro written value
    constructor
    · intro parsed
      obtain ⟨numeral, rfl, rfl⟩ := parse_u32_field_iff.mp parsed
      obtain ⟨bare, small⟩ := written numeral rfl
      rw [bare.text, bare.value]
      exact ⟨⟨numeral.nonempty, numeral.decimal⟩, (wrap_magnitude small).symm⟩
    · exact plain_u32_accepted

/-! ## Lists of ids -/

theorem separator_not_digit {byte : UInt8} (separator : aminoSeparator byte = true) :
    isDigit byte = false := by
  have every : ∀ byte : UInt8, aminoSeparator byte = true → isDigit byte = false :=
    forall_byte (by decide +kernel)
  exact every byte separator

def DigitsAndSeparators (text : Bytes) : Prop :=
  ∀ byte ∈ text, isDigit byte = true ∨ aminoSeparator byte = true

/-- Numbers between separators. What stands in front of the digits of a number does not
begin with a separator. -/
inductive AminoList : List Numeral → Bytes → Prop
  | done {text : Bytes} (blank : ∀ byte ∈ text, aminoSeparator byte = true) : AminoList [] text
  | item {separators rest : Bytes} {numeral : Numeral} {numerals : List Numeral}
      (between : ∀ byte ∈ separators, aminoSeparator byte = true)
      (starts : ∀ byte ∈ numeral.text.head?, aminoSeparator byte = false)
      (ends : ∀ byte ∈ rest.head?, aminoSeparator byte = true)
      (later : AminoList numerals rest) :
      AminoList (numeral :: numerals) (separators ++ (numeral.text ++ rest))

theorem amino_list_of_read {rounds : Nat} {text : Bytes} {numbers : List Int}
    (read : readAminoRounds rounds text = some numbers) :
    ∃ numerals, AminoList numerals text ∧ numbers = numerals.map Numeral.value := by
  induction rounds generalizing text numbers with
  | zero => cases read
  | succ rounds induction =>
      rcases read_amino_rounds_some read with
        ⟨empty, rfl⟩ | ⟨fewer, number, rest, others, count, _, scanned, more, rfl, ends⟩
      · exact ⟨[], .done (List.dropWhile_eq_nil_iff.mp empty), rfl⟩
      · cases count
        obtain ⟨numerals, later, rfl⟩ := induction more
        obtain ⟨numeral, split, rfl, -⟩ := scan_numeral scanned
        have whole : text.takeWhile aminoSeparator ++ (numeral.text ++ rest) = text := by
          rw [← split, List.takeWhile_append_dropWhile]
        refine ⟨numeral :: numerals, ?_, rfl⟩
        rw [← whole]
        refine .item (fun byte => List.mem_takeWhile_imp) ?_ ends later
        intro byte head
        have stopped := List.head?_dropWhile_not aminoSeparator text
        rw [split, List.head?_append_of_ne_nil _ numeral.text_ne_nil, Option.mem_def.mp head]
          at stopped
        exact stopped

theorem AminoList.read {numerals : List Numeral} {text : Bytes} (list : AminoList numerals text)
    {rounds : Nat} (enough : text.length < rounds) :
    readAminoRounds rounds text = some (numerals.map Numeral.value) := by
  induction list generalizing rounds with
  | done blank =>
      cases rounds with
      | zero => omega
      | succ rounds => rw [readAminoRounds, if_pos (List.dropWhile_eq_nil_iff.mpr blank)]; rfl
  | @item separators rest numeral numerals between starts ends later induction =>
      cases rounds with
      | zero => omega
      | succ rounds =>
          have dropped : (separators ++ (numeral.text ++ rest)).dropWhile aminoSeparator =
              numeral.text ++ rest := by
            rw [List.dropWhile_append_of_pos between]
            cases front : numeral.text with
            | nil => exact absurd front numeral.text_ne_nil
            | cons byte others =>
                rw [List.cons_append, List.dropWhile_cons_of_neg]
                simp [starts byte (by rw [front]; rfl)]
          have stopped : ∀ byte ∈ rest.head?, isDigit byte = false :=
            fun byte head => separator_not_digit (ends byte head)
          have follows : ¬ (rest ≠ [] ∧ (!aminoSeparator (rest.headD 0)) = true) := by
            cases rest with
            | nil => simp
            | cons byte others => simp [ends byte rfl]
          have shorter : rest.length < rounds := by
            have positive := List.length_pos_of_ne_nil numeral.text_ne_nil
            simp only [List.length_append] at enough
            omega
          have nonempty : numeral.text ++ rest ≠ [] := by simp [numeral.text_ne_nil]
          rw [readAminoRounds, dropped, if_neg nonempty, numeral.scan_text stopped]
          simp only [if_neg follows, induction shorter, Option.map_some, List.map_cons]

theorem digits_and_separators_append {first second : Bytes} :
    DigitsAndSeparators (first ++ second) ↔
      DigitsAndSeparators first ∧ DigitsAndSeparators second :=
  List.forall_mem_append

/-- Digits and separators are a list of bare numbers, the words of the text. -/
theorem amino_list_of_written {text : Bytes} (written : DigitsAndSeparators text) :
    ∃ numerals, AminoList numerals text ∧ (∀ numeral ∈ numerals, numeral.Bare) ∧
      words aminoSeparator text = numerals.map Numeral.digits := by
  induction size : text.length using Nat.strong_induction_on generalizing text with
  | _ size induction =>
      subst size
      rcases @words_cases _ aminoSeparator text with
        ⟨blank, none⟩ | ⟨word, rest, split, nonempty, inside, ended, first⟩
      · exact ⟨[], .done (List.dropWhile_eq_nil_iff.mp blank), by simp, none⟩
      · have whole : text.takeWhile aminoSeparator ++ (word ++ rest) = text := by
          rw [← split, List.takeWhile_append_dropWhile]
        rw [← whole, digits_and_separators_append, digits_and_separators_append] at written
        obtain ⟨-, inWord, inRest⟩ := written
        have digits : ∀ byte ∈ word, isDigit byte = true := fun byte member =>
          (inWord byte member).resolve_right (by simp [inside byte member])
        have shorter : rest.length < text.length := by
          have positive := List.length_pos_of_ne_nil nonempty
          have sizes := congrArg List.length whole
          simp only [List.length_append] at sizes
          omega
        obtain ⟨numerals, later, bare, others⟩ := induction _ shorter inRest rfl
        obtain ⟨numeral, isBare, rfl⟩ := Numeral.exists_bare nonempty digits
        refine ⟨numeral :: numerals, ?_, List.forall_mem_cons.mpr ⟨isBare, bare⟩, ?_⟩
        · rw [← isBare.text] at whole inside
          rw [← whole]
          exact .item (fun _ => List.mem_takeWhile_imp)
            (fun byte head => inside byte (List.mem_of_mem_head? head)) ended later
        · rw [first, others, List.map_cons]

theorem read_amino_words {text : Bytes} (written : DigitsAndSeparators text) :
    (∀ word ∈ words aminoSeparator text, PlainDecimal word) ∧
      readAminoList text =
        some ((words aminoSeparator text).map fun word => (magnitude word : Int)) := by
  obtain ⟨numerals, list, bare, isWords⟩ := amino_list_of_written written
  rw [isWords, readAminoList, list.read (Nat.lt_succ_self _), List.map_map]
  constructor
  · intro word member
    obtain ⟨numeral, -, rfl⟩ := List.mem_map.mp member
    exact ⟨numeral.nonempty, numeral.decimal⟩
  · rw [Option.some.injEq]
    exact List.map_congr_left fun numeral member => (bare numeral member).value

theorem valid_amino_bounds {id : Int32} (valid : aminoAcidIdValid id = true) :
    0 ≤ id.toInt ∧ id.toInt ≤ 65535 := by
  obtain ⟨acid, found⟩ := Option.isSome_iff_exists.mp valid
  obtain ⟨listed, rfl⟩ := amino_acid_find_spec found
  have every : ∀ acid ∈ aminoAcids, 0 ≤ acid.id.toInt ∧ acid.id.toInt ≤ 65535 := by decide
  exact every acid listed

theorem amino_of_magnitude {count : Nat} (small : (wrap (count : Int)).toNat ≤ 65535) :
    (count : Int) = (aminoOf count).toInt := by
  have fits : count < 2 ^ 32 := by
    by_contra large
    have top : wrap (count : Int) = 0xFFFFFFFF := if_neg (by omega)
    rw [top] at small
    exact absurd small (by decide)
  rw [amino_of_to_int small, wrap_magnitude fits]

theorem plain_words_written {text : Bytes}
    (plain : ∀ word ∈ words aminoSeparator text, PlainDecimal word) : DigitsAndSeparators text := by
  intro byte member
  rcases @words_cover _ aminoSeparator text byte member with separator | ⟨word, known, holds⟩
  · exact Or.inr separator
  · exact Or.inl ((plain word known).digits byte holds)

theorem plain_amino_ids_accepted {text : Bytes} {ids : List Int32}
    (plain : PlainAminoIds text ids) : parseAminoIds text = some ids := by
  have read := (read_amino_words (plain_words_written plain.plain)).2
  have small : ∀ number ∈ (words aminoSeparator text).map fun word => (magnitude word : Int),
      (wrap number).toNat ≤ 65535 := by
    rw [plain.values]
    intro number member
    obtain ⟨id, known, rfl⟩ := List.mem_map.mp member
    obtain ⟨low, high⟩ := valid_amino_bounds (plain.ids.valid id known)
    have kept := wrap_of_nonneg low (by omega)
    omega
  refine parse_amino_ids_iff.mpr ⟨_, read, ?_, small, plain.ids⟩
  -- The ids made of the numbers have the same integers as the ids of the list.
  apply List.map_injective_iff.mpr fun _ _ same => Int32.toInt_inj.mp same
  rw [← plain.values, List.map_map, List.map_map]
  apply List.map_congr_left
  intro word member
  exact amino_of_magnitude (small _ (List.mem_map_of_mem member))

theorem plain_of_accepted {text : Bytes} {ids : List Int32} (written : DigitsAndSeparators text)
    (parsed : parseAminoIds text = some ids) : PlainAminoIds text ids := by
  obtain ⟨plain, read⟩ := read_amino_words written
  obtain ⟨numbers, readNumbers, made, small, good⟩ := parse_amino_ids_iff.mp parsed
  have same : numbers = (words aminoSeparator text).map fun word => (magnitude word : Int) :=
    Option.some.inj (readNumbers.symm.trans read)
  refine ⟨plain, ?_, good⟩
  rw [made, same, List.map_map, List.map_map]
  apply List.map_congr_left
  intro word member
  apply amino_of_magnitude
  apply small
  rw [same]
  exact List.mem_map_of_mem member

theorem bare_iff_written {numeral : Numeral}
    (starts : ∀ byte ∈ numeral.text.head?, aminoSeparator byte = false) :
    DigitsAndSeparators numeral.text ↔ numeral.Bare := by
  constructor
  · intro written
    have sign : numeral.sign = [] := by
      rcases numeral.signed with none | plus | minus
      · exact none
      · exact absurd (written 43 (by simp [Numeral.text, plus])) (by decide)
      · exact absurd (written 45 (by simp [Numeral.text, minus])) (by decide)
    refine ⟨?_, sign⟩
    -- a blank in front is a separator, and no separator begins the number
    cases front : numeral.blanks with
    | nil => rfl
    | cons byte others =>
        rcases written byte (by simp [Numeral.text, front]) with digit | separator
        · have blank := numeral.blank byte (by simp [front])
          rw [(digit_neither digit).1] at blank
          cases blank
        · rw [starts byte (by simp [Numeral.text, front])] at separator
          cases separator
  · intro bare byte member
    rw [bare.text] at member
    exact Or.inl (numeral.decimal byte member)

theorem AminoList.written_iff {numerals : List Numeral} {text : Bytes}
    (list : AminoList numerals text) :
    DigitsAndSeparators text ↔ ∀ numeral ∈ numerals, numeral.Bare := by
  induction list with
  | done blank =>
      exact iff_of_true (fun byte member => Or.inr (blank byte member)) (by simp)
  | @item separators rest numeral numerals between starts ends later induction =>
      have inFront : DigitsAndSeparators separators :=
        fun byte member => Or.inr (between byte member)
      rw [digits_and_separators_append, digits_and_separators_append, induction,
        bare_iff_written starts, List.forall_mem_cons]
      exact and_iff_right inFront

/-- The list is read as intended exactly when no blank and no sign stands in front of the
digits in a list that passes the checks. -/
theorem parse_amino_ids_bare_iff (text : Bytes) :
    (∀ ids, parseAminoIds text = some ids ↔ PlainAminoIds text ids) ↔
      ∀ numerals ids, AminoList numerals text → AminoNumbers (numerals.map Numeral.value) ids →
        ∀ numeral ∈ numerals, numeral.Bare := by
  constructor
  · intro intended numerals ids list accepted
    have plain := (intended ids).mp
      (parse_amino_ids_iff.mpr ⟨_, list.read (Nat.lt_succ_self _), accepted⟩)
    exact list.written_iff.mp (plain_words_written plain.plain)
  · intro bare ids
    constructor
    · intro parsed
      obtain ⟨numbers, read, accepted⟩ := parse_amino_ids_iff.mp parsed
      obtain ⟨numerals, list, rfl⟩ := amino_list_of_read read
      exact plain_of_accepted (list.written_iff.mpr (bare numerals ids list accepted)) parsed
    · exact plain_amino_ids_accepted

/-- Over every string in memory: the first parser accepts decimal numbers and nothing else
exactly when the string is no number with a blank or a sign in front of its digits and none
of `2^32` or more, the second one exactly when it is no list that passes the checks with a
blank or a sign in front of some digits. -/
theorem numeric_parsers_exact_iff (memory : Bytes) :
    ((∀ value, parseU32Field (CString.text memory) = some value ↔
        PlainU32 (CString.text memory) value) ↔
      ∀ numeral : Numeral, CString.text memory = numeral.text →
        numeral.Bare ∧ magnitude numeral.digits < 2 ^ 32) ∧
    ((∀ ids, parseAminoIds (CString.text memory) = some ids ↔
        PlainAminoIds (CString.text memory) ids) ↔
      ∀ numerals ids, AminoList numerals (CString.text memory) →
        AminoNumbers (numerals.map Numeral.value) ids → ∀ numeral ∈ numerals, numeral.Bare) :=
  ⟨parse_u32_field_bare_iff _, parse_amino_ids_bare_iff _⟩

/-- A sign, an overflow and a line feed in front of a number are accepted. -/
theorem signs_and_overflow_accepted :
    parseU32Field (CString.utf8 "-1") = some 4294967295 ∧
      (∀ value, ¬ PlainU32 (CString.utf8 "-1") value) ∧
      parseU32Field (CString.utf8 "99999999999") = some 4294967295 ∧
      ¬ PlainU32 (CString.utf8 "99999999999") 4294967295 ∧
      parseAminoIds (CString.utf8 "+1,\n2") = some [1, 2] ∧
      ∀ ids, ¬ PlainAminoIds (CString.utf8 "+1,\n2") ids := by
  refine ⟨by decide +kernel, ?_, by decide +kernel, ?_, by decide +kernel, ?_⟩
  · intro value plain
    have minus := plain.plain.digits 45 (by decide +kernel)
    exact absurd minus (by decide)
  · intro plain
    exact absurd plain.value (by decide +kernel)
  · intro ids plain
    have written := plain_words_written plain.plain 43 (by decide +kernel)
    exact absurd written (by decide)

end BlindNet
