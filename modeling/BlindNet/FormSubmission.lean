import BlindNet.AdminForm

/-!
# What a form submits

The fields of a url-encoded body in their full length, and the numbers their texts
stand for. A handler sees of each field what its buffer keeps; the lemmas say when
that is the field itself.
-/

namespace BlindNet

set_option autoImplicit false

open ByteLayout CNumber

/-! ## Fields -/

def urlDecode : Bytes → Bytes
  | [] => []
  | byte :: rest =>
      if byte = 43 then
        32 :: urlDecode rest
      else if byte = 37 then
        match rest with
        | hi :: lo :: tail =>
            match hexValue hi, hexValue lo with
            | some high, some low => UInt8.ofNat (16 * high + low) :: urlDecode tail
            | _, _ => byte :: urlDecode (hi :: lo :: tail)
        | other => byte :: urlDecode other
      else
        byte :: urlDecode rest

def fieldName (part : Bytes) : Bytes := part.takeWhile (· != 61)

def fieldValue (part : Bytes) : Bytes := (part.dropWhile (· != 61)).drop 1

/-- Parts between `&` signs, each with a name, `=` and a value, and no NUL. -/
def UrlEncoded (content : Bytes) : Prop :=
  0 ∉ content ∧ ∀ part ∈ content.splitOn 38, 61 ∈ part

structure FormBody where
  content : Bytes
  encoded : UrlEncoded content

def submittedField (content : Bytes) (key : String) : Option Bytes :=
  ((content.splitOn 38).find? fun part => fieldName part == CString.utf8 key).map fun part =>
    urlDecode (fieldValue part)

/-- What a buffer of `size` bytes keeps of a text, read up to its first NUL. -/
def cut (size : Nat) (text : Bytes) : Bytes := CString.text (text.take (size - 1))

theorem cut_length_le (size : Nat) (text : Bytes) : (cut size text).length ≤ size - 1 :=
  le_trans (List.takeWhile_sublist _).length_le (List.length_take_le _ _)

theorem cut_ne_zero {size : Nat} {text : Bytes} : ∀ byte ∈ cut size text, byte ≠ 0 :=
  fun _ member => CString.text_ne_zero member

theorem url_decode_n_take (room : Nat) (segment : Bytes) :
    urlDecodeN room segment = (urlDecode segment).take room := by
  induction room generalizing segment with
  | zero => rw [urlDecodeN, List.take_zero]
  | succ room induction =>
      -- the escape looks at two bytes more, so the segment is split that far
      match segment with
      | [] => rw [urlDecodeN, urlDecode, List.take_nil]
      | [byte] =>
          unfold urlDecodeN urlDecode
          split_ifs <;> simp only [List.take_succ_cons, induction]
      | [byte, next] =>
          unfold urlDecodeN urlDecode
          split_ifs <;> simp only [List.take_succ_cons, induction]
      | byte :: hi :: lo :: tail =>
          rw [urlDecodeN, urlDecode]
          split_ifs
          · rw [List.take_succ_cons, induction]
          · cases hexValue hi <;> cases hexValue lo <;> simp only [List.take_succ_cons, induction]
          · rw [List.take_succ_cons, induction]

theorem split_at_mark_none {mark : UInt8} {text : Bytes} (absent : mark ∉ text) :
    splitAtMark mark text = none := by
  induction text with
  | nil => rfl
  | cons byte rest induction =>
      rw [List.mem_cons, not_or] at absent
      rw [splitAtMark, if_neg (Ne.symm absent.1), induction absent.2]
      rfl

theorem split_at_mark_append {mark : UInt8} {before : Bytes} (absent : mark ∉ before)
    (after : Bytes) : splitAtMark mark (before ++ mark :: after) = some (before, after) := by
  induction before with
  | nil => rw [List.nil_append, splitAtMark, if_pos rfl]
  | cons byte rest induction =>
      rw [List.mem_cons, not_or] at absent
      rw [List.cons_append, splitAtMark, if_neg (Ne.symm absent.1), induction absent.2]
      rfl

theorem not_mem_before (mark : UInt8) (text : Bytes) : mark ∉ text.takeWhile (· != mark) := by
  intro member
  have kept := List.mem_takeWhile_imp member
  simp at kept

theorem around_mark {mark : UInt8} {text : Bytes} (present : mark ∈ text) :
    text = text.takeWhile (· != mark) ++ mark :: (text.dropWhile (· != mark)).drop 1 := by
  have parts := List.takeWhile_append_dropWhile (p := (· != mark)) (l := text)
  cases after : text.dropWhile (· != mark) with
  | nil =>
      rw [after, List.append_nil] at parts
      rw [← parts] at present
      exact absurd present (not_mem_before mark text)
  | cons first rest =>
      have stopped := List.head?_dropWhile_not (· != mark) text
      rw [after] at stopped
      have isMark : first = mark := by simpa using stopped
      rw [after, isMark] at parts
      exact parts.symm

/-- The scan of `form_get_value` visits the parts of a url-encoded body. -/
theorem form_rounds_fields (key : Bytes) {rounds : Nat} {body : Bytes}
    (enough : body.length < rounds) (encoded : ∀ part ∈ body.splitOn 38, 61 ∈ part) :
    formRounds key rounds body =
      ((body.splitOn 38).find? fun part => fieldName part == key).map fieldValue := by
  induction rounds generalizing body with
  | zero => omega
  | succ rounds induction =>
      rw [formRounds]
      by_cases several : 38 ∈ body
      · have split := around_mark several
        have whole := not_mem_before 38 body
        generalize body.takeWhile (· != 38) = part at split whole
        generalize (body.dropWhile (· != 38)).drop 1 = next at split
        have parts : body.splitOn 38 = part :: next.splitOn 38 := by
          rw [split]
          apply List.splitOnP_append_cons_of_forall_mem
          · intro byte member
            rw [beq_eq_false_iff_ne]
            rintro rfl
            exact whole member
          · rfl
        rw [parts] at encoded ⊢
        have named : part = fieldName part ++ 61 :: fieldValue part :=
          around_mark (encoded part List.mem_cons_self)
        have first : splitAtMark 61 body =
            some (fieldName part, fieldValue part ++ 38 :: next) := by
          rw [split]
          conv => lhs; rw [named, List.append_assoc, List.cons_append]
          exact split_at_mark_append (not_mem_before 61 part) _
        have second : splitAtMark 38 (fieldValue part ++ 38 :: next) =
            some (fieldValue part, next) := by
          apply split_at_mark_append
          intro member
          apply whole
          rw [named]
          exact List.mem_append_right _ (List.mem_cons_of_mem _ member)
        have shorter : next.length < rounds := by
          have sizes := congrArg List.length split
          rw [List.length_append, List.length_cons] at sizes
          omega
        simp only [first, second]
        rw [induction shorter fun other member => encoded other (List.mem_cons_of_mem _ member),
          List.find?_cons]
        by_cases same : fieldName part = key
        · simp [same]
        · simp [same, beq_false_of_ne same]
      · have parts : body.splitOn 38 = [body] := List.splitOn_eq_singleton several
        rw [parts] at encoded ⊢
        have named : body = fieldName body ++ 61 :: fieldValue body :=
          around_mark (encoded body List.mem_cons_self)
        have first : splitAtMark 61 body = some (fieldName body, fieldValue body) := by
          conv => lhs; rw [named]
          exact split_at_mark_append (not_mem_before 61 body) _
        have second : splitAtMark 38 (fieldValue body) = none := by
          apply split_at_mark_none
          intro member
          apply several
          rw [named]
          exact List.mem_append_right _ (List.mem_cons_of_mem _ member)
        simp only [first, second, List.find?_cons, List.find?_nil]
        by_cases same : fieldName body = key
        · simp [same]
        · simp [same, beq_false_of_ne same]

theorem form_get_value_submitted (form : FormBody) (key : String) (size : Nat) :
    formGetValue form.content key size = (submittedField form.content key).map (cut size) := by
  rw [formGetValue, formSegment,
    form_rounds_fields _ (Nat.lt_succ_self _) form.encoded.2, submittedField,
    Option.map_map, Option.map_map]
  congr 1
  funext part
  simp only [Function.comp_apply, cut, url_decode_n_take]

theorem FormBody.nonempty (form : FormBody) : form.content ≠ [] := by
  intro empty
  have named := form.encoded.2 [] (by rw [empty]; exact List.mem_cons_self)
  cases named

theorem read_request_body_form (form : FormBody) (size : Nat) :
    readRequestBody (.complete form.content) size =
      if form.content.length = 0 ∨ size ≤ form.content.length then .error .invalidSize
      else .ok form.content := by
  have whole : CString.text form.content = form.content := by
    apply CString.text_clean
    rintro byte member rfl
    exact form.encoded.1 member
  rw [readRequestBody, whole]

/-! ## Numbers -/

theorem cut_eq_take {text : Bytes} (clean : ∀ byte ∈ text, byte ≠ 0) (size : Nat) :
    cut size text = text.take (size - 1) := by
  apply CString.text_clean
  intro byte member
  exact clean byte (List.mem_of_mem_take member)

theorem parse_u32_field_some {text : Bytes} {value : UInt32}
    (parsed : parseU32Field text = some value) :
    ∃ number, readDecimal text = some number ∧ value = wrap number := by
  unfold parseU32Field at parsed
  split_ifs at parsed
  unfold strtoul at parsed
  cases scanned : scan text with
  | none =>
      rw [scanned] at parsed
      cases parsed
  | some read =>
      rcases read with ⟨number, rest⟩
      rw [scanned, Option.map_some] at parsed
      simp only at parsed
      split at parsed
      · rename_i ended
        cases ended
        cases parsed
        exact ⟨number, by rw [readDecimal, scanned], rfl⟩
      · cases parsed

/-- The field stands for a number below the limit, and so does what the buffer keeps
of it, for the same one. -/
def Reads (size limit : Nat) (text : Bytes) : Prop :=
  ∃ number : Nat, number < limit ∧ readDecimal text = some (number : Int) ∧
    readDecimal (cut size text) = some (number : Int)

/-- The value taken from the buffer is the one the field stands for exactly when both
are the same number below the limit. -/
theorem reads_iff {size limit : Nat} {text : Bytes} {number : Int} (small : limit ≤ 2 ^ 32)
    (positive : 0 < limit) (read : readDecimal (cut size text) = some number) :
    readDecimal text = some (((wrap number).toNat % limit : Nat) : Int) ↔
      Reads size limit text := by
  constructor
  · intro whole
    have below : (wrap number).toNat % limit < limit := Nat.mod_lt _ positive
    have taken : readDecimal (text.take (size - 1)) = some number := by
      rw [← cut_eq_take (read_decimal_ne_zero whole)]
      exact read
    have bounds := read_decimal_take taken whole (Int.natCast_nonneg _)
    have value := wrap_of_nonneg bounds.1 (by omega)
    have exact_ : (wrap number).toNat % limit = (wrap number).toNat :=
      Nat.mod_eq_of_lt (by omega)
    refine ⟨(wrap number).toNat % limit, below, whole, ?_⟩
    rw [read, exact_, value]
  · rintro ⟨same, below, whole, kept⟩
    rw [read, Option.some.injEq] at kept
    have value := @wrap_of_nonneg number (by omega) (by omega)
    have isSame : (wrap number).toNat % limit = same := by
      rw [Nat.mod_eq_of_lt (by omega)]
      omega
    rw [whole, isSame]

/-! ## Lists of amino ids -/

/-- The numbers of a list, read as integers without bounds. -/
def readAminoRounds : Nat → Bytes → Option (List Int)
  | 0, _ => none
  | rounds + 1, text =>
      let start := text.dropWhile aminoSeparator
      if start = [] then
        some []
      else
        match scan start with
        | none => none
        | some (number, rest) =>
            if rest ≠ [] ∧ !aminoSeparator (rest.headD 0) then none
            else (readAminoRounds rounds rest).map (number :: ·)

def readAminoList (text : Bytes) : Option (List Int) :=
  readAminoRounds (text.length + 1) text

theorem read_amino_rounds_some {rounds : Nat} {text : Bytes} {numbers : List Int}
    (read : readAminoRounds rounds text = some numbers) :
    (text.dropWhile aminoSeparator = [] ∧ numbers = []) ∨
    ∃ fewer number rest others, rounds = fewer + 1 ∧ text.dropWhile aminoSeparator ≠ [] ∧
      scan (text.dropWhile aminoSeparator) = some (number, rest) ∧
      readAminoRounds fewer rest = some others ∧ numbers = number :: others ∧
      ∀ byte ∈ rest.head?, aminoSeparator byte = true := by
  cases rounds with
  | zero => cases read
  | succ fewer =>
      rw [readAminoRounds] at read
      by_cases empty : text.dropWhile aminoSeparator = []
      · rw [if_pos empty] at read
        cases read
        exact Or.inl ⟨empty, rfl⟩
      · rw [if_neg empty] at read
        cases scanned : scan (text.dropWhile aminoSeparator) with
        | none =>
            rw [scanned] at read
            cases read
        | some found =>
            rcases found with ⟨number, rest⟩
            rw [scanned] at read
            simp only at read
            split_ifs at read with cutOff
            rcases Option.map_eq_some_iff.mp read with ⟨others, more, rfl⟩
            refine Or.inr ⟨fewer, number, rest, others, rfl, empty, rfl, more, rfl, ?_⟩
            intro byte head
            cases rest with
            | nil => cases head
            | cons first after =>
                cases head
                simpa using cutOff

theorem read_amino_rounds_ne_zero {rounds : Nat} {text : Bytes} {numbers : List Int}
    (read : readAminoRounds rounds text = some numbers) : ∀ byte ∈ text, byte ≠ 0 := by
  induction rounds generalizing text numbers with
  | zero => cases read
  | succ rounds induction =>
      have parts := List.takeWhile_append_dropWhile (p := aminoSeparator) (l := text)
      have separators : ∀ byte ∈ text.takeWhile aminoSeparator, byte ≠ 0 := by
        rintro byte member rfl
        exact absurd (List.mem_takeWhile_imp member) (by decide)
      have starts : ∀ byte ∈ text.dropWhile aminoSeparator, byte ≠ 0 := by
        rcases read_amino_rounds_some read with
          ⟨empty, _⟩ | ⟨fewer, number, rest, others, count, _, scanned, more, _⟩
        · rw [empty]
          simp
        · cases count
          rcases scan_used scanned with ⟨used, split, _, clean⟩
          rw [split]
          intro byte member
          rcases List.mem_append.mp member with before | after
          · exact clean byte before
          · exact induction more byte after
      rw [← parts]
      intro byte member
      rcases List.mem_append.mp member with before | after
      · exact separators byte before
      · exact starts byte after

def aminoOf (number : Int) : Int32 := Int32.ofNat (wrap number).toNat

theorem parse_amino_round_iff {rounds : Nat} {ids all : List Int32} {text rest : Bytes}
    {number : Int} (distinct : ids.Nodup) (start : text.dropWhile aminoSeparator ≠ [])
    (scanned : scan (text.dropWhile aminoSeparator) = some (number, rest)) :
    parseAminoRounds (rounds + 1) ids text = some all ↔
      ((wrap number).toNat ≤ 65535 ∧ aminoAcidIdValid (aminoOf number) = true) ∧
      ((ids ++ [aminoOf number]).length ≤ rnaTemplateMaxAminos ∧
        (ids ++ [aminoOf number]).Nodup) ∧
      ¬ (rest ≠ [] ∧ (!aminoSeparator (rest.headD 0)) = true) ∧
      parseAminoRounds rounds (ids ++ [aminoOf number]) rest = some all := by
  have isId : Int32.ofNat (wrap number).toNat = aminoOf number := rfl
  have small : ¬ 65535 < wrap number ↔ (wrap number).toNat ≤ 65535 := by
    rw [UInt32.lt_iff_toNat_lt]
    exact Nat.not_lt
  have known : (ids ++ [aminoOf number]).Nodup ↔ aminoOf number ∉ ids := by
    rw [← List.concat_eq_append, List.nodup_concat]
    exact and_iff_left distinct
  have room : (ids ++ [aminoOf number]).length ≤ rnaTemplateMaxAminos ↔
      ¬ rnaTemplateMaxAminos ≤ ids.length := by
    rw [List.length_append, List.length_singleton]
    exact Nat.not_le.symm
  rw [parseAminoRounds, if_neg start, strtoul, scanned]
  simp only [Option.map_some, isId, Option.ite_none_left_eq_some, small, known, room,
    Bool.not_eq_true', Bool.not_eq_false, and_assoc]

theorem parse_amino_rounds_iff {rounds : Nat} {ids all : List Int32} {text : Bytes}
    (distinct : ids.Nodup) (room : ids.length ≤ rnaTemplateMaxAminos) :
    parseAminoRounds rounds ids text = some all ↔
      ∃ numbers, readAminoRounds rounds text = some numbers ∧ all = ids ++ numbers.map aminoOf ∧
        (∀ number ∈ numbers, (wrap number).toNat ≤ 65535 ∧
          aminoAcidIdValid (aminoOf number) = true) ∧
        all.length ≤ rnaTemplateMaxAminos ∧ all.Nodup := by
  induction rounds generalizing ids text with
  | zero => simp [parseAminoRounds, readAminoRounds]
  | succ rounds induction =>
      by_cases empty : text.dropWhile aminoSeparator = []
      · rw [parseAminoRounds, readAminoRounds, if_pos empty, if_pos empty]
        constructor
        · intro parsed
          cases parsed
          exact ⟨[], rfl, by simp, by simp, room, distinct⟩
        · rintro ⟨numbers, read, made, _⟩
          cases read
          rw [made, List.map_nil, List.append_nil]
      · cases scanned : scan (text.dropWhile aminoSeparator) with
        | none => simp [parseAminoRounds, readAminoRounds, empty, strtoul, scanned]
        | some found =>
            rcases found with ⟨number, rest⟩
            have joined : ∀ others : List Int, ids ++ (number :: others).map aminoOf =
                ids ++ [aminoOf number] ++ others.map aminoOf := by
              intro others
              rw [List.append_assoc]
              rfl
            rw [parse_amino_round_iff distinct empty scanned, readAminoRounds, if_neg empty,
              scanned]
            constructor
            · rintro ⟨own, ⟨roomNext, distinctNext⟩, follows, parsed⟩
              obtain ⟨numbers, read, made, good, bounded, nodup⟩ :=
                (induction distinctNext roomNext).mp parsed
              refine ⟨number :: numbers, ?_, ?_, ?_, bounded, nodup⟩
              · simp only [if_neg follows, read, Option.map_some]
              · rw [made, joined]
              · exact List.forall_mem_cons.mpr ⟨own, good⟩
            · rintro ⟨numbers, read, made, good, bounded, nodup⟩
              simp only [Option.ite_none_left_eq_some, Option.map_eq_some_iff] at read
              obtain ⟨follows, others, more, rfl⟩ := read
              obtain ⟨own, goodOthers⟩ := List.forall_mem_cons.mp good
              rw [joined] at made
              have distinctNext : (ids ++ [aminoOf number]).Nodup := by
                rw [made] at nodup
                exact (List.nodup_append.mp nodup).1
              have roomNext : (ids ++ [aminoOf number]).length ≤ rnaTemplateMaxAminos := by
                rw [made, List.length_append] at bounded
                omega
              exact ⟨own, ⟨roomNext, distinctNext⟩, follows, (induction distinctNext roomNext).mpr
                ⟨others, more, made, goodOthers, bounded, nodup⟩⟩

theorem amino_of_to_int {number : Int} (small : (wrap number).toNat ≤ 65535) :
    (aminoOf number).toInt = ((wrap number).toNat : Int) :=
  Int32.toInt_ofNat_of_lt (by omega)

/-- A list that goes on behind the buffer and still has the wrapped numbers of its
beginning has just the numbers of its beginning. -/
theorem read_amino_rounds_cut {rounds more : Nat} {text tail : Bytes} {kept whole : List Int}
    (read : readAminoRounds rounds text = some kept)
    (readWhole : readAminoRounds more (text ++ tail) = some whole)
    (small : ∀ number ∈ kept, (wrap number).toNat ≤ 65535)
    (same : whole = kept.map fun number => ((wrap number).toNat : Int)) : kept = whole := by
  induction rounds generalizing more text kept whole with
  | zero => cases read
  | succ rounds induction =>
      rcases read_amino_rounds_some read with
        ⟨_, rfl⟩ | ⟨fewer, number, rest, others, count, nonempty, scanned, next, rfl, _⟩
      · rw [same]
        rfl
      cases count
      have longer : (text ++ tail).dropWhile aminoSeparator =
          text.dropWhile aminoSeparator ++ tail := by
        rw [List.dropWhile_append, if_neg (by simpa using nonempty)]
      rcases read_amino_rounds_some readWhole with
        ⟨empty, _⟩ | ⟨fewerWhole, wholeNumber, wholeRest, wholeOthers, _, _, wholeScanned,
          wholeNext, rfl, _⟩
      · rw [longer] at empty
        exact absurd (List.append_eq_nil_iff.mp empty).1 nonempty
      rw [longer] at wholeScanned
      rw [List.map_cons, List.cons.injEq] at same
      have smallOthers : ∀ other ∈ others, (wrap other).toNat ≤ 65535 := fun other member =>
        small other (List.mem_cons_of_mem _ member)
      by_cases ended : rest = []
      · -- the last number of the buffer may go on behind it
        subst ended
        have noOthers : others = [] := by
          rcases read_amino_rounds_some next with ⟨_, none⟩ | ⟨_, _, _, _, _, some_, _⟩
          · exact none
          · exact absurd rfl some_
        have smallNumber := small number List.mem_cons_self
        have bounds := scan_cut scanned wholeScanned (by omega)
        have value := wrap_of_nonneg bounds.1 (by omega)
        rw [noOthers] at same ⊢
        rw [same.2, same.1, value]
        rfl
      · rw [scan_append scanned ended tail, Option.some.injEq, Prod.mk.injEq] at wholeScanned
        rcases wholeScanned with ⟨rfl, rfl⟩
        rw [induction next wholeNext smallOthers same.2]

theorem parse_amino_ids_rounds {text : Bytes} {ids : List Int32} :
    parseAminoIds text = some ids ↔
      parseAminoRounds (text.length + 1) [] text = some ids ∧ ids ≠ [] := by
  unfold parseAminoIds
  cases parseAminoRounds (text.length + 1) [] text with
  | none => simp
  | some found =>
      by_cases empty : found = []
      · simp [empty, eq_comm]
      · simp only [if_neg empty, Option.some.injEq]
        constructor
        · rintro rfl
          exact ⟨rfl, empty⟩
        · exact And.left

/-- What a list of amino ids may be: one to twelve valid ids, none of them twice. -/
structure AminoIds (ids : List Int32) : Prop where
  nonempty : ids ≠ []
  bounded : ids.length ≤ rnaTemplateMaxAminos
  distinct : ids.Nodup
  valid : ∀ id ∈ ids, aminoAcidIdValid id = true

/-- The numbers of a list as `strtoul` reads them, and the ids that the parser takes. -/
structure AminoNumbers (numbers : List Int) (ids : List Int32) : Prop where
  made : ids = numbers.map aminoOf
  small : ∀ number ∈ numbers, (wrap number).toNat ≤ 65535
  ids : AminoIds ids

/-- What the parser accepts is a list of numbers, each of them wrapped. -/
theorem parse_amino_ids_iff {text : Bytes} {ids : List Int32} :
    parseAminoIds text = some ids ↔
      ∃ numbers, readAminoList text = some numbers ∧ AminoNumbers numbers ids := by
  have rounds := @parse_amino_rounds_iff (text.length + 1) [] ids text List.nodup_nil (by simp)
  rw [parse_amino_ids_rounds, rounds]
  constructor
  · rintro ⟨⟨numbers, read, made, good, bounded, distinct⟩, nonempty⟩
    refine ⟨numbers, read, made, fun number member => (good number member).1, nonempty, bounded,
      distinct, ?_⟩
    intro id member
    rw [made, List.nil_append] at member
    obtain ⟨number, known, rfl⟩ := List.mem_map.mp member
    exact (good number known).2
  · rintro ⟨numbers, read, made, small, nonempty, bounded, distinct, valid⟩
    refine ⟨⟨numbers, read, made, ?_, bounded, distinct⟩, nonempty⟩
    intro number member
    refine ⟨small number member, valid _ ?_⟩
    rw [made]
    exact List.mem_map_of_mem member

/-- The list in full, what the buffer keeps of it, and no negative number. -/
def ReadsAminos (size : Nat) (text : Bytes) : Prop :=
  ∃ numbers, readAminoList text = some numbers ∧ readAminoList (cut size text) = some numbers ∧
    ∀ number ∈ numbers, 0 ≤ number

/-- The ids taken from the buffer are those of the field exactly when the buffer has
the whole list and no number wrapped. -/
theorem reads_aminos_iff {size : Nat} {text : Bytes} {ids : List Int32}
    (parsed : parseAminoIds (cut size text) = some ids) :
    readAminoList text = some (ids.map Int32.toInt) ↔ ReadsAminos size text := by
  rcases parse_amino_ids_iff.mp parsed with ⟨kept, read, rfl, small, _⟩
  have wrapped : (kept.map aminoOf).map Int32.toInt =
      kept.map fun number => ((wrap number).toNat : Int) := by
    rw [List.map_map]
    exact List.map_congr_left fun number member => amino_of_to_int (small number member)
  rw [wrapped]
  constructor
  · intro whole
    have begins : cut size text = text.take (size - 1) :=
      cut_eq_take (read_amino_rounds_ne_zero whole) size
    have same : kept = kept.map fun number => ((wrap number).toNat : Int) := by
      apply read_amino_rounds_cut read _ small rfl
      · exact text.length + 1
      · exact text.drop (size - 1)
      · rw [begins, List.take_append_drop]
        exact whole
    refine ⟨kept, by rw [whole, ← same], read, ?_⟩
    rw [same]
    intro number member
    rcases List.mem_map.mp member with ⟨other, _, rfl⟩
    exact Int.natCast_nonneg _
  · rintro ⟨numbers, whole, again, nonneg⟩
    have isKept : numbers = kept := Option.some.inj (again.symm.trans read)
    subst isKept
    have unwrapped : (numbers.map fun number => ((wrap number).toNat : Int)) = numbers := by
      rw [List.map_congr_left (g := id) fun number member => ?_, List.map_id]
      have below : number < 2 ^ 32 := by
        by_contra large
        have top : wrap number = 0xFFFFFFFF := if_neg (by have := nonneg number member; omega)
        have limit := small number member
        rw [top] at limit
        exact absurd limit (by decide)
      exact wrap_of_nonneg (nonneg number member) below
    rw [whole, unwrapped]

end BlindNet
