import BlindNet.Lib.CString

/-!
# Decimal numbers in C strings

What `strtoul` reads in base ten where `unsigned long` has 32 bits: blanks, a sign,
digits. The number a text stands for is an integer without bounds; the function
answers its residue, or the largest value when the magnitude does not fit.
-/

namespace CNumber

set_option autoImplicit false

open ByteLayout

def isSpace (byte : UInt8) : Bool :=
  byte == 32 || (9 ≤ byte && byte ≤ 13)

def isDigit (byte : UInt8) : Bool :=
  48 ≤ byte && byte ≤ 57

theorem digit_neither {byte : UInt8} (digit : isDigit byte = true) :
    isSpace byte = false ∧ byte ≠ 45 ∧ byte ≠ 43 := by
  have every : ∀ byte, isDigit byte = true → isSpace byte = false ∧ byte ≠ 45 ∧ byte ≠ 43 :=
    forall_byte (by decide +kernel)
  exact every byte digit

def magnitude (digits : Bytes) : Nat :=
  digits.foldl (fun sum digit => 10 * sum + (digit.toNat - 48)) 0

def splitSign : Bytes → Bool × Bytes
  | [] => (false, [])
  | byte :: rest =>
      if byte = 45 then (true, rest) else if byte = 43 then (false, rest) else (false, byte :: rest)

/-- The number at the start of a text and what stands behind it; nothing when there
is no digit. -/
def scan (text : Bytes) : Option (Int × Bytes) :=
  let signed := splitSign (text.dropWhile isSpace)
  let digits := signed.2.takeWhile isDigit
  if digits = [] then
    none
  else
    some (if signed.1 then -(magnitude digits : Int) else magnitude digits,
      signed.2.dropWhile isDigit)

/-- The number that a whole text stands for. -/
def readDecimal (text : Bytes) : Option Int :=
  match scan text with
  | some (number, []) => some number
  | _ => none

def wrap (number : Int) : UInt32 :=
  if number.natAbs < 2 ^ 32 then UInt32.ofNat (number % 2 ^ 32).toNat else 0xFFFFFFFF

/-- No result means that nothing was converted, and the end is the start. -/
def strtoul (text : Bytes) : Option (UInt32 × Bytes) :=
  (scan text).map fun read => (wrap read.1, read.2)

theorem wrap_of_nonneg {number : Int} (nonneg : 0 ≤ number) (small : number < 2 ^ 32) :
    ((wrap number).toNat : Int) = number := by
  have fits : number.natAbs < 2 ^ 32 := by omega
  rw [wrap, if_pos fits, Int.emod_eq_of_lt nonneg small, UInt32.toNat_ofNat']
  omega

theorem foldl_magnitude (digits : Bytes) (start : Nat) :
    digits.foldl (fun sum digit => 10 * sum + (digit.toNat - 48)) start =
      10 ^ digits.length * start + magnitude digits := by
  induction digits generalizing start with
  | nil => simp [magnitude]
  | cons digit rest induction =>
      have whole : magnitude (digit :: rest) =
          10 ^ rest.length * (10 * 0 + (digit.toNat - 48)) + magnitude rest := by
        rw [magnitude, List.foldl_cons, induction]
      rw [List.foldl_cons, induction, whole, List.length_cons, pow_succ]
      ring

theorem magnitude_append (first second : Bytes) :
    magnitude (first ++ second) = 10 ^ second.length * magnitude first + magnitude second := by
  rw [magnitude, List.foldl_append, foldl_magnitude]
  rfl

theorem magnitude_le_append (first second : Bytes) :
    magnitude first ≤ magnitude (first ++ second) := by
  rw [magnitude_append]
  have scale : 1 * magnitude first ≤ 10 ^ second.length * magnitude first :=
    Nat.mul_le_mul_right _ (Nat.one_le_pow _ _ (by decide))
  omega

theorem split_sign_append {body : Bytes} (nonempty : body ≠ []) (more : Bytes) :
    splitSign (body ++ more) = ((splitSign body).1, (splitSign body).2 ++ more) := by
  cases body with
  | nil => exact absurd rfl nonempty
  | cons byte rest =>
      rw [List.cons_append, splitSign, splitSign]
      split_ifs <;> rfl

theorem scan_some {text rest : Bytes} {number : Int} (read : scan text = some (number, rest)) :
    ∃ negative digits, splitSign (text.dropWhile isSpace) = (negative, digits ++ rest) ∧
      digits ≠ [] ∧ (∀ digit ∈ digits, isDigit digit = true) ∧
      (∀ byte ∈ rest.head?, isDigit byte = false) ∧
      number = if negative then -(magnitude digits : Int) else magnitude digits := by
  generalize body : splitSign (text.dropWhile isSpace) = signed
  unfold scan at read
  simp only [body] at read
  by_cases empty : signed.2.takeWhile isDigit = []
  · rw [if_pos empty] at read
    cases read
  · rw [if_neg empty, Option.some.injEq, Prod.mk.injEq] at read
    rcases read with ⟨value, rfl⟩
    refine ⟨signed.1, signed.2.takeWhile isDigit, ?_, empty, ?_, ?_, value.symm⟩
    · rw [List.takeWhile_append_dropWhile]
    · intro digit member
      exact List.mem_takeWhile_imp member
    · intro byte first
      have stopped := List.head?_dropWhile_not isDigit signed.2
      rw [Option.mem_def.mp first] at stopped
      exact stopped

theorem scan_of_parts {text digits rest : Bytes} {negative : Bool}
    (body : splitSign (text.dropWhile isSpace) = (negative, digits ++ rest))
    (nonempty : digits ≠ []) (all : ∀ digit ∈ digits, isDigit digit = true)
    (stopped : ∀ byte ∈ rest.head?, isDigit byte = false) :
    scan text =
      some (if negative then -(magnitude digits : Int) else magnitude digits, rest) := by
  have noDigits : rest.takeWhile isDigit = [] ∧ rest.dropWhile isDigit = rest := by
    cases rest with
    | nil => exact ⟨rfl, rfl⟩
    | cons byte tail =>
        have isNot := stopped byte rfl
        exact ⟨by simp [isNot], by simp [isNot]⟩
  have taken : (digits ++ rest).takeWhile isDigit = digits := by
    rw [List.takeWhile_append_of_pos all, noDigits.1, List.append_nil]
  have dropped : (digits ++ rest).dropWhile isDigit = rest := by
    rw [List.dropWhile_append_of_pos all, noDigits.2]
  unfold scan
  simp only [body, taken, dropped, if_neg nonempty]

theorem body_append {text : Bytes} (nonempty : text.dropWhile isSpace ≠ []) (more : Bytes) :
    splitSign ((text ++ more).dropWhile isSpace) =
      ((splitSign (text.dropWhile isSpace)).1,
        (splitSign (text.dropWhile isSpace)).2 ++ more) := by
  have kept : (text ++ more).dropWhile isSpace = text.dropWhile isSpace ++ more := by
    rw [List.dropWhile_append, if_neg (by simpa using nonempty)]
  rw [kept, split_sign_append nonempty]

theorem body_nonempty {text digits : Bytes} {negative : Bool}
    (body : splitSign (text.dropWhile isSpace) = (negative, digits)) (nonempty : digits ≠ []) :
    text.dropWhile isSpace ≠ [] := by
  intro empty
  rw [empty, splitSign, Prod.mk.injEq] at body
  exact nonempty body.2.symm

/-- A number that ends inside the text stays the same when more text follows. -/
theorem scan_append {text rest : Bytes} {number : Int} (read : scan text = some (number, rest))
    (ended : rest ≠ []) (more : Bytes) : scan (text ++ more) = some (number, rest ++ more) := by
  rcases scan_some read with ⟨negative, digits, body, nonempty, all, stopped, value⟩
  have longer : splitSign ((text ++ more).dropWhile isSpace) =
      (negative, digits ++ (rest ++ more)) := by
    rw [body_append (body_nonempty body (by simp [nonempty])), body, List.append_assoc]
  rw [value]
  apply scan_of_parts longer nonempty all
  intro byte first
  apply stopped byte
  rwa [List.head?_append_of_ne_nil _ ended] at first

/-- A number cut off by the end of the text is at most the number that goes on. -/
theorem scan_cut {text more rest : Bytes} {number whole : Int}
    (read : scan text = some (number, [])) (readWhole : scan (text ++ more) = some (whole, rest))
    (nonneg : 0 ≤ whole) : 0 ≤ number ∧ number ≤ whole := by
  rcases scan_some read with ⟨negative, digits, body, nonempty, all, _, value⟩
  rcases scan_some readWhole with
    ⟨wholeSign, wholeDigits, wholeBody, _, _, wholeStopped, wholeValue⟩
  rw [List.append_nil] at body
  rw [body_append (body_nonempty body nonempty), body, Prod.mk.injEq] at wholeBody
  rcases wholeBody with ⟨rfl, digitsSplit⟩
  simp only at digitsSplit wholeValue
  -- the longer number cannot stop among the digits of the shorter one
  have longer : ∃ tail, wholeDigits = digits ++ tail := by
    rcases List.append_eq_append_iff.mp digitsSplit with ⟨tail, split, _⟩ | ⟨tail, split, after⟩
    · exact ⟨tail, split⟩
    · cases tail with
      | nil => exact ⟨[], by rw [split, List.append_nil, List.append_nil]⟩
      | cons byte others =>
          have digit := all byte (by rw [split]; simp)
          have other := wholeStopped byte (by rw [after]; rfl)
          rw [digit] at other
          cases other
  rcases longer with ⟨tail, rfl⟩
  have grows := magnitude_le_append digits tail
  cases negative with
  | false =>
      simp only [Bool.false_eq_true, if_false] at value wholeValue
      omega
  | true =>
      simp only [if_true] at value wholeValue
      omega

theorem read_decimal_some {text : Bytes} {number : Int} (read : readDecimal text = some number) :
    scan text = some (number, []) := by
  unfold readDecimal at read
  split at read
  · rename_i found
    cases read
    exact found
  · cases read

/-- A number as `strtoul` takes it: blanks, at most one sign, and digits. -/
structure Numeral where
  blanks : Bytes
  sign : Bytes
  digits : Bytes
  blank : ∀ byte ∈ blanks, isSpace byte = true
  signed : sign = [] ∨ sign = [43] ∨ sign = [45]
  nonempty : digits ≠ []
  decimal : ∀ byte ∈ digits, isDigit byte = true

namespace Numeral

def text (numeral : Numeral) : Bytes := numeral.blanks ++ (numeral.sign ++ numeral.digits)

def value (numeral : Numeral) : Int :=
  if numeral.sign = [45] then -(magnitude numeral.digits : Int) else magnitude numeral.digits

/-- Nothing stands in front of the digits. -/
structure Bare (numeral : Numeral) : Prop where
  blanks : numeral.blanks = []
  sign : numeral.sign = []

theorem Bare.text {numeral : Numeral} (bare : numeral.Bare) : numeral.text = numeral.digits := by
  rw [Numeral.text, bare.blanks, bare.sign, List.nil_append, List.nil_append]

theorem Bare.value {numeral : Numeral} (bare : numeral.Bare) :
    numeral.value = magnitude numeral.digits := by
  rw [Numeral.value, bare.sign, if_neg (by decide)]

theorem exists_bare {digits : Bytes} (nonempty : digits ≠ [])
    (decimal : ∀ byte ∈ digits, isDigit byte = true) :
    ∃ numeral : Numeral, numeral.Bare ∧ numeral.digits = digits :=
  ⟨⟨[], [], digits, by simp, Or.inl rfl, nonempty, decimal⟩, ⟨rfl, rfl⟩, rfl⟩

theorem bare_of_digits {numeral : Numeral}
    (digits : ∀ byte ∈ numeral.text, isDigit byte = true) : numeral.Bare := by
  constructor
  · apply List.eq_nil_iff_forall_not_mem.mpr
    intro byte member
    have noBlank := (digit_neither (digits byte (List.mem_append_left _ member))).1
    rw [numeral.blank byte member] at noBlank
    cases noBlank
  · rcases numeral.signed with none | plus | minus
    · exact none
    · exact absurd (digits 43 (by simp [Numeral.text, plus])) (by decide)
    · exact absurd (digits 45 (by simp [Numeral.text, minus])) (by decide)

theorem text_ne_nil (numeral : Numeral) : numeral.text ≠ [] := by
  simp [text, numeral.nonempty]

theorem split_sign_body (numeral : Numeral) (rest : Bytes) :
    (numeral.sign ++ (numeral.digits ++ rest)).dropWhile isSpace =
        numeral.sign ++ (numeral.digits ++ rest) ∧
      splitSign (numeral.sign ++ (numeral.digits ++ rest)) =
        (decide (numeral.sign = [45]), numeral.digits ++ rest) := by
  obtain ⟨blanks, sign, digits, -, signed, nonempty, decimal⟩ := numeral
  rcases signed with rfl | rfl | rfl
  · cases digits with
    | nil => exact absurd rfl nonempty
    | cons first others =>
        obtain ⟨notBlank, notMinus, notPlus⟩ := digit_neither (decimal first List.mem_cons_self)
        simp [splitSign, notBlank, notMinus, notPlus]
  · exact ⟨rfl, rfl⟩
  · exact ⟨rfl, rfl⟩

theorem scan_text (numeral : Numeral) {rest : Bytes}
    (stopped : ∀ byte ∈ rest.head?, isDigit byte = false) :
    scan (numeral.text ++ rest) = some (numeral.value, rest) := by
  obtain ⟨kept, split⟩ := numeral.split_sign_body rest
  have body : splitSign ((numeral.text ++ rest).dropWhile isSpace) =
      (decide (numeral.sign = [45]), numeral.digits ++ rest) := by
    rw [text, List.append_assoc, List.append_assoc, List.dropWhile_append_of_pos numeral.blank,
      kept, split]
  rw [scan_of_parts body numeral.nonempty numeral.decimal stopped, value]
  simp only [decide_eq_true_eq]

end Numeral

/-- What `strtoul` converts is a numeral in front of the text. -/
theorem scan_numeral {text rest : Bytes} {number : Int} (read : scan text = some (number, rest)) :
    ∃ numeral : Numeral, text = numeral.text ++ rest ∧ number = numeral.value ∧
      ∀ byte ∈ rest.head?, isDigit byte = false := by
  rcases scan_some read with ⟨negative, digits, body, nonempty, all, stopped, value⟩
  have sign : ∃ mark, text.dropWhile isSpace = mark ++ (digits ++ rest) ∧
      (mark = [] ∨ mark = [43] ∨ mark = [45]) ∧ (mark = [45] ↔ negative = true) := by
    cases front : text.dropWhile isSpace with
    | nil =>
        rw [front, splitSign, Prod.mk.injEq] at body
        exact absurd (List.append_eq_nil_iff.mp body.2.symm).1 nonempty
    | cons first others =>
        rw [front, splitSign] at body
        split_ifs at body with minus plus
        · cases body
          exact ⟨[first], rfl, by simp [minus], by simp [minus]⟩
        · cases body
          exact ⟨[first], rfl, by simp [plus], by simp [plus]⟩
        · rw [Prod.mk.injEq] at body
          exact ⟨[], body.2, by simp, by simp [← body.1]⟩
  rcases sign with ⟨mark, front, signed, minus⟩
  refine ⟨⟨text.takeWhile isSpace, mark, digits, fun byte => List.mem_takeWhile_imp, signed,
    nonempty, all⟩, ?_, ?_, stopped⟩
  · rw [Numeral.text, List.append_assoc, List.append_assoc, ← front,
      List.takeWhile_append_dropWhile]
  · rw [value, Numeral.value]
    simp only [minus]

theorem scan_used {text rest : Bytes} {number : Int} (read : scan text = some (number, rest)) :
    ∃ used, text = used ++ rest ∧ used ≠ [] ∧ ∀ byte ∈ used, byte ≠ 0 := by
  rcases scan_numeral read with ⟨numeral, split, -, -⟩
  refine ⟨numeral.text, split, numeral.text_ne_nil, ?_⟩
  rintro byte member rfl
  rcases List.mem_append.mp member with blank | more
  · exact absurd (numeral.blank 0 blank) (by decide)
  · rcases List.mem_append.mp more with mark | digit
    · rcases numeral.signed with none | plus | minus
      · simp [none] at mark
      · simp [plus] at mark
      · simp [minus] at mark
    · exact absurd (numeral.decimal 0 digit) (by decide)

theorem read_decimal_iff {text : Bytes} {number : Int} :
    readDecimal text = some number ↔
      ∃ numeral : Numeral, text = numeral.text ∧ number = numeral.value := by
  constructor
  · intro read
    rcases scan_numeral (read_decimal_some read) with ⟨numeral, split, value, -⟩
    exact ⟨numeral, by rw [split, List.append_nil], value⟩
  · rintro ⟨numeral, rfl, rfl⟩
    have scanned := @Numeral.scan_text numeral [] (by simp)
    rw [List.append_nil] at scanned
    rw [readDecimal, scanned]

theorem read_decimal_ne_zero {text : Bytes} {number : Int} (read : readDecimal text = some number) :
    ∀ byte ∈ text, byte ≠ 0 := by
  rcases scan_used (read_decimal_some read) with ⟨used, split, _, clean⟩
  rw [split, List.append_nil]
  exact clean

/-- The beginning of a text that stands for a number stands for at most that number. -/
theorem read_decimal_take {text : Bytes} {size : Nat} {number whole : Int}
    (cut : readDecimal (text.take size) = some number) (read : readDecimal text = some whole)
    (nonneg : 0 ≤ whole) : 0 ≤ number ∧ number ≤ whole := by
  have joined : text.take size ++ text.drop size = text := List.take_append_drop size text
  apply scan_cut (read_decimal_some cut) _ nonneg
  · exact text.drop size
  · exact []
  · rw [joined]
    exact read_decimal_some read

end CNumber
