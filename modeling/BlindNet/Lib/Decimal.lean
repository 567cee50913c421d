import BlindNet.Lib.CNumber
import Mathlib.Tactic.Linarith

/-!
# Decimal text

Digits of a number, least significant first, written into a scratch area of
fixed size. While the number fits the scratch area, the digits determine it.
-/

namespace Decimal

set_option autoImplicit false

open ByteLayout

def zeroDigit : UInt8 := 48
def minus : UInt8 := 45

/-- At least one digit; stops when the quotient is zero or the scratch area is
used up. -/
def digits : Nat → Nat → Bytes
  | 0, _ => []
  | room + 1, value =>
      (zeroDigit + UInt8.ofNat (value % 10)) ::
        if value / 10 = 0 then [] else digits room (value / 10)

def value : Bytes → Nat
  | [] => 0
  | digit :: rest => (digit.toNat - 48) + 10 * value rest

theorem digit_to_nat (remainder : Nat) (small : remainder < 10) :
    (zeroDigit + UInt8.ofNat remainder).toNat = 48 + remainder := by
  rw [UInt8.toNat_add, UInt8.toNat_ofNat']
  change (48 + remainder % 2 ^ 8) % 2 ^ 8 = 48 + remainder
  omega

theorem value_digits (room number : Nat) (fits : number < 10 ^ room) :
    value (digits room number) = number := by
  induction room generalizing number with
  | zero =>
      have zero : number = 0 := by simpa using fits
      simp [digits, value, zero]
  | succ room induction =>
      have head := digit_to_nat (number % 10) (Nat.mod_lt _ (by decide))
      have split := Nat.mod_add_div number 10
      simp only [digits, value, head]
      by_cases last : number / 10 = 0
      · rw [if_pos last]
        simp only [value]
        omega
      · rw [if_neg last, induction _ (next_digit_fits fits last).1]
        omega

theorem digits_length_le (room number : Nat) : (digits room number).length ≤ room := by
  induction room generalizing number with
  | zero => simp [digits]
  | succ room induction =>
      simp only [digits, List.length_cons]
      split
      · simp
      · exact Nat.succ_le_succ (induction _)

theorem digits_ne_nil {room : Nat} (positive : 0 < room) (number : Nat) :
    digits room number ≠ [] := by
  cases room with
  | zero => omega
  | succ room => simp [digits]

theorem digits_ne_minus {room number : Nat} {digit : UInt8} (member : digit ∈ digits room number) :
    digit ≠ minus := by
  induction room generalizing number with
  | zero => simp [digits] at member
  | succ room induction =>
      simp only [digits, List.mem_cons] at member
      rcases member with here | later
      · intro sign
        have head := digit_to_nat (number % 10) (Nat.mod_lt _ (by decide))
        rw [← here, sign] at head
        change 45 = 48 + number % 10 at head
        omega
      · split at later
        · simp at later
        · exact induction later

/-- The text of an integer that fits the scratch area: a minus sign where it is
negative, then the digits. -/
def signed (room : Nat) (number : Int) : Bytes :=
  (if number < 0 then [minus] else []) ++ (digits room number.natAbs).reverse

theorem signed_ne_nil {room : Nat} (positive : 0 < room) (number : Int) :
    signed room number ≠ [] := by
  intro empty
  have none := (List.append_eq_nil_iff.mp empty).2
  exact digits_ne_nil positive _ (List.reverse_eq_nil_iff.mp none)

theorem signed_injective {room : Nat} {first second : Int}
    (firstFits : first.natAbs < 10 ^ room) (secondFits : second.natAbs < 10 ^ room)
    (same : signed room first = signed room second) : first = second := by
  have unsigned : ∀ number other : Nat,
      minus :: (digits room number).reverse ≠ (digits room other).reverse := by
    intro number other equal
    have member : minus ∈ digits room other := by
      rw [← List.mem_reverse, ← equal]
      exact List.mem_cons_self
    exact digits_ne_minus member rfl
  have magnitudes : ∀ number other : Nat, number < 10 ^ room → other < 10 ^ room →
      (digits room number).reverse = (digits room other).reverse → number = other := by
    intro number other numberFits otherFits equal
    rw [← value_digits room number numberFits, ← value_digits room other otherFits,
      List.reverse_injective equal]
  unfold signed at same
  by_cases firstNegative : first < 0
  · by_cases secondNegative : second < 0
    · rw [if_pos firstNegative, if_pos secondNegative] at same
      have equal := magnitudes _ _ firstFits secondFits (List.append_cancel_left same)
      omega
    · rw [if_pos firstNegative, if_neg secondNegative] at same
      exact absurd same (unsigned _ _)
  · by_cases secondNegative : second < 0
    · rw [if_neg firstNegative, if_pos secondNegative] at same
      exact absurd same.symm (unsigned _ _)
    · rw [if_neg firstNegative, if_neg secondNegative] at same
      have equal := magnitudes _ _ firstFits secondFits same
      omega

theorem digit_text (remainder : Nat) (small : remainder < 10) :
    String.utf8EncodeChar (Nat.digitChar remainder) = [zeroDigit + UInt8.ofNat remainder] := by
  have every : ∀ digit : Fin 10, String.utf8EncodeChar (Nat.digitChar digit) =
      [zeroDigit + UInt8.ofNat digit] := by decide
  exact every ⟨remainder, small⟩

/-- Read backwards, the digits are the printed number. -/
theorem digits_reverse {room : Nat} (positive : 0 < room) (number : Nat)
    (fits : number < 10 ^ room) :
    (digits room number).reverse = CString.utf8 (Nat.repr number) := by
  induction room generalizing number with
  | zero => omega
  | succ room induction =>
      have small : number % 10 < 10 := Nat.mod_lt _ (by decide)
      rw [CString.utf8, Nat.repr_eq_ofList_toDigits, String.toList_ofList,
        Nat.toDigits_eq_if (by decide), digits]
      by_cases last : number < 10
      · have quotient : number / 10 = 0 := by omega
        rw [if_pos last, if_pos quotient, Nat.mod_eq_of_lt last, List.flatMap_singleton,
          digit_text number last]
        rfl
      · have quotient : number / 10 ≠ 0 := by omega
        obtain ⟨smaller, positive⟩ := next_digit_fits fits quotient
        have front := induction positive (number / 10) smaller
        rw [CString.utf8, Nat.repr_eq_ofList_toDigits, String.toList_ofList] at front
        rw [if_neg last, if_neg quotient, List.flatMap_append, List.flatMap_singleton,
          digit_text _ small, List.reverse_cons, front]

theorem signed_text {room : Nat} (positive : 0 < room) (number : Int)
    (fits : number.natAbs < 10 ^ room) :
    signed room number = CString.utf8 (toString number) := by
  rw [signed, digits_reverse positive _ fits, Int.toString_eq_repr, Int.repr_eq_if]
  by_cases negative : number < 0
  · have magnitude : (-number).toNat = number.natAbs := by omega
    rw [if_pos negative, if_neg (by omega), magnitude, CString.utf8, CString.utf8,
      String.toList_append, List.flatMap_append]
    rfl
  · have magnitude : number.toNat = number.natAbs := by omega
    rw [if_neg negative, if_pos (by omega), magnitude, List.nil_append]

/-- Digits without a leading zero, unless zero is all there is. -/
structure Plain (text : Bytes) : Prop where
  nonempty : text ≠ []
  digits : ∀ digit ∈ text, CNumber.isDigit digit = true
  leading : text.head? = some zeroDigit → text = [zeroDigit]

/-- A plain number, or a minus sign in front of one other than zero. -/
def Canonical (text : Bytes) : Prop :=
  Plain text ∨ ∃ magnitude, text = minus :: magnitude ∧ Plain magnitude ∧ magnitude ≠ [zeroDigit]

theorem digit_is_digit (remainder : Nat) (small : remainder < 10) :
    CNumber.isDigit (zeroDigit + UInt8.ofNat remainder) = true := by
  have every : ∀ digit : Fin 10, CNumber.isDigit (zeroDigit + UInt8.ofNat digit) = true := by
    decide
  exact every ⟨remainder, small⟩

theorem digits_are_digits {room number : Nat} {digit : UInt8}
    (member : digit ∈ digits room number) : CNumber.isDigit digit = true := by
  induction room generalizing number with
  | zero => simp [digits] at member
  | succ room induction =>
      simp only [digits, List.mem_cons] at member
      rcases member with here | later
      · rw [here]
        exact digit_is_digit _ (Nat.mod_lt _ (by decide))
      · split at later
        · simp at later
        · exact induction later

theorem digits_last_zero {room number : Nat} (fits : number < 10 ^ room)
    (last : (digits room number).getLast? = some zeroDigit) : number = 0 := by
  induction room generalizing number with
  | zero => simpa using fits
  | succ room induction =>
      simp only [digits] at last
      by_cases single : number / 10 = 0
      · rw [if_pos single, List.getLast?_singleton, Option.some.injEq] at last
        have head := digit_to_nat (number % 10) (Nat.mod_lt _ (by decide))
        rw [last] at head
        change 48 = 48 + number % 10 at head
        omega
      · obtain ⟨smaller, positive⟩ := next_digit_fits fits single
        rw [if_neg single, List.getLast?_cons_of_ne_nil (digits_ne_nil positive _)] at last
        exact absurd (induction smaller last) single

theorem digits_zero {room : Nat} (positive : 0 < room) : digits room 0 = [zeroDigit] := by
  cases room with
  | zero => omega
  | succ room => rfl

theorem plain_digits {room number : Nat} (positive : 0 < room) (fits : number < 10 ^ room) :
    Plain (digits room number).reverse where
  nonempty := by simpa using digits_ne_nil positive number
  digits := by
    intro digit member
    exact digits_are_digits (List.mem_reverse.mp member)
  leading := by
    intro zero
    rw [List.head?_reverse] at zero
    rw [digits_last_zero fits zero, digits_zero positive, List.reverse_singleton]

theorem canonical_signed {room : Nat} (positive : 0 < room) {number : Int}
    (fits : number.natAbs < 10 ^ room) : Canonical (signed room number) := by
  have plain := plain_digits positive fits
  unfold signed
  by_cases negative : number < 0
  · rw [if_pos negative]
    refine Or.inr ⟨_, rfl, plain, ?_⟩
    intro zero
    have value := value_digits room number.natAbs fits
    rw [List.reverse_eq_iff.mp zero] at value
    change 0 = number.natAbs at value
    omega
  · rw [if_neg negative]
    exact Or.inl plain

theorem magnitude_reverse (text : Bytes) : CNumber.magnitude text.reverse = value text := by
  induction text with
  | nil => rfl
  | cons digit rest induction =>
      rw [CNumber.magnitude, List.reverse_cons, List.foldl_append]
      change 10 * CNumber.magnitude rest.reverse + (digit.toNat - 48) = value (digit :: rest)
      rw [induction, value, Nat.add_comm]

/-- The text of an integer is read back as that integer. -/
theorem read_decimal_signed {room : Nat} (positive : 0 < room) {number : Int}
    (fits : number.natAbs < 10 ^ room) :
    CNumber.readDecimal (signed room number) = some number := by
  have plain := plain_digits positive fits
  have magnitude : CNumber.magnitude (digits room number.natAbs).reverse = number.natAbs := by
    rw [magnitude_reverse, value_digits room _ fits]
  rw [CNumber.read_decimal_iff]
  refine ⟨⟨[], if number < 0 then [minus] else [], (digits room number.natAbs).reverse, by simp,
    ?_, plain.nonempty, plain.digits⟩, rfl, ?_⟩
  · split_ifs <;> simp [minus]
  · rw [CNumber.Numeral.value, magnitude]
    by_cases negative : number < 0
    · simp only [negative, if_true, minus]
      omega
    · simp only [negative, if_false, reduceCtorEq]
      omega

end Decimal
