import BlindNet.Broker
import BlindNet.Lib.Bounds
import Mathlib.Data.List.Induction

/-!
# The decimal payload in its buffers

`encode_i32_ascii` statement by statement: the digits go into a scratch array of
ten bytes, lowest first, and are then copied backwards into the caller's buffer
behind the sign. Every access is checked, so that a run without a fault is one that
stays inside both arrays; what it leaves in the buffer is what `encodeI32Ascii`
says.
-/

namespace BlindNet

set_option autoImplicit false

open ByteLayout Bounds

/-- The digit loop, from the given count on. -/
def digitLoop (digits : Bytes) (digitCount n : Nat) : Checked (Bytes × Nat) := do
  let digits ← write digits digitCount (Decimal.zeroDigit + UInt8.ofNat (n % 10))
  if n / 10 = 0 then
    return (digits, digitCount + 1)
  else
    digitLoop digits (digitCount + 1) (n / 10)
termination_by n
decreasing_by omega

/-- The copying loop: the buffer and the cursor behind the last digit. -/
def reverseLoop (digits : Bytes) : Nat → Bytes → Nat → Checked (Bytes × Nat)
  | 0, out, cursor => return (out, cursor)
  | digitCount + 1, out, cursor => do
      let digit ← read digits digitCount
      let out ← write out cursor digit
      reverseLoop digits digitCount out (cursor + 1)

def encodeMagnitude (out : Bytes) (cursor magnitude : Nat) : Checked (Result Nat × Bytes) := do
  let (digits, digitCount) ← digitLoop (List.replicate i32ScratchLen 0) 0 magnitude
  if out.length < cursor + digitCount then
    return (.error .invalidSize, out)
  else
    let (out, cursor) ← reverseLoop digits digitCount out cursor
    return (.ok cursor, out)

/-- The result, and the buffer as it is left. -/
def encodeI32AsciiChecked (value : Int32) (out : Bytes) : Checked (Result Nat × Bytes) := do
  let magnitude := value.toInt
  if magnitude < 0 then
    if out = [] then
      return (.error .invalidSize, out)
    else
      let out ← write out 0 Decimal.minus
      encodeMagnitude out 1 (-magnitude).toNat
  else
    encodeMagnitude out 0 magnitude.toNat

def encodeCommandPayloadChecked (command : ActiveSubstanceCommand) (out : Bytes) :
    Checked (Result Nat × Bytes) := do
  if command.payloadType = AminoValueType.none.code then
    return (.ok 0, out)
  else if command.payloadType = AminoValueType.bool.code then
    if out = [] then
      return (.error .invalidSize, out)
    else if command.payloadI32 = 0 then
      let out ← write out 0 48
      return (.ok 1, out)
    else if command.payloadI32 = 1 then
      let out ← write out 0 49
      return (.ok 1, out)
    else
      return (.error .invalidArg, out)
  else if command.payloadType = AminoValueType.int.code then
    encodeI32AsciiChecked command.payloadI32 out
  else
    return (.error .invalidArg, out)

/-- While the number has at most as many digits as there is room, the loop stores
exactly its digits. -/
theorem digit_loop_spec {room n : Nat} {digits content : Bytes} (positive : 0 < room)
    (fits : n < 10 ^ room) (held : content <+: digits)
    (total : content.length + room = digits.length) :
    ∃ written, digitLoop digits content.length n =
        .ok (written, content.length + (Decimal.digits room n).length) ∧
      content ++ Decimal.digits room n <+: written := by
  induction room generalizing n digits content with
  | zero => omega
  | succ room induction =>
      obtain ⟨stored, store, sized, storedHeld⟩ :=
        write_extends held (by omega) (Decimal.zeroDigit + UInt8.ofNat (n % 10))
      have step : digitLoop digits content.length n =
          if n / 10 = 0 then .ok (stored, content.length + 1)
          else digitLoop stored (content.length + 1) (n / 10) := by
        rw [digitLoop, store]
        rfl
      rw [step, Decimal.digits]
      by_cases last : n / 10 = 0
      · rw [if_pos last, if_pos last]
        exact ⟨stored, rfl, storedHeld⟩
      · obtain ⟨smaller, left⟩ := next_digit_fits fits last
        obtain ⟨written, loop, writtenHeld⟩ := @induction (n / 10) stored
          (content ++ [Decimal.zeroDigit + UInt8.ofNat (n % 10)]) left smaller storedHeld (by
            rw [List.length_append, List.length_singleton, sized]
            omega)
        rw [List.length_append, List.length_singleton] at loop
        rw [if_neg last, if_neg last, loop, List.length_cons, Nat.add_assoc, Nat.add_comm 1]
        exact ⟨written, rfl, by simpa using writtenHeld⟩

theorem reverse_loop_spec {digits out content text : Bytes} (available : text <+: digits)
    (held : content <+: out) (room : content.length + text.length ≤ out.length) :
    ∃ written, reverseLoop digits text.length out content.length =
        .ok (written, content.length + text.length) ∧
      written.length = out.length ∧ content ++ text.reverse <+: written := by
  induction text using List.reverseRecOn generalizing out content with
  | nil => exact ⟨out, rfl, rfl, by simpa using held⟩
  | append_singleton text digit induction =>
      rw [List.length_append, List.length_singleton] at room
      have present : digits[text.length]? = some digit := by
        obtain ⟨rest, rfl⟩ := available
        simp
      obtain ⟨stored, store, sized, storedHeld⟩ := write_extends held (by omega) digit
      obtain ⟨written, loop, writtenSize, writtenHeld⟩ := induction
        ((List.prefix_append text [digit]).trans available) storedHeld (by
          rw [List.length_append, List.length_singleton, sized]
          omega)
      rw [List.length_append, List.length_singleton] at loop
      refine ⟨written, ?_, writtenSize.trans sized, by simpa using writtenHeld⟩
      rw [List.length_append, List.length_singleton, reverseLoop, read_ok present, checked_ok_bind,
        store, checked_ok_bind, loop, Nat.add_assoc, Nat.add_comm 1]

/-- What the code leaves behind the given content: the text where it fits, and an
error with the buffer as it was where it does not. -/
structure Encoded (out content text : Bytes) (answer : Result Nat × Bytes) : Prop where
  sized : answer.2.length = out.length
  result : answer.1 = if out.length < content.length + text.length then .error .invalidSize
    else .ok (content.length + text.length)
  written : content.length + text.length ≤ out.length → content ++ text <+: answer.2

theorem Encoded.whole {out content text : Bytes} {answer : Result Nat × Bytes}
    (encoded : Encoded out content text answer) : Encoded out [] (content ++ text) answer := by
  have length : ([] : Bytes).length + (content ++ text).length =
      content.length + text.length := by simp
  refine ⟨encoded.sized, ?_, ?_⟩
  · rw [length]
    exact encoded.result
  · rw [length]
    exact encoded.written

theorem encode_magnitude_spec {out content : Bytes} {magnitude : Nat}
    (fits : magnitude < 10 ^ i32ScratchLen) (held : content <+: out) :
    ∃ answer, encodeMagnitude out content.length magnitude = .ok answer ∧
      Encoded out content (Decimal.digits i32ScratchLen magnitude).reverse answer := by
  obtain ⟨digits, counted, available⟩ := @digit_loop_spec i32ScratchLen magnitude
    (List.replicate i32ScratchLen 0) [] (by decide) fits List.nil_prefix (by simp)
  simp only [List.length_nil, Nat.zero_add, List.nil_append] at counted available
  simp only [encodeMagnitude, counted, checked_ok_bind]
  by_cases short : out.length < content.length + (Decimal.digits i32ScratchLen magnitude).length
  · rw [if_pos short]
    refine ⟨_, rfl, rfl, ?_, ?_⟩
    · rw [List.length_reverse, if_pos short]
    · rw [List.length_reverse]
      omega
  · obtain ⟨written, copied, sized, text⟩ :=
      reverse_loop_spec available held (Nat.not_lt.mp short)
    rw [if_neg short, copied, checked_ok_bind]
    refine ⟨_, rfl, sized, ?_, fun _ => text⟩
    rw [List.length_reverse, if_neg short]

theorem encode_i32_ascii_checked_spec (value : Int32) (out : Bytes) :
    ∃ answer, encodeI32AsciiChecked value out = .ok answer ∧
      Encoded out [] (Decimal.signed i32ScratchLen value.toInt) answer := by
  have fits := i32_magnitude value
  unfold Decimal.signed
  by_cases negative : value.toInt < 0
  · have magnitude : (-value.toInt).toNat = value.toInt.natAbs := by omega
    simp only [encodeI32AsciiChecked, if_pos negative, magnitude]
    by_cases empty : out = []
    · subst empty
      refine ⟨(.error .invalidSize, []), rfl, rfl, ?_, ?_⟩
      · simp
      · simp
    · obtain ⟨signed, stored, sized, held⟩ := @write_extends UInt8 out [] List.nil_prefix
        (List.length_pos_of_ne_nil empty) Decimal.minus
      obtain ⟨answer, encoded, spec⟩ := encode_magnitude_spec fits held
      rw [if_neg empty]
      refine ⟨answer, ?_, ?_⟩
      · rw [← encoded]
        rw [show write out 0 Decimal.minus = .ok signed from stored]
        rfl
      · obtain ⟨answerSized, result, written⟩ := spec.whole
        rw [sized] at answerSized result written
        exact ⟨answerSized, result, written⟩
  · have magnitude : value.toInt.toNat = value.toInt.natAbs := by omega
    simp only [encodeI32AsciiChecked, if_neg negative, magnitude]
    exact @encode_magnitude_spec out [] _ fits List.nil_prefix

/-- The buffer holds what `encodeI32Ascii` answers. -/
theorem encode_i32_ascii_refines {value : Int32} {out : Bytes} {answer : Result Nat × Bytes}
    (encoded : encodeI32AsciiChecked value out = .ok answer) :
    answer.1.map (fun count => answer.2.take count) = encodeI32Ascii value out.length := by
  obtain ⟨same, isSame, spec⟩ := encode_i32_ascii_checked_spec value out
  obtain rfl : same = answer := Except.ok.inj (isSame.symm.trans encoded)
  have length : (Decimal.signed i32ScratchLen value.toInt).length =
      (if value.toInt < 0 then [Decimal.minus] else ([] : Bytes)).length +
        (Decimal.digits i32ScratchLen value.toInt.natAbs).length := by
    rw [Decimal.signed, List.length_append, List.length_reverse]
  have result := spec.result
  have written := spec.written
  simp only [List.length_nil, Nat.zero_add, List.nil_append] at result written
  simp only [encodeI32Ascii, ← length]
  by_cases short : out.length < (Decimal.signed i32ScratchLen value.toInt).length
  · rw [result, if_pos short, if_pos short, ite_self]
    rfl
  · have sign : ¬ out.length <
        (if value.toInt < 0 then [Decimal.minus] else ([] : Bytes)).length := by omega
    rw [result, if_neg short, if_neg short, if_neg sign]
    exact congrArg Except.ok (List.prefix_iff_eq_take.mp (written (Nat.not_lt.mp short))).symm

theorem write_first {out : Bytes} (given : out ≠ []) (byte : UInt8) :
    ∃ written, write out 0 byte = .ok written ∧ written.take 1 = [byte] := by
  obtain ⟨written, stored, -, held⟩ := @write_extends UInt8 out [] List.nil_prefix
    (List.length_pos_of_ne_nil given) byte
  exact ⟨written, stored, (List.prefix_iff_eq_take.mp held).symm⟩

/-- The payload stays inside the buffer it is given and is the one
`encodeCommandPayload` answers. -/
theorem encode_command_payload_refines (command : ActiveSubstanceCommand) (out : Bytes) :
    ∃ answer, encodeCommandPayloadChecked command out = .ok answer ∧
      answer.1.map (fun count => answer.2.take count) =
        encodeCommandPayload command out.length := by
  unfold encodeCommandPayloadChecked encodeCommandPayload
  by_cases absent : command.payloadType = AminoValueType.none.code
  · rw [if_pos absent, if_pos absent]
    exact ⟨_, rfl, rfl⟩
  · rw [if_neg absent, if_neg absent]
    by_cases truth : command.payloadType = AminoValueType.bool.code
    · rw [if_pos truth, if_pos truth]
      by_cases empty : out = []
      · rw [if_pos empty, if_pos (by rw [empty]; rfl)]
        exact ⟨_, rfl, rfl⟩
      · rw [if_neg empty, if_neg (mt List.length_eq_zero_iff.mp empty)]
        by_cases zero : command.payloadI32 = 0
        · obtain ⟨written, stored, first⟩ := write_first empty 48
          rw [if_pos zero, if_pos zero, stored]
          exact ⟨_, rfl, congrArg Except.ok first⟩
        · rw [if_neg zero, if_neg zero]
          by_cases one : command.payloadI32 = 1
          · obtain ⟨written, stored, first⟩ := write_first empty 49
            rw [if_pos one, if_pos one, stored]
            exact ⟨_, rfl, congrArg Except.ok first⟩
          · rw [if_neg one, if_neg one]
            exact ⟨_, rfl, rfl⟩
    · rw [if_neg truth, if_neg truth]
      by_cases integer : command.payloadType = AminoValueType.int.code
      · rw [if_pos integer, if_pos integer]
        obtain ⟨answer, encoded, -⟩ := encode_i32_ascii_checked_spec command.payloadI32 out
        exact ⟨answer, encoded, encode_i32_ascii_refines encoded⟩
      · rw [if_neg integer, if_neg integer]
        exact ⟨_, rfl, rfl⟩

/-- For every integer and every buffer: no access leaves the scratch array or the
buffer, the encoder succeeds exactly when the printed integer fits, and then it
answers the length of that text, which is what its first bytes are, is canonical
and is read back as the integer. -/
theorem decimal_payload_encoding (value : Int32) (out : Bytes) :
    ∃ result written, encodeI32AsciiChecked value out = .ok (result, written) ∧
      written.length = out.length ∧
      ((∃ count, result = .ok count) ↔
        (CString.utf8 (toString value.toInt)).length ≤ out.length) ∧
      ∀ count, result = .ok count →
        count = (CString.utf8 (toString value.toInt)).length ∧
        written.take count = CString.utf8 (toString value.toInt) ∧
        Decimal.Canonical (written.take count) ∧
        CNumber.readDecimal (written.take count) = some value.toInt := by
  obtain ⟨⟨result, written⟩, encoded, spec⟩ := encode_i32_ascii_checked_spec value out
  have magnitude := i32_magnitude value
  have text := Decimal.signed_text (by decide) _ magnitude
  have answered := spec.result
  have fits := spec.written
  simp only [List.length_nil, Nat.zero_add, List.nil_append] at answered fits
  refine ⟨result, written, encoded, spec.sized, ?_, ?_⟩
  · rw [← text, answered]
    by_cases short : out.length < (Decimal.signed i32ScratchLen value.toInt).length
    · simp [if_pos short, Nat.not_le.mpr short]
    · simp [if_neg short, Nat.not_lt.mp short]
  · intro count succeeded
    by_cases short : out.length < (Decimal.signed i32ScratchLen value.toInt).length
    · rw [answered, if_pos short] at succeeded
      exact absurd succeeded (by simp)
    · rw [answered, if_neg short, Except.ok.injEq] at succeeded
      have taken : written.take count = Decimal.signed i32ScratchLen value.toInt := by
        rw [← succeeded]
        exact (List.prefix_iff_eq_take.mp (fits (Nat.not_lt.mp short))).symm
      rw [taken, ← text]
      exact ⟨succeeded.symm, rfl, Decimal.canonical_signed (by decide) magnitude,
        Decimal.read_decimal_signed (by decide) magnitude⟩

end BlindNet
