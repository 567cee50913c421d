import BlindNet.AdminForm
import BlindNet.Lib.Bounds

/-!
# Hexadecimal codec

`hex_encode` and `parse_hex` as they store into the buffers of their callers, every access
checked. The writer uses a table of lower-case digits, the reader three ranges of
characters; a text the reader refuses for a digit leaves nothing in the output.
-/

namespace BlindNet

set_option autoImplicit false

open ByteLayout Bounds

def kHex : Bytes := CString.utf8 "0123456789abcdef"

/-- The loop of `hex_encode`, at the byte it has come to. -/
def hexEncodeFrom : Bytes → Nat → Bytes → Checked Bytes
  | [], _, out => return out
  | byte :: rest, i, out => do
      let high ← read kHex (byte >>> 4).toNat
      let out ← write out (i * 2) high
      let low ← read kHex (byte &&& 0x0F).toNat
      let out ← write out (i * 2 + 1) low
      hexEncodeFrom rest (i + 1) out

def hexEncode (bytes : Option Bytes) (out : Bytes) : Checked Bytes :=
  match bytes with
  | none => return out
  | some bytes =>
      if out.length < bytes.length * 2 + 1 then
        return out
      else do
        let out ← hexEncodeFrom bytes 0 out
        write out (bytes.length * 2) 0

/-- The answer of `parse_hex`, `*out_len` and the output buffer. -/
structure HexParse where
  result : Result Unit
  outLen : Nat
  out : Bytes
  deriving DecidableEq

/-- The rounds of `parse_hex` that are left, at round `i`. A digit that is none clears
the whole output. -/
def parseHexFrom (hex : Bytes) : Nat → Nat → Bytes → Checked (Result Unit × Bytes)
  | 0, _, out => return (.ok (), out)
  | left + 1, i, out => do
      let hi ← read hex (i * 2)
      let lo ← read hex (i * 2 + 1)
      match hexValue hi, hexValue lo with
      | some high, some low =>
          let out ← write out i (UInt8.ofNat (high <<< 4 ||| low))
          parseHexFrom hex left (i + 1) out
      | _, _ => return (.error .invalidArg, List.replicate out.length 0)

/-- `parse_hex` into a buffer of `out_size` bytes; the text is a C string in memory. -/
def parseHexInto (hex : Option Bytes) (out : Option Bytes) : Checked HexParse :=
  match hex, out with
  | some hex, some out =>
      let hexLen := (CString.text hex).length
      if out.length = 0 then
        return ⟨.error .invalidArg, 0, out⟩
      else if hexLen % 2 ≠ 0 ∨ out.length < hexLen / 2 then
        return ⟨.error .invalidSize, 0, out⟩
      else do
        let parsed ← parseHexFrom (CString.text hex) (hexLen / 2) 0 out
        match parsed with
        | (.ok (), out) => return ⟨.ok (), hexLen / 2, out⟩
        | (.error err, out) => return ⟨.error err, 0, out⟩
  | _, out => return ⟨.error .invalidArg, 0, out.getD []⟩

/-! ## Hexadecimal texts -/

theorem hex_value_ne_zero {byte : UInt8} {value : Nat} (digit : hexValue byte = some value) :
    byte ≠ 0 := by
  rintro rfl
  cases digit

theorem hex_pairs_refused {hi lo : UInt8} {rest : Bytes}
    (invalid : ∀ high low, hexValue hi = some high → hexValue lo = some low → False) :
    hexPairs (hi :: lo :: rest) = none := by
  rw [hexPairs]
  split
  · rename_i high low isHigh isLow
    exact absurd isLow (invalid high low isHigh)
  · rfl

theorem hex_pairs_some {text bytes : Bytes} (even : text.length % 2 = 0)
    (parsed : hexPairs text = some bytes) :
    text.length = 2 * bytes.length ∧ ∀ byte ∈ text, byte ≠ 0 := by
  induction text using hexPairs.induct generalizing bytes with
  | case1 hi lo rest high low isLow isHigh induction =>
      rw [hexPairs, isHigh, isLow] at parsed
      rcases Option.map_eq_some_iff.mp parsed with ⟨others, more, rfl⟩
      rcases induction (by simp only [List.length_cons] at even; omega) more with ⟨size, clean⟩
      constructor
      · simp only [List.length_cons]
        omega
      · intro byte member
        rcases List.mem_cons.mp member with rfl | member
        · exact hex_value_ne_zero isHigh
        rcases List.mem_cons.mp member with rfl | member
        · exact hex_value_ne_zero isLow
        · exact clean byte member
  | case2 hi lo rest invalid =>
      rw [hex_pairs_refused invalid] at parsed
      cases parsed
  | case3 text short =>
      match text with
      | [] =>
          cases parsed
          simp
      | [byte] => simp at even
      | hi :: lo :: rest => exact absurd rfl (short hi lo rest)

theorem parse_exact_hex_iff {hex bytes : Bytes} {size : Nat} :
    parseExactHex hex size = .ok bytes ↔ hex.length = 2 * size ∧ hexPairs hex = some bytes := by
  unfold parseExactHex parseHex
  by_cases badSize : hex.length % 2 ≠ 0 ∨ size < hex.length / 2
  · rw [if_pos badSize]
    constructor
    · intro parsed
      cases parsed
    · rintro ⟨exact_, _⟩
      omega
  · rw [if_neg badSize]
    cases parsed : hexPairs hex with
    | none => simp
    | some made =>
        have sized := (hex_pairs_some (by omega) parsed).1
        simp only
        split_ifs with whole
        · constructor
          · intro same
            cases same
            exact ⟨by omega, rfl⟩
          · rintro ⟨_, same⟩
            cases same
            rfl
        · constructor
          · intro same
            cases same
          · rintro ⟨exact_, _⟩
            omega

/-! ## Digits -/

def hexDigits : Bytes := CString.utf8 "0123456789abcdefABCDEF"

theorem hex_value_is_some_iff (byte : UInt8) :
    (hexValue byte).isSome = true ↔ byte ∈ hexDigits := by
  revert byte
  exact forall_byte (by decide +kernel)

theorem hex_value_lt {byte : UInt8} {value : Nat} (digit : hexValue byte = some value) :
    value < 16 := by
  have small : ∀ byte : UInt8, (hexValue byte).getD 0 < 16 := forall_byte (by decide +kernel)
  have found := small byte
  rw [digit] at found
  exact found

theorem nibbles_joined {high low : Nat} (small : low < 16) :
    high <<< 4 ||| low = 16 * high + low := by
  rw [← Nat.shiftLeft_add_eq_or_of_lt small, Nat.shiftLeft_eq, Nat.mul_comm]

theorem k_hex_digit : ∀ nibble : Fin 16,
    kHex[nibble.val]? = some (kHex.getD nibble 0) ∧
      hexValue (kHex.getD nibble 0) = some nibble.val := by
  decide +kernel

theorem hex_pairs_is_some_iff {text : Bytes} (even : text.length % 2 = 0) :
    (hexPairs text).isSome = true ↔ ∀ digit ∈ text, digit ∈ hexDigits := by
  induction text using hexPairs.induct with
  | case1 hi lo rest high low isLow isHigh induction =>
      have highDigit := (hex_value_is_some_iff hi).mp (by rw [isHigh]; rfl)
      have lowDigit := (hex_value_is_some_iff lo).mp (by rw [isLow]; rfl)
      have evenRest : rest.length % 2 = 0 := by
        simp only [List.length_cons] at even
        omega
      rw [hexPairs, isHigh, isLow]
      simp only [Option.isSome_map, List.forall_mem_cons]
      rw [induction evenRest]
      simp only [highDigit, lowDigit, true_and]
  | case2 hi lo rest invalid =>
      rw [hex_pairs_refused invalid]
      constructor
      · intro impossible
        cases impossible
      · intro digits
        have highDigit := (hex_value_is_some_iff hi).mpr (digits hi (by simp))
        have lowDigit := (hex_value_is_some_iff lo).mpr (digits lo (by simp))
        obtain ⟨high, isHigh⟩ := Option.isSome_iff_exists.mp highDigit
        obtain ⟨low, isLow⟩ := Option.isSome_iff_exists.mp lowDigit
        exact absurd isLow (invalid high low isHigh)
  | case3 text short =>
      match text with
      | [] => simp [hexPairs]
      | [byte] => simp at even
      | hi :: lo :: rest => exact absurd rfl (short hi lo rest)

/-! ## Reading -/

/-- The output behind the loop: the bytes read from place `i` on, or nothing at all. -/
def hexStored (out : Bytes) (i : Nat) : Option Bytes → Result Unit × Bytes
  | some bytes => (.ok (), out.take i ++ bytes ++ out.drop (i + bytes.length))
  | none => (.error .invalidArg, List.replicate out.length 0)

theorem hex_stored_next {out : Bytes} {i : Nat} (inside : i < out.length) (byte : UInt8)
    (parsed : Option Bytes) :
    hexStored (out.set i byte) (i + 1) parsed = hexStored out i (parsed.map (byte :: ·)) := by
  cases parsed with
  | none => simp only [hexStored, Option.map_none, List.length_set]
  | some bytes =>
      have front : (out.set i byte).take (i + 1) = out.take i ++ [byte] := by
        rw [List.take_set, List.take_succ_eq_append_getElem inside,
          List.set_append_right _ _ (by simp)]
        simp [Nat.min_eq_left (Nat.le_of_lt inside)]
      have back : (out.set i byte).drop (i + 1 + bytes.length) =
          out.drop (i + (bytes.length + 1)) := by
        rw [List.drop_set_of_lt (by omega)]
        congr 1
        omega
      simp only [hexStored, Option.map_some, List.length_cons, front, back, List.append_assoc,
        List.cons_append, List.nil_append]

theorem pair_read {before rest : Bytes} {hi lo : UInt8} {i : Nat}
    (reached : before.length = i * 2) :
    read (before ++ hi :: lo :: rest) (i * 2) = .ok hi ∧
      read (before ++ hi :: lo :: rest) (i * 2 + 1) = .ok lo := by
  constructor
  · apply read_ok
    simp [← reached]
  · apply read_ok
    simp [← reached]

theorem parse_hex_from_eq (before : Bytes) {rest : Bytes} (even : rest.length % 2 = 0) {i : Nat}
    (reached : before.length = i * 2) {out : Bytes} (room : i + rest.length / 2 ≤ out.length) :
    parseHexFrom (before ++ rest) (rest.length / 2) i out =
      .ok (hexStored out i (hexPairs rest)) := by
  induction rest using hexPairs.induct generalizing before i out with
  | case1 hi lo rest high low isLow isHigh induction =>
      obtain ⟨readHigh, readLow⟩ := @pair_read before rest hi lo i reached
      rw [List.length_cons, List.length_cons] at even room
      have rounds : (hi :: lo :: rest).length / 2 = rest.length / 2 + 1 := by
        rw [List.length_cons, List.length_cons]
        omega
      have inside : i < out.length := by omega
      have moved : (before ++ [hi, lo]).length = (i + 1) * 2 := by
        rw [List.length_append, reached]
        simp only [List.length_cons, List.length_nil]
        omega
      have later := @induction (before ++ [hi, lo]) (by omega) (i + 1) moved
        (out.set i (UInt8.ofNat (16 * high + low))) (by rw [List.length_set]; omega)
      rw [List.append_assoc, List.cons_append, List.singleton_append] at later
      rw [rounds, parseHexFrom, readHigh, checked_ok_bind, readLow, checked_ok_bind, isHigh, isLow,
        hexPairs, isHigh, isLow]
      simp only
      rw [nibbles_joined (hex_value_lt isLow), write_ok inside]
      exact later.trans (congrArg _ (hex_stored_next inside _ _))
  | case2 hi lo rest invalid =>
      obtain ⟨readHigh, readLow⟩ := @pair_read before rest hi lo i reached
      have rounds : (hi :: lo :: rest).length / 2 = rest.length / 2 + 1 := by
        rw [List.length_cons, List.length_cons]
        omega
      rw [rounds, parseHexFrom, readHigh, checked_ok_bind, readLow, checked_ok_bind,
        hex_pairs_refused invalid]
      split
      · rename_i high low isHigh isLow
        exact absurd isLow (invalid high low isHigh)
      · rfl
  | case3 text short =>
      match text with
      | [] =>
          have nothing : out.take i ++ [] ++ out.drop (i + 0) = out := by simp
          exact congrArg (fun stored => Except.ok (Except.ok (), stored)) nothing.symm
      | [byte] => simp at even
      | hi :: lo :: rest => exact absurd rfl (short hi lo rest)

/-- `parse_hex` on a string in memory and a buffer, by the text alone. -/
theorem parse_hex_into_eq (memory : Bytes) {out : Bytes} (room : out.length ≠ 0) :
    parseHexInto (some memory) (some out) = .ok (
      match parseHex (CString.text memory) out.length with
      | .ok bytes => ⟨.ok (), bytes.length, bytes ++ out.drop bytes.length⟩
      | .error .invalidSize => ⟨.error .invalidSize, 0, out⟩
      | .error err => ⟨.error err, 0, List.replicate out.length 0⟩) := by
  simp only [parseHexInto, parseHex]
  rw [if_neg room]
  by_cases badSize : (CString.text memory).length % 2 ≠ 0 ∨
      out.length < (CString.text memory).length / 2
  · rw [if_pos badSize, if_pos badSize]
    rfl
  · rw [if_neg badSize, if_neg badSize]
    have even : (CString.text memory).length % 2 = 0 := by omega
    have stored := @parse_hex_from_eq [] (CString.text memory) even 0 rfl out (by omega)
    rw [List.nil_append] at stored
    rw [stored, checked_ok_bind]
    cases parsed : hexPairs (CString.text memory) with
    | none => rfl
    | some bytes =>
        have half := (hex_pairs_some even parsed).1
        have count : (CString.text memory).length / 2 = bytes.length := by omega
        simp only [hexStored, count, List.take_zero, List.nil_append, Nat.zero_add]
        rfl

/-! ## Writing -/

def hexText (bytes : Bytes) : Bytes :=
  bytes.flatMap fun (byte : UInt8) =>
    [kHex.getD (byte >>> 4).toNat 0, kHex.getD (byte &&& 0x0F).toNat 0]

theorem hex_text_cons (byte : UInt8) (rest : Bytes) :
    hexText (byte :: rest) =
      kHex.getD (byte >>> 4).toNat 0 :: kHex.getD (byte &&& 0x0F).toNat 0 :: hexText rest :=
  rfl

theorem nibbles_of_byte : ∀ byte : UInt8,
    (byte >>> 4).toNat < 16 ∧ (byte &&& 0x0F).toNat < 16 ∧
      UInt8.ofNat (16 * (byte >>> 4).toNat + (byte &&& 0x0F).toNat) = byte :=
  forall_byte (by decide +kernel)

theorem byte_digits (byte : UInt8) :
    ∃ high low, high < 16 ∧ low < 16 ∧ (byte >>> 4).toNat = high ∧ (byte &&& 0x0F).toNat = low ∧
      UInt8.ofNat (16 * high + low) = byte := by
  obtain ⟨highSmall, lowSmall, joined⟩ := nibbles_of_byte byte
  exact ⟨_, _, highSmall, lowSmall, rfl, rfl, joined⟩

theorem hex_pairs_hex_text (bytes : Bytes) : hexPairs (hexText bytes) = some bytes := by
  induction bytes with
  | nil => rfl
  | cons byte rest induction =>
      obtain ⟨high, low, highSmall, lowSmall, isHigh, isLow, joined⟩ := byte_digits byte
      have highDigit := (k_hex_digit ⟨high, highSmall⟩).2
      have lowDigit := (k_hex_digit ⟨low, lowSmall⟩).2
      rw [hex_text_cons, isHigh, isLow, hexPairs, highDigit, lowDigit, induction]
      simp only [Option.map_some, joined]

theorem hex_text_length (bytes : Bytes) : (hexText bytes).length = bytes.length * 2 := by
  simp [hexText]

theorem hex_text_ne_zero (bytes : Bytes) : ∀ digit ∈ hexText bytes, digit ≠ 0 := by
  have even : (hexText bytes).length % 2 = 0 := by
    rw [hex_text_length]
    omega
  exact (hex_pairs_some even (hex_pairs_hex_text bytes)).2

/-- The loop puts the digits of the bytes left behind those it has written. -/
theorem hex_encode_from_extends (bytes : Bytes) {content out : Bytes} {i : Nat}
    (reached : content.length = i * 2) (held : content <+: out)
    (room : content.length + bytes.length * 2 ≤ out.length) :
    ∃ written, hexEncodeFrom bytes i out = .ok written ∧ written.length = out.length ∧
      content ++ hexText bytes <+: written := by
  induction bytes generalizing content out i with
  | nil =>
      refine ⟨out, rfl, rfl, ?_⟩
      simpa [hexText] using held
  | cons byte rest induction =>
      obtain ⟨high, low, highSmall, lowSmall, isHigh, isLow, _⟩ := byte_digits byte
      have readHigh := read_ok (k_hex_digit ⟨high, highSmall⟩).1
      have readLow := read_ok (k_hex_digit ⟨low, lowSmall⟩).1
      rw [List.length_cons] at room
      obtain ⟨first, wroteFirst, firstSize, firstHeld⟩ :=
        write_extends held (by omega) (kHex.getD high 0)
      obtain ⟨second, wroteSecond, secondSize, secondHeld⟩ :=
        write_extends firstHeld (by rw [List.length_append, List.length_singleton]; omega)
          (kHex.getD low 0)
      rw [List.length_append, List.length_singleton, reached] at wroteSecond
      rw [reached] at wroteFirst
      obtain ⟨written, encoded, size, isHeld⟩ := @induction
        (content ++ [kHex.getD high 0] ++ [kHex.getD low 0]) second (i + 1)
        (by simp only [List.length_append, List.length_singleton]; omega) secondHeld
        (by simp only [List.length_append, List.length_singleton]; omega)
      refine ⟨written, ?_, by omega, ?_⟩
      · rw [hexEncodeFrom, isHigh, isLow, readHigh, checked_ok_bind, wroteFirst, checked_ok_bind,
          readLow, checked_ok_bind, wroteSecond, checked_ok_bind, encoded]
      · rw [hex_text_cons, isHigh, isLow]
        simpa using isHeld

theorem hex_encode_writes {bytes out : Bytes} (room : bytes.length * 2 + 1 ≤ out.length) :
    ∃ written, hexEncode (some bytes) out = .ok written ∧ CString.text written = hexText bytes := by
  obtain ⟨digits, encoded, size, held⟩ :=
    @hex_encode_from_extends bytes [] out 0 rfl (List.nil_prefix) (by simp; omega)
  rw [List.nil_append] at held
  obtain ⟨written, terminated, _, isText⟩ :=
    write_extends held (by rw [hex_text_length]; omega) (0 : UInt8)
  refine ⟨written, ?_, ?_⟩
  · rw [hexEncode, if_neg (by omega), encoded, checked_ok_bind,
      ← hex_text_length, terminated]
  · obtain ⟨rest, isWritten⟩ := isText
    rw [← isWritten, List.append_assoc, List.singleton_append,
      CString.text_append_zero (hex_text_ne_zero bytes)]

/-! ## The codec -/

theorem hex_round_trip {bytes text out : Bytes} (textRoom : bytes.length * 2 + 1 ≤ text.length)
    (room : bytes.length ≤ out.length) (positive : 0 < out.length) :
    ∃ written, hexEncode (some bytes) text = .ok written ∧
      parseHexInto (some written) (some out) =
        .ok ⟨.ok (), bytes.length, bytes ++ out.drop bytes.length⟩ := by
  obtain ⟨written, encoded, isText⟩ := hex_encode_writes textRoom
  refine ⟨written, encoded, ?_⟩
  have fits : ¬ ((hexText bytes).length % 2 ≠ 0 ∨ out.length < (hexText bytes).length / 2) := by
    rw [hex_text_length]
    omega
  rw [parse_hex_into_eq written (by omega), isText, parseHex, if_neg fits, hex_pairs_hex_text]

theorem parse_hex_sized {memory out : Bytes} (positive : 0 < out.length)
    (even : (CString.text memory).length % 2 = 0)
    (short : (CString.text memory).length ≤ 2 * out.length) :
    ((∀ digit ∈ CString.text memory, digit ∈ hexDigits) →
      ∃ bytes, bytes.length * 2 = (CString.text memory).length ∧
        parseHexInto (some memory) (some out) =
          .ok ⟨.ok (), bytes.length, bytes ++ out.drop bytes.length⟩) ∧
    (¬ (∀ digit ∈ CString.text memory, digit ∈ hexDigits) →
      parseHexInto (some memory) (some out) =
        .ok ⟨.error .invalidArg, 0, List.replicate out.length 0⟩) := by
  have fits : ¬ ((CString.text memory).length % 2 ≠ 0 ∨
      out.length < (CString.text memory).length / 2) := by omega
  rw [parse_hex_into_eq memory (by omega), parseHex, if_neg fits, ← hex_pairs_is_some_iff even]
  cases parsed : hexPairs (CString.text memory) with
  | none => simp
  | some bytes =>
      have half := (hex_pairs_some even parsed).1
      constructor
      · intro _
        exact ⟨bytes, by omega, rfl⟩
      · intro refused
        exact absurd rfl refused

theorem parse_hex_missized {memory out : Bytes} (positive : 0 < out.length)
    (badSize : (CString.text memory).length % 2 ≠ 0 ∨
      2 * out.length < (CString.text memory).length) :
    parseHexInto (some memory) (some out) = .ok ⟨.error .invalidSize, 0, out⟩ := by
  have refused : (CString.text memory).length % 2 ≠ 0 ∨
      out.length < (CString.text memory).length / 2 := by omega
  rw [parse_hex_into_eq memory (by omega), parseHex, if_pos refused]

/-- What is encoded into a large enough buffer is parsed back; a parse succeeds on pairs of
digits that fit, and a digit that is none leaves a cleared buffer. -/
theorem hex_codec :
    (∀ bytes text out : Bytes, bytes.length * 2 + 1 ≤ text.length →
      bytes.length ≤ out.length → 0 < out.length →
      ∃ written parse, hexEncode (some bytes) text = .ok written ∧
        parseHexInto (some written) (some out) = .ok parse ∧
        parse.result = .ok () ∧ parse.outLen = bytes.length ∧
        parse.out.take bytes.length = bytes) ∧
    (∀ memory out : Bytes, 0 < out.length →
      ∃ parse, parseHexInto (some memory) (some out) = .ok parse ∧
        (parse.result = .ok () ↔
          (CString.text memory).length % 2 = 0 ∧
            (CString.text memory).length ≤ 2 * out.length ∧
            ∀ digit ∈ CString.text memory, digit ∈ hexDigits) ∧
        ((CString.text memory).length % 2 = 0 →
          (CString.text memory).length ≤ 2 * out.length →
          (∃ digit ∈ CString.text memory, digit ∉ hexDigits) →
          parse.result = .error .invalidArg ∧ parse.out = List.replicate out.length 0)) := by
  constructor
  · intro bytes text out textRoom room positive
    obtain ⟨written, encoded, parsed⟩ := hex_round_trip textRoom room positive
    exact ⟨written, _, encoded, parsed, rfl, rfl, List.take_left⟩
  · intro memory out positive
    by_cases badSize : (CString.text memory).length % 2 ≠ 0 ∨
        2 * out.length < (CString.text memory).length
    · refine ⟨_, parse_hex_missized positive badSize, ?_, by omega⟩
      constructor
      · intro impossible
        cases impossible
      · rintro ⟨even, short, _⟩
        omega
    · have even : (CString.text memory).length % 2 = 0 := by omega
      have short : (CString.text memory).length ≤ 2 * out.length := by omega
      obtain ⟨accepted, refused⟩ := parse_hex_sized positive even short
      by_cases digits : ∀ digit ∈ CString.text memory, digit ∈ hexDigits
      · obtain ⟨bytes, _, parsed⟩ := accepted digits
        refine ⟨_, parsed, ⟨fun _ => ⟨even, short, digits⟩, fun _ => rfl⟩, ?_⟩
        rintro _ _ ⟨digit, member, invalid⟩
        exact absurd (digits digit member) invalid
      · refine ⟨_, refused digits, ?_, fun _ _ _ => ⟨rfl, rfl⟩⟩
        constructor
        · intro impossible
          cases impossible
        · rintro ⟨_, _, all⟩
          exact absurd all digits

theorem two_bytes_hex_codec :
    ∃ written parse, hexEncode (some [0x0F, 0xA0]) (List.replicate 5 0xFF) = .ok written ∧
      parseHexInto (some written) (some [1, 2]) = .ok parse ∧
      parse.result = .ok () ∧ parse.outLen = 2 ∧ parse.out.take 2 = [0x0F, 0xA0] :=
  hex_codec.1 [0x0F, 0xA0] (List.replicate 5 0xFF) [1, 2] (by decide) (by decide) (by decide)

end BlindNet
