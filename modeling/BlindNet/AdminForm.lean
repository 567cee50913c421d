import BlindNet.TableEdits
import BlindNet.Lib.CNumber

/-!
# Form bodies of the admin server

A request body is read into a buffer of 2048 bytes and searched as a C string. The
value of a field is decoded into a buffer of the handler: what does not fit is
dropped, and the handler reads the buffer up to its first NUL.
-/

namespace BlindNet

set_option autoImplicit false

open ByteLayout

def adminPostBufSize : Nat := 2048
def adminSignatureMaxLen : Nat := 96

/-! ## Hexadecimal -/

def hexValue (c : UInt8) : Option Nat :=
  if 48 ≤ c && c ≤ 57 then some (c.toNat - 48)
  else if 97 ≤ c && c ≤ 102 then some (10 + c.toNat - 97)
  else if 65 ≤ c && c ≤ 70 then some (10 + c.toNat - 65)
  else none

/-- The loop of `parse_hex` over the pairs of a text of even length. -/
def hexPairs : Bytes → Option Bytes
  | hi :: lo :: rest =>
      match hexValue hi, hexValue lo with
      | some high, some low => (hexPairs rest).map (UInt8.ofNat (16 * high + low) :: ·)
      | _, _ => none
  | _ => some []

def parseHex (hex : Bytes) (outSize : Nat) : Result Bytes :=
  if hex.length % 2 ≠ 0 ∨ outSize < hex.length / 2 then
    .error .invalidSize
  else
    match hexPairs hex with
    | none => .error .invalidArg
    | some bytes => .ok bytes

def parseExactHex (hex : Bytes) (outSize : Nat) : Result Bytes :=
  match parseHex hex outSize with
  | .error err => .error err
  | .ok bytes => if bytes.length = outSize then .ok bytes else .error .invalidSize

/-! ## Numbers -/

/-- The comparison with `UINT32_MAX` never fails where `unsigned long` has 32 bits. -/
def parseU32Field (text : Bytes) : Option UInt32 :=
  if text = [] then
    none
  else
    match CNumber.strtoul text with
    | some (value, []) => some value
    | _ => none

def aminoSeparator (byte : UInt8) : Bool :=
  byte == 32 || byte == 44 || byte == 59 || byte == 9

/-- The rounds of `parse_amino_ids`. Each one reads at least a digit, so a text takes
no more rounds than it has bytes. -/
def parseAminoRounds : Nat → List Int32 → Bytes → Option (List Int32)
  | 0, _, _ => none
  | rounds + 1, ids, text =>
      let start := text.dropWhile aminoSeparator
      if start = [] then
        some ids
      else
        match CNumber.strtoul start with
        | none => none
        | some (value, rest) =>
            let id := Int32.ofNat value.toNat
            if 65535 < value then none
            else if !aminoAcidIdValid id then none
            else if rnaTemplateMaxAminos ≤ ids.length then none
            else if id ∈ ids then none
            else if rest ≠ [] ∧ !aminoSeparator (rest.headD 0) then none
            else parseAminoRounds rounds (ids ++ [id]) rest

def parseAminoIds (text : Bytes) : Option (List Int32) :=
  match parseAminoRounds (text.length + 1) [] text with
  | some ids => if ids = [] then none else some ids
  | none => none

/-! ## Fields -/

/-- `url_decode_n`, with the bytes that the destination has left. -/
def urlDecodeN : Nat → Bytes → Bytes
  | 0, _ => []
  | _ + 1, [] => []
  | room + 1, byte :: rest =>
      if byte = 43 then
        32 :: urlDecodeN room rest
      else if byte = 37 then
        match rest with
        | hi :: lo :: tail =>
            match hexValue hi, hexValue lo with
            | some high, some low => UInt8.ofNat (16 * high + low) :: urlDecodeN room tail
            | _, _ => byte :: urlDecodeN room rest
        | _ => byte :: urlDecodeN room rest
      else
        byte :: urlDecodeN room rest

def splitAtMark (mark : UInt8) : Bytes → Option (Bytes × Bytes)
  | [] => none
  | byte :: rest =>
      if byte = mark then
        some ([], rest)
      else
        (splitAtMark mark rest).map fun parts => (byte :: parts.1, parts.2)

/-- The rounds of `form_get_value` up to the undecoded value. Each field has a `=`, so
a body takes no more rounds than it has bytes. -/
def formRounds (key : Bytes) : Nat → Bytes → Option Bytes
  | 0, _ => none
  | rounds + 1, body =>
      match splitAtMark 61 body with
      | none => none
      | some (name, after) =>
          match splitAtMark 38 after with
          | none => if name = key then some after else none
          | some (value, next) => if name = key then some value else formRounds key rounds next

def formSegment (body key : Bytes) : Option Bytes :=
  formRounds key (body.length + 1) body

/-- The C string that `form_get_value` leaves in a buffer of `outSize` bytes. -/
def formGetValue (body : Bytes) (key : String) (outSize : Nat) : Option Bytes :=
  (formSegment body (CString.utf8 key)).map fun segment =>
    CString.text (urlDecodeN (outSize - 1) segment)

inductive RequestBody where
  | complete (content : Bytes)
  | broken (contentLen : Nat)

def readRequestBody (request : RequestBody) (bodySize : Nat) : Result Bytes :=
  match request with
  | .complete content =>
      if content.length = 0 ∨ bodySize ≤ content.length then .error .invalidSize
      else .ok (CString.text content)
  | .broken contentLen =>
      if contentLen = 0 ∨ bodySize ≤ contentLen then .error .invalidSize else .error .fail

def buildTemplateFromFields (templateText templateName aminoText : Bytes) : Result RnaTemplate :=
  match parseU32Field templateText with
  | none => .error .invalidArg
  | some templateId =>
      if 65535 < templateId then
        .error .invalidArg
      else
        match parseAminoIds aminoText with
        | none => .error .invalidArg
        | some ids =>
            let template : RnaTemplate :=
              { id := templateId.toUInt16
                name := strncpyCleared 32 templateName
                aminoCount := UInt8.ofNat ids.length
                aminos := ⟨ids.takeD rnaTemplateMaxAminos 0, amino_slots_length ids⟩
                flags := 0 }
            match rnaTemplateValidate template with
            | .error err => .error err
            | .ok () => .ok template

/-- `compute_issuer_key_id` of the administration server, which skips carriage
returns while it feeds the text to SHA-256. -/
def computeIssuerKeyId (crypto : Crypto) (pem : Bytes) : Result (ByteArr 16) :=
  match crypto.mdSha256 ((CString.text pem).filter (· != 13)) with
  | none => .error .fail
  | some digest => .ok (fit 16 digest.toList)

/-! ## The rounds are enough -/

theorem parse_amino_rounds_enough {rounds : Nat} {text : Bytes} (enough : text.length < rounds)
    (ids : List Int32) :
    parseAminoRounds (rounds + 1) ids text = parseAminoRounds rounds ids text := by
  induction rounds generalizing text ids with
  | zero => omega
  | succ rounds induction =>
      rw [parseAminoRounds]
      conv => rhs; rw [parseAminoRounds]
      simp only
      by_cases empty : text.dropWhile aminoSeparator = []
      · rw [if_pos empty, if_pos empty]
      · rw [if_neg empty, if_neg empty]
        cases read : CNumber.strtoul (text.dropWhile aminoSeparator) with
        | none => rfl
        | some found =>
            have shorter : found.2.length < rounds := by
              unfold CNumber.strtoul at read
              rcases Option.map_eq_some_iff.mp read with ⟨scanned, scan, rfl⟩
              rcases CNumber.scan_used scan with ⟨used, split, nonempty, _⟩
              have sizes := congrArg List.length split
              have dropped := (List.dropWhile_sublist aminoSeparator (l := text)).length_le
              have positive := List.length_pos_of_ne_nil nonempty
              rw [List.length_append] at sizes
              simp only
              omega
            simp only [induction shorter]

theorem split_at_mark_length {mark : UInt8} {text before after : Bytes}
    (split : splitAtMark mark text = some (before, after)) : after.length < text.length := by
  induction text generalizing before with
  | nil => cases split
  | cons byte rest induction =>
      rw [splitAtMark] at split
      split_ifs at split
      · cases split
        exact Nat.lt_succ_self _
      · rcases Option.map_eq_some_iff.mp split with ⟨parts, found, same⟩
        cases same
        exact Nat.lt_succ_of_lt (induction found)

theorem form_rounds_enough {rounds : Nat} {body : Bytes} (enough : body.length < rounds)
    (key : Bytes) : formRounds key (rounds + 1) body = formRounds key rounds body := by
  induction rounds generalizing body with
  | zero => omega
  | succ rounds induction =>
      rw [formRounds]
      conv => rhs; rw [formRounds]
      cases named : splitAtMark 61 body with
      | none => rfl
      | some field =>
          simp only
          cases ended : splitAtMark 38 field.2 with
          | none => rfl
          | some value =>
              have first := split_at_mark_length named
              have second := split_at_mark_length ended
              have shorter : value.2.length < rounds := by omega
              simp only [induction shorter]

end BlindNet
