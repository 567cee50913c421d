import BlindNet.Lib.CString

/-!
# Platform: error codes, byte predicates and the cryptographic primitives

`esp_err_t` on the C side and `Result` on the Rust side are one type here:
`ESP_OK` is `ok`, every other code is an error. The primitives of mbedTLS and
PSA are parameters, with the failure results the callers distinguish; nothing
is assumed about them in this module.
-/

namespace BlindNet

set_option autoImplicit false

open ByteLayout

inductive EspErr where
  | fail
  | noMem
  | invalidArg
  | invalidState
  | invalidSize
  | notFound
  | notSupported
  | timeout
  | invalidResponse
  | invalidCrc
  | invalidVersion
  | invalidMac
  | other (code : Int32)
  deriving DecidableEq, Repr

abbrev Result (Value : Type) := Except EspErr Value

/-- A check that returns early: the rest runs only when the check is passed. -/
theorem guard_ok {Value : Type} {failing : Prop} [Decidable failing] {err : EspErr}
    {rest : Result Value} {value : Value} :
    (if failing then .error err else rest) = .ok value ↔ ¬ failing ∧ rest = .ok value := by
  by_cases fails : failing <;> simp [fails]

theorem guard_other {Value : Type} {failing : Prop} [Decidable failing] {err other : EspErr}
    {rest : Result Value} (different : other ≠ err) :
    (if failing then .error other else rest) = .error err ↔ ¬ failing ∧ rest = .error err := by
  by_cases fails : failing <;> simp [fails, different]

/-- The PSA statuses that `decrypt_aes_gcm` tells apart. -/
inductive PsaStatus where
  | invalidSignature
  | failure
  deriving DecidableEq, Repr

/-- The primitives the firmware calls. `mdSha256` and `psaHmacSha256` answer
`none` where the library call reports a failure; `pkVerify` covers parsing the
public key, `mbedtls_pk_can_do_psa` and the ECDSA verification. -/
structure Crypto where
  mdSha256 : Bytes → Option (ByteArr 32)
  psaHmacSha256 : (key message : Bytes) → Option (ByteArr 32)
  psaAeadDecrypt : (key nonce aad sealed : Bytes) → Except PsaStatus Bytes
  pkVerify : (publicKey : Bytes) → (hash : ByteArr 32) → (signature : Bytes) → Bool

def bytesAllZero (bytes : Bytes) : Bool :=
  bytes.foldl (· ||| ·) 0 == 0

def constantTimeEqual (first second : Bytes) : Bool :=
  (first.zip second).foldl (fun diff pair => diff ||| (pair.1 ^^^ pair.2)) 0 == 0

/-- `string_valid`: a first byte that is not NUL, and a NUL among the bytes
that may be read. -/
def stringValid (value : Bytes) : Bool :=
  value.headD 0 != 0 && value.contains 0

/-- `strncpy` of at most `size - 1` bytes into a cleared field. -/
def strncpyCleared (size : Nat) (source : Bytes) : ByteArr size :=
  fit size ((CString.text source).take (size - 1))

theorem string_valid_iff (value : Bytes) :
    stringValid value = true ↔
      CString.text value ≠ [] ∧ (CString.text value).length < value.length := by
  cases value with
  | nil => simp [stringValid, CString.text]
  | cons byte rest =>
      by_cases zero : byte = 0
      · simp [stringValid, zero, CString.text_cons_zero]
      · have inner : (CString.text rest).length < rest.length ↔ 0 ∈ rest :=
          CString.text_length_lt_iff rest
        simp [stringValid, zero, CString.text_cons zero, inner, Ne.symm zero]

theorem strncpy_cleared_text {size : Nat} (positive : 0 < size) (source : Bytes) :
    CString.text (strncpyCleared size source).toList = (CString.text source).take (size - 1) := by
  apply CString.text_fit
  · intro byte member
    exact CString.text_ne_zero (List.mem_of_mem_take member)
  · rw [List.length_take]
    omega

private theorem or_eq_zero (first second : UInt8) :
    first ||| second = 0 ↔ first = 0 ∧ second = 0 := by
  constructor
  · intro zero
    have bits : first.toBitVec ||| second.toBitVec = 0#8 := by
      simpa using congrArg UInt8.toBitVec zero
    obtain ⟨left, right⟩ := BitVec.or_eq_zero_iff.mp bits
    exact ⟨UInt8.toBitVec_inj.mp left, UInt8.toBitVec_inj.mp right⟩
  · rintro ⟨rfl, rfl⟩
    rfl

private theorem foldl_or_eq_zero (bytes : Bytes) (start : UInt8) :
    bytes.foldl (· ||| ·) start = 0 ↔ start = 0 ∧ ∀ byte ∈ bytes, byte = 0 := by
  induction bytes generalizing start with
  | nil => simp
  | cons byte rest induction =>
      rw [List.foldl_cons, induction, or_eq_zero, List.forall_mem_cons, and_assoc]

theorem bytes_all_zero_iff (bytes : Bytes) :
    bytesAllZero bytes = true ↔ ∀ byte ∈ bytes, byte = 0 := by
  simp [bytesAllZero, foldl_or_eq_zero]

theorem constant_time_equal_iff {first second : Bytes} (same : first.length = second.length) :
    constantTimeEqual first second = true ↔ first = second := by
  have accumulated : ∀ (start : UInt8),
      (first.zip second).foldl (fun diff pair => diff ||| (pair.1 ^^^ pair.2)) start = 0 ↔
        start = 0 ∧ first = second := by
    induction first generalizing second with
    | nil =>
        intro start
        have empty : second = [] := List.eq_nil_of_length_eq_zero same.symm
        simp [empty]
    | cons byte rest induction =>
        intro start
        cases second with
        | nil => simp at same
        | cons other tail =>
            have shorter : rest.length = tail.length := by simpa using same
            rw [List.zip_cons_cons, List.foldl_cons, induction shorter, or_eq_zero,
              UInt8.xor_eq_zero_iff, List.cons.injEq, and_assoc]
  simp [constantTimeEqual, accumulated]

theorem constant_time_equal_block {size : Nat} (first second : ByteArr size) :
    constantTimeEqual first.toList second.toList = true ↔ first = second := by
  rw [constant_time_equal_iff (by simp), List.Vector.toList_injective.eq_iff]

end BlindNet
