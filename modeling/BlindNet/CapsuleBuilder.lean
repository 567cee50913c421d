import BlindNet.CapsulePill
import BlindNet.Lib.Machine

/-!
# Building a capsule

The calls that fill in a capsule before it is sent. A call checks its arguments before it
stores anything. Every call that stores drops the signature, but for the one that installs
a signature; so a capsule that carries one is the capsule as that call left it.
-/

namespace BlindNet

set_option autoImplicit false

open ByteLayout EventMachine

def capsulePillSignatureNone : UInt8 := 0

def capsulePillZeroized : CapsulePill where
  version := 0
  flags := 0
  actionClass := 0
  reserved0 := 0
  issuedMs := 0
  expiresMs := 0
  networkId := List.Vector.replicate 16 0
  nonce := List.Vector.replicate 16 0
  activeHash := List.Vector.replicate 32 0
  issuerKeyId := List.Vector.replicate 16 0
  signatureAlg := 0
  signatureLen := 0
  reserved1 := List.Vector.replicate 2 0
  signature := List.Vector.replicate 96 0

def capsulePillInit (_capsule : CapsulePill) : CapsulePill :=
  { capsulePillZeroized with
    version := capsulePillVersion
    actionClass := capsulePillActionUnknown
    signatureAlg := capsulePillSignatureNone }

/-- `capsule_pill_configure`; the enumerator is wider than the field it is cut to. -/
def capsulePillConfigure (capsule : CapsulePill) (actionClass issuedMs expiresMs : UInt32)
    (networkId nonce issuerKeyId : Option (ByteArr 16)) : Result Unit × CapsulePill :=
  match networkId, nonce, issuerKeyId with
  | some networkId, some nonce, some issuerKeyId =>
      if issuedMs = 0 ∨ expiresMs ≤ issuedMs then
        (.error .invalidArg, capsule)
      else if actionClass = capsulePillActionUnknown.toUInt32 then
        (.error .invalidArg, capsule)
      else
        (.ok (), { capsule with
          version := capsulePillVersion
          flags := 0
          actionClass := actionClass.toUInt8
          reserved0 := 0
          issuedMs := issuedMs
          expiresMs := expiresMs
          networkId := networkId
          nonce := nonce
          issuerKeyId := issuerKeyId
          signatureAlg := capsulePillSignatureNone
          signatureLen := 0
          reserved1 := List.Vector.replicate 2 0
          signature := List.Vector.replicate 96 0 })
  | _, _, _ => (.error .invalidArg, capsule)

def capsulePillSetActiveHash (capsule : CapsulePill) (activeHash : Option (ByteArr 32)) :
    Result Unit × CapsulePill :=
  match activeHash with
  | none => (.error .invalidArg, capsule)
  | some activeHash =>
      (.ok (), { capsule with
        activeHash := activeHash
        signatureLen := 0
        signature := List.Vector.replicate 96 0 })

def capsulePillBindActive (crypto : Crypto) (capsule : CapsulePill)
    (substance : Option ActiveSubstance) : Result Unit × CapsulePill :=
  match substance with
  | none => (.error .invalidArg, capsule)
  | some substance =>
      match activeSubstanceHash crypto substance with
      | .error err => (.error err, capsule)
      | .ok hash => capsulePillSetActiveHash capsule (some hash)

/-- `capsule_pill_set_signature`; the caller's memory holds the bytes to copy. -/
def capsulePillSetSignature (capsule : CapsulePill) (alg : UInt32) (signature : Option Bytes)
    (signatureLen : Nat) : Result Unit × CapsulePill :=
  match signature with
  | none => (.error .invalidArg, capsule)
  | some signature =>
      if alg ≠ capsulePillSignatureEcdsaSha256Der.toUInt32 then
        (.error .notSupported, capsule)
      else if signatureLen = 0 ∨ capsulePillSignatureMaxLen < signatureLen then
        (.error .invalidSize, capsule)
      else
        (.ok (), { capsule with
          signatureAlg := alg.toUInt8
          signatureLen := UInt8.ofNat signatureLen
          signature := fit 96 (signature.take signatureLen) })

def capsulePillSetSignatureAlg (capsule : CapsulePill) (alg : UInt32) :
    Result Unit × CapsulePill :=
  if alg ≠ capsulePillSignatureEcdsaSha256Der.toUInt32 then
    (.error .notSupported, capsule)
  else
    (.ok (), { capsule with
      signatureAlg := alg.toUInt8
      signatureLen := 0
      signature := List.Vector.replicate 96 0 })

/-! ## Sequences of calls -/

/-- A call of the builder on one capsule. Each `bind_active` meets its own digest engine,
which may fail. -/
inductive CapsuleCall where
  | init
  | configure (actionClass issuedMs expiresMs : UInt32)
      (networkId nonce issuerKeyId : Option (ByteArr 16))
  | setActiveHash (activeHash : Option (ByteArr 32))
  | bindActive (crypto : Crypto) (substance : Option ActiveSubstance)
  | setSignatureAlg (alg : UInt32)
  | setSignature (alg : UInt32) (signature : Option Bytes) (signatureLen : Nat)

namespace CapsuleCall

def apply (capsule : CapsulePill) : CapsuleCall → Result Unit × CapsulePill
  | init => (.ok (), capsulePillInit capsule)
  | configure actionClass issuedMs expiresMs networkId nonce issuerKeyId =>
      capsulePillConfigure capsule actionClass issuedMs expiresMs networkId nonce issuerKeyId
  | setActiveHash activeHash => capsulePillSetActiveHash capsule activeHash
  | bindActive crypto substance => capsulePillBindActive crypto capsule substance
  | setSignatureAlg alg => capsulePillSetSignatureAlg capsule alg
  | setSignature alg signature signatureLen =>
      capsulePillSetSignature capsule alg signature signatureLen

def step (capsule : CapsulePill) (call : CapsuleCall) : CapsulePill × List (Result Unit) :=
  ((call.apply capsule).2, [(call.apply capsule).1])

def after (memory : CapsulePill) (calls : List CapsuleCall) : CapsulePill :=
  (run step memory calls).1

def Installs (capsule : CapsulePill) (call : CapsuleCall) : Prop :=
  (∃ alg signature signatureLen, call = setSignature alg signature signatureLen) ∧
    (call.apply capsule).1 = .ok ()

end CapsuleCall

/-- What a successful `set_signature` leaves: the signed fields but for the algorithm, the
signature it was given, and zeros behind it. -/
structure CapsulePill.SignedFrom (capsule before : CapsulePill) (call : CapsuleCall) : Prop where
  canonical : capsuleSignedCanonical capsule =
    capsuleSignedCanonical { before with signatureAlg := capsulePillSignatureEcdsaSha256Der }
  given : ∃ alg signature signatureLen, call = .setSignature alg (some signature) signatureLen ∧
    capsule.signatureLen.toNat = signatureLen ∧
    capsule.signature = fit 96 (signature.take signatureLen)
  rest : ∀ byte ∈ capsule.signature.toList.drop capsule.signatureLen.toNat, byte = 0

namespace CapsuleCall

theorem fit_take_zeros {size count : Nat} (signature : Bytes) (inside : count ≤ size) :
    ∀ byte ∈ (fit size (signature.take count)).toList.drop count, byte = 0 := by
  have short : (signature.take count).length ≤ size := by
    rw [List.length_take]
    omega
  have nothing : (signature.take count).drop count = [] := by
    rw [List.drop_take, Nat.sub_self, List.take_zero]
  intro byte member
  rw [fit_short short, List.drop_append, nothing, List.nil_append] at member
  exact List.eq_of_mem_replicate (List.mem_of_mem_drop member)

theorem set_signature_cases (capsule : CapsulePill) (alg : UInt32) (signature : Option Bytes)
    (signatureLen : Nat) :
    (∃ err, capsulePillSetSignature capsule alg signature signatureLen = (.error err, capsule)) ∨
      ((capsulePillSetSignature capsule alg signature signatureLen).1 = .ok () ∧
        (capsulePillSetSignature capsule alg signature signatureLen).2.SignedFrom capsule
          (.setSignature alg signature signatureLen)) := by
  cases signature with
  | none => exact Or.inl ⟨_, rfl⟩
  | some signature =>
      simp only [capsulePillSetSignature]
      by_cases unsupported : alg ≠ capsulePillSignatureEcdsaSha256Der.toUInt32
      · rw [if_pos unsupported]
        exact Or.inl ⟨_, rfl⟩
      · rw [if_neg unsupported]
        by_cases badSize : signatureLen = 0 ∨ capsulePillSignatureMaxLen < signatureLen
        · rw [if_pos badSize]
          exact Or.inl ⟨_, rfl⟩
        · rw [if_neg badSize]
          unfold capsulePillSignatureMaxLen at badSize
          have small : (UInt8.ofNat signatureLen).toNat = signatureLen := by
            rw [UInt8.toNat_ofNat', Nat.mod_eq_of_lt (by omega)]
          refine Or.inr ⟨rfl, ?_, ⟨alg, signature, signatureLen, rfl, small, rfl⟩, ?_⟩
          · rw [not_not.mp unsupported]
            rfl
          · simp only [small]
            exact fit_take_zeros signature (by omega)

/-- What a call can do: fail and change nothing, drop the signature, or install one. -/
theorem apply_cases (capsule : CapsulePill) (call : CapsuleCall) :
    (∃ err, call.apply capsule = (.error err, capsule)) ∨
      ((call.apply capsule).1 = .ok () ∧ (call.apply capsule).2.signatureLen = 0) ∨
      call.Installs capsule := by
  cases call with
  | init => exact Or.inr (Or.inl ⟨rfl, rfl⟩)
  | configure actionClass issuedMs expiresMs networkId nonce issuerKeyId =>
      simp only [apply, capsulePillConfigure]
      split
      · split_ifs
        · exact Or.inl ⟨_, rfl⟩
        · exact Or.inl ⟨_, rfl⟩
        · exact Or.inr (Or.inl ⟨rfl, rfl⟩)
      · exact Or.inl ⟨_, rfl⟩
  | setActiveHash activeHash =>
      cases activeHash with
      | none => exact Or.inl ⟨_, rfl⟩
      | some hash => exact Or.inr (Or.inl ⟨rfl, rfl⟩)
  | bindActive crypto substance =>
      cases substance with
      | none => exact Or.inl ⟨_, rfl⟩
      | some substance =>
          simp only [apply, capsulePillBindActive]
          cases activeSubstanceHash crypto substance with
          | error err => exact Or.inl ⟨_, rfl⟩
          | ok hash => exact Or.inr (Or.inl ⟨rfl, rfl⟩)
  | setSignatureAlg alg =>
      simp only [apply, capsulePillSetSignatureAlg]
      split_ifs
      · exact Or.inl ⟨_, rfl⟩
      · exact Or.inr (Or.inl ⟨rfl, rfl⟩)
  | setSignature alg signature signatureLen =>
      rcases set_signature_cases capsule alg signature signatureLen with failed | ⟨ok, _⟩
      · exact Or.inl failed
      · exact Or.inr (Or.inr ⟨⟨alg, signature, signatureLen, rfl⟩, ok⟩)

theorem failed_call_keeps {capsule : CapsulePill} {call : CapsuleCall}
    (failed : (call.apply capsule).1 ≠ .ok ()) : (call.apply capsule).2 = capsule := by
  rcases apply_cases capsule call with ⟨err, kept⟩ | ⟨ok, _⟩ | ⟨_, ok⟩
  · rw [kept]
  · exact absurd ok failed
  · exact absurd ok failed

theorem failed_calls_keep {capsule : CapsulePill} {call : CapsuleCall} {late : List CapsuleCall}
    (failed : ∀ first next rest, late = first ++ next :: rest →
      (next.apply (after capsule (call :: first))).1 ≠ .ok ()) :
    after capsule (call :: late) = (call.apply capsule).2 := by
  rw [after, run_cons]
  apply run_unchanged
  intro first next rest order
  exact failed_call_keeps (failed first next rest order)

theorem Installs.signed {capsule : CapsulePill} {call : CapsuleCall}
    (installs : call.Installs capsule) : (call.apply capsule).2.SignedFrom capsule call := by
  obtain ⟨⟨alg, signature, signatureLen, rfl⟩, ok⟩ := installs
  rcases set_signature_cases capsule alg signature signatureLen with ⟨err, failed⟩ | ⟨_, signed⟩
  · rw [apply, failed] at ok
    cases ok
  · exact signed

/-- A capsule that is signed after a call was signed by it, or was so before and the call
failed. -/
theorem signed_since (capsule : CapsulePill) (call : CapsuleCall)
    (signed : 0 < (step capsule call).1.signatureLen) :
    call.Installs capsule ∨
      (0 < capsule.signatureLen ∧ ¬ (call.apply capsule).1 = .ok ()) := by
  rcases apply_cases capsule call with ⟨err, kept⟩ | ⟨_, dropped⟩ | installs
  · right
    rw [step, kept] at signed
    rw [kept]
    exact ⟨signed, by simp⟩
  · rw [step, dropped] at signed
    exact absurd signed (by decide)
  · exact Or.inl installs

end CapsuleCall

open CapsuleCall

/-- Whatever calls follow a `capsule_pill_init`, a capsule with a signature still has the
signature that was installed last and the signed fields it had then, and a call that fails
changes nothing. -/
theorem signed_capsule_unaltered :
    (∀ (memory : CapsulePill) (calls : List CapsuleCall),
      0 < (after memory (.init :: calls)).signatureLen →
      ∃ early call late, calls = early ++ call :: late ∧
        call.Installs (after memory (.init :: early)) ∧
        (∀ first next rest, late = first ++ next :: rest →
          ¬ next.Installs (after memory (.init :: early ++ call :: first))) ∧
        (after memory (.init :: calls)).SignedFrom (after memory (.init :: early)) call) ∧
    ∀ (capsule : CapsulePill) (call : CapsuleCall), (call.apply capsule).1 ≠ .ok () →
      (call.apply capsule).2 = capsule := by
  refine ⟨?_, fun _ _ => failed_call_keeps⟩
  intro memory calls signed
  have unsigned : ¬ 0 < (capsulePillInit memory).signatureLen := lt_irrefl 0
  obtain ⟨early, call, late, split, installs, quiet⟩ := established_since step
    (fun capsule => 0 < capsule.signatureLen) (fun capsule call => call.Installs capsule)
    (fun capsule call => (call.apply capsule).1 = .ok ()) signed_since unsigned calls signed
  refine ⟨early, call, late, split, installs, ?_, ?_⟩
  · intro first next rest order installsAgain
    exact quiet first next rest order installsAgain.2
  · -- Behind the installed signature every call failed, so the capsule is the one it left.
    have installed : call.Installs (after memory (.init :: early)) := installs
    have left : after memory (.init :: calls) =
        (call.apply (after memory (.init :: early))).2 := by
      have kept := @failed_calls_keep (after memory (.init :: early)) call late (by
        intro first next rest order
        have failed := quiet first next rest order
        rw [run_append] at failed
        exact failed)
      rw [← kept, split, after, ← List.cons_append, run_append]
      rfl
    rw [left]
    exact installed.signed

def benchConfigure : CapsuleCall :=
  .configure 1 1000 2000 (some (List.Vector.replicate 16 7)) (some (List.Vector.replicate 16 8))
    (some (List.Vector.replicate 16 9))

theorem bench_capsule_unaltered :
    let calls := [benchConfigure, .setActiveHash (some (List.Vector.replicate 32 3)),
      .setSignature 1 (some [0x30, 0x06]) 2, .setSignatureAlg 2]
    (after capsulePillZeroized (.init :: calls)).signatureLen = 2 ∧
      ∃ early call late, calls = early ++ call :: late ∧
        call.Installs (after capsulePillZeroized (.init :: early)) ∧
        (∀ first next rest, late = first ++ next :: rest →
          ¬ next.Installs (after capsulePillZeroized (.init :: early ++ call :: first))) ∧
        (after capsulePillZeroized (.init :: calls)).SignedFrom
          (after capsulePillZeroized (.init :: early)) call :=
  ⟨by decide +kernel, signed_capsule_unaltered.1 capsulePillZeroized _ (by decide +kernel)⟩

end BlindNet
