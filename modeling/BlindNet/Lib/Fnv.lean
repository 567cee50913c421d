import BlindNet.Lib.Checksum
import Mathlib.Tactic.IntervalCases

/-!
# Short tails under FNV-1a

The 32-bit FNV-1a hash mixes in one byte at a time: exclusive or, then a product with the
prime `2^24 + 403`. A single changed byte always shows. So does any change confined to the
last three bytes: two tails of three bytes that bring one state to the same state are equal.
-/

namespace Fnv

set_option autoImplicit false

def step (hash : UInt32) (byte : UInt8) : UInt32 :=
  (hash ^^^ byte.toUInt32) * 16777619

theorem step_tells : Checksum.Tells step :=
  Checksum.xor_mul_tells (show (16777619 : UInt32) * 899433627 = 1 by decide)

/-! ## Differences of states -/

/-- Two states are `gap` apart, modulo the word size. -/
def Apart (first second : UInt32) (gap : Int) : Prop :=
  (2 ^ 32 : Int) ∣ (first.toNat : Int) - second.toNat - gap

theorem Apart.equal {first second : UInt32} (apart : Apart first second 0) : first = second := by
  unfold Apart at apart
  have firstSmall := first.toNat_lt
  have secondSmall := second.toNat_lt
  apply UInt32.toNat_inj.mp
  omega

theorem xor_keeps_high (hash : UInt32) (byte : UInt8) :
    (hash ^^^ byte.toUInt32).toNat / 256 = hash.toNat / 256 := by
  have small := byte.toNat_lt
  have high := @Nat.xor_div_two_pow hash.toNat byte.toNat 8
  rw [UInt32.toNat_xor, UInt8.toNat_toUInt32, high, Nat.div_eq_of_lt small, Nat.xor_zero]

theorem mixed_apart {first second : UInt32} {gap : Int} (apart : Apart first second gap)
    (old new : UInt8) :
    ∃ shift : Int, -510 ≤ shift ∧ shift ≤ 510 ∧
      Apart (first ^^^ old.toUInt32) (second ^^^ new.toUInt32) (gap + shift) := by
  have firstHigh := xor_keeps_high first old
  have secondHigh := xor_keeps_high second new
  unfold Apart at apart ⊢
  exact ⟨(first ^^^ old.toUInt32).toNat - first.toNat -
    ((second ^^^ new.toUInt32).toNat - second.toNat), by omega, by omega, by omega⟩

theorem mixed_once_apart (hash : UInt32) (old new : UInt8) :
    ∃ shift : Int, -255 ≤ shift ∧ shift ≤ 255 ∧
      Apart (hash ^^^ old.toUInt32) (hash ^^^ new.toUInt32) shift := by
  have oldHigh := xor_keeps_high hash old
  have newHigh := xor_keeps_high hash new
  unfold Apart
  exact ⟨(hash ^^^ old.toUInt32).toNat - (hash ^^^ new.toUInt32).toNat,
    by omega, by omega, by omega⟩

theorem product_apart {first second : UInt32} {gap : Int} (apart : Apart first second gap) :
    Apart (first * 16777619) (second * 16777619) (gap * 16777619) := by
  unfold Apart at apart ⊢
  rw [UInt32.toNat_mul, UInt32.toNat_mul, show (16777619 : UInt32).toNat = 16777619 from rfl]
  push_cast
  omega

theorem high_apart {first second : UInt32} {old new : UInt8}
    (same : first ^^^ old.toUInt32 = second ^^^ new.toUInt32) :
    ∃ rest : Int, -255 ≤ rest ∧ rest ≤ 255 ∧ Apart first second rest := by
  have firstHigh := xor_keeps_high first old
  have secondHigh := xor_keeps_high second new
  rw [same] at firstHigh
  unfold Apart
  exact ⟨first.toNat - second.toNat, by omega, by omega, by omega⟩

/-! ## No short cancellation -/

/-- The prime and its square, each reduced modulo `2^32`, split at bit 24. -/
theorem cancellation_split {gap shift rest : Int}
    (cancels : (2 ^ 32 : Int) ∣ (gap * 16777619 + shift) * 16777619 - rest) :
    ∃ carry wrap : Int, 162409 * gap + 403 * shift - rest = carry * 2 ^ 24 ∧
      carry + 38 * gap + shift = wrap * 256 := by
  obtain ⟨quotient, product⟩ := cancels
  have low : (2 ^ 24 : Int) ∣ 162409 * gap + 403 * shift - rest := by omega
  obtain ⟨carry, isCarry⟩ := low
  exact ⟨carry, (carry + 38 * gap + shift) / 256, by omega, by omega⟩

/-- A change of one byte, carried through two products, is never undone by a later change
of one byte on each side and a difference below 256 at the end. -/
theorem no_cancellation {gap shift rest : Int} (gapLow : -255 ≤ gap) (gapHigh : gap ≤ 255)
    (shiftLow : -510 ≤ shift) (shiftHigh : shift ≤ 510) (restLow : -255 ≤ rest)
    (restHigh : rest ≤ 255)
    (cancels : (2 ^ 32 : Int) ∣ (gap * 16777619 + shift) * 16777619 - rest) :
    gap = 0 ∧ shift = 0 := by
  obtain ⟨carry, wrap, low, high⟩ := cancellation_split cancels
  clear cancels
  have carryLow : -2 ≤ carry := by omega
  have carryHigh : carry ≤ 2 := by omega
  obtain ⟨offset, isOffset⟩ : ∃ offset, gap = 103 * carry + offset := ⟨gap - 103 * carry, by omega⟩
  -- 2^24 is a little more than 103 times 162409, so the carry nearly fixes the gap.
  have offsetLow : -3 ≤ offset := by omega
  have offsetHigh : offset ≤ 3 := by omega
  subst isOffset
  interval_cases carry <;> interval_cases offset <;> omega

/-! ## Three bytes -/

theorem mixed_of_step {first second : UInt32} {old new : UInt8}
    (same : step first old = step second new) :
    first ^^^ old.toUInt32 = second ^^^ new.toUInt32 := by
  apply step_tells.state 0
  simpa [step] using same

theorem states_meet {hash : UInt32} {a b c x y z : UInt8}
    (same : step (step (step hash a) b) c = step (step (step hash x) y) z) :
    step hash a = step hash x ∧ step (step hash a) b = step (step hash x) y := by
  obtain ⟨gap, gapLow, gapHigh, mixed⟩ := mixed_once_apart hash a x
  have once : Apart (step hash a) (step hash x) (gap * 16777619) := product_apart mixed
  obtain ⟨shift, shiftLow, shiftHigh, mixedAgain⟩ := mixed_apart once b y
  have twice : Apart (step (step hash a) b) (step (step hash x) y)
      ((gap * 16777619 + shift) * 16777619) := product_apart mixedAgain
  obtain ⟨rest, restLow, restHigh, close⟩ := high_apart (mixed_of_step same)
  have cancels : (2 ^ 32 : Int) ∣ (gap * 16777619 + shift) * 16777619 - rest := by
    unfold Apart at twice close
    omega
  obtain ⟨noGap, noShift⟩ :=
    no_cancellation gapLow gapHigh shiftLow shiftHigh restLow restHigh cancels
  subst noGap noShift
  exact ⟨once.equal, twice.equal⟩

/-- A change confined to the last three bytes always shows in the hash. -/
theorem tail_injective (hash : UInt32) {first second : List UInt8} (firstSize : first.length = 3)
    (secondSize : second.length = 3) (same : first.foldl step hash = second.foldl step hash) :
    first = second := by
  match first, firstSize, second, secondSize with
  | [a, b, c], _, [x, y, z], _ =>
      have sameThird : step (step (step hash a) b) c = step (step (step hash x) y) z := same
      obtain ⟨sameOnce, sameTwice⟩ := states_meet sameThird
      have isFirst : a = x := step_tells.byte hash sameOnce
      rw [sameOnce] at sameTwice
      have isSecond : b = y := step_tells.byte _ sameTwice
      rw [sameOnce, sameTwice] at sameThird
      have isThird : c = z := step_tells.byte _ sameThird
      rw [isFirst, isSecond, isThird]

end Fnv
